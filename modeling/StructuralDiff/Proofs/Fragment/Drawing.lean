import StructuralDiff.Proofs.Flow.Constant
import StructuralDiff.Proofs.Flow.Shape
import StructuralDiff.Proofs.Fragment.Reachability

/-!
# Drawn skeletons

What the graph of a file with a single function looks like. Its edges are the declarations of the branches, the
links of the skeleton and the one from the owner to the entry, so the shape of the skeleton is that of the
graph.

* `Fragment.addPieces_induction`: what branches and links keep, a skeleton keeps.
* `Fragment.Drawn`, `Fragment.drawn_addFlow`: the edges that a function can bring.
* `Fragment.wellDrawn_ofFile`: the branches of a function and the ways in which they are left.
* `Fragment.suppresses_ofFile`: which edges of a condition with a known value are left out.
-/

namespace StructuralDiff

/-! ### What may leave a branch -/

namespace FlowStmt

/-- What a statement says about the flow types of the edges that leave its branch. -/
def Allows (leaves : FlowType → Prop) : FlowStmt → Prop
  | .exit _ => ∀ flow, ¬leaves flow
  | .call _ | .scoped _ _ => ∀ flow, leaves flow → flow = .next
  | .loop _ _ => ∀ flow, leaves flow → flow = .true ∨ flow = .next
  | .cond _ _ _ _ => ¬(leaves .next ∧ leaves .false)
  | .guarded _ _ _ _ | .sequence _ | .plain _ => True

/-- The side of a condition that is not taken gets no edge, but that a condition without an else, which is always
true, may go on with `false` behind a block that does not fall through. -/
def Suppresses (leaves : FlowType → Prop) : FlowStmt → Prop
  | .cond _ truth thenBody elseBody => (truth = some false → ¬leaves .true) ∧
    (truth = some true → leaves .false → elseBody = none ∧ blockFallsThrough thenBody = false)
  | _ => True

variable {leaves : FlowType → Prop} {stmt : FlowStmt}

theorem allows_of_outlets (h : ∀ flow, leaves flow → flow ∈ stmt.outlets) : stmt.Allows leaves := by
  match stmt with
  | .exit _ => exact fun flow hflow => List.not_mem_nil (h flow hflow)
  | .call _ | .scoped _ _ => exact fun flow hflow => List.mem_singleton.1 (h flow hflow)
  | .loop _ _ => exact fun flow hflow => by simpa [outlets] using h flow hflow
  | .cond _ truth thenBody none =>
    rintro ⟨hnext, hfalse⟩
    have hnext := h _ hnext
    have hfalse := h _ hfalse
    cases hfalls : blockFallsThrough thenBody with
    | true => simp [outlets, hfalls] at hfalse
    | false => simp [outlets, hfalls] at hnext
  | .cond _ truth _ (some _) =>
    rintro ⟨hnext, -⟩
    simpa [outlets] using h _ hnext
  | .guarded _ _ _ _ | .sequence _ | .plain _ => trivial

theorem suppresses_of_outlets (h : ∀ flow, flow ≠ .next → leaves flow → flow ∈ stmt.outlets) :
    stmt.Suppresses leaves := by
  match stmt with
  | .cond _ truth thenBody none =>
    refine ⟨?_, ?_⟩
    · rintro rfl htrue
      have htrue := h _ (by decide) htrue
      cases hfalls : blockFallsThrough thenBody <;> simp [outlets, hfalls] at htrue
    · rintro rfl hfalse
      have hfalse := h _ (by decide) hfalse
      cases hfalls : blockFallsThrough thenBody with
      | true => simp [outlets, hfalls] at hfalse
      | false => exact ⟨rfl, rfl⟩
  | .cond _ truth _ (some _) =>
    refine ⟨?_, ?_⟩
    · rintro rfl htrue
      simpa [outlets] using h _ (by decide) htrue
    · rintro rfl hfalse
      simpa [outlets] using h _ (by decide) hfalse
  | .exit _ | .call _ | .scoped _ _ | .loop _ _ | .guarded _ _ _ _ | .sequence _ | .plain _ => trivial

end FlowStmt

namespace Fragment

/-! ### The edges of a function -/

section Edges

variable {fragment : Fragment} {owner : Recorded}

theorem id_edge (kind : EdgeKind) (source target : String) (flow : Option FlowType) (callSite : Bool) :
    (fragment.edge kind source target flow callSite).id = Edge.makeId kind source target flow := rfl

theorem edge_of_grows {a b : Fragment} (h : Grows a b) : b.edge = a.edge := by
  unfold edge
  rw [h.label, h.path]

theorem edges_addEdge (fragment : Fragment) (kind : EdgeKind) (source target : String) (flow : Option FlowType)
    (callSite : Bool) : (fragment.addEdge kind source target flow callSite).edges =
      if fragment.edges.any (·.id == Edge.makeId kind source target flow) then fragment.edges
      else fragment.edges ++ [fragment.edge kind source target flow callSite] := by
  rw [addEdge_eq]
  split <;> rfl

theorem mem_edges_addEdge {kind : EdgeKind} {source target : String} {flow : Option FlowType} {callSite : Bool}
    {edge : Edge} (h : edge ∈ (fragment.addEdge kind source target flow callSite).edges) :
    edge ∈ fragment.edges ∨ edge = fragment.edge kind source target flow callSite := by
  rw [edges_addEdge] at h
  split at h
  · exact .inl h
  · exact (List.mem_append.1 h).imp_right List.mem_singleton.1

/-- The ids of edges stay different. -/
theorem nodup_edges_addEdge (h : (fragment.edges.map (·.id)).Nodup) (kind : EdgeKind) (source target : String)
    (flow : Option FlowType) (callSite : Bool) :
    ((fragment.addEdge kind source target flow callSite).edges.map (·.id)).Nodup := by
  rw [edges_addEdge]
  split
  · exact h
  · next hnew =>
    rw [List.any_eq_true] at hnew
    rw [List.map_append, List.nodup_append]
    refine ⟨h, List.nodup_singleton _, ?_⟩
    rintro id hid other hother rfl
    obtain ⟨edge, hedge, rfl⟩ := List.mem_map.1 hid
    rw [List.map_singleton, List.mem_singleton] at hother
    exact hnew ⟨edge, hedge, beq_iff_eq.2 hother⟩

theorem parents_addEdge (fragment : Fragment) (kind : EdgeKind) (source target : String) (flow : Option FlowType)
    (callSite : Bool) : (fragment.addEdge kind source target flow callSite).parents = fragment.parents := by
  rw [addEdge_eq]
  split <;> rfl

theorem edges_addBranch (scope label : String) (site : Site) :
    (fragment.addBranch owner scope label site).edges = (fragment.addEdge .declares owner.id
      (fragment.makeId .branch (owner.qualifiedName ++ "::" ++ label)) none false).edges := by
  unfold addBranch
  dsimp only
  split
  all_goals
    rw [edges_addEdge]
    exact edges_addEdge _ _ _ _ _ _

theorem parents_addBranch (scope label : String) (site : Site) :
    (fragment.addBranch owner scope label site).parents = fragment.parents.insert
      (fragment.makeId .branch (owner.qualifiedName ++ "::" ++ label)) owner.id := by
  unfold addBranch
  dsimp only
  split <;> exact parents_addEdge _ _ _ _ _ _

/-- **What each branch and each link keeps, a skeleton keeps.** -/
theorem addPieces_induction {P : Fragment → Prop} {scope : String} {ids labels : List String}
    {pieces : List Piece} (hlabels : labels.length = Piece.branchCount pieces)
    (hbranch : ∀ built, Grows fragment built → P built → ∀ label ∈ labels, ∀ site,
      P (built.addBranch owner scope label site))
    (hlink : ∀ built, Grows fragment built → P built → ∀ source target flow,
      Piece.link source target flow ∈ pieces →
        P (built.addEdge .calls (ids.getD source "") (ids.getD target "") (some flow) false))
    (h : P fragment) : P (addPieces owner scope ids labels pieces fragment) := by
  -- the pieces and labels that remain are some of all of them, and there are as many labels as branches
  have hall {later : List String} {rest : List Piece} {built : Fragment} (hgrows : Grows fragment built)
      (hbuilt : P built) (hlater : later ⊆ labels) (hrest : rest ⊆ pieces)
      (hcount : later.length = Piece.branchCount rest) : P (addPieces owner scope ids later rest built) := by
    induction rest generalizing later built with
    | nil => exact hbuilt
    | cons piece rest ih =>
      cases piece with
      | link source target flow =>
        obtain ⟨hpiece, hrest⟩ := List.cons_subset.1 hrest
        rw [Piece.branchCount_link] at hcount
        exact ih (hgrows.trans (grows_addEdge _ _ _ _ _ _)) (hlink built hgrows hbuilt _ _ _ hpiece) hlater
          hrest hcount
      | branch site =>
        obtain ⟨-, hrest⟩ := List.cons_subset.1 hrest
        rw [Piece.branchCount_branch] at hcount
        cases later with
        | nil => cases hcount
        | cons label later =>
          obtain ⟨hlabel, hlater⟩ := List.cons_subset.1 hlater
          exact ih (hgrows.trans (grows_addBranch _ _ _ _ _)) (hbranch built hgrows hbuilt label hlabel site)
            hlater hrest (Nat.succ.inj hcount)
  exact hall (.refl fragment) h (List.Subset.refl _) (List.Subset.refl _) hlabels

/-! ### Declarations -/

/-- The symbol declares the node. -/
def Declares (fragment : Fragment) (parent child : String) : Prop :=
  fragment.parentOf? child = some parent ∧
    ∃ edge ∈ fragment.edges, edge.kind = .declares ∧ edge.source = parent ∧ edge.target = child

/-- The node has the parent, and the id of the edge that declares it is taken. -/
def HasDeclaration (fragment : Fragment) (parent child : String) : Prop :=
  fragment.parentOf? child = some parent ∧
    ∃ edge ∈ fragment.edges, edge.id = Edge.makeId .declares parent child none

theorem subset_edges_addEdge (kind : EdgeKind) (source target : String) (flow : Option FlowType)
    (callSite : Bool) : fragment.edges ⊆ (fragment.addEdge kind source target flow callSite).edges := by
  rw [edges_addEdge]
  split
  · exact List.Subset.refl _
  · exact List.subset_append_left _ _

theorem exists_mem_edges_addEdge (kind : EdgeKind) (source target : String) (flow : Option FlowType)
    (callSite : Bool) : ∃ edge ∈ (fragment.addEdge kind source target flow callSite).edges,
      edge.id = Edge.makeId kind source target flow := by
  rw [edges_addEdge]
  split
  · next htaken =>
    obtain ⟨edge, hedge, hid⟩ := List.any_eq_true.1 htaken
    exact ⟨edge, hedge, beq_iff_eq.1 hid⟩
  · exact ⟨_, List.mem_append_right _ (List.mem_singleton_self _), rfl⟩

variable {parent child : String}

theorem HasDeclaration.addEdge (h : fragment.HasDeclaration parent child) (kind : EdgeKind)
    (source target : String) (flow : Option FlowType) (callSite : Bool) :
    (fragment.addEdge kind source target flow callSite).HasDeclaration parent child := by
  obtain ⟨hparent, edge, hedge, hid⟩ := h
  refine ⟨?_, edge, subset_edges_addEdge _ _ _ _ _ hedge, hid⟩
  rw [parentOf?, parents_addEdge]
  exact hparent

/-- All branches have the same parent, so declaring one of them again changes nothing. -/
theorem HasDeclaration.addBranch (h : fragment.HasDeclaration owner.id child) (scope label : String)
    (site : Site) : (fragment.addBranch owner scope label site).HasDeclaration owner.id child := by
  obtain ⟨hparent, edge, hedge, hid⟩ := h
  refine ⟨?_, edge, ?_, hid⟩
  · rw [parentOf?, parents_addBranch, Table.get?_insert]
    split
    · rfl
    · exact hparent
  · rw [edges_addBranch]
    exact subset_edges_addEdge _ _ _ _ _ hedge

theorem hasDeclaration_addBranch (scope label : String) (site : Site) :
    (fragment.addBranch owner scope label site).HasDeclaration owner.id
      (fragment.makeId .branch (owner.qualifiedName ++ "::" ++ label)) := by
  refine ⟨?_, ?_⟩
  · rw [parentOf?, parents_addBranch, Table.get?_insert, if_pos rfl]
  · rw [edges_addBranch]
    exact exists_mem_edges_addEdge _ _ _ _ _

theorem hasDeclaration_addPieces {scope : String} {ids labels : List String} {pieces : List Piece}
    (hlabels : labels.length = Piece.branchCount pieces) :
    ∀ id ∈ fragment.branchIds owner labels,
      (addPieces owner scope ids labels pieces fragment).HasDeclaration owner.id id := by
  induction pieces generalizing labels fragment with
  | nil =>
    rw [List.length_eq_zero_iff.1 hlabels]
    exact List.forall_mem_nil _
  | cons piece rest ih =>
    cases piece with
    | link source target flow =>
      rw [Piece.branchCount_link] at hlabels
      rw [← branchIds_of_grows (grows_addEdge fragment _ _ _ _ _) owner labels]
      exact ih hlabels
    | branch site =>
      rw [Piece.branchCount_branch] at hlabels
      cases labels with
      | nil => cases hlabels
      | cons label later =>
        have hlater := Nat.succ.inj hlabels
        have hgrows := grows_addBranch fragment owner scope label site
        rw [branchIds, List.map_cons, List.forall_mem_cons, addPieces, List.headD_cons, List.tail_cons]
        refine ⟨?_, ?_⟩
        · refine addPieces_induction (P := (HasDeclaration · owner.id _)) hlater ?_ ?_
            (hasDeclaration_addBranch scope label site)
          · exact fun _ _ h label _ site => h.addBranch scope label site
          · exact fun _ _ h source target flow _ => h.addEdge _ _ _ _ _
        · change ∀ id ∈ fragment.branchIds owner later, _
          rw [← branchIds_of_grows hgrows owner later]
          exact ih hlater

/-! ### Everything a function brings -/

/-- The edges that a function can bring. -/
inductive Drawn (fragment : Fragment) (owner : Recorded) (body : List FlowStmt) : Edge → Prop
  | declares {id : String} (hid : id ∈ fragment.flowIds owner body) :
    Drawn fragment owner body (fragment.edge .declares owner.id id none false)
  | link {source target : Nat} {flow : FlowType}
    (hlink : Piece.link source target flow ∈ (Skeleton.ofBody body).pieces) :
    Drawn fragment owner body (fragment.edge .calls ((fragment.flowIds owner body).getD source "")
      ((fragment.flowIds owner body).getD target "") (some flow) false)
  | entry {entry : Nat} (hentry : (Skeleton.ofBody body).entry = some entry) :
    Drawn fragment owner body
      (fragment.edge .calls owner.id ((fragment.flowIds owner body).getD entry "") (some .next) false)

variable {body : List FlowStmt}

/-- So far only what a function can bring has been added, and no id of an edge is repeated. -/
structure Drawing (fragment : Fragment) (owner : Recorded) (body : List FlowStmt) (built : Fragment) : Prop where
  drawn : ∀ edge ∈ built.edges, Drawn fragment owner body edge
  nodup : (built.edges.map (·.id)).Nodup

theorem Drawing.addEdge {built : Fragment} (h : Drawing fragment owner body built) (hgrows : Grows fragment built)
    {kind : EdgeKind} {source target : String} {flow : Option FlowType}
    (hdrawn : Drawn fragment owner body (fragment.edge kind source target flow false)) :
    Drawing fragment owner body (built.addEdge kind source target flow false) where
  drawn edge hmem := by
    rcases mem_edges_addEdge hmem with hold | rfl
    · exact h.drawn edge hold
    · rwa [edge_of_grows hgrows]
  nodup := nodup_edges_addEdge h.nodup _ _ _ _ _

theorem length_labels_ofBody (body : List FlowStmt) :
    (Skeleton.ofBody body).labels.length = Piece.branchCount (Skeleton.ofBody body).pieces :=
  Skeleton.length_labels _

theorem drawing_addSkeleton (hfresh : fragment.edges = []) :
    Drawing fragment owner body (fragment.addSkeleton owner body) := by
  refine addPieces_induction (P := Drawing fragment owner body) (length_labels_ofBody body)
    (fun built hgrows h label hlabel site => ?_)
    (fun built hgrows h source target flow hlink => h.addEdge hgrows (.link hlink)) ?_
  · -- what a branch brings besides its node is its declaration
    have hdeclared := h.addEdge hgrows (.declares (List.mem_map_of_mem hlabel))
    constructor
    · rw [edges_addBranch, hgrows.makeId]
      exact hdeclared.drawn
    · rw [edges_addBranch, hgrows.makeId]
      exact hdeclared.nodup
  · constructor
    · rw [hfresh]
      exact List.forall_mem_nil _
    · rw [hfresh]
      exact List.nodup_nil

/-- **A function brings declarations of its branches, its links and the edge to its entry**, and no id of an edge
is repeated. -/
theorem drawn_addFlow (hfresh : fragment.edges = []) :
    (∀ edge ∈ (fragment.addFlow owner body).edges, Drawn fragment owner body edge) ∧
      ((fragment.addFlow owner body).edges.map (·.id)).Nodup ∧
      ∀ id ∈ fragment.flowIds owner body, (fragment.addFlow owner body).HasDeclaration owner.id id := by
  have hdrawing : Drawing fragment owner body (fragment.addSkeleton owner body) := drawing_addSkeleton hfresh
  have hdeclared : ∀ id ∈ fragment.flowIds owner body,
      (fragment.addSkeleton owner body).HasDeclaration owner.id id :=
    hasDeclaration_addPieces (length_labels_ofBody body)
  cases hentry : (Skeleton.ofBody body).entry with
  | some entry =>
    rw [addFlow_of_some hentry]
    obtain ⟨hdrawn, hnodup⟩ := hdrawing.addEdge (grows_addPieces _ _ _ _ _ _) (.entry hentry)
    exact ⟨hdrawn, hnodup, fun id hid => (hdeclared id hid).addEdge _ _ _ _ _⟩
  | none =>
    rw [addFlow_of_none hentry]
    exact ⟨hdrawing.drawn, hdrawing.nodup, hdeclared⟩

/-- The id of a declaration says what is declared. -/
theorem declares_addFlow (hfresh : fragment.edges = []) {id : String} (hid : id ∈ fragment.flowIds owner body) :
    (fragment.addFlow owner body).Declares owner.id id := by
  obtain ⟨hdrawn, -, hdeclared⟩ := @drawn_addFlow fragment owner body hfresh
  obtain ⟨hparent, edge, hedge, hsame⟩ := hdeclared id hid
  refine ⟨hparent, edge, hedge, ?_⟩
  cases hdrawn edge hedge with
  | @declares other hother =>
    rw [id_edge] at hsame
    obtain ⟨-, hends⟩ := Edge.source_of_makeId_eq hsame
    have htarget : other = id := String.toList_inj.1 (by simpa [Edge.flowSuffix] using hends)
    exact ⟨rfl, rfl, htarget⟩
  | link | entry =>
    rw [id_edge] at hsame
    cases (Edge.source_of_makeId_eq hsame).1

/-- Flow edges are links or lead to the entry. -/
theorem flow_of_drawn {edge : Edge} (h : Drawn fragment owner body edge) (hflow : edge.isFlow = true) :
    (∃ source target flow, Piece.link source target flow ∈ (Skeleton.ofBody body).pieces ∧
      edge = fragment.edge .calls ((fragment.flowIds owner body).getD source "")
        ((fragment.flowIds owner body).getD target "") (some flow) false) ∨
    ∃ entry, (Skeleton.ofBody body).entry = some entry ∧ edge =
      fragment.edge .calls owner.id ((fragment.flowIds owner body).getD entry "") (some .next) false := by
  cases h with
  | declares =>
    rw [Edge.isFlow, flowType?_edge, Option.isSome_none, Bool.and_false] at hflow
    cases hflow
  | link hlink => exact .inl ⟨_, _, _, hlink, rfl⟩
  | entry hentry => exact .inr ⟨_, hentry, rfl⟩

end Edges

/-! ### The branches of a function -/

/-- The branches, in order. -/
def branches (fragment : Fragment) : List Node :=
  fragment.nodes.filter (·.kind == .branch)

section Branches

variable {fragment : Fragment} {owner : Recorded} {body : List FlowStmt}

theorem branches_addFlow (hfresh : fragment.branches = []) : (fragment.addFlow owner body).branches =
    (FlowStmt.blockSites body).mapIdx fun i site =>
      fragment.branchNode owner (Skeleton.branchName (FlowStmt.blockSites body) i site) site := by
  rw [branches] at hfresh
  rw [branches, filter_branch_addFlow, hfresh, List.nil_append]
  refine List.ext_getElem? fun i => ?_
  rw [List.getElem?_zipWith, Skeleton.getElem?_labels, List.getElem?_mapIdx]
  cases (FlowStmt.blockSites body)[i]? <;> rfl

theorem map_id_branches (hfresh : fragment.branches = []) :
    (fragment.addFlow owner body).branches.map (·.id) = fragment.flowIds owner body := by
  rw [branches_addFlow hfresh]
  refine List.ext_getElem? fun i => ?_
  rw [flowIds, branchIds, List.getElem?_map, List.getElem?_map, Skeleton.getElem?_labels, List.getElem?_mapIdx]
  cases (FlowStmt.blockSites body)[i]? <;> rfl

/-- A flow edge with a type leaves a node. -/
def Leaves (fragment : Fragment) (id : String) (flow : FlowType) : Prop :=
  ∃ edge ∈ fragment.edges, edge.isFlow = true ∧ edge.source = id ∧ edge.flowType? = some flow

/-- The flow edges with a type that leave a node. -/
def leaving (fragment : Fragment) (id : String) (flow : FlowType) : List Edge :=
  fragment.edges.filter fun edge => edge.isFlow && edge.source == id && edge.flowType? == some flow

/-- The id of a branch, by its ordinal. -/
def branchId? (fragment : Fragment) (i : Nat) : Option String :=
  fragment.branches[i]?.map (·.id)

/-- What a function looks like that is added to a fragment: it has a branch for each of its sites, declared by the
owner and named after its kind and the number of earlier sites of this kind; flow edges lead from the owner to the
first branch, or from a branch to a later one, and form no cycle; each branch is left as its statement allows,
which is the one at its site (`FlowStmt.map_site?_blockBranching`); and no branch is left twice with the same flow
type, but for a guarded block that leads to its handlers. -/
structure WellDrawn (fragment : Fragment) (owner : Recorded) (body : List FlowStmt) : Prop where
  branches : (fragment.addFlow owner body).branches = (FlowStmt.blockSites body).mapIdx fun i site =>
    fragment.branchNode owner (Skeleton.branchName (FlowStmt.blockSites body) i site) site
  declared : ∀ node ∈ (fragment.addFlow owner body).branches,
    (fragment.addFlow owner body).Declares owner.id node.id
  flow : ∀ edge ∈ (fragment.addFlow owner body).edges, edge.isFlow = true →
    (edge.source = owner.id ∧ (fragment.addFlow owner body).branchId? 0 = some edge.target) ∨
    ∃ i j, i < j ∧ (fragment.addFlow owner body).branchId? i = some edge.source ∧
      (fragment.addFlow owner body).branchId? j = some edge.target
  acyclic : ∀ id, ¬Relation.TransGen (fragment.addFlow owner body).LeadsTo id id
  leaves : List.Forall₂ (fun node stmt => stmt.Allows ((fragment.addFlow owner body).Leaves node.id))
    (fragment.addFlow owner body).branches (FlowStmt.blockBranching body)
  once : List.Forall₂ (fun node stmt => ∀ flow, (stmt.isGuarded && flow == .false) = false →
      ((fragment.addFlow owner body).leaving node.id flow).length ≤ 1)
    (fragment.addFlow owner body).branches (FlowStmt.blockBranching body)

/-- The branches of a function and the statements behind them are as many, and their ids are given. -/
theorem forall₂_branches (hfresh : fragment.branches = []) {P : String → FlowStmt → Prop}
    (h : ∀ i stmt, (FlowStmt.blockBranching body)[i]? = some stmt → i < (fragment.flowIds owner body).length →
      P ((fragment.flowIds owner body).getD i "") stmt) :
    List.Forall₂ (fun node stmt => P node.id stmt) (fragment.addFlow owner body).branches
      (FlowStmt.blockBranching body) := by
  have hlength : (fragment.flowIds owner body).length = (FlowStmt.blockBranching body).length := by
    rw [length_flowIds, FlowStmt.length_blockBranching, Skeleton.length_labels, ← Piece.length_sites,
      ← Skeleton.sites_eq, Skeleton.sites_ofBody]
  have hids : List.Forall₂ P (fragment.flowIds owner body) (FlowStmt.blockBranching body) := by
    refine List.forall₂_iff_get.2 ⟨hlength, fun i hi hi' => ?_⟩
    have hat := h i _ (List.getElem?_eq_getElem hi') hi
    rwa [List.getD_eq_getElem?_getD, List.getElem?_eq_getElem hi] at hat
  rwa [← map_id_branches hfresh, List.forall₂_map_left_iff] at hids

theorem lt_length_of_link {source target : Nat} {flow : FlowType}
    (h : Piece.link source target flow ∈ (Skeleton.ofBody body).pieces) :
    source < (fragment.flowIds owner body).length ∧ target < (fragment.flowIds owner body).length := by
  rw [length_flowIds, Skeleton.length_labels]
  simpa using Piece.lt_of_joins (Skeleton.scoped_ofBody body).1 ⟨flow, h⟩

/-- A flow edge from a branch is a link, unless the branch is the owner of all. -/
theorem exists_link (hfresh : fragment.edges = []) {i : Nat} (hi : i < (fragment.flowIds owner body).length)
    {edge : Edge} (hedge : edge ∈ (fragment.addFlow owner body).edges) (hflow : edge.isFlow = true)
    (hsource : edge.source = (fragment.flowIds owner body).getD i "")
    (howner : owner.id ∉ fragment.flowIds owner body ∨ edge.flowType? ≠ some .next) :
    ∃ target flow, Piece.link i target flow ∈ (Skeleton.ofBody body).pieces ∧
      edge = fragment.edge .calls ((fragment.flowIds owner body).getD i "")
        ((fragment.flowIds owner body).getD target "") (some flow) false := by
  obtain ⟨source, target, flow, hlink, rfl⟩ | ⟨entry, -, rfl⟩ :=
    flow_of_drawn ((drawn_addFlow hfresh).1 edge hedge) hflow
  · obtain rfl := getD_flowIds_inj (lt_length_of_link hlink).1 hi hsource
    exact ⟨target, flow, hlink, rfl⟩
  · rcases howner with howner | hnext
    · have hmem := getD_flowIds_mem hi
      rw [← hsource] at hmem
      exact absurd hmem howner
    · exact absurd (flowType?_edge _ _ _ _ _ _) hnext

/-- A branch is left as its statement lets it. -/
theorem mem_outlets_of_leaves (hfresh : fragment.edges = []) {i : Nat}
    (hi : i < (fragment.flowIds owner body).length) {stmt : FlowStmt}
    (hstmt : (FlowStmt.blockBranching body)[i]? = some stmt) {flow : FlowType}
    (howner : owner.id ∉ fragment.flowIds owner body ∨ flow ≠ .next)
    (h : (fragment.addFlow owner body).Leaves ((fragment.flowIds owner body).getD i "") flow) :
    flow ∈ stmt.outlets := by
  obtain ⟨edge, hedge, hflow, hsource, htype⟩ := h
  obtain ⟨target, other, hlink, rfl⟩ := exists_link hfresh hi hedge hflow hsource
    (howner.imp_right fun hne heq => hne (Option.some.inj (htype.symm.trans heq)))
  rw [flowType?_edge] at htype
  obtain rfl := Option.some.inj htype
  obtain ⟨-, ⟨stmt', hstmt', hmem⟩, -⟩ := Skeleton.wired_ofBody body hlink
  obtain rfl := Option.some.inj (hstmt.symm.trans hstmt')
  exact hmem

theorem length_le_one_of_nodup {α : Type} {l : List α} (hnodup : l.Nodup) (h : ∀ a ∈ l, ∀ b ∈ l, a = b) :
    l.length ≤ 1 := by
  match l with
  | [] => exact Nat.zero_le 1
  | [_] => exact Nat.le_refl 1
  | a :: b :: rest =>
    have hab := h a (by simp) b (by simp)
    simp [hab] at hnodup

/-- A branch is left once with each flow type, unless it leads to handlers. -/
theorem length_leaving_le_one (hfresh : fragment.edges = []) (howner : owner.id ∉ fragment.flowIds owner body)
    {i : Nat} (hi : i < (fragment.flowIds owner body).length) {stmt : FlowStmt}
    (hstmt : (FlowStmt.blockBranching body)[i]? = some stmt) {flow : FlowType}
    (hguarded : (stmt.isGuarded && flow == .false) = false) :
    ((fragment.addFlow owner body).leaving ((fragment.flowIds owner body).getD i "") flow).length ≤ 1 := by
  have hlink {edge : Edge} (hedge : edge ∈ (fragment.addFlow owner body).leaving
      ((fragment.flowIds owner body).getD i "") flow) :
      ∃ target, Piece.link i target flow ∈ (Skeleton.ofBody body).pieces ∧
        edge = fragment.edge .calls ((fragment.flowIds owner body).getD i "")
          ((fragment.flowIds owner body).getD target "") (some flow) false := by
    simp only [leaving, List.mem_filter, Bool.and_eq_true, beq_iff_eq] at hedge
    obtain ⟨hmem, ⟨hflow, hsource⟩, htype⟩ := hedge
    obtain ⟨target, other, hlink, rfl⟩ := exists_link hfresh hi hmem hflow hsource (.inl howner)
    rw [flowType?_edge] at htype
    obtain rfl := Option.some.inj htype
    exact ⟨target, hlink, rfl⟩
  refine length_le_one_of_nodup ?_ fun a ha b hb => ?_
  · exact ((drawn_addFlow hfresh).2.1.of_map _).filter _
  · obtain ⟨target, hlinkA, rfl⟩ := hlink ha
    obtain ⟨other, hlinkB, rfl⟩ := hlink hb
    obtain ⟨-, -, honce⟩ := Skeleton.wired_ofBody body hlinkA
    rcases honce other hlinkB with rfl | ⟨rfl, stmt', hstmt', hfans⟩
    · rfl
    · obtain rfl := Option.some.inj (hstmt.symm.trans hstmt')
      simp [hfans] at hguarded

/-- Flow edges lead from the owner or from a branch to a later branch. -/
theorem exists_lt_of_flow (hfresh : fragment.edges = []) {edge : Edge}
    (hedge : edge ∈ (fragment.addFlow owner body).edges) (hflow : edge.isFlow = true) :
    (edge.source = owner.id ∧ (fragment.flowIds owner body)[0]? = some edge.target) ∨
      ∃ i j : Nat, i < j ∧ (fragment.flowIds owner body)[i]? = some edge.source ∧
        (fragment.flowIds owner body)[j]? = some edge.target := by
  have hat {i : Nat} (hi : i < (fragment.flowIds owner body).length) :
      (fragment.flowIds owner body)[i]? = some ((fragment.flowIds owner body).getD i "") := by
    rw [List.getD_eq_getElem?_getD, List.getElem?_eq_getElem hi, Option.getD_some]
  obtain ⟨source, target, flow, hlink, rfl⟩ | ⟨entry, hentry, rfl⟩ :=
    flow_of_drawn ((drawn_addFlow hfresh).1 edge hedge) hflow
  · obtain ⟨hsource, htarget⟩ := @lt_length_of_link fragment owner body _ _ _ hlink
    exact .inr ⟨source, target, (Skeleton.wired_ofBody body hlink).1, hat hsource, hat htarget⟩
  · have hlt := (Skeleton.scoped_ofBody body).2 entry hentry
    rw [← length_flowIds fragment owner] at hlt
    rw [Skeleton.entry_ofBody, Option.map_eq_some_iff] at hentry
    obtain ⟨-, -, rfl⟩ := hentry
    exact .inl ⟨rfl, hat hlt⟩

/-- **Flow edges form no cycle**: the owner and its branches stand in a row, and each edge leads further on. -/
theorem not_transGen_leadsTo (hfresh : fragment.edges = []) (howner : owner.id ∉ fragment.flowIds owner body)
    (id : String) : ¬Relation.TransGen (fragment.addFlow owner body).LeadsTo id id := by
  have hnodup : (owner.id :: fragment.flowIds owner body).Nodup :=
    List.nodup_cons.2 ⟨howner, nodup_flowIds fragment owner body⟩
  have hrank {i : Nat} {id : String} (h : (owner.id :: fragment.flowIds owner body)[i]? = some id) :
      (owner.id :: fragment.flowIds owner body).idxOf id = i := by
    obtain ⟨hi, rfl⟩ := List.getElem?_eq_some_iff.1 h
    exact hnodup.idxOf_getElem i hi
  have hstep {a b : String} (h : (fragment.addFlow owner body).LeadsTo a b) :
      (owner.id :: fragment.flowIds owner body).idxOf a < (owner.id :: fragment.flowIds owner body).idxOf b := by
    obtain ⟨edge, hedge, hflow, rfl, rfl⟩ := h
    rcases exists_lt_of_flow hfresh hedge hflow with ⟨hsource, htarget⟩ | ⟨i, j, hij, hsource, htarget⟩
    · rw [hsource, hrank (i := 0) rfl, hrank (i := 1) htarget]
      exact Nat.zero_lt_one
    · rw [hrank (i := i + 1) hsource, hrank (i := j + 1) htarget]
      exact Nat.succ_lt_succ hij
  have hpath {a b : String} (h : Relation.TransGen (fragment.addFlow owner body).LeadsTo a b) :
      (owner.id :: fragment.flowIds owner body).idxOf a < (owner.id :: fragment.flowIds owner body).idxOf b := by
    induction h with
    | single h => exact hstep h
    | tail _ h ih => exact Nat.lt_trans ih (hstep h)
  exact fun h => Nat.lt_irrefl _ (hpath h)

theorem wellDrawn_of_fresh (hedges : fragment.edges = []) (hbranches : fragment.branches = [])
    (howner : owner.id ∉ fragment.flowIds owner body) : fragment.WellDrawn owner body := by
  have hids (i : Nat) : (fragment.addFlow owner body).branchId? i = (fragment.flowIds owner body)[i]? := by
    rw [branchId?, ← map_id_branches hbranches, List.getElem?_map]
  refine ⟨branches_addFlow hbranches, fun node hnode => ?_, fun edge hedge hflow => ?_,
    not_transGen_leadsTo hedges howner, ?_, ?_⟩
  · refine declares_addFlow hedges ?_
    rw [← map_id_branches hbranches]
    exact List.mem_map_of_mem hnode
  · simp only [hids]
    exact exists_lt_of_flow hedges hedge hflow
  · refine forall₂_branches (P := fun id stmt => stmt.Allows ((fragment.addFlow owner body).Leaves id))
      hbranches fun i stmt hstmt hi => FlowStmt.allows_of_outlets fun flow hleaves => ?_
    exact mem_outlets_of_leaves hedges hi hstmt (.inl howner) hleaves
  · exact forall₂_branches (P := fun id stmt => ∀ flow, (stmt.isGuarded && flow == .false) = false →
      ((fragment.addFlow owner body).leaving id flow).length ≤ 1) hbranches
        fun i stmt hstmt hi flow hguarded => length_leaving_le_one hedges howner hi hstmt hguarded

/-- Conditions that are always true and have no else might as well be unknown. -/
theorem addFlow_forget (owner : Recorded) (body : List FlowStmt) :
    fragment.addFlow owner (FlowStmt.blockForget body) = fragment.addFlow owner body := by
  rw [addFlow, Skeleton.ofBody_forget]
  rfl

theorem suppresses_of_fresh (hedges : fragment.edges = []) (hbranches : fragment.branches = []) :
    List.Forall₂ (fun node stmt => stmt.Suppresses ((fragment.addFlow owner body).Leaves node.id))
      (fragment.addFlow owner body).branches (FlowStmt.blockBranching body) := by
  refine forall₂_branches (P := fun id stmt => stmt.Suppresses ((fragment.addFlow owner body).Leaves id))
    hbranches fun i stmt hstmt hi => FlowStmt.suppresses_of_outlets fun flow hnext hleaves => ?_
  exact mem_outlets_of_leaves hedges hi hstmt (.inr hnext) hleaves

end Branches

/-! ### A file with a single function -/

section File

variable (label : SnapshotLabel) (path : String) (language : Language) (source signature : String)
  (metadata : Metadata) (owner : Recorded) (body : List FlowStmt)

/-- **A function in a file of its own is well drawn**, when its owner is not one of its own branches. -/
theorem wellDrawn_ofFile
    (howner : owner.id ∉ (ofFile label path language source signature metadata).flowIds owner body) :
    (ofFile label path language source signature metadata).WellDrawn owner body :=
  wellDrawn_of_fresh rfl rfl howner

end File

/-- A function with a loop in a guarded block, an empty handler, and a constant condition in the loop. -/
def nestedFlow : List FlowStmt :=
  [.cond (siteOf "if") none [.call (siteOf "call")] none,
   .guarded (siteOf "try")
     [.loop (siteOf "for") [.call (siteOf "call"),
       .cond (siteOf "if") (some true) [.exit (siteOf "return")] (some [.plain true])]]
     [[.plain true], [.scoped (siteOf "with") [.sequence [], .call (siteOf "call")]]]
     (some [.cond (siteOf "if") none [.exit (siteOf "raise")] none]),
   .exit (siteOf "return")]

theorem wellDrawn_nestedFlow :
    "s:Function:m.py:m.f" ∉ blankFile.flowIds ⟨"s:Function:m.py:m.f", "m.f"⟩ nestedFlow ∧
      blankFile.WellDrawn ⟨"s:Function:m.py:m.f", "m.f"⟩ nestedFlow := by
  have hname : "s:Function:m.py:m.f" = blankFile.makeId .function "m.f" := by decide
  have howner : "s:Function:m.py:m.f" ∉ blankFile.flowIds ⟨"s:Function:m.py:m.f", "m.f"⟩ nestedFlow :=
    not_mem_flowIds (by decide) hname nestedFlow
  exact ⟨howner, wellDrawn_ofFile _ _ _ _ _ _ _ _ howner⟩

/-- An owner that is one of its own branches is entered from itself, which is a cycle. -/
theorem not_wellDrawn :
    ¬blankFile.WellDrawn ⟨"s:Branch:m.py:m.f::return#0", "m.f"⟩ [.exit (siteOf "return")] := by
  intro h
  refine h.acyclic "s:Branch:m.py:m.f::return#0" (.single ?_)
  unfold LeadsTo
  decide

/-! ### Conditions with a known value -/

section File

variable (label : SnapshotLabel) (path : String) (language : Language) (source signature : String)
  (metadata : Metadata) (owner : Recorded) (body : List FlowStmt)

/-- **The side of a condition that cannot be taken gets no edge**, but that a condition without an else may be left
with `false` behind a block that does not fall through, even when it is always true. That such a condition is
always true makes no difference to the graph. -/
theorem suppresses_ofFile : List.Forall₂ (fun node stmt => stmt.Suppresses
      (((ofFile label path language source signature metadata).addFlow owner body).Leaves node.id))
    ((ofFile label path language source signature metadata).addFlow owner body).branches
    (FlowStmt.blockBranching body) ∧
    (ofFile label path language source signature metadata).addFlow owner (FlowStmt.blockForget body) =
      (ofFile label path language source signature metadata).addFlow owner body :=
  ⟨suppresses_of_fresh rfl rfl, addFlow_forget owner body⟩

end File

/-- A condition that is always true, whose block returns, and a call behind it. -/
def alwaysReturns : List FlowStmt :=
  [.cond (siteOf "if") (some true) [.exit (siteOf "return")] none, .call (siteOf "call")]

/-- The call is reached with `false` from the condition that is always true. -/
theorem not_suppresses_alwaysReturns :
    ¬List.Forall₂ (fun node stmt => ∀ site thenBody elseBody, stmt = .cond site (some true) thenBody elseBody →
        ¬(blankFile.addFlow ⟨"s:Function:m.py:m.f", "m.f"⟩ alwaysReturns).Leaves node.id .false)
      (blankFile.addFlow ⟨"s:Function:m.py:m.f", "m.f"⟩ alwaysReturns).branches
      (FlowStmt.blockBranching alwaysReturns) := by
  intro h
  obtain ⟨-, hall⟩ := List.forall₂_iff_get.1 h
  refine hall 0 (by decide) (by decide) _ _ _ rfl ?_
  unfold Leaves
  decide

end Fragment

end StructuralDiff
