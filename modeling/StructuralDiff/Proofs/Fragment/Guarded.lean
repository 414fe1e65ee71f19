import StructuralDiff.Proofs.Flow.Guarded
import StructuralDiff.Proofs.Fragment.Drawing

/-!
# Reached guarded blocks

A guarded block that is reached from the owner of its function leads into its body and into its handlers. What is
done after them receives their exits, so it is reached when one of them completes, and only then.

* `Edge.Honest`: an edge that has the id of a flow edge to a branch is this edge.
* `Fragment.leadsTo_of_joins`: then each link of a function is an edge of the graph, whatever the graph holds already.
* `Fragment.reachesBranch_guarded`: the blocks that a reached guarded block leads to.
* `Fragment.completes_of_reachesBranch`: what is done after a guarded block is reached in no other way.
* `Fragment.not_entersBlocks`: it is not reached when the body returns, and a kind that holds an arrow can hide
  the link into the body.
-/

namespace StructuralDiff

/-! ### Links as edges -/

/-- Whatever flow edge to a branch with the stem the id of the edge stands for, the edge is this one. -/
def Edge.Honest (stem : String) (edge : Edge) : Prop :=
  ∀ source label flow, ArrowFree label → edge.id = Edge.makeId .calls source (stem ++ ":" ++ label) (some flow) →
    edge.isFlow = true ∧ edge.source = source ∧ edge.target = stem ++ ":" ++ label

namespace Fragment

section Links

variable {fragment : Fragment} {owner : Recorded} {body : List FlowStmt} {stem : String}

theorem honest_edge_declares (parent child : String) :
    (fragment.edge .declares parent child none false).Honest stem := by
  intro source label flow _ hid
  rw [id_edge] at hid
  cases (Edge.source_of_makeId_eq hid).1

theorem honest_edge_calls {label : String} (hlabel : ArrowFree label) (source : String) (flow : FlowType) :
    (fragment.edge .calls source (stem ++ ":" ++ label) (some flow) false).Honest stem := by
  intro source' label' flow' hlabel' hid
  obtain ⟨rfl, rfl⟩ := Edge.makeId_branch_inj hlabel hlabel' hid
  refine ⟨?_, rfl, rfl⟩
  rw [Edge.isFlow, flowType?_edge]
  rfl

/-- Adding honest edges keeps all edges honest. -/
theorem honest_addEdge (h : ∀ edge ∈ fragment.edges, edge.Honest stem) {kind : EdgeKind} {source target : String}
    {flow : Option FlowType} (hnew : (fragment.edge kind source target flow false).Honest stem) :
    ∀ edge ∈ (fragment.addEdge kind source target flow false).edges, edge.Honest stem := by
  intro edge hedge
  rcases mem_edges_addEdge hedge with hold | rfl
  · exact h edge hold
  · exact hnew

theorem getD_flowIds {i : Nat} (hi : i < (fragment.flowIds owner body).length) :
    ∃ label ∈ (Skeleton.ofBody body).labels,
      (fragment.flowIds owner body).getD i "" = fragment.branchStem owner ++ ":" ++ label := by
  have hids : fragment.flowIds owner body = _ := branchIds_eq_map fragment owner _
  have hmem := getD_flowIds_mem hi
  rw [hids] at hmem
  obtain ⟨label, hlabel, hid⟩ := List.mem_map.1 hmem
  exact ⟨label, hlabel, by rw [hids, hid]⟩

theorem honest_addSkeleton (h : ∀ edge ∈ fragment.edges, edge.Honest (fragment.branchStem owner))
    (hkinds : ∀ site ∈ FlowStmt.blockSites body, ArrowFree site.kind) :
    ∀ edge ∈ (fragment.addSkeleton owner body).edges, edge.Honest (fragment.branchStem owner) := by
  refine addPieces_induction (P := fun built => ∀ edge ∈ built.edges, edge.Honest (fragment.branchStem owner))
    (Skeleton.length_labels _) ?_ ?_ h
  · intro built _ hbuilt label _ site
    rw [edges_addBranch]
    exact honest_addEdge hbuilt (honest_edge_declares _ _)
  · intro built _ hbuilt source target flow hlink
    have hlt : target < (fragment.flowIds owner body).length := (lt_length_of_link hlink).2
    obtain ⟨label, hlabel, hid⟩ := getD_flowIds hlt
    rw [hid]
    exact honest_addEdge hbuilt (honest_edge_calls (Skeleton.arrowFree_of_mem_labels hkinds hlabel) _ _)

/-- The id of each link is taken by an edge. -/
theorem exists_edge_addPieces {scope : String} {ids labels : List String} {pieces : List Piece}
    (hlabels : labels.length = Piece.branchCount pieces) {source target : Nat} {flow : FlowType}
    (hlink : Piece.link source target flow ∈ pieces) :
    ∃ edge ∈ (addPieces owner scope ids labels pieces fragment).edges,
      edge.id = Edge.makeId .calls (ids.getD source "") (ids.getD target "") (some flow) := by
  induction pieces generalizing fragment labels with
  | nil => cases hlink
  | cons piece rest ih =>
    cases piece with
    | branch site =>
      rw [Piece.branchCount_branch] at hlabels
      obtain ⟨label, later, rfl⟩ := List.exists_cons_of_length_eq_add_one hlabels
      exact ih (Nat.succ.inj hlabels) (List.mem_of_ne_of_mem (by simp) hlink)
    | link a b other =>
      rw [Piece.branchCount_link] at hlabels
      rcases List.mem_cons.1 hlink with heq | hlink
      · -- From here on the edges only become more.
        cases heq
        rw [addPieces]
        refine addPieces_induction (P := fun built => ∃ edge ∈ built.edges, edge.id =
          Edge.makeId .calls (ids.getD source "") (ids.getD target "") (some flow)) hlabels ?_ ?_
          (exists_mem_edges_addEdge _ _ _ _ _)
        · rintro built - ⟨edge, hedge, hid⟩ label - site
          rw [edges_addBranch]
          exact ⟨edge, subset_edges_addEdge _ _ _ _ _ hedge, hid⟩
        · rintro built - ⟨edge, hedge, hid⟩ _ _ _ -
          exact ⟨edge, subset_edges_addEdge _ _ _ _ _ hedge, hid⟩
      · exact ih hlabels hlink

theorem edges_addFlow_subset : (fragment.addSkeleton owner body).edges ⊆ (fragment.addFlow owner body).edges := by
  cases hentry : (Skeleton.ofBody body).entry with
  | some entry =>
    rw [addFlow_of_some hentry]
    exact subset_edges_addEdge _ _ _ _ _
  | none =>
    rw [addFlow_of_none hentry]
    exact List.Subset.refl _

/-- **Each link of a function is an edge of the graph**, when the edges that are there are honest. -/
theorem leadsTo_of_joins (h : ∀ edge ∈ fragment.edges, edge.Honest (fragment.branchStem owner))
    (hkinds : ∀ site ∈ FlowStmt.blockSites body, ArrowFree site.kind) {i j : Nat}
    (hlink : Piece.Joins (Skeleton.ofBody body).pieces i j) : (fragment.addFlow owner body).LeadsTo
      ((fragment.flowIds owner body).getD i "") ((fragment.flowIds owner body).getD j "") := by
  obtain ⟨flow, hlink⟩ := hlink
  have hlt : j < (fragment.flowIds owner body).length := (lt_length_of_link hlink).2
  obtain ⟨label, hlabel, htarget⟩ := getD_flowIds hlt
  obtain ⟨edge, hedge, hid⟩ : ∃ edge ∈ (fragment.addSkeleton owner body).edges, edge.id = Edge.makeId .calls
      ((fragment.flowIds owner body).getD i "") ((fragment.flowIds owner body).getD j "") (some flow) :=
    exists_edge_addPieces (Skeleton.length_labels _) hlink
  rw [htarget] at hid ⊢
  exact ⟨edge, edges_addFlow_subset hedge,
    honest_addSkeleton h hkinds edge hedge _ _ _ (Skeleton.arrowFree_of_mem_labels hkinds hlabel) hid⟩

end Links

/-! ### Reached blocks -/

/-- The branch of a function with the ordinal `i` is reached from the owner. The branches come behind the nodes that
are there already. -/
def ReachesBranch (fragment : Fragment) (owner : Recorded) (body : List FlowStmt) (i : Nat) : Prop :=
  ∃ node, (fragment.addFlow owner body).nodes[fragment.nodes.length + i]? = some node ∧
    (fragment.addFlow owner body).Reaches owner.id node.id

/-- A guarded block that is reached leads into each of its blocks. -/
def EntersBlocks (fragment : Fragment) (owner : Recorded) (body : List FlowStmt) : Prop :=
  ∀ i site inner handlers finalBody,
    (FlowStmt.blockBranching body)[i]? = some (.guarded site inner handlers finalBody) →
    fragment.ReachesBranch owner body i →
    (∀ j ∈ FlowStmt.entries (i + 1) (inner :: handlers), fragment.ReachesBranch owner body j) ∧
      ∀ j ∈ FlowStmt.finalEntry i inner handlers finalBody, fragment.ReachesBranch owner body j

section Guarded

variable {fragment : Fragment} {owner : Recorded} {body : List FlowStmt}

theorem reachesBranch_iff {i : Nat} : fragment.ReachesBranch owner body i ↔
    i < (fragment.flowIds owner body).length ∧
      (fragment.addFlow owner body).Reaches owner.id ((fragment.flowIds owner body).getD i "") := by
  have hids : (fragment.addFlow owner body).nodes[fragment.nodes.length + i]?.map (·.id) =
      (fragment.flowIds owner body)[i]? := by
    have hnodes := congrArg (·[fragment.nodes.length + i]?) (nodeIds_addFlow fragment owner body)
    dsimp only [nodeIds] at hnodes
    rw [List.getElem?_map] at hnodes
    rw [hnodes, List.getElem?_append_right (by simp), List.length_map, Nat.add_sub_cancel_left]
  rw [List.getD_eq_getElem?_getD, ← hids, ReachesBranch]
  constructor
  · rintro ⟨node, hnode, hreached⟩
    rw [hnode, Option.map_some] at hids ⊢
    exact ⟨(List.getElem?_eq_some_iff.1 hids.symm).1, hreached⟩
  · rintro ⟨hlt, hreached⟩
    rw [List.getElem?_eq_getElem hlt] at hids
    obtain ⟨node, hnode, -⟩ := Option.map_eq_some_iff.1 hids
    rw [hnode, Option.map_some] at hreached
    exact ⟨node, hnode, hreached⟩

/-- What the skeleton leads to from a reached branch is reached. -/
theorem ReachesBranch.trans (h : ∀ edge ∈ fragment.edges, edge.Honest (fragment.branchStem owner))
    (hkinds : ∀ site ∈ FlowStmt.blockSites body, ArrowFree site.kind) {i j : Nat}
    (hreached : fragment.ReachesBranch owner body i)
    (hpath : Relation.ReflTransGen (Piece.Joins (Skeleton.ofBody body).pieces) i j) :
    fragment.ReachesBranch owner body j := by
  induction hpath with
  | refl => exact hreached
  | tail _ hlink ih =>
    obtain ⟨-, hreached⟩ := reachesBranch_iff.1 ih
    obtain ⟨flow, hlink⟩ := hlink
    exact reachesBranch_iff.2 ⟨(lt_length_of_link hlink).2,
      hreached.tail (leadsTo_of_joins h hkinds ⟨flow, hlink⟩)⟩

variable {i : Nat} {site : Site} {inner : List FlowStmt} {handlers : List (List FlowStmt)}
  {finalBody : Option (List FlowStmt)}

/-- A statement of a function as a part of it. -/
theorem isPart_ofBody (hplain : FlowStmt.blockPlainFalls body = true) {stmt : FlowStmt}
    (hstmt : (FlowStmt.blockBranching body)[i]? = some stmt) :
    FlowStmt.IsPart (Piece.Joins (Skeleton.ofBody body).pieces)
      (fun i => (FlowStmt.blockMarks true body)[i]?.any (·.2) = true) i stmt := by
  have hpart := FlowStmt.isPart_blockBranching (n := 0)
    ⟨hplain, ⟨none, [], fun _ _ hlink => hlink⟩, true, Skeleton.agrees_marks [] _⟩ hstmt
  rwa [Nat.zero_add] at hpart

/-- **A guarded block that is reached leads into its body and into each of its handlers, and to what is done after
them** when one of them completes. -/
theorem reachesBranch_guarded (hhonest : ∀ edge ∈ fragment.edges, edge.Honest (fragment.branchStem owner))
    (hplain : FlowStmt.blockPlainFalls body = true)
    (hkinds : ∀ site ∈ FlowStmt.blockSites body, ArrowFree site.kind)
    (hstmt : (FlowStmt.blockBranching body)[i]? = some (.guarded site inner handlers finalBody))
    (hreached : fragment.ReachesBranch owner body i) :
    (∀ j ∈ FlowStmt.entries (i + 1) (inner :: handlers), fragment.ReachesBranch owner body j) ∧
      ((FlowStmt.blockCompletes inner || FlowStmt.anyCompletes handlers) = true →
        ∀ j ∈ FlowStmt.finalEntry i inner handlers finalBody, fragment.ReachesBranch owner body j) := by
  have hpart := isPart_ofBody hplain hstmt
  obtain ⟨hinner, hfinal⟩ := FlowStmt.reflTransGen_guarded (n := i) hpart.plain
  refine ⟨fun j hj => ?_, fun hcompletes j hj => ?_⟩
  · exact hreached.trans hhonest hkinds (Relation.ReflTransGen.mono hpart.links _ _ (hinner j hj))
  · exact hreached.trans hhonest hkinds (Relation.ReflTransGen.mono hpart.links _ _ (hfinal hcompletes j hj))

/-- **What is done after a guarded block is reached in no other way**, in a file with a single function. -/
theorem completes_of_reachesBranch (hfresh : fragment.edges = [])
    (hplain : FlowStmt.blockPlainFalls body = true)
    (hkinds : ∀ site ∈ FlowStmt.blockSites body, ArrowFree site.kind)
    (howner : owner.id ∉ fragment.flowIds owner body)
    (hstmt : (FlowStmt.blockBranching body)[i]? = some (.guarded site inner handlers finalBody)) {j : Nat}
    (hj : FlowStmt.finalEntry i inner handlers finalBody = some j)
    (hreached : fragment.ReachesBranch owner body j) :
    (FlowStmt.blockCompletes inner || FlowStmt.anyCompletes handlers) = true := by
  obtain ⟨hplain', -, live, hagrees⟩ := isPart_ofBody hplain hstmt
  obtain ⟨hlt, hreached⟩ := reachesBranch_iff.1 hreached
  have hlive := ((reaches_getD_iff hfresh (fun _ => Skeleton.arrowFree_of_mem_labels hkinds) howner hlt).trans
    (Skeleton.reaches_iff_live hplain j)).1 hreached
  obtain ⟨hiff, -⟩ := FlowStmt.live_finalEntry hplain' hagrees hj
  exact (Bool.and_eq_true_iff.1 (hiff.1 hlive)).2

end Guarded

/-- The branch of a statement that nothing leads to is not reached. -/
theorem not_reachesBranch {fragment : Fragment} {owner : Recorded} {body : List FlowStmt} {i : Nat}
    (howner : owner.id ≠ (fragment.flowIds owner body).getD i "")
    (hnone : ∀ edge ∈ (fragment.addFlow owner body).edges, edge.isFlow = true →
      edge.target ≠ (fragment.flowIds owner body).getD i "") : ¬fragment.ReachesBranch owner body i := by
  intro hreached
  rcases (reachesBranch_iff.1 hreached).2.cases_tail with hsame | ⟨_, -, edge, hedge, hflow, -, htarget⟩
  · exact howner hsame.symm
  · exact hnone edge hedge hflow htarget

/-- A guarded block that returns in its body and goes on from its handler. -/
def handledReturn : List FlowStmt :=
  [.guarded (siteOf "try") [.exit (siteOf "return")] [[.plain true, .call (siteOf "call")]]
    (some [.scoped (siteOf "with") [.exit (siteOf "return")]])]

/-- The function of a blank file. -/
def blankOwner : Recorded :=
  ⟨"s:Function:m.py:m.f", "m.f"⟩

theorem reachesBranch_handledReturn :
    (∀ edge ∈ blankFile.edges, edge.Honest (blankFile.branchStem blankOwner)) ∧
    FlowStmt.blockPlainFalls handledReturn = true ∧
    (∀ site ∈ FlowStmt.blockSites handledReturn, ArrowFree site.kind) ∧
    blankFile.ReachesBranch blankOwner handledReturn 0 ∧
    FlowStmt.entries 1 [[.exit (siteOf "return")], [.plain true, .call (siteOf "call")]] = [1, 2] ∧
    FlowStmt.finalEntry 0 [.exit (siteOf "return")] [[.plain true, .call (siteOf "call")]]
      (some [.scoped (siteOf "with") [.exit (siteOf "return")]]) = some 3 ∧
    ∀ j ∈ [1, 2, 3], blankFile.ReachesBranch blankOwner handledReturn j := by
  have hhonest : ∀ edge ∈ blankFile.edges, edge.Honest (blankFile.branchStem blankOwner) :=
    List.forall_mem_nil _
  have hreached : blankFile.ReachesBranch blankOwner handledReturn 0 :=
    reachesBranch_iff.2 ⟨by decide, .single (by unfold LeadsTo; decide)⟩
  obtain ⟨hinner, hfinal⟩ := reachesBranch_guarded hhonest (by decide) (by decide) (i := 0) rfl hreached
  refine ⟨hhonest, by decide, by decide, hreached, by decide, by decide, ?_⟩
  simp only [List.mem_cons, List.not_mem_nil, or_false, forall_eq_or_imp, forall_eq]
  exact ⟨hinner 1 (by decide), hinner 2 (by decide), hfinal (by decide) 3 rfl⟩

/-- A guarded block that returns, and a call after it. -/
def returnedFinally : List FlowStmt :=
  [.guarded (siteOf "try") [.exit (siteOf "return")] [] (some [.call (siteOf "call")])]

/-- A guarded block whose link to its body has the same id as the link between two calls before it. -/
def crossedGuard : List FlowStmt :=
  [.call (siteOf "a"), .call (siteOf "c#0->s:Branch:m.py:m.f::d"),
   .guarded (siteOf "a#0->s:Branch:m.py:m.f::c") [.call (siteOf "d")] [] none]

/-- What is done after a guarded block that returns is not reached, and a kind with an arrow can hide the link
into a body. -/
theorem not_entersBlocks :
    (FlowStmt.blockPlainFalls returnedFinally = true ∧ ¬blankFile.EntersBlocks blankOwner returnedFinally) ∧
    (FlowStmt.blockPlainFalls crossedGuard = true ∧ ¬blankFile.EntersBlocks blankOwner crossedGuard) := by
  refine ⟨⟨by decide, fun h => ?_⟩, by decide, fun h => ?_⟩
  · have hreached : blankFile.ReachesBranch blankOwner returnedFinally 0 :=
      reachesBranch_iff.2 ⟨by decide, .single (by unfold LeadsTo; decide)⟩
    exact not_reachesBranch (by decide) (by decide) ((h 0 _ _ _ _ rfl hreached).2 2 rfl)
  · have hfirst : (blankFile.addFlow blankOwner crossedGuard).LeadsTo blankOwner.id
        ((blankFile.flowIds blankOwner crossedGuard).getD 0 "") := by
      unfold LeadsTo
      decide
    have hnext : ∀ i < 2, (blankFile.addFlow blankOwner crossedGuard).LeadsTo
        ((blankFile.flowIds blankOwner crossedGuard).getD i "")
        ((blankFile.flowIds blankOwner crossedGuard).getD (i + 1) "") := by
      unfold LeadsTo
      decide
    have hreached : blankFile.ReachesBranch blankOwner crossedGuard 2 :=
      reachesBranch_iff.2 ⟨by decide, ((Relation.ReflTransGen.single hfirst).tail (hnext 0 (by decide))).tail
        (hnext 1 (by decide))⟩
    exact not_reachesBranch (by decide) (by decide) ((h 2 _ _ _ _ rfl hreached).1 3 (by decide))

end Fragment

end StructuralDiff
