import Mathlib.Data.List.Forall2
import StructuralDiff.Proofs.Analysis.Clash
import StructuralDiff.Proofs.Flow.Liveness

/-!
# Reached branches

The branches of a function are nodes of the graph, and its links are edges. An edge is added only when its id
is not taken, so nothing may be lost when the links become edges.

* `Edge.makeId_branch_inj`: the ids of two edges to branches of one owner differ, as long as no kind of branch
  holds an arrow.
* `Fragment.leadsTo_addFlow`: then every link of a function becomes an edge.
* `Fragment.reachesLive_ofFile`: in a file with a single function, the branches that are reached from the owner
  along flow edges are the live ones.
* `Fragment.ReachesLive.resolved`: they still are when the references of the file are resolved.
* `Fragment.not_reachesLive`: this fails when a kind holds an arrow, and when the owner is one of its own
  branches.
-/

namespace StructuralDiff

/-! ### Arrows -/

/-- How often an arrow stands in a text. -/
def arrows : List Char → Nat
  | [] => 0
  | c :: rest => (if c = '-' ∧ rest.head? = some '>' then 1 else 0) + arrows rest

/-- The text holds no arrow. -/
def ArrowFree (text : String) : Prop :=
  arrows text.toList = 0

instance (text : String) : Decidable (ArrowFree text) :=
  inferInstanceAs (Decidable (arrows text.toList = 0))

/-- No arrow goes across the place before a character that is not its second half. -/
theorem arrows_append {a b : List Char} {c : Char} (hc : c ≠ '>') :
    arrows (a ++ c :: b) = arrows a + arrows (c :: b) := by
  induction a with
  | nil => rw [List.nil_append, arrows.eq_1, Nat.zero_add]
  | cons d rest ih =>
    have hhead : (rest ++ c :: b).head? = some '>' ↔ rest.head? = some '>' := by
      cases rest with
      | nil => simpa using hc
      | cons e rest => rfl
    simp only [List.cons_append, arrows.eq_2 d, ih, hhead, Nat.add_assoc]

theorem arrows_cons {a : List Char} {c : Char} (hc : c ≠ '-') : arrows (c :: a) = arrows a := by
  simp [arrows, hc]

theorem arrows_eq_zero {a : List Char} (h : '-' ∉ a) : arrows a = 0 := by
  induction a with
  | nil => rfl
  | cons c rest ih =>
    rw [List.mem_cons, not_or] at h
    rw [arrows_cons (Ne.symm h.1), ih h.2]

/-- A text with a colon and no arrow after the colon does not occur behind an arrow in a text that begins in the
same way. -/
theorem append_ne_arrow {p l l' c : List Char} (hl : arrows l = 0) :
    p ++ ':' :: l ≠ c ++ '-' :: '>' :: (p ++ ':' :: l') := by
  intro h
  have hcount := congrArg arrows h
  rw [arrows_append (by decide), arrows_cons (by decide), hl, arrows_append (by decide), arrows] at hcount
  simp only [List.head?_cons, and_self, if_true] at hcount
  rw [arrows_cons (by decide), arrows_append (by decide), arrows_cons (by decide)] at hcount
  omega

/-- A label holds no arrow, when the kind of its branch does not. -/
theorem Skeleton.arrowFree_of_mem_labels {body : List FlowStmt}
    (hkinds : ∀ site ∈ FlowStmt.blockSites body, ArrowFree site.kind) {label : String}
    (hlabel : label ∈ (ofBody body).labels) : ArrowFree label := by
  obtain ⟨site, hsite, n, -, rfl⟩ := exists_of_mem_labelsFrom hlabel
  rw [sites_ofBody] at hsite
  have hkind : arrows site.kind.toList = 0 := hkinds site hsite
  have hdigits : arrows (Nat.repr n).toList = 0 := arrows_eq_zero (Text.not_mem_repr (by decide) n)
  simp only [ArrowFree, String.toList_append, String.reduceToList, List.append_assoc, List.singleton_append]
  rw [arrows_append (by decide), arrows_cons (by decide), hkind, hdigits]

namespace Edge

/-- **The id of an edge to a branch says its source and the branch**, as long as no label holds an arrow. -/
theorem makeId_branch_inj {stem l l' source source' : String} {flow flow' : FlowType} (hl : ArrowFree l)
    (hl' : ArrowFree l') (h : makeId .calls source (stem ++ ":" ++ l) (some flow) =
      makeId .calls source' (stem ++ ":" ++ l') (some flow')) : source = source' ∧ l = l' := by
  obtain ⟨-, hrest⟩ := source_of_makeId_eq h
  rw [← List.cons_append, ← List.cons_append, ← List.append_assoc, ← List.cons_append, ← List.cons_append,
    ← List.append_assoc] at hrest
  obtain ⟨hends, -⟩ := flowSuffix_inj hrest
  -- The rest of an id behind the arrow of the other one would begin in the middle of a label.
  have hnot {x x' : List Char} {m m' : String} (hm : ArrowFree m) (heq : x ++ '-' :: '>' ::
      (stem.toList ++ ':' :: m.toList) = x' ++ '-' :: '>' :: (stem.toList ++ ':' :: m'.toList))
      (hbegin : x ++ ['-', '>'] <+: x') : False := by
    obtain ⟨c, rfl⟩ := hbegin
    simp only [List.append_assoc, List.append_cancel_left_eq, List.cons_append, List.cons.injEq, true_and,
      List.nil_append] at heq
    exact append_ne_arrow hm heq
  simp only [String.toList_append, String.reduceToList, List.append_assoc, List.singleton_append] at hends
  have hsource : source.toList = source'.toList := by
    rcases arrow_prefix hends with heq | hbegin | hbegin
    · exact heq
    · exact (hnot hl hends hbegin).elim
    · exact (hnot hl' hends.symm hbegin).elim
  simp only [hsource, List.append_cancel_left_eq, List.cons.injEq, true_and] at hends
  exact ⟨String.toList_inj.1 hsource, String.toList_inj.1 hends⟩

end Edge

/-! ### Flow edges -/

namespace Fragment

/-- A flow edge goes from one id to the other. -/
def LeadsTo (fragment : Fragment) (source target : String) : Prop :=
  ∃ edge ∈ fragment.edges, edge.isFlow = true ∧ edge.source = source ∧ edge.target = target

/-- One can get from one id to the other along flow edges. -/
def Reaches (fragment : Fragment) : String → String → Prop :=
  Relation.ReflTransGen fragment.LeadsTo

/-- What the ids of the branches of an owner begin with, up to a colon. -/
def branchStem (fragment : Fragment) (owner : Recorded) : String :=
  fragment.makeId .branch (owner.qualifiedName ++ ":")

/-- Edges have the ids that they should have, and calls are flow edges to branches with the stem, whose labels
hold no arrow. -/
def FlowsInto (stem : String) (fragment : Fragment) : Prop :=
  ∀ edge ∈ fragment.edges, edge.id = Edge.makeId edge.kind edge.source edge.target edge.flowType? ∧
    (edge.kind = .calls → ∃ label flow, ArrowFree label ∧ edge.target = stem ++ ":" ++ label ∧
      edge.flowType? = some flow)

section Edges

variable {fragment : Fragment} {stem : String}

theorem branchIds_eq_map (fragment : Fragment) (owner : Recorded) (labels : List String) :
    fragment.branchIds owner labels = labels.map (fragment.branchStem owner ++ ":" ++ ·) := by
  refine List.map_congr_left fun label _ => ?_
  simp [branchStem, makeId, Node.makeId, String.append_assoc]

/-- An edge without a flow type is no flow edge. -/
theorem leadsTo_addEdge_none {kind : EdgeKind} {source target : String} {callSite : Bool} {a b : String} :
    (fragment.addEdge kind source target none callSite).LeadsTo a b ↔ fragment.LeadsTo a b := by
  rw [addEdge_eq]
  split
  · exact Iff.rfl
  · have hflow : (fragment.edge kind source target none callSite).isFlow = false := by
      rw [Edge.isFlow, flowType?_edge, Option.isSome_none, Bool.and_false]
    simp [LeadsTo, or_and_right, exists_or, hflow]

/-- A flow edge to a branch is added, unless it is there. -/
theorem leadsTo_addEdge (h : fragment.FlowsInto stem) {source label : String} {flow : FlowType}
    (hlabel : ArrowFree label) {a b : String} :
    (fragment.addEdge .calls source (stem ++ ":" ++ label) (some flow) false).LeadsTo a b ↔
      fragment.LeadsTo a b ∨ a = source ∧ b = stem ++ ":" ++ label := by
  rw [addEdge_eq]
  split
  · next htaken =>
    -- The edge with the id has the same source and the same target.
    obtain ⟨edge, hedge, hid⟩ := List.any_eq_true.1 htaken
    rw [beq_iff_eq, (h edge hedge).1] at hid
    have hkind : edge.kind = .calls := (Edge.source_of_makeId_eq hid).1
    obtain ⟨other, otherFlow, hother, htarget, hflow⟩ := (h edge hedge).2 hkind
    rw [hkind, hflow, htarget] at hid
    obtain ⟨hsource, rfl⟩ := Edge.makeId_branch_inj hother hlabel hid
    refine (or_iff_left_of_imp ?_).symm
    rintro ⟨rfl, rfl⟩
    exact ⟨edge, hedge, by rw [Edge.isFlow, hkind, hflow]; rfl, hsource, htarget⟩
  · have hflow : (fragment.edge .calls source (stem ++ ":" ++ label) (some flow) false).isFlow = true := by
      rw [Edge.isFlow, flowType?_edge]
      rfl
    simp only [LeadsTo, List.mem_append, List.mem_singleton, or_and_right, exists_or, exists_eq_left, hflow,
      true_and]
    refine or_congr_right ?_
    rw [Eq.comm, Eq.comm (a := b)]
    rfl

theorem FlowsInto.addEdge (h : fragment.FlowsInto stem) {kind : EdgeKind} {source target : String}
    {flow : Option FlowType} {callSite : Bool} (hcalls : kind = .calls → ∃ label type, ArrowFree label ∧
      target = stem ++ ":" ++ label ∧ flow = some type) :
    (fragment.addEdge kind source target flow callSite).FlowsInto stem := by
  intro edge hedge
  rw [addEdge_eq] at hedge
  split at hedge
  · exact h edge hedge
  · rcases List.mem_append.1 hedge with hold | hnew
    · exact h edge hold
    · rw [List.mem_singleton.1 hnew, flowType?_edge]
      exact ⟨rfl, hcalls⟩

theorem leadsTo_declare {parent child a b : String} :
    (fragment.declare parent child).LeadsTo a b ↔ fragment.LeadsTo a b :=
  leadsTo_addEdge_none

theorem FlowsInto.declare (h : fragment.FlowsInto stem) (parent child : String) :
    (fragment.declare parent child).FlowsInto stem := by
  have hparents (parents : Table String) : FlowsInto stem { fragment with parents } := h
  exact (hparents _).addEdge (by simp)

/-- A branch comes with no flow edge. -/
theorem leadsTo_addBranch {owner : Recorded} {scope label a b : String} {site : Site} :
    (fragment.addBranch owner scope label site).LeadsTo a b ↔ fragment.LeadsTo a b := by
  unfold addBranch
  dsimp only
  split <;> exact leadsTo_declare

theorem FlowsInto.addBranch (h : fragment.FlowsInto stem) (owner : Recorded) (scope label : String)
    (site : Site) : (fragment.addBranch owner scope label site).FlowsInto stem := by
  have hpush (node : Node) : (fragment.push node).FlowsInto stem := h
  unfold Fragment.addBranch
  dsimp only
  split <;> exact (hpush _).declare _ _

/-- **Every link of a skeleton becomes an edge.** The induction carries how many branches there are. -/
theorem leadsTo_addPieces {owner : Recorded} {scope : String} {labels ids later : List String}
    (hlabels : ∀ label ∈ labels, ArrowFree label) (hids : ids = labels.map (stem ++ ":" ++ ·))
    {pieces : List Piece} {n : Nat} (h : fragment.FlowsInto stem) (hscoped : Piece.Scoped n pieces)
    (hn : n + Piece.branchCount pieces ≤ labels.length) :
    (addPieces owner scope ids later pieces fragment).FlowsInto stem ∧
      ∀ a b, (addPieces owner scope ids later pieces fragment).LeadsTo a b ↔
        fragment.LeadsTo a b ∨ ∃ i j, Piece.Joins pieces i j ∧ a = ids.getD i "" ∧ b = ids.getD j "" := by
  induction pieces generalizing fragment later n with
  | nil => exact ⟨h, by simp [addPieces]⟩
  | cons piece rest ih =>
    cases piece with
    | link source target flow =>
      obtain ⟨-, htarget, hrest⟩ := hscoped
      rw [Piece.branchCount_link] at hn
      -- The target is a branch, so its id ends with a label that holds no arrow.
      have hlt : target < labels.length := by omega
      have harrow := hlabels _ (List.getElem_mem hlt)
      have hid : ids.getD target "" = stem ++ ":" ++ labels[target] := by simp [hids, hlt]
      have hadded : (fragment.addEdge .calls (ids.getD source "") (ids.getD target "") (some flow)
          false).FlowsInto stem := h.addEdge fun _ => ⟨labels[target], flow, harrow, hid, rfl⟩
      obtain ⟨hinto, hleads⟩ := ih hadded hrest hn
      refine ⟨hinto, fun a b => ?_⟩
      rw [addPieces, hleads, hid, leadsTo_addEdge h harrow, or_assoc]
      simp only [Piece.joins_link, or_and_right, exists_or, and_assoc, exists_and_left, exists_eq_left, hid]
    | branch site =>
      rw [Piece.branchCount_branch] at hn
      obtain ⟨hinto, hleads⟩ := ih (h.addBranch owner scope (later.headD "") site) hscoped (by omega)
      refine ⟨hinto, fun a b => ?_⟩
      simp only [addPieces, Piece.joins_branch, hleads, leadsTo_addBranch]

/-- The skeleton of a function is added, without the edge to its entry. -/
def addSkeleton (fragment : Fragment) (owner : Recorded) (body : List FlowStmt) : Fragment :=
  addPieces owner (fragment.scopeOf owner.id) (fragment.flowIds owner body) (Skeleton.ofBody body).labels
    (Skeleton.ofBody body).pieces fragment

theorem addFlow_of_some {owner : Recorded} {body : List FlowStmt} {entry : Nat}
    (h : (Skeleton.ofBody body).entry = some entry) : fragment.addFlow owner body =
      (fragment.addSkeleton owner body).addEdge .calls owner.id ((fragment.flowIds owner body).getD entry "")
        (some .next) false := by
  rw [addFlow, h]
  rfl

theorem addFlow_of_none {owner : Recorded} {body : List FlowStmt} (h : (Skeleton.ofBody body).entry = none) :
    fragment.addFlow owner body = fragment.addSkeleton owner body := by
  rw [addFlow, h]
  rfl

/-- **The flow edges of a function are its links and the edge from the owner to its entry.** -/
theorem leadsTo_addFlow {owner : Recorded} {body : List FlowStmt}
    (h : fragment.FlowsInto (fragment.branchStem owner))
    (hlabels : ∀ label ∈ (Skeleton.ofBody body).labels, ArrowFree label) (a b : String) :
    (fragment.addFlow owner body).LeadsTo a b ↔ fragment.LeadsTo a b ∨
      (∃ i j, Piece.Joins (Skeleton.ofBody body).pieces i j ∧
        a = (fragment.flowIds owner body).getD i "" ∧ b = (fragment.flowIds owner body).getD j "") ∨
      ∃ entry ∈ (Skeleton.ofBody body).entry,
        a = owner.id ∧ b = (fragment.flowIds owner body).getD entry "" := by
  obtain ⟨hscoped, hentry⟩ := Skeleton.scoped_ofBody body
  have hids : fragment.flowIds owner body =
      (Skeleton.ofBody body).labels.map (fragment.branchStem owner ++ ":" ++ ·) :=
    branchIds_eq_map fragment owner _
  obtain ⟨hinto, hleads⟩ : (fragment.addSkeleton owner body).FlowsInto (fragment.branchStem owner) ∧
      ∀ a b, (fragment.addSkeleton owner body).LeadsTo a b ↔ fragment.LeadsTo a b ∨ ∃ i j,
        Piece.Joins (Skeleton.ofBody body).pieces i j ∧
          a = (fragment.flowIds owner body).getD i "" ∧ b = (fragment.flowIds owner body).getD j "" :=
    leadsTo_addPieces hlabels hids h hscoped (by rw [Nat.zero_add, Skeleton.length_labels])
  rw [← or_assoc, ← hleads]
  cases hsome : (Skeleton.ofBody body).entry with
  | some entry =>
    have hlt := hentry entry hsome
    have hid : (fragment.flowIds owner body).getD entry "" =
        fragment.branchStem owner ++ ":" ++ (Skeleton.ofBody body).labels[entry] := by
      simp [hids, hlt]
    rw [addFlow_of_some hsome, hid, leadsTo_addEdge hinto (hlabels _ (List.getElem_mem hlt)), ← hid]
    simp
  | none =>
    rw [addFlow_of_none hsome]
    simp

end Edges

/-! ### Paths -/

section Paths

variable {owner : Recorded} {body : List FlowStmt}

/-- The id of the branch with an ordinal is not the id of another branch. -/
theorem getD_flowIds_inj {fragment : Fragment} {i j : Nat} (hi : i < (fragment.flowIds owner body).length)
    (hj : j < (fragment.flowIds owner body).length)
    (h : (fragment.flowIds owner body).getD i "" = (fragment.flowIds owner body).getD j "") : i = j := by
  simp only [List.getD_eq_getElem?_getD, List.getElem?_eq_getElem hi, List.getElem?_eq_getElem hj,
    Option.getD_some] at h
  exact (nodup_flowIds fragment owner body).getElem_inj_iff.1 h

theorem getD_flowIds_mem {fragment : Fragment} {i : Nat} (hi : i < (fragment.flowIds owner body).length) :
    (fragment.flowIds owner body).getD i "" ∈ fragment.flowIds owner body := by
  rw [List.getD_eq_getElem?_getD, List.getElem?_eq_getElem hi, Option.getD_some]
  exact List.getElem_mem hi

theorem length_flowIds (fragment : Fragment) (owner : Recorded) (body : List FlowStmt) :
    (fragment.flowIds owner body).length = (Skeleton.ofBody body).labels.length :=
  List.length_map _

/-- **The branches that are reached from the owner are those that the skeleton reaches from its entry.** -/
theorem reaches_getD_iff {fragment : Fragment} (hfresh : fragment.edges = [])
    (hlabels : ∀ label ∈ (Skeleton.ofBody body).labels, ArrowFree label)
    (howner : owner.id ∉ fragment.flowIds owner body) {i : Nat}
    (hi : i < (fragment.flowIds owner body).length) :
    (fragment.addFlow owner body).Reaches owner.id ((fragment.flowIds owner body).getD i "") ↔
      ∃ entry ∈ (Skeleton.ofBody body).entry,
        Relation.ReflTransGen (Piece.Joins (Skeleton.ofBody body).pieces) entry i := by
  obtain ⟨hscoped, hentries⟩ := Skeleton.scoped_ofBody body
  have hinto : fragment.FlowsInto (fragment.branchStem owner) := by
    rw [FlowsInto, hfresh]
    exact List.forall_mem_nil _
  have hnone (a b : String) : ¬fragment.LeadsTo a b := by
    simp [LeadsTo, hfresh]
  have hleads (a b : String) := leadsTo_addFlow hinto hlabels a b
  simp only [hnone, false_or] at hleads
  constructor
  · -- Each step goes on from the owner or from a branch that the skeleton reaches.
    intro hreaches
    have hall {id : String} (hid : (fragment.addFlow owner body).Reaches owner.id id) :
        id = owner.id ∨ ∃ j < (fragment.flowIds owner body).length,
          id = (fragment.flowIds owner body).getD j "" ∧ ∃ entry ∈ (Skeleton.ofBody body).entry,
            Relation.ReflTransGen (Piece.Joins (Skeleton.ofBody body).pieces) entry j := by
      induction hid with
      | refl => exact .inl rfl
      | tail _ hstep ih =>
        right
        rcases (hleads _ _).1 hstep with ⟨j, k, hlink, rfl, rfl⟩ | ⟨entry, hentry, rfl, rfl⟩
        · obtain ⟨hj, hk⟩ := Piece.lt_of_joins hscoped hlink
          rw [Nat.zero_add, ← Skeleton.length_labels, ← length_flowIds fragment owner] at hj hk
          -- No link starts at the owner, which is no branch of its own.
          obtain hsame | ⟨j', hj', hsame, entry, hentry, hpath⟩ := ih
          · exact absurd (hsame ▸ getD_flowIds_mem hj) howner
          · obtain rfl := getD_flowIds_inj hj hj' hsame
            exact ⟨k, hk, rfl, entry, hentry, hpath.tail hlink⟩
        · refine ⟨entry, ?_, rfl, entry, hentry, .refl⟩
          rw [length_flowIds]
          exact hentries entry hentry
    obtain hsame | ⟨j, hj, hsame, hpath⟩ := hall hreaches
    · exact absurd (hsame ▸ getD_flowIds_mem hi) howner
    · obtain rfl := getD_flowIds_inj hi hj hsame
      exact hpath
  · rintro ⟨entry, hentry, hpath⟩
    have hlinks := hpath.lift ((fragment.flowIds owner body).getD · "") fun a b hlink =>
      (hleads _ _).2 (.inl ⟨a, b, hlink, rfl, rfl⟩)
    exact .head ((hleads _ _).2 (.inr ⟨entry, hentry, rfl, rfl⟩)) hlinks

end Paths

/-- A function adds a branch for each of its sites, and no other node. -/
theorem filter_branch_addFlow (fragment : Fragment) (owner : Recorded) (body : List FlowStmt) :
    (fragment.addFlow owner body).nodes.filter (·.kind == .branch) = fragment.nodes.filter (·.kind == .branch) ++
      List.zipWith (fragment.branchNode owner) (Skeleton.ofBody body).labels (FlowStmt.blockSites body) := by
  have hbranch : ∀ node ∈ List.zipWith (fragment.branchNode owner) (Skeleton.ofBody body).labels
      (FlowStmt.blockSites body), (node.kind == .branch) = true := by
    intro node hnode
    obtain ⟨i, hi, rfl⟩ := List.mem_iff_getElem.1 hnode
    rw [List.getElem_zipWith]
    rfl
  rw [nodes_addFlow, List.filter_append, Skeleton.sites_ofBody, List.filter_eq_self.2 hbranch]

/-- The branches of a function that is added to a fragment are those of its sites, one by one, and those of
live statements are the ones that are reached from the owner. -/
def ReachesLive (fragment : Fragment) (owner : Recorded) (body : List FlowStmt) : Prop :=
  List.Forall₂ (fun node mark => node = fragment.branchNode owner node.name mark.1 ∧
      ((fragment.addFlow owner body).Reaches owner.id node.id ↔ mark.2 = true))
    ((fragment.addFlow owner body).nodes.filter (·.kind == .branch)) (FlowStmt.blockMarks true body)

/-- Where there are neither edges nor branches yet, the branches that are reached are those of live statements. -/
theorem reachesLive_of_fresh {fragment : Fragment} (hedges : fragment.edges = [])
    (hbranches : fragment.nodes.filter (·.kind == .branch) = []) {owner : Recorded} {body : List FlowStmt}
    (hplain : FlowStmt.blockPlainFalls body = true)
    (hkinds : ∀ site ∈ FlowStmt.blockSites body, ArrowFree site.kind)
    (howner : owner.id ∉ fragment.flowIds owner body) : fragment.ReachesLive owner body := by
  have hnodes : (fragment.addFlow owner body).nodes.filter (·.kind == .branch) =
      List.zipWith (fragment.branchNode owner) (Skeleton.ofBody body).labels (FlowStmt.blockSites body) := by
    rw [filter_branch_addFlow, hbranches, List.nil_append]
  have hlabels : (Skeleton.ofBody body).labels.length = (FlowStmt.blockMarks true body).length := by
    rw [Skeleton.length_labels, ← Piece.length_sites, ← Skeleton.sites_eq, Skeleton.sites_ofBody,
      ← FlowStmt.map_fst_blockMarks true, List.length_map]
  -- Nodes and marks are compared at one ordinal, which is that of the branch in the skeleton.
  rw [ReachesLive, hnodes, ← FlowStmt.map_fst_blockMarks true, List.forall₂_iff_get]
  refine ⟨by simp [hlabels], fun i hi hmark => ?_⟩
  have hlt : i < (fragment.flowIds owner body).length := by rwa [length_flowIds, hlabels]
  have hreaches := (reaches_getD_iff hedges (fun _ => Skeleton.arrowFree_of_mem_labels hkinds) howner hlt).trans
    (Skeleton.reaches_iff_live hplain i)
  rw [List.getElem?_eq_getElem hmark, Option.any_some] at hreaches
  have hid : (fragment.flowIds owner body).getD i "" =
      (fragment.branchNode owner (Skeleton.ofBody body).labels[i] (FlowStmt.blockMarks true body)[i].1).id := by
    rw [List.getD_eq_getElem?_getD, List.getElem?_eq_getElem hlt]
    exact List.getElem_map _
  simp only [List.get_eq_getElem, List.getElem_zipWith, List.getElem_map]
  refine ⟨rfl, ?_⟩
  rw [← hid]
  exact hreaches

/-- **In a file with a single function, the branches that are reached from the owner along flow edges are those
of live statements.** -/
theorem reachesLive_ofFile (label : SnapshotLabel) (path : String) (language : Language)
    (source signature : String) (metadata : Metadata) (owner : Recorded) {body : List FlowStmt}
    (hplain : FlowStmt.blockPlainFalls body = true)
    (hkinds : ∀ site ∈ FlowStmt.blockSites body, ArrowFree site.kind)
    (howner : owner.id ∉ (ofFile label path language source signature metadata).flowIds owner body) :
    (ofFile label path language source signature metadata).ReachesLive owner body :=
  reachesLive_of_fresh rfl rfl hplain hkinds howner

/-- An owner that is no branch is not among its branches. -/
theorem not_mem_flowIds {fragment : Fragment} {owner : Recorded} {kind : NodeKind} {name : String}
    (hkind : kind ≠ .branch) (howner : owner.id = fragment.makeId kind name) (body : List FlowStmt) :
    owner.id ∉ fragment.flowIds owner body := by
  intro hmem
  obtain ⟨label, -, hid⟩ := List.mem_map.1 hmem
  exact hkind (Node.makeId_inj.1 (hid.trans howner)).1.symm

/-- A site that says nothing but its kind. -/
def siteOf (kind : String) : Site :=
  { kind, lines := (1, 1), snippet := kind, signature := kind, callee := none }

/-- A file without any text. -/
def blankFile : Fragment :=
  ofFile ⟨"r", "s", "HEAD"⟩ "m.py" .python "" "" .empty

/-- A function that returns from a guarded block and from all sides of a condition. -/
def guardedReturn : List FlowStmt :=
  [.guarded (siteOf "try") [.exit (siteOf "return"), .call (siteOf "call")] [[.plain true]]
    (some [.sequence [.call (siteOf "call")]]),
   .cond (siteOf "if") (some true) [.exit (siteOf "return")] (some [.call (siteOf "call")]),
   .call (siteOf "call")]

theorem reachesLive_guardedReturn : FlowStmt.blockPlainFalls guardedReturn = true ∧
    (∀ site ∈ FlowStmt.blockSites guardedReturn, ArrowFree site.kind) ∧
    "s:Function:m.py:m.f" ∉ blankFile.flowIds ⟨"s:Function:m.py:m.f", "m.f"⟩ guardedReturn ∧
    blankFile.ReachesLive ⟨"s:Function:m.py:m.f", "m.f"⟩ guardedReturn := by
  have hname : "s:Function:m.py:m.f" = blankFile.makeId .function "m.f" := by decide
  have howner : "s:Function:m.py:m.f" ∉ blankFile.flowIds ⟨"s:Function:m.py:m.f", "m.f"⟩ guardedReturn :=
    not_mem_flowIds (by decide) hname guardedReturn
  refine ⟨by decide, by decide, howner, ?_⟩
  exact reachesLive_ofFile _ _ _ _ _ _ _ (by decide) (by decide) howner

/-- Four calls one after the other: the link between the first two has the same id as the one between the last
two. -/
def crossedCalls : List FlowStmt :=
  ["a", "c#0->s:Branch:m.py:m.f::d", "a#0->s:Branch:m.py:m.f::c", "d"].map fun kind => .call (siteOf kind)

/-- Calls that follow a return. -/
def deadCalls : List FlowStmt :=
  [.exit (siteOf "return"), .call (siteOf "call"), .call (siteOf "call")]

/-- A kind with an arrow can hide a link, and an owner that is one of its own branches can lead to dead ones. -/
theorem not_reachesLive :
    (FlowStmt.blockPlainFalls crossedCalls = true ∧
      ¬blankFile.ReachesLive ⟨"s:Function:m.py:m.f", "m.f"⟩ crossedCalls) ∧
    (FlowStmt.blockPlainFalls deadCalls = true ∧
      ¬blankFile.ReachesLive ⟨"s:Branch:m.py:m.f::call#0", "m.f"⟩ deadCalls) := by
  refine ⟨⟨by decide, fun h => ?_⟩, by decide, fun h => ?_⟩
  · obtain ⟨-, hlast⟩ := (List.forall₂_iff_get.1 h).2 3 (by decide) (by decide)
    have hreaches := hlast.2 (by decide)
    have hnone : ∀ edge ∈ (blankFile.addFlow ⟨"s:Function:m.py:m.f", "m.f"⟩ crossedCalls).edges,
        edge.isFlow = true → edge.target ≠ "s:Branch:m.py:m.f::d#0" := by
      decide
    rcases hreaches.cases_tail with hsame | ⟨_, -, edge, hedge, hflow, -, htarget⟩
    · revert hsame
      decide
    · exact hnone edge hedge hflow (htarget.trans (by decide))
  · obtain ⟨-, hlast⟩ := (List.forall₂_iff_get.1 h).2 2 (by decide) (by decide)
    have hdead := hlast.1 (.single (by
      unfold LeadsTo
      decide))
    revert hdead
    decide

/-! ### Resolved references -/

/-- References by name add no node, and no flow edge either. -/
theorem resolved_keeps (fragment : Fragment) :
    fragment.resolved.nodes = fragment.nodes ∧ fragment.resolved.LeadsTo = fragment.LeadsTo := by
  have hfold (pending : List PendingReference) (built : Fragment) :
      (pending.foldl fragment.resolveOne built).nodes = built.nodes ∧
        (pending.foldl fragment.resolveOne built).LeadsTo = built.LeadsTo := by
    induction pending generalizing built with
    | nil => exact ⟨rfl, rfl⟩
    | cons first rest ih =>
      rw [List.foldl_cons, (ih _).1, (ih _).2, resolveOne]
      split
      · exact ⟨nodes_addEdge _ _ _ _ _ _, funext fun a => funext fun b => propext leadsTo_addEdge_none⟩
      · exact ⟨rfl, rfl⟩
  exact hfold _ _

/-- **The branches that are reached stay those of live statements** when references are resolved, those of the
calls among them. -/
theorem ReachesLive.resolved {fragment : Fragment} {owner : Recorded} {body : List FlowStmt}
    (h : fragment.ReachesLive owner body) :
    List.Forall₂ (fun node mark => (fragment.addFlow owner body).resolved.Reaches owner.id node.id ↔ mark.2 = true)
      ((fragment.addFlow owner body).resolved.nodes.filter (·.kind == .branch))
      (FlowStmt.blockMarks true body) := by
  obtain ⟨hnodes, hleads⟩ := (fragment.addFlow owner body).resolved_keeps
  rw [hnodes]
  refine List.Forall₂.imp (fun node mark hmark => ?_) h
  rw [Reaches, hleads]
  exact hmark.2

end Fragment

end StructuralDiff
