import StructuralDiff.Proofs.Delta.Correspondence
import StructuralDiff.Proofs.Name

/-!
# When nothing has changed

A delta is empty exactly when the two snapshots have the same nodes up to key and signature and the same
edges up to key, counted with their multiplicity. Ids, positions, the order of the lists and the numbers in
line suffixes are in none of these, so a snapshot that differs in them alone has not changed.

* `nodes_unchanged_iff`, `edges_unchanged_iff`: when no node and no edge has changed.
* `Snapshot.Moved.nodes_perm`, `Snapshot.Moved.edges_perm`: moving code changes neither of the two.
* `nodeStatus?_self`, `edgeStatus?_self`, `counterpart?_self`: a snapshot compared with itself.
* `between_isEmpty_iff`: all of this for `Delta.between`.
-/

open scoped List

namespace StructuralDiff

namespace Delta

theorem isEmpty_iff {delta : Delta} : delta.isEmpty = true ↔
    (∀ id status, delta.nodeStatus? id = some status → status = .unchanged) ∧
      (∀ id status, delta.edgeStatus? id = some status → status = .unchanged) := by
  have htable : ∀ table : Table Status, table.toList.all (!·.2.isChanged) = true ↔
      ∀ id status, table.get? id = some status → status = .unchanged := by
    intro table
    simp only [List.all_eq_true, Prod.forall, Table.mem_toList, Status.isChanged, Bool.not_eq_true',
      bne_eq_false_iff_eq]
  rw [isEmpty, Bool.and_eq_true, htable, htable]
  rfl

/-! ### Nodes -/

section Nodes

variable {old new : Snapshot}

/-- No node is left over under a key when the two sides have as many nodes of each signature. -/
theorem left_eq_nil_iff {old new : List Node} :
    (Pairing.ofSides old new).oldLeft = [] ∧ (Pairing.ofSides old new).newLeft = [] ↔
      ∀ s, old.countP (·.signature = s) = new.countP (·.signature = s) := by
  constructor
  · rintro ⟨hold, hnew⟩ s
    have ho := Pairing.countP_signature_oldLeft old new s
    have hn := Pairing.countP_signature_newLeft old new s
    rw [hold, List.countP_nil] at ho
    rw [hnew, List.countP_nil] at hn
    omega
  · intro hcount
    constructor
    · refine List.eq_nil_iff_forall_not_mem.mpr fun o ho => ?_
      have hpos : 0 < (Pairing.ofSides old new).oldLeft.countP (·.signature = o.signature) :=
        List.countP_pos_iff.mpr ⟨o, ho, by simp⟩
      rw [Pairing.countP_signature_oldLeft, hcount] at hpos
      omega
    · refine List.eq_nil_iff_forall_not_mem.mpr fun n hn => ?_
      have hpos : 0 < (Pairing.ofSides old new).newLeft.countP (·.signature = n.signature) :=
        List.countP_pos_iff.mpr ⟨n, hn, by simp⟩
      rw [Pairing.countP_signature_newLeft, hcount] at hpos
      omega

/-- Nothing but unchanged nodes means that no node is left over under any key. -/
theorem nodes_unchanged_iff_left (h : Separate old new) :
    (∀ id status, (between old new).nodeStatus? id = some status → status = .unchanged) ↔
      ∀ key, (pairingUnder old new key).oldLeft = [] ∧ (pairingUnder old new key).newLeft = [] := by
  constructor
  · intro hall key
    have hunchanged : ∀ id, id ∈ old.nodeIds ∨ id ∈ new.nodeIds →
        (between old new).nodeStatus? id = some .unchanged := by
      intro id hid
      obtain ⟨status, hstatus⟩ := Option.isSome_iff_exists.mp
        ((Table.mem_keys _ id).mp (mem_nodeStatus_keys.mpr hid))
      rw [← hall id status hstatus]
      exact hstatus
    constructor
    · refine List.eq_nil_iff_forall_not_mem.mpr fun o ho => nodeStatus?_ne_of_mem_oldLeft h ho ?_
      exact hunchanged o.id (.inl (List.mem_map_of_mem (mem_old_side.mp (.inr ho)).1))
    · refine List.eq_nil_iff_forall_not_mem.mpr fun n hn => nodeStatus?_ne_of_mem_newLeft h hn ?_
      exact hunchanged n.id (.inr (List.mem_map_of_mem (mem_new_side.mp (.inr hn)).1))
  · intro hleft id status hstatus
    obtain ⟨key, hkey⟩ := (nodeStatus?_eq_some_iff h).mp hstatus
    exact (Pairing.exists_unchanged_of_left_eq_nil (hleft key).1 (hleft key).2 hkey).2

theorem count_keyed (nodes : List Node) (key : NodeKey) (s : Option String) :
    (nodes.map fun node => (node.key, node.signature)).count (key, s) =
      (nodes.filter (·.key = key)).countP (·.signature = s) := by
  rw [countP_under, List.count, List.countP_map]
  refine List.countP_congr fun node _ => ?_
  simp

/-- **No node has changed exactly when the snapshots have the same nodes up to key and signature.** -/
theorem nodes_unchanged_iff (h : Separate old new) :
    (∀ id status, (between old new).nodeStatus? id = some status → status = .unchanged) ↔
      (old.nodes.map fun node => (node.key, node.signature)) ~
        new.nodes.map fun node => (node.key, node.signature) := by
  -- under each key both sides speak of the nodes of each signature
  rw [nodes_unchanged_iff_left h, List.perm_iff_count, Prod.forall]
  refine forall_congr' fun key => ?_
  simp only [count_keyed]
  exact left_eq_nil_iff

end Nodes

/-! ### Edges -/

section Edges

theorem edgeOutcomes_unchanged_iff {old new : List String} :
    (∀ id status, (id, status) ∈ edgeOutcomes old new → status = .unchanged) ↔
      old.length = new.length := by
  have hlength : ∀ ids : List String, (Text.sort ids).length = ids.length := fun ids =>
    List.length_mergeSort ids
  constructor
  · intro hall
    have hold : (Text.sort old).drop (min old.length new.length) = [] := by
      refine List.eq_nil_iff_forall_not_mem.mpr fun id hid => ?_
      cases hall id .removed (mem_edgeOutcomes.mpr (.inr (.inr (.inl ⟨hid, rfl⟩))))
    have hnew : (Text.sort new).drop (min old.length new.length) = [] := by
      refine List.eq_nil_iff_forall_not_mem.mpr fun id hid => ?_
      cases hall id .added (mem_edgeOutcomes.mpr (.inr (.inr (.inr ⟨hid, rfl⟩))))
    rw [List.drop_eq_nil_iff, hlength] at hold hnew
    omega
  · intro heq id status hmem
    have hdrop : ∀ ids : List String, ids.length = new.length → (Text.sort ids).drop new.length = [] := by
      intro ids hids
      rw [List.drop_eq_nil_iff, hlength, hids]
    rw [mem_edgeOutcomes, heq, min_self, hdrop old heq, hdrop new rfl] at hmem
    obtain ⟨-, hstatus⟩ | ⟨-, hstatus⟩ | ⟨hid, -⟩ | ⟨hid, -⟩ := hmem
    · exact hstatus
    · exact hstatus
    · cases hid
    · cases hid

theorem count_edgeKey (snapshot : Snapshot) (key : EdgeKey) :
    (snapshot.edges.map snapshot.edgeKey).count key = (edgeIdsUnder snapshot key).length := by
  rw [length_edgeIdsUnder, List.count, List.countP_map]
  refine List.countP_congr fun edge _ => ?_
  simp

/-- **No edge has changed exactly when the snapshots have the same edges up to key.** -/
theorem edges_unchanged_iff {old new : Snapshot} (hold : old.Valid) (hnew : new.Valid)
    (hdisjoint : List.Disjoint old.edgeIds new.edgeIds) :
    (∀ id status, (between old new).edgeStatus? id = some status → status = .unchanged) ↔
      old.edges.map old.edgeKey ~ new.edges.map new.edgeKey := by
  rw [List.perm_iff_count]
  simp only [count_edgeKey, ← edgeOutcomes_unchanged_iff, edgeStatus?_eq_some_iff hold hnew hdisjoint]
  constructor
  · intro hall key id status hmem
    exact hall id status ⟨key, hmem⟩
  · rintro hall id status ⟨key, hmem⟩
    exact hall key id status hmem

end Edges

end Delta

/-! ### Moving code -/

/-- The node `b` is `a` in another place: under another id, on other lines and with other line numbers in
its name and the name of its owner. -/
structure Node.Moved (a b : Node) : Prop where
  kind : a.kind = b.kind
  name : a.name = b.name
  qualifiedName : Name.marks a.qualifiedName = Name.marks b.qualifiedName
  filePath : a.filePath = b.filePath
  signature : a.signature = b.signature
  owner : (a.attribute? "owner").map Name.marks = (b.attribute? "owner").map Name.marks
  branchType : a.attribute? "branchType" = b.attribute? "branchType"
  snippet : a.attribute? "snippet" = b.attribute? "snippet"

/-- The snapshot `new` is `old` with other ids, given by `rename`, and its code in other places, in lists of
any order. -/
structure Snapshot.Moved (rename : String → String) (old new : Snapshot) : Prop where
  nodes : ∃ nodes, List.Forall₂ (fun a b => rename a.id = b.id ∧ a.Moved b) old.nodes nodes ∧
    nodes ~ new.nodes
  edges : ∃ edges, List.Forall₂ (fun a b => a.kind = b.kind ∧ rename a.source = b.source ∧
    rename a.target = b.target ∧ a.flowType? = b.flowType?) old.edges edges ∧ edges ~ new.edges

namespace Node.Moved

variable {a b : Node}

theorem branchOwner_eq (h : a.Moved b) : a.branchOwner = b.branchOwner := by
  refine Name.withoutInstance_eq_of_marks ?_
  have howner := h.owner
  cases ha : a.attribute? "owner" with
  | none =>
    rw [ha, Option.map_none] at howner
    rw [Option.map_eq_none_iff.mp howner.symm]
    exact Name.marks_ownerName h.qualifiedName
  | some owner =>
    rw [ha, Option.map_some] at howner
    obtain ⟨owner', hb, hmarks⟩ := Option.map_eq_some_iff.mp howner.symm
    rw [hb]
    exact hmarks.symm

/-- Moving a node keeps its key. -/
theorem key_eq (h : a.Moved b) : a.key = b.key := by
  have hname := Name.withoutPositions_eq_of_marks h.qualifiedName
  have hcontent : a.branchContent = b.branchContent := by
    rw [Node.branchContent, Node.branchContent, h.signature, h.snippet, h.name]
  rw [Node.key, Node.key, h.kind, h.branchOwner_eq, h.branchType, hcontent, hname]

theorem endpoint_eq (h : a.Moved b) : a.endpoint = b.endpoint := by
  rw [Node.endpoint, Node.endpoint, h.kind, h.filePath,
    Name.withoutPositions_eq_of_marks h.qualifiedName]

end Node.Moved

namespace Snapshot.Moved

variable {rename : String → String} {old new : Snapshot}

/-- Moving a snapshot keeps its nodes up to key and signature. -/
theorem nodes_perm (h : Moved rename old new) :
    (old.nodes.map fun node => (node.key, node.signature)) ~
      new.nodes.map fun node => (node.key, node.signature) := by
  obtain ⟨nodes, hmoved, hperm⟩ := h.nodes
  have hmap : (old.nodes.map fun node => (node.key, node.signature)) =
      nodes.map fun node => (node.key, node.signature) := by
    rw [← List.forall₂_eq_eq_eq, List.forall₂_map_left_iff, List.forall₂_map_right_iff]
    refine hmoved.imp fun a b hab => ?_
    rw [hab.2.key_eq, hab.2.signature]
  rw [hmap]
  exact hperm.map _

theorem exists_moved (h : Moved rename old new) {a : Node} (ha : a ∈ old.nodes) :
    ∃ b ∈ new.nodes, rename a.id = b.id ∧ a.Moved b := by
  obtain ⟨nodes, hmoved, hperm⟩ := h.nodes
  obtain ⟨hlength, hzip⟩ := List.forall₂_iff_zip.mp hmoved
  obtain ⟨i, hi, rfl⟩ := List.mem_iff_getElem.mp ha
  have hi' : i < nodes.length := hlength ▸ hi
  have hpair : (old.nodes[i], nodes[i]) ∈ old.nodes.zip nodes :=
    List.mem_iff_getElem.mpr ⟨i, by rw [List.length_zip]; exact lt_min hi hi', List.getElem_zip⟩
  exact ⟨nodes[i], hperm.subset (List.getElem_mem hi'), hzip hpair⟩

/-- Moving a snapshot keeps what identifies the endpoint of an edge. -/
theorem endpoint_eq (h : Moved rename old new) (hold : old.Valid) (hnew : new.Valid) {id : String}
    (hid : id ∈ old.nodeIds) : old.endpoint id = new.endpoint (rename id) := by
  obtain ⟨a, ha, rfl⟩ := List.mem_map.mp hid
  obtain ⟨b, hb, hname, hmoved⟩ := h.exists_moved ha
  rw [Snapshot.endpoint, Snapshot.endpoint, hold.node?_eq_some_iff.mpr ⟨ha, rfl⟩,
    hnew.node?_eq_some_iff.mpr ⟨hb, hname.symm⟩]
  exact hmoved.endpoint_eq

/-- Moving a snapshot keeps its edges up to key. -/
theorem edges_perm (h : Moved rename old new) (hold : old.Valid) (hnew : new.Valid) :
    old.edges.map old.edgeKey ~ new.edges.map new.edgeKey := by
  obtain ⟨edges, hmoved, hperm⟩ := h.edges
  have hmap : old.edges.map old.edgeKey = edges.map new.edgeKey := by
    rw [← List.forall₂_eq_eq_eq, List.forall₂_map_left_iff, List.forall₂_map_right_iff]
    have hends := (List.forall₂_and_left _ _).mpr
      ⟨fun edge hedge => And.intro (hold.source_mem edge hedge) (hold.target_mem edge hedge), hmoved⟩
    refine hends.imp fun a b hab => ?_
    obtain ⟨⟨hsource, htarget⟩, hkind, hs, ht, hflow⟩ := hab
    rw [Snapshot.edgeKey, Snapshot.edgeKey, hkind, hflow, ← hs, ← ht,
      h.endpoint_eq hold hnew hsource, h.endpoint_eq hold hnew htarget]
  rw [hmap]
  exact hperm.map _

end Snapshot.Moved

namespace Delta

/-! ### A snapshot and itself -/

section Self

variable {snapshot : Snapshot} {id : String}

theorem mem_unchanged_self {key : NodeKey} {pair : Node × Node} :
    pair ∈ (pairingUnder snapshot snapshot key).unchanged ↔
      ∃ node ∈ snapshot.nodes, node.key = key ∧ (node, node) = pair := by
  rw [pairingUnder, Pairing.ofSides_self]
  simp only [List.mem_map, List.mem_mergeSort, List.mem_filter, decide_eq_true_eq, and_assoc]

/-- Compared with itself, a snapshot has unchanged nodes only. -/
theorem mem_statuses_self {status : Status} :
    (id, status) ∈ (pairings snapshot snapshot).flatMap Pairing.statuses ↔
      id ∈ snapshot.nodeIds ∧ status = .unchanged := by
  rw [mem_statuses_iff]
  constructor
  · rintro ⟨key, hmem⟩
    -- both sides have as many nodes of each signature, so none is left over
    obtain ⟨hold, hnew⟩ := left_eq_nil_iff.mpr fun s => rfl
    obtain ⟨⟨pair, hpair, hid⟩, rfl⟩ := Pairing.exists_unchanged_of_left_eq_nil hold hnew hmem
    obtain ⟨node, hnode, -, rfl⟩ := mem_unchanged_self.mp hpair
    obtain rfl : id = node.id := or_self_iff.mp hid
    exact ⟨List.mem_map_of_mem hnode, rfl⟩
  · rintro ⟨hid, rfl⟩
    obtain ⟨node, hnode, rfl⟩ := List.mem_map.mp hid
    have hpair := mem_unchanged_self.mpr ⟨node, hnode, rfl, rfl⟩
    exact ⟨node.key, Pairing.mem_statuses_unchanged.mpr ⟨(node, node), hpair, .inl rfl⟩⟩

theorem mem_counterparts_self {other : String} :
    (id, other) ∈ (pairings snapshot snapshot).flatMap Pairing.counterparts ↔
      id ∈ snapshot.nodeIds ∧ other = id := by
  rw [mem_counterparts_iff]
  constructor
  · rintro ⟨key, hmem⟩
    obtain ⟨pair, hpair, hids⟩ := Pairing.mem_counterparts.mp hmem
    have hmodified : (pairingUnder snapshot snapshot key).modified = [] := by
      rw [pairingUnder, Pairing.ofSides_self]
    rw [hmodified, List.append_nil] at hpair
    obtain ⟨node, hnode, -, rfl⟩ := mem_unchanged_self.mp hpair
    obtain ⟨rfl, rfl⟩ := or_self_iff.mp hids
    exact ⟨List.mem_map_of_mem hnode, rfl⟩
  · rintro ⟨hid, rfl⟩
    obtain ⟨node, hnode, rfl⟩ := List.mem_map.mp hid
    have hpair := mem_unchanged_self.mpr ⟨node, hnode, rfl, rfl⟩
    exact ⟨node.key, Pairing.mem_counterparts.mpr
      ⟨(node, node), List.mem_append_left _ hpair, .inl ⟨rfl, rfl⟩⟩⟩

theorem mem_edgeStatuses_self {status : Status} :
    (id, status) ∈ edgeStatuses snapshot snapshot ↔ id ∈ snapshot.edgeIds ∧ status = .unchanged := by
  constructor
  · intro hmem
    obtain ⟨key, hkey⟩ := mem_edgeStatuses_iff.mp hmem
    have hid : id ∈ snapshot.edgeIds ++ snapshot.edgeIds :=
      map_fst_edgeStatuses_perm.subset (List.mem_map_of_mem hmem)
    exact ⟨(List.mem_append.mp hid).elim (fun h => h) (fun h => h),
      edgeOutcomes_unchanged_iff.mpr rfl id status hkey⟩
  · rintro ⟨hid, rfl⟩
    have hmem := map_fst_edgeStatuses_perm.symm.subset (List.mem_append_left snapshot.edgeIds hid)
    obtain ⟨⟨id, status⟩, hentry, rfl⟩ := List.mem_map.mp hmem
    obtain ⟨key, hkey⟩ := mem_edgeStatuses_iff.mp hentry
    obtain rfl := edgeOutcomes_unchanged_iff.mpr rfl _ status hkey
    exact hentry

/-- Compared with itself, a snapshot has unchanged nodes only. -/
theorem nodeStatus?_self (snapshot : Snapshot) (id : String) :
    (between snapshot snapshot).nodeStatus? id =
      if id ∈ snapshot.nodeIds then some .unchanged else none :=
  Table.get?_ofList_eq_ite (fun _ => Status.unchanged) (fun _ _ => mem_statuses_self) id

/-- Compared with itself, a snapshot has unchanged edges only. -/
theorem edgeStatus?_self (snapshot : Snapshot) (id : String) :
    (between snapshot snapshot).edgeStatus? id =
      if id ∈ snapshot.edgeIds then some .unchanged else none :=
  Table.get?_ofList_eq_ite (fun _ => Status.unchanged) (fun _ _ => mem_edgeStatuses_self) id

/-- Compared with itself, a snapshot has every node as its own counterpart. -/
theorem counterpart?_self (snapshot : Snapshot) (id : String) :
    (between snapshot snapshot).counterpart? id =
      if id ∈ snapshot.nodeIds then some id else none :=
  Table.get?_ofList_eq_ite (fun id => id) (fun _ _ => mem_counterparts_self) id

end Self

/-! ### Empty deltas -/

/-- **A delta is empty exactly when the snapshots have the same nodes up to key and signature and the same
edges up to key.** Moving code changes nothing, and a snapshot compared with itself has not changed. -/
theorem between_isEmpty_iff :
    (∀ old new : Snapshot, old.validate = .ok () → new.validate = .ok () →
      List.Disjoint old.nodeIds new.nodeIds → List.Disjoint old.edgeIds new.edgeIds →
      ((between old new).isEmpty = true ↔
        (old.nodes.map fun node => (node.key, node.signature)) ~
          (new.nodes.map fun node => (node.key, node.signature)) ∧
        old.edges.map old.edgeKey ~ new.edges.map new.edgeKey) ∧
      ∀ rename, Snapshot.Moved rename old new → (between old new).isEmpty = true) ∧
    (∀ snapshot : Snapshot, snapshot.validate = .ok () →
      (∀ id, (between snapshot snapshot).nodeStatus? id =
        if id ∈ snapshot.nodeIds then some .unchanged else none) ∧
      (∀ id, (between snapshot snapshot).edgeStatus? id =
        if id ∈ snapshot.edgeIds then some .unchanged else none) ∧
      (∀ id, (between snapshot snapshot).counterpart? id =
        if id ∈ snapshot.nodeIds then some id else none)) := by
  constructor
  · intro old new hold hnew hnodes hedges
    have hold' := Snapshot.validate_eq_ok_iff.mp hold
    have hnew' := Snapshot.validate_eq_ok_iff.mp hnew
    have hiff := isEmpty_iff.trans (and_congr (nodes_unchanged_iff ⟨hold', hnew', hnodes⟩)
      (edges_unchanged_iff hold' hnew' hedges))
    refine ⟨hiff, fun rename hmoved => ?_⟩
    exact hiff.mpr ⟨hmoved.nodes_perm, hmoved.edges_perm hold' hnew'⟩
  · intro snapshot _
    exact ⟨nodeStatus?_self snapshot, edgeStatus?_self snapshot, counterpart?_self snapshot⟩

/-- A function and a callback in it. -/
def sampleHere : Snapshot :=
  { repoId := "repo", snapshotId := "here", revision := "r"
    nodes := [{ sampleNode "h1" .function "m.App" 10 "F" with name := "App" },
      { sampleNode "h2" .function ("m.App.map$callback" ++ "@L" ++ Nat.repr 12) 12 "C" with
        name := "map$callback" }]
    edges := [sampleCall "e1" "h1" "h2"] }

/-- The same function and callback further down, under other ids and in another order. -/
def sampleThere : Snapshot :=
  { repoId := "repo", snapshotId := "there", revision := "r"
    nodes := [{ sampleNode "t2" .function ("m.App.map$callback" ++ "@L" ++ Nat.repr 31) 31 "C" with
        name := "map$callback" },
      { sampleNode "t1" .function "m.App" 29 "F" with name := "App" }]
    edges := [sampleCall "e2" "t1" "t2"] }

theorem sampleThere_moved :
    Snapshot.Moved (fun id => if id = "h1" then "t1" else "t2") sampleHere sampleThere := by
  refine ⟨⟨sampleThere.nodes.reverse, ?_, List.reverse_perm _⟩, ⟨sampleThere.edges, ?_, .refl _⟩⟩
  · refine .cons ⟨rfl, ?_⟩ (.cons ⟨rfl, ?_⟩ .nil)
    · constructor <;> rfl
    · have hmarks := (Name.marks_append_line "m.App.map$callback" 12).trans
        (Name.marks_append_line "m.App.map$callback" 31).symm
      exact ⟨rfl, rfl, hmarks, rfl, rfl, rfl, rfl, rfl⟩
  · exact .cons ⟨rfl, rfl, rfl, rfl⟩ .nil

theorem between_isEmpty_iff_sample :
    sampleHere.validate = .ok () ∧ sampleThere.validate = .ok () ∧
      List.Disjoint sampleHere.nodeIds sampleThere.nodeIds ∧
      List.Disjoint sampleHere.edgeIds sampleThere.edgeIds ∧
      Snapshot.Moved (fun id => if id = "h1" then "t1" else "t2") sampleHere sampleThere ∧
      (between sampleHere sampleThere).isEmpty = true ∧
      (between sampleHere sampleHere).counterpart? "h2" = some "h2" :=
  have hnodes : List.Disjoint sampleHere.nodeIds sampleThere.nodeIds :=
    List.disjoint_left.mpr (by decide)
  have hedges : List.Disjoint sampleHere.edgeIds sampleThere.edgeIds :=
    List.disjoint_left.mpr (by decide)
  have hmoved := (between_isEmpty_iff.1 _ _ (by decide) (by decide) hnodes hedges).2 _ sampleThere_moved
  have hself := (between_isEmpty_iff.2 sampleHere (by decide)).2.2 "h2"
  ⟨by decide, by decide, hnodes, hedges, sampleThere_moved, hmoved, hself.trans (by decide)⟩

end Delta

end StructuralDiff
