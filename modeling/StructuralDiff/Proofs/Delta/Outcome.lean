import StructuralDiff.Proofs.Delta.Pairing
import StructuralDiff.Proofs.Graph.Validity
import StructuralDiff.Proofs.Table

/-!
# What a delta says

The tables of `Delta.between` are written key by key. Over two valid snapshots without common ids every id
is written once, so a look-up in a table is membership in the pairing under some key.

* `map_fst_statuses_perm`, `map_fst_edgeStatuses_perm`: the ids with an outcome are those of the snapshots.
* `nodeStatus?_eq_some_iff`, `counterpart?_eq_some_iff`: what the outcomes of the nodes are.
* `edgeStatus?_eq_some_iff`: what the outcomes of the edges are.
-/

open scoped List

namespace StructuralDiff

namespace Pairing

/-! ### The entries of a pairing -/

theorem mem_statuses {pairing : Pairing} {id : String} {status : Status} :
    (id, status) ∈ pairing.statuses ↔
      (∃ pair ∈ pairing.unchanged, (id = pair.1.id ∨ id = pair.2.id) ∧ status = .unchanged) ∨
      (∃ pair ∈ pairing.modified, (id = pair.1.id ∨ id = pair.2.id) ∧ status = .modified) ∨
      (∃ o ∈ pairing.removed, id = o.id ∧ status = .removed) ∨
      (∃ n ∈ pairing.added, id = n.id ∧ status = .added) := by
  have hboth : ∀ (pairs : List (Node × Node)) (s : Status),
      (id, status) ∈ pairs.flatMap (fun pair => [(pair.1.id, s), (pair.2.id, s)]) ↔
        ∃ pair ∈ pairs, (id = pair.1.id ∨ id = pair.2.id) ∧ status = s := by
    intro pairs s
    simp only [List.mem_flatMap, List.mem_cons, Prod.mk.injEq, List.not_mem_nil, or_false,
      or_and_right]
  have hone : ∀ (nodes : List Node) (s : Status),
      (id, status) ∈ nodes.map (fun node => (node.id, s)) ↔
        ∃ node ∈ nodes, id = node.id ∧ status = s := by
    intro nodes s
    simp only [List.mem_map, Prod.mk.injEq, eq_comm]
  rw [statuses, List.mem_append, List.mem_append, List.mem_append, or_assoc, or_assoc]
  exact or_congr (hboth _ _) (or_congr (hboth _ _) (or_congr (hone _ _) (hone _ _)))

section

variable {pairing : Pairing} {id : String}

theorem mem_statuses_unchanged : (id, Status.unchanged) ∈ pairing.statuses ↔
    ∃ pair ∈ pairing.unchanged, id = pair.1.id ∨ id = pair.2.id := by
  simp [mem_statuses]

theorem mem_statuses_modified : (id, Status.modified) ∈ pairing.statuses ↔
    ∃ pair ∈ pairing.modified, id = pair.1.id ∨ id = pair.2.id := by
  simp [mem_statuses]

theorem mem_statuses_removed : (id, Status.removed) ∈ pairing.statuses ↔
    ∃ o ∈ pairing.removed, id = o.id := by
  simp [mem_statuses]

theorem mem_statuses_added : (id, Status.added) ∈ pairing.statuses ↔
    ∃ n ∈ pairing.added, id = n.id := by
  simp [mem_statuses]

/-- Where nothing is left over there are unchanged pairs only. -/
theorem exists_unchanged_of_left_eq_nil {status : Status} (hold : pairing.oldLeft = [])
    (hnew : pairing.newLeft = []) (h : (id, status) ∈ pairing.statuses) :
    (∃ pair ∈ pairing.unchanged, id = pair.1.id ∨ id = pair.2.id) ∧ status = .unchanged := by
  obtain ⟨hmodified, hremoved⟩ := List.append_eq_nil_iff.mp hold
  obtain ⟨-, hadded⟩ := List.append_eq_nil_iff.mp hnew
  rw [List.map_eq_nil_iff] at hmodified
  rw [mem_statuses, hmodified, hremoved, hadded] at h
  obtain ⟨pair, hpair, hid, rfl⟩ | ⟨pair, hnil, -⟩ | ⟨o, hnil, -⟩ | ⟨n, hnil, -⟩ := h
  · exact ⟨⟨pair, hpair, hid⟩, rfl⟩
  · cases hnil
  · cases hnil
  · cases hnil

end

theorem mem_counterparts {pairing : Pairing} {a b : String} :
    (a, b) ∈ pairing.counterparts ↔ ∃ pair ∈ pairing.unchanged ++ pairing.modified,
      (a = pair.1.id ∧ b = pair.2.id) ∨ (a = pair.2.id ∧ b = pair.1.id) := by
  simp only [counterparts, List.mem_flatMap, List.mem_cons, Prod.mk.injEq, List.not_mem_nil, or_false]

/-- The nodes with a counterpart are those with an outcome, less the removed and the added ones. -/
theorem map_fst_statuses (pairing : Pairing) :
    pairing.statuses.map Prod.fst = pairing.counterparts.map Prod.fst
      ++ pairing.removed.map Node.id ++ pairing.added.map Node.id := by
  simp [statuses, counterparts, List.map_flatMap, Function.comp_def]

theorem flatMap_ids_perm (pairs : List (Node × Node)) :
    (pairs.flatMap fun pair => [pair.1.id, pair.2.id]) ~
      (pairs.map Prod.fst).map Node.id ++ (pairs.map Prod.snd).map Node.id := by
  have h := List.flatMap_append_perm pairs (fun pair => [pair.1.id]) (fun pair => [pair.2.id])
  simpa [List.map_eq_flatMap, List.flatMap_assoc] using h.symm

/-- A pairing gives one outcome to each of its nodes. -/
theorem map_fst_statuses_ofSides (old new : List Node) :
    (ofSides old new).statuses.map Prod.fst ~ old.map Node.id ++ new.map Node.id := by
  have hold := (ofSides_old_perm old new).map Node.id
  have hnew := (ofSides_new_perm old new).map Node.id
  refine List.Perm.trans ?_ (hold.append hnew)
  have hunchanged := flatMap_ids_perm (ofSides old new).unchanged
  have hmodified := flatMap_ids_perm (ofSides old new).modified
  -- the entries alternate between the sides, so both orders are compared by counting
  rw [List.perm_iff_count] at hunchanged hmodified ⊢
  intro id
  have h₁ := hunchanged id
  have h₂ := hmodified id
  rw [map_fst_statuses, counterparts, oldLeft, newLeft]
  simp only [List.map_flatMap, List.map_cons, List.map_nil, List.flatMap_append, List.map_append,
    List.count_append] at h₁ h₂ ⊢
  omega

end Pairing

namespace Delta

/-- Two valid snapshots that share no id of a node. -/
structure Separate (old new : Snapshot) : Prop where
  old_valid : old.Valid
  new_valid : new.Valid
  disjoint : List.Disjoint old.nodeIds new.nodeIds

/-- A node on one line of a file. -/
def sampleNode (id : String) (kind : NodeKind) (qualifiedName : String) (line : Nat)
    (signature : String) : Node :=
  { id, kind, name := qualifiedName, qualifiedName, filePath := "m.py", language := .python,
    startLine := some line, endLine := some line, signature := some signature,
    metadata := .empty, snapshotId := "s", revision := "r" }

/-- A call without a flow type. -/
def sampleCall (id source target : String) : Edge :=
  { id, source, target, kind := .calls, filePath := none, metadata := .empty,
    snapshotId := "s", revision := "r" }

/-- Two functions, the first of them with two branches that have the same signature. -/
def sampleOld : Snapshot :=
  { repoId := "repo", snapshotId := "old", revision := "r"
    nodes := [sampleNode "o1" .function "m.f" 1 "F", sampleNode "o2" .branch "m.f::if#0" 4 "S",
      sampleNode "o3" .branch "m.f::if#1" 9 "S", sampleNode "o4" .function "m.g" 12 "A"]
    edges := [sampleCall "e1" "o1" "o4"] }

/-- The functions in another order, one branch less, another body and one call more. -/
def sampleNew : Snapshot :=
  { repoId := "repo", snapshotId := "new", revision := "r"
    nodes := [sampleNode "n1" .function "m.g" 1 "B", sampleNode "n2" .function "m.f" 3 "F",
      sampleNode "n3" .branch "m.f::if#0" 9 "S"]
    edges := [sampleCall "e2" "n2" "n1", sampleCall "e3" "n1" "n1"] }

namespace Separate

variable {old new : Snapshot}

theorem symm (h : Separate old new) : Separate new old :=
  ⟨h.new_valid, h.old_valid, fun _ hnew hold => h.disjoint hold hnew⟩

theorem ids_nodup (h : Separate old new) : (old.nodeIds ++ new.nodeIds).Nodup :=
  h.old_valid.nodeIds_nodup.append h.new_valid.nodeIds_nodup h.disjoint

theorem id_ne (h : Separate old new) {o n : Node} (ho : o ∈ old.nodes) (hn : n ∈ new.nodes) :
    o.id ≠ n.id := by
  intro hid
  exact h.disjoint (List.mem_map_of_mem ho) (hid ▸ List.mem_map_of_mem hn)

end Separate

/-! ### Nodes -/

/-- The pairing of the nodes of two snapshots under a key. -/
def pairingUnder (old new : Snapshot) (key : NodeKey) : Pairing :=
  Pairing.ofSides (old.nodes.filter (·.key = key)) (new.nodes.filter (·.key = key))

/-- The keys of the nodes of two snapshots, in order. -/
def nodeKeys (old new : Snapshot) : List NodeKey :=
  (keysOf (old.nodes.map fun node => (node.key, node))
    (new.nodes.map fun node => (node.key, node))).mergeSort NodeKey.le

section Nodes

variable {old new : Snapshot}

theorem nodeKeys_perm : nodeKeys old new ~
    keysOf (old.nodes.map fun node => (node.key, node)) (new.nodes.map fun node => (node.key, node)) :=
  List.mergeSort_perm _ _

theorem pairings_eq : pairings old new = (nodeKeys old new).map (pairingUnder old new) := by
  refine List.map_congr_left fun key _ => ?_
  rw [under_map, under_map, List.map_id', List.map_id']
  rfl

/-- The ids with an outcome under a key are those of the nodes under this key. -/
theorem map_fst_statuses_under (key : NodeKey) :
    (pairingUnder old new key).statuses.map Prod.fst ~
      (under key (old.nodes.map fun node => (node.key, node))
        ++ under key (new.nodes.map fun node => (node.key, node))).map Node.id := by
  rw [under_map, under_map, List.map_id', List.map_id', List.map_append]
  exact Pairing.map_fst_statuses_ofSides _ _

/-- **The ids with an outcome are the ids of the two snapshots**, each of them once. -/
theorem map_fst_statuses_perm :
    ((pairings old new).flatMap Pairing.statuses).map Prod.fst ~ old.nodeIds ++ new.nodeIds := by
  have h := map_fst_outcomes_perm (@nodeKeys_perm old new) map_fst_statuses_under
  rw [pairings_eq, List.flatMap_map]
  simpa [Snapshot.nodeIds, Function.comp_def] using h

theorem mem_statuses_iff {entry : String × Status} :
    entry ∈ (pairings old new).flatMap Pairing.statuses ↔
      ∃ key, entry ∈ (pairingUnder old new key).statuses := by
  rw [pairings_eq, List.flatMap_map]
  exact mem_outcomes nodeKeys_perm map_fst_statuses_under

/-- An id has a counterpart under a key only when it has an outcome there. -/
theorem map_fst_counterparts_sublist (pairings : List Pairing) :
    (pairings.flatMap Pairing.counterparts).map Prod.fst <+
      (pairings.flatMap Pairing.statuses).map Prod.fst := by
  induction pairings with
  | nil => exact List.Sublist.refl _
  | cons pairing pairings ih =>
    rw [List.flatMap_cons, List.flatMap_cons, List.map_append, List.map_append,
      Pairing.map_fst_statuses]
    refine List.Sublist.append ?_ ih
    rw [List.append_assoc]
    exact List.sublist_append_left _ _

theorem mem_counterparts_iff {entry : String × String} :
    entry ∈ (pairings old new).flatMap Pairing.counterparts ↔
      ∃ key, entry ∈ (pairingUnder old new key).counterparts := by
  rw [pairings_eq, List.flatMap_map, List.mem_flatMap]
  constructor
  · rintro ⟨key, -, h⟩
    exact ⟨key, h⟩
  · rintro ⟨key, h⟩
    -- a node with a counterpart has an outcome under the same key
    have hfst : entry.1 ∈ (pairingUnder old new key).statuses.map Prod.fst := by
      rw [Pairing.map_fst_statuses, List.append_assoc]
      exact List.mem_append_left _ (List.mem_map_of_mem h)
    obtain ⟨outcome, houtcome, -⟩ := List.mem_map.mp hfst
    exact ⟨key, mem_keys_of_mem_outcome nodeKeys_perm map_fst_statuses_under houtcome, h⟩

theorem nodeStatus?_eq_some_iff (h : Separate old new) {id : String} {status : Status} :
    (between old new).nodeStatus? id = some status ↔
      ∃ key, (id, status) ∈ (pairingUnder old new key).statuses := by
  rw [← mem_statuses_iff]
  exact Table.get?_ofList_eq_some_iff
    (Table.singleValued_of_nodup (map_fst_statuses_perm.nodup_iff.mpr h.ids_nodup))

theorem counterpart?_eq_some_iff (h : Separate old new) {a b : String} :
    (between old new).counterpart? a = some b ↔
      ∃ key, (a, b) ∈ (pairingUnder old new key).counterparts := by
  rw [← mem_counterparts_iff]
  exact Table.get?_ofList_eq_some_iff (Table.singleValued_of_nodup
    ((map_fst_statuses_perm.nodup_iff.mpr h.ids_nodup).sublist (map_fst_counterparts_sublist _)))

/-! ### The two sides under a key -/

variable {key : NodeKey}

theorem mem_old_side {o : Node} : o ∈ (pairingUnder old new key).unchanged.map Prod.fst ∨
    o ∈ (pairingUnder old new key).oldLeft ↔ o ∈ old.nodes ∧ o.key = key := by
  rw [← List.mem_append, pairingUnder, (Pairing.ofSides_old_perm _ _).mem_iff, List.mem_filter,
    decide_eq_true_eq]

theorem mem_new_side {n : Node} : n ∈ (pairingUnder old new key).unchanged.map Prod.snd ∨
    n ∈ (pairingUnder old new key).newLeft ↔ n ∈ new.nodes ∧ n.key = key := by
  rw [← List.mem_append, pairingUnder, (Pairing.ofSides_new_perm _ _).mem_iff, List.mem_filter,
    decide_eq_true_eq]

/-- The members of a pair come from the two snapshots and have the key of the pairing. -/
theorem sides_of_mem_pairs {pair : Node × Node}
    (h : pair ∈ (pairingUnder old new key).unchanged ++ (pairingUnder old new key).modified) :
    (pair.1 ∈ old.nodes ∧ pair.1.key = key) ∧ (pair.2 ∈ new.nodes ∧ pair.2.key = key) := by
  rcases List.mem_append.mp h with h | h
  · exact ⟨mem_old_side.mp (.inl (List.mem_map_of_mem h)),
      mem_new_side.mp (.inl (List.mem_map_of_mem h))⟩
  · exact ⟨mem_old_side.mp (.inr (List.mem_append_left _ (List.mem_map_of_mem h))),
      mem_new_side.mp (.inr (List.mem_append_left _ (List.mem_map_of_mem h)))⟩

theorem nodeStatus?_of_unchanged (h : Separate old new) {pair : Node × Node}
    (hpair : pair ∈ (pairingUnder old new key).unchanged) :
    (between old new).nodeStatus? pair.1.id = some .unchanged ∧
      (between old new).nodeStatus? pair.2.id = some .unchanged := by
  constructor
  · exact (nodeStatus?_eq_some_iff h).mpr
      ⟨key, Pairing.mem_statuses_unchanged.mpr ⟨pair, hpair, .inl rfl⟩⟩
  · exact (nodeStatus?_eq_some_iff h).mpr
      ⟨key, Pairing.mem_statuses_unchanged.mpr ⟨pair, hpair, .inr rfl⟩⟩

theorem nodeStatus?_of_modified (h : Separate old new) {pair : Node × Node}
    (hpair : pair ∈ (pairingUnder old new key).modified) :
    (between old new).nodeStatus? pair.1.id = some .modified ∧
      (between old new).nodeStatus? pair.2.id = some .modified := by
  constructor
  · exact (nodeStatus?_eq_some_iff h).mpr
      ⟨key, Pairing.mem_statuses_modified.mpr ⟨pair, hpair, .inl rfl⟩⟩
  · exact (nodeStatus?_eq_some_iff h).mpr
      ⟨key, Pairing.mem_statuses_modified.mpr ⟨pair, hpair, .inr rfl⟩⟩

theorem nodeStatus?_of_removed (h : Separate old new) {o : Node}
    (ho : o ∈ (pairingUnder old new key).removed) :
    (between old new).nodeStatus? o.id = some .removed :=
  (nodeStatus?_eq_some_iff h).mpr ⟨key, Pairing.mem_statuses_removed.mpr ⟨o, ho, rfl⟩⟩

theorem nodeStatus?_of_added (h : Separate old new) {n : Node}
    (hn : n ∈ (pairingUnder old new key).added) :
    (between old new).nodeStatus? n.id = some .added :=
  (nodeStatus?_eq_some_iff h).mpr ⟨key, Pairing.mem_statuses_added.mpr ⟨n, hn, rfl⟩⟩

/-- The two members of a pair have the same outcome. -/
theorem nodeStatus?_eq_of_mem_pairs (h : Separate old new) {pair : Node × Node}
    (hpair : pair ∈ (pairingUnder old new key).unchanged ++ (pairingUnder old new key).modified) :
    (between old new).nodeStatus? pair.1.id = (between old new).nodeStatus? pair.2.id := by
  rcases List.mem_append.mp hpair with hpair | hpair
  · obtain ⟨h₁, h₂⟩ := nodeStatus?_of_unchanged h hpair
    rw [h₁, h₂]
  · obtain ⟨h₁, h₂⟩ := nodeStatus?_of_modified h hpair
    rw [h₁, h₂]

/-- Each member of a pair is the counterpart of the other. -/
theorem counterpart?_of_mem_pairs (h : Separate old new) {pair : Node × Node}
    (hpair : pair ∈ (pairingUnder old new key).unchanged ++ (pairingUnder old new key).modified) :
    (between old new).counterpart? pair.1.id = some pair.2.id ∧
      (between old new).counterpart? pair.2.id = some pair.1.id := by
  constructor
  · exact (counterpart?_eq_some_iff h).mpr
      ⟨key, Pairing.mem_counterparts.mpr ⟨pair, hpair, .inl ⟨rfl, rfl⟩⟩⟩
  · exact (counterpart?_eq_some_iff h).mpr
      ⟨key, Pairing.mem_counterparts.mpr ⟨pair, hpair, .inr ⟨rfl, rfl⟩⟩⟩

/-- An old node and its counterpart form a pair. -/
theorem mem_pairs_of_counterpart? (h : Separate old new) {o n : Node} (ho : o ∈ old.nodes)
    (hn : n ∈ new.nodes) (hon : (between old new).counterpart? o.id = some n.id) :
    (o, n) ∈ (pairingUnder old new o.key).unchanged ++ (pairingUnder old new o.key).modified := by
  obtain ⟨key, hkey⟩ := (counterpart?_eq_some_iff h).mp hon
  obtain ⟨pair, hpair, ⟨h₁, h₂⟩ | ⟨h₁, -⟩⟩ := Pairing.mem_counterparts.mp hkey
  · obtain ⟨⟨hfst, hkfst⟩, ⟨hsnd, -⟩⟩ := sides_of_mem_pairs hpair
    have heq : (o, n) = pair :=
      Prod.ext (h.old_valid.eq_of_id_eq ho hfst h₁) (h.new_valid.eq_of_id_eq hn hsnd h₂)
    subst heq
    rwa [hkfst]
  · exact absurd h₁ (h.id_ne ho (sides_of_mem_pairs hpair).2.1)

end Nodes

/-! ### Edges -/

/-- The ids of the edges of a snapshot under a key. -/
def edgeIdsUnder (snapshot : Snapshot) (key : EdgeKey) : List String :=
  (snapshot.edges.filter (snapshot.edgeKey · = key)).map (·.id)

theorem mem_edgeIdsUnder {snapshot : Snapshot} {key : EdgeKey} {id : String} :
    id ∈ edgeIdsUnder snapshot key ↔ ∃ edge ∈ snapshot.edges, snapshot.edgeKey edge = key ∧ edge.id = id := by
  simp only [edgeIdsUnder, List.mem_map, List.mem_filter, decide_eq_true_eq, and_assoc]

theorem length_edgeIdsUnder (snapshot : Snapshot) (key : EdgeKey) :
    (edgeIdsUnder snapshot key).length = snapshot.edges.countP (snapshot.edgeKey · = key) := by
  rw [edgeIdsUnder, List.length_map, List.countP_eq_length_filter]

/-- The edges under a key each get one outcome. -/
theorem map_fst_edgeOutcomes (old new : List String) :
    (edgeOutcomes old new).map Prod.fst ~ old ++ new := by
  refine List.Perm.trans ?_ ((Text.sort_perm old).append (Text.sort_perm new))
  rw [List.perm_iff_count]
  intro id
  have h₁ := congrArg (List.count id) (List.take_append_drop
    (min (Text.sort old).length (Text.sort new).length) (Text.sort old))
  have h₂ := congrArg (List.count id) (List.take_append_drop
    (min (Text.sort old).length (Text.sort new).length) (Text.sort new))
  simp only [List.count_append] at h₁ h₂
  simp only [edgeOutcomes, List.map_append, List.map_map, Function.comp_def, List.map_id',
    List.count_append]
  omega

section Edges

variable {old new : Snapshot}

theorem edgeStatuses_eq : edgeStatuses old new =
    (keysOf (old.edges.map fun edge => (old.edgeKey edge, edge.id))
      (new.edges.map fun edge => (new.edgeKey edge, edge.id))).flatMap fun key =>
        edgeOutcomes (edgeIdsUnder old key) (edgeIdsUnder new key) := by
  refine List.flatMap_congr fun key _ => ?_
  rw [under_map, under_map]
  rfl

theorem map_fst_edgeOutcomes_under (key : EdgeKey) :
    (edgeOutcomes (edgeIdsUnder old key) (edgeIdsUnder new key)).map Prod.fst ~
      (under key (old.edges.map fun edge => (old.edgeKey edge, edge.id))
        ++ under key (new.edges.map fun edge => (new.edgeKey edge, edge.id))).map id := by
  rw [under_map, under_map, List.map_id]
  exact map_fst_edgeOutcomes _ _

/-- **The ids with an outcome are the ids of the two snapshots**, each of them once. -/
theorem map_fst_edgeStatuses_perm :
    (edgeStatuses old new).map Prod.fst ~ old.edgeIds ++ new.edgeIds := by
  have h := map_fst_outcomes_perm (List.Perm.refl _) (@map_fst_edgeOutcomes_under old new)
  rw [edgeStatuses_eq]
  simpa [Snapshot.edgeIds, Function.comp_def] using h

theorem mem_edgeStatuses_iff {entry : String × Status} : entry ∈ edgeStatuses old new ↔
    ∃ key, entry ∈ edgeOutcomes (edgeIdsUnder old key) (edgeIdsUnder new key) := by
  rw [edgeStatuses_eq]
  exact mem_outcomes (List.Perm.refl _) map_fst_edgeOutcomes_under

theorem edgeStatus?_eq_some_iff (hold : old.Valid) (hnew : new.Valid)
    (hdisjoint : List.Disjoint old.edgeIds new.edgeIds) {id : String} {status : Status} :
    (between old new).edgeStatus? id = some status ↔
      ∃ key, (id, status) ∈ edgeOutcomes (edgeIdsUnder old key) (edgeIdsUnder new key) := by
  have hnodup : (old.edgeIds ++ new.edgeIds).Nodup :=
    hold.edgeIds_nodup.append hnew.edgeIds_nodup hdisjoint
  rw [← mem_edgeStatuses_iff]
  exact Table.get?_ofList_eq_some_iff
    (Table.singleValued_of_nodup (map_fst_edgeStatuses_perm.nodup_iff.mpr hnodup))

end Edges

end Delta

end StructuralDiff
