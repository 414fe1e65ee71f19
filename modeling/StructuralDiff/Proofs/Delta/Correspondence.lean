import Mathlib.Data.List.ProdSigma
import StructuralDiff.Proofs.Delta.Reversal

/-!
# The correspondence of two snapshots

What a delta says about the nodes, read off its tables alone.

* `IsPartialBijection`: outcomes and counterparts form a partial bijection between the nodes of the two
  snapshots, inside the keys (`between_isPartialBijection`).
* `PairsMaximally`: under each key as many nodes as possible are unchanged, at the same position where this
  is possible, and the others are paired in order (`between_pairsMaximally`).
-/

open scoped List

namespace StructuralDiff.Delta

/-- The outcomes of a delta cover the nodes of two snapshots, and its counterparts are a partial bijection
between them that joins nodes with the same outcome and the same key. -/
structure IsPartialBijection (old new : Snapshot) (delta : Delta) : Prop where
  mem_keys : ∀ id, id ∈ delta.nodeStatus.keys ↔ id ∈ old.nodeIds ∨ id ∈ new.nodeIds
  added : ∀ id, delta.nodeStatus? id = some .added → id ∈ new.nodeIds ∧ id ∉ old.nodeIds
  removed : ∀ id, delta.nodeStatus? id = some .removed → id ∈ old.nodeIds ∧ id ∉ new.nodeIds
  defined : ∀ id, id ∈ delta.counterparts.keys ↔
    delta.nodeStatus? id = some .unchanged ∨ delta.nodeStatus? id = some .modified
  involutive : ∀ a b, delta.counterpart? a = some b → delta.counterpart? b = some a
  crosses : ∀ a b, delta.counterpart? a = some b →
    (a ∈ old.nodeIds ∧ b ∈ new.nodeIds) ∨ (a ∈ new.nodeIds ∧ b ∈ old.nodeIds)
  same_status : ∀ a b, delta.counterpart? a = some b → delta.nodeStatus? a = delta.nodeStatus? b
  same_key : ∀ o ∈ old.nodes, ∀ n ∈ new.nodes,
    delta.counterpart? o.id = some n.id → o.key = n.key

section

variable {old new : Snapshot}

theorem mem_nodeStatus_keys {id : String} :
    id ∈ (between old new).nodeStatus.keys ↔ id ∈ old.nodeIds ∨ id ∈ new.nodeIds := by
  rw [between, Table.mem_keys_ofList, map_fst_statuses_perm.mem_iff, List.mem_append]

theorem added_mem (h : Separate old new) {id : String}
    (hid : (between old new).nodeStatus? id = some .added) : id ∈ new.nodeIds := by
  obtain ⟨key, hkey⟩ := (nodeStatus?_eq_some_iff h).mp hid
  obtain ⟨n, hn, rfl⟩ := Pairing.mem_statuses_added.mp hkey
  exact List.mem_map_of_mem (mem_new_side.mp (.inr (List.mem_append_right _ hn))).1

theorem removed_mem (h : Separate old new) {id : String}
    (hid : (between old new).nodeStatus? id = some .removed) : id ∈ old.nodeIds := by
  obtain ⟨key, hkey⟩ := (nodeStatus?_eq_some_iff h).mp hid
  obtain ⟨o, ho, rfl⟩ := Pairing.mem_statuses_removed.mp hkey
  exact List.mem_map_of_mem (mem_old_side.mp (.inr (List.mem_append_right _ ho))).1

/-- An id with a counterpart is one of the members of a pair, and the counterpart is the other. -/
theorem exists_pair_of_counterpart? (h : Separate old new) {a b : String}
    (hab : (between old new).counterpart? a = some b) :
    ∃ key, ∃ pair ∈ (pairingUnder old new key).unchanged ++ (pairingUnder old new key).modified,
      (a = pair.1.id ∧ b = pair.2.id) ∨ (a = pair.2.id ∧ b = pair.1.id) := by
  obtain ⟨key, hkey⟩ := (counterpart?_eq_some_iff h).mp hab
  exact ⟨key, Pairing.mem_counterparts.mp hkey⟩

/-- An id that is unchanged or modified is one of the members of a pair. -/
theorem exists_pair_of_nodeStatus? (h : Separate old new) {id : String}
    (hid : (between old new).nodeStatus? id = some .unchanged ∨
      (between old new).nodeStatus? id = some .modified) :
    ∃ key, ∃ pair ∈ (pairingUnder old new key).unchanged ++ (pairingUnder old new key).modified,
      id = pair.1.id ∨ id = pair.2.id := by
  rcases hid with hid | hid
  · obtain ⟨key, hkey⟩ := (nodeStatus?_eq_some_iff h).mp hid
    obtain ⟨pair, hpair, hmem⟩ := Pairing.mem_statuses_unchanged.mp hkey
    exact ⟨key, pair, List.mem_append_left _ hpair, hmem⟩
  · obtain ⟨key, hkey⟩ := (nodeStatus?_eq_some_iff h).mp hid
    obtain ⟨pair, hpair, hmem⟩ := Pairing.mem_statuses_modified.mp hkey
    exact ⟨key, pair, List.mem_append_right _ hpair, hmem⟩

/-- The members of a pair are unchanged or modified. -/
theorem nodeStatus?_of_mem_pairs (h : Separate old new) {key : NodeKey} {pair : Node × Node}
    (hpair : pair ∈ (pairingUnder old new key).unchanged ++ (pairingUnder old new key).modified) :
    (between old new).nodeStatus? pair.1.id = some .unchanged ∨
      (between old new).nodeStatus? pair.1.id = some .modified :=
  (List.mem_append.mp hpair).imp (fun hp => (nodeStatus?_of_unchanged h hp).1)
    (fun hp => (nodeStatus?_of_modified h hp).1)

theorem mem_counterparts_keys (h : Separate old new) {id : String} :
    id ∈ (between old new).counterparts.keys ↔
      (between old new).nodeStatus? id = some .unchanged ∨
        (between old new).nodeStatus? id = some .modified := by
  rw [Table.mem_keys, Option.isSome_iff_exists]
  constructor
  · rintro ⟨other, hother⟩
    obtain ⟨key, pair, hpair, ⟨rfl, -⟩ | ⟨rfl, -⟩⟩ := exists_pair_of_counterpart? h hother
    · exact nodeStatus?_of_mem_pairs h hpair
    · rw [← nodeStatus?_eq_of_mem_pairs h hpair]
      exact nodeStatus?_of_mem_pairs h hpair
  · intro hid
    obtain ⟨key, pair, hpair, rfl | rfl⟩ := exists_pair_of_nodeStatus? h hid
    · exact ⟨_, (counterpart?_of_mem_pairs h hpair).1⟩
    · exact ⟨_, (counterpart?_of_mem_pairs h hpair).2⟩

end

/-- **The delta of two valid snapshots without common node ids is a partial bijection.** -/
theorem between_isPartialBijection {old new : Snapshot} (hold : old.validate = .ok ())
    (hnew : new.validate = .ok ()) (hdisjoint : List.Disjoint old.nodeIds new.nodeIds) :
    IsPartialBijection old new (between old new) := by
  have h : Separate old new :=
    ⟨Snapshot.validate_eq_ok_iff.mp hold, Snapshot.validate_eq_ok_iff.mp hnew, hdisjoint⟩
  refine ⟨fun id => mem_nodeStatus_keys, fun id hid => ?_, fun id hid => ?_,
    fun id => mem_counterparts_keys h, fun a b hab => ?_, fun a b hab => ?_, fun a b hab => ?_,
    fun o ho n hn hon => ?_⟩
  · exact ⟨added_mem h hid, fun hmem => hdisjoint hmem (added_mem h hid)⟩
  · exact ⟨removed_mem h hid, fun hmem => hdisjoint (removed_mem h hid) hmem⟩
  · obtain ⟨key, pair, hpair, ⟨rfl, rfl⟩ | ⟨rfl, rfl⟩⟩ := exists_pair_of_counterpart? h hab
    · exact (counterpart?_of_mem_pairs h hpair).2
    · exact (counterpart?_of_mem_pairs h hpair).1
  · obtain ⟨key, pair, hpair, ⟨rfl, rfl⟩ | ⟨rfl, rfl⟩⟩ := exists_pair_of_counterpart? h hab
    · obtain ⟨⟨ho, -⟩, ⟨hn, -⟩⟩ := sides_of_mem_pairs hpair
      exact .inl ⟨List.mem_map_of_mem ho, List.mem_map_of_mem hn⟩
    · obtain ⟨⟨ho, -⟩, ⟨hn, -⟩⟩ := sides_of_mem_pairs hpair
      exact .inr ⟨List.mem_map_of_mem hn, List.mem_map_of_mem ho⟩
  · obtain ⟨key, pair, hpair, ⟨rfl, rfl⟩ | ⟨rfl, rfl⟩⟩ := exists_pair_of_counterpart? h hab
    · exact nodeStatus?_eq_of_mem_pairs h hpair
    · exact (nodeStatus?_eq_of_mem_pairs h hpair).symm
  · exact (sides_of_mem_pairs (mem_pairs_of_counterpart? h ho hn hon)).2.2.symm

theorem between_isPartialBijection_sample :
    sampleOld.validate = .ok () ∧ sampleNew.validate = .ok () ∧
      List.Disjoint sampleOld.nodeIds sampleNew.nodeIds ∧
      IsPartialBijection sampleOld sampleNew (between sampleOld sampleNew) :=
  have hdisjoint : List.Disjoint sampleOld.nodeIds sampleNew.nodeIds :=
    List.disjoint_left.mpr (by decide)
  ⟨by decide, by decide, hdisjoint, between_isPartialBijection (by decide) (by decide) hdisjoint⟩

/-! ### Maximality -/

/-- The pairs of nodes under a key that a delta joins with an outcome. -/
def pairsUnder (old new : Snapshot) (delta : Delta) (key : NodeKey) (status : Status) :
    List (Node × Node) :=
  (old.nodes ×ˢ new.nodes).filter fun pair =>
    pair.1.key = key ∧ pair.2.key = key ∧ delta.nodeStatus? pair.1.id = some status ∧
      delta.nodeStatus? pair.2.id = some status ∧ delta.counterpart? pair.1.id = some pair.2.id

/-- The nodes of a snapshot under a key that a delta does not call unchanged, by position and id. -/
def leftUnder (snapshot : Snapshot) (delta : Delta) (key : NodeKey) : List Node :=
  (snapshot.nodes.filter fun node =>
    node.key = key ∧ delta.nodeStatus? node.id ≠ some .unchanged).mergeSort Node.standsBefore

/-- Under a key a delta leaves as many nodes of each signature unchanged as it can, as many of them in place
as it can, and pairs the other nodes in order. -/
structure PairsMaximally (old new : Snapshot) (delta : Delta) (key : NodeKey) : Prop where
  old_unchanged : ∀ o ∈ old.nodes, o.key = key → delta.nodeStatus? o.id = some .unchanged →
    ∃ n, (o, n) ∈ pairsUnder old new delta key .unchanged
  new_unchanged : ∀ n ∈ new.nodes, n.key = key → delta.nodeStatus? n.id = some .unchanged →
    ∃ o, (o, n) ∈ pairsUnder old new delta key .unchanged
  same_signature : ∀ pair ∈ pairsUnder old new delta key .unchanged,
    pair.1.signature = pair.2.signature
  count_signature : ∀ s, (pairsUnder old new delta key .unchanged).countP
      (fun pair => pair.1.signature = s ∧ pair.2.signature = s) =
    min (old.nodes.countP fun o => o.key = key ∧ o.signature = s)
      (new.nodes.countP fun n => n.key = key ∧ n.signature = s)
  count_position : ∀ s p, (pairsUnder old new delta key .unchanged).countP
      (fun pair => (pair.1.signature = s ∧ pair.2.signature = s) ∧
        (pair.1.position = p ∧ pair.2.position = p)) =
    min (old.nodes.countP fun o => o.key = key ∧ o.signature = s ∧ o.position = p)
      (new.nodes.countP fun n => n.key = key ∧ n.signature = s ∧ n.position = p)
  left_signature : ∀ o ∈ leftUnder old delta key, ∀ n ∈ leftUnder new delta key,
    o.signature ≠ n.signature
  modified : ∀ (i : Nat) (o n : Node), (leftUnder old delta key)[i]? = some o →
    (leftUnder new delta key)[i]? = some n →
      delta.nodeStatus? o.id = some .modified ∧ delta.nodeStatus? n.id = some .modified ∧
        delta.counterpart? o.id = some n.id ∧ delta.counterpart? n.id = some o.id
  removed : ∀ (i : Nat) (o : Node), (leftUnder old delta key)[i]? = some o →
    (leftUnder new delta key).length ≤ i → delta.nodeStatus? o.id = some .removed
  added : ∀ (i : Nat) (n : Node), (leftUnder new delta key)[i]? = some n →
    (leftUnder old delta key).length ≤ i → delta.nodeStatus? n.id = some .added

section

variable {old new : Snapshot} {key : NodeKey}

theorem old_side_nodup (h : Separate old new) (key : NodeKey) :
    ((pairingUnder old new key).unchanged.map Prod.fst ++ (pairingUnder old new key).oldLeft).Nodup :=
  (Pairing.ofSides_old_perm _ _).nodup_iff.mpr (h.old_valid.nodes_nodup.filter _)

/-- An old node that is left over is not unchanged. -/
theorem nodeStatus?_ne_of_mem_oldLeft (h : Separate old new) {o : Node}
    (ho : o ∈ (pairingUnder old new key).oldLeft) :
    (between old new).nodeStatus? o.id ≠ some .unchanged := by
  rcases List.mem_append.mp ho with ho | ho
  · obtain ⟨pair, hpair, rfl⟩ := List.mem_map.mp ho
    rw [(nodeStatus?_of_modified h hpair).1]
    decide
  · rw [nodeStatus?_of_removed h ho]
    decide

/-- An old node is unchanged exactly when it is in an unchanged pair. -/
theorem mem_unchanged_iff (h : Separate old new) {o : Node} (ho : o ∈ old.nodes) (hkey : o.key = key) :
    o ∈ (pairingUnder old new key).unchanged.map Prod.fst ↔
      (between old new).nodeStatus? o.id = some .unchanged := by
  constructor
  · intro hmem
    obtain ⟨pair, hpair, rfl⟩ := List.mem_map.mp hmem
    exact (nodeStatus?_of_unchanged h hpair).1
  · intro hstatus
    exact (mem_old_side.mpr ⟨ho, hkey⟩).resolve_right fun hleft =>
      nodeStatus?_ne_of_mem_oldLeft h hleft hstatus

/-- The unchanged pairs that the tables show are those of the pairing. -/
theorem pairsUnder_perm (h : Separate old new) (key : NodeKey) :
    pairsUnder old new (between old new) key .unchanged ~ (pairingUnder old new key).unchanged := by
  -- neither list has repetitions, so they are compared by membership
  have hnodup := List.Nodup.of_map _ (List.nodup_append.mp (old_side_nodup h key)).1
  refine (List.perm_ext_iff_of_nodup ((h.old_valid.nodes_nodup.product
    h.new_valid.nodes_nodup).filter _) hnodup).mpr ?_
  rintro ⟨o, n⟩
  rw [List.mem_filter, List.mem_product, decide_eq_true_eq]
  constructor
  · rintro ⟨⟨ho, hn⟩, rfl, -, hstatus, -, hon⟩
    rcases List.mem_append.mp (mem_pairs_of_counterpart? h ho hn hon) with hp | hp
    · exact hp
    · rw [(nodeStatus?_of_modified h hp).1] at hstatus
      cases hstatus
  · intro hp
    obtain ⟨⟨ho, hko⟩, ⟨hn, hkn⟩⟩ := sides_of_mem_pairs (List.mem_append_left _ hp)
    obtain ⟨hso, hsn⟩ := nodeStatus?_of_unchanged h hp
    exact ⟨⟨ho, hn⟩, hko, hkn, hso, hsn, (counterpart?_of_mem_pairs h (List.mem_append_left _ hp)).1⟩

/-- The sorted nodes that the tables do not call unchanged are those that the pairing leaves over. -/
theorem leftUnder_old (h : Separate old new) :
    leftUnder old (between old new) key = (pairingUnder old new key).oldLeft := by
  refine List.Perm.eq_of_pairwise (fun a b ha hb hab hba => ?_) (Node.pairwise_sorted _)
    (Pairing.pairwise_oldLeft _ _) ?_
  · -- neither stands after the other, so they have one id
    have ha' := (List.mem_filter.mp (List.mem_mergeSort.mp ha)).1
    have hb' := (mem_old_side.mp (.inr hb)).1
    exact h.old_valid.eq_of_id_eq ha' hb' (Node.id_eq_of_standsBefore hab hba)
  · refine (List.mergeSort_perm _ _).trans ((List.perm_ext_iff_of_nodup
      (h.old_valid.nodes_nodup.filter _) (List.nodup_append.mp (old_side_nodup h key)).2.1).mpr fun o => ?_)
    rw [List.mem_filter, decide_eq_true_eq]
    constructor
    · rintro ⟨ho, hkey, hne⟩
      exact (mem_old_side.mpr ⟨ho, hkey⟩).resolve_left fun hmem =>
        hne ((mem_unchanged_iff h ho hkey).mp hmem)
    · intro ho
      obtain ⟨hmem, hkey⟩ := mem_old_side.mp (.inr ho)
      exact ⟨hmem, hkey, nodeStatus?_ne_of_mem_oldLeft h ho⟩

theorem mem_drop_of_getElem? {nodes : List Node} {node : Node} {i k : Nat}
    (hi : nodes[i]? = some node) (hk : k ≤ i) : node ∈ nodes.drop k := by
  have hdrop : (nodes.drop k)[i - k]? = some node := by
    rw [List.getElem?_drop, Nat.add_sub_cancel' hk, hi]
  exact List.mem_of_getElem? hdrop

/-- Counting under a key is counting the nodes with this key. -/
theorem countP_under (nodes : List Node) (p : Node → Prop) [DecidablePred p] :
    (nodes.filter (·.key = key)).countP (fun node => p node) =
      nodes.countP fun node => node.key = key ∧ p node := by
  rw [List.countP_filter]
  refine List.countP_congr fun node _ => ?_
  rw [Bool.and_eq_true, decide_eq_true_eq, decide_eq_true_eq, decide_eq_true_eq, and_comm]

/-! The new side is the old side of the exchanged snapshots. -/

theorem nodeStatus?_unchanged_swap (h : Separate old new) (id : String) :
    (between new old).nodeStatus? id = some .unchanged ↔
      (between old new).nodeStatus? id = some .unchanged := by
  rw [nodeStatus?_swap h]
  cases (between old new).nodeStatus? id with
  | none => simp
  | some status => cases status <;> simp [Status.reversed]

theorem oldLeft_under_swap (h : Separate old new) :
    (pairingUnder new old key).oldLeft = (pairingUnder old new key).newLeft :=
  Pairing.oldLeft_swap (h.old_valid.nodes_nodup.filter _) (h.new_valid.nodes_nodup.filter _)

theorem leftUnder_new (h : Separate old new) :
    leftUnder new (between old new) key = (pairingUnder old new key).newLeft := by
  rw [← oldLeft_under_swap h, ← leftUnder_old h.symm]
  simp only [leftUnder, ne_eq, nodeStatus?_unchanged_swap h]

/-- A new node that is left over is not unchanged. -/
theorem nodeStatus?_ne_of_mem_newLeft (h : Separate old new) {n : Node}
    (hn : n ∈ (pairingUnder old new key).newLeft) :
    (between old new).nodeStatus? n.id ≠ some .unchanged := by
  intro hstatus
  rw [← oldLeft_under_swap h] at hn
  exact nodeStatus?_ne_of_mem_oldLeft h.symm hn ((nodeStatus?_unchanged_swap h _).mpr hstatus)

end

/-- **Under every key the delta pairs as many nodes as possible**, in the order of its priorities. -/
theorem between_pairsMaximally {old new : Snapshot} (hold : old.validate = .ok ())
    (hnew : new.validate = .ok ()) (hdisjoint : List.Disjoint old.nodeIds new.nodeIds)
    (key : NodeKey) : PairsMaximally old new (between old new) key := by
  have h : Separate old new :=
    ⟨Snapshot.validate_eq_ok_iff.mp hold, Snapshot.validate_eq_ok_iff.mp hnew, hdisjoint⟩
  have hperm := pairsUnder_perm h key
  have hsignature : ∀ pair ∈ (pairingUnder old new key).unchanged,
      pair.2.signature = pair.1.signature := fun pair => Pairing.signature_eq_of_mem_unchanged _ _
  constructor
  case old_unchanged =>
    intro o ho hkey hstatus
    obtain ⟨pair, hpair, rfl⟩ := List.mem_map.mp ((mem_unchanged_iff h ho hkey).mpr hstatus)
    exact ⟨pair.2, hperm.mem_iff.mpr hpair⟩
  case new_unchanged =>
    intro n hn hkey hstatus
    have hmem := (mem_new_side.mpr ⟨hn, hkey⟩).resolve_right fun hleft =>
      nodeStatus?_ne_of_mem_newLeft h hleft hstatus
    obtain ⟨pair, hpair, rfl⟩ := List.mem_map.mp hmem
    exact ⟨pair.1, hperm.mem_iff.mpr hpair⟩
  case same_signature =>
    exact fun pair hpair => (hsignature pair (hperm.subset hpair)).symm
  case count_signature =>
    intro s
    rw [hperm.countP_eq, ← countP_under, ← countP_under]
    refine Eq.trans (List.countP_congr fun pair hpair => ?_)
      (Pairing.countP_signature_unchanged _ _ s)
    simp [hsignature pair hpair]
  case count_position =>
    intro s p
    rw [hperm.countP_eq, ← countP_under, ← countP_under]
    refine Eq.trans (List.countP_congr fun pair hpair => ?_) (Pairing.countP_place_unchanged _ _ s p)
    simp [hsignature pair hpair]
  case left_signature =>
    rw [leftUnder_old h, leftUnder_new h]
    exact fun o ho n hn => Pairing.signature_ne_of_mem_left _ _ ho hn
  -- what is left over is paired in order: the modified nodes are a zip, the others are what it drops
  case modified =>
    rw [leftUnder_old h, leftUnder_new h]
    intro i o n ho hn
    have hpair : (o, n) ∈ (pairingUnder old new key).modified := by
      rw [pairingUnder, Pairing.modified_ofSides]
      exact List.mem_of_getElem? (List.getElem?_zip_eq_some.mpr ⟨ho, hn⟩)
    obtain ⟨hso, hsn⟩ := nodeStatus?_of_modified h hpair
    exact ⟨hso, hsn, counterpart?_of_mem_pairs h (List.mem_append_right _ hpair)⟩
  case removed =>
    rw [leftUnder_old h, leftUnder_new h]
    intro i o ho hi
    have hmem : o ∈ (pairingUnder old new key).removed := by
      rw [pairingUnder, Pairing.removed_ofSides]
      exact mem_drop_of_getElem? ho hi
    exact nodeStatus?_of_removed h hmem
  case added =>
    rw [leftUnder_old h, leftUnder_new h]
    intro i n hn hi
    have hmem : n ∈ (pairingUnder old new key).added := by
      rw [pairingUnder, Pairing.added_ofSides]
      exact mem_drop_of_getElem? hn hi
    exact nodeStatus?_of_added h hmem

theorem between_pairsMaximally_sample :
    sampleOld.validate = .ok () ∧ sampleNew.validate = .ok () ∧
      List.Disjoint sampleOld.nodeIds sampleNew.nodeIds ∧
      PairsMaximally sampleOld sampleNew (between sampleOld sampleNew) (.branch "m.f" "branch" "S") :=
  have hdisjoint : List.Disjoint sampleOld.nodeIds sampleNew.nodeIds :=
    List.disjoint_left.mpr (by decide)
  ⟨by decide, by decide, hdisjoint, between_pairsMaximally (by decide) (by decide) hdisjoint _⟩

end StructuralDiff.Delta
