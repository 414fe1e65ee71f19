import StructuralDiff.Proofs.Delta.Reversal

/-!
# Edges by count

Several edges can have one key, since line suffixes are no part of it. Under each key edges are matched by
count: as many as both snapshots have are unchanged.

* `edgeStatus?_of_mem_old`: the outcome of an old edge is decided under its own key.
* `KeepsSmallest`: so many edges of a snapshot under a key are unchanged, those with the smallest ids.
* `between_keepsSmallest`: this holds of both snapshots under every key, and no other outcome occurs.
-/

open scoped List

namespace StructuralDiff.Delta

/-- Of the edges of a snapshot under a key so many are unchanged, those with the smallest ids, and all others
have the given outcome. -/
structure KeepsSmallest (delta : Delta) (snapshot : Snapshot) (key : EdgeKey) (other : Status) (count : Nat) :
    Prop where
  outcome : ∀ edge ∈ snapshot.edges, snapshot.edgeKey edge = key →
    delta.edgeStatus? edge.id = some .unchanged ∨ delta.edgeStatus? edge.id = some other
  unchanged : snapshot.edges.countP (fun edge =>
    snapshot.edgeKey edge = key ∧ delta.edgeStatus? edge.id = some .unchanged) = count
  smallest : ∀ a ∈ snapshot.edges, ∀ b ∈ snapshot.edges, snapshot.edgeKey a = key →
    snapshot.edgeKey b = key → delta.edgeStatus? a.id = some .unchanged →
      delta.edgeStatus? b.id = some other → Text.order a.id b.id = .lt

/-- How many edges under a key both snapshots have. -/
def edgesInBoth (old new : Snapshot) (key : EdgeKey) : Nat :=
  min (old.edges.countP (old.edgeKey · = key)) (new.edges.countP (new.edgeKey · = key))

section

variable {old new : Snapshot}

/-- **The outcome of an old edge is decided under its own key.** -/
theorem edgeStatus?_of_mem_old (hold : old.Valid) (hnew : new.Valid)
    (hdisjoint : List.Disjoint old.edgeIds new.edgeIds) {edge : Edge} (hedge : edge ∈ old.edges)
    {status : Status} : (between old new).edgeStatus? edge.id = some status ↔ (edge.id, status) ∈
      edgeOutcomes (edgeIdsUnder old (old.edgeKey edge)) (edgeIdsUnder new (old.edgeKey edge)) := by
  rw [edgeStatus?_eq_some_iff hold hnew hdisjoint]
  constructor
  · rintro ⟨key, hkey⟩
    have hid := (map_fst_edgeOutcomes _ _).mem_iff.mp (List.mem_map_of_mem hkey)
    rcases List.mem_append.mp hid with hid | hid
    · -- an id stands for one edge, which has one key
      obtain ⟨other, hother, rfl, hsame⟩ := mem_edgeIdsUnder.mp hid
      obtain rfl := List.inj_on_of_nodup_map hold.edgeIds_nodup hother hedge hsame
      exact hkey
    · obtain ⟨other, hother, -, hsame⟩ := mem_edgeIdsUnder.mp hid
      have hmem : edge.id ∈ new.edgeIds := List.mem_map.mpr ⟨other, hother, hsame⟩
      exact absurd hmem (hdisjoint (List.mem_map_of_mem hedge))
  · exact fun hmem => ⟨_, hmem⟩

/-- Sorted texts of which none is repeated stand strictly in order. -/
theorem order_of_mem_take_of_mem_drop {ids : List String} (hnodup : ids.Nodup) {k : Nat} {a b : String}
    (ha : a ∈ (Text.sort ids).take k) (hb : b ∈ (Text.sort ids).drop k) : Text.order a b = .lt := by
  refine Text.order_of_le_of_ne ((Text.pairwise_sort ids).rel_of_mem_take_of_mem_drop ha hb) ?_
  exact ((Text.sort_perm ids).nodup_iff.mpr hnodup).rel_of_mem_take_of_mem_drop ha hb

/-- The first texts of a list are those that the list begins with. -/
theorem countP_mem_take {ids : List String} (hnodup : ids.Nodup) (k : Nat) :
    ids.countP (· ∈ ids.take k) = min k ids.length := by
  have hsplit := congrArg (List.countP (· ∈ ids.take k)) (List.take_append_drop k ids)
  have hfirst : (ids.take k).countP (· ∈ ids.take k) = (ids.take k).length :=
    List.countP_eq_length.mpr fun id hid => decide_eq_true hid
  have hrest : (ids.drop k).countP (· ∈ ids.take k) = 0 := by
    refine List.countP_eq_zero.mpr fun id hid hmem => ?_
    exact List.disjoint_take_drop hnodup le_rfl (of_decide_eq_true hmem) hid
  rw [List.countP_append, hfirst, hrest, List.length_take, Nat.add_zero] at hsplit
  exact hsplit.symm

/-- The old edges under a key are unchanged as far as the new snapshot has edges for them. -/
theorem keepsSmallest_old (hold : old.Valid) (hnew : new.Valid)
    (hdisjoint : List.Disjoint old.edgeIds new.edgeIds) (key : EdgeKey) :
    KeepsSmallest (between old new) old key .removed (edgesInBoth old new key) := by
  rw [edgesInBoth, ← length_edgeIdsUnder, ← length_edgeIdsUnder]
  generalize hk : min (edgeIdsUnder old key).length (edgeIdsUnder new key).length = k
  have hnodup : (edgeIdsUnder old key).Nodup := hold.edgeIds_nodup.sublist ((List.filter_sublist).map _)
  -- an old edge is not among the new ones, so its own side decides
  have houtcome {edge : Edge} (hedge : edge ∈ old.edges) (hkey : old.edgeKey edge = key) {status : Status} :
      (between old new).edgeStatus? edge.id = some status ↔
        (edge.id ∈ (Text.sort (edgeIdsUnder old key)).take k ∧ status = .unchanged) ∨
        (edge.id ∈ (Text.sort (edgeIdsUnder old key)).drop k ∧ status = .removed) := by
    have hnot : edge.id ∉ Text.sort (edgeIdsUnder new key) := by
      rw [Text.sort, List.mem_mergeSort, mem_edgeIdsUnder]
      rintro ⟨other, hother, -, hsame⟩
      exact hdisjoint (List.mem_map_of_mem hedge) (List.mem_map.mpr ⟨other, hother, hsame⟩)
    have htake : edge.id ∉ (Text.sort (edgeIdsUnder new key)).take k := fun h => hnot (List.mem_of_mem_take h)
    have hdrop : edge.id ∉ (Text.sort (edgeIdsUnder new key)).drop k := fun h => hnot (List.mem_of_mem_drop h)
    rw [edgeStatus?_of_mem_old hold hnew hdisjoint hedge, hkey, mem_edgeOutcomes, hk]
    simp only [htake, hdrop, false_and, or_false, false_or]
  have hunchanged {edge : Edge} (hedge : edge ∈ old.edges) (hkey : old.edgeKey edge = key) :
      (between old new).edgeStatus? edge.id = some .unchanged ↔
        edge.id ∈ (Text.sort (edgeIdsUnder old key)).take k := by
    simp [houtcome hedge hkey]
  refine ⟨fun edge hedge hkey => ?_, ?_, fun a ha b hb hka hkb hsa hsb => ?_⟩
  · have hmem : edge.id ∈ Text.sort (edgeIdsUnder old key) := by
      rw [Text.sort, List.mem_mergeSort]
      exact mem_edgeIdsUnder.mpr ⟨edge, hedge, hkey, rfl⟩
    rw [← List.take_append_drop k (Text.sort _), List.mem_append] at hmem
    refine hmem.imp (fun h => (houtcome hedge hkey).mpr (.inl ⟨h, rfl⟩)) fun h =>
      (houtcome hedge hkey).mpr (.inr ⟨h, rfl⟩)
  · have hperm : Text.sort (edgeIdsUnder old key) ~ edgeIdsUnder old key := Text.sort_perm _
    have hcount := countP_mem_take (hperm.nodup_iff.mpr hnodup) k
    have hle : k ≤ (edgeIdsUnder old key).length := hk ▸ Nat.min_le_left _ _
    rw [hperm.countP_eq, hperm.length_eq, Nat.min_eq_left hle, edgeIdsUnder, List.countP_map,
      List.countP_filter] at hcount
    refine Eq.trans (List.countP_congr fun edge hedge => ?_) hcount
    simp only [Function.comp_apply, Bool.and_eq_true, decide_eq_true_eq]
    rw [and_comm]
    exact and_congr_left fun hkey => hunchanged hedge hkey
  · have hb' : b.id ∈ (Text.sort (edgeIdsUnder old key)).drop k := by
      simpa using (houtcome hb hkb).mp hsb
    exact order_of_mem_take_of_mem_drop hnodup ((hunchanged ha hka).mp hsa) hb'

/-- The new edges are the old ones of the exchanged snapshots. -/
theorem keepsSmallest_new (hold : old.Valid) (hnew : new.Valid)
    (hdisjoint : List.Disjoint old.edgeIds new.edgeIds) (key : EdgeKey) :
    KeepsSmallest (between old new) new key .added (edgesInBoth old new key) := by
  have hswapped : List.Disjoint new.edgeIds old.edgeIds := fun _ hn ho => hdisjoint ho hn
  have h := keepsSmallest_old hnew hold hswapped key
  have hstatus (id : String) (status : Status) : (between new old).edgeStatus? id = some status.reversed ↔
      (between old new).edgeStatus? id = some status := by
    rw [edgeStatus?_swap hold hnew hdisjoint]
    cases (between old new).edgeStatus? id with
    | none => simp
    | some other => cases other <;> cases status <;> simp [Status.reversed]
  have hunchanged (id : String) := hstatus id .unchanged
  have hadded (id : String) := hstatus id .added
  simp only [Status.reversed] at hunchanged hadded
  rw [edgesInBoth, min_comm]
  obtain ⟨houtcome, hcount, hsmallest⟩ := h
  simp only [hunchanged, hadded] at houtcome hcount hsmallest
  exact ⟨houtcome, hcount, hsmallest⟩

end

/-- **Edges are matched by count**: the edges of two snapshots have outcomes and no others have, none is
modified, and under every key as many as both snapshots have are unchanged, those with the smallest ids; the
surplus is removed or added. -/
theorem between_keepsSmallest {old new : Snapshot} (hold : old.validate = .ok ())
    (hnew : new.validate = .ok ()) (hedges : List.Disjoint old.edgeIds new.edgeIds) :
    (∀ id, id ∈ (between old new).edgeStatus.keys ↔ id ∈ old.edgeIds ∨ id ∈ new.edgeIds) ∧
    (∀ id, (between old new).edgeStatus? id ≠ some .modified) ∧
    ∀ key, KeepsSmallest (between old new) old key .removed (edgesInBoth old new key) ∧
      KeepsSmallest (between old new) new key .added (edgesInBoth old new key) := by
  have hold' := Snapshot.validate_eq_ok_iff.mp hold
  have hnew' := Snapshot.validate_eq_ok_iff.mp hnew
  refine ⟨fun id => ?_, fun id hid => ?_, fun key => ⟨?_, ?_⟩⟩
  · rw [between, Table.mem_keys_ofList, map_fst_edgeStatuses_perm.mem_iff, List.mem_append]
  · obtain ⟨key, hkey⟩ := (edgeStatus?_eq_some_iff hold' hnew' hedges).mp hid
    simp [mem_edgeOutcomes] at hkey
  · exact keepsSmallest_old hold' hnew' hedges key
  · exact keepsSmallest_new hold' hnew' hedges key

/-- A function that registers three callbacks, which differ by their lines only. -/
def callbacksOld : Snapshot :=
  { repoId := "repo", snapshotId := "old", revision := "r"
    nodes := [sampleNode "o0" .function "m.f" 1 "F", sampleNode "o1" .function "m.f.callback@L2" 2 "A",
      sampleNode "o2" .function "m.f.callback@L3" 3 "B", sampleNode "o3" .function "m.f.callback@L4" 4 "C"]
    edges := [sampleCall "e3" "o0" "o1", sampleCall "e1" "o0" "o2", sampleCall "e2" "o0" "o3"] }

/-- One callback is left, on another line. -/
def callbacksNew : Snapshot :=
  { repoId := "repo", snapshotId := "new", revision := "r"
    nodes := [sampleNode "n0" .function "m.f" 1 "F", sampleNode "n1" .function "m.f.callback@L9" 9 "C"]
    edges := [sampleCall "e4" "n0" "n1", sampleCall "e5" "n1" "n1"] }

theorem between_keepsSmallest_callbacks :
    callbacksOld.validate = .ok () ∧ callbacksNew.validate = .ok () ∧
      List.Disjoint callbacksOld.edgeIds callbacksNew.edgeIds ∧
      (∀ id, id ∈ (between callbacksOld callbacksNew).edgeStatus.keys ↔
        id ∈ callbacksOld.edgeIds ∨ id ∈ callbacksNew.edgeIds) ∧
      (∀ id, (between callbacksOld callbacksNew).edgeStatus? id ≠ some .modified) ∧
      ∀ key, KeepsSmallest (between callbacksOld callbacksNew) callbacksOld key .removed
          (edgesInBoth callbacksOld callbacksNew key) ∧
        KeepsSmallest (between callbacksOld callbacksNew) callbacksNew key .added
          (edgesInBoth callbacksOld callbacksNew key) :=
  have hedges : List.Disjoint callbacksOld.edgeIds callbacksNew.edgeIds := List.disjoint_left.mpr (by decide)
  ⟨by decide, by decide, hedges, between_keepsSmallest (by decide) (by decide) hedges⟩

end StructuralDiff.Delta
