import StructuralDiff.Proofs.Delta.Outcome

/-!
# Exchanging the two snapshots

The passes of a comparison run over the old side and search the new one. Their result is symmetric all
the same: exchanging the snapshots turns added into removed and removed into added, and nothing else.

* `nodeStatus?_swap`, `edgeStatus?_swap`, `counterpart?_swap`: what each look-up says afterwards.
* `between_swap`: all of them together.
-/

open scoped List

namespace StructuralDiff

namespace Pairing

/-- An outcome of the exchanged sides is the reverse of an outcome. -/
theorem mem_statuses_swap {old new : List Node} (hold : old.Nodup) (hnew : new.Nodup) {id : String}
    {status : Status} (h : (id, status) ∈ (ofSides new old).statuses) :
    (id, status.reversed) ∈ (ofSides old new).statuses := by
  rw [mem_statuses] at h ⊢
  obtain ⟨pair, hpair, hid, rfl⟩ | ⟨pair, hpair, hid, rfl⟩ | ⟨o, ho, hid, rfl⟩ | ⟨n, hn, hid, rfl⟩ := h
  · obtain ⟨mirror, hmirror, rfl⟩ := List.mem_map.mp ((unchanged_swap hold hnew).subset hpair)
    exact .inl ⟨mirror, hmirror, hid.symm, rfl⟩
  · rw [modified_swap hold hnew] at hpair
    obtain ⟨mirror, hmirror, rfl⟩ := List.mem_map.mp hpair
    exact .inr (.inl ⟨mirror, hmirror, hid.symm, rfl⟩)
  · rw [removed_swap hold hnew] at ho
    exact .inr (.inr (.inr ⟨o, ho, hid, rfl⟩))
  · rw [← removed_swap hnew hold] at hn
    exact .inr (.inr (.inl ⟨n, hn, hid, rfl⟩))

/-- The exchanged sides have the same counterparts. -/
theorem mem_counterparts_swap {old new : List Node} (hold : old.Nodup) (hnew : new.Nodup)
    {a b : String} (h : (a, b) ∈ (ofSides new old).counterparts) :
    (a, b) ∈ (ofSides old new).counterparts := by
  rw [mem_counterparts] at h ⊢
  obtain ⟨pair, hpair, hids⟩ := h
  have hmirror : pair ∈ ((ofSides old new).unchanged ++ (ofSides old new).modified).map Prod.swap := by
    rw [List.map_append, ← modified_swap hold hnew]
    exact ((unchanged_swap hold hnew).append_right _).subset hpair
  obtain ⟨mirror, hmem, rfl⟩ := List.mem_map.mp hmirror
  exact ⟨mirror, hmem, hids.symm⟩

end Pairing

namespace Delta

/-- A look-up whose outcomes are the reversed ones of another look-up is that look-up reversed. -/
theorem eq_map_reversed {x y : Option Status}
    (h : ∀ status, x = some status ↔ y = some status.reversed) : x = y.map Status.reversed := by
  refine Option.ext fun status => ?_
  rw [h, Option.map_eq_some_iff]
  constructor
  · intro hstatus
    exact ⟨status.reversed, hstatus, Status.reversed_reversed status⟩
  · rintro ⟨original, horiginal, rfl⟩
    rwa [Status.reversed_reversed]

variable {old new : Snapshot}

/-! ### Nodes -/

theorem mem_statuses_under_swap (h : Separate old new) {key : NodeKey} {id : String} {status : Status} :
    (id, status) ∈ (pairingUnder new old key).statuses ↔
      (id, status.reversed) ∈ (pairingUnder old new key).statuses := by
  have hold := h.old_valid.nodes_nodup.filter (fun node => node.key = key)
  have hnew := h.new_valid.nodes_nodup.filter (fun node => node.key = key)
  refine ⟨Pairing.mem_statuses_swap hold hnew, fun hmem => ?_⟩
  have hback := Pairing.mem_statuses_swap hnew hold hmem
  rwa [Status.reversed_reversed] at hback

/-- Exchanging the snapshots reverses the outcomes of the nodes. -/
theorem nodeStatus?_swap (h : Separate old new) (id : String) :
    (between new old).nodeStatus? id = ((between old new).nodeStatus? id).map Status.reversed := by
  refine eq_map_reversed fun status => ?_
  rw [nodeStatus?_eq_some_iff h.symm, nodeStatus?_eq_some_iff h]
  exact exists_congr fun key => mem_statuses_under_swap h

/-- Exchanging the snapshots keeps the counterparts. -/
theorem counterpart?_swap (h : Separate old new) (id : String) :
    (between new old).counterpart? id = (between old new).counterpart? id := by
  refine Option.ext fun other => ?_
  rw [counterpart?_eq_some_iff h.symm, counterpart?_eq_some_iff h]
  refine exists_congr fun key => ?_
  have hold := h.old_valid.nodes_nodup.filter (fun node => node.key = key)
  have hnew := h.new_valid.nodes_nodup.filter (fun node => node.key = key)
  exact ⟨Pairing.mem_counterparts_swap hold hnew, Pairing.mem_counterparts_swap hnew hold⟩

/-! ### Edges -/

theorem mem_edgeOutcomes {old new : List String} {id : String} {status : Status} :
    (id, status) ∈ edgeOutcomes old new ↔
      (id ∈ (Text.sort old).take (min old.length new.length) ∧ status = .unchanged) ∨
      (id ∈ (Text.sort new).take (min old.length new.length) ∧ status = .unchanged) ∨
      (id ∈ (Text.sort old).drop (min old.length new.length) ∧ status = .removed) ∨
      (id ∈ (Text.sort new).drop (min old.length new.length) ∧ status = .added) := by
  have hone : ∀ (ids : List String) (s : Status),
      (id, status) ∈ ids.map (·, s) ↔ id ∈ ids ∧ status = s := by
    intro ids s
    simp [eq_comm]
  have hlength : ∀ ids : List String, (Text.sort ids).length = ids.length := fun ids =>
    List.length_mergeSort ids
  simp only [edgeOutcomes, hlength, List.mem_append, hone, or_assoc]

theorem mem_edgeOutcomes_swap {old new : List String} {id : String} {status : Status} :
    (id, status) ∈ edgeOutcomes new old ↔ (id, status.reversed) ∈ edgeOutcomes old new := by
  rw [mem_edgeOutcomes, mem_edgeOutcomes, min_comm]
  cases status with
  | added => simp [Status.reversed]
  | removed => simp [Status.reversed]
  | modified => simp [Status.reversed]
  | unchanged => simp [Status.reversed, or_comm]

/-- Exchanging the snapshots reverses the outcomes of the edges. -/
theorem edgeStatus?_swap (hold : old.Valid) (hnew : new.Valid)
    (hdisjoint : List.Disjoint old.edgeIds new.edgeIds) (id : String) :
    (between new old).edgeStatus? id = ((between old new).edgeStatus? id).map Status.reversed := by
  have hswapped : List.Disjoint new.edgeIds old.edgeIds := fun _ hn ho => hdisjoint ho hn
  refine eq_map_reversed fun status => ?_
  rw [edgeStatus?_eq_some_iff hnew hold hswapped, edgeStatus?_eq_some_iff hold hnew hdisjoint]
  exact exists_congr fun key => mem_edgeOutcomes_swap

/-- **Exchanging the snapshots reverses the delta and nothing else.** -/
theorem between_swap (hold : old.validate = .ok ()) (hnew : new.validate = .ok ())
    (hnodes : List.Disjoint old.nodeIds new.nodeIds) (hedges : List.Disjoint old.edgeIds new.edgeIds) :
    (∀ id, (between new old).nodeStatus? id =
      ((between old new).nodeStatus? id).map Status.reversed) ∧
    (∀ id, (between new old).edgeStatus? id =
      ((between old new).edgeStatus? id).map Status.reversed) ∧
    (∀ id, (between new old).counterpart? id = (between old new).counterpart? id) := by
  have hold' := Snapshot.validate_eq_ok_iff.mp hold
  have hnew' := Snapshot.validate_eq_ok_iff.mp hnew
  have h : Separate old new := ⟨hold', hnew', hnodes⟩
  exact ⟨nodeStatus?_swap h, edgeStatus?_swap hold' hnew' hedges, counterpart?_swap h⟩

theorem between_swap_sample :
    sampleOld.validate = .ok () ∧ sampleNew.validate = .ok () ∧
      List.Disjoint sampleOld.nodeIds sampleNew.nodeIds ∧
      List.Disjoint sampleOld.edgeIds sampleNew.edgeIds ∧
      (∀ id, (between sampleNew sampleOld).nodeStatus? id =
        ((between sampleOld sampleNew).nodeStatus? id).map Status.reversed) ∧
      (∀ id, (between sampleNew sampleOld).edgeStatus? id =
        ((between sampleOld sampleNew).edgeStatus? id).map Status.reversed) ∧
      (∀ id, (between sampleNew sampleOld).counterpart? id =
        (between sampleOld sampleNew).counterpart? id) :=
  have hnodes : List.Disjoint sampleOld.nodeIds sampleNew.nodeIds :=
    List.disjoint_left.mpr (by decide)
  have hedges : List.Disjoint sampleOld.edgeIds sampleNew.edgeIds :=
    List.disjoint_left.mpr (by decide)
  ⟨by decide, by decide, hnodes, hedges, between_swap (by decide) (by decide) hnodes hedges⟩

end Delta

end StructuralDiff
