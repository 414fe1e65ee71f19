import Mathlib.Data.List.Nodup
import StructuralDiff.Graph.Basic
import StructuralDiff.Proofs.Repetition

/-!
# Valid snapshots

What `Snapshot.validate` accepts: ids of nodes and of edges are unique and every edge has both endpoints.
In such a snapshot an id stands for one node.

* `validate_eq_ok_iff`: acceptance says exactly this.
* `Valid.node?_eq_some_iff`, `Valid.firstNode?_eq`: looking an id up finds the node that has it, from either end.
-/

namespace StructuralDiff.Snapshot

/-- Ids are unique and every edge has both its endpoints. -/
structure Valid (snapshot : Snapshot) : Prop where
  nodeIds_nodup : snapshot.nodeIds.Nodup
  edgeIds_nodup : snapshot.edgeIds.Nodup
  source_mem : ∀ edge ∈ snapshot.edges, edge.source ∈ snapshot.nodeIds
  target_mem : ∀ edge ∈ snapshot.edges, edge.target ∈ snapshot.nodeIds

theorem firstRepeat?_eq_none_iff : ∀ {seen ids : List String},
    firstRepeat? seen ids = none ↔ ids.Nodup ∧ ∀ id ∈ ids, id ∉ seen := by
  intro seen ids
  induction ids generalizing seen with
  | nil => simp [firstRepeat?]
  | cons id rest ih =>
    by_cases hid : id ∈ seen
    · simp [firstRepeat?, hid]
    · -- the head joins the ids seen before, so it may not occur in the rest
      rw [firstRepeat?, if_neg (by simpa using hid), ih]
      simp only [List.nodup_cons, List.mem_cons, not_or]
      constructor
      · rintro ⟨hnodup, hseen⟩
        refine ⟨⟨fun hmem => (hseen id hmem).1 rfl, hnodup⟩, ?_⟩
        rintro other (rfl | hother)
        · exact hid
        · exact (hseen other hother).2
      · rintro ⟨⟨hnot, hnodup⟩, hseen⟩
        refine ⟨hnodup, fun other hother => ⟨?_, hseen other (.inr hother)⟩⟩
        rintro rfl
        exact hnot hother

theorem edgeDefect?_eq_none_iff {ids : List String} : ∀ {seen : List String} {edges : List Edge},
    edgeDefect? ids seen edges = none ↔
      firstRepeat? seen (edges.map (·.id)) = none ∧
        ∀ edge ∈ edges, edge.source ∈ ids ∧ edge.target ∈ ids := by
  intro seen edges
  induction edges generalizing seen with
  | nil => simp [edgeDefect?, firstRepeat?]
  | cons edge rest ih =>
    rw [edgeDefect?, List.map_cons, firstRepeat?]
    by_cases hseen : seen.contains edge.id = true
    · rw [if_pos hseen, if_pos hseen]
      simp
    · rw [if_neg hseen, if_neg hseen]
      by_cases hs : edge.source ∈ ids
      · by_cases ht : edge.target ∈ ids
        · simp [hs, ht, ih]
        · simp [hs, ht]
      · simp [hs]

/-- **A snapshot is accepted exactly when it is a graph.** -/
theorem validate_eq_ok_iff {snapshot : Snapshot} :
    snapshot.validate = .ok () ↔ snapshot.Valid := by
  have hdefect : snapshot.validate = .ok () ↔ snapshot.defect? = none := by
    rw [validate]
    cases snapshot.defect? <;> simp
  rw [hdefect, defect?]
  constructor
  · intro h
    split at h
    · cases h
    · next hnodes =>
      obtain ⟨hedges, hends⟩ := edgeDefect?_eq_none_iff.mp h
      exact ⟨(firstRepeat?_eq_none_iff.mp hnodes).1, (firstRepeat?_eq_none_iff.mp hedges).1,
        fun edge hedge => (hends edge hedge).1, fun edge hedge => (hends edge hedge).2⟩
  · rintro ⟨hnodes, hedges, hsource, htarget⟩
    rw [firstRepeat?_eq_none_iff.mpr ⟨hnodes, by simp⟩]
    exact edgeDefect?_eq_none_iff.mpr ⟨firstRepeat?_eq_none_iff.mpr ⟨hedges, by simp⟩,
      fun edge hedge => ⟨hsource edge hedge, htarget edge hedge⟩⟩

namespace Valid

variable {snapshot : Snapshot}

/-- An id stands for one node. -/
theorem eq_of_id_eq (h : snapshot.Valid) {a b : Node} (ha : a ∈ snapshot.nodes)
    (hb : b ∈ snapshot.nodes) (hid : a.id = b.id) : a = b :=
  List.inj_on_of_nodup_map h.nodeIds_nodup ha hb hid

theorem nodes_nodup (h : snapshot.Valid) : snapshot.nodes.Nodup :=
  List.Nodup.of_map _ h.nodeIds_nodup

theorem node?_eq_some_iff (h : snapshot.Valid) {id : String} {node : Node} :
    snapshot.node? id = some node ↔ node ∈ snapshot.nodes ∧ node.id = id := by
  rw [node?, find?_reverse_eq_some_iff h.nodeIds_nodup fun _ => beq_iff_eq.mp, beq_iff_eq]

/-- Whether the first or the last node with an id is taken makes no difference. -/
theorem firstNode?_eq (h : snapshot.Valid) (id : String) : snapshot.firstNode? id = snapshot.node? id := by
  refine Option.ext fun node => ?_
  have hnodup : (snapshot.nodes.reverse.map (·.id)).Nodup := by
    rw [List.map_reverse, List.nodup_reverse]
    exact h.nodeIds_nodup
  have hfirst : snapshot.firstNode? id = snapshot.nodes.reverse.reverse.find? (·.id == id) := by
    rw [List.reverse_reverse]
    rfl
  rw [h.node?_eq_some_iff, hfirst, find?_reverse_eq_some_iff hnodup fun _ => beq_iff_eq.mp, beq_iff_eq,
    List.mem_reverse]

end Valid

end StructuralDiff.Snapshot
