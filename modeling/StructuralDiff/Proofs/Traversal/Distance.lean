import Mathlib.Order.Lattice.Nat
import StructuralDiff.Proofs.Traversal

/-!
# In which order a search finds

A breadth-first search finds nothing twice, and what is nearer to its start it finds first. While it runs, the
queue stands in the order of distances and spans at most two of them, and everything that has not been seen is
further away than the first of the queue.

* `Walk`, `distance`: steps of a relation, and the least number of them.
* `Advances.step`: what one step of the search preserves.
* `Advances.pairwise_explore`: so the distances of what is found never decrease.
* `nodup_explore`: and nothing is found twice.
-/

open Relation (ReflTransGen TransGen)

namespace StructuralDiff.Traversal

/-! ### Distances -/

section Distance

variable {α : Type} {R : α → α → Prop} {start a b : α} {n : Nat}

/-- So many steps lead from an element to another one. -/
inductive Walk (R : α → α → Prop) (start : α) : Nat → α → Prop where
  | here : Walk R start 0 start
  | step {n : Nat} {a b : α} : Walk R start n a → R a b → Walk R start (n + 1) b

/-- The least number of steps that lead there. -/
noncomputable def distance (R : α → α → Prop) (start a : α) : Nat :=
  sInf {n | Walk R start n a}

theorem distance_le (h : Walk R start n a) : distance R start a ≤ n :=
  Nat.sInf_le h

/-- What is reached at all is reached in the least number of steps. -/
theorem walk_distance (h : ReflTransGen R start a) : Walk R start (distance R start a) a := by
  have hwalks : {n | Walk R start n a}.Nonempty := by
    induction h with
    | refl => exact ⟨0, .here⟩
    | tail _ hstep ih =>
      obtain ⟨n, hwalk⟩ := ih
      exact ⟨n + 1, Walk.step hwalk hstep⟩
  exact Nat.sInf_mem hwalks

theorem distance_le_succ (h : ReflTransGen R start a) (hstep : R a b) :
    distance R start b ≤ distance R start a + 1 :=
  distance_le ((walk_distance h).step hstep)

/-- A walk that leaves a set takes a step out of it somewhere. -/
theorem Walk.exists_exit (inside : α → Prop) (h : Walk R start n a) (hstart : inside start) (ha : ¬inside a) :
    ∃ m b c, m < n ∧ Walk R start m b ∧ inside b ∧ R b c ∧ ¬inside c := by
  induction h with
  | here => exact absurd hstart ha
  | @step n b c hwalk hstep ih =>
    by_cases hb : inside b
    · exact ⟨n, b, c, Nat.lt_succ_self n, hwalk, hb, hstep, ha⟩
    · obtain ⟨m, x, y, hm, hrest⟩ := ih hb
      exact ⟨m, x, y, Nat.lt_succ_of_lt hm, hrest⟩

end Distance

variable {α : Type} {next : α → List α} {seen queue : List α} {steps : Nat} {start first a b : α}

/-! ### A search on its way -/

/-- A search from `start` is on its way: what has been seen and does not wait has nothing unseen after it, and
what waits stands in the order of distances, of which there are at most two. -/
structure Advances (next : α → List α) (start : α) (seen queue : List α) : Prop where
  start_mem : start ∈ seen
  reached : ∀ a ∈ queue, ReflTransGen (Follows next) start a
  closed : ∀ a ∈ seen, a ∉ queue → next a ⊆ seen
  ordered : queue.Pairwise fun a b => distance (Follows next) start a ≤ distance (Follows next) start b
  close : ∀ a ∈ queue, ∀ b ∈ queue, distance (Follows next) start b ≤ distance (Follows next) start a + 1

namespace Advances

theorem begin (next : α → List α) (start : α) : Advances next start [start] [start] where
  start_mem := List.mem_singleton_self start
  reached a ha := List.mem_singleton.1 ha ▸ .refl
  closed a ha hwaits := absurd ha hwaits
  ordered := List.pairwise_singleton _ _
  close a ha b hb := by
    rw [List.mem_singleton.1 ha, List.mem_singleton.1 hb]
    exact Nat.le_succ _

/-- What has not been seen is further away than the first of the queue. -/
theorem lt_distance (h : Advances next start seen (first :: queue))
    (ha : ReflTransGen (Follows next) start a) (hunseen : a ∉ seen) :
    distance (Follows next) start first < distance (Follows next) start a := by
  obtain ⟨m, b, c, hm, hwalk, hb, hnext, hc⟩ := (walk_distance ha).exists_exit (· ∈ seen) h.start_mem
    hunseen
  -- the step out of what has been seen begins at something that waits
  have hwaits : b ∈ first :: queue := by
    by_contra hgone
    exact hc (h.closed b hb hgone hnext)
  have hfirst : distance (Follows next) start first ≤ distance (Follows next) start b := by
    rcases List.mem_cons.1 hwaits with rfl | hlater
    · exact Nat.le_refl _
    · exact List.rel_of_pairwise_cons h.ordered hlater
  have hwalked := distance_le hwalk
  omega

variable [BEq α] [LawfulBEq α]

theorem reached_fresh (h : Advances next start seen (first :: queue)) (ha : a ∈ fresh seen (next first)) :
    ReflTransGen (Follows next) start a :=
  (h.reached first List.mem_cons_self).tail (mem_fresh.1 ha).1

/-- What is found in a step is one step further away than the first of the queue. -/
theorem distance_fresh (h : Advances next start seen (first :: queue)) (ha : a ∈ fresh seen (next first)) :
    distance (Follows next) start a = distance (Follows next) start first + 1 := by
  have hle := distance_le_succ (h.reached first List.mem_cons_self) (mem_fresh.1 ha).1
  have hlt := h.lt_distance (h.reached_fresh ha) (mem_fresh.1 ha).2
  omega

/-- **One step of the search** keeps it on its way. -/
theorem step (h : Advances next start seen (first :: queue)) :
    Advances next start (seen ++ fresh seen (next first)) (queue ++ fresh seen (next first)) := by
  have hnear {a : α} (ha : a ∈ queue ++ fresh seen (next first)) :
      distance (Follows next) start first ≤ distance (Follows next) start a ∧
        distance (Follows next) start a ≤ distance (Follows next) start first + 1 := by
    rcases List.mem_append.1 ha with hold | hfound
    · exact ⟨List.rel_of_pairwise_cons h.ordered hold,
        h.close first List.mem_cons_self a (List.mem_cons_of_mem _ hold)⟩
    · rw [h.distance_fresh hfound]
      exact ⟨Nat.le_succ _, Nat.le_refl _⟩
  refine ⟨List.mem_append_left _ h.start_mem, fun a ha => ?_, fun a ha hgone => ?_, ?_, fun a ha b hb => ?_⟩
  · rcases List.mem_append.1 ha with hold | hfound
    · exact h.reached a (List.mem_cons_of_mem _ hold)
    · exact h.reached_fresh hfound
  · rw [List.mem_append, not_or] at hgone
    have hseen : a ∈ seen := (List.mem_append.1 ha).resolve_right hgone.2
    by_cases hfirst : a = first
    · -- what comes next after the first one has been seen, or is found now
      intro b hb
      by_cases hb' : b ∈ seen
      · exact List.mem_append_left _ hb'
      · exact List.mem_append_right _ (mem_fresh.2 ⟨hfirst ▸ hb, hb'⟩)
    · have hwaits : a ∉ first :: queue := by
        rw [List.mem_cons, not_or]
        exact ⟨hfirst, hgone.1⟩
      exact fun b hb => List.mem_append_left _ (h.closed a hseen hwaits hb)
  · refine List.pairwise_append.2 ⟨(List.pairwise_cons.1 h.ordered).2, ?_, fun a ha b hb => ?_⟩
    · refine List.pairwise_of_forall_mem_list fun a ha b hb => ?_
      rw [h.distance_fresh ha, h.distance_fresh hb]
    · rw [h.distance_fresh hb]
      exact (hnear (List.mem_append_left _ ha)).2
  · have hfar := (hnear hb).2
    have hnearer := (hnear ha).1
    omega

/-- **What is found comes in the order of distances.** -/
theorem pairwise_explore (h : Advances next start seen queue) :
    (explore next steps seen queue).Pairwise fun a b =>
      distance (Follows next) start a ≤ distance (Follows next) start b := by
  induction steps generalizing seen queue with
  | zero => exact .nil
  | succ steps ih =>
    cases queue with
    | nil =>
      rw [explore_queue_nil]
      exact .nil
    | cons first queue =>
      rw [explore]
      refine List.pairwise_append.2 ⟨?_, ih h.step, fun a ha b hb => ?_⟩
      · refine List.pairwise_of_forall_mem_list fun a ha b hb => ?_
        rw [h.distance_fresh ha, h.distance_fresh hb]
      · -- what is found later had not been seen before this step either
        obtain ⟨hunseen, waiting, hwaits, hreached⟩ := of_mem_explore hb
        have hstart := h.step.reached waiting hwaits
        rw [h.distance_fresh ha]
        exact h.lt_distance (hstart.trans hreached.to_reflTransGen) fun hseen =>
          hunseen (List.mem_append_left _ hseen)

end Advances

/-- **Nothing is found twice.** -/
theorem nodup_explore [BEq α] [LawfulBEq α] : (explore next steps seen queue).Nodup := by
  induction steps generalizing seen queue with
  | zero => exact List.nodup_nil
  | succ steps ih =>
    cases queue with
    | nil =>
      rw [explore_queue_nil]
      exact List.nodup_nil
    | cons a queue =>
      rw [explore]
      refine nodup_fresh.append ih fun b hfound hlater => ?_
      exact (of_mem_explore hlater).1 (List.mem_append_right _ hfound)

end StructuralDiff.Traversal
