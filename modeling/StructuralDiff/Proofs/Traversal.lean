import Mathlib.Logic.Relation
import Mathlib.Data.List.Perm.Subperm
import StructuralDiff.Proofs.Repetition
import StructuralDiff.Traversal

/-!
# What a traversal finds

A breadth-first search finds everything that is reached from where it begins, and nothing else, if it is
given enough steps: one for each element of the queue, and one for each that may still be found. A climb from
parent to parent comes only to what is above.

* `transGen_of_mem_climb`: where a climb comes to.
* `Suffice.step`: what one step of the search preserves.
* `explore_add`: more steps than enough find nothing more.
* `mem_append_explore_iff`, `mem_reachable_iff`: what is found is what is reached.
-/

open Relation (ReflTransGen TransGen)

namespace StructuralDiff.Traversal

variable {α : Type} [BEq α]

/-- The element is among those that come next after the other one. -/
def Follows (next : α → List α) (a b : α) : Prop :=
  b ∈ next a

/-- So many steps are enough: one for each element of the queue, and one for each of all the
elements there are that has not been seen. -/
def Suffice (all : List α) (steps : Nat) (seen queue : List α) : Prop :=
  queue.length + (fresh seen all).length ≤ steps

@[simp]
theorem explore_queue_nil (next : α → List α) (steps : Nat) (seen : List α) :
    explore next steps seen [] = [] := by
  cases steps <;> rfl

variable {next : α → List α} {all seen found queue start : List α} {steps : Nat} {a b : α}

theorem Suffice.queue_eq_nil (h : Suffice all 0 seen queue) : queue = [] :=
  List.length_eq_zero_iff.1 (by rw [Suffice] at h; omega)

/-! ### Climbing -/

/-- What a climb finds is reached by going from parent to child, at least once. -/
theorem transGen_of_mem_climb {parent? : α → Option α} {R : α → α → Prop}
    (hparent : ∀ child parent, parent? child = some parent → R parent child) {steps : Nat} {seen : List α}
    {a b : α} (h : b ∈ climb parent? steps seen a) : TransGen R b a := by
  induction steps generalizing seen a with
  | zero => cases h
  | succ steps ih =>
    rw [climb] at h
    split at h
    · cases h
    · next p hp =>
      split at h
      · cases h
      · -- what is found further up reaches the parent, and the parent reaches where the climb began
        rcases List.mem_cons.1 h with rfl | hlater
        · exact .single (hparent a b hp)
        · exact (ih hlater).tail (hparent a p hp)

/-! ### What has not been seen -/

variable [LawfulBEq α]

@[simp]
theorem mem_fresh : b ∈ fresh seen found ↔ b ∈ found ∧ b ∉ seen := by
  simp [fresh]

theorem nodup_fresh : (fresh seen found).Nodup :=
  (nodup_eraseDups found).filter _

theorem length_fresh_le : (fresh seen all).length ≤ all.length :=
  (nodup_fresh.subperm fun _ h => (mem_fresh.1 h).1).length_le

/-- What has just been found is not counted any more as what may still be found. -/
theorem length_fresh_append_le (seen : List α) (h : found ⊆ all) :
    (fresh seen found).length + (fresh (seen ++ fresh seen found) all).length ≤
      (fresh seen all).length := by
  rw [← List.length_append]
  -- both together have no element twice, and only such as had not been seen
  refine (List.Nodup.subperm ?_ fun b hb => ?_).length_le
  · refine nodup_fresh.append nodup_fresh fun b hfound hlater => ?_
    exact (mem_fresh.1 hlater).2 (List.mem_append_right _ hfound)
  · rcases List.mem_append.1 hb with hfound | hlater
    · exact mem_fresh.2 ⟨h (mem_fresh.1 hfound).1, (mem_fresh.1 hfound).2⟩
    · obtain ⟨hmem, hunseen⟩ := mem_fresh.1 hlater
      exact mem_fresh.2 ⟨hmem, fun hseen => hunseen (List.mem_append_left _ hseen)⟩

/-! ### Enough steps -/

theorem suffice_of_le (h : queue.length + all.length ≤ steps) : Suffice all steps seen queue :=
  Nat.le_trans (Nat.add_le_add_left length_fresh_le _) h

/-- **One step of the search** leaves enough steps for the rest of it. -/
theorem Suffice.step (h : Suffice all (steps + 1) seen (a :: queue)) (hnext : next a ⊆ all) :
    Suffice all steps (seen ++ fresh seen (next a)) (queue ++ fresh seen (next a)) := by
  have hcount := length_fresh_append_le seen hnext
  rw [Suffice, List.length_cons] at h
  rw [Suffice, List.length_append]
  omega

/-- **The search ends**: more steps than enough find nothing more. -/
theorem explore_add (hall : ∀ a, next a ⊆ all) (h : Suffice all steps seen queue) (more : Nat) :
    explore next (steps + more) seen queue = explore next steps seen queue := by
  induction steps generalizing seen queue with
  | zero => rw [h.queue_eq_nil, explore_queue_nil, explore_queue_nil]
  | succ steps ih =>
    cases queue with
    | nil => rw [explore_queue_nil, explore_queue_nil]
    | cons a queue =>
      rw [Nat.succ_add, explore, explore, ih (h.step (hall a))]

/-! ### What is found -/

/-- What is found has not been seen before, and is reached from the queue. -/
theorem of_mem_explore (h : b ∈ explore next steps seen queue) :
    b ∉ seen ∧ ∃ a ∈ queue, TransGen (Follows next) a b := by
  induction steps generalizing seen queue with
  | zero => cases h
  | succ steps ih =>
    cases queue with
    | nil => cases h
    | cons a queue =>
      rw [explore, List.mem_append] at h
      rcases h with hfound | hlater
      · obtain ⟨hnext, hunseen⟩ := mem_fresh.1 hfound
        exact ⟨hunseen, a, List.mem_cons_self, .single hnext⟩
      · obtain ⟨hunseen, c, hc, hreached⟩ := ih hlater
        refine ⟨fun hseen => hunseen (List.mem_append_left _ hseen), ?_⟩
        rcases List.mem_append.1 hc with hqueue | hfound
        · exact ⟨c, List.mem_cons_of_mem _ hqueue, hreached⟩
        · exact ⟨a, List.mem_cons_self, .head (mem_fresh.1 hfound).1 hreached⟩

/-- With enough steps, what comes next after anything in the queue or found later has been seen or is found. -/
theorem follows_subset_explore (hall : ∀ a, next a ⊆ all) (h : Suffice all steps seen queue)
    (ha : a ∈ queue ++ explore next steps seen queue) : next a ⊆ seen ++ explore next steps seen queue := by
  induction steps generalizing seen queue with
  | zero =>
    rw [h.queue_eq_nil, explore_queue_nil] at ha
    cases ha
  | succ steps ih =>
    cases queue with
    | nil =>
      rw [explore_queue_nil] at ha
      cases ha
    | cons first queue =>
      rw [explore, ← List.append_assoc]
      rw [explore] at ha
      have hlater := ih (h.step (hall first))
      rcases List.mem_cons.1 ha with rfl | ha
      · -- the first of the queue: what has not been seen is found in this step
        intro b hb
        refine List.mem_append_left _ (List.mem_append.2 ?_)
        by_cases hseen : b ∈ seen
        · exact .inl hseen
        · exact .inr (mem_fresh.2 ⟨hb, hseen⟩)
      · refine hlater ?_
        rwa [List.append_assoc]

/-- **What is found is what is reached**: from some elements on, among all that there are. -/
theorem mem_append_explore_iff (hall : ∀ a, next a ⊆ all)
    (hsteps : start.length + all.length ≤ steps) :
    b ∈ start ++ explore next steps start start ↔ ∃ a ∈ start, ReflTransGen (Follows next) a b := by
  constructor
  · intro hb
    rcases List.mem_append.1 hb with hstart | hfound
    · exact ⟨b, hstart, .refl⟩
    · obtain ⟨-, a, ha, hreached⟩ := of_mem_explore hfound
      exact ⟨a, ha, hreached.to_reflTransGen⟩
  · rintro ⟨a, ha, hreached⟩
    induction hreached with
    | refl => exact List.mem_append_left _ ha
    | tail _ hnext ih => exact follows_subset_explore hall (suffice_of_le hsteps) ih hnext

/-- **What is reachable from an element** is what is reached from it in at least one step, itself apart. -/
theorem mem_reachable_iff {size : Nat} (hall : ∀ a, next a ⊆ all) (hsize : all.length ≤ size) :
    b ∈ reachable next size a ↔ b ≠ a ∧ TransGen (Follows next) a b := by
  constructor
  · intro hb
    obtain ⟨hunseen, first, hfirst, hreached⟩ := of_mem_explore hb
    rw [List.mem_singleton.1 hfirst] at hreached
    exact ⟨fun heq => hunseen (List.mem_singleton.2 heq), hreached⟩
  · rintro ⟨hne, hreached⟩
    have hsteps : [a].length + all.length ≤ size + 1 := by
      rw [List.length_singleton]
      omega
    have hfound := (mem_append_explore_iff hall hsteps (b := b)).2
      ⟨a, List.mem_singleton_self a, hreached.to_reflTransGen⟩
    rcases List.mem_append.1 hfound with hstart | hfound
    · exact absurd (List.mem_singleton.1 hstart) hne
    · exact hfound

end StructuralDiff.Traversal
