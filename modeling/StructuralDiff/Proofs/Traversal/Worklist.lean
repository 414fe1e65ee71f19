import Mathlib.Logic.Function.Iterate
import StructuralDiff.Proofs.Traversal

/-!
# Searches without a bound

A search that goes on until nothing waits needs no bound on its steps: it ends by itself, with what the bounded
search finds. In each of its rounds it takes the first that waits and visits what comes next after it, one by
one. A climb goes on until there is no parent or one that has been seen, and misses nothing on its way.

* `Search`: what a search remembers, and its rounds.
* `Search.found_iterate_round`: after some rounds, it has found what the bounded search finds in so many steps.
* `Search.ends`: nothing waits after so many rounds as there are elements, and one more.
* `mem_climb_iff`: what a climb finds is all that is above.
-/

open Relation (TransGen)

namespace StructuralDiff.Traversal

variable {α : Type} [BEq α]

/-! ### Rounds of a search -/

/-- What a search remembers: what has been seen, what waits, and what has been found. -/
structure Search (α : Type) where
  seen : List α
  queue : List α
  found : List α

namespace Search

/-- A search from an element. -/
def begin (start : α) : Search α :=
  { seen := [start], queue := [start], found := [] }

/-- What has not been seen before is found, and waits. -/
def visit (search : Search α) (a : α) : Search α :=
  if search.seen.contains a then search
  else { seen := search.seen ++ [a], queue := search.queue ++ [a], found := search.found ++ [a] }

/-- The first that waits is taken, and what comes next after it is visited one by one. -/
def round (next : α → List α) (search : Search α) : Search α :=
  match search.queue with
  | [] => search
  | a :: queue => (next a).foldl visit { search with queue }

end Search

/-! ### Visits one by one -/

variable [LawfulBEq α]

/-- It does not matter whether repetitions or unwanted elements are dropped first. -/
theorem eraseDups_filter (p : α → Bool) (l : List α) : (l.filter p).eraseDups = l.eraseDups.filter p := by
  -- the tail is filtered before the recursion, so the induction is on the length
  induction hn : l.length using Nat.strongRecOn generalizing l with
  | ind n ih =>
    cases l with
    | nil => rfl
    | cons a l =>
      rw [List.length_cons] at hn
      have hothers : ((l.filter fun b => !b == a).filter p).eraseDups =
          (l.filter fun b => !b == a).eraseDups.filter p := by
        refine ih _ ?_ _ rfl
        have := l.length_filter_le fun b => !b == a
        omega
      rw [List.eraseDups_cons, List.filter_cons, List.filter_cons]
      cases ha : p a with
      | true =>
        rw [if_pos rfl, if_pos rfl, List.eraseDups_cons, List.filter_filter, ← hothers, List.filter_filter]
        simp only [Bool.and_comm]
      | false =>
        rw [if_neg Bool.false_ne_true, if_neg Bool.false_ne_true, ← hothers, List.filter_filter]
        refine congrArg List.eraseDups (List.filter_congr fun b _ => ?_)
        by_cases hb : b = a
        · simp [hb, ha]
        · simp [hb]

theorem fresh_cons (seen : List α) (a : α) (l : List α) :
    fresh seen (a :: l) = if a ∈ seen then fresh seen l else a :: fresh (seen ++ [a]) l := by
  rw [fresh, List.eraseDups_cons, eraseDups_filter, List.filter_cons, List.filter_filter]
  by_cases ha : a ∈ seen
  · rw [if_neg (by simpa using ha), if_pos ha, fresh]
    refine List.filter_congr fun b _ => ?_
    by_cases hb : b = a
    · simp [hb, ha]
    · simp [hb]
  · rw [if_pos (by simpa using ha), if_neg ha, fresh]
    refine congrArg (a :: ·) (List.filter_congr fun b _ => ?_)
    by_cases hb : b = a
    · simp [hb]
    · simp [hb]

namespace Search

/-- Visiting one by one finds what has not been seen. -/
theorem foldl_visit (l : List α) (search : Search α) : l.foldl visit search =
    { seen := search.seen ++ fresh search.seen l
      queue := search.queue ++ fresh search.seen l
      found := search.found ++ fresh search.seen l } := by
  induction l generalizing search with
  | nil => simp [fresh]
  | cons a l ih =>
    rw [List.foldl_cons, ih, visit, fresh_cons]
    by_cases ha : a ∈ search.seen
    · simp [ha]
    · simp [ha]

variable {next : α → List α} {all : List α} {start a b : α}

/-- **After some rounds**, the search has found what the bounded one finds in so many steps. -/
theorem found_iterate_round (steps : Nat) (search : Search α) :
    ((round next)^[steps] search).found =
      search.found ++ explore next steps search.seen search.queue := by
  induction steps generalizing search with
  | zero => simp [explore]
  | succ steps ih =>
    rw [Function.iterate_succ_apply, ih, round]
    cases hqueue : search.queue with
    | nil => simp [hqueue]
    | cons a queue => simp [foldl_visit, explore]

/-- With enough rounds nothing waits any more. -/
theorem queue_iterate_round (hall : ∀ a, next a ⊆ all) (steps : Nat) (search : Search α)
    (h : Suffice all steps search.seen search.queue) : ((round next)^[steps] search).queue = [] := by
  induction steps generalizing search with
  | zero => exact h.queue_eq_nil
  | succ steps ih =>
    cases hqueue : search.queue with
    | nil =>
      have hover : round next search = search := by rw [round, hqueue]
      rw [Function.iterate_fixed hover, hqueue]
    | cons a queue =>
      rw [hqueue] at h
      have hnext : round next search =
          { seen := search.seen ++ fresh search.seen (next a)
            queue := queue ++ fresh search.seen (next a)
            found := search.found ++ fresh search.seen (next a) } := by
        rw [round, hqueue]
        exact foldl_visit _ _
      rw [Function.iterate_succ_apply, hnext]
      exact ih _ (h.step (hall a))

/-- **The search ends by itself**, and has found what is reachable then. -/
theorem ends (hall : ∀ a, next a ⊆ all) {size : Nat} (hsize : all.length ≤ size) (start : α) :
    ((round next)^[size + 1] (begin start)).queue = [] ∧
      ((round next)^[size + 1] (begin start)).found = reachable next size start := by
  refine ⟨queue_iterate_round hall _ _ (suffice_of_le ?_), ?_⟩
  · show 1 + all.length ≤ size + 1
    omega
  · rw [found_iterate_round]
    rfl

end Search

/-! ### Nothing is missed on the way up -/

section Climb

variable {parent? : α → Option α} {all seen : List α} {steps size : Nat} {a b child parent : α}

/-- Of what a climb has seen on its way to `a`, all parents have been seen, except that of `a` itself. -/
def Passed (parent? : α → Option α) (seen : List α) (a : α) : Prop :=
  ∀ child ∈ seen, child ≠ a → ∀ parent, parent? child = some parent → parent ∈ seen

omit [BEq α] [LawfulBEq α] in
/-- One step up: the parent of `a` is the only one that is new. -/
theorem Passed.step (h : Passed parent? seen a) (ha : parent? a = some b) (hchild : child = a ∨ child ∈ seen)
    (hparent : parent? child = some parent) : parent ∈ b :: seen := by
  by_cases hne : child = a
  · rw [hne, ha] at hparent
    exact Option.some.inj hparent ▸ List.mem_cons_self
  · exact List.mem_cons_of_mem b (h child (hchild.resolve_left hne) hne parent hparent)

/-- At the end all parents have been seen, if there were more steps than elements to come. -/
theorem Passed.parent_mem_climb (h : Passed parent? seen a)
    (hall : ∀ child parent, parent? child = some parent → parent ∈ all) (hnodup : seen.Nodup)
    (hseen : seen ⊆ all) (hsteps : all.length < steps + seen.length)
    (hchild : child = a ∨ child ∈ seen ++ climb parent? steps seen a)
    (hparent : parent? child = some parent) : parent ∈ seen ++ climb parent? steps seen a := by
  induction steps generalizing seen a with
  | zero =>
    have hfew := (hnodup.subperm hseen).length_le
    omega
  | succ steps ih =>
    rw [climb] at hchild ⊢
    cases ha : parent? a with
    | none =>
      simp only [ha, List.append_nil] at hchild ⊢
      have hne : child ≠ a := by
        rintro rfl
        rw [ha] at hparent
        cases hparent
      exact h child (hchild.resolve_left hne) hne parent hparent
    | some b =>
      simp only [ha] at hchild ⊢
      by_cases hagain : b ∈ seen
      · -- the climb has come back to where it was, so it is over
        rw [if_pos (by simpa using hagain), List.append_nil] at hchild ⊢
        rcases List.mem_cons.1 (h.step ha hchild hparent) with rfl | hmem
        · exact hagain
        · exact hmem
      · rw [if_neg (by simpa using hagain)] at hchild ⊢
        have hmiddle {c : α} : c ∈ seen ++ b :: climb parent? steps (b :: seen) b ↔
            c ∈ (b :: seen) ++ climb parent? steps (b :: seen) b := List.perm_middle.mem_iff
        rw [hmiddle] at hchild ⊢
        have hnext : Passed parent? (b :: seen) b := fun child hchild hne parent hparent =>
          h.step ha (.inr ((List.mem_cons.1 hchild).resolve_left hne)) hparent
        rcases hchild with hchild | hchild
        · exact List.mem_append_left _ (h.step ha (.inl hchild) hparent)
        · refine ih hnext (List.nodup_cons.2 ⟨hagain, hnodup⟩) (List.cons_subset.2 ⟨hall a b ha, hseen⟩) ?_
            (.inr hchild)
          rw [List.length_cons]
          omega

/-- **What a climb finds is all that is above.** -/
theorem mem_climb_iff (hall : ∀ child parent, parent? child = some parent → parent ∈ all)
    (hsize : all.length ≤ size) :
    b ∈ climb parent? (size + 1) [] a ↔ TransGen (fun parent child => parent? child = some parent) b a := by
  constructor
  · exact transGen_of_mem_climb fun _ _ => id
  · have hclosed {child parent : α} (hchild : child = a ∨ child ∈ climb parent? (size + 1) [] a)
        (hparent : parent? child = some parent) : parent ∈ climb parent? (size + 1) [] a := by
      have hsteps : all.length < size + 1 + ([] : List α).length := Nat.lt_succ_of_le hsize
      have hpassed : Passed parent? [] a := fun child hchild => absurd hchild List.not_mem_nil
      exact hpassed.parent_mem_climb hall List.nodup_nil (List.nil_subset all) hsteps hchild hparent
    intro habove
    induction habove using TransGen.head_induction_on with
    | single hparent => exact hclosed (.inl rfl) hparent
    | head hparent _ ih => exact hclosed (.inr ih) hparent

end Climb

end StructuralDiff.Traversal
