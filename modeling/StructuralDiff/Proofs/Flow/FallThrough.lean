import StructuralDiff.Proofs.Flow.Liveness

/-!
# The two flags of falling through

Whether control can fall through is said by a statement alone, which takes both sides of every condition for
possible, and again by what the statement becomes, where a side that is never taken does not count. A block
goes by the statements alone.

* `FlowStmt.deadSideFalls`: nothing but the side that is never taken falls through.
* `FlowStmt.falls_lower`: the two flags of a statement differ for such conditions and for no other statement.
* `FlowStmt.falls_agree_iff`: when the flags of statements and of blocks agree.
-/

namespace StructuralDiff

/-! ### The flags of what is put together -/

namespace Lowered

theorem falls_ofGuarded (id : Nat) (site : Site) (body handlers finalSide : Lowered) :
    (ofGuarded id site body handlers finalSide).falls = ((body.falls || handlers.falls) && finalSide.falls) := by
  rw [ofGuarded]
  cases finalSide.entry <;> rfl

theorem falls_ofCond_absent (id : Nat) (site : Site) (truth : Option Bool) (thenSide elseSide : Lowered) :
    (ofCond id site truth thenSide elseSide false).falls = true := rfl

theorem falls_ofCond (id : Nat) (site : Site) (truth : Option Bool) (thenSide elseSide : Lowered) :
    (ofCond id site truth thenSide elseSide true).falls =
      ((truth != some false && thenSide.falls) || (truth != some true && elseSide.falls)) := rfl

end Lowered

namespace FlowStmt

open Lowered

theorem falls_lowerOption (n : Nat) (body : Option (List FlowStmt)) :
    (lowerOption n body).falls = optionFallsThrough body := by
  cases body with
  | none => rfl
  | some body => exact falls_lowerFrom n none [] body

theorem falls_lowerHandlers (source n : Nat) (handlers : List (List FlowStmt)) :
    (lowerHandlers source n handlers).falls = anyFallsThrough handlers := by
  induction handlers generalizing n with
  | nil => rfl
  | cons body rest ih => simp only [lowerHandlers, anyFallsThrough, falls_lowerFrom, ih]

/-! ### Conditions with a side that is never taken -/

/-- A condition with a known value and an else, where control gets through the side that is never taken but
not through the other one. -/
def deadSideFalls : FlowStmt → Bool
  | .cond _ (some true) thenBody (some elseBody) => !blockFallsThrough thenBody && blockFallsThrough elseBody
  | .cond _ (some false) thenBody (some elseBody) => blockFallsThrough thenBody && !blockFallsThrough elseBody
  | _ => false

theorem fallsThrough_of_deadSideFalls {stmt : FlowStmt} (h : deadSideFalls stmt = true) :
    fallsThrough stmt = true := by
  unfold deadSideFalls at h
  split at h
  · rw [Bool.and_eq_true] at h
    rw [fallsThrough, optionFallsThrough, h.2, Bool.or_true]
  · rw [Bool.and_eq_true] at h
    rw [fallsThrough, h.1, Bool.true_or]
  · cases h

/-- **The flag of a lowered statement** is the one of the statement, unless control only gets through a side that
is never taken. -/
theorem falls_lower (n : Nat) (stmt : FlowStmt) :
    (lower n stmt).falls = (fallsThrough stmt && !deadSideFalls stmt) := by
  match stmt with
  | .cond site truth thenBody none =>
    simp [lower, falls_ofCond_absent, fallsThrough, optionFallsThrough, deadSideFalls]
  | .cond site truth thenBody (some elseBody) =>
    simp only [lower, Option.isSome_some, falls_ofCond, falls_lowerFrom, falls_lowerOption, fallsThrough,
      optionFallsThrough]
    -- The value of the condition and the flags of its sides decide what either flag is.
    rcases truth with - | - | - <;> cases hthen : blockFallsThrough thenBody <;>
      cases helse : blockFallsThrough elseBody <;> simp [deadSideFalls, hthen, helse]
  | .guarded site body handlers finalBody =>
    simp [lower, falls_ofGuarded, falls_lowerFrom, falls_lowerHandlers, falls_lowerOption, fallsThrough,
      deadSideFalls]
  | .scoped _ body | .sequence body => simp [lower, falls_lowerFrom, fallsThrough, deadSideFalls]
  | .exit _ | .call _ | .loop _ _ | .plain _ => simp [lower, fallsThrough, deadSideFalls]

/-! ### Blocks -/

/-- What the statements of a block become, one after the other. -/
def lowerEach (n : Nat) : List FlowStmt → List Lowered
  | [] => []
  | stmt :: rest => lower n stmt :: lowerEach (lower n stmt).next rest

theorem all_falls_lowerEach (n : Nat) (body : List FlowStmt) :
    (lowerEach n body).all (·.falls) =
      (blockFallsThrough body && body.all fun stmt => !deadSideFalls stmt) := by
  induction body generalizing n with
  | nil => rfl
  | cons stmt rest ih =>
    simp only [lowerEach, List.all_cons, blockFallsThrough, falls_lower, ih]
    grind

/-- **When the flags agree**: those of a statement, unless control only gets through a side of it that is never
taken; those of a block, unless control gets through it as its statements say, and one of them is of this kind. -/
theorem falls_agree_iff (n : Nat) (stmt : FlowStmt) (body : List FlowStmt) :
    ((lower n stmt).falls = fallsThrough stmt ↔ deadSideFalls stmt = false) ∧
    ((lowerBlock n body).falls = (lowerEach n body).all (·.falls) ↔
      (blockFallsThrough body = true → ∀ stmt ∈ body, deadSideFalls stmt = false)) := by
  constructor
  · have hfalls := @fallsThrough_of_deadSideFalls stmt
    rw [falls_lower]
    cases hdead : deadSideFalls stmt
    · simp
    · simp [hfalls hdead]
  · rw [lowerBlock, falls_lowerFrom, all_falls_lowerEach]
    cases blockFallsThrough body
    · simp
    · rw [Bool.true_and, eq_comm, List.all_eq_true]
      simp

/-- A return under a condition that is always true; the else does nothing. -/
def certainReturn : FlowStmt :=
  .cond default (some true) [.exit default] (some [.plain true])

/-- Control never gets through a certain return, but the statement says so, and a block goes by it: a condition
around it is left as if its body could be left at the end. -/
theorem falls_disagree_certainReturn :
    (lower 0 certainReturn).falls ≠ fallsThrough certainReturn ∧
    (lowerBlock 0 [certainReturn]).falls ≠ (lowerEach 0 [certainReturn]).all (·.falls) ∧
    .link 0 3 .next ∈ (Skeleton.ofBody [.cond default none [certainReturn] none, .call default]).pieces := by
  decide

end FlowStmt

end StructuralDiff
