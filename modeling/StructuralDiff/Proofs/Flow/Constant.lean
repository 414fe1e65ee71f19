import StructuralDiff.Flow.Skeleton

/-!
# Conditions that are always true

A condition with an else gets no link to the side that is never taken. Without an else, only the value of a
condition that is always false is looked at.

* `FlowStmt.forget`: forgets the values of conditions that are always true and have no else.
* `FlowStmt.lower_forget`: this makes no difference to what a statement becomes.
* `Skeleton.ofBody_forget`: nor to the skeleton of a function.
-/

namespace StructuralDiff

namespace FlowStmt

open Lowered

mutual

/-- The statement with the value of each condition forgotten that is always true and has no else. -/
def forget : FlowStmt → FlowStmt
  | .cond site truth thenBody none =>
    .cond site (if truth = some true then none else truth) (blockForget thenBody) none
  | .cond site truth thenBody (some elseBody) =>
    .cond site truth (blockForget thenBody) (some (blockForget elseBody))
  | .exit site => .exit site
  | .call site => .call site
  | .loop site body => .loop site (blockForget body)
  | .guarded site body handlers finalBody =>
    .guarded site (blockForget body) (allForget handlers) (optionForget finalBody)
  | .scoped site body => .scoped site (blockForget body)
  | .sequence body => .sequence (blockForget body)
  | .plain falls => .plain falls

/-- The same for a block. -/
def blockForget : List FlowStmt → List FlowStmt
  | [] => []
  | stmt :: rest => forget stmt :: blockForget rest

/-- The same for a block that may be absent. -/
def optionForget : Option (List FlowStmt) → Option (List FlowStmt)
  | none => none
  | some body => some (blockForget body)

/-- The same for several blocks. -/
def allForget : List (List FlowStmt) → List (List FlowStmt)
  | [] => []
  | body :: rest => blockForget body :: allForget rest

end

mutual

theorem fallsThrough_forget (stmt : FlowStmt) : fallsThrough (forget stmt) = fallsThrough stmt := by
  match stmt with
  | .cond site truth thenBody none => simp only [forget, fallsThrough, blockFallsThrough_forget thenBody]
  | .cond site truth thenBody (some elseBody) =>
    simp only [forget, fallsThrough, optionFallsThrough, blockFallsThrough_forget thenBody,
      blockFallsThrough_forget elseBody]
  | .exit _ | .call _ | .plain _ | .loop _ _ => rfl
  | .guarded site body handlers finalBody =>
    simp only [forget, fallsThrough, blockFallsThrough_forget body, anyFallsThrough_forget handlers,
      optionFallsThrough_forget finalBody]
  | .scoped site body => simp only [forget, fallsThrough, blockFallsThrough_forget body]
  | .sequence body => simp only [forget, fallsThrough, blockFallsThrough_forget body]

theorem blockFallsThrough_forget (body : List FlowStmt) :
    blockFallsThrough (blockForget body) = blockFallsThrough body := by
  match body with
  | [] => rfl
  | stmt :: rest =>
    simp only [blockForget, blockFallsThrough, fallsThrough_forget stmt, blockFallsThrough_forget rest]

theorem optionFallsThrough_forget (body : Option (List FlowStmt)) :
    optionFallsThrough (optionForget body) = optionFallsThrough body := by
  match body with
  | none => rfl
  | some body => exact blockFallsThrough_forget body

theorem anyFallsThrough_forget (bodies : List (List FlowStmt)) :
    anyFallsThrough (allForget bodies) = anyFallsThrough bodies := by
  match bodies with
  | [] => rfl
  | body :: rest =>
    simp only [allForget, anyFallsThrough, blockFallsThrough_forget body, anyFallsThrough_forget rest]

end

/-- Without an else, a condition that is always true becomes what a condition with an unknown value becomes. -/
theorem ofCond_forget (n : Nat) (site : Site) (truth : Option Bool) (thenSide : Lowered) (m : Nat) :
    ofCond n site (if truth = some true then none else truth) thenSide (absent m) false =
      ofCond n site truth thenSide (absent m) false := by
  split
  · next htrue =>
    subst htrue
    rfl
  · rfl

mutual

/-- The value of such a condition makes no difference to what a statement becomes. The induction is on the statement,
with a case for each way in which blocks stand in it. -/
theorem lower_forget (n : Nat) (stmt : FlowStmt) : lower n (forget stmt) = lower n stmt := by
  match stmt with
  | .cond site truth thenBody none =>
    simp only [forget, lower, lowerFrom_forget _ _ _ thenBody, lowerOption, Option.isSome_none, ofCond_forget]
  | .cond site truth thenBody (some elseBody) =>
    simp only [forget, lower, lowerFrom_forget _ _ _ thenBody, lowerOption, lowerFrom_forget _ _ _ elseBody,
      Option.isSome_some]
  | .exit _ | .call _ | .plain _ => rfl
  | .loop site body => simp only [forget, lower, lowerFrom_forget _ _ _ body]
  | .guarded site body handlers finalBody =>
    simp only [forget, lower, lowerFrom_forget _ _ _ body, lowerHandlers_forget _ _ handlers,
      lowerOption_forget _ finalBody]
  | .scoped site body => simp only [forget, lower, lowerFrom_forget _ _ _ body]
  | .sequence body => simp only [forget, lower, lowerFrom_forget _ _ _ body]

theorem lowerFrom_forget (n : Nat) (entry : Option Nat) (pending : List Anchor) (body : List FlowStmt) :
    lowerFrom n entry pending (blockForget body) = lowerFrom n entry pending body := by
  match body with
  | [] => rfl
  | stmt :: rest =>
    have hstmt := lower_forget n stmt
    have hfalls := fallsThrough_forget stmt
    simp only [blockForget, lowerFrom, hstmt, hfalls, lowerFrom_forget _ _ _ rest]

theorem lowerOption_forget (n : Nat) (body : Option (List FlowStmt)) :
    lowerOption n (optionForget body) = lowerOption n body := by
  match body with
  | none => rfl
  | some body => exact lowerFrom_forget n none [] body

theorem lowerHandlers_forget (source n : Nat) (handlers : List (List FlowStmt)) :
    lowerHandlers source n (allForget handlers) = lowerHandlers source n handlers := by
  match handlers with
  | [] => rfl
  | body :: rest =>
    simp only [allForget, lowerHandlers, lowerFrom_forget _ _ _ body, lowerHandlers_forget _ _ rest]

end

end FlowStmt

/-- **A function has the same skeleton whether its always true conditions without an else are known or not.** -/
theorem Skeleton.ofBody_forget (body : List FlowStmt) :
    ofBody (FlowStmt.blockForget body) = ofBody body := by
  rw [ofBody, FlowStmt.lowerBlock, FlowStmt.lowerFrom_forget]
  rfl

end StructuralDiff
