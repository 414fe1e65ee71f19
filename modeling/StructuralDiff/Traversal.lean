/-!
# Traversals

Breadth-first search and the climbing of parent links, both guarded by the set of what has been seen, so
that they end on cyclic data as well. The number of steps is bounded by the caller: a search over a
universe of `n` elements needs no more than `n + 1` of them.
-/

namespace StructuralDiff.Traversal

variable {α : Type} [BEq α]

/-- The elements that have not been seen, each of them once, in order. -/
def fresh (seen found : List α) : List α :=
  found.eraseDups.filter (!seen.contains ·)

/-- Breadth-first search: what is reached from the queue and has not been seen before, in the order of
discovery. -/
def explore (next : α → List α) : (steps : Nat) → (seen queue : List α) → List α
  | 0, _, _ => []
  | _ + 1, _, [] => []
  | steps + 1, seen, a :: queue =>
    let found := fresh seen (next a)
    found ++ explore next steps (seen ++ found) (queue ++ found)

/-- Everything that is reached from `start` along `next`, which is not listed itself, in a universe of
the given size. -/
def reachable (next : α → List α) (size : Nat) (start : α) : List α :=
  explore next (size + 1) [start] [start]

/-- The chain of parents of `a`, nearest first, up to the first one that occurs again. -/
def climb (parent? : α → Option α) : (steps : Nat) → (seen : List α) → α → List α
  | 0, _, _ => []
  | steps + 1, seen, a =>
    match parent? a with
    | none => []
    | some p => if seen.contains p then [] else p :: climb parent? steps (p :: seen) p

end StructuralDiff.Traversal
