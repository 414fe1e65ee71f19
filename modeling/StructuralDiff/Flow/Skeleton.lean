import StructuralDiff.Flow.Basic

/-!
# Control-flow skeletons

A function body becomes a list of branches, one for each site in the order of the source, and links between
them. A branch is referred to by its ordinal. Every statement yields the branch at which it is entered, the
anchors from which the next statement is reached, and whether control can fall through it.

* `Skeleton.ofBody`: the skeleton of a function body.
* `Skeleton.labels`: the names of its branches.
-/

namespace StructuralDiff

/-- A branch from which the next statement is reached, and how. -/
structure Anchor where
  source : Nat
  flow : FlowType
  deriving DecidableEq, Repr

/-- A piece of a skeleton. -/
inductive Piece where
  /-- The next branch. -/
  | branch (site : Site)
  /-- A link between two branches. -/
  | link (source target : Nat) (flow : FlowType)
  deriving DecidableEq, Repr

/-- What a statement or a block becomes. -/
structure Lowered where
  /-- The branch at which it is entered. -/
  entry : Option Nat
  /-- Where the next statement is reached from. -/
  exits : List Anchor
  /-- Control can fall through it. -/
  falls : Bool
  /-- The ordinal of the next branch. -/
  next : Nat
  /-- Its branches and links, in the order in which they are made. -/
  pieces : List Piece

namespace Lowered

/-- Links from all anchors to a branch. -/
def connect (anchors : List Anchor) (target : Nat) : List Piece :=
  anchors.map fun anchor => .link anchor.source target anchor.flow

/-- A link from a branch to the entry of a block, if it has one. -/
def enter (source : Nat) (flow : FlowType) (block : Lowered) : List Piece :=
  match block.entry with
  | some entry => [.link source entry flow]
  | none => []

/-- Where control continues after a block that is entered from a branch: from the block's own exits, or
from the branch itself when the block has no branches. -/
def continuations (source : Nat) (flow : FlowType) (block : Lowered) : List Anchor :=
  match block.entry with
  | some _ => block.exits
  | none => if block.falls then [⟨source, flow⟩] else []

/-- A block that is absent. -/
def absent (next : Nat) : Lowered :=
  { entry := none, exits := [], falls := true, next, pieces := [] }

/-- A condition with its two blocks. -/
def ofCond (id : Nat) (site : Site) (truth : Option Bool) (thenSide elseSide : Lowered)
    (hasElse : Bool) : Lowered :=
  let thenReachable := truth != some false
  let elseReachable := truth != some true
  let pieces := .branch site :: thenSide.pieces ++ elseSide.pieces
    ++ (if thenReachable then enter id .true thenSide else [])
    ++ (if elseReachable then enter id .false elseSide else [])
  if hasElse then
    let exits := (if thenReachable then thenSide.exits else [])
      ++ (if elseReachable then elseSide.exits else [])
      ++ (if thenSide.entry.isNone && thenSide.falls && thenReachable then [⟨id, .true⟩] else [])
      ++ (if elseSide.entry.isNone && elseSide.falls && elseReachable then [⟨id, .false⟩] else [])
    { entry := some id
      exits := exits.eraseDups
      falls := (thenReachable && thenSide.falls) || (elseReachable && elseSide.falls)
      next := elseSide.next
      pieces }
  else
    { entry := some id
      exits := [⟨id, if thenSide.falls then .next else .false⟩]
      falls := true
      next := elseSide.next
      pieces }

/-- A guarded block: its body, its handlers one after the other, and what is done after them. -/
def ofGuarded (id : Nat) (site : Site) (body handlers finalSide : Lowered) : Lowered :=
  let exits := continuations id .next body ++ handlers.exits
  let pieces := .branch site :: body.pieces ++ enter id .next body ++ handlers.pieces
    ++ finalSide.pieces
  let falls := (body.falls || handlers.falls) && finalSide.falls
  match finalSide.entry with
  | some entry =>
    { entry := some id
      exits := finalSide.exits.eraseDups
      falls
      next := finalSide.next
      pieces := pieces ++ connect exits entry }
  | none => { entry := some id, exits := exits.eraseDups, falls, next := finalSide.next, pieces }

end Lowered

namespace FlowStmt

open Lowered

mutual

/-- What a statement becomes when its first branch gets the ordinal `n`. -/
def lower (n : Nat) : FlowStmt → Lowered
  | .cond site truth thenBody elseBody =>
    let thenSide := lowerFrom (n + 1) none [] thenBody
    let elseSide := lowerOption thenSide.next elseBody
    ofCond n site truth thenSide elseSide elseBody.isSome
  | .exit site =>
    { entry := some n, exits := [], falls := false, next := n + 1, pieces := [.branch site] }
  | .call site =>
    { entry := some n, exits := [⟨n, .next⟩], falls := true, next := n + 1, pieces := [.branch site] }
  | .loop site body =>
    let inner := lowerFrom (n + 1) none [] body
    { entry := some n
      exits := (⟨n, .next⟩ :: inner.exits).eraseDups
      falls := true
      next := inner.next
      pieces := .branch site :: inner.pieces ++ enter n .true inner }
  | .guarded site body handlers finalBody =>
    let inner := lowerFrom (n + 1) none [] body
    let caught := lowerHandlers n inner.next handlers
    ofGuarded n site inner caught (lowerOption caught.next finalBody)
  | .scoped site body =>
    let inner := lowerFrom (n + 1) none [] body
    { entry := some n
      exits := continuations n .next inner
      falls := inner.falls
      next := inner.next
      pieces := .branch site :: inner.pieces ++ enter n .next inner }
  | .sequence body => lowerFrom n none [] body
  | .plain falls => { entry := none, exits := [], falls, next := n, pieces := [] }

/-- What the rest of a block becomes: its entry so far and the anchors that wait for the next statement
are given. -/
def lowerFrom (n : Nat) (entry : Option Nat) (pending : List Anchor) : List FlowStmt → Lowered
  | [] => { entry, exits := pending, falls := true, next := n, pieces := [] }
  | stmt :: rest =>
    let first := lower n stmt
    let later :=
      match first.entry with
      | some target => lowerFrom first.next (entry.or (some target)) first.exits rest
      | none => lowerFrom first.next entry (if first.falls then pending else []) rest
    let links :=
      match first.entry with
      | some target => connect pending target
      | none => []
    { later with
      falls := fallsThrough stmt && later.falls
      pieces := first.pieces ++ links ++ later.pieces }

/-- What a block that may be absent becomes. -/
def lowerOption (n : Nat) : Option (List FlowStmt) → Lowered
  | none => absent n
  | some body => lowerFrom n none [] body

/-- What the handlers of the guarded block `source` become, each of them entered from there. -/
def lowerHandlers (source n : Nat) : List (List FlowStmt) → Lowered
  | [] => { absent n with falls := false }
  | body :: rest =>
    let first := lowerFrom n none [] body
    let later := lowerHandlers source first.next rest
    { entry := none
      exits := continuations source .false first ++ later.exits
      falls := first.falls || later.falls
      next := later.next
      pieces := first.pieces ++ enter source .false first ++ later.pieces }

end

/-- What a block becomes when its first branch gets the ordinal `n`. -/
def lowerBlock (n : Nat) (body : List FlowStmt) : Lowered :=
  lowerFrom n none [] body

end FlowStmt

/-- The branches of a function and the links between them. -/
structure Skeleton where
  /-- The branch at which the body is entered. -/
  entry : Option Nat
  pieces : List Piece

namespace Skeleton

/-- The skeleton of a function body. -/
def ofBody (body : List FlowStmt) : Skeleton :=
  let lowered := FlowStmt.lowerBlock 0 body
  { entry := lowered.entry, pieces := lowered.pieces }

/-- The sites of the branches, in order. -/
def sites (skeleton : Skeleton) : List Site :=
  skeleton.pieces.filterMap fun
    | .branch site => some site
    | .link _ _ _ => none

/-- The names of branches with the given kinds: each kind is numbered on its own. -/
def labelsFrom : (earlier : List String) → List Site → List String
  | _, [] => []
  | earlier, site :: rest =>
    (site.kind ++ "#" ++ Nat.repr (earlier.count site.kind))
      :: labelsFrom (site.kind :: earlier) rest

/-- The names of the branches, in order. -/
def labels (skeleton : Skeleton) : List String :=
  labelsFrom [] skeleton.sites

end Skeleton

end StructuralDiff
