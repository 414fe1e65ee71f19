import StructuralDiff.Delta.Key

/-!
# Pairing of the nodes under one key

The nodes of the two snapshots that share a key are paired one to one: first nodes with the same signature
at the same position, then nodes with the same signature, and at last what is left over in the order of
positions. The first two kinds of pairs are unchanged, the last is modified, and a node without a partner
was removed or added.
-/

namespace StructuralDiff

/-- Which of two nodes stands first: by first line, last line and id. -/
def Node.orderByPosition (a b : Node) : Ordering :=
  (Text.orderNat a.position.1 b.position.1).then
    ((Text.orderNat a.position.2 b.position.2).then (Text.order a.id b.id))

/-- The node `a` does not stand after `b`. -/
def Node.standsBefore (a b : Node) : Bool :=
  (a.orderByPosition b).isLE

/-- The partners of the nodes under one key. -/
structure Pairing where
  unchanged : List (Node × Node)
  modified : List (Node × Node)
  removed : List Node
  added : List Node

namespace Pairing

/-- The first element that fits, and the list without it. -/
def takeFirst? (fits : Node → Bool) : List Node → Option (Node × List Node)
  | [] => none
  | n :: rest =>
    if fits n then some (n, rest)
    else (takeFirst? fits rest).map fun (found, left) => (found, n :: left)

/-- Pairs in which each old node took the first new node that fits it and was still free, with the old
and the new nodes that are left over. -/
structure Round where
  pairs : List (Node × Node)
  old : List Node
  new : List Node

/-- Lets each old node in turn take the first free new node that fits it. -/
def greedy (fits : Node → Node → Bool) : (old new : List Node) → Round
  | [], new => ⟨[], [], new⟩
  | o :: old, new =>
    match takeFirst? (fits o) new with
    | some (n, rest) =>
      let later := greedy fits old rest
      { later with pairs := (o, n) :: later.pairs }
    | none =>
      let later := greedy fits old new
      { later with old := o :: later.old }

/-- The two nodes have the same signature; two nodes without one agree as well. -/
def sameSignature (o n : Node) : Bool :=
  n.signature == o.signature

/-- The two nodes have the same signature and cover the same lines. -/
def samePlace (o n : Node) : Bool :=
  sameSignature o n && n.position == o.position

/-- The partners of the old and the new nodes under one key. -/
def ofSides (old new : List Node) : Pairing :=
  let exact := greedy samePlace (old.mergeSort Node.standsBefore) (new.mergeSort Node.standsBefore)
  let similar := greedy sameSignature exact.old exact.new
  { unchanged := exact.pairs ++ similar.pairs
    modified := similar.old.zip similar.new
    removed := similar.old.drop similar.new.length
    added := similar.new.drop similar.old.length }

/-- The outcomes of a pairing. -/
def statuses (pairing : Pairing) : List (String × Status) :=
  (pairing.unchanged.flatMap fun (o, n) => [(o.id, .unchanged), (n.id, .unchanged)])
    ++ (pairing.modified.flatMap fun (o, n) => [(o.id, .modified), (n.id, .modified)])
    ++ pairing.removed.map (fun o => (o.id, .removed))
    ++ pairing.added.map (fun n => (n.id, .added))

/-- Both directions of every pair. -/
def counterparts (pairing : Pairing) : List (String × String) :=
  (pairing.unchanged ++ pairing.modified).flatMap fun (o, n) => [(o.id, n.id), (n.id, o.id)]

end Pairing

end StructuralDiff
