import StructuralDiff.Delta.Pairing
import StructuralDiff.Table

/-!
# The delta of two snapshots

Which nodes and edges were added, removed, modified or left unchanged between an old and a new snapshot,
and which nodes correspond.

* `Delta.between`: the delta of two snapshots.
-/

namespace StructuralDiff

/-- The outcome of the comparison of two snapshots. -/
structure Delta where
  old : Snapshot
  new : Snapshot
  nodeStatus : Table Status
  edgeStatus : Table Status
  counterparts : Table String

namespace Delta

/-- The keys of two lists of keyed elements, each of them once, in order of their occurrence. -/
def keysOf {κ α : Type} [BEq κ] (old new : List (κ × α)) : List κ :=
  (old.map (·.1) ++ new.map (·.1)).eraseDups

/-- The elements under a key. -/
def under {κ α : Type} [BEq κ] (key : κ) (entries : List (κ × α)) : List α :=
  (entries.filter (·.1 == key)).map (·.2)

/-- The pairings of the nodes of two snapshots, key by key in the order of the keys. -/
def pairings (old new : Snapshot) : List Pairing :=
  let oldNodes := old.nodes.map fun node => (node.key, node)
  let newNodes := new.nodes.map fun node => (node.key, node)
  ((keysOf oldNodes newNodes).mergeSort NodeKey.le).map fun key =>
    Pairing.ofSides (under key oldNodes) (under key newNodes)

/-- The outcomes of the edges under one key: as many as there are on both sides are unchanged, those with
the smallest ids. -/
def edgeOutcomes (old new : List String) : List (String × Status) :=
  let old := Text.sort old
  let new := Text.sort new
  let both := min old.length new.length
  (old.take both).map (·, .unchanged) ++ (new.take both).map (·, .unchanged)
    ++ (old.drop both).map (·, .removed) ++ (new.drop both).map (·, .added)

/-- The outcomes of the edges of two snapshots. -/
def edgeStatuses (old new : Snapshot) : List (String × Status) :=
  let oldEdges := old.edges.map fun edge => (old.edgeKey edge, edge.id)
  let newEdges := new.edges.map fun edge => (new.edgeKey edge, edge.id)
  (keysOf oldEdges newEdges).flatMap fun key =>
    edgeOutcomes (under key oldEdges) (under key newEdges)

/-- The delta of two snapshots. -/
def between (old new : Snapshot) : Delta :=
  let pairings := pairings old new
  { old, new
    nodeStatus := Table.ofList (pairings.flatMap Pairing.statuses)
    edgeStatus := Table.ofList (edgeStatuses old new)
    counterparts := Table.ofList (pairings.flatMap Pairing.counterparts) }

/-- The outcome for a node. -/
def nodeStatus? (delta : Delta) (id : String) : Option Status :=
  delta.nodeStatus.get? id

/-- The outcome for an edge. -/
def edgeStatus? (delta : Delta) (id : String) : Option Status :=
  delta.edgeStatus.get? id

/-- The node of the other snapshot that corresponds to a node. -/
def counterpart? (delta : Delta) (id : String) : Option String :=
  delta.counterparts.get? id

/-- Nothing has changed. -/
def isEmpty (delta : Delta) : Bool :=
  delta.nodeStatus.toList.all (!·.2.isChanged) && delta.edgeStatus.toList.all (!·.2.isChanged)

/-- How many nodes had each outcome; outcomes that did not occur are left out. -/
def nodeCounts (delta : Delta) : List (Status × Nat) :=
  let outcomes := delta.nodeStatus.toList.map (·.2)
  (Status.all.map fun status => (status, outcomes.count status)).filter (·.2 != 0)

/-- The outcome for a node; one without an outcome counts as unchanged. -/
def statusOf (delta : Delta) (id : String) : Status :=
  (delta.nodeStatus? id).getD .unchanged

/-- The outcome for an edge; one without an outcome counts as unchanged. -/
def edgeStatusOf (delta : Delta) (id : String) : Status :=
  (delta.edgeStatus? id).getD .unchanged

end Delta

end StructuralDiff
