import StructuralDiff.Graph.Basic
import StructuralDiff.Text.Quoted
import StructuralDiff.Traversal

/-!
# Neighbours in a snapshot

Who declares and calls whom. Edges with a missing endpoint take no part. Edges at a node are listed with
the most recently added first.
-/

namespace StructuralDiff

/-- A snapshot with the edges whose two endpoints exist. -/
structure Index where
  snapshot : Snapshot
  links : List Edge

namespace Index

/-- The index of a snapshot. -/
def ofSnapshot (snapshot : Snapshot) : Index :=
  { snapshot
    links := snapshot.edges.filter fun edge =>
      snapshot.nodeIds.contains edge.source && snapshot.nodeIds.contains edge.target }

/-- The node with an id. -/
def node? (index : Index) (id : String) : Option Node :=
  index.snapshot.node? id

/-- The edges that leave a node. -/
def edgesFrom (index : Index) (id : String) : List Edge :=
  index.links.reverse.filter (·.source == id)

/-- The edges that enter a node. -/
def edgesTo (index : Index) (id : String) : List Edge :=
  index.links.reverse.filter (·.target == id)

/-- The nodes that a node declares. -/
def children (index : Index) (id : String) : List Node :=
  ((index.edgesFrom id).filter (·.kind == .declares)).filterMap fun edge => index.node? edge.target

/-- The node that declares a node. -/
def parent? (index : Index) (id : String) : Option Node :=
  ((index.edgesTo id).find? (·.kind == .declares)).bind fun edge => index.node? edge.source

/-- The parent of a node, the parent's parent and so on, nearest first. -/
def ancestors (index : Index) (id : String) : List Node :=
  (Traversal.climb (fun id => (index.parent? id).map (·.id)) (index.snapshot.nodes.length + 1) [] id)
    |>.filterMap index.node?

/-- Everything that a node declares, directly or through others, breadth first. -/
def descendants (index : Index) (id : String) : List Node :=
  (Traversal.reachable (fun id => (index.children id).map (·.id)) index.snapshot.nodes.length id)
    |>.filterMap index.node?

/-- The number of calls of a symbol by others. -/
def incomingCalls (index : Index) (id : String) : Nat :=
  (index.edgesTo id).countP (·.isSymbolCall)

/-- The number of calls of others by a symbol. -/
def outgoingCalls (index : Index) (id : String) : Nat :=
  (index.edgesFrom id).countP (·.isSymbolCall)

/-- The number of symbols that a node declares. -/
def ownedDeclarations (index : Index) (id : String) : Nat :=
  (index.children id).countP (·.kind.isSymbol)

/-- A summary of an index. -/
def summary (index : Index) : String :=
  "GraphIndex \x7b snapshot: " ++ Text.quote index.snapshot.snapshotId
    ++ ", node_count: " ++ Nat.repr index.snapshot.nodes.length
    ++ ", edge_count: " ++ Nat.repr index.links.length ++ " \x7d"

end Index

end StructuralDiff
