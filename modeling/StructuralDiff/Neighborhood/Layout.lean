import StructuralDiff.Traversal
import StructuralDiff.View.Basic

/-!
# Layouts

The nodes of a view that have been positioned, and the edges between them. Edges with an endpoint outside
take no part.
-/

namespace StructuralDiff

/-- Positioned nodes, in the order in which they were given, and the edges between them. -/
structure Layout where
  nodes : List ViewNode
  edges : List ViewEdge

namespace Layout

/-- The layout of a list of nodes, with those of the edges that have both endpoints in it. -/
def ofLists (nodes : List ViewNode) (edges : List ViewEdge) : Layout :=
  let ids := nodes.map (·.id)
  { nodes, edges := edges.filter fun edge => ids.contains edge.source && ids.contains edge.target }

/-- The node with an id; of several the last one. -/
def node? (layout : Layout) (id : String) : Option ViewNode :=
  layout.nodes.reverse.find? (·.id == id)

/-- The nodes directly inside a positioned node. -/
def children (layout : Layout) (id : String) : List String :=
  if (layout.node? id).isSome then
    (layout.nodes.filter (·.parentId == some id)).map (·.id)
  else []

/-- The edges at a node. -/
def incident (layout : Layout) (id : String) : List ViewEdge :=
  layout.edges.filter fun edge => edge.source == id || edge.target == id

/-- The flow edges that enter a node. -/
def incomingFlow (layout : Layout) (id : String) : List ViewEdge :=
  layout.edges.filter fun edge => edge.relation == .flow && edge.target == id

/-- Everything inside a node, breadth first; the node itself is not listed. -/
def descendants (layout : Layout) (id : String) : List String :=
  Traversal.reachable layout.children layout.nodes.length id

end Layout

end StructuralDiff
