import StructuralDiff.Neighborhood.Layout
import StructuralDiff.Table
import StructuralDiff.Text.Order
import StructuralDiff.Text.Quoted

/-!
# Neighborhoods

What is highlighted around a node in focus. A strategy chooses the direct neighborhood and says which
nodes may be added by a walk backwards along flow edges; which strategy applies depends on the kind of the
node in focus.

* `StrategyTable.neighborhood?`: the neighborhood of a node.
-/

namespace StructuralDiff

/-- Highlighted nodes and edges, as sorted lists of ids. -/
structure Neighborhood where
  nodeIds : List String
  edgeIds : List String
  deriving DecidableEq, Repr, Inhabited

/-- The neighborhood with the given ids, in any order. -/
def Neighborhood.ofIds (nodeIds edgeIds : List String) : Neighborhood :=
  { nodeIds := Text.sortedSet nodeIds, edgeIds := Text.sortedSet edgeIds }

/-- How a node in focus expands into its neighborhood. -/
structure Strategy where
  /-- The direct neighborhood of the focus; a strategy that gives none has broken down. -/
  direct? : Layout → (focus : ViewNode) → Option Neighborhood
  /-- Whether the backward walk may go through a node, given the direct neighborhood. -/
  admits : (direct : Neighborhood) → (focus candidate : ViewNode) → Bool

namespace Strategy

/-- The node and its neighbors; the walk stays among the nodes with the same parent. -/
def leaf : Strategy :=
  { direct? := fun layout focus =>
      let incident := layout.incident focus.id
      some (Neighborhood.ofIds
        (focus.id :: incident.flatMap fun edge => [edge.source, edge.target])
        (incident.map (·.id)))
    admits := fun _ focus candidate => candidate.parentId == focus.parentId }

/-- The node and everything inside it; the walk stays inside. -/
def group : Strategy :=
  { direct? := fun layout focus =>
      let members := focus.id :: layout.descendants focus.id
      let inside := layout.edges.filter fun edge =>
        members.contains edge.source && members.contains edge.target
      some (Neighborhood.ofIds members (inside.map (·.id)))
    admits := fun direct _ candidate => direct.nodeIds.contains candidate.id }

/-- The flow edges into a node that the backward walk may follow. -/
def admitted (strategy : Strategy) (layout : Layout) (direct : Neighborhood) (focus : ViewNode)
    (id : String) : List ViewEdge :=
  (layout.incomingFlow id).filter fun edge =>
    (layout.node? edge.source).any (strategy.admits direct focus)

/-- The neighborhood of a node: the direct one, and what the walk backwards adds to it. -/
def neighborhood? (strategy : Strategy) (layout : Layout) (focus : ViewNode) :
    Option Neighborhood :=
  (strategy.direct? layout focus).map fun direct =>
    let edgesInto := strategy.admitted layout direct focus
    let steps := direct.nodeIds.length + layout.nodes.length + 1
    let walked := Traversal.explore (fun id => (edgesInto id).map (·.source)) steps
      direct.nodeIds direct.nodeIds
    let nodeIds := direct.nodeIds ++ walked
    Neighborhood.ofIds nodeIds
      (direct.edgeIds ++ nodeIds.flatMap fun id => (edgesInto id).map (·.id))

end Strategy

/-- Which strategy applies to which kind of node. -/
structure StrategyTable where
  overrides : Table Strategy
  fallback : Strategy

namespace StrategyTable

/-- A table without overrides. -/
def ofFallback (fallback : Strategy) : StrategyTable :=
  { overrides := Table.empty, fallback }

/-- Chooses a strategy for a kind. -/
def register (table : StrategyTable) (key : String) (strategy : Strategy) : StrategyTable :=
  { table with overrides := table.overrides.insert key strategy }

/-- Groups expand as groups, everything else as a leaf. -/
def standard : StrategyTable :=
  (ofFallback Strategy.leaf).register groupKind Strategy.group

/-- The strategy for a kind. -/
def resolve (table : StrategyTable) (key : String) : Strategy :=
  (table.overrides.get? key).getD table.fallback

/-- The neighborhood of a node. -/
def neighborhood? (table : StrategyTable) (layout : Layout) (focus : ViewNode) :
    Option Neighborhood :=
  (table.resolve focus.strategyKey).neighborhood? layout focus

/-- A summary of a table: its overridden kinds. -/
def summary (table : StrategyTable) : String :=
  "StrategyTable \x7b overrides: ["
    ++ ", ".intercalate ((Text.sort table.overrides.keys).map Text.quote) ++ "] \x7d"

end StrategyTable

end StructuralDiff
