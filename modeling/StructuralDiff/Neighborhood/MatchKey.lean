import StructuralDiff.Neighborhood.Layout
import StructuralDiff.Table
import StructuralDiff.Text.Order

/-!
# Match keys

Ids belong to one snapshot, so the layouts of the two snapshots of a comparison are related by keys made of
kind, scope and label. Nodes that agree in all three are numbered in the order of their lines.
-/

namespace StructuralDiff

/-- What the match key of a node is made of, its number apart. -/
structure Place where
  kind : String
  scope : String
  label : String
  deriving DecidableEq, Repr

namespace Layout

/-- The file of a node and the label of its parent. -/
def scope (layout : Layout) (node : ViewNode) : String :=
  let parent? := node.parentId.bind layout.node?
  node.filePath ++ ":" ++ (parent?.map (·.label)).getD ""

/-- The place of a node. -/
def place (layout : Layout) (node : ViewNode) : Place :=
  { kind := node.kind, scope := layout.scope node, label := node.label }

end Layout

/-- The nodes in the order of their first line, last line and id; unknown lines come first. -/
def ViewNode.orderByLines (a b : ViewNode) : Ordering :=
  (Text.orderNat? a.startLine b.startLine).then
    ((Text.orderNat? a.endLine b.endLine).then (Text.order a.id b.id))

/-- The match key of the node with a number at a place. -/
def Place.matchKey (place : Place) (number : Nat) : String :=
  place.kind ++ "|" ++ place.scope ++ "|" ++ place.label ++ "#" ++ Nat.repr number

/-- The match keys of all nodes. -/
def Layout.matchKeys (layout : Layout) : Table String :=
  let placed := layout.nodes.map fun node => (layout.place node, node)
  let places := (placed.map (·.1)).eraseDups
  Table.ofList (places.flatMap fun place =>
    let nodes := (placed.filter (·.1 == place)).map (·.2)
    let nodes := nodes.mergeSort fun a b => (a.orderByLines b).isLE
    nodes.zipIdx.map fun (node, number) => (node.id, place.matchKey number))

end StructuralDiff
