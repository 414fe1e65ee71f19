import StructuralDiff.Json.Record
import StructuralDiff.View.Basic

/-!
# Views in JSON

The exchanged form of views. All fields are written, absent values as `null`.
-/

namespace StructuralDiff

namespace ViewNode

/-- The exchanged form of a node of a view. -/
def toJson (node : ViewNode) : Json :=
  .obj [
    ("id", .str node.id),
    ("label", .str node.label),
    ("kind", .str node.kind),
    ("filePath", .str node.filePath),
    ("startLine", .ofOption .nat node.startLine),
    ("endLine", .ofOption .nat node.endLine),
    ("diffStatus", .str node.status.name),
    ("parentId", .ofOption .str node.parentId),
    ("isGroup", .bool node.isGroup),
    ("branchType", .ofOption .str node.branchType),
    ("symbolId", .str node.symbolId)]

/-- The names of the fields of a node of a view. -/
def fieldNames : List String :=
  ["id", "label", "kind", "filePath", "startLine", "endLine", "diffStatus", "parentId", "isGroup",
   "branchType", "symbolId"]

/-- The node of a view with an exchanged form. -/
def ofJson? (v : Json) : Option ViewNode := do
  let fields ← v.record? fieldNames
  return {
    id := ← fields.get? "id" Json.text?
    label := ← fields.get? "label" Json.text?
    kind := ← fields.get? "kind" Json.text?
    filePath := ← fields.get? "filePath" Json.text?
    startLine := ← fields.getOption? "startLine" Json.nat32?
    endLine := ← fields.getOption? "endLine" Json.nat32?
    status := ← fields.get? "diffStatus" (Json.enum? Status.ofName?)
    parentId := ← fields.getOption? "parentId" Json.text?
    isGroup := ← fields.get? "isGroup" Json.bool?
    branchType := ← fields.getOption? "branchType" Json.text?
    symbolId := ← fields.get? "symbolId" Json.text? }

end ViewNode

namespace ViewEdge

/-- The exchanged form of an edge of a view. -/
def toJson (edge : ViewEdge) : Json :=
  .obj [
    ("id", .str edge.id),
    ("source", .str edge.source),
    ("target", .str edge.target),
    ("relation", .str edge.relation.name),
    ("flowType", .ofOption (.str ·.name) edge.flowType),
    ("diffStatus", .str edge.status.name)]

/-- The names of the fields of an edge of a view. -/
def fieldNames : List String := ["id", "source", "target", "relation", "flowType", "diffStatus"]

/-- The edge of a view with an exchanged form. -/
def ofJson? (v : Json) : Option ViewEdge := do
  let fields ← v.record? fieldNames
  return {
    id := ← fields.get? "id" Json.text?
    source := ← fields.get? "source" Json.text?
    target := ← fields.get? "target" Json.text?
    relation := ← fields.get? "relation" (Json.enum? Relation.ofName?)
    flowType := ← fields.getOption? "flowType" (Json.enum? FlowType.ofName?)
    status := ← fields.get? "diffStatus" (Json.enum? Status.ofName?) }

end ViewEdge

namespace View

/-- The exchanged form of a view. -/
def toJson (view : View) : Json :=
  .obj [
    ("graphId", .str view.graphId),
    ("perspective", .str view.perspective.name),
    ("nodes", .ofList ViewNode.toJson view.nodes),
    ("edges", .ofList ViewEdge.toJson view.edges)]

/-- The names of the fields of a view. -/
def fieldNames : List String := ["graphId", "perspective", "nodes", "edges"]

/-- The view with an exchanged form. -/
def ofJson? (v : Json) : Option View := do
  let fields ← v.record? fieldNames
  return {
    graphId := ← fields.get? "graphId" Json.text?
    perspective := ← fields.get? "perspective" (Json.enum? Perspective.ofName?)
    nodes := ← fields.get? "nodes" (Json.list? ViewNode.ofJson?)
    edges := ← fields.get? "edges" (Json.list? ViewEdge.ofJson?) }

end View

/-- The exchanged form of a pair of views. -/
def ViewPair.toJson (pair : ViewPair) : Json :=
  .obj [("oldView", pair.old.toJson), ("newView", pair.new.toJson)]

end StructuralDiff
