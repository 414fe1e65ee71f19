import StructuralDiff.Graph.Basic
import StructuralDiff.Json.Record

/-!
# Snapshots in JSON

The stored form of nodes, edges and snapshots. All fields are written, absent values as `null`.
-/

namespace StructuralDiff

namespace Metadata

/-- The attributes as an object. -/
def toJson (m : Metadata) : Json :=
  .obj (m.entries.map fun (key, value) => (key, .str value))

/-- The attributes of an object of strings. -/
def ofJson? (v : Json) : Option Metadata :=
  (v.map? Json.text?).map ofList

end Metadata

namespace Node

/-- The stored form of a node. -/
def toJson (node : Node) : Json :=
  .obj [
    ("id", .str node.id),
    ("kind", .str node.kind.name),
    ("name", .str node.name),
    ("qualifiedName", .str node.qualifiedName),
    ("filePath", .str node.filePath),
    ("language", .str node.language.name),
    ("startLine", .ofOption .nat node.startLine),
    ("endLine", .ofOption .nat node.endLine),
    ("signatureHash", .ofOption .str node.signature),
    ("metadata", node.metadata.toJson),
    ("snapshotId", .str node.snapshotId),
    ("ref", .str node.revision)]

/-- The names of the fields of a node. -/
def fieldNames : List String :=
  ["id", "kind", "name", "qualifiedName", "filePath", "language", "startLine", "endLine",
   "signatureHash", "metadata", "snapshotId", "ref"]

/-- The node with a stored form. -/
def ofJson? (v : Json) : Option Node := do
  let fields ← v.record? fieldNames
  return {
    id := ← fields.get? "id" Json.text?
    kind := ← fields.get? "kind" (Json.enum? NodeKind.ofName?)
    name := ← fields.get? "name" Json.text?
    qualifiedName := ← fields.get? "qualifiedName" Json.text?
    filePath := ← fields.get? "filePath" Json.text?
    language := ← fields.get? "language" (Json.enum? Language.ofName?)
    startLine := ← fields.getOption? "startLine" Json.nat32?
    endLine := ← fields.getOption? "endLine" Json.nat32?
    signature := ← fields.getOption? "signatureHash" Json.text?
    metadata := ← fields.get? "metadata" Metadata.ofJson?
    snapshotId := ← fields.get? "snapshotId" Json.text?
    revision := ← fields.get? "ref" Json.text? }

end Node

namespace Edge

/-- The stored form of an edge. -/
def toJson (edge : Edge) : Json :=
  .obj [
    ("id", .str edge.id),
    ("source", .str edge.source),
    ("target", .str edge.target),
    ("kind", .str edge.kind.name),
    ("filePath", .ofOption .str edge.filePath),
    ("metadata", edge.metadata.toJson),
    ("snapshotId", .str edge.snapshotId),
    ("ref", .str edge.revision)]

/-- The names of the fields of an edge. -/
def fieldNames : List String :=
  ["id", "source", "target", "kind", "filePath", "metadata", "snapshotId", "ref"]

/-- The edge with a stored form. -/
def ofJson? (v : Json) : Option Edge := do
  let fields ← v.record? fieldNames
  return {
    id := ← fields.get? "id" Json.text?
    source := ← fields.get? "source" Json.text?
    target := ← fields.get? "target" Json.text?
    kind := ← fields.get? "kind" (Json.enum? EdgeKind.ofName?)
    filePath := ← fields.getOption? "filePath" Json.text?
    metadata := ← fields.get? "metadata" Metadata.ofJson?
    snapshotId := ← fields.get? "snapshotId" Json.text?
    revision := ← fields.get? "ref" Json.text? }

end Edge

namespace Snapshot

/-- The stored form of a snapshot. -/
def toJson (snapshot : Snapshot) : Json :=
  .obj [
    ("repoId", .str snapshot.repoId),
    ("snapshotId", .str snapshot.snapshotId),
    ("ref", .str snapshot.revision),
    ("nodes", .ofList Node.toJson snapshot.nodes),
    ("edges", .ofList Edge.toJson snapshot.edges)]

/-- The names of the fields of a snapshot. -/
def fieldNames : List String := ["repoId", "snapshotId", "ref", "nodes", "edges"]

/-- The snapshot with a stored form. -/
def ofJson? (v : Json) : Option Snapshot := do
  let fields ← v.record? fieldNames
  return {
    repoId := ← fields.get? "repoId" Json.text?
    snapshotId := ← fields.get? "snapshotId" Json.text?
    revision := ← fields.get? "ref" Json.text?
    nodes := ← fields.get? "nodes" (Json.list? Node.ofJson?)
    edges := ← fields.get? "edges" (Json.list? Edge.ofJson?) }

end Snapshot

end StructuralDiff
