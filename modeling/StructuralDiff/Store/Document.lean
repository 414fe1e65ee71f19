import StructuralDiff.Graph.Codec
import StructuralDiff.Json.Reader
import StructuralDiff.Moment
import StructuralDiff.Store.Basic

/-!
# Stored documents

A snapshot is stored as a JSON document with the version of the format and the moment of saving.

* `StoredDocument.text`: the text of a document.
* `StoredDocument.ofText?`: the document with a text.
-/

namespace StructuralDiff

/-- A snapshot as it is stored. -/
structure StoredDocument where
  version : Nat
  savedAt : String
  graph : Snapshot

namespace StoredDocument

/-- The document of a snapshot that is saved now. -/
def ofSnapshot (savedAt : String) (graph : Snapshot) : StoredDocument :=
  { version := Store.formatVersion, savedAt, graph }

/-- The exchanged form of a document. -/
def toJson (document : StoredDocument) : Json :=
  .obj [
    ("version", .nat document.version),
    ("savedAt", .str document.savedAt),
    ("graph", document.graph.toJson)]

/-- A text that stands for a moment. -/
def momentText? (v : Json) : Option String := do
  let text ← v.text?
  let _ ← Moment.ofText? text
  return text

/-- The document with an exchanged form. -/
def ofJson? (v : Json) : Option StoredDocument := do
  let fields ← v.record? ["version", "savedAt", "graph"]
  return {
    version := ← fields.get? "version" Json.nat32?
    savedAt := ← fields.get? "savedAt" momentText?
    graph := ← fields.get? "graph" Snapshot.ofJson? }

/-- The text of a document. -/
def text (document : StoredDocument) : String :=
  document.toJson.pretty

/-- The document with a text. -/
def ofText? (text : String) : Option StoredDocument :=
  (Json.read? text).bind ofJson?

end StoredDocument

end StructuralDiff
