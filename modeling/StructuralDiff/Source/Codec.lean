import StructuralDiff.Json.Record
import StructuralDiff.Source.Tree
import StructuralDiff.Text.Utf8

/-!
# Source trees in JSON

A tree is stored as the list of its nodes in preorder, with their depth, kind, marks, role and bytes. Texts
and lines are taken from the source file itself.
-/

namespace StructuralDiff

/-- A stored node. -/
structure SourceTree.Row where
  depth : Nat
  kind : String
  marks : Nat
  field : Option String
  startByte : Nat
  endByte : Nat

namespace SourceTree.Row

/-- A row of six numbers over tables of kinds and roles. -/
def ofJson? (kinds fields : List String) (v : Json) : Option Row :=
  match v with
  | .arr [depth, kind, marks, field, first, last] => do
    let field ← field.int64?
    return {
      depth := ← depth.nat32?
      kind := ← kinds[← kind.nat32?]?
      marks := ← marks.nat32?
      field := ← if field < 0 then some none else (fields[field.toNat]?).map some
      startByte := ← first.nat64?
      endByte := ← last.nat64? }
  | _ => none

/-- The node of a row with its children. -/
def toTree (bytes : ByteArray) (breaks : List Nat) (row : Row) (children : List SourceTree) :
    SourceTree :=
  { kind := row.kind
    field := row.field
    named := row.marks % 2 == 1
    extra := row.marks / 2 % 2 == 1
    error := row.marks / 4 % 2 == 1
    missing := row.marks / 8 % 2 == 1
    startByte := row.startByte
    endByte := row.endByte
    startRow := breaks.countP (·.blt row.startByte)
    endRow := breaks.countP (·.blt row.endByte)
    text := (Text.ofBytes? (bytes.extract row.startByte row.endByte)).getD ""
    children }

end SourceTree.Row

namespace SourceTree

/-- The places of the line breaks of a file. -/
def lineBreaks (bytes : ByteArray) : List Nat :=
  (bytes.data.toList.zipIdx.filter fun (b, _) => b == 10).map (·.2)

/-- The trees of a list of rows with their depths: a row takes the deeper trees after it as children. -/
def forest (bytes : ByteArray) (breaks : List Nat) : List Row → List (Nat × SourceTree)
  | [] => []
  | row :: rest =>
    let later := forest bytes breaks rest
    let children := later.takeWhile fun (depth, _) => row.depth.blt depth
    (row.depth, row.toTree bytes breaks (children.map (·.2))) :: later.drop children.length

/-- The stored tree of a source file. -/
def ofJson? (bytes : ByteArray) (v : Json) : Option SourceTree := do
  let record ← v.record? ["kinds", "fields", "nodes"]
  let kinds ← record.get? "kinds" (Json.list? Json.text?)
  let fields ← record.get? "fields" (Json.list? Json.text?)
  let rows ← record.get? "nodes" (Json.list? (Row.ofJson? kinds fields))
  match forest bytes (lineBreaks bytes) rows with
  | [(_, tree)] => some tree
  | _ => none

end SourceTree

end StructuralDiff
