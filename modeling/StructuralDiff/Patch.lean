import StructuralDiff.Json.Record
import StructuralDiff.Risk
import StructuralDiff.Text.Digit

/-!
# Patches

The textual side of a comparison: the hunks of each changed file, as a unified diff lists them. A diff is
cut into sections at its file headers, and a section into hunks at its hunk headers; what stands before the
first hunk of a section says what happened to the file as a whole.

* `FilePatch.parseAll`: the files of a unified diff.
-/

namespace StructuralDiff

/-- A run of changed lines with their context. -/
structure Hunk where
  oldStart : Nat
  oldLines : Nat
  newStart : Nat
  newLines : Nat
  /-- The lines with their marks: `+`, `-` or a space. -/
  lines : List String
  deriving DecidableEq, Repr, Inhabited

/-- The hunks of a file. -/
structure FilePatch where
  path : String
  status : FileStatus
  hunks : List Hunk
  deriving DecidableEq, Repr, Inhabited

/-- The number of added and removed lines. -/
def Hunk.churn (hunk : Hunk) : Nat :=
  hunk.lines.countP fun line => Text.beginsWith "+" line || Text.beginsWith "-" line

namespace FilePatch

/-- The number of added and removed lines. -/
def churn (patch : FilePatch) : Nat :=
  (patch.hunks.map Hunk.churn).foldr (· + ·) 0

/-- Cuts a list at its headers: what stands before the first one, and each header with what follows it. -/
def cutAt {α β : Type} (header? : α → Option β) : List α → List α × List (β × List α)
  | [] => ([], [])
  | a :: rest =>
    let (lead, groups) := cutAt header? rest
    match header? a with
    | some header => ([], (header, lead) :: groups)
    | none => (a :: lead, groups)

/-- What follows the last ` b/` that has something before and after it; `inside` says that there is
something before the list. -/
def newPath? : (inside : Bool) → List Char → Option (List Char)
  | _, [] => none
  | inside, c :: rest =>
    match newPath? true rest with
    | some path => some path
    | none =>
      if inside && [' ', 'b', '/'].isPrefixOf (c :: rest) && 3 ≤ rest.length then
        some (rest.drop 2)
      else none

/-- The path in the header of a file. -/
def fileHeader? (line : String) : Option String :=
  match Text.afterStart? "diff --git a/" line with
  | some paths => (newPath? false paths.toList).map String.ofList
  | none => none

/-- A number of 32 bits in decimal digits, or a default when the text is none. -/
def number (fallback : Nat) (digits : List Char) : Nat :=
  match Text.decimal? digits with
  | some n => if n < Bound.nat32 then n else fallback
  | none => fallback

/-- One or more digits, and what follows them. -/
def digits? (text : List Char) : Option (List Char × List Char) :=
  let digits := text.takeWhile Text.isDigit
  if digits.isEmpty then none else some (digits, text.dropWhile Text.isDigit)

/-- A first line and a number of lines, which is 1 when it is left out. -/
def range? (text : List Char) : Option ((Nat × Nat) × List Char) := do
  let (start, rest) ← digits? text
  match rest with
  | ',' :: rest =>
    let (count, rest) ← digits? rest
    return ((number 0 start, number 1 count), rest)
  | rest => return ((number 0 start, 1), rest)

/-- The hunk that a hunk header begins, without its lines. -/
def hunkHeader? (line : String) : Option Hunk := do
  let rest ← "@@ -".toList.isPrefixOf? line.toList
  let ((oldStart, oldLines), rest) ← range? rest
  let rest ← " +".toList.isPrefixOf? rest
  let ((newStart, newLines), rest) ← range? rest
  let _ ← " @@".toList.isPrefixOf? rest
  return { oldStart, oldLines, newStart, newLines, lines := [] }

/-- A line that belongs to a hunk. -/
def isHunkLine (line : String) : Bool :=
  line == "" || Text.beginsWith "+" line || Text.beginsWith "-" line || Text.beginsWith " " line

/-- What a line before the first hunk says about the file. -/
def statusLine (status : FileStatus) (line : String) : FileStatus :=
  if Text.beginsWith "new file mode" line then .added
  else if Text.beginsWith "deleted file mode" line then .deleted
  else if Text.beginsWith "rename to " line || Text.beginsWith "rename from " line then .renamed
  else if Text.beginsWith "new mode" line || Text.beginsWith "old mode" line then .typeChanged
  else status

/-- The patch of a file from the lines of its section. -/
def ofSection (path : String) (lines : List String) : FilePatch :=
  let (lead, hunks) := cutAt hunkHeader? lines
  { path
    status := lead.foldl statusLine .modified
    hunks := hunks.map fun (hunk, body) => { hunk with lines := body.filter isHunkLine } }

/-- The files of a unified diff. -/
def parseAll (text : String) : List FilePatch :=
  (cutAt fileHeader? (Text.lines text)).2.map fun (path, lines) => ofSection path lines

end FilePatch

/-! ### Exchange -/

namespace Hunk

/-- The exchanged form of a hunk. -/
def toJson (hunk : Hunk) : Json :=
  .obj [
    ("oldStart", .nat hunk.oldStart),
    ("oldLines", .nat hunk.oldLines),
    ("newStart", .nat hunk.newStart),
    ("newLines", .nat hunk.newLines),
    ("lines", .ofList .str hunk.lines)]

/-- The hunk with an exchanged form. -/
def ofJson? (v : Json) : Option Hunk := do
  let fields ← v.record? ["oldStart", "oldLines", "newStart", "newLines", "lines"]
  return {
    oldStart := ← fields.get? "oldStart" Json.nat32?
    oldLines := ← fields.get? "oldLines" Json.nat32?
    newStart := ← fields.get? "newStart" Json.nat32?
    newLines := ← fields.get? "newLines" Json.nat32?
    lines := ← fields.get? "lines" (Json.list? Json.text?) }

end Hunk

namespace FilePatch

/-- The exchanged form of a patch. -/
def toJson (patch : FilePatch) : Json :=
  .obj [
    ("path", .str patch.path),
    ("status", .str patch.status.name),
    ("hunks", .ofList Hunk.toJson patch.hunks)]

/-- The patch with an exchanged form. -/
def ofJson? (v : Json) : Option FilePatch := do
  let fields ← v.record? ["path", "status", "hunks"]
  return {
    path := ← fields.get? "path" Json.text?
    status := ← fields.get? "status" (Json.enum? FileStatus.ofName?)
    hunks := ← fields.get? "hunks" (Json.list? Hunk.ofJson?) }

end FilePatch

namespace SymbolRisk

/-- The exchanged form of the risk of a symbol. -/
def toJson (risk : SymbolRisk) : Json :=
  .obj [
    ("id", .str risk.id),
    ("name", .str risk.name),
    ("qualifiedName", .str risk.qualifiedName),
    ("kind", .str risk.kind.name),
    ("filePath", .str risk.filePath),
    ("status", .str risk.status.name),
    ("score", .nat risk.score),
    ("level", .str risk.level.name),
    ("incomingCalls", .nat risk.incomingCalls)]

/-- The names of the fields of a risk. -/
def fieldNames : List String :=
  ["id", "name", "qualifiedName", "kind", "filePath", "status", "score", "level", "incomingCalls"]

/-- The risk with an exchanged form. -/
def ofJson? (v : Json) : Option SymbolRisk := do
  let fields ← v.record? fieldNames
  return {
    id := ← fields.get? "id" Json.text?
    name := ← fields.get? "name" Json.text?
    qualifiedName := ← fields.get? "qualifiedName" Json.text?
    kind := ← fields.get? "kind" (Json.enum? NodeKind.ofName?)
    filePath := ← fields.get? "filePath" Json.text?
    status := ← fields.get? "status" (Json.enum? Status.ofName?)
    score := ← fields.get? "score" Json.nat32?
    level := ← fields.get? "level" (Json.enum? RiskLevel.ofName?)
    incomingCalls := ← fields.get? "incomingCalls" Json.nat64? }

end SymbolRisk

end StructuralDiff
