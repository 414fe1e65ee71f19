import StructuralDiff.Diff.Record

/-!
# Reports

What the program prints about a comparison: a line for each file with its level, score and status, the
changed symbols below it, and the outcome of a search.
-/

namespace StructuralDiff.Report

/-- A text at the right end of a column. -/
def alignRight (width : Nat) (text : String) : String :=
  String.ofList (List.replicate (width - text.length) ' ') ++ text

/-- A text at the left end of a column. -/
def alignLeft (width : Nat) (text : String) : String :=
  text ++ String.ofList (List.replicate (width - text.length) ' ')

/-- The line of a file. -/
def fileLine (summary : FileSummary) : String :=
  alignRight 6 (Text.uppercase summary.level.name) ++ " " ++ alignRight 4 (Nat.repr summary.score)
    ++ "  " ++ alignLeft 12 summary.status.name ++ " " ++ summary.path

/-- The line of a symbol. -/
def symbolLine (risk : SymbolRisk) : String :=
  alignRight 13 (Nat.repr risk.score) ++ "  " ++ alignLeft 9 risk.status.name ++ " "
    ++ risk.qualifiedName ++ " (" ++ risk.kind.name ++ ")"

/-- The lines about a comparison. -/
def summaryLines (record : DiffRecord) : List String :=
  record.id :: record.files.flatMap fun file => fileLine file :: file.symbols.map symbolLine

/-- The lines about a search. -/
def searchLines (query : String) (ids : List String) : List String :=
  (Nat.repr ids.length ++ " nodes match " ++ Text.quote query) :: ids.map ("  " ++ ·)

/-- Lines as one text. -/
def text (lines : List String) : String :=
  String.join (lines.map (· ++ "\n"))

end StructuralDiff.Report
