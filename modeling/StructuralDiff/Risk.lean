import StructuralDiff.Delta.Basic
import StructuralDiff.Graph.Index

/-!
# Risk of changes

A heuristic score for every changed symbol and every changed file. The score of a symbol adds up what
happened to it, what it is, how long it is, how it is connected and whether it is public; the score of a
file adds up its riskiest symbols, its textual churn and its change status.
-/

namespace StructuralDiff

/-- A coarse level of risk. -/
inductive RiskLevel where
  | low
  | medium
  | high
  deriving DecidableEq, Repr, Inhabited

namespace RiskLevel

/-- The name of a level. -/
def name : RiskLevel → String
  | .low => "low"
  | .medium => "medium"
  | .high => "high"

/-- The level with a name. -/
def ofName? (name : String) : Option RiskLevel :=
  [RiskLevel.low, .medium, .high].find? (·.name == name)

/-- The level of a score. -/
def ofScore (score : Nat) : RiskLevel :=
  if 25 ≤ score then .high else if 12 ≤ score then .medium else .low

end RiskLevel

/-- What happened to a file as a whole. -/
inductive FileStatus where
  | added
  | deleted
  | modified
  | renamed
  | typeChanged
  | unchanged
  deriving DecidableEq, Repr, Inhabited

namespace FileStatus

/-- The name of a file status. -/
def name : FileStatus → String
  | .added => "added"
  | .deleted => "deleted"
  | .modified => "modified"
  | .renamed => "renamed"
  | .typeChanged => "type-changed"
  | .unchanged => "unchanged"

/-- The file status with a name. -/
def ofName? (name : String) : Option FileStatus :=
  [FileStatus.added, .deleted, .modified, .renamed, .typeChanged, .unchanged].find? (·.name == name)

/-- What a file status adds to the score of the file. -/
def bonus : FileStatus → Nat
  | .renamed | .added | .deleted => 2
  | .typeChanged => 3
  | .modified | .unchanged => 0

end FileStatus

namespace Risk

/-- How a symbol is connected and how large it is. -/
structure Stats where
  incomingCalls : Nat
  outgoingCalls : Nat
  ownedDeclarations : Nat
  lineSpan : Nat
  isPublic : Bool
  deriving DecidableEq, Repr

/-- A name that is not marked as private by `_` or `#` at its start. -/
def isPublicName (name : String) : Bool :=
  !Text.beginsWith "_" name && !Text.beginsWith "#" name

/-- The measures of a node. -/
def Stats.ofNode (index : Index) (node : Node) : Stats :=
  { incomingCalls := index.incomingCalls node.id
    outgoingCalls := index.outgoingCalls node.id
    ownedDeclarations := index.ownedDeclarations node.id
    lineSpan := node.lineSpan
    isPublic := isPublicName node.name }

/-- What an outcome contributes. -/
def statusWeight : Status → Nat
  | .added | .removed => 3
  | .modified => 4
  | .unchanged => 0

/-- What a kind contributes. -/
def kindWeight : NodeKind → Nat
  | .classType => 4
  | .function | .component | .hook => 3
  | _ => 2

/-- What a number of lines contributes. -/
def spanWeight (span : Nat) : Nat :=
  if 200 ≤ span then 3 else if 80 ≤ span then 2 else if 25 ≤ span then 1 else 0

/-- The score of a symbol; an unchanged one has none. -/
def symbolScore (status : Status) (kind : NodeKind) (stats : Stats) : Nat :=
  if status.isChanged then
    let total := statusWeight status + kindWeight kind + spanWeight stats.lineSpan
      + min (stats.incomingCalls / 2) 5 + min (stats.outgoingCalls / 3) 3
      + min (stats.ownedDeclarations / 4) 2 + (if stats.isPublic then 1 else 0)
    max total 1
  else 0

end Risk

/-- The risk of a changed symbol. -/
structure SymbolRisk where
  id : String
  name : String
  qualifiedName : String
  kind : NodeKind
  filePath : String
  status : Status
  score : Nat
  level : RiskLevel
  incomingCalls : Nat
  deriving DecidableEq, Repr

namespace SymbolRisk

/-- The risk of a node with an outcome, measured in the snapshot that it belongs to. -/
def ofNode (index : Index) (status : Status) (node : Node) : SymbolRisk :=
  let stats := Risk.Stats.ofNode index node
  let score := Risk.symbolScore status node.kind stats
  { id := node.id
    name := node.name
    qualifiedName := node.qualifiedName
    kind := node.kind
    filePath := node.filePath
    status
    score
    level := RiskLevel.ofScore score
    incomingCalls := stats.incomingCalls }

/-- The higher score comes first, and of equal scores the smaller id. -/
def order (a b : SymbolRisk) : Ordering :=
  (Text.orderNat b.score a.score).then (Text.order a.id b.id)

/-- The risk `a` is not listed after `b`. -/
def le (a b : SymbolRisk) : Bool :=
  (order a b).isLE

end SymbolRisk

namespace Delta

/-- The risks of all changed symbols, the highest first. Removed symbols are measured in the old
snapshot, all others in the new one. -/
def symbolRisks (delta : Delta) : List SymbolRisk :=
  let oldIndex := Index.ofSnapshot delta.old
  let newIndex := Index.ofSnapshot delta.new
  let removed := delta.old.nodes.filter fun node => delta.nodeStatus? node.id == some .removed
  let current := delta.new.nodes.filter fun node =>
    (delta.nodeStatus? node.id).any Status.isChanged
  let risk (index : Index) (node : Node) := SymbolRisk.ofNode index (delta.statusOf node.id) node
  let risks := (removed.filter (·.kind.isSymbol)).map (risk oldIndex)
    ++ (current.filter (·.kind.isSymbol)).map (risk newIndex)
  risks.mergeSort SymbolRisk.le

end Delta

namespace Risk

/-- How many of its symbols count for a file. -/
def topSymbols : Nat := 8

/-- What a file amounts to: the highest scores of its symbols, and what its churn, its most called symbol
and its status add to them. -/
def fileTotal (symbols : List SymbolRisk) (churn : Nat) (status : FileStatus) : Nat :=
  let scores := (symbols.map (·.score)).mergeSort fun a b => b.ble a
  let maxFanIn := (symbols.map (·.incomingCalls)).foldl max 0
  (scores.take topSymbols).foldr (· + ·) 0 + min (churn / 15) 10 + min (maxFanIn / 2) 6 + status.bonus

/-- The score of a file. Scores are numbers of 32 bits. -/
def fileScore (symbols : List SymbolRisk) (churn : Nat) (status : FileStatus) : Nat :=
  fileTotal symbols churn status % Bound.nat32

end Risk

end StructuralDiff
