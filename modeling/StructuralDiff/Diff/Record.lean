import StructuralDiff.Diff.Summary
import StructuralDiff.Graph.Codec
import StructuralDiff.Neighborhood.Derivation
import StructuralDiff.View.Changes
import StructuralDiff.View.Project

/-!
# Records of diffs

A comparison of two snapshots with everything that is shown about it: views, risks, summaries and the
textual hunks.

* `DiffRecord.ofDelta`: the record of a comparison.
* `DiffRecord.symbol?`, `DiffRecord.view`, `DiffRecord.derivationInput`: what can be looked up in it.
-/

namespace StructuralDiff

/-- The id of the comparison of two snapshots. -/
def diffId (repoId old new : String) : String :=
  repoId ++ ":" ++ old ++ ".." ++ new

/-- One side of a comparison. -/
inductive Side where
  | old
  | new
  deriving DecidableEq, Repr, Inhabited

namespace Side

/-- The name of a side. -/
def name : Side → String
  | .old => "old"
  | .new => "new"

/-- The side with a name. -/
def ofName? (name : String) : Option Side :=
  [Side.old, .new].find? (·.name == name)

end Side

/-- The view of one side. -/
def ViewPair.side (pair : ViewPair) : Side → View
  | .old => pair.old
  | .new => pair.new

/-- Both views without what did not change. -/
def ViewPair.changesOnly (pair : ViewPair) : ViewPair :=
  { old := pair.old.changesOnly, new := pair.new.changesOnly }

/-- A comparison with everything that is shown about it. -/
structure DiffRecord where
  id : String
  repoId : String
  oldRevision : String
  newRevision : String
  delta : Delta
  views : List (Perspective × ViewPair)
  /-- The changed symbols, the riskiest first. -/
  symbols : List SymbolRisk
  files : List FileSummary
  patches : Table FilePatch

/-- A symbol on both sides of a comparison. -/
structure SymbolDetail where
  status : Status
  old : Option Node
  new : Option Node
  risk : Option SymbolRisk
  patch : Option FilePatch

namespace DiffRecord

/-- The record of a comparison. -/
def ofDelta (repoId : String) (old new : SnapshotLabel) (patches : List FilePatch) (delta : Delta) :
    DiffRecord :=
  let patches := Table.ofList (patches.map fun patch => (patch.path, patch))
  let symbols := delta.symbolRisks
  { id := diffId repoId old.snapshotId new.snapshotId
    repoId
    oldRevision := old.revision
    newRevision := new.revision
    delta
    views := delta.views
    symbols
    files := delta.fileSummaries symbols patches
    patches }

/-- The old and the new node of a symbol that is given by the id of either of them. -/
def sides (record : DiffRecord) (id : String) : Option Node × Option Node :=
  let delta := record.delta
  let counterpart := delta.counterparts.get? id
  match delta.old.firstNode? id with
  | some old => (some old, counterpart.bind delta.new.firstNode?)
  | none => (counterpart.bind delta.old.firstNode?, delta.new.firstNode? id)

/-- A symbol by the id that it has on either side. -/
def symbol? (record : DiffRecord) (id : String) : Option SymbolDetail :=
  (record.delta.nodeStatus? id).map fun status =>
    let (old, new) := record.sides id
    let ids := (old.toList ++ new.toList).map (·.id)
    { status, old, new
      risk := record.symbols.find? fun risk => ids.contains risk.id
      patch := (new.or old).bind fun node => record.patches.get? node.filePath }

/-- The views of a perspective. -/
def view? (record : DiffRecord) (perspective : Perspective) (changesOnly : Bool) : Option ViewPair :=
  (record.views.lookup perspective).map fun pair => if changesOnly then pair.changesOnly else pair

/-- The input of a derivation from one side of a view. -/
def derivationInput? (record : DiffRecord) (perspective : Perspective) (side : Side)
    (changesOnly : Bool) (query : String) (exclude : Bool) : Option DerivationInput :=
  (record.view? perspective changesOnly).map fun pair =>
    DerivationInput.ofView (pair.side side) query exclude

end DiffRecord

/-- The exchanged form of the details of a symbol. -/
def SymbolDetail.toJson (detail : SymbolDetail) : Json :=
  .obj [
    ("status", .str detail.status.name),
    ("old", .ofOption Node.toJson detail.old),
    ("new", .ofOption Node.toJson detail.new),
    ("risk", .ofOption SymbolRisk.toJson detail.risk),
    ("hunks", .ofOption FilePatch.toJson detail.patch)]

end StructuralDiff
