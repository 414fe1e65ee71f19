import StructuralDiff.Patch

/-!
# Summaries of files

What a comparison says about each changed file: its status, its changed symbols, its textual churn and a
score made of all of them.

* `Delta.fileSummaries`: the summaries of all changed files, the riskiest first.
-/

namespace StructuralDiff

/-- What a comparison says about a file. -/
structure FileSummary where
  path : String
  status : FileStatus
  churn : Nat
  score : Nat
  level : RiskLevel
  symbols : List SymbolRisk
  deriving DecidableEq, Repr

/-- What happened to a file whose node has an outcome. -/
def FileStatus.ofStatus : Status → FileStatus
  | .added => .added
  | .removed => .deleted
  | .modified => .modified
  | .unchanged => .unchanged

namespace FileSummary

/-- The exchanged form of a summary. -/
def toJson (summary : FileSummary) : Json :=
  .obj [
    ("path", .str summary.path),
    ("status", .str summary.status.name),
    ("churn", .nat summary.churn),
    ("score", .nat summary.score),
    ("level", .str summary.level.name),
    ("symbols", .ofList SymbolRisk.toJson summary.symbols)]

/-- The higher score comes first, and of equal scores the smaller path. -/
def order (a b : FileSummary) : Ordering :=
  (Text.orderNat b.score a.score).then (Text.order a.path b.path)

/-- The summary `a` is not listed after `b`. -/
def le (a b : FileSummary) : Bool :=
  (order a b).isLE

end FileSummary

/-- The nodes of a snapshot that stand for files. -/
def Snapshot.fileNodes (snapshot : Snapshot) : List Node :=
  snapshot.nodes.filter (·.kind == .file)

namespace Delta

/-- The files of the old snapshot that were removed. -/
def removedFiles (delta : Delta) : List Node :=
  delta.old.fileNodes.filter fun node => delta.nodeStatus? node.id == some .removed

/-- What the nodes of the snapshots say about a file: the last file of the new snapshot counts, then a
removed file of the old one, and a file with no node at all counts as modified. -/
def fileStatus (delta : Delta) (path : String) : FileStatus :=
  match (delta.new.fileNodes.filter (·.filePath == path)).getLast? with
  | some node => FileStatus.ofStatus (delta.statusOf node.id)
  | none => if delta.removedFiles.any (·.filePath == path) then .deleted else .modified

/-- The paths that may have a summary, in order. -/
def candidatePaths (delta : Delta) (symbols : List SymbolRisk) (patches : Table FilePatch) :
    List String :=
  Text.sortedSet (delta.removedFiles.map (·.filePath) ++ delta.new.fileNodes.map (·.filePath)
    ++ symbols.map (·.filePath) ++ patches.keys)

/-- The summary of a path, if anything about it changed. The status that a patch reports counts more than
those of the nodes. -/
def fileSummary? (delta : Delta) (symbols : List SymbolRisk) (patches : Table FilePatch)
    (path : String) : Option FileSummary :=
  let symbols := symbols.filter (·.filePath == path)
  let patch? := patches.get? path
  let churn := (patch?.map FilePatch.churn).getD 0
  let status :=
    match patch? with
    | some patch => patch.status
    | none =>
      let status := delta.fileStatus path
      if status == .unchanged && !symbols.isEmpty then .modified else status
  if status == .unchanged && symbols.isEmpty && churn == 0 then none
  else
    let score := Risk.fileScore symbols churn status
    some { path, status, churn, score, level := RiskLevel.ofScore score, symbols }

/-- The summaries of all changed files, the riskiest first. -/
def fileSummaries (delta : Delta) (symbols : List SymbolRisk) (patches : Table FilePatch) :
    List FileSummary :=
  ((delta.candidatePaths symbols patches).filterMap (delta.fileSummary? symbols patches)).mergeSort
    FileSummary.le

end Delta

end StructuralDiff
