import StructuralDiff.Analysis
import StructuralDiff.Diff.Record
import StructuralDiff.Store.Basic

/-!
# The registry of diffs

Comparisons of snapshots under their ids. To make one, both snapshots are taken from a store if it has
them, and analyzed and kept there otherwise; a store that fails is never in the way.

* `Registry.create`: makes a comparison and registers it.
-/

namespace StructuralDiff

/-- One side of a comparison: a snapshot as its files. -/
structure SnapshotSource where
  snapshotId : String
  revision : String
  files : List SourceFile

/-- Two snapshots that are to be compared, and their textual difference. -/
structure DiffRequest where
  repoId : String
  old : SnapshotSource
  new : SnapshotSource
  patches : List FilePatch

/-- Why there is no comparison. -/
inductive DiffError where
  | noChanges (oldRevision newRevision : String)
  deriving DecidableEq, Repr

/-- The reason in words. -/
def DiffError.message : DiffError → String
  | .noChanges oldRevision newRevision =>
    "no changes detected between " ++ oldRevision ++ " and " ++ newRevision

/-- The label of a snapshot. -/
def SnapshotSource.label (source : SnapshotSource) (repoId : String) : SnapshotLabel :=
  { repoId, snapshotId := source.snapshotId, revision := source.revision }

/-- The snapshot that the analysis of the files gives. -/
def SnapshotSource.analyzed (source : SnapshotSource) (config : AnalysisConfig) (repoId : String) :
    Snapshot :=
  Snapshot.ofFiles config (source.label repoId) source.files

namespace Store

variable {σ : Type}

/-- The snapshot that a store has, if it can be loaded and is sound. -/
def sound? (store : Store σ) (repoId snapshotId : String) (state : σ) : Option Snapshot :=
  match store.load repoId snapshotId state with
  | .ok (some snapshot) => if snapshot.defect?.isNone then some snapshot else none
  | _ => none

/-- Keeps a snapshot if the store can. -/
def keep (store : Store σ) (snapshot : Snapshot) (state : σ) : σ :=
  (store.save snapshot state).2

/-- Both snapshots of a request: those that the store has, and else the analyzed ones, which it is given to
keep. -/
def obtain (store : Store σ) (config : AnalysisConfig) (request : DiffRequest) (state : σ) :
    (Snapshot × Snapshot) × σ :=
  let old? := store.sound? request.repoId request.old.snapshotId state
  let new? := store.sound? request.repoId request.new.snapshotId state
  let old := old?.getD (request.old.analyzed config request.repoId)
  let new := new?.getD (request.new.analyzed config request.repoId)
  let state := if old?.isSome then state else store.keep old state
  let state := if new?.isSome then state else store.keep new state
  ((old, new), state)

end Store

/-- Comparisons under their ids, with the state of the store. -/
structure Registry (σ : Type) where
  state : σ
  diffs : Table DiffRecord

namespace Registry

variable {σ : Type}

/-- A registry without comparisons. -/
def ofState (state : σ) : Registry σ :=
  { state, diffs := Table.empty }

/-- Makes a comparison and registers it under its id. Snapshots without any difference are refused. -/
def create (store : Store σ) (config : AnalysisConfig) (request : DiffRequest)
    (registry : Registry σ) : Except DiffError String × Registry σ :=
  let ((old, new), state) := store.obtain config request registry.state
  let delta := Delta.between old new
  if delta.isEmpty then
    (.error (.noChanges request.old.revision request.new.revision), { registry with state })
  else
    let record := DiffRecord.ofDelta request.repoId (request.old.label request.repoId)
      (request.new.label request.repoId) request.patches delta
    (.ok record.id, { state, diffs := registry.diffs.insert record.id record })

/-- The comparison with an id. -/
def diff? (registry : Registry σ) (id : String) : Option DiffRecord :=
  registry.diffs.get? id

/-- The ids of all comparisons, in order. -/
def ids (registry : Registry σ) : List String :=
  Text.sort registry.diffs.keys

/-- Forgets a comparison. -/
def remove (registry : Registry σ) (id : String) : Registry σ :=
  { registry with diffs := registry.diffs.erase id }

end Registry

end StructuralDiff
