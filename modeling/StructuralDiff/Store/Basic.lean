import StructuralDiff.Disk
import StructuralDiff.Graph.Basic

/-!
# Stores of snapshots

A store keeps snapshots under the ids of their repository and of themselves. What it keeps them in is a
state that its operations read and replace, so that all stores can be used in the same way.

* `Store`: the operations of a store.
* `MemoryStore`: snapshots in a list.
-/

namespace StructuralDiff

/-- Why a store could not do its work. -/
inductive StoreError where
  /-- The disk failed. -/
  | io (path : String) (cause : DiskError)
  /-- The file does not hold a snapshot. -/
  | malformed (path : String)
  /-- The file has another format. -/
  | version (path : String) (found : Nat)
  deriving DecidableEq, Repr

/-- The version of the stored format. -/
def Store.formatVersion : Nat := 1

/-- The reason in words. -/
def StoreError.message : StoreError → String
  | .io path cause => "I/O error at " ++ path ++ ": " ++ cause.message
  | .malformed path => "invalid graph document " ++ path
  | .version path found =>
    "graph document " ++ path ++ " has version " ++ Nat.repr found ++ ", expected "
      ++ Nat.repr Store.formatVersion

/-- The operations of a store with states in `σ`. An operation that fails may still have changed the
state. -/
structure Store (σ : Type) where
  /-- Keeps a snapshot, in place of an earlier one with the same ids. -/
  save : Snapshot → σ → Except StoreError Unit × σ
  /-- The snapshot with the ids, or none if it was never saved. -/
  load : (repoId snapshotId : String) → σ → Except StoreError (Option Snapshot)
  /-- Removes all snapshots. -/
  clear : σ → Except StoreError Unit × σ

/-- A store whose state is a part of a larger one. -/
def Store.within {σ τ : Type} (store : Store τ) (part : σ → τ) (replace : τ → σ → σ) : Store σ where
  save snapshot state :=
    let (answer, inner) := store.save snapshot (part state)
    (answer, replace inner state)
  load repoId snapshotId state := store.load repoId snapshotId (part state)
  clear state :=
    let (answer, inner) := store.clear (part state)
    (answer, replace inner state)

/-- Snapshots in memory, the latest first. -/
structure MemoryStore where
  saved : List ((String × String) × Snapshot)
  deriving Inhabited

namespace MemoryStore

/-- No snapshots. -/
def empty : MemoryStore := ⟨[]⟩

/-- Keeps a snapshot. -/
def insert (memory : MemoryStore) (snapshot : Snapshot) : MemoryStore :=
  let key := (snapshot.repoId, snapshot.snapshotId)
  ⟨(key, snapshot) :: memory.saved.filter (·.1 != key)⟩

/-- The snapshot with the ids. -/
def get? (memory : MemoryStore) (repoId snapshotId : String) : Option Snapshot :=
  memory.saved.lookup (repoId, snapshotId)

/-- How many snapshots are kept. -/
def size (memory : MemoryStore) : Nat :=
  memory.saved.length

end MemoryStore

/-- The store that keeps snapshots in memory. -/
def Store.memory : Store MemoryStore where
  save snapshot memory := (.ok (), memory.insert snapshot)
  load repoId snapshotId memory := .ok (memory.get? repoId snapshotId)
  clear _ := (.ok (), MemoryStore.empty)

end StructuralDiff
