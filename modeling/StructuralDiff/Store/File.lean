import StructuralDiff.Store.Document
import StructuralDiff.Text.Utf8

/-!
# Snapshots in files

The store that keeps each snapshot in a file of its own, below a directory of the repository.

* `FileStore.graphPath`: where a snapshot is kept.
* `Store.file`: the store.
-/

namespace StructuralDiff

/-- A directory that holds snapshots. -/
structure FileStore where
  /-- The working directory. -/
  here : List String
  /-- The directory of the store. -/
  directory : String

namespace FileStore

/-- A character that may not stand in the name of a file. -/
def isReserved (c : Char) : Bool :=
  ['/', '\\', ':', '*', '?', '"', '<', '>', '|'].contains c

/-- The name of a file for an id. -/
def fileName (id : String) : String :=
  String.ofList (id.toList.map fun c => if isReserved c then '_' else c)

/-- Where a snapshot is kept. -/
def graphPath (directory repoId snapshotId : String) : String :=
  Path.join (Path.join (Path.join directory "graphs") (fileName repoId))
    (fileName snapshotId ++ ".json")

/-- Keeps a snapshot with the moment of saving. -/
def save (store : FileStore) (savedAt : String) (graph : Snapshot) (disk : Disk) :
    Except StoreError Unit × Disk :=
  let path := graphPath store.directory graph.repoId graph.snapshotId
  match disk.makeDirectories store.here (Disk.parentPath path) with
  | .error cause => (.error (.io (Disk.parentPath path) cause), disk)
  | .ok disk =>
    match disk.write store.here path (StoredDocument.ofSnapshot savedAt graph).text.toUTF8 with
    | .error cause => (.error (.io path cause), disk)
    | .ok disk => (.ok (), disk)

/-- The snapshot with the ids. -/
def load (store : FileStore) (repoId snapshotId : String) (disk : Disk) :
    Except StoreError (Option Snapshot) :=
  let path := graphPath store.directory repoId snapshotId
  match disk.read store.here path with
  | .error .notFound => .ok none
  | .error cause => .error (.io path cause)
  | .ok bytes =>
    match (Text.ofBytes? bytes).bind StoredDocument.ofText? with
    | none => .error (.malformed path)
    | some document =>
      if document.version == Store.formatVersion then .ok (some document.graph)
      else .error (.version path document.version)

/-- Removes the directory of the store with everything in it. -/
def clear (store : FileStore) (disk : Disk) : Except StoreError Unit × Disk :=
  match disk.removeDirectory store.here store.directory with
  | (.ok (), disk) | (.error .notFound, disk) => (.ok (), disk)
  | (.error cause, disk) => (.error (.io store.directory cause), disk)

end FileStore

/-- The store that keeps snapshots in the files of a disk; the moment of saving is given. -/
def Store.file (store : FileStore) (savedAt : String) : Store Disk where
  save := store.save savedAt
  load := store.load
  clear := store.clear

end StructuralDiff
