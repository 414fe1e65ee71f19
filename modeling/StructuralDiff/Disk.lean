import StructuralDiff.Path
import StructuralDiff.Text.Order

/-!
# Disks

A file system as a finite map from places to files and directories. A place is the list of the names on
the way from the root; a path is a text that leads to a place, from the root or from a working directory.
-/

namespace StructuralDiff

/-- What stands at a place. -/
inductive DiskEntry where
  | directory
  | file (bytes : ByteArray)

/-- Why a file operation failed. -/
inductive DiskError where
  | notFound
  | notDirectory
  | isDirectory
  | badName
  deriving DecidableEq, Repr

/-- The reason in words. -/
def DiskError.message : DiskError → String
  | .notFound => "no such file or directory"
  | .notDirectory => "not a directory"
  | .isDirectory => "is a directory"
  | .badName => "invalid name"

/-- A file system; the root is a directory without being listed. -/
structure Disk where
  entries : List (List String × DiskEntry)

namespace Disk

/-- The disk with nothing but its root. -/
def empty : Disk := ⟨[]⟩

instance : Inhabited Disk := ⟨empty⟩

/-- What stands at a place. -/
def entry? (disk : Disk) (place : List String) : Option DiskEntry :=
  if place.isEmpty then some .directory else disk.entries.lookup place

/-- Puts an entry at a place, over what stood there. -/
def put (disk : Disk) (place : List String) (entry : DiskEntry) : Disk :=
  ⟨(place, entry) :: disk.entries.filter (·.1 != place)⟩

/-- A name that no entry can have. -/
def isBadName (name : String) : Bool :=
  255 < name.utf8ByteSize

/-- A path that leads nowhere. -/
def isBadPath (path : String) : Bool :=
  path.toList.contains '\x00'

/-- Goes on from a place along the names of a path. All places on the way have to be directories; the last
one need not exist. -/
def walk (disk : Disk) : (place : List String) → (names : List String) → Except DiskError (List String)
  | place, [] => .ok place
  | place, name :: rest =>
    match disk.entry? place with
    | none => .error .notFound
    | some (.file _) => .error .notDirectory
    | some .directory =>
      if name == ".." then disk.walk place.dropLast rest
      else if isBadName name then .error .badName
      else disk.walk (place ++ [name]) rest

/-- The place where a path begins. -/
def origin (directory : List String) (path : String) : List String :=
  if Text.beginsWith "/" path then [] else directory

/-- The place to which a path leads from a working directory. The empty path leads nowhere. -/
def place (disk : Disk) (directory : List String) (path : String) : Except DiskError (List String) :=
  if path == "" then .error .notFound
  else if isBadPath path then .error .badName
  else disk.walk (origin directory path) (Path.components path)

/-- The file at the end of a path. -/
def read (disk : Disk) (directory : List String) (path : String) : Except DiskError ByteArray :=
  match disk.place directory path with
  | .error error => .error error
  | .ok place =>
    match disk.entry? place with
    | none => .error .notFound
    | some .directory => .error .isDirectory
    | some (.file bytes) => .ok bytes

/-- Something stands at the end of a path. -/
def exists? (disk : Disk) (directory : List String) (path : String) : Option (List String) :=
  match disk.place directory path with
  | .error _ => none
  | .ok place => if (disk.entry? place).isSome then some place else none

/-- Writes a file at the end of a path whose directories exist. -/
def write (disk : Disk) (directory : List String) (path : String) (bytes : ByteArray) :
    Except DiskError Disk :=
  match disk.place directory path with
  | .error error => .error error
  | .ok place =>
    match disk.entry? place with
    | some .directory => .error .isDirectory
    | _ => .ok (disk.put place (.file bytes))

/-- Makes all directories on the way from a place along the names of a path. -/
def makeWay (disk : Disk) : (place : List String) → (names : List String) → Except DiskError Disk
  | _, [] => .ok disk
  | place, name :: rest =>
    if name == ".." then disk.makeWay place.dropLast rest
    else if isBadName name then .error .badName
    else
      let next := place ++ [name]
      match disk.entry? next with
      | some (.file _) => .error .notDirectory
      | some .directory => disk.makeWay next rest
      | none => (disk.put next .directory).makeWay next rest

/-- Makes the directory at the end of a path, and all those on the way. -/
def makeDirectories (disk : Disk) (directory : List String) (path : String) : Except DiskError Disk :=
  if isBadPath path then .error .badName
  else disk.makeWay (origin directory path) (Path.components path)

/-- The directory that holds the end of a path. -/
def parentPath (path : String) : String :=
  let names := (Path.components path).dropLast
  (if Text.beginsWith "/" path then "/" else "") ++ "/".intercalate names

/-- Writes a file at the end of a path, and makes the directories on the way. -/
def writeFile (disk : Disk) (directory : List String) (path : String) (bytes : ByteArray) :
    Except DiskError Disk :=
  match disk.makeDirectories directory (parentPath path) with
  | .error error => .error error
  | .ok disk => disk.write directory path bytes

/-- Removes whatever stands at a place and below it. -/
def removeBelow (disk : Disk) (place : List String) : Disk :=
  ⟨disk.entries.filter fun (other, _) => !place.isPrefixOf other⟩

/-- A path whose end names no directory but the place where it stands. -/
def endsHere (path : String) : Bool :=
  ((Text.splitAt '/' path).filter (· != "")).getLast? == some "."

/-- Removes a directory with everything in it. By a path that ends in `.` a directory can only be
emptied. -/
def removeDirectory (disk : Disk) (directory : List String) (path : String) :
    Except DiskError Unit × Disk :=
  match disk.place directory path with
  | .error error => (.error error, disk)
  | .ok place =>
    match disk.entry? place with
    | none => (.error .notFound, disk)
    | some (.file _) => (.error .notDirectory, disk)
    | some .directory =>
      let removed := disk.removeBelow place
      if endsHere path then (.error .badName, removed.put place .directory) else (.ok (), removed)

/-- The files below a place: the names on the way to each of them, and its content. -/
def filesBelow (disk : Disk) (place : List String) : List (List String × ByteArray) :=
  disk.entries.filterMap fun (other, entry) =>
    match entry with
    | .file bytes => (place.isPrefixOf? other).map (·, bytes)
    | .directory => none

/-- The paths of all files below a place, in order. -/
def list (disk : Disk) (place : List String) : List String :=
  Text.sort ((disk.filesBelow place).map fun (names, _) => "/".intercalate names)

end Disk

end StructuralDiff
