import StructuralDiff.Diff.Registry
import StructuralDiff.Disk

/-!
# Checkouts

A directory with source files as one side of a comparison. Hidden files are left out, and so is what the
ignore files in the directory name. The id of the snapshot is a digest of the paths and contents of the
files, so that an unchanged directory keeps its id.

* `Checkout.filesBy`: the files that a walk finds when a rule says which names it follows.
* `Checkout.files`: the files of a checkout.
* `Checkout.content`: what the id of a checkout is a digest of.
* `Checkout.source`: the checkout as one side of a comparison.
-/

namespace StructuralDiff

/-- What a parser makes of the bytes of a file in a language. -/
abbrev Parser := Language → ByteArray → Option SourceTree

namespace Checkout

/-- A line of an ignore file: a name, and whether only directories with that name are meant. -/
structure IgnoreRule where
  name : String
  directoriesOnly : Bool
  deriving DecidableEq, Repr

/-- The rule of a line of an ignore file; blank lines and comments have none. -/
def IgnoreRule.ofLine? (line : String) : Option IgnoreRule :=
  let line := Text.trimEnd line
  if line == "" || Text.beginsWith "#" line then none
  else
    match Text.beforeEnd? "/" line with
    | some name => some { name, directoriesOnly := true }
    | none => some { name := line, directoriesOnly := false }

/-- The name of an ignore file. -/
def ignoreFile : String := ".ignore"

/-- The rules of the ignore file in a directory, by what stands where. -/
def rulesAt (entryAt : List String → Option DiskEntry) (place : List String) : List IgnoreRule :=
  match entryAt (place ++ [ignoreFile]) with
  | some (.file bytes) => (Text.lines (Text.ofBytesLossy bytes)).filterMap IgnoreRule.ofLine?
  | _ => []

/-- A name that a walk does not follow. -/
def isSkipped (rules : List IgnoreRule) (isDirectory : Bool) (name : String) : Bool :=
  Text.beginsWith "." name
    || rules.any fun rule => rule.name == name && (isDirectory || !rule.directoriesOnly)

/-- The walk from a place follows all the names; the rules come from the directories before it. -/
def isFollowed (entryAt : List String → Option DiskEntry) :
    (rules : List IgnoreRule) → (place names : List String) → Bool
  | _, _, [] => true
  | rules, place, name :: rest =>
    let rules := rules ++ rulesAt entryAt place
    !isSkipped rules (!rest.isEmpty) name && isFollowed entryAt rules (place ++ [name]) rest

/-- A rule that says, by what stands where, whether a walk from a place follows all of some names. -/
abbrev Follows := (entryAt : List String → Option DiskEntry) → (place names : List String) → Bool

/-- Names are followed unless they are hidden or stand in an ignore file. Lines of ignore files are plain names;
patterns in them are not read. -/
def followsPlain : Follows := fun entryAt => isFollowed entryAt []

/-- The files of a directory that a walk finds and that can be analyzed, in the order of their paths. A single file
is a checkout without any path. -/
def filesBy (follows : Follows) (disk : Disk) (here : List String) (directory : String) :
    List (String × ByteArray) :=
  match disk.exists? here directory with
  | none => []
  | some place =>
    let found := (disk.filesBelow place).filterMap fun (names, bytes) =>
      let path := "/".intercalate names
      let full := if names.isEmpty then directory else Path.join directory path
      if follows disk.entry? place names && (Language.ofPath full).isAnalyzable then
        some (path, bytes)
      else none
    found.mergeSort fun a b => Text.le a.1 b.1

/-- The files of a checkout. -/
def files (disk : Disk) (here : List String) (directory : String) : List (String × ByteArray) :=
  filesBy followsPlain disk here directory

/-- What the id of a checkout is a digest of: each path, a zero byte and the digest of the content, in the
order of the paths. -/
def content (files : List (String × ByteArray)) : List UInt8 :=
  (files.mergeSort fun a b => Text.le a.1 b.1).flatMap fun (path, bytes) =>
    path.toUTF8.data.toList ++ 0 :: (Digest.ofBytes bytes.data.toList).bytes

/-- The id of a checkout. -/
def snapshotId (files : List (String × ByteArray)) : String :=
  String.ofList ((Digest.ofBytes (content files)).hex.toList.take 16)

/-- A directory as one side of a comparison. -/
def source (parse : Parser) (disk : Disk) (here : List String) (directory : String) :
    SnapshotSource :=
  let files := files disk here directory
  { snapshotId := snapshotId files
    revision := directory
    files := files.map fun (path, bytes) =>
      { path, bytes, tree := parse (Language.ofPath path) bytes } }

end Checkout

end StructuralDiff
