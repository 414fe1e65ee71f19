import StructuralDiff.Checkout
import StructuralDiff.Json.Reader
import StructuralDiff.Source.Codec

/-!
# Stored trees

Parsers run on their own and leave the tree of a source file in a file beside it, with `.tree` added to its
name.
-/

namespace StructuralDiff.Trees

/-- The name that a file with a tree has in addition. -/
def mark : String := ".tree"

/-- The place of the tree of a source file. -/
def placeOf (place : List String) : List String :=
  place.dropLast ++ [place.getLastD "" ++ mark]

/-- The tree that is stored for a file with the given content. -/
def stored? (disk : Disk) (place : List String) (bytes : ByteArray) : Option SourceTree :=
  match disk.entry? (placeOf place) with
  | some (.file tree) => ((Text.ofBytes? tree).bind Json.read?).bind (SourceTree.ofJson? bytes)
  | _ => none

/-- The parser that looks for a file with the same content and a stored tree. -/
def parser (disk : Disk) : Parser := fun language bytes =>
  (disk.filesBelow []).findSome? fun (place, other) =>
    if other == bytes && Language.ofPath (place.getLastD "") == language then
      stored? disk place bytes
    else none

end StructuralDiff.Trees
