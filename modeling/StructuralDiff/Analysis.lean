import StructuralDiff.Extract.Python
import StructuralDiff.Extract.Script
import StructuralDiff.Fragment
import StructuralDiff.Text.Utf8

/-!
# Analysis of source files

A list of source files becomes a snapshot graph. Files are analyzed one by one; a file that cannot be
analyzed contributes a node that says why, and never affects the others.

* `Fragment.ofSourceFile`: the fragment of one file.
* `Snapshot.ofFiles`: the snapshot of a list of files.
-/

namespace StructuralDiff

/-- A source file, with its tree if a parser has been run on it. -/
structure SourceFile where
  path : String
  bytes : ByteArray
  tree : Option SourceTree

/-- Limits of the analysis. -/
structure AnalysisConfig where
  /-- Larger files are not analyzed. -/
  maxFileBytes : Nat := 1048576
  /-- How many threads may be used; 0 leaves that open. -/
  threads : Nat := 0
  deriving DecidableEq, Repr, Inhabited

/-- Why a file could not be analyzed. -/
inductive AnalysisError where
  | tooLarge (path : String) (size limit : Nat)
  | unsupported (path : String)
  | invalidText (path : String)
  | unparsed (path : String)
  | malformed (path : String) (line : Nat)
  deriving DecidableEq, Repr

/-- The reason in words. -/
def AnalysisError.message : AnalysisError → String
  | .tooLarge path size limit =>
    path ++ ": " ++ Nat.repr size ++ " bytes exceeds the " ++ Nat.repr limit ++ " byte limit"
  | .unsupported path => path ++ ": unsupported file type"
  | .invalidText path => path ++ ": content is not valid UTF-8"
  | .unparsed path => path ++ ": parser produced no tree"
  | .malformed path line => path ++ ":" ++ Nat.repr line ++ ": syntax error"

/-- Files of the language can be analyzed. -/
def Language.isAnalyzable (language : Language) : Bool :=
  language != .unknown

/-- The outlines of a file in a language. -/
def Language.outlines (language : Language) (root : SourceTree) : List Outline :=
  match language with
  | .python => Python.outlines false root.namedChildren
  | .typeScript | .tsx | .javaScript => Script.outlines false none none root.children
  | .unknown => []

/-- The tree and the text of a file, if it can be analyzed. -/
def SourceFile.parsed (file : SourceFile) (maxFileBytes : Nat) :
    Except AnalysisError (String × SourceTree) :=
  if maxFileBytes < file.bytes.size then
    .error (.tooLarge file.path file.bytes.size maxFileBytes)
  else if !(Language.ofPath file.path).isAnalyzable then .error (.unsupported file.path)
  else
    match Text.ofBytes? file.bytes with
    | none => .error (.invalidText file.path)
    | some text =>
      match file.tree with
      | none => .error (.unparsed file.path)
      | some tree =>
        match tree.firstErrorLine? with
        | some line => .error (.malformed file.path line)
        | none => .ok (text, tree)

namespace Fragment

/-- The fragment of a file that could be parsed. -/
def ofTree (label : SnapshotLabel) (path text : String) (tree : SourceTree) : Fragment :=
  let language := Language.ofPath path
  let fragment := ofFile label path language text tree.signature Metadata.empty
  (recordAll fragment.fileScope (language.outlines tree) fragment).resolved

/-- The fragment of a file that could not be analyzed. -/
def ofError (label : SnapshotLabel) (file : SourceFile) (error : AnalysisError) : Fragment :=
  let text := Text.ofBytesLossy file.bytes
  ofFile label file.path .unknown text (Signature.ofText text)
    (Metadata.empty.insert "error" error.message)

/-- The fragment of a file. -/
def ofSourceFile (maxFileBytes : Nat) (label : SnapshotLabel) (file : SourceFile) : Fragment :=
  match file.parsed maxFileBytes with
  | .ok (text, tree) => ofTree label file.path text tree
  | .error error => ofError label file error

end Fragment

namespace Snapshot

/-- The elements whose id has not occurred before. -/
def distinctBy {α : Type} (id : α → String) : (seen : List String) → List α → List α
  | _, [] => []
  | seen, a :: rest =>
    if seen.contains (id a) then distinctBy id seen rest
    else a :: distinctBy id (id a :: seen) rest

/-- The snapshot of fragments: of nodes and of edges with the same id the first one is kept, and edges with
a missing endpoint are left out. -/
def merge (label : SnapshotLabel) (fragments : List Fragment) : Snapshot :=
  let nodes := distinctBy Node.id [] (fragments.flatMap (·.nodes))
  let ids := nodes.map (·.id)
  let edges := (fragments.flatMap (·.edges)).filter fun edge =>
    ids.contains edge.source && ids.contains edge.target
  { empty label with nodes, edges := distinctBy Edge.id [] edges }

/-- The snapshot of a list of files. -/
def ofFiles (config : AnalysisConfig) (label : SnapshotLabel) (files : List SourceFile) : Snapshot :=
  merge label (files.map (Fragment.ofSourceFile config.maxFileBytes label))

end Snapshot

end StructuralDiff
