import StructuralDiff.Text.Line

/-!
# Paths

Paths are texts with `/` between their components. Empty components and `.` stand for nothing.
-/

namespace StructuralDiff.Path

/-- The components of a path that name something. -/
def components (path : String) : List String :=
  (Text.splitAt '/' path).filter fun part => part != "" && part != "."

/-- The last component, unless it leads to the parent directory. -/
def fileName? (path : String) : Option String :=
  match (components path).getLast? with
  | some ".." => none
  | name? => name?

/-- The part of the file name after its last dot; a dot at the start does not count. -/
def extension? (path : String) : Option String :=
  match fileName? path with
  | none => none
  | some name =>
    match Text.splitLast? "." name with
    | none | some ("", _) => none
    | some (_, extension) => some extension

/-- A path below a directory: a path from the root stands for itself. -/
def join (directory path : String) : String :=
  if Text.beginsWith "/" path then path
  else if directory == "" || Text.finishesWith "/" directory then directory ++ path
  else directory ++ "/" ++ path

/-- The part of a path after its last slash. -/
def lastPart (path : String) : String :=
  Text.afterLast (· == '/') path

/-- The characters of a path without any `./` at its start. -/
def dropHere : List Char → List Char
  | '.' :: '/' :: rest => dropHere rest
  | path => path

/-- The dotted path of the module that a file holds: `pkg/mod.py` holds `pkg.mod`, and
`pkg/__init__.py` holds `pkg`. -/
def modulePath (path : String) : String :=
  let trimmed := String.ofList (dropHere path.toList)
  let stem :=
    match Text.splitLast? "." trimmed with
    | some (stem, extension) => if Text.has "/" extension then trimmed else stem
    | none => trimmed
  let dotted := String.ofList (stem.toList.map fun c => if c == '/' || c == '\\' then '.' else c)
  match Text.beforeEnd? ".__init__" dotted with
  | some package => package
  | none => if dotted == "__init__" then "" else dotted

end StructuralDiff.Path
