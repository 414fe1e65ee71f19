/-!
# TOML tables

The values of a configuration file. A table may be opened by a header, implied by the header of a table
inside it, or made by a dotted key; what may still be added to it depends on which of these it was.

* `Toml.put?`: puts a value under a dotted key.
* `Toml.openTable?`, `Toml.openElement?`: what the two kinds of headers do.
-/

namespace StructuralDiff.Toml

/-- How a table came into being. -/
inductive Origin where
  /-- By a header of its own, or as an element of an array of tables. -/
  | header
  /-- By the header of a table inside it. -/
  | implied
  /-- By a dotted key. -/
  | dotted
  deriving DecidableEq, Repr, Inhabited

/-- A value. Numbers with a fraction and moments are kept as they are written. -/
inductive Item where
  | str (value : String)
  | int (value : Int)
  | float (text : String)
  | bool (value : Bool)
  | moment (text : String)
  | arr (items : List Item)
  /-- A table in braces, to which nothing can be added. -/
  | braces (entries : List (String × Item))
  /-- A table to which more may be added. -/
  | table (origin : Origin) (entries : List (String × Item))
  /-- An array of tables with headers. -/
  | tables (elements : List (List (String × Item)))
  deriving Inhabited, Repr

/-- The entries of a table, with distinct keys. -/
abbrev Entries := List (String × Item)

/-- Gives a key that is there another value. -/
def replace (key : String) (item : Item) (entries : Entries) : Entries :=
  entries.map fun entry => if entry.1 == key then (key, item) else entry

/-- Changes the table at the end of a path; tables that are missing on the way are made. A dotted key does
not go through a table that has a header; in an array of tables the way leads through the last one. -/
def descend? (change : Origin → Entries → Option Entries) (dotted : Bool) :
    (path : List String) → Origin → Entries → Option Entries
  | [], origin, entries => change origin entries
  | key :: path, _, entries =>
    match entries.lookup key with
    | none => do
      let origin : Origin := if dotted then .dotted else .implied
      return entries ++ [(key, .table origin (← descend? change dotted path origin []))]
    | some (.table origin inner) =>
      if dotted && origin == .header then none
      else do
        return replace key (.table origin (← descend? change dotted path origin inner)) entries
    | some (.tables elements) =>
      match elements.getLast? with
      | none => none
      | some inner => do
        let inner ← descend? change dotted path .header inner
        return replace key (.tables (elements.dropLast ++ [inner])) entries
    | some _ => none

/-- Puts a value under a dotted key. Only a table that dotted keys have made can be extended by them, and
no value can be given twice. -/
def put? (path : List String) (key : String) (item : Item) (entries : Entries) : Option Entries :=
  descend? (fun origin entries =>
    if (!path.isEmpty && origin != .dotted) || (entries.lookup key).isSome then none
    else some (entries ++ [(key, item)])) true path .header entries

/-- Opens a table by its header. -/
def openTable? (path : List String) (key : String) (entries : Entries) : Option Entries :=
  descend? (fun _ entries =>
    match entries.lookup key with
    | none => some (entries ++ [(key, .table .header [])])
    | some (.table .implied inner) => some (replace key (.table .header inner) entries)
    | some _ => none) false path .header entries

/-- Opens the next element of an array of tables by its header. -/
def openElement? (path : List String) (key : String) (entries : Entries) : Option Entries :=
  descend? (fun _ entries =>
    match entries.lookup key with
    | none => some (entries ++ [(key, .tables [[]])])
    | some (.tables elements) => some (replace key (.tables (elements ++ [[]])) entries)
    | some _ => none) false path .header entries

/-- A line of a configuration file. -/
inductive Statement where
  | entry (path : List String) (key : String) (item : Item)
  | table (path : List String) (key : String)
  | element (path : List String) (key : String)

/-- The tables so far, and the path of the one to which entries are added. -/
structure Document where
  entries : Entries
  current : List String

/-- What a line does to the tables. -/
def Document.step? (document : Document) : Statement → Option Document
  | .entry path key item => do
    let entries ← descend? (fun _ entries => put? path key item entries) false document.current
      .header document.entries
    return { document with entries }
  | .table path key => do
    return { entries := ← openTable? path key document.entries, current := path ++ [key] }
  | .element path key => do
    return { entries := ← openElement? path key document.entries, current := path ++ [key] }

/-- The tables of a list of lines. -/
def ofStatements? (statements : List Statement) : Option Entries :=
  (statements.foldlM Document.step? ⟨[], []⟩).map Document.entries

end StructuralDiff.Toml
