import StructuralDiff.Toml.Scalar

/-!
# Reading TOML

The lines of a configuration file and the values in them. Arrays and tables in braces may be nested, but
not too deep, and a dotted key may not have too many parts.

* `Toml.read?`: the tables of a configuration file.
-/

namespace StructuralDiff.Toml

/-- How deep values may be nested, and how many parts a key may have. -/
def maxDepth : Nat := 79

/-- Leaves out the blanks at the start of a line. -/
def skip (text : List Char) : List Char :=
  text.dropWhile isSpace

/-- What follows the end of a line, before which there may be blanks and a comment. -/
def endLine? : (comment : Bool) → List Char → Option (List Char)
  | _, [] => some []
  | _, '\n' :: rest => some rest
  | _, '\r' :: '\n' :: rest => some rest
  | true, c :: rest => if isPlain c then endLine? true rest else none
  | false, c :: rest =>
    if c == '#' then endLine? true rest else if isSpace c then endLine? false rest else none

/-- What follows the blanks, line breaks and comments inside an array. -/
def skipLines? : (comment : Bool) → List Char → Option (List Char)
  | comment, [] => if comment then none else some []
  | _, '\n' :: rest => skipLines? false rest
  | _, '\r' :: '\n' :: rest => skipLines? false rest
  | true, c :: rest => if isPlain c then skipLines? true rest else none
  | false, c :: rest =>
    if c == '#' then skipLines? true rest
    else if isSpace c then skipLines? false rest
    else some (c :: rest)

/-- A character of a key without quotes. -/
def isKeyChar (c : Char) : Bool :=
  c.isAlphanum || c == '_' || c == '-'

/-- One part of a key. -/
def keyPart? (text : List Char) : Option (String × List Char) :=
  match text with
  | '"' :: rest => basic? [] rest
  | '\x27' :: rest => literal? rest
  | text =>
    let part := text.takeWhile isKeyChar
    if part.isEmpty then none else some (String.ofList part, text.drop part.length)

/-- The parts of a key, with dots and blanks between them. -/
def keyParts? : (fuel : Nat) → List Char → Option (List String × List Char)
  | 0, _ => none
  | fuel + 1, text => do
    let (part, rest) ← keyPart? (skip text)
    match skip rest with
    | '.' :: rest =>
      let (parts, rest) ← keyParts? fuel rest
      return (part :: parts, rest)
    | rest => return ([part], rest)

/-- A key: the path to its table and its last part. -/
def key? (text : List Char) : Option ((List String × String) × List Char) := do
  let (parts, rest) ← keyParts? maxDepth text
  return ((parts.dropLast, ← parts.getLast?), rest)

/-- A key and the sign of equality after it. -/
def assigned? (text : List Char) : Option ((List String × String) × List Char) := do
  let (key, rest) ← key? text
  return (key, skip (← mark? '=' rest))

mutual

/-- A value inside `depth` others, and what follows it. -/
def value? : (fuel depth : Nat) → List Char → Option (Item × List Char)
  | 0, _, _ => none
  | fuel + 1, depth, text =>
    match text with
    | '"' :: _ | '\x27' :: _ => (quoted? text).map fun (value, rest) => (.str value, rest)
    | '[' :: rest =>
      if depth < maxDepth then
        (items? fuel (depth + 1) [] rest).map fun (items, rest) => (.arr items, rest)
      else none
    | '\x7b' :: rest =>
      if depth < maxDepth then
        match skip rest with
        | '\x7d' :: rest => some (.braces [], rest)
        | rest =>
          (pairs? fuel (depth + 1) [] rest).map fun (entries, rest) => (.braces entries, rest)
      else none
    | text =>
      let length := bareLength text
      (scalar? (text.take length)).map (·, text.drop length)

/-- The items of an array up to its end; `done` is read in reverse. -/
def items? : (fuel depth : Nat) → (done : List Item) → List Char → Option (List Item × List Char)
  | 0, _, _, _ => none
  | fuel + 1, depth, done, text => do
    match ← skipLines? false text with
    | ']' :: rest => return (done.reverse, rest)
    | text =>
      let (item, rest) ← value? fuel depth text
      match ← skipLines? false rest with
      | ',' :: rest => items? fuel depth (item :: done) rest
      | ']' :: rest => return ((item :: done).reverse, rest)
      | _ => none

/-- The entries of a table in braces up to its end. -/
def pairs? : (fuel depth : Nat) → (entries : Entries) → List Char → Option (Entries × List Char)
  | 0, _, _, _ => none
  | fuel + 1, depth, entries, text => do
    let ((path, key), rest) ← assigned? text
    let (item, rest) ← value? fuel depth rest
    let entries ← put? path key item entries
    match skip rest with
    | ',' :: rest => pairs? fuel depth entries rest
    | '\x7d' :: rest => return (entries, rest)
    | _ => none

end

/-- A line that is not blank, and what follows it. -/
def statement? (text : List Char) : Option (Statement × List Char) :=
  match text with
  | '[' :: '[' :: rest => do
    let ((path, key), rest) ← key? rest
    let rest ← endLine? false (← mark? ']' (← mark? ']' rest))
    return (.element path key, rest)
  | '[' :: rest => do
    let ((path, key), rest) ← key? rest
    let rest ← endLine? false (← mark? ']' rest)
    return (.table path key, rest)
  | text => do
    let ((path, key), rest) ← assigned? text
    let (item, rest) ← value? (2 * rest.length + 2) 0 rest
    return (.entry path key item, ← endLine? false rest)

/-- The lines of a configuration file; `done` is read in reverse. -/
def statements? : (fuel : Nat) → (done : List Statement) → List Char → Option (List Statement)
  | 0, _, _ => none
  | fuel + 1, done, text =>
    match skip text with
    | [] => some done.reverse
    | '#' :: rest => (endLine? true rest).bind (statements? fuel done)
    | '\n' :: rest => statements? fuel done rest
    | '\r' :: '\n' :: rest => statements? fuel done rest
    | text => (statement? text).bind fun (statement, rest) => statements? fuel (statement :: done) rest

/-- Leaves out a mark of the byte order at the start. -/
def dropMark : List Char → List Char
  | '\uFEFF' :: rest => rest
  | text => text

/-- The tables of a configuration file. -/
def read? (text : String) : Option Entries :=
  let text := dropMark text.toList
  (statements? (text.length + 1) [] text).bind ofStatements?

end StructuralDiff.Toml
