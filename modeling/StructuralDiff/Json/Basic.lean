/-!
# JSON values

Values as they are stored and exchanged. An object keeps its fields in the order in which they were
written, repeated names included. Whole numbers of up to 64 bits are kept apart from all other numbers,
since only they can be counts, lines or versions.

* `Json.compact`: the shortest form, on one line.
* `Json.pretty`: the form on many lines, two spaces for each level.
-/

namespace StructuralDiff

/-- A JSON value. -/
inductive Json where
  | null
  | bool (value : Bool)
  | int (value : Int)
  | decimal (mantissa : Int) (exponent : Int)
  | str (value : String)
  | arr (items : List Json)
  | obj (fields : List (String × Json))
  deriving Inhabited, Repr

namespace Json

/-- A number of the naturals. -/
def nat (n : Nat) : Json := .int n

/-- A value or `null`. -/
def ofOption {α : Type} (encode : α → Json) : Option α → Json
  | none => .null
  | some a => encode a

/-- A list of values. -/
def ofList {α : Type} (encode : α → Json) (items : List α) : Json :=
  .arr (items.map encode)

/-! ### Writing -/

/-- A digit of base sixteen. -/
def hexDigit (n : Nat) : Char :=
  if n < 10 then Char.ofNat (48 + n) else Char.ofNat (87 + n)

/-- One character inside a string: only quotes, backslashes and control characters are escaped. -/
def escapeChar (c : Char) : List Char :=
  match c with
  | '"' => ['\\', '"']
  | '\\' => ['\\', '\\']
  | '\x08' => ['\\', 'b']
  | '\t' => ['\\', 't']
  | '\n' => ['\\', 'n']
  | '\x0c' => ['\\', 'f']
  | '\r' => ['\\', 'r']
  | c =>
    if c.toNat < 0x20 then
      ['\\', 'u', '0', '0', hexDigit (c.toNat / 16), hexDigit (c.toNat % 16)]
    else [c]

/-- A string with its quotes. -/
def quoted (text : String) : List Char :=
  '"' :: text.toList.flatMap escapeChar ++ ['"']

/-- The decimal form of a whole number. -/
def intText (n : Int) : List Char :=
  if n < 0 then '-' :: Nat.toDigits 10 n.natAbs else Nat.toDigits 10 n.natAbs

mutual

/-- The characters of the form without any blanks. -/
def compactChars : Json → List Char
  | .null => ['n', 'u', 'l', 'l']
  | .bool true => ['t', 'r', 'u', 'e']
  | .bool false => ['f', 'a', 'l', 's', 'e']
  | .int n => intText n
  | .decimal m e => intText m ++ 'e' :: intText e
  | .str s => quoted s
  | .arr items => '[' :: compactItems items ++ [']']
  | .obj fields => '\x7b' :: compactFields fields ++ ['\x7d']

/-- Items with commas between them. -/
def compactItems : List Json → List Char
  | [] => []
  | [v] => compactChars v
  | v :: w :: rest => compactChars v ++ ',' :: compactItems (w :: rest)

/-- Fields with commas between them. -/
def compactFields : List (String × Json) → List Char
  | [] => []
  | [(name, v)] => quoted name ++ ':' :: compactChars v
  | (name, v) :: w :: rest => quoted name ++ ':' :: compactChars v ++ ',' :: compactFields (w :: rest)

end

/-- The form without any blanks. -/
def compact (v : Json) : String :=
  String.ofList v.compactChars

/-- A line break and the blanks of a level. -/
def newline (level : Nat) : List Char :=
  '\n' :: List.replicate (2 * level) ' '

mutual

/-- The characters of the form on many lines, for a value that stands at a level. -/
def prettyChars (level : Nat) : Json → List Char
  | .arr [] => ['[', ']']
  | .arr (v :: rest) =>
    '[' :: prettyItems (level + 1) (v :: rest) ++ newline level ++ [']']
  | .obj [] => ['\x7b', '\x7d']
  | .obj (f :: rest) =>
    '\x7b' :: prettyFields (level + 1) (f :: rest) ++ newline level ++ ['\x7d']
  | .null => ['n', 'u', 'l', 'l']
  | .bool true => ['t', 'r', 'u', 'e']
  | .bool false => ['f', 'a', 'l', 's', 'e']
  | .int n => intText n
  | .decimal m e => intText m ++ 'e' :: intText e
  | .str s => quoted s

/-- Items on lines of their own. -/
def prettyItems (level : Nat) : List Json → List Char
  | [] => []
  | [v] => newline level ++ prettyChars level v
  | v :: w :: rest =>
    newline level ++ prettyChars level v ++ ',' :: prettyItems level (w :: rest)

/-- Fields on lines of their own. -/
def prettyFields (level : Nat) : List (String × Json) → List Char
  | [] => []
  | [(name, v)] => newline level ++ quoted name ++ ':' :: ' ' :: prettyChars level v
  | (name, v) :: w :: rest =>
    newline level ++ quoted name ++ ':' :: ' ' :: prettyChars level v
      ++ ',' :: prettyFields level (w :: rest)

end

/-- The form on many lines. -/
def pretty (v : Json) : String :=
  String.ofList (v.prettyChars 0)

end Json

end StructuralDiff
