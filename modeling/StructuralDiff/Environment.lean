import StructuralDiff.Table
import StructuralDiff.Text.Blank
import StructuralDiff.Text.Utf8

/-!
# Environments

Variables with text values, and the files that define more of them: lines such as `KEY=value` or
`export KEY="value"`, with comments, quotes, escapes and references to other variables. A file never
overrides a variable that is there, and its first malformed line ends it.

* `Environment.extended`: an environment with the definitions of a file.
-/

namespace StructuralDiff

/-- Variables with their values. -/
abbrev Environment := Table String

namespace Environment

/-! ### Lines -/

/-- Where in a line its end has to be looked for. -/
inductive LineScan where
  | plain
  /-- After a single blank, where a comment may begin. -/
  | blank
  | escape
  | double
  | doubleEscape
  | single
  | singleEscape
  deriving DecidableEq, Repr

/-- Reads a character; none stands for the begin of a comment. -/
def LineScan.step? : LineScan → Char → Option LineScan
  | .plain, c =>
    if Text.isBlank c && c != '\n' && c != '\r' then some .blank
    else if c == '\\' then some .escape
    else if c == '"' then some .double
    else if c == '\x27' then some .single
    else some .plain
  | .blank, c =>
    if c == '#' then none
    else if c == '\\' then some .escape
    else if c == '"' then some .double
    else if c == '\x27' then some .single
    else some .plain
  | .escape, _ => some .plain
  | .double, c => some (if c == '\\' then .doubleEscape else if c == '"' then .plain else .double)
  | .doubleEscape, _ => some .double
  | .single, c =>
    some (if c == '\\' then .singleEscape else if c == '\x27' then .plain else .single)
  | .singleEscape, _ => some .single

/-- A line that may go on over several lines of the file because of its quotes. -/
inductive LogicalLine where
  | text (line : List Char)
  /-- The file ended inside quotes. -/
  | broken
  deriving DecidableEq, Repr

/-- The logical lines of a file. A comment ends its line at once, but the rest of the line is dropped;
`skipping` says that this is going on, and `done` holds the begin of the line in reverse. -/
def logicalLines : LineScan → (skipping : Bool) → (done : List Char) → List Char → List LogicalLine
  | scan, skipping, done, [] =>
    if skipping then []
    else if scan != .plain then [.broken]
    else if done.isEmpty then [] else [.text done.reverse]
  | scan, true, done, c :: rest => logicalLines scan (c != '\n') done rest
  | scan, false, done, c :: rest =>
    if c == '#' && done.all Text.isBlank then logicalLines .plain true [] rest
    else
      match scan.step? c with
      | none => .text done.reverse :: logicalLines .plain true [] rest
      | some next =>
        if c == '\n' && next == .plain then
          .text done.reverse :: logicalLines .plain false [] rest
        else logicalLines next false (c :: done) rest

/-! ### Values -/

/-- What a value is in the middle of. -/
inductive ValueScan where
  | plain
  | double
  | single
  | escape (quoted : Bool)
  /-- The name of a variable after `$`. -/
  | name (quoted : Bool) (name : List Char)
  /-- The name of a variable in braces. -/
  | braces (quoted : Bool) (name : List Char)
  /-- After the value, where only a comment may follow. -/
  | ended
  deriving DecidableEq, Repr

/-- The character that an escaped one stands for. -/
def unescape? (c : Char) : Option Char :=
  if ['\\', '\x27', '"', '$', ' '].contains c then some c
  else if c == 'n' then some '\n'
  else none

/-- Outside of or inside double quotes. -/
def ValueScan.within (quoted : Bool) : ValueScan :=
  if quoted then .double else .plain

/-- The characters of a value; `done` holds its begin in reverse. A reference in a value ends at the first
character that cannot belong to a name, and that character counts as it stands. -/
def value? (lookup : String → String) : ValueScan → (done : List Char) → List Char → Option (List Char)
  | scan, done, [] =>
    match scan with
    | .plain | .ended | .escape false => some done.reverse
    | .name false name => some (done.reverse ++ (lookup (String.ofList name.reverse)).toList)
    | _ => none
  | .ended, done, c :: rest =>
    if c == ' ' || c == '\t' then value? lookup .ended done rest
    else if c == '#' then some done.reverse
    else none
  | .escape quoted, done, c :: rest =>
    match unescape? c with
    | some c => value? lookup (.within quoted) (c :: done) rest
    | none => none
  | .single, done, c :: rest =>
    if c == '\x27' then value? lookup .plain done rest else value? lookup .single (c :: done) rest
  | .name quoted name, done, c :: rest =>
    if c.isAlphanum then value? lookup (.name quoted (c :: name)) done rest
    else if c == '\x7b' && name.isEmpty then value? lookup (.braces quoted []) done rest
    else
      let done := (lookup (String.ofList name.reverse)).toList.reverse ++ done
      if c == '$' then value? lookup (.name quoted []) done rest
      else value? lookup (.within quoted) (c :: done) rest
  | .braces quoted name, done, c :: rest =>
    if c == '\x7d' then
      value? lookup (.within quoted) ((lookup (String.ofList name.reverse)).toList.reverse ++ done) rest
    else value? lookup (.braces quoted (c :: name)) done rest
  | .double, done, c :: rest =>
    if c == '$' then value? lookup (.name true []) done rest
    else if c == '"' then value? lookup .plain done rest
    else if c == '\\' then value? lookup (.escape true) done rest
    else value? lookup .double (c :: done) rest
  | .plain, done, c :: rest =>
    if c == '$' then value? lookup (.name false []) done rest
    else if c == '\x27' then value? lookup .single done rest
    else if c == '"' then value? lookup .double done rest
    else if c == '\\' then value? lookup (.escape false) done rest
    else if c == ' ' || c == '\t' then value? lookup .ended done rest
    else value? lookup .plain (c :: done) rest

/-! ### Definitions -/

/-- The name of a variable at the start of a text, and what follows it and the blanks after it. -/
def key? (text : List Char) : Option (String × List Char) :=
  match text with
  | c :: _ =>
    if c.isAlpha || c == '_' then
      let name := text.takeWhile fun c => c.isAlphanum || c == '_' || c == '.'
      some (String.ofList name, (text.drop name.length).dropWhile Text.isBlank)
    else none
  | [] => none

/-- What follows a sign of equality. -/
def afterEquals? : List Char → Option (List Char)
  | '=' :: rest => some rest
  | _ => none

/-- The name of the variable that a line defines and the text of its value. `export` before the name is
allowed, and is itself a name when a sign of equality follows it. -/
def assignment? (line : List Char) : Option (String × List Char) := do
  let (name, rest) ← key? line
  match afterEquals? rest with
  | some text => return (name, text)
  | none =>
    if name == "export" then
      let (name, rest) ← key? rest
      return (name, ← afterEquals? rest)
    else none

/-- What the lines of a file define. `known` holds the variables that the file has defined so far, also
those that were there before. -/
def define (environment known : Environment) : List LogicalLine → Environment
  | [] => environment
  | .broken :: _ => environment
  | .text line :: rest =>
    let line := (Text.trim (String.ofList line)).toList
    if line.isEmpty || line.head? == some '#' then define environment known rest
    else
      let lookup (name : String) : String :=
        ((environment.get? name).or (known.get? name)).getD ""
      let definition? : Option (String × String) := do
        let (name, text) ← assignment? line
        let text := text.dropWhile Text.isBlank
        let value ← if text.head? == some '#' then some [] else value? lookup .plain [] text
        return (name, String.ofList value)
      match definition? with
      | none => environment
      | some (name, value) =>
        let extended :=
          if (environment.get? name).isSome then environment else environment.insert name value
        define extended (known.insert name value) rest

/-- The characters of a file up to the last line before one that is not text. -/
def readable (bytes : ByteArray) : List Char :=
  let decoded := Text.decode bytes.data.toList
  let valid := (decoded.takeWhile Option.isSome).filterMap id
  if valid.length == decoded.length then valid
  else (valid.reverse.dropWhile (· != '\n')).reverse

/-- An environment with the definitions of a file. -/
def extended (environment : Environment) (bytes : ByteArray) : Environment :=
  let text :=
    match readable bytes with
    | '\uFEFF' :: rest => rest
    | text => text
  define environment Table.empty (logicalLines .plain false [] text)

end Environment

end StructuralDiff
