import StructuralDiff.Json.Token
import StructuralDiff.Moment
import StructuralDiff.Toml.Basic

/-!
# TOML values that are not containers

Texts in quotes are read character by character; every other value is one run of characters that is
checked as a whole: truth values, whole numbers in four bases, numbers with a fraction, dates and times.
-/

namespace StructuralDiff.Toml

/-! ### Texts -/

/-- A blank inside a line. -/
def isSpace (c : Char) : Bool :=
  c == ' ' || c == '\t'

/-- A character that may stand in comments and texts. -/
def isPlain (c : Char) : Bool :=
  c == '\t' || (0x20 ≤ c.toNat && c.toNat != 0x7f)

/-- The character with a code in hexadecimal digits. -/
def charOfHex? (digits : List Char) : Option Char := do
  let values ← digits.mapM Json.hexValue?
  let code := values.foldl (fun n d => 16 * n + d) 0
  if Nat.isValidChar code then some (Char.ofNat code) else none

/-- A letter that stands for a character after a backslash. -/
def unescape? : Char → Option Char
  | 'b' => some '\x08'
  | 't' => some '\t'
  | 'n' => some '\n'
  | 'f' => some '\x0c'
  | 'r' => some '\r'
  | '"' => some '"'
  | '\\' => some '\\'
  | _ => none

/-- A text up to its closing double quote, and what follows it; `done` is read in reverse. -/
def basic? (done : List Char) : List Char → Option (String × List Char)
  | [] => none
  | '"' :: rest => some (String.ofList done.reverse, rest)
  | '\\' :: 'u' :: a :: b :: c :: d :: rest =>
    match charOfHex? [a, b, c, d] with
    | some x => basic? (x :: done) rest
    | none => none
  | '\\' :: 'U' :: a :: b :: c :: d :: e :: f :: g :: h :: rest =>
    match charOfHex? [a, b, c, d, e, f, g, h] with
    | some x => basic? (x :: done) rest
    | none => none
  | '\\' :: x :: rest =>
    match unescape? x with
    | some y => basic? (y :: done) rest
    | none => none
  | x :: rest => if isPlain x && x != '\\' then basic? (x :: done) rest else none

/-- A text up to its closing single quote, and what follows it. -/
def literal? (text : List Char) : Option (String × List Char) :=
  let body := text.takeWhile fun c => isPlain c && c != '\x27'
  match text.drop body.length with
  | '\x27' :: rest => some (String.ofList body, rest)
  | _ => none

/-- The end of a text on several lines: up to two more quotes belong to the text. -/
def closeLong (quote : Char) (done : List Char) : List Char → String × List Char
  | a :: b :: rest =>
    if a == quote && b == quote then (String.ofList (b :: a :: done).reverse, rest)
    else if a == quote then (String.ofList (a :: done).reverse, b :: rest)
    else (String.ofList done.reverse, a :: b :: rest)
  | [a] =>
    if a == quote then (String.ofList (a :: done).reverse, [])
    else (String.ofList done.reverse, [a])
  | [] => (String.ofList done.reverse, [])

/-- What follows a backslash at the end of a line: the blanks and lines after it are left out. -/
def fold? : (broken : Bool) → List Char → Option (List Char)
  | _, '\n' :: rest => fold? true rest
  | _, '\r' :: '\n' :: rest => fold? true rest
  | broken, c :: rest =>
    if isSpace c then fold? broken rest else if broken then some (c :: rest) else none
  | _, [] => none

/-- A text on several lines up to its closing double quotes. -/
def longBasic? : (fuel : Nat) → (done : List Char) → List Char → Option (String × List Char)
  | 0, _, _ => none
  | fuel + 1, done, text =>
    match text with
    | '"' :: '"' :: '"' :: rest => some (closeLong '"' done rest)
    | '\r' :: '\n' :: rest => longBasic? fuel ('\n' :: done) rest
    | '\n' :: rest => longBasic? fuel ('\n' :: done) rest
    | '\\' :: 'u' :: a :: b :: c :: d :: rest =>
      (charOfHex? [a, b, c, d]).bind fun x => longBasic? fuel (x :: done) rest
    | '\\' :: 'U' :: a :: b :: c :: d :: e :: f :: g :: h :: rest =>
      (charOfHex? [a, b, c, d, e, f, g, h]).bind fun x => longBasic? fuel (x :: done) rest
    | '\\' :: x :: rest =>
      match unescape? x with
      | some y => longBasic? fuel (y :: done) rest
      | none => (fold? false (x :: rest)).bind fun rest => longBasic? fuel done rest
    | x :: rest => if isPlain x && x != '\\' then longBasic? fuel (x :: done) rest else none
    | [] => none

/-- A text on several lines up to its closing single quotes. -/
def longLiteral? (done : List Char) : List Char → Option (String × List Char)
  | '\x27' :: '\x27' :: '\x27' :: rest => some (closeLong '\x27' done rest)
  | '\r' :: '\n' :: rest => longLiteral? ('\n' :: done) rest
  | x :: rest => if isPlain x || x == '\n' then longLiteral? (x :: done) rest else none
  | [] => none

/-- Leaves out a line break at the start. -/
def dropBreak : List Char → List Char
  | '\n' :: rest => rest
  | '\r' :: '\n' :: rest => rest
  | text => text

/-- A text in quotes of any kind, and what follows it. -/
def quoted? (text : List Char) : Option (String × List Char) :=
  match text with
  | '"' :: '"' :: '"' :: rest => longBasic? (rest.length + 1) [] (dropBreak rest)
  | '\x27' :: '\x27' :: '\x27' :: rest => longLiteral? [] (dropBreak rest)
  | '"' :: rest => basic? [] rest
  | '\x27' :: rest => literal? rest
  | _ => none

/-! ### Numbers -/

/-- Digits with single underscores between some of them; `afterDigit` says that a digit stands before the
list. -/
def isSpaced (isDigit : Char → Bool) : (afterDigit : Bool) → List Char → Bool
  | afterDigit, [] => afterDigit
  | afterDigit, c :: rest =>
    if c == '_' then afterDigit && isSpaced isDigit false rest
    else isDigit c && isSpaced isDigit true rest

/-- Digits with single underscores between some of them; the result is without these. -/
def spacedDigits? (isDigit : Char → Bool) (text : List Char) : Option (List Char) :=
  if isSpaced isDigit false text then some (text.filter (· != '_')) else none

/-- The digits of a decimal number, which has no zeros in front. -/
def decimalDigits? (text : List Char) : Option (List Char) :=
  if text.head? == some '0' && text != ['0'] then none else spacedDigits? Char.isDigit text

/-- A sign and what follows it; without a sign the number is positive. -/
def signed (text : List Char) : Bool × List Char :=
  match text with
  | '-' :: rest => (true, rest)
  | '+' :: rest => (false, rest)
  | rest => (false, rest)

/-- A whole number that fits into 64 bits with its sign. -/
def bounded? (n : Int) : Option Item :=
  if Bound.fitsInt64 n then some (.int n) else none

/-- A whole number in a base, after the mark of the base. -/
def inBase? (base : Nat) (text : List Char) : Option Item := do
  let isDigit (c : Char) : Bool := (Json.hexValue? c).any (· < base)
  let digits ← spacedDigits? isDigit text
  let values ← digits.mapM Json.hexValue?
  bounded? (values.foldl (fun n d => base * n + d) 0 : Nat)

/-- A whole number. -/
def integer? (text : List Char) : Option Item :=
  match text with
  | '0' :: 'x' :: rest => inBase? 16 rest
  | '0' :: 'o' :: rest => inBase? 8 rest
  | '0' :: 'b' :: rest => inBase? 2 rest
  | _ =>
    let (negative, rest) := signed text
    (decimalDigits? rest).bind fun digits =>
      let n : Int := Json.digitsValue digits
      bounded? (if negative then -n else n)

/-- The exponent of a number, which may be left out. -/
def exponent? (text : List Char) : Option Int :=
  match text with
  | [] => some 0
  | e :: rest =>
    if e == 'e' || e == 'E' then
      let (negative, rest) := signed rest
      (spacedDigits? Char.isDigit rest).map fun digits =>
        let n : Int := Json.digitsValue digits
        if negative then -n else n
    else none

/-- The digits of a fraction, which may be left out when there is an exponent. -/
def fraction? (text : List Char) : Option (List Char × List Char) :=
  match text with
  | '.' :: rest =>
    let body := rest.takeWhile fun c => c != 'e' && c != 'E'
    (spacedDigits? Char.isDigit body).map (·, rest.drop body.length)
  | [] => none
  | rest => some ([], rest)

/-- A number with a fraction or an exponent; one that is too large is refused. -/
def float? (text : List Char) : Option Item :=
  let (negative, rest) := signed text
  if rest == ['i', 'n', 'f'] || rest == ['n', 'a', 'n'] then some (.float (String.ofList text))
  else do
    let whole := rest.takeWhile fun c => c != '.' && c != 'e' && c != 'E'
    let digits ← decimalDigits? whole
    let (fraction, rest) ← fraction? (rest.drop whole.length)
    let exponent ← exponent? rest
    let mantissa := Json.digitsValue (digits ++ fraction)
    if negative || Json.finite mantissa (exponent - fraction.length) then
      some (.float (String.ofList text))
    else none

/-! ### Moments -/

/-- A number of a fixed number of digits within bounds, and what follows it. -/
def field? (width least greatest : Nat) (text : List Char) : Option (Nat × List Char) :=
  let digits := text.take width
  if digits.length == width then
    (Text.decimal? digits).bind fun n =>
      if least ≤ n && n ≤ greatest then some (n, text.drop width) else none
  else none

/-- What follows a mark. -/
def mark? (mark : Char) : List Char → Option (List Char)
  | c :: rest => if c == mark then some rest else none
  | [] => none

/-- What follows a date. -/
def date? (text : List Char) : Option (List Char) := do
  let (year, rest) ← field? 4 0 9999 text
  let (month, rest) ← field? 2 1 12 (← mark? '-' rest)
  let (_, rest) ← field? 2 1 (Moment.daysIn year month) (← mark? '-' rest)
  return rest

/-- What follows a time of the day. -/
def time? (text : List Char) : Option (List Char) := do
  let (_, rest) ← field? 2 0 23 text
  let (_, rest) ← field? 2 0 59 (← mark? ':' rest)
  let (_, rest) ← field? 2 0 60 (← mark? ':' rest)
  Moment.afterFraction? rest

/-- The text is an offset from universal time, or nothing. -/
def isOffset (text : List Char) : Bool :=
  match text with
  | [] | ['Z'] | ['z'] => true
  | sign :: rest =>
    (sign == '+' || sign == '-')
      && (do
        let (_, rest) ← field? 2 0 23 rest
        let (_, rest) ← field? 2 0 59 (← mark? ':' rest)
        if rest.isEmpty then some () else none).isSome

/-- The text is a date, a time of the day, or both. -/
def isMoment (text : List Char) : Bool :=
  match date? text with
  | some [] => true
  | some (c :: rest) =>
    (c == 'T' || c == 't' || c == ' ') && (time? rest).any isOffset
  | none => time? text == some []

/-! ### Bare values -/

/-- A character of a value without quotes. -/
def isBare (c : Char) : Bool :=
  c.isAlphanum || c == '+' || c == '-' || c == '.' || c == '_' || c == ':'

/-- The length of a bare value: between a date and a time there may be a blank. -/
def bareLength (text : List Char) : Nat :=
  let first := text.takeWhile isBare
  match text.drop first.length with
  | ' ' :: a :: b :: ':' :: rest =>
    if date? first == some [] && a.isDigit && b.isDigit then
      first.length + 4 + (rest.takeWhile isBare).length
    else first.length
  | _ => first.length

/-- The value of a run of characters. -/
def scalar? (text : List Char) : Option Item :=
  if text == ['t', 'r', 'u', 'e'] then some (.bool true)
  else if text == ['f', 'a', 'l', 's', 'e'] then some (.bool false)
  else if isMoment text then some (.moment (String.ofList text))
  else (float? text).or (integer? text)

end StructuralDiff.Toml
