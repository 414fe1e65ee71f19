import StructuralDiff.Bound
import StructuralDiff.Json.Basic

/-!
# The tokens of a JSON text

A text is cut into tokens by a machine that reads one character at a time. Blanks between tokens are
dropped; a string is decoded as it is read, so a token already holds its text.
-/

namespace StructuralDiff.Json

/-- A punctuation mark, or a value that is not a container. -/
inductive Token where
  | openArr
  | closeArr
  | openObj
  | closeObj
  | comma
  | colon
  | scalar (value : Json)

/-- What the machine is in the middle of; characters read so far are held in reverse. -/
inductive Scan where
  | between
  | string (done : List Char)
  | escape (done : List Char)
  | unit (done : List Char) (high : Option Nat) (owed : Nat) (code : Nat)
  | lowEscape (done : List Char) (high : Nat)
  | lowMark (done : List Char) (high : Nat)
  | number (done : List Char)
  | word (done : List Char)

/-- The value of a hexadecimal digit. -/
def hexValue? (c : Char) : Option Nat :=
  if '0' ≤ c && c ≤ '9' then some (c.toNat - 48)
  else if 'a' ≤ c && c ≤ 'f' then some (c.toNat - 87)
  else if 'A' ≤ c && c ≤ 'F' then some (c.toNat - 55)
  else none

/-- The value of a list of decimal digits. -/
def digitsValue (digits : List Char) : Nat :=
  digits.foldl (fun n c => 10 * n + (c.toNat - 48)) 0

/-- The least number that is too large for a double. -/
def tooLarge : Nat := Nat.pow 2 1024 - Nat.pow 2 970

/-- The number `mantissa * 10 ^ exponent` has a finite double. -/
def finite (mantissa : Nat) (exponent : Int) : Bool :=
  if mantissa == 0 then true
  else
    let size := (Nat.toDigits 10 mantissa).length
    if exponent < 0 then
      if exponent.natAbs + 400 < size then false
      else if size ≤ exponent.natAbs + 300 then true
      else mantissa < tooLarge * Nat.pow 10 exponent.natAbs
    else if 400 < exponent then false
    else mantissa * Nat.pow 10 exponent.natAbs < tooLarge

/-- A number with an optional sign, a fraction and an exponent. A number without the last two is
whole when it fits into 64 bits; minus zero is not. -/
def number? (text : List Char) : Option Json :=
  let negative := text.head? == some '-'
  let unsigned := if negative then text.drop 1 else text
  let whole := unsigned.takeWhile Char.isDigit
  let rest := unsigned.dropWhile Char.isDigit
  if whole.isEmpty || (whole.length != 1 && whole.head? == some '0') then none
  else
    let signed (n : Nat) : Int := if negative then -(n : Int) else n
    let fraction? : Option (List Char × List Char) :=
      match rest with
      | '.' :: rest =>
        let digits := rest.takeWhile Char.isDigit
        if digits.isEmpty then none else some (digits, rest.dropWhile Char.isDigit)
      | rest => some ([], rest)
    match fraction? with
    | none => none
    | some (fraction, rest) =>
      let exponent? : Option Int :=
        let ofDigits (sign : Int) (digits : List Char) : Option Int :=
          if digits.isEmpty || !digits.all Char.isDigit then none
          else some (sign * digitsValue digits)
        match rest with
        | [] => some 0
        | e :: rest =>
          if e == 'e' || e == 'E' then
            match rest with
            | '-' :: digits => ofDigits (-1) digits
            | '+' :: digits => ofDigits 1 digits
            | digits => ofDigits 1 digits
          else none
      match exponent? with
      | none => none
      | some exponent =>
        let mantissa := digitsValue (whole ++ fraction)
        let scale := exponent - fraction.length
        let n := signed mantissa
        if rest.isEmpty && fraction.isEmpty && !(negative && mantissa == 0)
            && -(Bound.int64 : Int) ≤ n && n < Bound.nat64 then some (.int n)
        else if finite mantissa scale then some (.decimal n scale)
        else none

/-- A word that names a value. -/
def word? (text : List Char) : Option Json :=
  if text == ['n', 'u', 'l', 'l'] then some .null
  else if text == ['t', 'r', 'u', 'e'] then some (.bool true)
  else if text == ['f', 'a', 'l', 's', 'e'] then some (.bool false)
  else none

/-- A character that can stand inside a number. -/
def numberChar (c : Char) : Bool :=
  c.isDigit || c == '-' || c == '+' || c == '.' || c == 'e' || c == 'E'

/-- Reads a character between two tokens. -/
def begin? (c : Char) : Option (Scan × List Token) :=
  match c with
  | ' ' | '\n' | '\t' | '\r' => some (.between, [])
  | '[' => some (.between, [.openArr])
  | ']' => some (.between, [.closeArr])
  | '\x7b' => some (.between, [.openObj])
  | '\x7d' => some (.between, [.closeObj])
  | ',' => some (.between, [.comma])
  | ':' => some (.between, [.colon])
  | '"' => some (.string [], [])
  | c =>
    if c == '-' || c.isDigit then some (.number [c], [])
    else if c.isAlpha then some (.word [c], [])
    else none

/-- A letter that stands for a character after a backslash. -/
def unescape? (c : Char) : Option Char :=
  match c with
  | '"' => some '"'
  | '\\' => some '\\'
  | '/' => some '/'
  | 'b' => some '\x08'
  | 'f' => some '\x0c'
  | 'n' => some '\n'
  | 'r' => some '\r'
  | 't' => some '\t'
  | _ => none

/-- A complete code unit: a character, the first half of a pair, or the second half of one. -/
def endUnit? (done : List Char) (high : Option Nat) (code : Nat) : Option Scan :=
  match high with
  | none =>
    if 0xd800 ≤ code && code < 0xdc00 then some (.lowEscape done code)
    else if 0xdc00 ≤ code && code < 0xe000 then none
    else some (.string (Char.ofNat code :: done))
  | some high =>
    if 0xdc00 ≤ code && code < 0xe000 then
      some (.string (Char.ofNat (0x10000 + (high - 0xd800) * 0x400 + (code - 0xdc00)) :: done))
    else none

/-- Reads one character: the new state, and the tokens that are complete. -/
def scan? : Scan → Char → Option (Scan × List Token)
  | .between, c => begin? c
  | .string done, c =>
    if c == '"' then some (.between, [.scalar (.str (String.ofList done.reverse))])
    else if c == '\\' then some (.escape done, [])
    else if c.toNat < 0x20 then none
    else some (.string (c :: done), [])
  | .escape done, c =>
    if c == 'u' then some (.unit done none 4 0, [])
    else (unescape? c).map fun d => (.string (d :: done), [])
  | .unit done high owed code, c =>
    (hexValue? c).bind fun d =>
      if owed ≤ 1 then (endUnit? done high (16 * code + d)).map (·, [])
      else some (.unit done high (owed - 1) (16 * code + d), [])
  | .lowEscape done high, c => if c == '\\' then some (.lowMark done high, []) else none
  | .lowMark done high, c => if c == 'u' then some (.unit done (some high) 4 0, []) else none
  | .number done, c =>
    if numberChar c then some (.number (c :: done), [])
    else (number? done.reverse).bind fun n => (begin? c).map fun (s, ts) => (s, .scalar n :: ts)
  | .word done, c =>
    if c.isAlpha then some (.word (c :: done), [])
    else (word? done.reverse).bind fun w => (begin? c).map fun (s, ts) => (s, .scalar w :: ts)

/-- The tokens that the end of the text completes. -/
def finish? : Scan → Option (List Token)
  | .between => some []
  | .number done => (number? done.reverse).map ([.scalar ·])
  | .word done => (word? done.reverse).map ([.scalar ·])
  | _ => none

/-- The tokens of a text that is read from a state on; those found so far are held in reverse. -/
def tokensFrom : Scan → List Token → List Char → Option (List Token)
  | s, found, [] => (finish? s).map fun last => (last.reverse ++ found).reverse
  | s, found, c :: rest =>
    match scan? s c with
    | none => none
    | some (s, ts) => tokensFrom s (ts.reverse ++ found) rest

/-- The tokens of a text. -/
def tokens (text : List Char) : Option (List Token) :=
  tokensFrom .between [] text

end StructuralDiff.Json
