import StructuralDiff.Digest
import StructuralDiff.Text.Blank
import StructuralDiff.Text.Case
import StructuralDiff.Text.Digit

/-!
# Signatures and lexical keys

A signature is the digest of a token stream. Names of symbols carry suffixes that depend on their place
in a file; keys are made from names without them, so that a symbol that only moves keeps its key.

* `Signature.joined`: the text that is digested, tokens with one space between neighbours.
* `Name.withoutPositions`, `Name.withoutInstance`: names without their suffixes.
-/

namespace StructuralDiff

namespace Signature

/-- Tokens with one space between neighbours. -/
def joined (tokens : List String) : String :=
  " ".intercalate tokens

/-- The digest of a token stream. -/
def ofTokens (tokens : List String) : String :=
  (Digest.ofText (joined tokens)).hex

/-- The digest of a text, whatever the blanks between its words. -/
def ofText (text : String) : String :=
  ofTokens (Text.words text)

/-- A snippet for comparison: blanks collapsed, in lower case. -/
def normalSnippet (snippet : String) : String :=
  Text.lowercase (Text.collapse snippet)

end Signature

namespace Name

/-- The name of a member of a scope. -/
def qualify (scope name : String) : String :=
  if scope == "" then name else scope ++ "." ++ name

/-- Leaves out every `@L` that digits follow, together with these digits. -/
def dropPositions : List Char → List Char
  | '@' :: 'L' :: d :: rest =>
    if Text.isDigit d then dropPositions (rest.dropWhile Text.isDigit)
    else '@' :: dropPositions ('L' :: d :: rest)
  | c :: rest => c :: dropPositions rest
  | [] => []
termination_by cs => cs.length
decreasing_by
  · have := (List.dropWhile_sublist Text.isDigit (l := rest)).length_le
    simp only [List.length_cons]
    omega
  all_goals simp

/-- Leaves out a `#` with one or more digits at the end. -/
def dropInstance (name : List Char) : List Char :=
  let digits := name.reverse.takeWhile Text.isDigit
  match name.reverse.dropWhile Text.isDigit with
  | '#' :: before => if digits.isEmpty then name else before.reverse
  | _ => name

/-- The name without the line numbers of anonymous and repeated symbols. -/
def withoutPositions (qualifiedName : String) : String :=
  String.ofList (dropPositions qualifiedName.toList)

/-- The name without line numbers and without the number of a branch. -/
def withoutInstance (qualifiedName : String) : String :=
  String.ofList (dropInstance (dropPositions qualifiedName.toList))

end Name

end StructuralDiff
