/-!
# Lines

A line ends at a line feed, and a carriage return before the line feed belongs to the line break.
The text after the last line feed is a line of its own only when it is not empty.
-/

namespace StructuralDiff.Text

/-- The characters without a carriage return at their end. -/
def dropReturn (line : List Char) : List Char :=
  if line.getLast? == some '\r' then line.dropLast else line

/-- The lines of a list of characters, the first of which begins with `line` in reverse. -/
def linesFrom : List Char → List Char → List (List Char)
  | line, [] => if line.isEmpty then [] else [line.reverse]
  | line, c :: rest =>
    if c == '\n' then dropReturn line.reverse :: linesFrom [] rest else linesFrom (c :: line) rest

/-- The lines of a text, without their line breaks. -/
def lines (text : String) : List String :=
  (linesFrom [] text.toList).map String.ofList

/-- The pieces of a text between the separators `sep`; a text without one is its only piece. -/
def splitAt (sep : Char) (text : String) : List String :=
  (text.toList.splitOn sep).map String.ofList

/-- The part of a text after the last of the characters that satisfy `p`, or all of it. -/
def afterLast (p : Char → Bool) (text : String) : String :=
  String.ofList (text.toList.reverse.takeWhile (!p ·)).reverse

/-- The text before the last occurrence of `pattern`, read backwards. -/
def beforeLastRev (pattern : List Char) : List Char → Option (List Char)
  | [] => none
  | c :: rest =>
    if pattern.reverse.isPrefixOf (c :: rest) then some (rest.drop (pattern.length - 1)).reverse
    else beforeLastRev pattern rest

/-- The parts of a text before and after the last occurrence of a pattern that is not empty. -/
def splitLast? (pattern text : String) : Option (String × String) :=
  match beforeLastRev pattern.toList text.toList.reverse with
  | some before =>
    some (String.ofList before, String.ofList (text.toList.drop (before.length + pattern.length)))
  | none => none

/-- The parts of a list before and after the first occurrence of a pattern. -/
def splitFirstChars? (pattern : List Char) : List Char → Option (List Char × List Char)
  | [] => if pattern.isEmpty then some ([], []) else none
  | c :: rest =>
    if pattern.isPrefixOf (c :: rest) then some ([], (c :: rest).drop pattern.length)
    else (splitFirstChars? pattern rest).map fun (before, after) => (c :: before, after)

/-- The parts of a text before and after the first occurrence of a pattern. -/
def splitFirst? (pattern text : String) : Option (String × String) :=
  (splitFirstChars? pattern.toList text.toList).map fun (before, after) =>
    (String.ofList before, String.ofList after)

/-- The text has the pattern somewhere in it. -/
def has (pattern text : String) : Bool :=
  (splitFirstChars? pattern.toList text.toList).isSome

/-- The text begins with the pattern. -/
def beginsWith (pattern text : String) : Bool :=
  pattern.toList.isPrefixOf text.toList

/-- The text after a pattern at its start. -/
def afterStart? (pattern text : String) : Option String :=
  (pattern.toList.isPrefixOf? text.toList).map String.ofList

/-- The text ends with the pattern. -/
def finishesWith (pattern text : String) : Bool :=
  pattern.toList.isSuffixOf text.toList

/-- The text before a pattern at its end. -/
def beforeEnd? (pattern text : String) : Option String :=
  (pattern.toList.isSuffixOf? text.toList).map String.ofList

end StructuralDiff.Text
