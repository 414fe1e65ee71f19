/-!
# Blank characters, words and trimming

Blank characters are those with the property `White_Space`. A text falls apart into words at its
blank characters; comparing texts word by word makes the spacing between them irrelevant.
-/

namespace StructuralDiff.Text

/-- A class of characters as ranges of code points, both ends included. -/
abbrev Ranges := List (Nat × Nat)

/-- Membership of a character in a class of characters. -/
def Ranges.has (ranges : Ranges) (c : Char) : Bool :=
  ranges.any fun range => range.1.ble c.toNat && c.toNat.ble range.2

/-- The property `White_Space`. -/
def blankRanges : Ranges :=
  [(0x9, 0xd), (0x20, 0x20), (0x85, 0x85), (0xa0, 0xa0), (0x1680, 0x1680), (0x2000, 0x200a),
   (0x2028, 0x2029), (0x202f, 0x202f), (0x205f, 0x205f), (0x3000, 0x3000)]

/-- A character that only separates words. -/
def isBlank (c : Char) : Bool :=
  blankRanges.has c

/-- The maximal runs of characters that are not blank, in order. -/
def words (text : String) : List String :=
  ((text.toList.splitOnP isBlank).filter (!·.isEmpty)).map String.ofList

/-- The text without the blank characters at its start. -/
def trimStart (text : String) : String :=
  String.ofList (text.toList.dropWhile isBlank)

/-- The text without the blank characters at its end. -/
def trimEnd (text : String) : String :=
  String.ofList (text.toList.reverse.dropWhile isBlank).reverse

/-- The text without the blank characters at its two ends. -/
def trim (text : String) : String :=
  trimEnd (trimStart text)

/-- The words of the text with one space between neighbours. -/
def collapse (text : String) : String :=
  " ".intercalate (words text)

end StructuralDiff.Text
