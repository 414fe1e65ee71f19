/-!
# Decoding of bytes

A byte sequence is read as UTF-8 character by character. Where it is ill-formed, each maximal start of
a character that cannot be completed stands for one unreadable piece. The sequence is text when it has
no such piece; for display, each piece becomes the replacement character.
-/

namespace StructuralDiff.Text

/-- The bytes that may follow a lead byte: how many there are, the range of the first of them, and the
payload of the lead byte itself. -/
def leadByte (b : UInt8) : Option (Nat × UInt8 × UInt8 × Nat) :=
  if b < 0x80 then some (0, 0x80, 0xbf, b.toNat)
  else if b < 0xc2 then none
  else if b < 0xe0 then some (1, 0x80, 0xbf, b.toNat - 0xc0)
  else if b == 0xe0 then some (2, 0xa0, 0xbf, 0)
  else if b == 0xed then some (2, 0x80, 0x9f, 0xd)
  else if b < 0xf0 then some (2, 0x80, 0xbf, b.toNat - 0xe0)
  else if b == 0xf0 then some (3, 0x90, 0xbf, 0)
  else if b < 0xf4 then some (3, 0x80, 0xbf, b.toNat - 0xf0)
  else if b == 0xf4 then some (3, 0x80, 0x8f, 4)
  else none

/-- Reads `owed` further bytes of a character, the first of them between `lo` and `hi`. The answer is
the code point, unless a byte does not fit, and the number of bytes read. -/
def tailBytes : (owed : Nat) → (lo hi : UInt8) → (payload : Nat) → List UInt8 → Option Nat × Nat
  | 0, _, _, payload, _ => (some payload, 0)
  | _ + 1, _, _, _, [] => (none, 0)
  | owed + 1, lo, hi, payload, b :: rest =>
    if lo ≤ b && b ≤ hi then
      let (code, used) := tailBytes owed 0x80 0xbf (64 * payload + (b.toNat - 0x80)) rest
      (code, used + 1)
    else (none, 0)

/-- The characters of a byte sequence, with `none` for each unreadable piece. -/
def decode : List UInt8 → List (Option Char)
  | [] => []
  | b :: rest =>
    match leadByte b with
    | none => none :: decode rest
    | some (owed, lo, hi, payload) =>
      let (code, used) := tailBytes owed lo hi payload rest
      code.map Char.ofNat :: decode (rest.drop used)
termination_by bytes => bytes.length
decreasing_by
  all_goals simp only [List.length_cons, List.length_drop]
  all_goals omega

/-- The text that the bytes encode, unless they are ill-formed. -/
def ofBytes? (bytes : ByteArray) : Option String :=
  ((decode bytes.data.toList).mapM id).map String.ofList

/-- The text that the bytes encode, with the replacement character for each unreadable piece. -/
def ofBytesLossy (bytes : ByteArray) : String :=
  String.ofList ((decode bytes.data.toList).map (·.getD '\ufffd'))

end StructuralDiff.Text
