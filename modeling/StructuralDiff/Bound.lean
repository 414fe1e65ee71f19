/-!
# Bounds of numbers

The bounds of numbers of a fixed width.
-/

namespace StructuralDiff.Bound

/-- The least number that does not fit into 32 bits. -/
def nat32 : Nat := 4294967296

/-- The least number that does not fit into 64 bits. -/
def nat64 : Nat := 18446744073709551616

/-- The least number that does not fit into 64 bits with a sign. -/
def int64 : Nat := 9223372036854775808

/-- The number fits into 64 bits with its sign. -/
def fitsInt64 (n : Int) : Bool :=
  -(int64 : Int) ≤ n && n < int64

end StructuralDiff.Bound
