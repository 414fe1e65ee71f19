import Mathlib.Data.List.Basic
import StructuralDiff.Digest

/-!
# What a digest says

Every digest has 32 bytes, and its hexadecimal form says all of them. So equal forms are equal digests, and what
was digested can only differ when the hash function collides.

* `Digest.length_ofBytes`: a digest has 32 bytes.
* `Digest.hex_inj`: a digest is known from its hexadecimal form.
* `Digest.hex_ofBytes_eq_iff`: so digests are the same for the same bytes, or in a collision.
-/

namespace StructuralDiff.Digest

/-- Each word has four bytes. -/
theorem length_flatMap_wordBytes (words : List UInt32) : (words.flatMap wordBytes).length = 4 * words.length := by
  induction words with
  | nil => rfl
  | cons w rest ih =>
    rw [List.flatMap_cons, List.length_append, ih, List.length_cons]
    show 4 + _ = _
    omega

/-- A digest has eight words. -/
theorem length_ofBytes (bytes : List UInt8) : (ofBytes bytes).bytes.length = 32 := by
  rw [ofBytes]
  simp only [length_flatMap_wordBytes, Vector.length_toList]

/-! ### The hexadecimal form -/

theorem hexDigit_inj : ∀ a < 16, ∀ b < 16, hexDigit a = hexDigit b → a = b := by
  decide

/-- Two digits say a byte. -/
theorem eq_of_hexDigits_eq {x y : UInt8} (hhigh : hexDigit (x.toNat / 16) = hexDigit (y.toNat / 16))
    (hlow : hexDigit (x.toNat % 16) = hexDigit (y.toNat % 16)) : x = y := by
  have hx := x.toNat_lt
  have hy := y.toNat_lt
  have hdiv := hexDigit_inj _ (by omega) _ (by omega) hhigh
  have hmod := hexDigit_inj _ (by omega) _ (by omega) hlow
  exact UInt8.toNat_inj.1 (by omega)

theorem eq_of_flatMap_hexDigits_eq {xs ys : List UInt8}
    (h : (xs.flatMap fun b => [hexDigit (b.toNat / 16), hexDigit (b.toNat % 16)]) =
      ys.flatMap fun b => [hexDigit (b.toNat / 16), hexDigit (b.toNat % 16)]) : xs = ys := by
  induction xs generalizing ys with
  | nil =>
    cases ys with
    | nil => rfl
    | cons _ _ => cases h
  | cons x xs ih =>
    cases ys with
    | nil => cases h
    | cons y ys =>
      simp only [List.flatMap_cons, List.cons_append, List.nil_append, List.cons.injEq] at h
      rw [eq_of_hexDigits_eq h.1 h.2.1, ih h.2.2]

/-- **A digest is known from its hexadecimal form.** -/
theorem hex_inj {a b : Digest} : a.hex = b.hex ↔ a = b := by
  constructor
  · intro h
    rw [hex, hex, String.ofList_inj] at h
    obtain ⟨xs⟩ := a
    obtain ⟨ys⟩ := b
    exact congrArg Digest.mk (eq_of_flatMap_hexDigits_eq h)
  · rintro rfl
    rfl

/-! ### Collisions -/

/-- Different byte sequences with the same digest. -/
def Collide (x y : List UInt8) : Prop :=
  x ≠ y ∧ ofBytes x = ofBytes y

theorem hex_ofBytes_eq_iff {x y : List UInt8} : (ofBytes x).hex = (ofBytes y).hex ↔ x = y ∨ Collide x y := by
  rw [hex_inj]
  by_cases h : x = y
  · simp [h]
  · simp [h, Collide]

end StructuralDiff.Digest
