import StructuralDiff.Bound
import StructuralDiff.Proofs.Graph.Identifier
import StructuralDiff.Text.Digit

/-!
# Numbers in texts

A number is written with the digits `0` to `9`, so that it ends where another character stands, and can be read
back from either end of a text.

* `Text.not_mem_repr`: a number holds nothing but digits.
* `Text.numbered_inj`: a text with a number after a `#` says the text and the number.
* `Text.decimal?_repr`: a number that was written is read again.
-/

namespace StructuralDiff.Text

theorem isDigit_of_mem_repr {c : Char} {n : Nat} (h : c ∈ (Nat.repr n).toList) : c.isDigit = true := by
  rw [Nat.toList_repr] at h
  exact Nat.isDigit_of_mem_toDigits (by decide) (by decide) h

theorem isEmpty_repr (n : Nat) : (Nat.repr n).toList.isEmpty = false := by
  rw [Nat.toList_repr, List.isEmpty_eq_false_iff]
  exact Nat.toDigits_ne_nil

theorem not_mem_repr {c : Char} (hc : c.isDigit = false) (n : Nat) : c ∉ (Nat.repr n).toList := by
  intro hmem
  rw [isDigit_of_mem_repr hmem] at hc
  cases hc

/-- **A numbered text says what is numbered, and the number.** -/
theorem numbered_inj {text text' : String} {n n' : Nat}
    (h : text ++ "#" ++ Nat.repr n = text' ++ "#" ++ Nat.repr n') : text = text' ∧ n = n' := by
  have hfree (n : Nat) : '#' ∉ (Nat.repr n).toList.reverse := by
    rw [List.mem_reverse]
    exact not_mem_repr (by decide) n
  -- The number has no sign in it, so it is read from the end.
  have hreverse := congrArg (fun text => text.toList.reverse) h
  simp only [String.toList_append, List.reverse_append] at hreverse
  obtain ⟨hn, htext⟩ := append_separator_inj (hfree n) (hfree n') hreverse
  have hdigits := List.reverse_injective hn
  rw [Nat.toList_repr, Nat.toList_repr] at hdigits
  refine ⟨String.toList_inj.1 (List.reverse_injective htext), ?_⟩
  rw [← @Nat.ofDigitChars_ten_toDigits n, hdigits, Nat.ofDigitChars_ten_toDigits]

/-- The digits `0` to `9` are among the digits of all scripts. -/
theorem isDigit_of_decimal {c : Char} (h : c.isDigit = true) : isDigit c = true := by
  have hbounds : 0x30 ≤ c.toNat ∧ c.toNat ≤ 0x39 := by
    rw [Char.isDigit, Bool.and_eq_true, decide_eq_true_eq, decide_eq_true_eq] at h
    exact h
  rw [isDigit, Ranges.has, List.any_eq_true]
  refine ⟨(0x30, 0x39), List.mem_cons_self, ?_⟩
  rw [Bool.and_eq_true, Nat.ble_eq, Nat.ble_eq]
  exact hbounds

theorem isDigit_of_mem_numeral {c : Char} {n : Nat} (h : c ∈ (Nat.repr n).toList) : isDigit c = true :=
  isDigit_of_decimal (isDigit_of_mem_repr h)

/-- **A number that was written is read again.** -/
theorem decimal?_repr (n : Nat) : decimal? (Nat.repr n).toList = some n := by
  have hall : (Nat.repr n).toList.all Char.isDigit = true := List.all_eq_true.2 fun _ => isDigit_of_mem_repr
  rw [decimal?, hall, isEmpty_repr, Nat.toList_repr]
  have hvalue : Nat.ofDigitChars 10 (Nat.toDigits 10 n) 0 = n := Nat.ofDigitChars_ten_toDigits
  rw [Nat.ofDigitChars_eq_foldl] at hvalue
  simpa using hvalue

end StructuralDiff.Text
