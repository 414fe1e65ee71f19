import StructuralDiff.Text.Order

/-!
# The order of lines

What has a place in a file is listed by its first line, its last line and, where these agree, its name. Among
things with different names this decides every case.

* `Standing.Before`: one thing stands before another one.
* `Standing.le_total`, `Standing.le_trans`: the comparison that is sorted by.
* `Standing.before_of_le`: of two things with different names one stands before the other.
-/

namespace StructuralDiff

/-- What things are listed by. -/
structure Standing where
  first : Nat
  last : Nat
  name : String

namespace Standing

/-- The first line decides, then the last line, then the name. -/
def order (a b : Standing) : Ordering :=
  (Text.orderNat a.first b.first).then ((Text.orderNat a.last b.last).then (Text.order a.name b.name))

/-- The first thing does not stand after the second. -/
def le (a b : Standing) : Bool :=
  (order a b).isLE

/-- The first thing stands before the second. -/
def Before (a b : Standing) : Prop :=
  a.first < b.first ∨ a.first = b.first ∧
    (a.last < b.last ∨ a.last = b.last ∧ Text.order a.name b.name = .lt)

instance (a b : Standing) : Decidable (a.Before b) :=
  inferInstanceAs (Decidable (_ ∨ _ ∧ (_ ∨ _ ∧ _)))

theorem le_iff {a b : Standing} : a.le b = true ↔ a.first < b.first ∨ (a.first = b.first ∧
    (a.last < b.last ∨ (a.last = b.last ∧ Text.le a.name b.name = true))) := by
  rw [le, order, Text.orderNat, Text.orderNat, Text.le]
  rcases Nat.lt_trichotomy a.first b.first with h₁ | h₁ | h₁
  · simp [h₁]
  · rcases Nat.lt_trichotomy a.last b.last with h₂ | h₂ | h₂
    · simp [h₁, h₂]
    · simp [h₁, h₂]
    · simp [h₁, h₂, Nat.lt_asymm h₂, Nat.ne_of_gt h₂]
  · simp [h₁, Nat.lt_asymm h₁, Nat.ne_of_gt h₁]

theorem le_total (a b : Standing) : (a.le b || b.le a) = true := by
  rw [Bool.or_eq_true, le_iff, le_iff]
  have hname := Text.le_total a.name b.name
  rw [Bool.or_eq_true] at hname
  grind

theorem le_trans {a b c : Standing} (hab : a.le b = true) (hbc : b.le c = true) : a.le c = true := by
  rw [le_iff] at hab hbc ⊢
  have hname : Text.le a.name b.name = true → Text.le b.name c.name = true → Text.le a.name c.name = true :=
    Text.le_trans
  grind

/-- Two things of which neither stands after the other have the same name. -/
theorem name_eq_of_le {a b : Standing} (hab : a.le b = true) (hba : b.le a = true) : a.name = b.name := by
  rw [le_iff] at hab hba
  have hnames : Text.le a.name b.name = true ∧ Text.le b.name a.name = true := by grind
  exact Text.le_antisymm hnames.1 hnames.2

/-- **Of two things with different names one stands before the other.** -/
theorem before_of_le {a b : Standing} (hab : a.le b = true) (hne : a.name ≠ b.name) : a.Before b := by
  rw [le_iff] at hab
  exact hab.imp_right fun h => ⟨h.1, h.2.imp_right fun h => ⟨h.1, Text.order_of_le_of_ne h.2 hne⟩⟩

end Standing

end StructuralDiff
