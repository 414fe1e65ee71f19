import Mathlib.Data.List.Sort
import StructuralDiff.Text.Order

/-!
# Rankings

Changed symbols and changed files are listed by their scores, the highest first, and of equal scores the one
with the smaller name comes first. Among things with different names this decides every case, so that there is
one way to rank them.

* `Ranking.Before`: one thing comes before another one.
* `Ranking.before_asymm`: never both before each other, so that a list in which everything stands before what
  follows it is known by its members.
* `Ranking.le_total`, `Ranking.le_trans`: the comparison that is sorted by.
* `Ranking.pairwise_sort`: a sorted list of things with different names goes strictly down.
-/

namespace StructuralDiff

/-- What things are ranked by. -/
structure Ranking (α : Type) where
  score : α → Nat
  name : α → String

namespace Ranking

variable {α : Type} (ranking : Ranking α) {a b c : α} {l : List α}

/-- The score is higher, or it is the same and the name is smaller. -/
def Before (a b : α) : Prop :=
  ranking.score b < ranking.score a ∨
    ranking.score a = ranking.score b ∧ Text.order (ranking.name a) (ranking.name b) = .lt

/-- The first thing is not listed after the second. -/
def le (a b : α) : Bool :=
  ((Text.orderNat (ranking.score b) (ranking.score a)).then
    (Text.order (ranking.name a) (ranking.name b))).isLE

variable {ranking}

theorem before_asymm (hab : ranking.Before a b) : ¬ranking.Before b a := by
  rintro (hlt | ⟨heq, hname⟩)
  · obtain hlt' | ⟨heq', -⟩ := hab
    · omega
    · omega
  · obtain hlt' | ⟨-, hname'⟩ := hab
    · omega
    · -- the names would have to differ both ways
      rw [← Text.order_eq_gt_iff, hname'] at hname
      cases hname

instance : Std.Asymm ranking.Before :=
  ⟨fun _ _ => before_asymm⟩

theorem le_iff : ranking.le a b = true ↔ ranking.score b < ranking.score a ∨
    ranking.score a = ranking.score b ∧ Text.le (ranking.name a) (ranking.name b) = true := by
  rw [le, Text.orderNat, Text.le]
  rcases Nat.lt_trichotomy (ranking.score b) (ranking.score a) with h | h | h
  · simp [h]
  · simp [h]
  · simp [Nat.lt_asymm h, h, Nat.ne_of_lt h]

theorem le_total (a b : α) : (ranking.le a b || ranking.le b a) = true := by
  have hnames := Text.le_total (ranking.name a) (ranking.name b)
  rw [Bool.or_eq_true] at hnames
  rw [Bool.or_eq_true, le_iff, le_iff]
  by_cases hsame : ranking.score a = ranking.score b
  · exact hnames.imp (fun h => .inr ⟨hsame, h⟩) fun h => .inr ⟨hsame.symm, h⟩
  · have hdiffer : ranking.score b < ranking.score a ∨ ranking.score a < ranking.score b := by omega
    exact hdiffer.imp .inl .inl

theorem le_trans (hab : ranking.le a b = true) (hbc : ranking.le b c = true) : ranking.le a c = true := by
  rw [le_iff] at *
  obtain hlt | ⟨heq, hname⟩ := hab
  · have hbc : ranking.score c ≤ ranking.score b := by omega
    exact .inl (by omega)
  · obtain hlt | ⟨heq', hname'⟩ := hbc
    · exact .inl (by omega)
    · exact .inr ⟨by omega, Text.le_trans hname hname'⟩

/-- Of two things with different names one comes before the other. -/
theorem before_of_le (hab : ranking.le a b = true) (hne : ranking.name a ≠ ranking.name b) :
    ranking.Before a b := by
  rw [le_iff] at hab
  exact hab.imp_right fun h => ⟨h.1, Text.order_of_le_of_ne h.2 hne⟩

theorem pairwise_le (l : List α) : (l.mergeSort ranking.le).Pairwise fun a b => ranking.le a b = true :=
  List.pairwise_mergeSort (fun _ _ _ => le_trans) le_total l

/-- **Things with different names are ranked strictly.** -/
theorem pairwise_sort (ranking : Ranking α) (h : (l.map ranking.name).Nodup) :
    (l.mergeSort ranking.le).Pairwise ranking.Before := by
  have hnames : ((l.mergeSort ranking.le).map ranking.name).Nodup :=
    ((List.mergeSort_perm l ranking.le).map _).nodup_iff.2 h
  exact (pairwise_le l).imp₂ (fun _ _ hle hne => before_of_le hle hne) (List.pairwise_map.1 hnames)

end Ranking

end StructuralDiff
