/-!
# The order of texts

Texts are ordered by their code points, the first difference deciding, which is also the order of
their encoded bytes. Lists of keys are sorted by `Text.le` and so do not depend on the order in which
the keys arrived.

* `order_eq_iff`, `order_swap`, `order_trans`: the order is a strict total order on texts.
* `sorted_eq_of_perm`: sorting forgets the order in which things arrive when no two of them are tied.
-/

namespace StructuralDiff.Text

/-- The first difference decides, and a text comes before its extensions. -/
def compareChars : List Char → List Char → Ordering
  | [], [] => .eq
  | [], _ :: _ => .lt
  | _ :: _, [] => .gt
  | a :: as, b :: bs =>
    if a.toNat.blt b.toNat then .lt
    else if b.toNat.blt a.toNat then .gt
    else compareChars as bs

/-- Which of two texts comes first. -/
def order (a b : String) : Ordering :=
  compareChars a.toList b.toList

/-- The text `a` does not come after `b`. -/
def le (a b : String) : Bool :=
  (order a b).isLE

/-- The texts in order, with repetitions kept. -/
def sort (texts : List String) : List String :=
  texts.mergeSort le

/-- The texts in order, each of them once. -/
def sortedSet (texts : List String) : List String :=
  sort texts.eraseDups

/-- Which of two numbers comes first. -/
def orderNat (m n : Nat) : Ordering :=
  if m.blt n then .lt else if n.blt m then .gt else .eq

/-- Which of two optional numbers comes first; an absent one comes before all others. -/
def orderNat? : Option Nat → Option Nat → Ordering
  | none, none => .eq
  | none, some _ => .lt
  | some _, none => .gt
  | some m, some n => orderNat m n

/-! ### A strict total order -/

theorem compareChars_self (cs : List Char) : compareChars cs cs = .eq := by
  induction cs with
  | nil => rfl
  | cons c cs ih => simp [compareChars, ih]

theorem eq_of_compareChars : ∀ {as bs : List Char}, compareChars as bs = .eq → as = bs
  | [], [], _ => rfl
  | [], _ :: _, h => by simp [compareChars] at h
  | _ :: _, [], h => by simp [compareChars] at h
  | a :: as, b :: bs, h => by
    simp only [compareChars] at h
    split at h
    · cases h
    · split at h
      · cases h
      · rename_i hab hba
        have hab : ¬a.toNat < b.toNat := by simpa [Nat.blt_eq] using hab
        have hba : ¬b.toNat < a.toNat := by simpa [Nat.blt_eq] using hba
        have hc : a = b := Char.toNat_inj.1 (by omega)
        rw [hc, eq_of_compareChars h]

theorem compareChars_swap : ∀ as bs : List Char,
    (compareChars as bs).swap = compareChars bs as
  | [], [] => rfl
  | [], _ :: _ => rfl
  | _ :: _, [] => rfl
  | a :: as, b :: bs => by
    simp only [compareChars]
    by_cases hab : a.toNat < b.toNat
    · have : ¬b.toNat < a.toNat := by omega
      simp [Nat.blt_eq, hab, this]
    · by_cases hba : b.toNat < a.toNat
      · simp [hab, hba]
      · simp [hab, hba, compareChars_swap as bs]

theorem compareChars_trans : ∀ {as bs cs : List Char},
    compareChars as bs = .lt → compareChars bs cs = .lt → compareChars as cs = .lt
  | _, [], [], _, h => by simp [compareChars] at h
  | [], [], _ :: _, h, _ => by simp [compareChars] at h
  | [], _ :: _, [], _, h => by simp [compareChars] at h
  | [], _ :: _, _ :: _, _, _ => rfl
  | _ :: _, [], _ :: _, h, _ => by simp [compareChars] at h
  | _ :: _, _ :: _, [], _, h => by simp [compareChars] at h
  | a :: as, b :: bs, c :: cs, hab, hbc => by
    simp only [compareChars, Nat.blt_eq] at hab hbc ⊢
    by_cases h1 : a.toNat < b.toNat
    · by_cases h2 : b.toNat < c.toNat
      · rw [if_pos (by omega)]
      · by_cases h3 : c.toNat < b.toNat
        · simp [h2, h3] at hbc
        · rw [if_pos (by omega)]
    · by_cases h2 : b.toNat < a.toNat
      · simp [h1, h2] at hab
      · by_cases h3 : b.toNat < c.toNat
        · rw [if_pos (by omega)]
        · by_cases h4 : c.toNat < b.toNat
          · simp [h3, h4] at hbc
          · simp only [h1, h2, h3, h4, if_false] at hab hbc
            rw [if_neg (by omega), if_neg (by omega)]
            exact compareChars_trans hab hbc

/-- Texts with the same place in the order are the same text. -/
theorem order_eq_iff {a b : String} : order a b = .eq ↔ a = b := by
  constructor
  · intro h
    exact String.toList_inj.1 (eq_of_compareChars h)
  · rintro rfl
    exact compareChars_self _

/-- Exchanging two texts reverses the order. -/
theorem order_swap (a b : String) : (order a b).swap = order b a :=
  compareChars_swap _ _

/-- The order is transitive. -/
theorem order_trans {a b c : String} (hab : order a b = .lt) (hbc : order b c = .lt) :
    order a c = .lt :=
  compareChars_trans hab hbc

/-- The text that does not come before another one and differs from it comes after it. -/
theorem order_eq_gt_iff {a b : String} : order a b = .gt ↔ order b a = .lt := by
  rw [← order_swap b a]
  cases order b a <;> decide

/-- Of two texts one does not come after the other. -/
theorem le_total (a b : String) : (le a b || le b a) = true := by
  rw [le, le, ← order_swap a b]
  cases order a b <;> rfl

/-- Not coming after is transitive. -/
theorem le_trans {a b c : String} (hab : le a b = true) (hbc : le b c = true) : le a c = true := by
  unfold le at *
  cases h1 : order a b with
  | gt => simp [h1] at hab
  | eq => rwa [order_eq_iff.1 h1]
  | lt =>
    cases h2 : order b c with
    | gt => simp [h2] at hbc
    | eq => rw [← order_eq_iff.1 h2, h1]; rfl
    | lt => rw [order_trans h1 h2]; rfl

/-- Texts of which neither comes after the other are the same. -/
theorem le_antisymm {a b : String} (hab : le a b = true) (hba : le b a = true) : a = b := by
  rw [le] at hab
  rw [le, ← order_swap a b] at hba
  refine order_eq_iff.mp ?_
  cases hord : order a b with
  | eq => rfl
  | lt => simp [hord] at hba
  | gt => simp [hord] at hab

/-- A text that does not come after another one and differs from it comes before it. -/
theorem order_of_le_of_ne {a b : String} (hab : le a b = true) (hne : a ≠ b) : order a b = .lt := by
  rw [le] at hab
  cases hord : order a b with
  | eq => exact absurd (order_eq_iff.mp hord) hne
  | lt => rfl
  | gt => simp [hord] at hab

/-! ### Sorted lists -/

/-- **The order in which things arrive does not matter**, when no two of them are tied. -/
theorem sorted_eq_of_perm {α : Type} {before : α → α → Bool}
    (htrans : ∀ a b c, before a b = true → before b c = true → before a c = true)
    (htotal : ∀ a b, (before a b || before b a) = true) {l l' : List α} (h : l.Perm l')
    (htied : ∀ a ∈ l, ∀ b ∈ l, before a b = true → before b a = true → a = b) :
    l.mergeSort before = l'.mergeSort before := by
  refine List.Perm.eq_of_pairwise (fun a b ha hb => ?_) (List.pairwise_mergeSort htrans htotal l)
    (List.pairwise_mergeSort htrans htotal l') ?_
  · exact htied a (List.mem_mergeSort.1 ha) b (h.mem_iff.2 (List.mem_mergeSort.1 hb))
  · exact (List.mergeSort_perm l before).trans (h.trans (List.mergeSort_perm l' before).symm)

theorem pairwise_sort (texts : List String) : (sort texts).Pairwise fun a b => le a b = true := by
  refine List.pairwise_mergeSort (fun a b c hab hbc => ?_) le_total texts
  exact le_trans hab hbc

theorem sort_perm (texts : List String) : (sort texts).Perm texts :=
  List.mergeSort_perm texts le

/-- Texts are never tied. -/
theorem sort_eq_of_perm {l l' : List String} (h : l.Perm l') : sort l = sort l' := by
  rw [sort, sort]
  refine sorted_eq_of_perm (fun a b c hab hbc => ?_) le_total h fun a _ b _ hab hba => ?_
  · exact le_trans hab hbc
  · exact le_antisymm hab hba

end StructuralDiff.Text
