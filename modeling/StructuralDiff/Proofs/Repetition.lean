import Mathlib.Data.List.Perm.Lattice
import StructuralDiff.Text.Order

/-!
# Lists without repetitions

What is left of a list when repetitions are dropped depends on its members only, up to the order; sorted as
well, it depends on nothing else. In a list in which no key is repeated, a key stands for one element.

* `nodup_eraseDups`: no element is left twice.
* `find?_reverse_eq_some_iff`: a look-up by the key finds the element that has it.
* `Text.mem_sortedSet`, `Text.sortedSet_eq_of_mem_iff`: a sorted set of texts is known by its members.
-/

namespace StructuralDiff

theorem nodup_eraseDups {α : Type} [BEq α] [LawfulBEq α] (l : List α) : l.eraseDups.Nodup := by
  -- the tail is filtered before the recursion, so the induction is on the length
  induction hn : l.length using Nat.strongRecOn generalizing l with
  | ind n ih =>
    cases l with
    | nil => exact List.nodup_nil
    | cons a l =>
      have hshorter : (l.filter fun b => !b == a).length < n := by
        have := l.length_filter_le fun b => !b == a
        rw [List.length_cons] at hn
        omega
      rw [List.eraseDups_cons, List.nodup_cons]
      refine ⟨fun ha => ?_, ih _ hshorter _ rfl⟩
      have hfilter := List.mem_eraseDups.mp ha
      simp at hfilter

/-- **A look-up by a key finds the element that has it**, from whichever end the search begins. -/
theorem find?_reverse_eq_some_iff {α κ : Type} {key : α → κ} {l : List α} (hnodup : (l.map key).Nodup)
    {test : α → Bool} {k : κ} (hkey : ∀ a, test a = true → key a = k) {a : α} :
    l.reverse.find? test = some a ↔ a ∈ l ∧ test a = true := by
  constructor
  · intro h
    exact ⟨List.mem_reverse.1 (List.mem_of_find?_eq_some h), List.find?_some h⟩
  · rintro ⟨hmem, htest⟩
    obtain ⟨found, hfound⟩ : ∃ found, l.reverse.find? test = some found := by
      rw [← Option.isSome_iff_exists, List.find?_isSome]
      exact ⟨a, List.mem_reverse.2 hmem, htest⟩
    have hmem' := List.mem_reverse.1 (List.mem_of_find?_eq_some hfound)
    have hsame : key found = key a := (hkey found (List.find?_some hfound)).trans (hkey a htest).symm
    rw [hfound, List.inj_on_of_nodup_map hnodup hmem' hmem hsame]

namespace Text

@[simp]
theorem mem_sortedSet {texts : List String} {text : String} : text ∈ sortedSet texts ↔ text ∈ texts := by
  rw [sortedSet, sort, List.mem_mergeSort, List.mem_eraseDups]

/-- **Lists with the same members make the same sorted set.** -/
theorem sortedSet_eq_of_mem_iff {l l' : List String} (h : ∀ text, text ∈ l ↔ text ∈ l') :
    sortedSet l = sortedSet l' := by
  refine sort_eq_of_perm ((List.perm_ext_iff_of_nodup (nodup_eraseDups l) (nodup_eraseDups l')).2 fun text => ?_)
  rw [List.mem_eraseDups, List.mem_eraseDups]
  exact h text

end Text

end StructuralDiff
