import Mathlib.Data.List.Nodup
import Mathlib.Data.List.Perm.Basic
import StructuralDiff.Delta.Basic
import StructuralDiff.Proofs.Repetition

/-!
# Groups under keys

A comparison takes two lists apart into groups under keys, works group by group and puts the results
together. Nothing is lost or repeated on the way, and what holds of every group holds of the whole.

* `flatMap_filter_perm`: the groups under the keys together are the list.
* `perm_of_filter_perm`: lists with the same groups are permutations of each other.
* `under_map`, `mem_keysOf`, `keysOf_nodup`: the groups and the keys of a comparison.
-/

open scoped List

namespace StructuralDiff.Delta

variable {α κ : Type} [DecidableEq κ]

/-! ### Taking a list apart -/

/-- The groups under distinct keys that cover a list together are the list. -/
theorem flatMap_filter_perm (f : α → κ) {keys : List κ} (hkeys : keys.Nodup) : ∀ {l : List α},
    (∀ a ∈ l, f a ∈ keys) → (keys.flatMap fun key => l.filter (f · = key)) ~ l := by
  induction keys with
  | nil =>
    intro l hcover
    cases l with
    | nil => exact List.Perm.refl _
    | cons a l => exact absurd (hcover a List.mem_cons_self) List.not_mem_nil
  | cons key keys ih =>
    intro l hcover
    obtain ⟨hkey, hkeys⟩ := List.nodup_cons.mp hkeys
    have hothers : (keys.flatMap fun key' => l.filter (f · = key')) =
        keys.flatMap fun key' => (l.filter (f · ≠ key)).filter (f · = key') := by
      refine List.flatMap_congr fun key' hkey' => ?_
      rw [List.filter_filter]
      refine List.filter_congr fun a _ => ?_
      by_cases ha : f a = key'
      · have hne : key' ≠ key := fun h => hkey (h ▸ hkey')
        simp [ha, hne]
      · simp [ha]
    -- the other groups are those of the elements outside the first
    rw [List.flatMap_cons, hothers]
    have hrest := ih hkeys (l := l.filter (f · ≠ key)) fun a ha => by
      obtain ⟨hal, hne⟩ := List.mem_filter.mp ha
      exact (List.mem_cons.mp (hcover a hal)).resolve_left (of_decide_eq_true hne)
    refine (hrest.append_left _).trans ?_
    have hsplit := List.filter_append_perm (f · = key) l
    simpa using hsplit

/-- Lists with the same groups are permutations of each other. -/
theorem perm_of_filter_perm [DecidableEq α] (f : α → κ) {l₁ l₂ : List α}
    (h : ∀ key, l₁.filter (f · = key) ~ l₂.filter (f · = key)) : l₁ ~ l₂ := by
  rw [List.perm_iff_count]
  intro a
  have hcount := (h (f a)).count_eq a
  rwa [List.count_filter (by simp), List.count_filter (by simp)] at hcount

/-- Sublists of a list without repetitions are determined by their elements. -/
theorem eq_of_sublist_of_mem_iff {l l₁ l₂ : List α} (hl : l.Nodup) (h₁ : l₁ <+ l) (h₂ : l₂ <+ l)
    (hmem : ∀ a, a ∈ l₁ ↔ a ∈ l₂) : l₁ = l₂ := by
  induction h₁ generalizing l₂ with
  | slnil => exact (List.sublist_nil.mp h₂).symm
  | @cons l₁ l a h₁ ih =>
    obtain ⟨ha, hl⟩ := List.nodup_cons.mp hl
    cases h₂ with
    | cons _ h₂ => exact ih hl h₂ hmem
    | cons_cons _ h₂ => exact absurd (h₁.subset ((hmem a).mpr List.mem_cons_self)) ha
  | @cons_cons l₁ l a h₁ ih =>
    obtain ⟨ha, hl⟩ := List.nodup_cons.mp hl
    cases h₂ with
    | cons _ h₂ => exact absurd (h₂.subset ((hmem a).mp List.mem_cons_self)) ha
    | @cons_cons l₂ _ _ h₂ =>
      refine congrArg (a :: ·) (ih hl h₂ fun b => ?_)
      -- the common head occurs in neither tail
      have hb := hmem b
      by_cases hba : b = a
      · subst hba
        exact ⟨fun h => absurd (h₁.subset h) ha, fun h => absurd (h₂.subset h) ha⟩
      · simpa [hba] using hb

/-! ### The groups of a comparison -/

theorem under_map {β : Type} (f : α → κ) (g : α → β) (key : κ) (l : List α) :
    under key (l.map fun a => (f a, g a)) = (l.filter (f · = key)).map g := by
  rw [under, List.filter_map, List.map_map]
  rfl

theorem keysOf_nodup (old new : List (κ × α)) : (keysOf old new).Nodup :=
  nodup_eraseDups _

theorem mem_keysOf {old new : List (κ × α)} {key : κ} :
    key ∈ keysOf old new ↔ key ∈ old.map (·.1) ∨ key ∈ new.map (·.1) := by
  rw [keysOf, List.mem_eraseDups, List.mem_append]

theorem flatMap_under_perm {keys : List κ} (hkeys : keys.Nodup) {l : List (κ × α)}
    (hcover : ∀ entry ∈ l, entry.1 ∈ keys) : (keys.flatMap fun key => under key l) ~ l.map (·.2) := by
  have h := (flatMap_filter_perm Prod.fst hkeys hcover).map (·.2)
  rw [List.map_flatMap] at h
  exact h

section Outcomes

variable {β ι : Type} {keys : List κ} {old new : List (κ × α)} {name : α → ι}
  {outcome : κ → List (ι × β)} (hkeys : keys ~ keysOf old new)
  (houtcome : ∀ key, (outcome key).map Prod.fst ~ (under key old ++ under key new).map name)

include hkeys houtcome

/-- **Nothing is lost or repeated**: when the outcomes under each key are about the elements under this key,
the outcomes together are about the elements of the two lists. -/
theorem map_fst_outcomes_perm :
    (keys.flatMap outcome).map Prod.fst ~ (old.map (·.2) ++ new.map (·.2)).map name := by
  have hnodup : keys.Nodup := hkeys.nodup_iff.mpr (keysOf_nodup old new)
  rw [List.map_flatMap]
  refine (List.Perm.flatMap_left keys fun key _ => houtcome key).trans ?_
  rw [← List.map_flatMap]
  refine List.Perm.map name ((List.flatMap_append_perm keys _ _).symm.trans ?_)
  refine (flatMap_under_perm hnodup fun entry hentry => ?_).append
    (flatMap_under_perm hnodup fun entry hentry => ?_)
  · exact hkeys.mem_iff.mpr (mem_keysOf.mpr (.inl (List.mem_map_of_mem hentry)))
  · exact hkeys.mem_iff.mpr (mem_keysOf.mpr (.inr (List.mem_map_of_mem hentry)))

/-- A key with an outcome has an element under it, so it is one of the keys. -/
theorem mem_keys_of_mem_outcome {key : κ} {entry : ι × β} (h : entry ∈ outcome key) : key ∈ keys := by
  have hunder : ∀ {l : List (κ × α)} {a : α}, a ∈ under key l → key ∈ l.map (·.1) := by
    intro l a ha
    rw [under, List.mem_map] at ha
    obtain ⟨keyed, hkeyed, -⟩ := ha
    obtain ⟨hmem, heq⟩ := List.mem_filter.mp hkeyed
    exact List.mem_map.mpr ⟨keyed, hmem, beq_iff_eq.mp heq⟩
  obtain ⟨a, ha, -⟩ := List.mem_map.mp ((houtcome key).subset (List.mem_map_of_mem h))
  exact hkeys.mem_iff.mpr (mem_keysOf.mpr ((List.mem_append.mp ha).imp hunder hunder))

/-- An outcome under any key is an outcome of the comparison. -/
theorem mem_outcomes {entry : ι × β} : entry ∈ keys.flatMap outcome ↔ ∃ key, entry ∈ outcome key := by
  rw [List.mem_flatMap]
  constructor
  · rintro ⟨key, -, h⟩
    exact ⟨key, h⟩
  · rintro ⟨key, h⟩
    exact ⟨key, mem_keys_of_mem_outcome hkeys houtcome h, h⟩

end Outcomes

end StructuralDiff.Delta
