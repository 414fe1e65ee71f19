import Mathlib.Data.List.Nodup
import StructuralDiff.Metadata
import StructuralDiff.Table

/-!
# Look-ups in tables

A table made from a list of entries answers with the entry of the list, as long as the list says one thing
about every key. Entries may repeat: a comparison of a snapshot with itself writes every outcome twice.

* `get?_ofList_eq_some_iff`: a look-up in a table made from entries is membership among the entries.
* `mem_keys`, `mem_toList`: the listings of a table say what its look-ups say.
* `lookup_filter`, `lookup_replace`: a look-up does not see what happens to other keys.
* `get?_erase`: what a removal does to every look-up.
* `Metadata.get?_insert`: attributes answer like tables.
-/

namespace StructuralDiff.Table

variable {β : Type}

/-- The entries give no key two different values. -/
def SingleValued (entries : List (String × β)) : Prop :=
  ∀ key value value', (key, value) ∈ entries → (key, value') ∈ entries → value = value'

theorem singleValued_of_nodup {entries : List (String × β)} (h : (entries.map (·.1)).Nodup) :
    SingleValued entries := by
  intro key value value' hv hv'
  exact congrArg Prod.snd (List.inj_on_of_nodup_map h hv hv' rfl)

theorem get?_ofList (entries : List (String × β)) (key : String) :
    (ofList entries).get? key = entries.reverse.lookup key := by
  rw [ofList, get?, writes_insertAll]
  simp [empty]

/-- **A look-up is membership** when the entries say one thing about every key. -/
theorem get?_ofList_eq_some_iff {entries : List (String × β)} (h : SingleValued entries)
    {key : String} {value : β} :
    (ofList entries).get? key = some value ↔ (key, value) ∈ entries := by
  rw [get?_ofList]
  constructor
  · intro hlook
    obtain ⟨l₁, l₂, heq, -⟩ := List.lookup_eq_some_iff.mp hlook
    rw [← List.mem_reverse, heq]
    simp
  · intro hmem
    cases hlook : entries.reverse.lookup key with
    | none =>
      have hne := List.lookup_eq_none_iff.mp hlook (key, value) (List.mem_reverse.mpr hmem)
      simp at hne
    | some other =>
      -- whatever entry is found says the same about the key
      obtain ⟨l₁, l₂, heq, -⟩ := List.lookup_eq_some_iff.mp hlook
      have hother : (key, other) ∈ entries := by
        rw [← List.mem_reverse, heq]
        simp
      rw [h key other value hother hmem]

/-- A key that has entries has the value of one of them, whatever else the entries say about it. -/
theorem exists_get?_ofList {entries : List (String × β)} {key : String} (h : key ∈ entries.map (·.1)) :
    ∃ value, (ofList entries).get? key = some value ∧ (key, value) ∈ entries := by
  rw [get?_ofList]
  cases hlook : entries.reverse.lookup key with
  | none =>
    obtain ⟨entry, hentry, rfl⟩ := List.mem_map.mp h
    have hne := List.lookup_eq_none_iff.mp hlook entry (List.mem_reverse.mpr hentry)
    simp at hne
  | some value =>
    obtain ⟨l₁, l₂, heq, -⟩ := List.lookup_eq_some_iff.mp hlook
    exact ⟨value, rfl, by rw [← List.mem_reverse, heq]; simp⟩

/-- A table whose entries are the values of a function on some keys is this function on these keys. -/
theorem get?_ofList_eq_ite {entries : List (String × β)} {keys : List String} (f : String → β)
    (h : ∀ key value, (key, value) ∈ entries ↔ key ∈ keys ∧ value = f key) (key : String) :
    (ofList entries).get? key = if key ∈ keys then some (f key) else none := by
  have hsingle : SingleValued entries := by
    intro key value value' hv hv'
    rw [((h key value).mp hv).2, ((h key value').mp hv').2]
  split
  · next hkey => exact (get?_ofList_eq_some_iff hsingle).mpr ((h key _).mpr ⟨hkey, rfl⟩)
  · next hkey =>
    refine Option.eq_none_iff_forall_ne_some.mpr fun value hvalue => hkey ?_
    exact ((h key value).mp ((get?_ofList_eq_some_iff hsingle).mp hvalue)).1

theorem get?_isSome_iff (table : Table β) (key : String) :
    (table.get? key).isSome ↔ key ∈ table.writes.map (·.1) := by
  rw [get?, List.lookup_isSome_iff]
  constructor
  · rintro ⟨entry, hentry, hkey⟩
    exact List.mem_map.mpr ⟨entry, hentry, (beq_iff_eq.mp hkey).symm⟩
  · intro hmem
    obtain ⟨entry, hentry, hkey⟩ := List.mem_map.mp hmem
    exact ⟨entry, hentry, beq_iff_eq.mpr hkey.symm⟩

theorem mem_keys (table : Table β) (key : String) :
    key ∈ table.keys ↔ (table.get? key).isSome := by
  rw [keys, List.mem_eraseDups, get?_isSome_iff]

/-- The keys of a table are those of the entries it was made from. -/
theorem mem_keys_ofList {entries : List (String × β)} {key : String} :
    key ∈ (ofList entries).keys ↔ key ∈ entries.map (·.1) := by
  rw [mem_keys, get?_isSome_iff, ofList, writes_insertAll]
  simp [empty]

theorem mem_toList (table : Table β) {key : String} {value : β} :
    (key, value) ∈ table.toList ↔ table.get? key = some value := by
  rw [toList, List.mem_filterMap]
  constructor
  · rintro ⟨k, -, hk⟩
    obtain ⟨v, hv, heq⟩ := Option.map_eq_some_iff.mp hk
    cases heq
    exact hv
  · intro h
    refine ⟨key, (mem_keys table key).mpr ?_, ?_⟩
    · rw [h]
      rfl
    · rw [h]
      rfl

/-- A look-up does not see that other keys are left out. -/
theorem lookup_filter {α : Type} [BEq α] [LawfulBEq α] {p : α × β → Bool} {key : α} (entries : List (α × β))
    (h : ∀ entry ∈ entries, entry.1 = key → p entry = true) :
    (entries.filter p).lookup key = entries.lookup key := by
  induction entries with
  | nil => rfl
  | cons entry rest ih =>
    rw [List.forall_mem_cons] at h
    by_cases hkey : entry.1 = key
    · rw [List.filter_cons_of_pos (h.1 hkey), List.lookup_cons, List.lookup_cons]
      simp [hkey]
    · have hne : (key == entry.1) = false := by simpa using Ne.symm hkey
      rw [List.lookup_cons, hne, List.filter_cons]
      split
      · rw [List.lookup_cons, hne, ih h.2]
      · exact ih h.2

/-- A new entry in place of the old ones with its key. -/
theorem lookup_replace {α : Type} [BEq α] [LawfulBEq α] (entries : List (α × β)) (key other : α)
    (value : β) : ((key, value) :: entries.filter (·.1 != key)).lookup other =
      if other == key then some value else entries.lookup other := by
  rw [List.lookup_cons]
  cases hsame : other == key with
  | true => rfl
  | false =>
    refine lookup_filter entries fun entry _ hkey => ?_
    simpa [hkey] using hsame

theorem get?_erase (table : Table β) (key other : String) :
    (table.erase key).get? other = if other = key then none else table.get? other := by
  obtain ⟨writes⟩ := table
  show (writes.filter (·.1 != key)).lookup other = if other = key then none else writes.lookup other
  by_cases hsame : other = key
  · rw [if_pos hsame, List.lookup_eq_none_iff]
    intro entry hentry
    refine bne_iff_ne.2 fun heq => bne_iff_ne.1 (List.mem_filter.1 hentry).2 ?_
    rw [← heq, hsame]
  · rw [if_neg hsame]
    refine lookup_filter writes fun entry _ hkey => ?_
    simpa [hkey] using hsame

end StructuralDiff.Table

namespace StructuralDiff.Metadata

theorem lookup_insertEntry (key value other : String) (entries : List (String × String)) :
    (insertEntry key value entries).lookup other =
      if other = key then some value else entries.lookup other := by
  have hcons (k v : String) (rest : List (String × String)) :
      ((k, v) :: rest).lookup other = if other = k then some v else rest.lookup other := by
    rw [List.lookup_cons]
    by_cases h : other = k
    · rw [if_pos h, beq_iff_eq.2 h]
    · rw [if_neg h, beq_eq_false_iff_ne.2 h]
  induction entries with
  | nil => exact hcons key value []
  | cons head rest ih =>
    obtain ⟨k, v⟩ := head
    simp only [insertEntry]
    split
    · exact hcons key value _
    · next heq =>
      rw [Text.order_eq_iff.1 heq, hcons, hcons]
      split
      · rfl
      · rfl
    -- the entry stands further on; the head has another key, so the two conditions exclude each other
    · next hgt =>
      have hne : key ≠ k := by
        rintro rfl
        rw [Text.order_eq_iff.2 rfl] at hgt
        cases hgt
      rw [hcons, hcons, ih]
      by_cases h : other = key
      · rw [if_pos h, if_neg (h ▸ hne), if_pos h]
      · rw [if_neg h, if_neg h]

theorem get?_insert (m : Metadata) (key value other : String) :
    (m.insert key value).get? other = if other = key then some value else m.get? other :=
  lookup_insertEntry key value other m.entries

end StructuralDiff.Metadata
