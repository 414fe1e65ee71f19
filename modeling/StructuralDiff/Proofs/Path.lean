import Mathlib.Data.List.Basic
import StructuralDiff.Disk

/-!
# Components of paths

* `components_slash`: a slash stands between the components of two paths. Everything else about components follows
  from this.
* `components_join`: what a name adds to the components of a directory.
* `components_parentPath`: the directory of a path has all its components but the last one.
-/

namespace StructuralDiff

namespace Path

/-- A text without a slash. -/
def SlashFree (text : String) : Prop :=
  '/' ∉ text.toList

instance (text : String) : Decidable (SlashFree text) :=
  inferInstanceAs (Decidable ('/' ∉ text.toList))

/-- **A slash stands between components.** -/
theorem components_slash (a b : String) : components (a ++ "/" ++ b) = components a ++ components b := by
  have hchars : (a ++ "/" ++ b).toList = a.toList ++ '/' :: b.toList := by simp
  rw [components, Text.splitAt, hchars, List.splitOn_append_cons_self, List.map_append, List.filter_append]
  rfl

theorem components_of_slashFree {name : String} (h : SlashFree name) :
    components name = [name].filter fun part => part != "" && part != "." := by
  rw [components, Text.splitAt, List.splitOn_eq_singleton h, List.map_singleton, String.ofList_toList]

theorem components_empty : components "" = [] := rfl

/-- A path keeps its components when a slash is put behind it. -/
theorem components_append_slash (a : String) : components (a ++ "/") = components a := by
  have h := components_slash a ""
  rwa [String.append_empty, components_empty, List.append_nil] at h

/-- A text that ends with a slash is one with a slash behind it. -/
theorem exists_of_finishesWith_slash {path : String} (h : Text.finishesWith "/" path = true) :
    ∃ before, path = before ++ "/" := by
  obtain ⟨before, hbefore⟩ := List.isSuffixOf_iff_suffix.1 h
  exact ⟨String.ofList before, String.toList_inj.1 (by simpa using hbefore.symm)⟩

theorem beginsWith_slash_of_slashFree {name : String} (h : SlashFree name) :
    Text.beginsWith "/" name = false := by
  unfold SlashFree at h
  rw [Bool.eq_false_iff, Text.beginsWith]
  intro hprefix
  exact h ((List.isPrefixOf_iff_prefix.1 hprefix).subset (by decide))

section Join

variable {name : String} (hname : SlashFree name)

include hname

theorem join_eq (directory : String) : join directory name =
    if directory = "" ∨ Text.finishesWith "/" directory = true then directory ++ name
    else directory ++ "/" ++ name := by
  rw [join, beginsWith_slash_of_slashFree hname]
  simp

/-- **A name adds itself to the components of a directory**, unless it stands for nothing. -/
theorem components_join (directory : String) : components (join directory name) =
    components directory ++ [name].filter fun part => part != "" && part != "." := by
  rw [← components_of_slashFree hname, join_eq hname]
  split
  · next hplain =>
    rcases hplain with rfl | hslash
    · rw [String.empty_append, components_empty, List.nil_append]
    · obtain ⟨before, rfl⟩ := exists_of_finishesWith_slash hslash
      rw [components_slash, components_append_slash]
  · exact components_slash directory name

/-- A path begins where its directory begins. -/
theorem beginsWith_join (directory : String) :
    Text.beginsWith "/" (join directory name) = Text.beginsWith "/" directory := by
  have happend (tail : List Char) (h : directory ≠ "") :
      ['/'].isPrefixOf (directory.toList ++ tail) = ['/'].isPrefixOf directory.toList := by
    cases hchars : directory.toList with
    | nil => exact absurd (String.toList_inj.1 hchars) h
    | cons c rest => rfl
  by_cases hempty : directory = ""
  · rw [join_eq hname, if_pos (.inl hempty), hempty, String.empty_append, beginsWith_slash_of_slashFree hname]
    rfl
  · rw [join_eq hname, Text.beginsWith, Text.beginsWith]
    split
    · rw [String.toList_append]
      exact happend _ hempty
    · rw [String.append_assoc, String.toList_append]
      exact happend _ hempty

/-- The characters of a path are those of its directory, those of the name, and a slash. -/
theorem mem_join {c : Char} (hc : c ≠ '/') (directory : String) :
    c ∈ (join directory name).toList ↔ c ∈ directory.toList ∨ c ∈ name.toList := by
  rw [join_eq hname]
  split <;> simp [hc]

end Join

/-! ### The directory of a path -/

/-- A piece of a split list has elements of the list, and not the separator. -/
theorem subset_of_mem_splitOn {c : Char} {text piece : List Char} (h : piece ∈ text.splitOn c) :
    piece ⊆ text ∧ c ∉ piece := by
  induction text generalizing piece with
  | nil =>
    rw [List.splitOn_nil, List.mem_singleton] at h
    rw [h]
    exact ⟨List.Subset.refl _, List.not_mem_nil⟩
  | cons d rest ih =>
    rw [List.splitOn_cons_eq_if_modifyHead] at h
    split at h
    · rcases List.mem_cons.1 h with rfl | h
      · exact ⟨List.nil_subset _, List.not_mem_nil⟩
      · exact ⟨List.subset_cons_of_subset d (ih h).1, (ih h).2⟩
    · next hne =>
      obtain ⟨first, others, hsplit⟩ := List.exists_cons_of_ne_nil (List.splitOn_ne_nil c rest)
      rw [hsplit] at h ih
      rcases List.mem_cons.1 h with rfl | h
      · obtain ⟨hsubset, hnot⟩ := ih List.mem_cons_self
        refine ⟨List.cons_subset_cons d hsubset, ?_⟩
        rw [List.mem_cons, not_or]
        exact ⟨fun heq => hne (beq_iff_eq.2 heq.symm), hnot⟩
      · have hlater := ih (List.mem_cons_of_mem _ h)
        exact ⟨List.subset_cons_of_subset d hlater.1, hlater.2⟩

/-- What a component can be. -/
structure IsComponent (name : String) : Prop where
  slashFree : SlashFree name
  ne_empty : name ≠ ""
  ne_here : name ≠ "."

theorem isComponent_of_mem {path name : String} (h : name ∈ components path) : IsComponent name := by
  obtain ⟨hmem, hkept⟩ := List.mem_filter.1 h
  obtain ⟨piece, hpiece, rfl⟩ := List.mem_map.1 hmem
  simp only [Bool.and_eq_true, bne_iff_ne] at hkept
  refine ⟨?_, hkept.1, hkept.2⟩
  rw [SlashFree, String.toList_ofList]
  exact (subset_of_mem_splitOn hpiece).2

/-- A component has characters of its path. -/
theorem toList_subset_of_mem {path name : String} (h : name ∈ components path) : name.toList ⊆ path.toList := by
  obtain ⟨piece, hpiece, rfl⟩ := List.mem_map.1 (List.mem_filter.1 h).1
  rw [String.toList_ofList]
  exact (subset_of_mem_splitOn hpiece).1

theorem components_of_isComponent {name : String} (h : IsComponent name) : components name = [name] := by
  rw [components_of_slashFree h.slashFree]
  simp [h.ne_empty, h.ne_here]

/-- Components with slashes between them are the components of a path. -/
theorem components_intercalate {names : List String} (h : ∀ name ∈ names, IsComponent name) :
    components ("/".intercalate names) = names := by
  induction names with
  | nil => rfl
  | cons name rest ih =>
    rw [List.forall_mem_cons] at h
    cases rest with
    | nil => rw [String.intercalate_singleton, components_of_isComponent h.1]
    | cons next rest =>
      rw [String.intercalate_cons_cons, components_slash, components_of_isComponent h.1, ih h.2]
      rfl

/-- Between the names there are slashes only. -/
theorem mem_of_mem_intercalate {c : Char} {names : List String} (hc : c ≠ '/')
    (h : c ∈ "/".toList.intercalate (names.map String.toList)) : ∃ name ∈ names, c ∈ name.toList := by
  induction names with
  | nil => exact absurd h List.not_mem_nil
  | cons name rest ih =>
    cases rest with
    | nil => exact ⟨name, List.mem_cons_self, by simpa using h⟩
    | cons next rest =>
      rw [List.map_cons, List.map_cons, List.intercalate_cons_cons, List.append_assoc, List.mem_append,
        List.mem_append] at h
      rcases h with h | h | h
      · exact ⟨name, List.mem_cons_self, h⟩
      · exact absurd (List.mem_singleton.1 h) hc
      · obtain ⟨found, hfound, hin⟩ := ih h
        exact ⟨found, List.mem_cons_of_mem _ hfound, hin⟩

theorem beginsWith_intercalate {names : List String} (h : ∀ name ∈ names, IsComponent name) :
    Text.beginsWith "/" ("/".intercalate names) = false := by
  cases names with
  | nil => rfl
  | cons name rest =>
    have hname := (List.forall_mem_cons.1 h).1
    have hfirst : ∃ c cs, name.toList = c :: cs := by
      refine List.exists_cons_of_ne_nil fun hnil => hname.ne_empty (String.toList_inj.1 hnil)
    obtain ⟨c, cs, hchars⟩ := hfirst
    have hslash : c ≠ '/' := by
      rintro rfl
      exact hname.slashFree (hchars ▸ List.mem_cons_self)
    have hne : ('/' == c) = false := by simpa using hslash.symm
    rw [Text.beginsWith, String.toList_intercalate]
    cases rest <;> simp [hchars, List.isPrefixOf, hne]

end Path

namespace Disk

open StructuralDiff.Path

/-- **The directory of a path has all components but the last one.** -/
theorem components_parentPath (path : String) : components (parentPath path) = (components path).dropLast := by
  have hnames : ∀ name ∈ (components path).dropLast, IsComponent name := fun name hname =>
    isComponent_of_mem (List.dropLast_subset _ hname)
  rw [parentPath]
  split
  · have h := components_slash "" ("/".intercalate (components path).dropLast)
    rwa [String.empty_append, components_intercalate hnames, components_empty, List.nil_append] at h
  · rw [String.empty_append, components_intercalate hnames]

/-- The directory of a path begins where the path begins. -/
theorem beginsWith_parentPath (path : String) :
    Text.beginsWith "/" (parentPath path) = Text.beginsWith "/" path := by
  rw [parentPath]
  split
  · next hroot =>
    rw [hroot, Text.beginsWith, String.toList_append]
    rfl
  · next hroot =>
    rw [String.empty_append, beginsWith_intercalate fun name hname =>
      isComponent_of_mem (List.dropLast_subset _ hname)]
    exact (Bool.eq_false_iff.2 hroot).symm

/-- The directory of a path has no other characters than the path. -/
theorem mem_parentPath {c : Char} {path : String} (hc : c ≠ '/') (h : c ∈ (parentPath path).toList) :
    c ∈ path.toList := by
  have hnames : c ∈ ("/".intercalate (components path).dropLast).toList := by
    rw [parentPath, String.toList_append, List.mem_append] at h
    refine h.resolve_left fun hslash => ?_
    split at hslash
    · exact hc (List.mem_singleton.1 hslash)
    · exact List.not_mem_nil hslash
  rw [String.toList_intercalate] at hnames
  obtain ⟨name, hname, hin⟩ := mem_of_mem_intercalate hc hnames
  exact toList_subset_of_mem (List.dropLast_subset _ hname) hin

end Disk

end StructuralDiff
