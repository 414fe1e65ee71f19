import StructuralDiff.Patch
import StructuralDiff.Proofs.Text.Line
import StructuralDiff.Proofs.Text.Number

/-!
# Headers of patches

A file header has two paths and a hunk header two ranges. They are written in the form that `git` gives them, and read
again; what does not begin as a header does is none.

* `FilePatch.fileHeader?_fileHeader`: the path is found after the last ` b/`.
* `FilePatch.hunkHeader?_header`: the ranges are read whether or not a count of one is written, and whatever stands
  after them.
* `FilePatch.fileHeader?_eq_none`, `FilePatch.hunkHeader?_eq_none`: other lines.
-/

namespace StructuralDiff

/-- A text that fits on one line. -/
abbrev LineText := { text : String // '\n' ∉ text.toList }

/-- How the header of a hunk is written. -/
structure HunkStyle where
  /-- A count of one old line is left out. -/
  shortOld : Bool
  /-- A count of one new line is left out. -/
  shortNew : Bool
  /-- What stands after the ranges. -/
  heading : LineText

/-- A range of lines; a count of one may be left out. -/
def rangeText (start count : Nat) (short : Bool) : String :=
  Nat.repr start ++ if short && count == 1 then "" else "," ++ Nat.repr count

/-- The header of a hunk. -/
def Hunk.header (hunk : Hunk) (style : HunkStyle) : String :=
  "@@ -" ++ rangeText hunk.oldStart hunk.oldLines style.shortOld ++ " +" ++
    rangeText hunk.newStart hunk.newLines style.shortNew ++ " @@" ++ style.heading.1

/-- The header of a file with its old and its new path. -/
def fileHeader (oldPath newPath : String) : String :=
  "diff --git a/" ++ oldPath ++ " b/" ++ newPath

namespace FilePatch

/-! ### Ranges -/

/-- A number ends where the digits end. -/
theorem digits?_repr (n : Nat) {c : Char} (hc : Text.isDigit c = false) (rest : List Char) :
    digits? ((Nat.repr n).toList ++ c :: rest) = some ((Nat.repr n).toList, c :: rest) := by
  have hdigits : ∀ d ∈ (Nat.repr n).toList, Text.isDigit d = true :=
    fun d hd => Text.isDigit_of_mem_numeral hd
  have hstop : ¬Text.isDigit c = true := by rw [hc]; exact Bool.false_ne_true
  rw [digits?, List.takeWhile_append_of_pos hdigits, List.dropWhile_append_of_pos hdigits,
    List.takeWhile_cons_of_neg hstop, List.dropWhile_cons_of_neg hstop, List.append_nil]
  rw [Text.isEmpty_repr, if_neg Bool.false_ne_true]

theorem number_repr (fallback : Nat) {n : Nat} (hn : n < Bound.nat32) :
    number fallback (Nat.repr n).toList = n := by
  rw [number, Text.decimal?_repr]
  exact if_pos hn

/-- **A range that was written is read again**, up to the next blank. -/
theorem range?_rangeText {start count : Nat} (hstart : start < Bound.nat32) (hcount : count < Bound.nat32)
    (short : Bool) (rest : List Char) (hrest : rest.head? = some ' ') :
    range? ((rangeText start count short).toList ++ rest) = some ((start, count), rest) := by
  obtain ⟨tail, rfl⟩ := List.head?_eq_some_iff.1 hrest
  have hblank : Text.isDigit ' ' = false := by decide
  have hcomma : Text.isDigit ',' = false := by decide
  rw [rangeText, String.toList_append, List.append_assoc]
  split
  · next hshort =>
    obtain rfl : count = 1 := beq_iff_eq.1 (Bool.and_eq_true_iff.1 hshort).2
    rw [String.toList_empty, List.nil_append, range?, digits?_repr start hblank]
    simp only [Option.bind_eq_bind, Option.bind_some, number_repr 0 hstart]
    rfl
  · rw [String.toList_append]
    show range? ((Nat.repr start).toList ++ ',' :: ((Nat.repr count).toList ++ ' ' :: tail)) = _
    rw [range?, digits?_repr start hcomma]
    simp only [Option.bind_eq_bind, Option.bind_some, digits?_repr count hblank, number_repr 0 hstart,
      number_repr 1 hcount]
    rfl

/-! ### Headers of hunks -/

/-- **The header of a hunk is read**, whatever stands at its end. -/
theorem hunkHeader?_header {hunk : Hunk} (hold : hunk.oldStart < Bound.nat32 ∧ hunk.oldLines < Bound.nat32)
    (hnew : hunk.newStart < Bound.nat32 ∧ hunk.newLines < Bound.nat32) (style : HunkStyle) :
    hunkHeader? (Text.chop (hunk.header style)) = some { hunk with lines := [] } := by
  have hlast : ("@@ -" ++ rangeText hunk.oldStart hunk.oldLines style.shortOld ++ " +" ++
      rangeText hunk.newStart hunk.newLines style.shortNew ++ " @@").toList.getLast? ≠ some '\r' := by
    rw [String.toList_append, List.getLast?_append]
    exact nofun
  have hchars : (Text.chop (hunk.header style)).toList = "@@ -".toList ++
      ((rangeText hunk.oldStart hunk.oldLines style.shortOld).toList ++ (" +".toList ++
        ((rangeText hunk.newStart hunk.newLines style.shortNew).toList ++ (" @@".toList ++
          (Text.chop style.heading.1).toList)))) := by
    rw [Hunk.header, Text.chop_append hlast]
    simp only [String.toList_append, List.append_assoc]
  have hafter (start rest : List Char) : start.isPrefixOf? (start ++ rest) = some rest :=
    List.isPrefixOf?_eq_some_iff_append_eq.2 rfl
  rw [hunkHeader?, hchars, hafter]
  simp only [Option.bind_eq_bind, Option.bind_some]
  rw [range?_rangeText hold.1 hold.2 style.shortOld (" +".toList ++ _) rfl, Option.bind_some, hafter,
    Option.bind_some, range?_rangeText hnew.1 hnew.2 style.shortNew (" @@".toList ++ _) rfl, Option.bind_some,
    hafter]
  rfl

/-- Other lines do not begin with an `@`. -/
theorem hunkHeader?_eq_none {line : String} (h : line.toList.head? ≠ some '@') : hunkHeader? line = none := by
  have hprefix : "@@ -".toList.isPrefixOf? line.toList = none := by
    refine Option.eq_none_iff_forall_ne_some.2 fun rest hrest => ?_
    rw [List.isPrefixOf?_eq_some_iff_append_eq] at hrest
    rw [← hrest] at h
    exact h rfl
  rw [hunkHeader?, hprefix]
  rfl

/-! ### Headers of files -/

/-- A text without ` b/` has no path after one. -/
theorem newPath?_eq_none {text : List Char} (h : ¬[' ', 'b', '/'] <:+: text) (inside : Bool) :
    newPath? inside text = none := by
  induction text generalizing inside with
  | nil => rfl
  | cons c rest ih =>
    have hrest : ¬[' ', 'b', '/'] <:+: rest := fun hinfix => h (List.infix_cons hinfix)
    have hprefix : [' ', 'b', '/'].isPrefixOf (c :: rest) = false := by
      rw [Bool.eq_false_iff, ne_eq, List.isPrefixOf_iff_prefix]
      exact fun hprefix => h hprefix.isInfix
    rw [newPath?, ih hrest, hprefix, Bool.and_false, Bool.false_and]
    rfl

/-- **The path after the last ` b/` is the new one.** -/
theorem newPath?_append {path : List Char} (hne : path ≠ []) (hfree : ¬[' ', 'b', '/'] <:+: path)
    (before : List Char) : newPath? true (before ++ [' ', 'b', '/'] ++ path) = some path := by
  induction before with
  | nil =>
    -- The last two characters of the separator begin no other one.
    have hlater : newPath? true ('b' :: '/' :: path) = none := by
      refine newPath?_eq_none (fun hinfix => hfree ?_) true
      rw [List.infix_cons_iff, List.infix_cons_iff] at hinfix
      rcases hinfix with hprefix | hprefix | hinfix
      · cases (List.cons_prefix_cons.1 hprefix).1
      · cases (List.cons_prefix_cons.1 hprefix).1
      · exact hinfix
    show newPath? true (' ' :: 'b' :: '/' :: path) = some path
    rw [newPath?, hlater]
    simp [List.isPrefixOf, hne]
  | cons c before ih =>
    rw [List.cons_append, List.cons_append, newPath?, ih]

/-- **The header of a file is read.** -/
theorem fileHeader?_fileHeader {oldPath newPath : String} (hold : oldPath ≠ "") (hnew : newPath ≠ "")
    (hfree : ¬" b/".toList <:+: newPath.toList) : fileHeader? (fileHeader oldPath newPath) = some newPath := by
  have hchars : (fileHeader oldPath newPath).toList = "diff --git a/".toList ++
      (oldPath.toList ++ [' ', 'b', '/'] ++ newPath.toList) := by
    simp only [fileHeader, String.toList_append, List.append_assoc]
    rfl
  have hpath : newPath? false (oldPath.toList ++ [' ', 'b', '/'] ++ newPath.toList) = some newPath.toList := by
    cases hchars : oldPath.toList with
    | nil => exact absurd (String.toList_eq_nil_iff.1 hchars) hold
    | cons c before =>
      rw [List.cons_append, List.cons_append, newPath?,
        newPath?_append (mt String.toList_eq_nil_iff.1 hnew) hfree before]
  rw [fileHeader?, Text.afterStart?, hchars, List.isPrefixOf?_eq_some_iff_append_eq.2 rfl, Option.map_some]
  show (newPath? false (String.ofList _).toList).map String.ofList = _
  rw [String.toList_ofList, hpath, Option.map_some, String.ofList_toList]

/-- Other lines do not begin with `di`. -/
theorem fileHeader?_eq_none {line : String} (h : line.toList.take 2 ≠ ['d', 'i']) : fileHeader? line = none := by
  have hprefix : "diff --git a/".toList.isPrefixOf? line.toList = none := by
    refine Option.eq_none_iff_forall_ne_some.2 fun rest hrest => ?_
    rw [List.isPrefixOf?_eq_some_iff_append_eq] at hrest
    rw [← hrest] at h
    exact h rfl
  rw [fileHeader?, Text.afterStart?, hprefix]
  rfl

end FilePatch

end StructuralDiff
