import Mathlib.Data.List.Basic
import StructuralDiff.Text.Line

/-!
# Reading the lines that were written

* `Text.lines_unlines`: the lines of a text are those that it was put together from, except for a carriage return at
  the end of a line.
* `Text.chop_append`: such a carriage return is looked for in the last part of a line.
-/

namespace StructuralDiff.Text

/-- The text of some lines, each with a line feed after it. -/
def unlines (lines : List String) : String :=
  String.join (lines.map (· ++ "\n"))

/-- A line without a carriage return at its end. -/
def chop (line : String) : String :=
  String.ofList (dropReturn line.toList)

theorem linesFrom_append {line : List Char} (h : '\n' ∉ line) (begun rest : List Char) :
    linesFrom begun (line ++ '\n' :: rest) = dropReturn (begun.reverse ++ line) :: linesFrom [] rest := by
  induction line generalizing begun with
  | nil => rw [List.nil_append, linesFrom, beq_self_eq_true, if_pos rfl, List.append_nil]
  | cons c line ih =>
    have hc : (c == '\n') = false := beq_false_of_ne fun heq => h (heq ▸ List.mem_cons_self)
    rw [List.cons_append, linesFrom, hc, if_neg Bool.false_ne_true,
      ih (fun hmem => h (List.mem_cons_of_mem c hmem)), List.reverse_cons, List.append_assoc,
      List.singleton_append]

/-- **The lines that a text was put together from are read.** -/
theorem lines_unlines {written : List String} (h : ∀ line ∈ written, '\n' ∉ line.toList) :
    lines (unlines written) = written.map chop := by
  induction written with
  | nil => rfl
  | cons line rest ih =>
    have hline : '\n' ∉ line.toList := h line List.mem_cons_self
    have hchars : (unlines (line :: rest)).toList = line.toList ++ '\n' :: (unlines rest).toList := by
      simp [unlines]
    rw [lines, hchars, linesFrom_append hline, List.reverse_nil, List.nil_append, List.map_cons]
    exact congrArg (chop line :: ·) (ih fun other hother => h other (List.mem_cons_of_mem _ hother))

theorem dropReturn_of_getLast?_ne {line : List Char} (h : line.getLast? ≠ some '\r') : dropReturn line = line := by
  rw [dropReturn, beq_eq_false_iff_ne.2 h, if_neg Bool.false_ne_true]

theorem dropReturn_append {start : List Char} (h : start.getLast? ≠ some '\r') (rest : List Char) :
    dropReturn (start ++ rest) = start ++ dropReturn rest := by
  rcases List.eq_nil_or_concat rest with rfl | ⟨front, last, rfl⟩
  · rw [List.append_nil, dropReturn_of_getLast?_ne h]
    exact (List.append_nil _).symm
  · rw [List.concat_eq_append, ← List.append_assoc, dropReturn, dropReturn, List.getLast?_concat, List.getLast?_concat]
    split
    · rw [List.dropLast_concat, List.dropLast_concat]
    · rw [List.append_assoc]

theorem chop_of_getLast?_ne {line : String} (h : line.toList.getLast? ≠ some '\r') : chop line = line := by
  rw [chop, dropReturn_of_getLast?_ne h, String.ofList_toList]

/-- **What a line ends with is at the end of its last part.** -/
theorem chop_append {start : String} (h : start.toList.getLast? ≠ some '\r') (rest : String) :
    chop (start ++ rest) = start ++ chop rest := by
  rw [chop, String.toList_append, dropReturn_append h, String.ofList_append, String.ofList_toList]
  rfl

end StructuralDiff.Text
