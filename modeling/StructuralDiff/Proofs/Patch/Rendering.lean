import StructuralDiff.Proofs.Patch.Header

/-!
# Patches that are written and read again

A list of patches is written as a unified diff: for each file its header, remarks that say what happened to it, and its
hunks, each with a header of its own. Reading is the inverse, although a line of a hunk may look like a header or a
remark, and although much of what is written is a matter of style.

* `FilePatch.render`: the diff, in a style that may be another one for each file and each hunk.
* `FilePatch.ofSection_body`: the patch of a file is read from the lines after its header.
* `FilePatch.parseAll_render`: reading undoes writing, and the changed lines are those of the hunks.
-/

namespace StructuralDiff

/-! ### Remarks -/

/-- What may stand between the header of a file and its first hunk. -/
inductive Remark where
  | newFile
  | deletedFile
  | renameFrom
  | renameTo
  | oldMode
  | newMode
  | similarity
  | index
  | oldName
  | newName
  deriving DecidableEq, Repr

namespace Remark

/-- How the line of a remark begins. -/
def start : Remark → String
  | .newFile => "new file mode "
  | .deletedFile => "deleted file mode "
  | .renameFrom => "rename from "
  | .renameTo => "rename to "
  | .oldMode => "old mode "
  | .newMode => "new mode "
  | .similarity => "similarity index "
  | .index => "index "
  | .oldName => "--- "
  | .newName => "+++ "

/-- What a remark says about its file. -/
def status? : Remark → Option FileStatus
  | .newFile => some .added
  | .deletedFile => some .deleted
  | .renameFrom | .renameTo => some .renamed
  | .oldMode | .newMode => some .typeChanged
  | .similarity | .index | .oldName | .newName => none

end Remark

/-- How the patch of a file is written. -/
structure PatchStyle where
  /-- The old path in the header, if it is not the path of the file. -/
  oldPath : Option { path : LineText // path.1 ≠ "" }
  /-- The remarks that are made, among those that need not be. -/
  makes : Remark → Bool
  /-- The text of a remark. -/
  text : Remark → LineText
  /-- How the hunks are written, by their positions. -/
  hunk : Nat → HunkStyle

namespace PatchStyle

/-- The remarks that say the status of a file. -/
def statusRemarks (style : PatchStyle) : FileStatus → List Remark
  | .added => [.newFile]
  | .deleted => [.deletedFile]
  | .renamed => [Remark.similarity].filter style.makes ++ [.renameFrom, .renameTo]
  | .typeChanged => [.oldMode, .newMode]
  | .modified | .unchanged => []

/-- All remarks about a file with a status. -/
def remarks (style : PatchStyle) (status : FileStatus) : List Remark :=
  style.statusRemarks status ++ [Remark.index, .oldName, .newName].filter style.makes

/-- The line of a remark. -/
def line (style : PatchStyle) (remark : Remark) : String :=
  remark.start ++ (style.text remark).1

end PatchStyle

/-! ### What is written -/

/-- The lines of a hunk with its header. -/
def Hunk.written (hunk : Hunk) (style : HunkStyle) : List String :=
  hunk.header style :: hunk.lines

namespace FilePatch

/-- The header of a patch. -/
def header (style : PatchStyle) (patch : FilePatch) : String :=
  fileHeader (style.oldPath.elim patch.path (·.1.1)) patch.path

/-- The lines after the header of a patch. -/
def body (style : PatchStyle) (patch : FilePatch) : List String :=
  (style.remarks patch.status).map style.line ++
    patch.hunks.zipIdx.flatMap fun (hunk, i) => hunk.written (style.hunk i)

/-- **The unified diff of a list of patches**, in styles that depend on their positions. -/
def render (style : Nat → PatchStyle) (patches : List FilePatch) : String :=
  Text.unlines (patches.zipIdx.flatMap fun (patch, i) => patch.header (style i) :: patch.body (style i))

end FilePatch

/-- The line can stand in a hunk: it is empty or marked, and nothing in it breaks the line. -/
def IsPlainLine (line : String) : Prop :=
  (line = "" ∨ line.toList.head? ∈ [some '+', some '-', some ' ']) ∧
    '\n' ∉ line.toList ∧ line.toList.getLast? ≠ some '\r'

instance (line : String) : Decidable (IsPlainLine line) :=
  inferInstanceAs (Decidable (_ ∧ _))

/-- The hunk can be written: its numbers have 32 bits, and its lines can stand in it. -/
structure Hunk.Plain (hunk : Hunk) : Prop where
  old_lt : hunk.oldStart < Bound.nat32 ∧ hunk.oldLines < Bound.nat32
  new_lt : hunk.newStart < Bound.nat32 ∧ hunk.newLines < Bound.nat32
  lines : ∀ line ∈ hunk.lines, IsPlainLine line

/-- The patch can be written: something has happened to its file, and its path fits into a header. -/
structure FilePatch.Plain (patch : FilePatch) : Prop where
  status_ne : patch.status ≠ .unchanged
  path_ne : patch.path ≠ ""
  oneLine : '\n' ∉ patch.path.toList
  returnFree : '\r' ∉ patch.path.toList
  path_free : ¬" b/".toList <:+: patch.path.toList
  hunks : ∀ hunk ∈ patch.hunks, hunk.Plain

/-! ### Lines that look like others -/

namespace FilePatch

/-- A modified file in full, and a renamed one without details; every other hunk has a short header. -/
def sampleStyle (i : Nat) : PatchStyle where
  oldPath := if i == 0 then none else some ⟨⟨"old.py", by decide⟩, by decide⟩
  makes remark := remark == .similarity || i == 0
  text
    | .renameFrom => ⟨"old.py", by decide⟩
    | .renameTo => ⟨"n.py", by decide⟩
    | .similarity => ⟨"100%", by decide⟩
    | .index => ⟨"83db48f..bf269f4 100644", by decide⟩
    | .oldName => ⟨"a/m.py", by decide⟩
    | .newName => ⟨"b/m.py", by decide⟩
    | _ => ⟨"100644", by decide⟩
  hunk j := { shortOld := j % 2 == 1, shortNew := j % 2 == 1, heading := ⟨" def f():", by decide⟩ }

/-- A file with lines like headers and remarks, and one that was renamed. -/
def samplePatches : List FilePatch :=
  [{ path := "m.py", status := .modified,
     hunks := [
      { oldStart := 1, oldLines := 5, newStart := 1, newLines := 3,
        lines := ["--- x", "+++ x", " @@ -1 +1 @@", "-diff --git a/x b/x", "-new file mode", ""] },
      { oldStart := 9, oldLines := 1, newStart := 8, newLines := 1, lines := ["-y", "+z"] }] },
   { path := "n.py", status := .renamed, hunks := [] }]

theorem plain_samplePatches : ∀ patch ∈ samplePatches, patch.Plain := by
  simp only [samplePatches, List.forall_mem_cons, List.not_mem_nil, false_imp_iff, implies_true, and_true]
  constructor
  · refine ⟨nofun, by decide, by decide, by decide, by decide, ?_⟩
    simp only [List.forall_mem_cons, List.not_mem_nil, false_imp_iff, implies_true, and_true]
    constructor
    · exact ⟨by decide, by decide, by decide⟩
    · exact ⟨by decide, by decide, by decide⟩
  · exact ⟨nofun, by decide, by decide, by decide, by decide, nofun⟩

example : render sampleStyle samplePatches =
    "diff --git a/m.py b/m.py\nindex 83db48f..bf269f4 100644\n--- a/m.py\n+++ b/m.py\n" ++
    "@@ -1,5 +1,3 @@ def f():\n--- x\n+++ x\n @@ -1 +1 @@\n-diff --git a/x b/x\n-new file mode\n\n" ++
    "@@ -9 +8 @@ def f():\n-y\n+z\n" ++
    "diff --git a/old.py b/n.py\nsimilarity index 100%\nrename from old.py\nrename to n.py\n" := by
  decide +kernel

end FilePatch

/-! ### Changed lines -/

/-- The line is marked as added or removed. -/
def IsChange (line : String) : Prop :=
  line.toList.head? = some '+' ∨ line.toList.head? = some '-'

instance (line : String) : Decidable (IsChange line) :=
  inferInstanceAs (Decidable (_ ∨ _))

theorem beginsWith_mark {mark : Char} {pattern : String} (hpattern : pattern.toList = [mark]) (line : String) :
    Text.beginsWith pattern line = true ↔ line.toList.head? = some mark := by
  rw [Text.beginsWith, hpattern, List.isPrefixOf_iff_prefix]
  cases line.toList with
  | nil => simp
  | cons c rest => simp [List.cons_prefix_cons, eq_comm]

theorem Hunk.churn_eq (hunk : Hunk) : hunk.churn = hunk.lines.countP (IsChange ·) := by
  refine List.countP_congr fun line _ => ?_
  rw [Bool.or_eq_true, decide_eq_true_eq]
  exact or_congr (beginsWith_mark rfl line) (beginsWith_mark rfl line)

/-- **The lines that count as changed** are those of the hunks that are marked so. -/
theorem FilePatch.churn_eq (patch : FilePatch) :
    patch.churn = (patch.hunks.flatMap (·.lines)).countP (IsChange ·) := by
  rw [churn]
  induction patch.hunks with
  | nil => rfl
  | cons hunk rest ih =>
    rw [List.map_cons, List.foldr_cons, ih, hunk.churn_eq, List.flatMap_cons, List.countP_append]

/-! ### Lines that are no headers -/

theorem not_mem_rangeText (start count : Nat) (short : Bool) : '\n' ∉ (rangeText start count short).toList := by
  rw [rangeText, String.toList_append, List.mem_append, not_or]
  refine ⟨Text.not_mem_repr (by decide) start, ?_⟩
  split
  · exact List.not_mem_nil
  · rw [String.toList_append, List.mem_append, not_or]
    exact ⟨by decide, Text.not_mem_repr (by decide) count⟩

theorem Hunk.not_mem_header (hunk : Hunk) (style : HunkStyle) : '\n' ∉ (hunk.header style).toList := by
  simp only [header, String.toList_append, List.mem_append, not_or]
  exact ⟨⟨⟨⟨⟨by decide, not_mem_rangeText _ _ _⟩, by decide⟩, not_mem_rangeText _ _ _⟩, by decide⟩, style.heading.2⟩

namespace FilePatch

section

variable {style : PatchStyle}

theorem toList_chop_line (remark : Remark) : (Text.chop (style.line remark)).toList =
    remark.start.toList ++ (Text.chop (style.text remark).1).toList := by
  have hlast : remark.start.toList.getLast? ≠ some '\r' := by cases remark <;> decide
  rw [PatchStyle.line, Text.chop_append hlast, String.toList_append]

/-- A remark is neither header. -/
theorem header?_line (remark : Remark) : fileHeader? (Text.chop (style.line remark)) = none ∧
    hunkHeader? (Text.chop (style.line remark)) = none := by
  constructor
  · refine fileHeader?_eq_none ?_
    rw [toList_chop_line]
    cases remark <;> exact nofun
  · refine hunkHeader?_eq_none ?_
    rw [toList_chop_line]
    cases remark <;> exact nofun

/-- A remark says what it is made for. -/
theorem statusLine_line (status : FileStatus) (remark : Remark) :
    statusLine status (Text.chop (style.line remark)) = remark.status?.getD status := by
  simp only [statusLine, Text.beginsWith, toList_chop_line]
  cases remark <;> rfl

theorem foldl_silent {remarks : List Remark} (h : ∀ remark ∈ remarks, remark.status? = none)
    (status : FileStatus) :
    remarks.foldl (fun status remark => remark.status?.getD status) status = status := by
  induction remarks with
  | nil => rfl
  | cons remark rest ih =>
    rw [List.foldl_cons, h remark List.mem_cons_self, Option.getD_none]
    exact ih fun other hother => h other (List.mem_cons_of_mem _ hother)

/-- **The remarks about a file say its status.** -/
theorem foldl_remarks {status : FileStatus} (h : status ≠ .unchanged) :
    (style.remarks status).foldl (fun status remark => remark.status?.getD status) .modified = status := by
  have hdetails : ∀ remark ∈ [Remark.index, .oldName, .newName].filter style.makes, remark.status? = none := by
    intro remark hremark
    have hmem := List.mem_of_mem_filter hremark
    simp only [List.mem_cons, List.not_mem_nil, or_false] at hmem
    rcases hmem with rfl | rfl | rfl <;> rfl
  have hsimilarity : ∀ remark ∈ [Remark.similarity].filter style.makes, remark.status? = none := by
    intro remark hremark
    rw [List.mem_singleton.1 (List.mem_of_mem_filter hremark)]
    rfl
  -- What follows the remarks about the status leaves it as it is.
  rw [PatchStyle.remarks, List.foldl_append, foldl_silent hdetails]
  cases status with
  | renamed =>
    rw [PatchStyle.statusRemarks, List.foldl_append, foldl_silent hsimilarity]
    rfl
  | unchanged => exact absurd rfl h
  | _ => rfl

end

/-- A line of a hunk is neither header, and is kept as it is. -/
theorem header?_of_mem_lines {hunk : Hunk} (h : hunk.Plain) {line : String} (hline : line ∈ hunk.lines) :
    fileHeader? line = none ∧ hunkHeader? line = none ∧ isHunkLine line = true := by
  rcases (h.lines line hline).1 with rfl | hmark
  · exact ⟨fileHeader?_eq_none nofun, hunkHeader?_eq_none nofun, rfl⟩
  · simp only [List.mem_cons, List.not_mem_nil, or_false] at hmark
    cases hchars : line.toList with
    | nil => simp [hchars] at hmark
    | cons mark rest =>
      have hmark : mark = '+' ∨ mark = '-' ∨ mark = ' ' := by simpa [hchars] using hmark
      refine ⟨fileHeader?_eq_none ?_, hunkHeader?_eq_none ?_, ?_⟩
      · rw [hchars]
        rcases hmark with rfl | rfl | rfl <;> exact nofun
      · rw [hchars]
        rcases hmark with rfl | rfl | rfl <;> exact nofun
      · simp only [isHunkLine, Text.beginsWith, hchars]
        rcases hmark with rfl | rfl | rfl <;> simp

/-! ### Cutting at headers -/

section

variable {α β : Type} {header? : α → Option β}

/-- What is no header stays before the first one. -/
theorem cutAt_append {lead : List α} (h : ∀ a ∈ lead, header? a = none) (rest : List α) :
    cutAt header? (lead ++ rest) = (lead ++ (cutAt header? rest).1, (cutAt header? rest).2) := by
  induction lead with
  | nil => rfl
  | cons a lead ih =>
    rw [List.cons_append, cutAt, ih fun b hb => h b (List.mem_cons_of_mem _ hb)]
    dsimp only
    rw [h a List.mem_cons_self]
    rfl

/-- **Sections are found again** when each begins with a header and goes on without one. -/
theorem cutAt_flatMap {σ : Type} {sections : List σ} {head : σ → α} {body : σ → List α} (value : σ → β)
    (hhead : ∀ s ∈ sections, header? (head s) = some (value s))
    (hbody : ∀ s ∈ sections, ∀ a ∈ body s, header? a = none) :
    cutAt header? (sections.flatMap fun s => head s :: body s) =
      ([], sections.map fun s => (value s, body s)) := by
  induction sections with
  | nil => rfl
  | cons s rest ih =>
    -- The later sections are cut already, with nothing before them that the body of this one could run into.
    rw [List.forall_mem_cons] at hhead hbody
    rw [List.flatMap_cons, List.cons_append, cutAt, cutAt_append hbody.1, ih hhead.2 hbody.2]
    dsimp only
    rw [hhead.1, List.append_nil]
    rfl

end

/-! ### Reading -/

/-- The lines of a hunk that are read. -/
theorem map_chop_lines {hunk : Hunk} (h : hunk.Plain) : hunk.lines.map Text.chop = hunk.lines :=
  (List.map_congr_left fun line hline => Text.chop_of_getLast?_ne (h.lines line hline).2.2).trans
    (List.map_id _)

/-- **The hunks of a file are found again.** -/
theorem cutAt_hunks {hunks : List Hunk} (h : ∀ hunk ∈ hunks, hunk.Plain) (style : Nat → HunkStyle) :
    cutAt hunkHeader? ((hunks.zipIdx.flatMap fun (hunk, i) => hunk.written (style i)).map Text.chop) =
      ([], hunks.map fun hunk => ({ hunk with lines := [] }, hunk.lines)) := by
  have hplain : ∀ entry ∈ hunks.zipIdx, entry.1.Plain := fun entry hentry =>
    h entry.1 (List.fst_mem_of_mem_zipIdx hentry)
  rw [List.map_flatMap]
  have hlines : hunks.zipIdx.flatMap (fun entry => (entry.1.written (style entry.2)).map Text.chop) =
      hunks.zipIdx.flatMap fun entry => Text.chop (entry.1.header (style entry.2)) :: entry.1.lines :=
    List.flatMap_congr fun entry hentry => by
      rw [Hunk.written, List.map_cons, map_chop_lines (hplain entry hentry)]
  refine (congrArg _ hlines).trans ?_
  rw [cutAt_flatMap (fun entry => { entry.1 with lines := [] })
    (fun entry hentry => hunkHeader?_header (hplain entry hentry).old_lt (hplain entry hentry).new_lt _)
    fun entry hentry line hline => (header?_of_mem_lines (hplain entry hentry) hline).2.1]
  conv_rhs => rw [← List.zipIdx_map_fst 0 hunks, List.map_map]
  rfl

/-- **The patch of a file is read** from the lines after its header. -/
theorem ofSection_body {patch : FilePatch} (h : patch.Plain) (style : PatchStyle) :
    ofSection patch.path ((patch.body style).map Text.chop) = patch := by
  have hremarks : ∀ line ∈ ((style.remarks patch.status).map style.line).map Text.chop,
      hunkHeader? line = none := by
    simp only [List.forall_mem_map]
    exact fun remark _ => (header?_line remark).2
  have hstatus : (((style.remarks patch.status).map style.line).map Text.chop).foldl statusLine .modified =
      patch.status := by
    rw [List.foldl_map, List.foldl_map]
    simp only [statusLine_line]
    exact foldl_remarks h.status_ne
  have hhunks : patch.hunks.map (fun hunk => { hunk with lines := hunk.lines.filter isHunkLine }) =
      patch.hunks := by
    refine (List.map_congr_left fun hunk hhunk => ?_).trans (List.map_id _)
    have hkept : hunk.lines.filter isHunkLine = hunk.lines :=
      List.filter_eq_self.2 fun line hline => (header?_of_mem_lines (h.hunks hunk hhunk) hline).2.2
    rw [hkept]
    rfl
  -- Only the remarks stand before the first hunk, so no line of a hunk is taken for one.
  rw [ofSection, body, List.map_append, cutAt_append hremarks, cutAt_hunks h.hunks]
  dsimp only
  rw [List.append_nil, hstatus, List.map_map]
  exact congrArg (fun hunks => { patch with hunks }) hhunks

/-- The header of a patch is read. -/
theorem fileHeader?_header {patch : FilePatch} (h : patch.Plain) (style : PatchStyle) :
    fileHeader? (Text.chop (patch.header style)) = some patch.path := by
  have hold : style.oldPath.elim patch.path (·.1.1) ≠ "" := by
    cases style.oldPath with
    | none => exact h.path_ne
    | some path => exact path.2
  have hlast : (patch.header style).toList.getLast? ≠ some '\r' := by
    intro hreturn
    rw [header, fileHeader, String.toList_append, List.getLast?_append_of_ne_nil _
      (mt String.toList_eq_nil_iff.1 h.path_ne)] at hreturn
    exact h.returnFree (List.mem_of_getLast? hreturn)
  rw [Text.chop_of_getLast?_ne hlast]
  exact fileHeader?_fileHeader hold h.path_ne h.path_free

/-- A line after the header of a file is a remark, the header of a hunk or one of its lines. -/
theorem mem_body {patch : FilePatch} {style : PatchStyle} {line : String} (h : line ∈ patch.body style) :
    (∃ remark, line = style.line remark) ∨
      ∃ hunk ∈ patch.hunks, (∃ style, line = hunk.header style) ∨ line ∈ hunk.lines := by
  rw [body, List.mem_append, List.mem_map, List.mem_flatMap] at h
  rcases h with ⟨remark, -, rfl⟩ | ⟨⟨hunk, i⟩, hentry, hline⟩
  · exact .inl ⟨remark, rfl⟩
  · refine .inr ⟨hunk, List.fst_mem_of_mem_zipIdx hentry, ?_⟩
    exact (List.mem_cons.1 hline).imp (fun heq => ⟨style.hunk i, heq⟩) id

/-- No line after the header of a file begins the patch of another one. -/
theorem fileHeader?_of_mem_body {patch : FilePatch} (h : patch.Plain) {style : PatchStyle} {line : String}
    (hline : line ∈ patch.body style) : fileHeader? (Text.chop line) = none := by
  rcases mem_body hline with ⟨remark, rfl⟩ | ⟨hunk, hhunk, ⟨style, rfl⟩ | hmem⟩
  · exact (header?_line remark).1
  · -- the line is read as the header of a hunk
    have hat : (Text.chop (hunk.header style)).toList.head? = some '@' := by
      refine of_not_not fun hother => ?_
      have hread := hunkHeader?_header (h.hunks hunk hhunk).old_lt (h.hunks hunk hhunk).new_lt style
      rw [hunkHeader?_eq_none hother] at hread
      cases hread
    obtain ⟨rest, hchars⟩ := List.head?_eq_some_iff.1 hat
    refine fileHeader?_eq_none ?_
    rw [hchars]
    exact nofun
  · rw [Text.chop_of_getLast?_ne ((h.hunks hunk hhunk).lines line hmem).2.2]
    exact (header?_of_mem_lines (h.hunks hunk hhunk) hmem).1

/-- What is written of a patch stays on its lines. -/
theorem not_mem_of_mem_written {patch : FilePatch} (h : patch.Plain) {style : PatchStyle} {line : String}
    (hline : line ∈ patch.header style :: patch.body style) : '\n' ∉ line.toList := by
  rcases List.mem_cons.1 hline with rfl | hline
  · have hold : '\n' ∉ (style.oldPath.elim patch.path (·.1.1)).toList := by
      cases style.oldPath with
      | none => exact h.oneLine
      | some path => exact path.1.2
    simp only [header, fileHeader, String.toList_append, List.mem_append, not_or]
    exact ⟨⟨⟨by decide, hold⟩, by decide⟩, h.oneLine⟩
  · rcases mem_body hline with ⟨remark, rfl⟩ | ⟨hunk, hhunk, ⟨style, rfl⟩ | hmem⟩
    · have hstart : '\n' ∉ remark.start.toList := by cases remark <;> decide
      rw [PatchStyle.line, String.toList_append, List.mem_append]
      exact not_or.2 ⟨hstart, (style.text remark).2⟩
    · exact hunk.not_mem_header style
    · exact ((h.hunks hunk hhunk).lines line hmem).2.1

/-- **Reading undoes writing**, in whatever style, and no line counts as changed but the marked lines of the hunks. -/
theorem parseAll_render (style : Nat → PatchStyle) {patches : List FilePatch}
    (h : ∀ patch ∈ patches, patch.Plain) :
    parseAll (render style patches) = patches ∧
      (parseAll (render style patches)).map churn =
        patches.map fun patch => (patch.hunks.flatMap (·.lines)).countP (IsChange ·) := by
  have hplain : ∀ entry ∈ patches.zipIdx, entry.1.Plain := fun entry hentry =>
    h entry.1 (List.fst_mem_of_mem_zipIdx hentry)
  have hlines : Text.lines (render style patches) = patches.zipIdx.flatMap fun entry =>
      Text.chop (entry.1.header (style entry.2)) :: (entry.1.body (style entry.2)).map Text.chop := by
    rw [render, Text.lines_unlines, List.map_flatMap]
    · rfl
    · intro line hline
      obtain ⟨entry, hentry, hmem⟩ := List.mem_flatMap.1 hline
      exact not_mem_of_mem_written (hplain entry hentry) hmem
  -- The positions have only chosen the styles, and are forgotten.
  have hread : parseAll (render style patches) = patches := by
    rw [parseAll, hlines, cutAt_flatMap (fun entry => entry.1.path)
      (fun entry hentry => fileHeader?_header (hplain entry hentry) _)
      fun entry hentry line hline => by
        obtain ⟨written, hwritten, rfl⟩ := List.mem_map.1 hline
        exact fileHeader?_of_mem_body (hplain entry hentry) hwritten]
    rw [List.map_map]
    refine (List.map_congr_left fun entry hentry => ?_).trans (List.zipIdx_map_fst 0 patches)
    exact ofSection_body (hplain entry hentry) (style entry.2)
  refine ⟨hread, ?_⟩
  rw [hread]
  exact List.map_congr_left fun patch _ => patch.churn_eq

theorem parseAll_render_samplePatches :
    parseAll (render sampleStyle samplePatches) = samplePatches ∧
      (parseAll (render sampleStyle samplePatches)).map churn =
        samplePatches.map fun patch => (patch.hunks.flatMap (·.lines)).countP (IsChange ·) :=
  parseAll_render sampleStyle plain_samplePatches

end FilePatch

end StructuralDiff
