import Mathlib.Data.List.Basic
import Mathlib.Data.List.Induction
import Mathlib.Data.List.ReduceOption
import Mathlib.Data.List.TakeWhile
import StructuralDiff.Delta.Key
import StructuralDiff.Proofs.Text.Number

/-!
# Names and line numbers

The name of an anonymous or repeated symbol carries the line it stands on in a suffix `@L12`. Two names with
the same marks, that is, with suffixes at the same places whatever their numbers, give the same keys.

* `marks_append_position`: the number in a line suffix does not show in the marks of a name.
* `marks_suffixed`: so names with the same texts between their suffixes have the same marks.
* `dropPositions_eq`: what is left of a name without its suffixes depends on its marks only.
* `marks_ownerName`: the owner in the name of a branch has marks that depend on those of the name.
-/

namespace StructuralDiff.Name

/-! ### Marks -/

/-- What follows a line suffix at the start of a name. -/
def afterPosition? : List Char → Option (List Char)
  | '@' :: 'L' :: d :: rest => if Text.isDigit d then some (rest.dropWhile Text.isDigit) else none
  | _ => none

theorem afterPosition?_of_ne {c : Char} (h : c ≠ '@') (rest : List Char) : afterPosition? (c :: rest) = none := by
  unfold afterPosition?
  split
  · next heq => exact absurd (List.cons.inj heq).1 h
  · rfl

theorem afterPosition?_eq_none {a b : Char} (h : ¬(a = '@' ∧ b = 'L')) (rest : List Char) :
    afterPosition? (a :: b :: rest) = none := by
  unfold afterPosition?
  split
  · next heq =>
    cases heq
    exact absurd ⟨rfl, rfl⟩ h
  · rfl

theorem suffix_of_afterPosition? {cs rest : List Char} (h : afterPosition? cs = some rest) :
    rest <:+ cs ∧ rest.length < cs.length := by
  unfold afterPosition? at h
  split at h
  · next d tail =>
    split at h
    · cases h
      have hsuffix := List.dropWhile_suffix (l := tail) Text.isDigit
      refine ⟨hsuffix.trans ⟨['@', 'L', d], rfl⟩, ?_⟩
      have := hsuffix.length_le
      simp only [List.length_cons]
      omega
    · cases h
  · cases h

/-- The characters of a name with one mark for each line suffix, whatever its number. -/
def markPositions (cs : List Char) : List (Option Char) :=
  match _h : afterPosition? cs with
  | some rest => none :: markPositions rest
  | none =>
    match cs with
    | [] => []
    | c :: rest => some c :: markPositions rest
termination_by cs.length
decreasing_by
  · exact (suffix_of_afterPosition? ‹_›).2
  · simp

/-- The marks of a name. -/
def marks (name : String) : List (Option Char) :=
  markPositions name.toList

theorem markPositions_nil : markPositions [] = [] := by
  rw [markPositions]
  rfl

theorem markPositions_of_some {cs rest : List Char} (h : afterPosition? cs = some rest) :
    markPositions cs = none :: markPositions rest := by
  rw [markPositions]
  split
  · next rest' h' =>
    rw [h] at h'
    cases h'
    rfl
  · next h' =>
    rw [h] at h'
    cases h'

theorem markPositions_cons {c : Char} {cs : List Char} (h : afterPosition? (c :: cs) = none) :
    markPositions (c :: cs) = some c :: markPositions cs := by
  rw [markPositions]
  split
  · next h' =>
    rw [h] at h'
    cases h'
  · rfl

/-- **What is left of a name without its line suffixes depends on its marks only.** -/
theorem dropPositions_eq (cs : List Char) : dropPositions cs = (markPositions cs).reduceOption := by
  fun_induction dropPositions cs with
  | case1 d rest hd ih =>
    have h : afterPosition? ('@' :: 'L' :: d :: rest) = some (rest.dropWhile Text.isDigit) := by
      rw [afterPosition?, if_pos hd]
    rw [markPositions_of_some h, ih, List.reduceOption_cons_of_none]
  | case2 d rest hd ih =>
    have h : afterPosition? ('@' :: 'L' :: d :: rest) = none := by
      rw [afterPosition?, if_neg hd]
    rw [markPositions_cons h, ih, List.reduceOption_cons_of_some]
  | case3 c rest hne ih =>
    have h : afterPosition? (c :: rest) = none := by
      unfold afterPosition?
      split
      · next d tail heq =>
        cases heq
        exact absurd rfl (hne d tail rfl)
      · rfl
    rw [markPositions_cons h, ih, List.reduceOption_cons_of_some]
  | case4 => rw [markPositions_nil]; rfl

/-! ### Marks on the two sides of a character -/

section Append

variable {c : Char} (hdigit : Text.isDigit c = false) (hL : c ≠ 'L')

include hdigit

theorem dropWhile_append_cons (x y : List Char) :
    (x ++ c :: y).dropWhile Text.isDigit = x.dropWhile Text.isDigit ++ c :: y := by
  have hstop : (c :: y).dropWhile Text.isDigit = c :: y := by
    rw [List.dropWhile_cons, if_neg (by simp [hdigit])]
  rw [List.dropWhile_append]
  split
  · next hempty => rw [List.isEmpty_iff.mp hempty, hstop, List.nil_append]
  · rfl

include hL

theorem afterPosition?_append_cons {x : List Char} (hx : x ≠ []) (y : List Char) :
    afterPosition? (x ++ c :: y) = (afterPosition? x).map (· ++ c :: y) := by
  match x with
  | [] => exact absurd rfl hx
  | [a] =>
    have hnone := afterPosition?_eq_none (a := a) (fun h => hL h.2) y
    simpa [afterPosition?] using hnone
  | [a, b] =>
    by_cases h : a = '@' ∧ b = 'L'
    · obtain ⟨rfl, rfl⟩ := h
      simp [afterPosition?, hdigit]
    · simp [afterPosition?_eq_none h]
  | a :: b :: d :: rest =>
    by_cases h : a = '@' ∧ b = 'L'
    · obtain ⟨rfl, rfl⟩ := h
      by_cases hd : Text.isDigit d = true
      · simp [afterPosition?, hd, dropWhile_append_cons hdigit]
      · simp [afterPosition?, hd]
    · simp [afterPosition?_eq_none h]

/-- A line suffix does not reach over a character that is neither a digit nor the letter in it. -/
theorem markPositions_append_cons (x y : List Char) :
    markPositions (x ++ c :: y) = markPositions x ++ markPositions (c :: y) := by
  fun_induction markPositions x with
  | case1 cs rest h ih =>
    have hne : cs ≠ [] := by
      rintro rfl
      cases h
    have happend : afterPosition? (cs ++ c :: y) = some (rest ++ c :: y) := by
      rw [afterPosition?_append_cons hdigit hL hne, h]
      rfl
    rw [markPositions_of_some happend, ih]
    rfl
  | case2 h => rfl
  | case3 a rest h ih =>
    have happend := afterPosition?_append_cons hdigit hL (List.cons_ne_nil a rest) y
    rw [h, List.cons_append] at happend
    rw [List.cons_append, markPositions_cons happend, ih]
    rfl

end Append

/-- What is left without the digits at its start has the marks that are left without them. -/
theorem markPositions_dropWhile (cs : List Char) :
    markPositions (cs.dropWhile Text.isDigit) = (markPositions cs).dropWhile (Option.any Text.isDigit) := by
  induction cs with
  | nil => rw [List.dropWhile_nil, markPositions_nil, List.dropWhile_nil]
  | cons c cs ih =>
    by_cases hc : Text.isDigit c = true
    · have hat : c ≠ '@' := fun h => absurd (h ▸ hc) (by decide)
      have hmark : Option.any Text.isDigit (some c) = true := hc
      rw [List.dropWhile_cons_of_pos hc, markPositions_cons (afterPosition?_of_ne hat cs),
        List.dropWhile_cons_of_pos hmark, ih]
    · have hmark : ¬Option.any Text.isDigit (some c) = true := hc
      rw [List.dropWhile_cons_of_neg hc]
      cases hafter : afterPosition? (c :: cs) with
      | some rest => rw [markPositions_of_some hafter, List.dropWhile_cons_of_neg (by simp)]
      | none => rw [markPositions_cons hafter, List.dropWhile_cons_of_neg hmark]

/-- The number in a line suffix does not show in the marks; digits that follow it belong to it. -/
theorem marks_append_position {digits : String} (hne : digits ≠ "")
    (hdigits : ∀ c ∈ digits.toList, Text.isDigit c = true) (name rest : String) :
    marks (name ++ "@L" ++ digits ++ rest) =
      marks name ++ none :: (marks rest).dropWhile (Option.any Text.isDigit) := by
  obtain ⟨d, ds, hlist⟩ := List.exists_cons_of_ne_nil fun h => hne (String.toList_eq_nil_iff.1 h)
  rw [hlist, List.forall_mem_cons] at hdigits
  have hafter : afterPosition? ('@' :: 'L' :: d :: (ds ++ rest.toList)) =
      some (rest.toList.dropWhile Text.isDigit) := by
    rw [afterPosition?, if_pos hdigits.1, List.dropWhile_append_of_pos hdigits.2]
  have htext : (name ++ "@L" ++ digits ++ rest).toList =
      name.toList ++ '@' :: 'L' :: d :: (ds ++ rest.toList) := by
    simp [hlist]
  rw [marks, htext, markPositions_append_cons (by decide) (by decide), markPositions_of_some hafter,
    markPositions_dropWhile]
  rfl

theorem marks_append_digits {digits : String} (hne : digits ≠ "")
    (hdigits : ∀ c ∈ digits.toList, Text.isDigit c = true) (name : String) :
    marks (name ++ "@L" ++ digits) = marks name ++ [none] := by
  have h := marks_append_position hne hdigits name ""
  rwa [String.append_empty, show marks "" = [] from markPositions_nil, List.dropWhile_nil] at h

theorem repr_ne_empty (line : Nat) : Nat.repr line ≠ "" := by
  intro h
  have hempty := Text.isEmpty_repr line
  rw [h] at hempty
  cases hempty

/-- The line in the suffix of a name does not show in its marks. -/
theorem marks_append_line (name : String) (line : Nat) :
    marks (name ++ "@L" ++ Nat.repr line) = marks name ++ [none] :=
  marks_append_digits (repr_ne_empty line) (fun _ => Text.isDigit_of_mem_numeral) name

/-- A name made of texts, each with a line suffix behind it, and a last text. -/
def suffixed (last : String) : List (String × Nat) → String
  | [] => last
  | (text, line) :: parts => text ++ "@L" ++ Nat.repr line ++ suffixed last parts

/-- **The lines in the suffixes of a name do not show in its marks**, whatever texts stand around them. -/
theorem marks_suffixed {parts parts' : List (String × Nat)} (h : parts.map (·.1) = parts'.map (·.1))
    (last : String) : marks (suffixed last parts) = marks (suffixed last parts') := by
  induction parts generalizing parts' with
  | nil =>
    obtain rfl := List.map_eq_nil_iff.1 h.symm
    rfl
  | cons part parts ih =>
    obtain ⟨part', parts', rfl, htext, hparts⟩ := List.map_eq_cons_iff.1 h.symm
    have hline (line : Nat) := marks_append_position (repr_ne_empty line) fun _ => Text.isDigit_of_mem_numeral
    rw [suffixed, suffixed, hline, hline, htext, ih hparts.symm]

/-! ### Marks on the two sides of a colon -/

theorem afterPosition?_append_colon (x y : List Char) :
    afterPosition? (x ++ ':' :: y) = (afterPosition? x).map (· ++ ':' :: y) := by
  cases x with
  | nil => simp [afterPosition?]
  | cons a x => exact afterPosition?_append_cons (by decide) (by decide) (List.cons_ne_nil a x) y

theorem markPositions_append_colon (x y : List Char) :
    markPositions (x ++ ':' :: y) = markPositions x ++ some ':' :: markPositions y := by
  rw [markPositions_append_cons (by decide) (by decide), markPositions_cons (afterPosition?_of_ne (by decide) y)]

/-- A colon among the marks comes from a colon in the name. -/
theorem exists_of_markPositions_eq {cs : List Char} {X Y : List (Option Char)}
    (h : markPositions cs = X ++ some ':' :: Y) :
    ∃ x y, cs = x ++ ':' :: y ∧ markPositions x = X ∧ markPositions y = Y := by
  fun_induction markPositions cs generalizing X with
  | case1 cs rest hafter ih =>
    cases X with
    | nil => simp at h
    | cons mark X =>
      obtain ⟨rfl, hrest⟩ := List.cons.inj h
      obtain ⟨x, y, rfl, rfl, rfl⟩ := ih hrest
      obtain ⟨front, hfront⟩ := (suffix_of_afterPosition? hafter).1
      refine ⟨front ++ x, y, by rw [← hfront, List.append_assoc], ?_, rfl⟩
      -- the suffix ends before the colon, so it is the same without what follows the colon
      rw [← hfront, ← List.append_assoc, afterPosition?_append_colon] at hafter
      obtain ⟨x', hx', heq⟩ := Option.map_eq_some_iff.mp hafter
      rw [List.append_cancel_right heq] at hx'
      exact markPositions_of_some hx'
  | case2 hafter => simp at h
  | case3 c rest hafter ih =>
    cases X with
    | nil =>
      obtain ⟨hc, rfl⟩ := List.cons.inj h
      cases hc
      exact ⟨[], rest, rfl, markPositions_nil, rfl⟩
    | cons mark X =>
      obtain ⟨rfl, hrest⟩ := List.cons.inj h
      obtain ⟨x, y, rfl, rfl, rfl⟩ := ih hrest
      refine ⟨c :: x, y, rfl, ?_, rfl⟩
      rw [← List.cons_append, afterPosition?_append_colon, Option.map_eq_none_iff] at hafter
      exact markPositions_cons hafter

theorem eq_nil_of_markPositions {cs : List Char} (h : markPositions cs = []) : cs = [] := by
  fun_induction markPositions cs with
  | case1 => cases h
  | case2 => rfl
  | case3 => cases h

/-! ### The owner in the name of a branch -/

theorem markPositions_append_colons (x y : List Char) : markPositions (x ++ ':' :: ':' :: y) =
    markPositions x ++ some ':' :: some ':' :: markPositions y := by
  have hy := markPositions_append_colon [] y
  rw [markPositions_nil] at hy
  rw [markPositions_append_colon]
  exact congrArg (markPositions x ++ some ':' :: ·) hy

theorem exists_of_markPositions_colons {cs : List Char} {X Y : List (Option Char)}
    (h : markPositions cs = X ++ some ':' :: some ':' :: Y) :
    ∃ x y, cs = x ++ ':' :: ':' :: y ∧ markPositions x = X ∧ markPositions y = Y := by
  obtain ⟨x, tail, rfl, hx, htail⟩ := exists_of_markPositions_eq h
  obtain ⟨between, y, rfl, hbetween, hy⟩ := exists_of_markPositions_eq (X := []) htail
  rw [eq_nil_of_markPositions hbetween]
  exact ⟨x, y, rfl, hx, hy⟩

/-- Two colons stand next to each other in a name. -/
def HasColons (cs : List Char) : Prop :=
  ∃ x y, cs = x ++ ':' :: ':' :: y

theorem HasColons.of_markPositions_eq {a b : List Char} (ha : HasColons a)
    (h : markPositions a = markPositions b) : HasColons b := by
  obtain ⟨x, y, rfl⟩ := ha
  rw [markPositions_append_colons] at h
  obtain ⟨x', y', rfl, -, -⟩ := exists_of_markPositions_colons h.symm
  exact ⟨x', y', rfl⟩

theorem HasColons.append_right {cs : List Char} (h : HasColons cs) (rest : List Char) :
    HasColons (cs ++ rest) := by
  obtain ⟨x, y, rfl⟩ := h
  exact ⟨x, y ++ rest, by simp⟩

theorem beforeLastRev_colons (rest : List Char) :
    Text.beforeLastRev [':', ':'] (':' :: ':' :: rest) = some rest.reverse := by
  simp [Text.beforeLastRev]

theorem beforeLastRev_cons {c : Char} {rest : List Char}
    (h : ∀ tail, c :: rest ≠ ':' :: ':' :: tail) :
    Text.beforeLastRev [':', ':'] (c :: rest) = Text.beforeLastRev [':', ':'] rest := by
  rw [Text.beforeLastRev, if_neg]
  intro hprefix
  obtain ⟨tail, htail⟩ := List.isPrefixOf_iff_prefix.mp hprefix
  exact h tail htail.symm

/-- Before the text that is found stand the last two colons in a row. -/
theorem beforeLastRev_eq_some {before : List Char} : ∀ {reversed : List Char},
    Text.beforeLastRev [':', ':'] reversed = some before →
      ∃ after, reversed.reverse = before ++ ':' :: ':' :: after ∧ ¬HasColons (':' :: after) := by
  intro reversed
  induction reversed with
  | nil =>
    intro h
    cases h
  | cons c rest ih =>
    intro h
    by_cases hcolons : ∃ tail, c :: rest = ':' :: ':' :: tail
    · obtain ⟨tail, htail⟩ := hcolons
      rw [htail, beforeLastRev_colons] at h
      cases h
      refine ⟨[], by simp [htail], ?_⟩
      rintro ⟨x, y, hxy⟩
      have := congrArg List.length hxy
      simp only [List.length_append, List.length_cons, List.length_nil] at this
      omega
    · rw [beforeLastRev_cons fun tail htail => hcolons ⟨tail, htail⟩] at h
      obtain ⟨after, hafter, hnone⟩ := ih h
      refine ⟨after ++ [c], by simp [hafter], ?_⟩
      rintro ⟨x, y, hxy⟩
      rw [← List.cons_append] at hxy
      -- the two colons are inside the text found so far, or the last of them is the new character
      rcases List.eq_nil_or_concat y with rfl | ⟨y, c', rfl⟩
      · rw [show x ++ [':', ':'] = (x ++ [':']) ++ [':'] by simp] at hxy
        obtain ⟨hlast, hc⟩ := List.append_inj' hxy rfl
        have hrest : rest = ':' :: (before ++ ':' :: x).reverse := by
          rw [← List.reverse_reverse rest, hafter, hlast]
          simp
        exact hcolons ⟨_, by rw [hrest, (List.cons.inj hc).1]⟩
      · rw [show x ++ ':' :: ':' :: y.concat c' = (x ++ ':' :: ':' :: y) ++ [c'] by simp] at hxy
        exact hnone ⟨x, y, (List.append_inj' hxy rfl).1⟩

/-- The text before the last two colons in a row is found. -/
theorem beforeLastRev_append {before : List Char} : ∀ {after : List Char}, ¬HasColons (':' :: after) →
    Text.beforeLastRev [':', ':'] (before ++ ':' :: ':' :: after).reverse = some before := by
  intro after
  induction after using List.reverseRecOn with
  | nil =>
    intro _
    simpa using beforeLastRev_colons before.reverse
  | append_singleton after c ih =>
    intro hnone
    have hinit : ¬HasColons (':' :: after) := fun h => hnone (h.append_right [c])
    rw [show (before ++ ':' :: ':' :: (after ++ [c])).reverse =
      c :: (before ++ ':' :: ':' :: after).reverse by simp]
    rw [beforeLastRev_cons, ih hinit]
    intro tail htail
    -- two colons at the end would stand in what follows the last two
    obtain ⟨rfl, hrest⟩ := List.cons.inj htail
    obtain ⟨front, c, hfront⟩ := (List.eq_nil_or_concat (':' :: after)).resolve_left (by simp)
    rw [hfront, show before ++ ':' :: front.concat c = (before ++ ':' :: front) ++ [c] by simp,
      List.reverse_append] at hrest
    obtain ⟨rfl, -⟩ := List.cons.inj hrest
    exact hnone ⟨front, [], by rw [← List.cons_append, hfront]; simp⟩

theorem ownerName_toList (name : String) : (Node.ownerName name).toList =
    (Text.beforeLastRev [':', ':'] name.toList.reverse).getD name.toList := by
  have hpattern : "::".toList = [':', ':'] := rfl
  rw [Node.ownerName, Text.splitLast?, hpattern]
  cases Text.beforeLastRev [':', ':'] name.toList.reverse with
  | none => rfl
  | some before => exact String.toList_ofList

/-- Names with the same marks are divided at the same place. -/
theorem exists_beforeLastRev {a b before : List Char} (h : markPositions a = markPositions b)
    (hbefore : Text.beforeLastRev [':', ':'] a.reverse = some before) :
    ∃ before', Text.beforeLastRev [':', ':'] b.reverse = some before' ∧
      markPositions before = markPositions before' := by
  obtain ⟨after, ha, hnone⟩ := beforeLastRev_eq_some hbefore
  rw [List.reverse_reverse] at ha
  rw [ha, markPositions_append_colons] at h
  obtain ⟨before', after', rfl, hbefore', hafter'⟩ := exists_of_markPositions_colons h.symm
  refine ⟨before', beforeLastRev_append fun hcolons => hnone ?_, hbefore'.symm⟩
  -- two colons after the place in one name would be two colons after it in the other
  refine hcolons.of_markPositions_eq ?_
  have hmarks := markPositions_append_colon [] after'
  rw [hafter', ← markPositions_append_colon] at hmarks
  exact hmarks

/-- **The owner in the name of a branch has marks that depend on those of the name only.** -/
theorem marks_ownerName {a b : String} (h : marks a = marks b) :
    marks (Node.ownerName a) = marks (Node.ownerName b) := by
  rw [marks, marks, ownerName_toList, ownerName_toList]
  cases ha : Text.beforeLastRev [':', ':'] a.toList.reverse with
  | some before =>
    obtain ⟨before', hb, hmarks⟩ := exists_beforeLastRev h ha
    rw [hb]
    exact hmarks
  | none =>
    cases hb : Text.beforeLastRev [':', ':'] b.toList.reverse with
    | none => exact h
    | some before =>
      obtain ⟨before', ha', -⟩ := exists_beforeLastRev h.symm hb
      rw [ha] at ha'
      cases ha'

/-! ### Keys -/

theorem withoutPositions_eq_of_marks {a b : String} (h : marks a = marks b) :
    withoutPositions a = withoutPositions b := by
  rw [withoutPositions, withoutPositions, dropPositions_eq, dropPositions_eq]
  exact congrArg (fun cs => String.ofList (List.reduceOption cs)) h

theorem withoutInstance_eq_of_marks {a b : String} (h : marks a = marks b) :
    withoutInstance a = withoutInstance b := by
  rw [withoutInstance, withoutInstance, dropPositions_eq, dropPositions_eq]
  exact congrArg (fun cs => String.ofList (dropInstance (List.reduceOption cs))) h

/-! ### Names that differ in their line numbers -/

theorem withoutInstance_eq_of_withoutPositions {a b : String}
    (h : withoutPositions a = withoutPositions b) : withoutInstance a = withoutInstance b := by
  rw [withoutPositions, withoutPositions, String.ofList_inj] at h
  rw [withoutInstance, withoutInstance, h]

/-- A separator keeps the line suffixes on its two sides apart. -/
theorem dropPositions_append_cons {c : Char} (hdigit : Text.isDigit c = false) (hL : c ≠ 'L')
    (hat : c ≠ '@') (x y : List Char) :
    dropPositions (x ++ c :: y) = dropPositions x ++ c :: dropPositions y := by
  simp only [dropPositions_eq]
  rw [markPositions_append_cons hdigit hL, markPositions_cons (afterPosition?_of_ne hat y),
    List.reduceOption_append, List.reduceOption_cons_of_some]

theorem withoutPositions_append_dot (a b : String) :
    withoutPositions (a ++ "." ++ b) = withoutPositions a ++ "." ++ withoutPositions b := by
  refine String.toList_inj.mp ?_
  have h := dropPositions_append_cons (c := '.') (by decide) (by decide) (by decide) a.toList b.toList
  simpa [withoutPositions] using h

theorem withoutPositions_append_colons (a b : String) :
    withoutPositions (a ++ "::" ++ b) = withoutPositions a ++ "::" ++ withoutPositions b := by
  refine String.toList_inj.mp ?_
  have hcolon := dropPositions_append_cons (c := ':') (by decide) (by decide) (by decide)
  have hsecond := hcolon [] b.toList
  have hfirst := hcolon a.toList (':' :: b.toList)
  rw [List.nil_append] at hsecond
  rw [hsecond] at hfirst
  simpa [withoutPositions, dropPositions] using hfirst

theorem withoutPositions_append_digits {digits : String} (hne : digits ≠ "")
    (hdigits : ∀ c ∈ digits.toList, Text.isDigit c = true) (name : String) :
    withoutPositions (name ++ "@L" ++ digits) = withoutPositions name := by
  have h := marks_append_digits hne hdigits name
  rw [withoutPositions, withoutPositions, dropPositions_eq, dropPositions_eq]
  rw [marks, marks] at h
  rw [h, List.reduceOption_append, List.reduceOption_singleton, Option.toList_none, List.append_nil]

theorem withoutPositions_append_line (name : String) (line : Nat) :
    withoutPositions (name ++ "@L" ++ Nat.repr line) = withoutPositions name :=
  withoutPositions_append_digits (repr_ne_empty line) (fun _ => Text.isDigit_of_mem_numeral) name

/-- What a name says beside its line numbers; a name that is there at all has a dot in front of it. -/
def gist (name : String) : String :=
  if name == "" then "" else "." ++ withoutPositions name

theorem gist_eq_iff {a b : String} :
    gist a = gist b ↔ (a = "" ↔ b = "") ∧ withoutPositions a = withoutPositions b := by
  have hdot (name : String) : "" ≠ "." ++ name := by
    intro h
    have := congrArg String.toList h
    simp at this
  unfold gist
  by_cases ha : a = ""
  · by_cases hb : b = ""
    · simp [ha, hb]
    · simp [ha, hb, hdot]
  · by_cases hb : b = ""
    · simp [ha, hb, (hdot _).symm]
    · simp [ha, hb, String.append_right_inj]

/-- Two names that differ in their line numbers only; in an exact comparison they do not differ at all. -/
structure Alike (exact : Prop) (a b : String) : Prop where
  gist : gist a = gist b
  eq : exact → a = b

namespace Alike

variable {exact : Prop} {a b name name' : String}

theorem refl (exact : Prop) (name : String) : Alike exact name name :=
  ⟨rfl, fun _ => rfl⟩

theorem withoutPositions_eq (h : Alike exact a b) : withoutPositions a = withoutPositions b :=
  (gist_eq_iff.1 h.gist).2

theorem eq_empty_iff (h : Alike exact a b) : a = "" ↔ b = "" :=
  (gist_eq_iff.1 h.gist).1

theorem qualify (h : Alike exact a b) (hname : Alike exact name name') :
    Alike exact (Name.qualify a name) (Name.qualify b name') := by
  refine ⟨?_, fun he => by rw [h.eq he, hname.eq he]⟩
  unfold Name.qualify
  by_cases ha : a = ""
  · simpa [ha, h.eq_empty_iff.1 ha] using hname.gist
  · have hb : b ≠ "" := fun hb => ha (h.eq_empty_iff.2 hb)
    rw [if_neg (by simpa using ha), if_neg (by simpa using hb), gist_eq_iff,
      withoutPositions_append_dot, withoutPositions_append_dot, h.withoutPositions_eq,
      hname.withoutPositions_eq]
    simp [ha, hb]

/-- A branch has the name of its owner in its own. -/
theorem branch (h : Alike exact a b) (label : String) :
    Alike exact (a ++ "::" ++ label) (b ++ "::" ++ label) := by
  refine ⟨?_, fun he => by rw [h.eq he]⟩
  rw [gist_eq_iff, withoutPositions_append_colons, withoutPositions_append_colons,
    h.withoutPositions_eq]
  simp

end Alike

end StructuralDiff.Name
