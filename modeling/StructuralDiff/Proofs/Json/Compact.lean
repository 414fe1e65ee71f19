import StructuralDiff.Proofs.Json.Token

/-!
# One value for each compact form

The form without blanks has no lengths in it, and a text may hold every mark that the form itself uses. Still,
whatever stands after a value, the value ends at one place only, and no other value has the same characters.

* `quoted_append_inj`: a string ends at its last quote, and its characters are those that were written.
* `endsAlone_compactChars`: a value and its end are known from the characters.
* `compact_inj`: so different values have different compact forms.
-/

namespace StructuralDiff.Json

/-! ### Numbers -/

/-- What follows does not go on with a digit. -/
def EndsDigits (rest : List Char) : Prop :=
  ∀ c ∈ rest.head?, c.isDigit = false

theorem endsDigits_cons {c : Char} (h : c.isDigit = false) (rest : List Char) : EndsDigits (c :: rest) := by
  intro d hd
  rw [List.head?_cons, Option.mem_def, Option.some.injEq] at hd
  exact hd ▸ h

theorem Delimited.endsDigits {rest : List Char} (h : Delimited rest) : EndsDigits rest := by
  intro c hc
  have hnumber := (h c hc).1
  simp only [numberChar, Bool.or_eq_false_iff] at hnumber
  exact hnumber.1.1.1.1.1

theorem EndsDigits.takeWhile_append {digits rest : List Char} (h : EndsDigits rest)
    (hdigits : ∀ c ∈ digits, c.isDigit = true) : (digits ++ rest).takeWhile Char.isDigit = digits := by
  rw [List.takeWhile_append_of_pos hdigits]
  cases rest with
  | nil => exact List.append_nil digits
  | cons c rest => rw [List.takeWhile_cons, h c rfl, if_neg Bool.false_ne_true, List.append_nil]

section Numbers

variable {rest rest' : List Char} (hrest : EndsDigits rest) (hrest' : EndsDigits rest')

include hrest hrest'

theorem toDigits_append_inj {n n' : Nat} (h : Nat.toDigits 10 n ++ rest = Nat.toDigits 10 n' ++ rest') :
    n = n' ∧ rest = rest' := by
  have hdigits := congrArg (List.takeWhile Char.isDigit) h
  rw [hrest.takeWhile_append fun _ => isDigit_of_mem_toDigits,
    hrest'.takeWhile_append fun _ => isDigit_of_mem_toDigits] at hdigits
  have hn : n = n' := by rw [← digitsValue_toDigits n, hdigits, digitsValue_toDigits]
  subst hn
  exact ⟨rfl, List.append_cancel_left h⟩

/-- **A whole number ends where no digit stands.** -/
theorem intText_append_inj {n n' : Int} (h : intText n ++ rest = intText n' ++ rest') :
    n = n' ∧ rest = rest' := by
  -- A sign is no digit, so both numbers have one or none has.
  have hsign {a b : Nat} {x y : List Char} : '-' :: Nat.toDigits 10 a ++ x ≠ Nat.toDigits 10 b ++ y := by
    intro h
    obtain ⟨d, ds, hdigits⟩ := List.exists_cons_of_ne_nil (@Nat.toDigits_ne_nil b 10)
    have hd : d.isDigit = true := isDigit_of_mem_toDigits (hdigits ▸ List.mem_cons_self)
    rw [hdigits, List.cons_append, List.cons_append, List.cons.injEq] at h
    rw [← h.1] at hd
    cases hd
  unfold intText at h
  split at h
  · split at h
    · rw [List.cons_append, List.cons_append, List.cons.injEq] at h
      obtain ⟨hn, hsame⟩ := toDigits_append_inj hrest hrest' h.2
      exact ⟨by omega, hsame⟩
    · exact absurd h hsign
  · split at h
    · exact absurd h.symm hsign
    · obtain ⟨hn, hsame⟩ := toDigits_append_inj hrest hrest' h
      exact ⟨by omega, hsame⟩

end Numbers

/-! ### Strings -/

/-- The first character of what stands inside a string, and what follows it. -/
def readChar? : List Char → Option (Char × List Char)
  | '\\' :: 'u' :: '0' :: '0' :: high :: low :: rest =>
    (hexValue? high).bind fun h => (hexValue? low).map fun l => (Char.ofNat (16 * h + l), rest)
  | '\\' :: c :: rest => (unescape? c).map (·, rest)
  | '"' :: _ => none
  | c :: rest => some (c, rest)
  | [] => none

/-- **A character inside a string ends at one place only.** -/
theorem readChar?_escapeChar (c : Char) (rest : List Char) :
    readChar? (escapeChar c ++ rest) = some (c, rest) := by
  unfold escapeChar
  split
  iterate 7 rfl
  next hquote hbackslash _ _ _ _ _ =>
    split
    · next hcontrol =>
      have hcode : 16 * (c.toNat / 16) + c.toNat % 16 = c.toNat := by omega
      show ((hexValue? (hexDigit (c.toNat / 16))).bind _) = _
      rw [hexValue?_hexDigit _ (by omega), Option.bind_some, hexValue?_hexDigit _ (by omega), Option.map_some,
        hcode, Char.ofNat_toNat]
      rfl
    · rw [List.singleton_append, readChar?]
      · exact fun _ _ _ h _ => hbackslash h
      · exact fun _ _ h _ => hbackslash h
      · exact hquote

theorem escaped_append_inj {cs cs' rest rest' : List Char}
    (h : cs.flatMap escapeChar ++ '"' :: rest = cs'.flatMap escapeChar ++ '"' :: rest') :
    cs = cs' ∧ rest = rest' := by
  induction cs generalizing cs' with
  | nil =>
    cases cs' with
    | nil => exact ⟨rfl, List.tail_eq_of_cons_eq h⟩
    | cons c' cs' =>
      have hread := congrArg readChar? h
      rw [List.flatMap_cons, List.append_assoc, readChar?_escapeChar] at hread
      cases hread
  | cons c cs ih =>
    have hread := congrArg readChar? h
    rw [List.flatMap_cons, List.append_assoc, readChar?_escapeChar] at hread
    cases cs' with
    | nil => cases hread
    | cons c' cs' =>
      rw [List.flatMap_cons, List.append_assoc, readChar?_escapeChar, Option.some.injEq, Prod.mk.injEq] at hread
      obtain ⟨rfl, hrest⟩ := ih hread.2
      exact ⟨by rw [hread.1], hrest⟩

/-- **A string ends at one place only**, whatever it holds. -/
theorem quoted_append_inj {text text' : String} {rest rest' : List Char}
    (h : quoted text ++ rest = quoted text' ++ rest') : text = text' ∧ rest = rest' := by
  simp only [quoted, List.cons_append, List.append_assoc, List.nil_append, List.cons.injEq, true_and] at h
  exact (escaped_append_inj h).imp_left String.toList_inj.1

/-! ### Values -/

/-- What the first character of a value tells about it. -/
inductive Shape where
  | null
  | yes
  | no
  | number
  | text
  | array
  | object
  deriving DecidableEq

/-- The shape that a character begins. -/
def Shape.ofChar? : Char → Option Shape
  | 'n' => some .null
  | 't' => some .yes
  | 'f' => some .no
  | '"' => some .text
  | '[' => some .array
  | '\x7b' => some .object
  | c => if c == '-' || c.isDigit then some .number else none

/-- The shape of a value. -/
def shape : Json → Shape
  | .null => .null
  | .bool true => .yes
  | .bool false => .no
  | .int _ | .decimal _ _ => .number
  | .str _ => .text
  | .arr _ => .array
  | .obj _ => .object

/-- A digit or a sign begins a number. -/
theorem ofChar?_number {c : Char} (h : (c == '-' || c.isDigit) = true) : Shape.ofChar? c = some .number := by
  have hne : ∀ d : Char, (d == '-' || d.isDigit) = false → c ≠ d := by
    rintro d hd rfl
    rw [h] at hd
    cases hd
  rw [Shape.ofChar?]
  · rw [if_pos h]
  all_goals exact hne _ (by decide)

theorem exists_intText_eq (n : Int) : ∃ c cs, intText n = c :: cs ∧ Shape.ofChar? c = some .number := by
  rw [intText]
  split
  · exact ⟨'-', _, rfl, rfl⟩
  · obtain ⟨c, cs, hdigits⟩ := List.exists_cons_of_ne_nil (@Nat.toDigits_ne_nil n.natAbs 10)
    refine ⟨c, cs, hdigits, ofChar?_number ?_⟩
    rw [isDigit_of_mem_toDigits (hdigits ▸ List.mem_cons_self), Bool.or_true]

/-- **The first character of a value tells its shape.** -/
theorem exists_compactChars_eq (v : Json) :
    ∃ c cs, compactChars v = c :: cs ∧ Shape.ofChar? c = some v.shape := by
  match v with
  | .null | .bool true | .bool false | .str _ | .arr _ | .obj _ => exact ⟨_, _, rfl, rfl⟩
  | .int n => exact exists_intText_eq n
  | .decimal m e =>
    obtain ⟨c, cs, hchars, hshape⟩ := exists_intText_eq m
    exact ⟨c, cs ++ 'e' :: intText e, by rw [compactChars, hchars, List.cons_append], hshape⟩

theorem shape_eq_of_append_eq {v w : Json} {rest rest' : List Char}
    (h : compactChars v ++ rest = compactChars w ++ rest') : v.shape = w.shape := by
  obtain ⟨c, cs, hv, hc⟩ := exists_compactChars_eq v
  obtain ⟨d, ds, hw, hd⟩ := exists_compactChars_eq w
  rw [hv, hw, List.cons_append, List.cons_append, List.cons.injEq] at h
  rw [h.1, hd] at hc
  exact (Option.some.inj hc).symm

/-- **A number ends where it is delimited**, whether it has an exponent or not. -/
theorem number_append_inj {v w : Json} {rest rest' : List Char} (hv : v.shape = .number) (hw : w.shape = .number)
    (hrest : Delimited rest) (hrest' : Delimited rest')
    (h : compactChars v ++ rest = compactChars w ++ rest') : v = w ∧ rest = rest' := by
  have hend := hrest.endsDigits
  have hend' := hrest'.endsDigits
  have hexponent (cs : List Char) : EndsDigits ('e' :: cs) := endsDigits_cons (by decide) cs
  -- What delimits a number does not go on with an exponent.
  have hnone {cs : List Char} : ¬Delimited ('e' :: cs) := fun hcs => absurd (hcs 'e' rfl).1 (by decide)
  match v, w, hv, hw with
  | .int n, .int n', _, _ => exact (intText_append_inj hend hend' h).imp_left (congrArg Json.int)
  | .int n, .decimal m e, _, _ =>
    rw [compactChars, compactChars, List.append_assoc] at h
    obtain ⟨-, rfl⟩ := intText_append_inj hend (hexponent _) h
    exact absurd hrest hnone
  | .decimal m e, .int n, _, _ =>
    rw [compactChars, compactChars, List.append_assoc] at h
    obtain ⟨-, rfl⟩ := intText_append_inj (hexponent _) hend' h
    exact absurd hrest' hnone
  | .decimal m e, .decimal m' e', _, _ =>
    rw [compactChars, compactChars, List.append_assoc, List.append_assoc] at h
    obtain ⟨rfl, htail⟩ := intText_append_inj (hexponent _) (hexponent _) h
    obtain ⟨rfl, rfl⟩ := intText_append_inj hend hend' (List.tail_eq_of_cons_eq htail)
    exact ⟨rfl, rfl⟩

/-! ### Items and fields, one after the other -/

section Listed

variable {α : Type} {chars : α → List Char}

/-- The characters of a thing end at one place only, whatever stands after them, and no other thing has them. -/
def EndsAlone (chars : α → List Char) (a : α) : Prop :=
  ∀ b rest rest', Delimited rest → Delimited rest' → chars a ++ rest = chars b ++ rest' → a = b ∧ rest = rest'

/-- A comma, or the end of what things stand in, delimits the thing before it. -/
theorem delimited_listed (later : List α) {close : Char}
    (hclose : numberChar close = false ∧ close.isAlpha = false) (rest : List Char) :
    Delimited ((later.flatMap fun a => ',' :: chars a) ++ close :: rest) := by
  cases later with
  | nil => exact delimited_cons hclose
  | cons a later => exact delimited_cons (by decide)

/-- Things with commas before them end one after the other, and all of them at the mark that ends them. -/
theorem later_append_inj {close : Char} (hclose : numberChar close = false ∧ close.isAlpha = false)
    (hcomma : close ≠ ',') {later later' : List α} {rest rest' : List Char}
    (hlater : ∀ a ∈ later, EndsAlone chars a)
    (h : (later.flatMap fun a => ',' :: chars a) ++ close :: rest =
      (later'.flatMap fun a => ',' :: chars a) ++ close :: rest') : later = later' ∧ rest = rest' := by
  induction later generalizing later' with
  | nil =>
    cases later' with
    | nil => exact ⟨rfl, List.tail_eq_of_cons_eq h⟩
    | cons _ _ => exact absurd (List.head_eq_of_cons_eq h) hcomma
  | cons a later ih =>
    cases later' with
    | nil => exact absurd (List.head_eq_of_cons_eq h).symm hcomma
    | cons b later' =>
      rw [List.forall_mem_cons] at hlater
      simp only [List.flatMap_cons, List.cons_append, List.append_assoc, List.cons.injEq, true_and] at h
      obtain ⟨rfl, hrest⟩ := hlater.1 b _ _ (delimited_listed later hclose rest)
        (delimited_listed later' hclose rest') h
      obtain ⟨rfl, hsame⟩ := ih hlater.2 hrest
      exact ⟨rfl, hsame⟩

/-- **What stands in a container ends at the mark that ends the container**, when that mark begins nothing that
can stand there. -/
theorem listed_append_inj {close : Char} (hclose : numberChar close = false ∧ close.isAlpha = false)
    (hcomma : close ≠ ',') (hbegins : ∀ a rest cs, chars a ++ rest ≠ close :: cs) {listed : List α → List Char}
    (hnil : listed [] = [])
    (hcons : ∀ a later, listed (a :: later) = chars a ++ later.flatMap fun b => ',' :: chars b)
    {items items' : List α} {rest rest' : List Char} (hitems : ∀ a ∈ items, EndsAlone chars a)
    (h : listed items ++ close :: rest = listed items' ++ close :: rest') : items = items' ∧ rest = rest' := by
  match items, items' with
  | [], [] =>
    rw [hnil] at h
    exact ⟨rfl, List.tail_eq_of_cons_eq h⟩
  | [], b :: later =>
    rw [hnil, hcons, List.append_assoc] at h
    exact absurd h.symm (hbegins b _ _)
  | a :: later, [] =>
    rw [hnil, hcons, List.append_assoc] at h
    exact absurd h (hbegins a _ _)
  | a :: later, b :: later' =>
    rw [List.forall_mem_cons] at hitems
    rw [hcons, hcons, List.append_assoc, List.append_assoc] at h
    obtain ⟨rfl, hrest⟩ := hitems.1 b _ _ (delimited_listed later hclose rest)
      (delimited_listed later' hclose rest') h
    obtain ⟨rfl, hsame⟩ := later_append_inj hclose hcomma hitems.2 hrest
    exact ⟨rfl, hsame⟩

end Listed

theorem compactItems_cons (v : Json) (items : List Json) :
    compactItems (v :: items) = compactChars v ++ items.flatMap fun w => ',' :: compactChars w := by
  induction items generalizing v with
  | nil => rw [compactItems, List.flatMap_nil, List.append_nil]
  | cons w items ih => rw [compactItems, ih, List.flatMap_cons, List.cons_append]

/-- The end of an array begins no value. -/
theorem compactChars_append_ne (v : Json) (rest cs : List Char) : compactChars v ++ rest ≠ ']' :: cs := by
  intro h
  obtain ⟨c, _, hv, hc⟩ := exists_compactChars_eq v
  rw [hv, List.cons_append, List.cons.injEq] at h
  rw [h.1] at hc
  cases hc

/-- A name with its colon, and a value. -/
def fieldChars (f : String × Json) : List Char :=
  quoted f.1 ++ ':' :: compactChars f.2

theorem compactFields_cons (f : String × Json) (fields : List (String × Json)) :
    compactFields (f :: fields) = fieldChars f ++ fields.flatMap fun g => ',' :: fieldChars g := by
  induction fields generalizing f with
  | nil => rw [compactFields, List.flatMap_nil, List.append_nil, fieldChars]
  | cons g fields ih =>
    show quoted f.1 ++ ':' :: compactChars f.2 ++ ',' :: compactFields (g :: fields) = _
    rw [ih]
    rfl

/-- The end of an object begins no name. -/
theorem fieldChars_append_ne (f : String × Json) (rest cs : List Char) : fieldChars f ++ rest ≠ '\x7d' :: cs := by
  rintro ⟨⟩

/-- A field ends where its value ends. -/
theorem EndsAlone.field {f : String × Json} (h : EndsAlone compactChars f.2) : EndsAlone fieldChars f := by
  intro g rest rest' hrest hrest' heq
  simp only [fieldChars, List.append_assoc, List.cons_append] at heq
  obtain ⟨hname, htail⟩ := quoted_append_inj heq
  obtain ⟨hvalue, hsame⟩ := h g.2 rest rest' hrest hrest' (List.tail_eq_of_cons_eq htail)
  exact ⟨Prod.ext hname hvalue, hsame⟩

/-! ### Values -/

mutual

/-- **A value ends at one place only**, whatever follows, and no other value has its characters. The induction is on
the value; the first character decides which shape the other one has. -/
theorem endsAlone_compactChars (v : Json) : EndsAlone compactChars v := by
  intro w rest rest' hrest hrest' h
  have hshape := shape_eq_of_append_eq h
  match v, w, hshape with
  | .null, .null, _ | .bool true, .bool true, _ | .bool false, .bool false, _ =>
    exact ⟨rfl, List.append_cancel_left h⟩
  | .int n, w, hshape => exact number_append_inj rfl hshape.symm hrest hrest' h
  | .decimal m e, w, hshape => exact number_append_inj rfl hshape.symm hrest hrest' h
  | .str s, .str s', _ => exact (quoted_append_inj h).imp_left (congrArg Json.str)
  | .arr items, .arr items', _ =>
    simp only [compactChars, List.cons_append, List.append_assoc, List.nil_append, List.cons.injEq, true_and] at h
    exact (listed_append_inj (by decide) (by decide) compactChars_append_ne rfl compactItems_cons
      (endsAlone_items items) h).imp_left (congrArg Json.arr)
  | .obj fields, .obj fields', _ =>
    simp only [compactChars, List.cons_append, List.append_assoc, List.nil_append, List.cons.injEq, true_and] at h
    exact (listed_append_inj (by decide) (by decide) fieldChars_append_ne rfl compactFields_cons
      (endsAlone_fields fields) h).imp_left (congrArg Json.obj)

theorem endsAlone_items (items : List Json) : ∀ v ∈ items, EndsAlone compactChars v := by
  match items with
  | [] => exact List.forall_mem_nil _
  | v :: rest => exact List.forall_mem_cons.2 ⟨endsAlone_compactChars v, endsAlone_items rest⟩

theorem endsAlone_fields (fields : List (String × Json)) : ∀ f ∈ fields, EndsAlone fieldChars f := by
  match fields with
  | [] => exact List.forall_mem_nil _
  | (name, v) :: rest =>
    exact List.forall_mem_cons.2 ⟨.field (endsAlone_compactChars v), endsAlone_fields rest⟩

end

/-- **Different values have different compact forms.** -/
theorem compact_inj {v w : Json} : v.compact = w.compact ↔ v = w := by
  constructor
  · intro h
    have hend : Delimited [] := fun c hc => nomatch hc
    rw [compact, compact, String.ofList_inj] at h
    exact (endsAlone_compactChars v w [] [] hend hend (by rw [h])).1
  · rintro rfl
    rfl

end StructuralDiff.Json
