import Mathlib.Data.List.TakeWhile
import StructuralDiff.Json.Token

/-!
# The tokens of what is written

The characters of a written value are cut into the tokens of the value again. A number and a word only end
at the character after them, so what follows a value has to begin with neither.

* `number?_intText`: the digits of a whole number are read as the number.
* `tokensFrom_quoted`: the characters of a string are read as the string.
* `tokensFrom_prettyChars`: the form on many lines has the tokens of the value.
-/

namespace StructuralDiff.Json

/-! ### Numbers -/

theorem digitsValue_eq (digits : List Char) : digitsValue digits = Nat.ofDigitChars 10 digits 0 := by
  rw [digitsValue, Nat.ofDigitChars_eq_foldl]
  rfl

theorem digitsValue_toDigits (n : Nat) : digitsValue (Nat.toDigits 10 n) = n := by
  rw [digitsValue_eq, Nat.ofDigitChars_toDigits (by decide) (by decide)]

theorem isDigit_of_mem_toDigits {n : Nat} {c : Char} (h : c ∈ Nat.toDigits 10 n) : c.isDigit = true :=
  Nat.isDigit_of_mem_toDigits (by decide) (by decide) h

/-- A number of more than one digit does not begin with a zero. -/
theorem head?_toDigits_ne (n : Nat) (h : (Nat.toDigits 10 n).length ≠ 1) :
    (Nat.toDigits 10 n).head? ≠ some '0' := by
  induction n using Nat.strongRecOn with
  | _ n ih =>
    by_cases hlt : n < 10
    · rw [Nat.toDigits_of_lt_base hlt] at h
      exact absurd rfl h
    · rw [Nat.toDigits_of_base_le (by decide) (Nat.le_of_not_lt hlt)]
      by_cases hone : (Nat.toDigits 10 (n / 10)).length = 1
      · -- The first of two digits is the quotient, which is not zero.
        have hquotient : n / 10 < 10 := by
          by_contra hge
          have hlength := Nat.length_toDigits_pos (b := 10) (n := n / 10 / 10)
          rw [Nat.toDigits_of_base_le (by decide) (Nat.le_of_not_lt hge), List.length_append] at hone
          simp only [List.length_singleton] at hone
          omega
        rw [Nat.toDigits_of_lt_base hquotient, List.singleton_append, List.head?_cons]
        have hpos : 0 < n / 10 := Nat.div_pos (Nat.le_of_not_lt hlt) (by decide)
        have hdigits : ∀ d < 10, 0 < d → some (Nat.digitChar d) ≠ some '0' := by decide
        exact hdigits _ hquotient hpos
      · have hsome : (Nat.toDigits 10 (n / 10)).head?.isSome := by
          rw [List.isSome_head?]
          exact Nat.toDigits_ne_nil
        rw [List.head?_append, Option.or_of_isSome hsome]
        exact ih (n / 10) (Nat.div_lt_self (by omega) (by decide)) hone

/-- Digits alone are a whole number. -/
theorem number?_digits {n : Nat} (h : n < Bound.nat64) :
    number? (Nat.toDigits 10 n) = some (.int n) := by
  have hall : ∀ c ∈ Nat.toDigits 10 n, c.isDigit = true := fun c => isDigit_of_mem_toDigits
  have hhead : (Nat.toDigits 10 n).head? ≠ some '-' := by
    intro hsign
    exact absurd (hall '-' (List.mem_of_mem_head? hsign)) (by decide)
  have hzero : ((Nat.toDigits 10 n).isEmpty ||
      ((Nat.toDigits 10 n).length != 1 && (Nat.toDigits 10 n).head? == some '0')) = false := by
    rw [Bool.or_eq_false_iff, List.isEmpty_eq_false_iff]
    refine ⟨Nat.toDigits_ne_nil, ?_⟩
    by_cases hlength : (Nat.toDigits 10 n).length = 1
    · simp [hlength]
    · simpa [hlength] using head?_toDigits_ne n hlength
  rw [number?]
  simp only [beq_eq_false_iff_ne.2 hhead, Bool.false_eq_true, if_false, List.takeWhile_eq_self_iff.2 hall,
    List.dropWhile_eq_nil_iff.2 hall, hzero, List.append_nil, digitsValue_toDigits]
  have hbelow : (n : Int) < (Bound.nat64 : Int) := by exact_mod_cast h
  have habove : -(Bound.int64 : Int) ≤ (n : Int) := by simp [Bound.int64]
  simp [hbelow, habove]

/-! ### One token after the other -/

section Tokens

variable {found : List Token} {rest : List Char}

/-- What follows can be no part of a number or a word. -/
def Delimited (rest : List Char) : Prop :=
  ∀ c ∈ rest.head?, numberChar c = false ∧ c.isAlpha = false

theorem delimited_cons {c : Char} (h : numberChar c = false ∧ c.isAlpha = false) :
    Delimited (c :: rest) := by
  intro d hd
  rw [List.head?_cons, Option.mem_def, Option.some.injEq] at hd
  exact hd ▸ h

/-- A character that completes no token. -/
theorem tokensFrom_cons {s t : Scan} {c : Char} (h : scan? s c = some (t, [])) :
    tokensFrom s found (c :: rest) = tokensFrom t found rest := by
  rw [tokensFrom, h]
  rfl

/-- A mark is a token on its own. -/
theorem tokensFrom_mark {c : Char} {t : Token} (h : begin? c = some (.between, [t])) :
    tokensFrom .between found (c :: rest) = tokensFrom .between (t :: found) rest := by
  rw [tokensFrom, scan?, h]
  rfl

/-- A scalar is complete at the character that can be no part of it. -/
theorem tokensFrom_of_complete {s : Scan} {v : Json} (hend : finish? s = some [.scalar v])
    (hnext : ∀ c ∈ rest.head?, scan? s c = (begin? c).map fun (s, ts) => (s, .scalar v :: ts)) :
    tokensFrom s found rest = tokensFrom .between (.scalar v :: found) rest := by
  cases rest with
  | nil => rw [tokensFrom, tokensFrom, hend]; rfl
  | cons c rest =>
    have hbetween : scan? .between c = begin? c := rfl
    rw [tokensFrom, tokensFrom, hnext c rfl, hbetween]
    cases begin? c with
    | none => rfl
    | some read => simp

theorem tokensFrom_number {done : List Char} {v : Json} (h : number? done.reverse = some v)
    (hrest : Delimited rest) :
    tokensFrom (.number done) found rest = tokensFrom .between (.scalar v :: found) rest := by
  refine tokensFrom_of_complete (by rw [finish?, h]; rfl) fun c hc => ?_
  rw [scan?, (hrest c hc).1, h]
  rfl

theorem tokensFrom_word (done : List Char) {v : Json} (h : word? done.reverse = some v)
    (hrest : Delimited rest) :
    tokensFrom (.word done) found rest = tokensFrom .between (.scalar v :: found) rest := by
  refine tokensFrom_of_complete (by rw [finish?, h]; rfl) fun c hc => ?_
  rw [scan?, (hrest c hc).2, h]
  rfl

theorem tokensFrom_digits {digits done : List Char} (h : ∀ c ∈ digits, c.isDigit = true) :
    tokensFrom (.number done) found (digits ++ rest) =
      tokensFrom (.number (digits.reverse ++ done)) found rest := by
  induction digits generalizing done with
  | nil => rfl
  | cons c digits ih =>
    rw [List.forall_mem_cons] at h
    have hscan : scan? (.number done) c = some (.number (c :: done), []) := by
      rw [scan?, numberChar, h.1]
      rfl
    rw [List.cons_append, tokensFrom_cons hscan, ih h.2, List.reverse_cons, List.append_assoc]
    rfl

/-- A digit begins a number. -/
theorem begin?_digit {c : Char} (h : c.isDigit = true) : begin? c = some (.number [c], []) := by
  have hne : ∀ d : Char, d.isDigit = false → c ≠ d := by
    rintro d hd rfl
    rw [h] at hd
    cases hd
  rw [begin?]
  · rw [h, Bool.or_true, if_pos rfl]
  all_goals exact hne _ (by decide)

/-- **The digits of a number are read as the number.** -/
theorem tokensFrom_nat {n : Nat} (h : n < Bound.nat64) (hrest : Delimited rest) :
    tokensFrom .between found (Nat.toDigits 10 n ++ rest) =
      tokensFrom .between (.scalar (.nat n) :: found) rest := by
  obtain ⟨d, ds, hdigits⟩ := List.exists_cons_of_ne_nil (@Nat.toDigits_ne_nil n 10)
  have hall : ∀ c ∈ Nat.toDigits 10 n, c.isDigit = true := fun c => isDigit_of_mem_toDigits
  have hnumber := number?_digits h
  rw [hdigits] at hall hnumber ⊢
  rw [List.forall_mem_cons] at hall
  have hbegin : scan? .between d = some (.number [d], []) := begin?_digit hall.1
  rw [List.cons_append, tokensFrom_cons hbegin, tokensFrom_digits hall.2]
  exact tokensFrom_number (by simpa [nat] using hnumber) hrest

/-! ### Strings -/

theorem hexValue?_hexDigit : ∀ d < 16, hexValue? (hexDigit d) = some d := by
  decide

/-- A control character is read from its code. -/
theorem tokensFrom_controlCode {c : Char} (h : c.toNat < 0x20) (done : List Char) :
    tokensFrom (.string done) found
        ('\\' :: 'u' :: '0' :: '0' :: hexDigit (c.toNat / 16) :: hexDigit (c.toNat % 16) :: rest) =
      tokensFrom (.string (c :: done)) found rest := by
  have hhigh : scan? (.unit done none 2 0) (hexDigit (c.toNat / 16)) =
      some (.unit done none 1 (c.toNat / 16), []) := by
    rw [scan?, hexValue?_hexDigit _ (by omega)]
    simp
  have hlow : scan? (.unit done none 1 (c.toNat / 16)) (hexDigit (c.toNat % 16)) =
      some (.string (c :: done), []) := by
    have hcode : 16 * (c.toNat / 16) + c.toNat % 16 = c.toNat := by omega
    rw [scan?, hexValue?_hexDigit _ (by omega), Option.bind_some, if_pos le_rfl, hcode, endUnit?,
      if_neg (by simp; omega), if_neg (by simp; omega), Char.ofNat_toNat]
    rfl
  -- The first four characters lead to a code with two digits to come.
  show tokensFrom (.unit done none 2 0) found _ = _
  rw [tokensFrom_cons hhigh, tokensFrom_cons hlow]

/-- A character without an escape is read as it stands. -/
theorem scan?_string {c : Char} (hquote : c ≠ '"') (hbackslash : c ≠ '\\') (h : ¬c.toNat < 0x20)
    (done : List Char) : scan? (.string done) c = some (.string (c :: done), []) := by
  rw [scan?, if_neg (by simpa using hquote), if_neg (by simpa using hbackslash), if_neg h]

/-- **A character inside a string is read as it was.** -/
theorem tokensFrom_escapeChar (c : Char) (done : List Char) :
    tokensFrom (.string done) found (escapeChar c ++ rest) = tokensFrom (.string (c :: done)) found rest := by
  unfold escapeChar
  split
  iterate 7 rfl
  next hquote hbackslash _ _ _ _ _ =>
    split
    · next hcontrol => exact tokensFrom_controlCode hcontrol done
    · next hplain => exact tokensFrom_cons (scan?_string hquote hbackslash hplain done)

theorem tokensFrom_escaped (chars done : List Char) :
    tokensFrom (.string done) found (chars.flatMap escapeChar ++ rest) =
      tokensFrom (.string (chars.reverse ++ done)) found rest := by
  induction chars generalizing done with
  | nil => rfl
  | cons c chars ih =>
    rw [List.flatMap_cons, List.append_assoc, tokensFrom_escapeChar, ih, List.reverse_cons, List.append_assoc]
    rfl

/-- **A quoted string is read as the string.** -/
theorem tokensFrom_quoted (text : String) :
    tokensFrom .between found (quoted text ++ rest) =
      tokensFrom .between (.scalar (.str text) :: found) rest := by
  rw [quoted, List.cons_append, List.cons_append, tokensFrom_cons (t := .string []) rfl, List.append_assoc,
    tokensFrom_escaped, List.append_nil]
  show tokensFrom .between (.scalar (.str (String.ofList text.toList.reverse.reverse)) :: found) rest = _
  rw [List.reverse_reverse, String.ofList_toList]

/-- Line breaks and blanks between tokens are dropped. -/
theorem tokensFrom_newline (level : Nat) :
    tokensFrom .between found (newline level ++ rest) = tokensFrom .between found rest := by
  rw [newline, List.cons_append, tokensFrom_cons (t := .between) rfl]
  induction 2 * level with
  | zero => rfl
  | succ n ih => rw [List.replicate_succ, List.cons_append, tokensFrom_cons (t := .between) rfl, ih]

end Tokens

/-! ### Values -/

mutual

/-- The tokens of a value. -/
def valueTokens : Json → List Token
  | .arr items => .openArr :: itemTokens items ++ [.closeArr]
  | .obj fields => .openObj :: fieldTokens fields ++ [.closeObj]
  | .null => [.scalar .null]
  | .bool b => [.scalar (.bool b)]
  | .int n => [.scalar (.int n)]
  | .decimal m e => [.scalar (.decimal m e)]
  | .str s => [.scalar (.str s)]

/-- The tokens of items with commas between them. -/
def itemTokens : List Json → List Token
  | [] => []
  | [v] => valueTokens v
  | v :: w :: rest => valueTokens v ++ .comma :: itemTokens (w :: rest)

/-- The tokens of fields with commas between them. -/
def fieldTokens : List (String × Json) → List Token
  | [] => []
  | [(name, v)] => .scalar (.str name) :: .colon :: valueTokens v
  | (name, v) :: w :: rest =>
    .scalar (.str name) :: .colon :: valueTokens v ++ .comma :: fieldTokens (w :: rest)

end

mutual

/-- A value that reads back: its numbers are whole and not negative, and fit into 64 bits, and containers are
nested at most `room` deep. -/
def ReadsBack : (room : Nat) → Json → Prop
  | _, .int n => 0 ≤ n ∧ n < Bound.nat64
  | _, .decimal _ _ => False
  | 0, .arr _ | 0, .obj _ => False
  | room + 1, .arr items => ItemsReadBack room items
  | room + 1, .obj fields => FieldsReadBack room fields
  | _, .null | _, .bool _ | _, .str _ => True

/-- All items read back. -/
def ItemsReadBack : (room : Nat) → List Json → Prop
  | _, [] => True
  | room, v :: rest => ReadsBack room v ∧ ItemsReadBack room rest

/-- The values of all fields read back. -/
def FieldsReadBack : (room : Nat) → List (String × Json) → Prop
  | _, [] => True
  | room, (_, v) :: rest => ReadsBack room v ∧ FieldsReadBack room rest

end

/-- A line break ends a number or a word. -/
theorem delimited_newline (level : Nat) (rest : List Char) : Delimited (newline level ++ rest) :=
  delimited_cons (by decide)

mutual

/-- **The form on many lines has the tokens of the value.** -/
theorem tokensFrom_prettyChars {room level : Nat} {v : Json} {found : List Token} {rest : List Char}
    (h : ReadsBack room v) (hrest : Delimited rest) :
    tokensFrom .between found (prettyChars level v ++ rest) =
      tokensFrom .between ((valueTokens v).reverse ++ found) rest := by
  match v with
  | .null => exact tokensFrom_word ['l', 'l', 'u', 'n'] rfl hrest
  | .bool true => exact tokensFrom_word ['e', 'u', 'r', 't'] rfl hrest
  | .bool false => exact tokensFrom_word ['e', 's', 'l', 'a', 'f'] rfl hrest
  | .int n =>
    rw [ReadsBack] at h
    obtain ⟨n, rfl⟩ := Int.eq_ofNat_of_zero_le h.1
    exact tokensFrom_nat (by exact_mod_cast h.2) hrest
  | .str s => exact tokensFrom_quoted s
  | .decimal m e => exact absurd h (by simp [ReadsBack])
  | .arr [] => rfl
  | .obj [] => rfl
  | .arr (v :: items) =>
    -- a container needs room, and what follows its items is a line break, which no word goes on over
    cases room with
    | zero => exact absurd h (by simp [ReadsBack])
    | succ room =>
      rw [ReadsBack] at h
      simp only [prettyChars, List.cons_append, List.append_assoc, List.nil_append]
      rw [tokensFrom_mark rfl, tokensFrom_prettyItems h (delimited_newline level _), tokensFrom_newline,
        tokensFrom_mark rfl]
      simp [valueTokens]
  | .obj (f :: fields) =>
    cases room with
    | zero => exact absurd h (by simp [ReadsBack])
    | succ room =>
      rw [ReadsBack] at h
      simp only [prettyChars, List.cons_append, List.append_assoc, List.nil_append]
      rw [tokensFrom_mark rfl, tokensFrom_prettyFields h (delimited_newline level _), tokensFrom_newline,
        tokensFrom_mark rfl]
      simp [valueTokens]

theorem tokensFrom_prettyItems {room level : Nat} {items : List Json} {found : List Token}
    {rest : List Char} (h : ItemsReadBack room items) (hrest : Delimited rest) :
    tokensFrom .between found (prettyItems level items ++ rest) =
      tokensFrom .between ((itemTokens items).reverse ++ found) rest := by
  match items with
  | [] => rfl
  | [v] =>
    rw [ItemsReadBack] at h
    rw [prettyItems, List.append_assoc, tokensFrom_newline, tokensFrom_prettyChars h.1 hrest]
    rfl
  | v :: w :: items =>
    rw [ItemsReadBack] at h
    rw [prettyItems, List.append_assoc, List.append_assoc, tokensFrom_newline,
      List.cons_append, tokensFrom_prettyChars h.1 (delimited_cons (by decide)), tokensFrom_mark rfl,
      tokensFrom_prettyItems h.2 hrest]
    simp [itemTokens]

theorem tokensFrom_prettyFields {room level : Nat} {fields : List (String × Json)} {found : List Token}
    {rest : List Char} (h : FieldsReadBack room fields) (hrest : Delimited rest) :
    tokensFrom .between found (prettyFields level fields ++ rest) =
      tokensFrom .between ((fieldTokens fields).reverse ++ found) rest := by
  match fields with
  | [] => rfl
  | [(name, v)] =>
    rw [FieldsReadBack] at h
    rw [prettyFields, List.append_assoc, List.append_assoc, tokensFrom_newline, tokensFrom_quoted,
      List.cons_append, tokensFrom_mark rfl, List.cons_append, tokensFrom_cons (t := .between) rfl,
      tokensFrom_prettyChars h.1 hrest]
    simp [fieldTokens]
  | (name, v) :: w :: fields =>
    rw [FieldsReadBack] at h
    rw [prettyFields, List.append_assoc, List.append_assoc, List.append_assoc, tokensFrom_newline,
      tokensFrom_quoted, List.cons_append, tokensFrom_mark rfl, List.cons_append,
      tokensFrom_cons (t := .between) rfl, List.cons_append,
      tokensFrom_prettyChars h.1 (delimited_cons (by decide)), tokensFrom_mark rfl,
      tokensFrom_prettyFields h.2 hrest]
    simp [fieldTokens]

end

end StructuralDiff.Json
