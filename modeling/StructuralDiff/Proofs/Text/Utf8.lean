import StructuralDiff.Text.Utf8

/-!
# Decoding what was encoded

Text that is encoded is read as it was, character by character.

* `decode_utf8EncodeChar`: the bytes of a character are read as the character.
* `ofBytes?_toByteArray`: the bytes of a text are the text.
* `zero_notMem_bytes`: there is no zero byte among them, unless the text holds the character.
-/

namespace StructuralDiff.Text

/-! ### Single bytes -/

theorem toNat_ofNat {n : Nat} (h : n < 256) : (UInt8.ofNat n).toNat = n :=
  UInt8.toNat_ofNat_of_lt' h

theorem leadByte_one {v : Nat} (h : v ≤ 127) : leadByte (.ofNat v) = some (0, 0x80, 0xbf, v) := by
  have hbyte : (UInt8.ofNat v).toNat = v := toNat_ofNat (by omega)
  have hlt : UInt8.ofNat v < 0x80 := by
    rw [UInt8.lt_iff_toNat_lt, hbyte]
    exact Nat.lt_succ_of_le h
  rw [leadByte, if_pos hlt, hbyte]

/-- What fits into one byte has no lead byte of two. -/
theorem leadByte_two : ∀ m < 32, leadByte (.ofNat (m + 192)) =
    if m < 2 then none else some (1, 0x80, 0xbf, m) := by
  decide

/-- The first continuation byte leaves out what fits into two bytes, and the surrogates. -/
theorem leadByte_three : ∀ m < 16, leadByte (.ofNat (m + 224)) =
    some (2, .ofNat (if m = 0 then 160 else 128), .ofNat (if m = 13 then 159 else 191), m) := by
  decide

/-- The first continuation byte leaves out what fits into three bytes, and what is no code point. -/
theorem leadByte_four : ∀ m < 5, leadByte (.ofNat (m + 240)) =
    some (3, .ofNat (if m = 0 then 144 else 128), .ofNat (if m = 4 then 143 else 191), m) := by
  decide

/-- A continuation byte holds six bits of the code point. -/
theorem tailBytes_cons {owed k payload lo hi : Nat} {rest : List UInt8} (hlo : lo ≤ k + 128)
    (hhi : k + 128 ≤ hi) (hbyte : hi < 256) :
    tailBytes (owed + 1) (.ofNat lo) (.ofNat hi) payload (.ofNat (k + 128) :: rest) =
      Prod.map id (· + 1) (tailBytes owed 0x80 0xbf (64 * payload + k) rest) := by
  have hk : (UInt8.ofNat (k + 128)).toNat = k + 128 := toNat_ofNat (by omega)
  have hrange : (decide (UInt8.ofNat lo ≤ .ofNat (k + 128)) &&
      decide (UInt8.ofNat (k + 128) ≤ .ofNat hi)) = true := by
    rw [Bool.and_eq_true, decide_eq_true_eq, decide_eq_true_eq, UInt8.le_iff_toNat_le,
      UInt8.le_iff_toNat_le, hk, toNat_ofNat hbyte, toNat_ofNat (by omega)]
    exact ⟨hlo, hhi⟩
  rw [tailBytes, if_pos hrange, hk, Nat.add_sub_cancel]
  rfl

/-- Any six bits can continue a character that has begun. -/
theorem tailBytes_cons_of_lt {owed k payload : Nat} {rest : List UInt8} (hk : k < 64) :
    tailBytes (owed + 1) 0x80 0xbf payload (.ofNat (k + 128) :: rest) =
      Prod.map id (· + 1) (tailBytes owed 0x80 0xbf (64 * payload + k) rest) :=
  tailBytes_cons (Nat.le_add_left _ _) (Nat.add_le_add_right (Nat.le_of_lt_succ hk) 128) (by decide)

/-! ### Characters -/

section Characters

variable {c : Char} {rest : List UInt8}

/-- A lead byte and its continuation are read as one character. -/
theorem decode_of_tailBytes {b lo hi : UInt8} {payload : Nat} {bytes : List UInt8}
    (hlead : leadByte b = some (bytes.length, lo, hi, payload))
    (htail : tailBytes bytes.length lo hi payload (bytes ++ rest) = (some c.val.toNat, bytes.length)) :
    decode (b :: bytes ++ rest) = some c :: decode rest := by
  rw [List.cons_append, decode, hlead]
  have hchar : Char.ofNat c.val.toNat = c := Char.ofNat_toNat c
  simp only [htail, List.drop_left, Option.map_some, hchar]

variable {v : Nat} (hv : c.val.toNat = v)

include hv

theorem decode_one (h : v ≤ 127) : decode ([.ofNat v] ++ rest) = some c :: decode rest := by
  refine decode_of_tailBytes (leadByte_one h) ?_
  rw [hv]
  rfl

theorem decode_two (h : ¬v ≤ 127) (h' : v ≤ 2047) :
    decode ([.ofNat (v / 64 % 32 + 192), .ofNat (v % 64 + 128)] ++ rest) = some c :: decode rest := by
  have hlead := leadByte_two (v / 64 % 32) (by omega)
  rw [if_neg (by omega)] at hlead
  refine decode_of_tailBytes hlead ?_
  have hcode : 64 * (v / 64 % 32) + v % 64 = v := by omega
  rw [List.length_singleton, List.singleton_append, tailBytes_cons_of_lt (by omega), tailBytes, hcode, hv]
  rfl

theorem decode_three (h : ¬v ≤ 2047) (h' : v ≤ 65535) :
    decode ([.ofNat (v / 4096 % 16 + 224), .ofNat (v / 64 % 64 + 128), .ofNat (v % 64 + 128)] ++ rest) =
      some c :: decode rest := by
  have hvalid : v < 0xd800 ∨ 0xdfff < v ∧ v < 0x110000 := hv ▸ c.valid
  refine decode_of_tailBytes (leadByte_three (v / 4096 % 16) (by omega)) ?_
  have hcode : 64 * (64 * (v / 4096 % 16) + v / 64 % 64) + v % 64 = v := by omega
  -- The code point is past the two bytes, and it is no surrogate.
  have hlo : (if v / 4096 % 16 = 0 then 160 else 128) ≤ v / 64 % 64 + 128 := by
    split <;> omega
  have hhi : v / 64 % 64 + 128 ≤ if v / 4096 % 16 = 13 then 159 else 191 := by
    split <;> omega
  have hbyte : (if v / 4096 % 16 = 13 then 159 else 191) < 256 := by
    split <;> decide
  rw [List.cons_append, List.singleton_append, List.length_cons, List.length_singleton,
    tailBytes_cons hlo hhi hbyte, tailBytes_cons_of_lt (by omega), tailBytes, hcode, hv]
  rfl

theorem decode_four (h : ¬v ≤ 65535) :
    decode ([.ofNat (v / 262144 % 8 + 240), .ofNat (v / 4096 % 64 + 128), .ofNat (v / 64 % 64 + 128),
      .ofNat (v % 64 + 128)] ++ rest) = some c :: decode rest := by
  have hvalid : v < 0xd800 ∨ 0xdfff < v ∧ v < 0x110000 := hv ▸ c.valid
  refine decode_of_tailBytes (leadByte_four (v / 262144 % 8) (by omega)) ?_
  have hcode : 64 * (64 * (64 * (v / 262144 % 8) + v / 4096 % 64) + v / 64 % 64) + v % 64 = v := by omega
  -- The code point is past the three bytes, and it is none of those that are too large.
  have hlo : (if v / 262144 % 8 = 0 then 144 else 128) ≤ v / 4096 % 64 + 128 := by
    split <;> omega
  have hhi : v / 4096 % 64 + 128 ≤ if v / 262144 % 8 = 4 then 143 else 191 := by
    split <;> omega
  have hbyte : (if v / 262144 % 8 = 4 then 143 else 191) < 256 := by
    split <;> decide
  rw [List.cons_append, List.cons_append, List.singleton_append, List.length_cons, List.length_cons,
    List.length_singleton, tailBytes_cons hlo hhi hbyte, tailBytes_cons_of_lt (by omega),
    tailBytes_cons_of_lt (by omega), tailBytes, hcode, hv]
  rfl

end Characters

/-- **The bytes of a character are read as the character.** -/
theorem decode_utf8EncodeChar (c : Char) (rest : List UInt8) :
    decode (String.utf8EncodeChar c ++ rest) = some c :: decode rest := by
  rw [String.utf8EncodeChar]
  split
  · next h => exact decode_one rfl h
  · next h =>
    split
    · next h' => exact decode_two rfl h h'
    · next h' =>
      split
      · next h'' => exact decode_three rfl h' h''
      · next h'' => exact decode_four rfl h''

theorem decode_flatMap (chars : List Char) :
    decode (chars.flatMap String.utf8EncodeChar) = chars.map some := by
  induction chars with
  | nil => rw [List.flatMap_nil, decode, List.map_nil]
  | cons c rest ih => rw [List.flatMap_cons, decode_utf8EncodeChar, ih, List.map_cons]

theorem mapM_map_some (chars : List Char) : (chars.map some).mapM id = some chars := by
  induction chars with
  | nil => rfl
  | cons c rest ih =>
    rw [List.map_cons, List.mapM_cons, ih]
    rfl

theorem bytes_eq_flatMap (text : String) :
    text.toByteArray.data.toList = text.toList.flatMap String.utf8EncodeChar := by
  rw [← String.utf8Encode_toList, List.utf8Encode]
  simp

/-- **The bytes of a text are the text.** -/
theorem ofBytes?_toByteArray (text : String) : ofBytes? text.toByteArray = some text := by
  rw [ofBytes?, bytes_eq_flatMap, decode_flatMap, mapM_map_some, Option.map_some, String.ofList_toList]

/-! ### Zero bytes -/

theorem ofNat_ne_zero {n : Nat} (hpos : 0 < n) (h : n < 256) : (0 : UInt8) ≠ UInt8.ofNat n := by
  intro hzero
  have hn := congrArg UInt8.toNat hzero
  rw [toNat_ofNat h] at hn
  exact absurd hn.symm (Nat.ne_of_gt hpos)

/-- Only the null character has a zero byte. -/
theorem zero_notMem_utf8EncodeChar {c : Char} (h : c ≠ '\x00') : (0 : UInt8) ∉ String.utf8EncodeChar c := by
  have hpos : 0 < c.val.toNat := by
    refine Nat.pos_of_ne_zero fun hzero => h (Char.ext (UInt32.toNat_inj.1 hzero))
  rw [String.utf8EncodeChar]
  split
  · next hone =>
    rw [List.mem_singleton]
    exact ofNat_ne_zero hpos (by omega)
  · split
    · simp only [List.mem_cons, List.not_mem_nil, or_false, not_or]
      exact ⟨ofNat_ne_zero (by omega) (by omega), ofNat_ne_zero (by omega) (by omega)⟩
    · split
      · simp only [List.mem_cons, List.not_mem_nil, or_false, not_or]
        exact ⟨ofNat_ne_zero (by omega) (by omega), ofNat_ne_zero (by omega) (by omega),
          ofNat_ne_zero (by omega) (by omega)⟩
      · simp only [List.mem_cons, List.not_mem_nil, or_false, not_or]
        exact ⟨ofNat_ne_zero (by omega) (by omega), ofNat_ne_zero (by omega) (by omega),
          ofNat_ne_zero (by omega) (by omega), ofNat_ne_zero (by omega) (by omega)⟩

/-- **A text without the null character has no zero byte.** -/
theorem zero_notMem_bytes {text : String} (h : '\x00' ∉ text.toList) :
    (0 : UInt8) ∉ text.toByteArray.data.toList := by
  rw [bytes_eq_flatMap, List.mem_flatMap]
  rintro ⟨c, hc, hzero⟩
  exact zero_notMem_utf8EncodeChar (fun hnull => h (hnull ▸ hc)) hzero

end StructuralDiff.Text
