import StructuralDiff.Json.Reader
import StructuralDiff.Proofs.Json.Token

/-!
# Reading what was written

The tokens of a value drive the machine from where a value is expected to where the value has been delivered,
whatever containers are open. So a value is read from its form on many lines.

* `run?_valueTokens`: what the tokens of a value do.
* `read?_pretty`: reading inverts writing.
-/

namespace StructuralDiff.Json

section Steps

variable {stack : List Frame} {more : List Token}

theorem run?_cons {m n : Machine} {t : Token} (h : m.step? t = some n) :
    m.run? (t :: more) = n.run? more := by
  rw [Machine.run?, h]

theorem step?_openArr (h : stack.length < maxDepth) :
    (Machine.mk stack .value).step? .openArr = some ⟨.arr [] :: stack, .firstItem⟩ :=
  if_pos h

theorem step?_openObj (h : stack.length < maxDepth) :
    (Machine.mk stack .value).step? .openObj = some ⟨stack, .firstName⟩ :=
  if_pos h

/-- The tokens of a value begin with one that is no end of an array. -/
theorem run?_firstItem (v : Json) :
    (Machine.mk stack .firstItem).run? (valueTokens v ++ more) =
      (Machine.mk stack .value).run? (valueTokens v ++ more) := by
  cases v <;> rfl

end Steps

/-! ### Items and fields, one after the other -/

theorem itemTokens_cons (v : Json) (items : List Json) :
    itemTokens (v :: items) = valueTokens v ++ items.flatMap fun w => .comma :: valueTokens w := by
  induction items generalizing v with
  | nil => rw [itemTokens, List.flatMap_nil, List.append_nil]
  | cons w items ih => rw [itemTokens, ih, List.flatMap_cons, List.cons_append]

/-- A name with its colon, and a value. -/
def oneFieldTokens (f : String × Json) : List Token :=
  .scalar (.str f.1) :: .colon :: valueTokens f.2

theorem fieldTokens_cons (f : String × Json) (fields : List (String × Json)) :
    fieldTokens (f :: fields) = oneFieldTokens f ++ fields.flatMap fun g => .comma :: oneFieldTokens g := by
  induction fields generalizing f with
  | nil => rw [fieldTokens, List.flatMap_nil, List.append_nil, oneFieldTokens]
  | cons g fields ih =>
    rw [fieldTokens, ih, List.flatMap_cons, List.cons_append]
    rfl

mutual

/-- **The tokens of a value deliver the value**, when there is room for its containers. -/
theorem run?_valueTokens {room : Nat} {v : Json} {stack : List Frame} {more : List Token}
    (h : ReadsBack room v) (hroom : stack.length + room ≤ maxDepth) :
    (Machine.mk stack .value).run? (valueTokens v ++ more) = (deliver v stack).run? more := by
  match v, room with
  | .null, _ | .bool _, _ | .int _, _ | .decimal _ _, _ | .str _, _ => rfl
  | .arr _, 0 | .obj _, 0 => exact absurd h (by simp [ReadsBack])
  | .arr items, room + 1 =>
    rw [ReadsBack] at h
    rw [valueTokens, List.cons_append, List.cons_append, List.append_assoc, List.singleton_append,
      run?_cons (step?_openArr (by omega))]
    match items with
    | [] => rfl
    | v :: rest =>
      rw [ItemsReadBack] at h
      rw [itemTokens_cons, List.append_assoc, run?_firstItem,
        run?_valueTokens h.1 (by rw [List.length_cons]; omega)]
      exact run?_laterItems [v] h.2 (by omega)
  | .obj fields, room + 1 =>
    rw [ReadsBack] at h
    rw [valueTokens, List.cons_append, List.cons_append, List.append_assoc, List.singleton_append,
      run?_cons (step?_openObj (by omega))]
    match fields with
    | [] => rfl
    | (name, v) :: rest =>
      rw [FieldsReadBack] at h
      rw [fieldTokens_cons, List.append_assoc, oneFieldTokens, List.cons_append, List.cons_append,
        run?_cons (n := ⟨stack, .colon [] name⟩) rfl, run?_cons (n := ⟨.obj [] name :: stack, .value⟩) rfl,
        run?_valueTokens h.1 (by rw [List.length_cons]; omega)]
      exact run?_laterFields [(name, v)] h.2 (by omega)

/-- The other items and the end of their array deliver the array. -/
theorem run?_laterItems {room : Nat} {items : List Json} {stack : List Frame} {more : List Token}
    (done : List Json) (h : ItemsReadBack room items) (hroom : stack.length + 1 + room ≤ maxDepth) :
    (Machine.mk (.arr done :: stack) .more).run?
        ((items.flatMap fun w => .comma :: valueTokens w) ++ .closeArr :: more) =
      (deliver (.arr (done.reverse ++ items)) stack).run? more := by
  match items with
  | [] => rw [List.append_nil]; rfl
  | w :: rest =>
    rw [ItemsReadBack] at h
    rw [List.flatMap_cons, List.append_assoc, List.cons_append,
      run?_cons (n := ⟨.arr done :: stack, .value⟩) rfl,
      run?_valueTokens h.1 (by rw [List.length_cons]; omega), deliver,
      run?_laterItems _ h.2 hroom, List.reverse_cons, List.append_assoc, List.singleton_append]

/-- The other fields and the end of their object deliver the object. -/
theorem run?_laterFields {room : Nat} {fields : List (String × Json)} {last : String}
    {stack : List Frame} {more : List Token} (done : List (String × Json)) (h : FieldsReadBack room fields)
    (hroom : stack.length + 1 + room ≤ maxDepth) :
    (Machine.mk (.obj done last :: stack) .more).run?
        ((fields.flatMap fun g => .comma :: oneFieldTokens g) ++ .closeObj :: more) =
      (deliver (.obj (done.reverse ++ fields)) stack).run? more := by
  match fields with
  | [] => rw [List.append_nil]; rfl
  | (name, v) :: rest =>
    rw [FieldsReadBack] at h
    rw [List.flatMap_cons, List.append_assoc, List.cons_append, oneFieldTokens, List.cons_append,
      List.cons_append, run?_cons (n := ⟨stack, .name done⟩) rfl,
      run?_cons (n := ⟨stack, .colon done name⟩) rfl, run?_cons (n := ⟨.obj done name :: stack, .value⟩) rfl,
      run?_valueTokens h.1 (by rw [List.length_cons]; omega), deliver,
      run?_laterFields _ h.2 hroom, List.reverse_cons, List.append_assoc, List.singleton_append]

end

/-! ### Whole texts -/

theorem tokens_pretty {room : Nat} {v : Json} (h : ReadsBack room v) :
    tokens v.pretty.toList = some (valueTokens v) := by
  have hend : Delimited [] := fun c hc => nomatch hc
  have htokens : tokensFrom .between [] (prettyChars 0 v ++ []) =
      tokensFrom .between ((valueTokens v).reverse ++ []) [] := tokensFrom_prettyChars h hend
  rw [List.append_nil, List.append_nil] at htokens
  rw [tokens, pretty, String.toList_ofList, htokens, tokensFrom, finish?]
  simp

/-- **Reading inverts writing.** -/
theorem read?_pretty {v : Json} (h : ReadsBack maxDepth v) : read? v.pretty = some v := by
  have hrun : (Machine.mk [] .value).run? (valueTokens v ++ []) = (deliver v []).run? [] :=
    run?_valueTokens h (by simp)
  rw [List.append_nil] at hrun
  rw [read?, tokens_pretty h]
  simp only [hrun, deliver, Machine.run?]

end StructuralDiff.Json
