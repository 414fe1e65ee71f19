import StructuralDiff.Json.Token

/-!
# Reading JSON

The tokens of a text drive a machine with a stack of open containers. A text is accepted when its tokens
complete exactly one value; containers may be nested 127 deep.
-/

namespace StructuralDiff.Json

/-- An open container; what it holds so far is in reverse. -/
inductive Frame where
  | arr (items : List Json)
  | obj (fields : List (String × Json)) (name : String)

/-- What the machine may read next. -/
inductive Expect where
  /-- A value. -/
  | value
  /-- A value, or the end of an array that is still empty. -/
  | firstItem
  /-- The name of a field. -/
  | name (fields : List (String × Json))
  /-- The name of a field, or the end of an object that is still empty. -/
  | firstName
  /-- The colon after a name. -/
  | colon (fields : List (String × Json)) (name : String)
  /-- A comma, or the end of the innermost container. -/
  | more
  /-- Nothing: the value is complete. -/
  | done (value : Json)

/-- The state of the machine. -/
structure Machine where
  stack : List Frame
  expect : Expect

/-- How deep containers may be nested. -/
def maxDepth : Nat := 127

/-- Puts a complete value where it belongs. -/
def deliver (v : Json) : List Frame → Machine
  | [] => ⟨[], .done v⟩
  | .arr items :: stack => ⟨.arr (v :: items) :: stack, .more⟩
  | .obj fields name :: stack => ⟨.obj ((name, v) :: fields) name :: stack, .more⟩

/-- Reads the first token of a value. -/
def openValue? (stack : List Frame) : Token → Option Machine
  | .scalar v => some (deliver v stack)
  | .openArr => if stack.length < maxDepth then some ⟨.arr [] :: stack, .firstItem⟩ else none
  | .openObj => if stack.length < maxDepth then some ⟨stack, .firstName⟩ else none
  | _ => none

/-- Reads one token. -/
def Machine.step? (m : Machine) (t : Token) : Option Machine :=
  match m.expect, t with
  | .value, t => openValue? m.stack t
  | .firstItem, .closeArr =>
    match m.stack with
    | .arr _ :: stack => some (deliver (.arr []) stack)
    | _ => none
  | .firstItem, t => openValue? m.stack t
  | .firstName, .closeObj => some (deliver (.obj []) m.stack)
  | .firstName, .scalar (.str name) => some ⟨m.stack, .colon [] name⟩
  | .name fields, .scalar (.str name) => some ⟨m.stack, .colon fields name⟩
  | .colon fields name, .colon => some ⟨.obj fields name :: m.stack, .value⟩
  | .more, .comma =>
    match m.stack with
    | .arr items :: stack => some ⟨.arr items :: stack, .value⟩
    | .obj fields _ :: stack => some ⟨stack, .name fields⟩
    | [] => none
  | .more, .closeArr =>
    match m.stack with
    | .arr items :: stack => some (deliver (.arr items.reverse) stack)
    | _ => none
  | .more, .closeObj =>
    match m.stack with
    | .obj fields _ :: stack => some (deliver (.obj fields.reverse) stack)
    | _ => none
  | _, _ => none

/-- Reads tokens one after the other. -/
def Machine.run? : Machine → List Token → Option Machine
  | m, [] => some m
  | m, t :: rest =>
    match m.step? t with
    | none => none
    | some m => m.run? rest

/-- The value of a text. -/
def read? (text : String) : Option Json :=
  match tokens text.toList with
  | none => none
  | some ts =>
    match (Machine.mk [] .value).run? ts with
    | some ⟨[], .done v⟩ => some v
    | _ => none

end StructuralDiff.Json
