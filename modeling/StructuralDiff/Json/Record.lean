import StructuralDiff.Bound
import StructuralDiff.Json.Basic

/-!
# Records in JSON

How records, enumerations and numbers of a fixed width are taken from JSON values. A record is an object
with at least the named fields, none of them twice, or an array of all its fields in order.
-/

namespace StructuralDiff.Json

/-- The text of a string. -/
def text? : Json → Option String
  | .str s => some s
  | _ => none

/-- The value of `true` and `false`. -/
def bool? : Json → Option Bool
  | .bool b => some b
  | _ => none

/-- A whole number below a bound. -/
def below? (bound : Nat) : Json → Option Nat
  | .int n => if 0 ≤ n && n < (bound : Int) then some n.toNat else none
  | _ => none

/-- A whole number of 32 bits. -/
def nat32? : Json → Option Nat := below? Bound.nat32

/-- A whole number of 64 bits. -/
def nat64? : Json → Option Nat := below? Bound.nat64

/-- A signed number of 64 bits. -/
def int64? : Json → Option Int
  | .int n => if Bound.fitsInt64 n then some n else none
  | _ => none

/-- A list of values. -/
def list? {α : Type} (decode : Json → Option α) : Json → Option (List α)
  | .arr items => items.mapM decode
  | _ => none

/-- A value, or `null` for none. -/
def option? {α : Type} (decode : Json → Option α) : Json → Option (Option α)
  | .null => some none
  | v => (decode v).map some

/-- The fields of a map; of a repeated name the last value counts. -/
def map? {α : Type} (decode : Json → Option α) : Json → Option (List (String × α))
  | .obj fields => fields.mapM fun (name, v) => (decode v).map (name, ·)
  | _ => none

/-- The name of an alternative without a payload. -/
def variant? : Json → Option String
  | .str name => some name
  | .obj [(name, .null)] => some name
  | _ => none

/-- One of several alternatives, by its name. -/
def enum? {α : Type} (ofName? : String → Option α) (v : Json) : Option α :=
  v.variant?.bind ofName?

/-- The fields of a record with the given names. -/
structure Fields where
  entries : List (String × Json)

/-- The fields of a record, from an object or from an array in the order of the names. -/
def record? (names : List String) : Json → Option Fields
  | .obj fields =>
    let known := fields.filter fun (name, _) => names.contains name
    if known.any fun (name, _) => 1 < known.countP (·.1 == name) then none else some ⟨known⟩
  | .arr items => if items.length == names.length then some ⟨names.zip items⟩ else none
  | _ => none

/-- A field that has to be present. -/
def Fields.get? {α : Type} (fields : Fields) (name : String) (decode : Json → Option α) : Option α :=
  (fields.entries.lookup name).bind decode

/-- A field that may be absent or `null`. -/
def Fields.getOption? {α : Type} (fields : Fields) (name : String) (decode : Json → Option α) :
    Option (Option α) :=
  match fields.entries.lookup name with
  | none => some none
  | some v => v.option? decode

end StructuralDiff.Json
