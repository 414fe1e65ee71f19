import StructuralDiff.Proofs.Digest
import StructuralDiff.Proofs.Graph.Identifier
import StructuralDiff.Proofs.Json.Compact
import StructuralDiff.Proofs.Neighborhood.Derivation

/-!
# Keys of derivation inputs

The key of an input is a digest of its encoded form. The form says everything about the input, so that two inputs
only share a key when the hash function collides.

* `DerivationInput.toJson_inj`: the exchanged form of an input says the input.
* `DerivationInput.keysApart_of_not_collide`: without collisions, different inputs have different keys.
* `DerivationInput.contentKey_eq_iff`: the encoded bytes of an input say the input, and so does its key unless there
  is a collision.
-/

namespace StructuralDiff

/-! ### Parts of an input -/

namespace Json

theorem ofOption_inj {α : Type} {encode : α → Json} (hsome : ∀ a, encode a ≠ .null)
    (hinj : ∀ a b, encode a = encode b → a = b) {x y : Option α} :
    ofOption encode x = ofOption encode y ↔ x = y := by
  constructor
  · intro h
    match x, y with
    | none, none => rfl
    | none, some b => exact absurd h.symm (hsome b)
    | some a, none => exact absurd h (hsome a)
    | some a, some b => rw [hinj a b h]
  · rintro rfl
    rfl

theorem ofOption_nat_inj {x y : Option Nat} : ofOption nat x = ofOption nat y ↔ x = y :=
  @ofOption_inj Nat nat (fun _ => nofun) (fun _ _ h => Int.ofNat.inj (Json.int.inj h)) x y

theorem ofOption_str_inj {x y : Option String} : ofOption str x = ofOption str y ↔ x = y :=
  @ofOption_inj String str (fun _ => nofun) (fun _ _ => Json.str.inj) x y

theorem ofList_inj {α : Type} {encode : α → Json} (hinj : ∀ a b, encode a = encode b → a = b) {l l' : List α} :
    ofList encode l = ofList encode l' ↔ l = l' := by
  rw [ofList, ofList, Json.arr.injEq]
  exact (List.map_injective_iff.2 fun _ _ => hinj _ _).eq_iff

end Json

theorem Status.name_inj {a b : Status} (h : a.name = b.name) : a = b :=
  eq_of_name_eq ofName?_name h

theorem Relation.name_inj {a b : Relation} (h : a.name = b.name) : a = b :=
  eq_of_name_eq ofName?_name h

theorem ViewNode.toJson_inj (a b : ViewNode) (h : a.toJson = b.toJson) : a = b := by
  simp only [ViewNode.toJson, Json.obj.injEq, List.cons.injEq, Prod.mk.injEq, true_and, and_true, Json.str.injEq,
    Json.bool.injEq, Json.ofOption_nat_inj, Json.ofOption_str_inj] at h
  obtain ⟨hid, hlabel, hkind, hpath, hstart, hend, hstatus, hparent, hgroup, hbranch, hsymbol⟩ := h
  cases a
  cases b
  simp only [ViewNode.mk.injEq]
  exact ⟨hid, hlabel, hkind, hpath, hstart, hend, Status.name_inj hstatus, hparent, hgroup, hbranch, hsymbol⟩

theorem Json.ofOption_flowType_inj {x y : Option FlowType} :
    Json.ofOption (.str ·.name) x = Json.ofOption (.str ·.name) y ↔ x = y :=
  @Json.ofOption_inj FlowType (.str ·.name) (fun _ => nofun)
    (fun _ _ h => FlowType.name_inj (Json.str.inj h)) x y

theorem ViewEdge.toJson_inj (a b : ViewEdge) (h : a.toJson = b.toJson) : a = b := by
  simp only [ViewEdge.toJson, Json.obj.injEq, List.cons.injEq, Prod.mk.injEq, true_and, and_true, Json.str.injEq,
    Json.ofOption_flowType_inj] at h
  obtain ⟨hid, hsource, htarget, hrelation, hflowType, hstatus⟩ := h
  cases a
  cases b
  simp only [ViewEdge.mk.injEq]
  exact ⟨hid, hsource, htarget, Relation.name_inj hrelation, hflowType, Status.name_inj hstatus⟩

/-! ### Whole inputs -/

namespace DerivationInput

/-- **The exchanged form of an input says the input.** -/
theorem toJson_inj {a b : DerivationInput} (h : a.toJson = b.toJson) : a = b := by
  simp only [DerivationInput.toJson, Json.obj.injEq, List.cons.injEq, Prod.mk.injEq, true_and, and_true,
    Json.str.injEq, Json.bool.injEq, Json.ofList_inj ViewNode.toJson_inj, Json.ofList_inj ViewEdge.toJson_inj] at h
  cases a
  cases b
  simpa only [DerivationInput.mk.injEq] using h

/-- The bytes that the key of an input is a digest of. -/
def bytes (input : DerivationInput) : List UInt8 :=
  input.content.toUTF8.data.toList

/-- **The encoded bytes of an input say the input.** -/
theorem bytes_inj {a b : DerivationInput} : a.bytes = b.bytes ↔ a = b := by
  constructor
  · intro h
    rw [bytes, bytes, Array.toList_inj, ← ByteArray.ext_iff] at h
    have hcontent : a.content = b.content := String.toByteArray_inj.1 h
    rw [content, content, Json.compact_inj] at hcontent
    exact toJson_inj hcontent
  · rintro rfl
    rfl

theorem contentKey_eq (input : DerivationInput) : input.contentKey = (Digest.ofBytes input.bytes).hex := by
  rw [contentKey, Digest.ofText, bytes]

/-- The keys of inputs are apart when the digests of their bytes are. -/
theorem keysApart_of_not_collide {inputs : List DerivationInput}
    (h : ∀ a ∈ inputs, ∀ b ∈ inputs, ¬Digest.Collide a.bytes b.bytes) : KeysApart inputs := by
  intro a ha b hb hkey
  rw [contentKey_eq, contentKey_eq, Digest.hex_ofBytes_eq_iff] at hkey
  exact bytes_inj.1 (hkey.resolve_right (h a ha b hb))

/-- **Inputs only share a key in a collision.** The encoded bytes of two inputs are the same for the same input only;
and their keys are the same only if the inputs are, or else if their bytes differ and have the same digest. -/
theorem contentKey_eq_iff (a b : DerivationInput) :
    (a.bytes = b.bytes ↔ a = b) ∧
    (a.contentKey = b.contentKey ↔ a = b ∨ Digest.Collide a.bytes b.bytes) := by
  rw [contentKey_eq, contentKey_eq, Digest.hex_ofBytes_eq_iff, bytes_inj]
  exact ⟨Iff.rfl, Iff.rfl⟩

end DerivationInput

end StructuralDiff
