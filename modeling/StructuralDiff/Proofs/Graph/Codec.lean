import Mathlib.Data.List.Induction
import Mathlib.Data.List.Nodup
import StructuralDiff.Graph.Codec
import StructuralDiff.Proofs.Json.Token

/-!
# Snapshots in JSON and back

The stored form of a snapshot stands for the snapshot, whatever texts it holds, as long as its line numbers
fit into 32 bits.

* `Json.record?_obj`: an object with exactly the fields of a record is one.
* `Metadata.ofList_entries`: attributes in the order of their keys are the attributes.
* `Snapshot.ofJson?_toJson`: the stored form of a snapshot is decoded as the snapshot.
* `Snapshot.readsBack_toJson`: the stored form of a snapshot is a value that reads back.
-/

namespace StructuralDiff

namespace Json

/-! ### Records, lists and absent values -/

/-- An object with exactly the fields of a record, in any order of its own, is a record. -/
theorem record?_obj {names : List String} {fields : List (String × Json)}
    (hnames : fields.map Prod.fst = names) (hnodup : names.Nodup) :
    record? names (.obj fields) = some ⟨fields⟩ := by
  have hknown : (fields.filter fun field => names.contains field.1) = fields := by
    rw [List.filter_eq_self]
    intro field hfield
    rw [← hnames, List.contains_iff_mem]
    exact List.mem_map_of_mem hfield
  have honce : (fields.any fun field => decide (1 < fields.countP (·.1 == field.1))) = false := by
    rw [List.any_eq_false]
    intro field _
    rw [decide_eq_true_eq, Nat.not_lt]
    have hcount : fields.countP (·.1 == field.1) = names.count field.1 := by
      rw [← hnames, List.count, List.countP_map]
      rfl
    rw [hcount]
    exact List.nodup_iff_count_le_one.1 hnodup field.1
  simp only [record?, hknown, honce, Bool.false_eq_true, if_false]

theorem Fields.get?_cons {α : Type} (field : String × Json) (fields : List (String × Json)) (name : String)
    (decode : Json → Option α) : (⟨field :: fields⟩ : Fields).get? name decode =
      if name = field.1 then decode field.2 else (⟨fields⟩ : Fields).get? name decode := by
  rw [Fields.get?, Fields.get?, List.lookup_cons]
  by_cases hname : name = field.1
  · simp [hname]
  · have hne : (name == field.1) = false := by simpa using hname
    rw [hne, if_neg hname]

theorem mapM_map_eq_some {α β : Type} {encode : α → β} {decode : β → Option α} (items : List α)
    (h : ∀ a ∈ items, decode (encode a) = some a) : (items.map encode).mapM decode = some items := by
  induction items with
  | nil => rfl
  | cons a rest ih =>
    rw [List.forall_mem_cons] at h
    rw [List.map_cons, List.mapM_cons, h.1, ih h.2]
    rfl

theorem list?_ofList {α : Type} {encode : α → Json} {decode : Json → Option α} (items : List α)
    (h : ∀ a ∈ items, decode (encode a) = some a) : (ofList encode items).list? decode = some items :=
  mapM_map_eq_some items h

theorem option?_text (text : Option String) : (ofOption .str text).option? text? = some text := by
  cases text <;> rfl

theorem nat32?_nat {n : Nat} (h : n < Bound.nat32) : nat32? (.nat n) = some n := by
  rw [nat32?, nat, below?, if_pos (by simpa using Int.ofNat_lt.2 h)]
  rfl

theorem option?_nat {n : Option Nat} (h : ∀ line ∈ n, line < Bound.nat32) :
    (ofOption .nat n).option? nat32? = some n := by
  cases n with
  | none => rfl
  | some n =>
    show (nat32? (.nat n)).map some = _
    rw [nat32?_nat (h n rfl)]
    rfl

/-! ### What reads back -/

theorem itemsReadBack_iff {room : Nat} {items : List Json} :
    ItemsReadBack room items ↔ ∀ v ∈ items, ReadsBack room v := by
  induction items with
  | nil => simp [ItemsReadBack]
  | cons v rest ih => rw [ItemsReadBack, ih, List.forall_mem_cons]

theorem fieldsReadBack_iff {room : Nat} {fields : List (String × Json)} :
    FieldsReadBack room fields ↔ ∀ field ∈ fields, ReadsBack room field.2 := by
  induction fields with
  | nil => simp [FieldsReadBack]
  | cons field rest ih => rw [FieldsReadBack, ih, List.forall_mem_cons]

theorem readsBack_str (room : Nat) (text : String) : ReadsBack room (.str text) := by
  cases room <;> trivial

theorem readsBack_text (room : Nat) (text : Option String) : ReadsBack room (ofOption .str text) := by
  cases text <;> cases room <;> trivial

theorem readsBack_nat (room : Nat) {n : Nat} (h : n < Bound.nat32) : ReadsBack room (.nat n) := by
  have hbound : (0 : Int) ≤ n ∧ (n : Int) < Bound.nat64 := by
    simp only [Bound.nat32] at h
    simp only [Bound.nat64]
    omega
  cases room <;> exact hbound

theorem readsBack_line (room : Nat) {n : Option Nat} (h : ∀ line ∈ n, line < Bound.nat32) :
    ReadsBack room (ofOption .nat n) := by
  cases n with
  | none => cases room <;> trivial
  | some n => exact readsBack_nat room (h n rfl)

theorem readsBack_ofList {α : Type} {encode : α → Json} {room : Nat} (items : List α)
    (h : ∀ a ∈ items, ReadsBack room (encode a)) : ReadsBack (room + 1) (ofList encode items) :=
  itemsReadBack_iff.2 (List.forall_mem_map.2 h)

end Json

namespace Metadata

theorem insertEntry_concat {key value : String} {entries : List (String × String)}
    (h : ∀ entry ∈ entries, Text.order entry.1 key = .lt) :
    insertEntry key value entries = entries ++ [(key, value)] := by
  induction entries with
  | nil => rfl
  | cons entry rest ih =>
    rw [List.forall_mem_cons] at h
    have hgt : Text.order key entry.1 = .gt := Text.order_eq_gt_iff.2 h.1
    rw [insertEntry, hgt]
    show _ :: insertEntry key value rest = _
    rw [ih h.2, List.cons_append]

/-- **Attributes in the order of their keys** are the attributes that they are. -/
theorem ofList_entries (m : Metadata) : ofList m.entries = m := by
  have hentries : ∀ entries : List (String × String), KeysIncrease entries →
      (ofList entries).entries = entries := by
    intro entries
    induction entries using List.reverseRecOn with
    | nil => exact fun _ => rfl
    | append_singleton entries entry ih =>
      intro h
      obtain ⟨hbefore, -, hbelow⟩ := List.pairwise_append.1 h
      rw [ofList, List.foldl_append]
      show insertEntry entry.1 entry.2 (ofList entries).entries = _
      rw [ih hbefore]
      exact insertEntry_concat fun other hother => hbelow other hother entry (List.mem_singleton_self entry)
  cases m with
  | mk entries increasing =>
    have h := hentries entries increasing
    cases hlist : ofList entries with
    | mk written _ =>
      rw [hlist] at h
      cases h
      rfl

theorem ofJson?_toJson (m : Metadata) : ofJson? m.toJson = some m := by
  have hmap : m.toJson.map? Json.text? = some m.entries :=
    Json.mapM_map_eq_some m.entries fun _ _ => rfl
  rw [ofJson?, hmap, Option.map_some, ofList_entries]

theorem readsBack_toJson (m : Metadata) (room : Nat) : Json.ReadsBack (room + 1) m.toJson := by
  refine Json.fieldsReadBack_iff.2 fun field hfield => ?_
  obtain ⟨entry, -, rfl⟩ := List.mem_map.1 hfield
  exact Json.readsBack_str room entry.2

end Metadata

/-- The line numbers of a node fit into 32 bits. -/
structure Node.LinesFit (node : Node) : Prop where
  startLine : ∀ line ∈ node.startLine, line < Bound.nat32
  endLine : ∀ line ∈ node.endLine, line < Bound.nat32

/-- The line numbers of all nodes of a snapshot fit into 32 bits. -/
def Snapshot.LinesFit (snapshot : Snapshot) : Prop :=
  ∀ node ∈ snapshot.nodes, node.LinesFit

/-! ### Nodes, edges and snapshots -/

theorem Node.ofJson?_toJson {node : Node} (h : node.LinesFit) : ofJson? node.toJson = some node := by
  have hrecord : node.toJson.record? fieldNames = some ⟨_⟩ := Json.record?_obj rfl (by decide)
  simp [ofJson?, hrecord, Json.Fields.get?, Json.Fields.getOption?, List.lookup_cons, Json.text?,
    Json.enum?, Json.variant?, NodeKind.ofName?_name, Language.ofName?_name, Json.option?_text,
    Json.option?_nat h.startLine, Json.option?_nat h.endLine, Metadata.ofJson?_toJson]

theorem Edge.ofJson?_toJson (edge : Edge) : ofJson? edge.toJson = some edge := by
  have hrecord : edge.toJson.record? fieldNames = some ⟨_⟩ := Json.record?_obj rfl (by decide)
  simp [ofJson?, hrecord, Json.Fields.get?, Json.Fields.getOption?, List.lookup_cons, Json.text?,
    Json.enum?, Json.variant?, EdgeKind.ofName?_name, Json.option?_text, Metadata.ofJson?_toJson]

/-- **The stored form of a snapshot is decoded as the snapshot.** -/
theorem Snapshot.ofJson?_toJson {snapshot : Snapshot} (h : snapshot.LinesFit) :
    ofJson? snapshot.toJson = some snapshot := by
  have hrecord : snapshot.toJson.record? fieldNames = some ⟨_⟩ := Json.record?_obj rfl (by decide)
  have hnodes := Json.list?_ofList snapshot.nodes fun node hnode => Node.ofJson?_toJson (h node hnode)
  have hedges := Json.list?_ofList snapshot.edges fun edge _ => edge.ofJson?_toJson
  simp [ofJson?, hrecord, Json.Fields.get?, List.lookup_cons, Json.text?, hnodes, hedges]

/-! ### Room for the stored form -/

theorem Node.readsBack_toJson {node : Node} (h : node.LinesFit) (room : Nat) :
    Json.ReadsBack (room + 2) node.toJson := by
  refine Json.fieldsReadBack_iff.2 ?_
  simp only [List.forall_mem_cons, Json.readsBack_str, Json.readsBack_text, node.metadata.readsBack_toJson,
    Json.readsBack_line _ h.startLine, Json.readsBack_line _ h.endLine, true_and]
  exact fun _ hnone => nomatch hnone

theorem Edge.readsBack_toJson (edge : Edge) (room : Nat) : Json.ReadsBack (room + 2) edge.toJson := by
  refine Json.fieldsReadBack_iff.2 ?_
  simp only [List.forall_mem_cons, Json.readsBack_str, Json.readsBack_text, edge.metadata.readsBack_toJson,
    true_and]
  exact fun _ hnone => nomatch hnone

/-- **The stored form of a snapshot reads back**, in a text with room for four levels. -/
theorem Snapshot.readsBack_toJson {snapshot : Snapshot} (h : snapshot.LinesFit) (room : Nat) :
    Json.ReadsBack (room + 4) snapshot.toJson := by
  have hnodes := Json.readsBack_ofList snapshot.nodes fun node hnode =>
    Node.readsBack_toJson (h node hnode) room
  have hedges := Json.readsBack_ofList snapshot.edges fun edge _ => edge.readsBack_toJson room
  refine Json.fieldsReadBack_iff.2 ?_
  simp only [List.forall_mem_cons, Json.readsBack_str, hnodes, hedges, true_and]
  exact fun _ hnone => nomatch hnone

end StructuralDiff
