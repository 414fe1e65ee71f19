import StructuralDiff.Proofs.Graph.Codec
import StructuralDiff.Proofs.Json.Reader
import StructuralDiff.Proofs.Text.Utf8
import StructuralDiff.Store.Document

/-!
# Stored documents read back

* `StoredDocument.Proper`: what a document has to be for that.
* `StoredDocument.ofText?_text`: the text of a document is read as the document.
* `StoredDocument.ofBytes?_text`: so are the bytes of its text.
-/

namespace StructuralDiff.StoredDocument

/-- The numbers of a document fit into 32 bits, and it says when it was saved. -/
structure Proper (document : StoredDocument) : Prop where
  version : document.version < Bound.nat32
  moment : (Moment.ofText? document.savedAt).isSome
  lines : document.graph.LinesFit

variable {document : StoredDocument}

theorem momentText?_str (h : (Moment.ofText? document.savedAt).isSome) :
    momentText? (.str document.savedAt) = some document.savedAt := by
  obtain ⟨moment, hmoment⟩ := Option.isSome_iff_exists.1 h
  show (Moment.ofText? document.savedAt >>= fun _ => pure document.savedAt) = _
  rw [hmoment]
  rfl

theorem ofJson?_toJson (h : document.Proper) : ofJson? document.toJson = some document := by
  have hrecord : document.toJson.record? ["version", "savedAt", "graph"] = some ⟨_⟩ :=
    Json.record?_obj rfl (by decide)
  rw [ofJson?, hrecord, Option.bind_eq_bind, Option.bind_some]
  simp only [Json.Fields.get?_cons, Json.nat32?_nat h.version, momentText?_str h.moment,
    Snapshot.ofJson?_toJson h.lines, String.reduceEq, if_true, if_false]
  rfl

theorem readsBack_toJson (h : document.Proper) (room : Nat) : Json.ReadsBack (room + 5) document.toJson := by
  refine Json.fieldsReadBack_iff.2 ?_
  simp only [List.forall_mem_cons, Json.readsBack_nat _ h.version, Json.readsBack_str,
    Snapshot.readsBack_toJson h.lines room, true_and]
  exact List.forall_mem_nil _

/-- **The text of a document is read as the document.** -/
theorem ofText?_text (h : document.Proper) : ofText? document.text = some document := by
  rw [ofText?, text, Json.read?_pretty (readsBack_toJson h 122), Option.bind_some, ofJson?_toJson h]

/-- So are the bytes of its text. -/
theorem ofBytes?_text (h : document.Proper) :
    (Text.ofBytes? document.text.toUTF8).bind ofText? = some document := by
  have hbytes : Text.ofBytes? document.text.toUTF8 = some document.text := Text.ofBytes?_toByteArray _
  rw [hbytes, Option.bind_some, ofText?_text h]

/-- What is saved now is proper. -/
theorem proper_ofSnapshot {savedAt : String} {graph : Snapshot}
    (hmoment : (Moment.ofText? savedAt).isSome) (hlines : graph.LinesFit) :
    (ofSnapshot savedAt graph).Proper :=
  ⟨show Store.formatVersion < Bound.nat32 by decide, hmoment, hlines⟩

end StructuralDiff.StoredDocument
