import Mathlib.Data.List.Nodup
import StructuralDiff.Checkout
import StructuralDiff.Proofs.Digest
import StructuralDiff.Proofs.Graph.Identifier
import StructuralDiff.Proofs.Text.Utf8

/-!
# What the id of a checkout is a digest of

The records of the files follow each other without any length: a path, a zero byte and the bytes of a digest. A path
has no zero byte and a digest has 32 bytes, whatever they are, so that the records can be told apart.

* `inOrder_eq_of_perm`: files with different paths are put into one order only.
* `records_inj`: the records are known from the bytes.
* `content_eq_iff`: so the bytes say which paths there are, and the digest of the content of each.
-/

namespace StructuralDiff.Checkout

/-! ### The order of paths -/

section Order

variable {α β : Type}

/-- Things in the order of their paths. -/
def inOrder (l : List (String × α)) : List (String × α) :=
  l.mergeSort fun a b => Text.le a.1 b.1

theorem inOrder_perm (l : List (String × α)) : (inOrder l).Perm l :=
  List.mergeSort_perm l _

/-- **Things with different paths are put into one order only.** -/
theorem inOrder_eq_of_perm {l l' : List (String × α)} (h : l.Perm l') (hpaths : (l.map (·.1)).Nodup) :
    inOrder l = inOrder l' := by
  refine Text.sorted_eq_of_perm (fun a b c => ?_) (fun a b => ?_) h fun a ha b hb hab hba => ?_
  · exact Text.le_trans
  · exact Text.le_total a.1 b.1
  · exact List.inj_on_of_nodup_map hpaths ha hb (Text.le_antisymm hab hba)

theorem map_inOrder (f : α → β) (l : List (String × α)) :
    (inOrder l).map (Prod.map id f) = inOrder (l.map (Prod.map id f)) :=
  List.map_mergeSort fun _ _ _ _ => rfl

end Order

/-! ### Records -/

/-- The bytes of one file: its path, a zero byte and the digest of its content. -/
def record (entry : String × Digest) : List UInt8 :=
  entry.1.toUTF8.data.toList ++ 0 :: entry.2.bytes

/-- A path without the null character, and a digest of 32 bytes. -/
structure Recordable (entry : String × Digest) : Prop where
  nulFree : '\x00' ∉ entry.1.toList
  length_bytes : entry.2.bytes.length = 32

/-- **A record ends at one place only**: the first zero byte ends the path, and 32 bytes follow. -/
theorem record_append_inj {a b : String × Digest} (ha : Recordable a) (hb : Recordable b) {rest rest' : List UInt8}
    (h : record a ++ rest = record b ++ rest') : a = b ∧ rest = rest' := by
  rw [record, record, List.append_assoc, List.append_assoc] at h
  obtain ⟨hpath, htail⟩ := append_separator_inj (Text.zero_notMem_bytes ha.nulFree)
    (Text.zero_notMem_bytes hb.nulFree) h
  obtain ⟨hdigest, hrest⟩ := List.append_inj htail (ha.length_bytes.trans hb.length_bytes.symm)
  rw [Array.toList_inj, ← ByteArray.ext_iff] at hpath
  obtain ⟨path, ⟨bytes⟩⟩ := a
  obtain ⟨path', ⟨bytes'⟩⟩ := b
  obtain rfl : path = path' := String.toByteArray_inj.1 hpath
  obtain rfl : bytes = bytes' := hdigest
  exact ⟨rfl, hrest⟩

/-- **The records are known from the bytes.** -/
theorem records_inj {l l' : List (String × Digest)} (hl : ∀ entry ∈ l, Recordable entry)
    (hl' : ∀ entry ∈ l', Recordable entry) (h : l.flatMap record = l'.flatMap record) : l = l' := by
  have hne (entry : String × Digest) (rest : List UInt8) : record entry ++ rest ≠ [] := by
    simp [record]
  induction l generalizing l' with
  | nil =>
    cases l' with
    | nil => rfl
    | cons b l' =>
      rw [List.flatMap_cons] at h
      exact absurd h.symm (hne b _)
  | cons a l ih =>
    cases l' with
    | nil =>
      rw [List.flatMap_cons] at h
      exact absurd h (hne a _)
    | cons b l' =>
      rw [List.forall_mem_cons] at hl hl'
      rw [List.flatMap_cons, List.flatMap_cons] at h
      obtain ⟨rfl, hrest⟩ := record_append_inj hl.1 hl'.1 h
      rw [ih hl.2 hl'.2 hrest]

/-! ### Files -/

/-- The digest of the content of a file. -/
def digestOf (bytes : ByteArray) : Digest :=
  Digest.ofBytes bytes.data.toList

/-- What is recorded of files: their paths and the digests of their contents. -/
def fingerprints (files : List (String × ByteArray)) : List (String × Digest) :=
  files.map (Prod.map id digestOf)

theorem map_fst_fingerprints (files : List (String × ByteArray)) :
    (fingerprints files).map (·.1) = files.map (·.1) := by
  rw [fingerprints, List.map_map]
  rfl

theorem content_eq_flatMap (files : List (String × ByteArray)) :
    content files = (inOrder (fingerprints files)).flatMap record := by
  rw [fingerprints, ← map_inOrder, List.flatMap_map]
  rfl

/-- Files with different paths, none of which has the null character. -/
structure WellNamed (files : List (String × ByteArray)) : Prop where
  nodup : (files.map (·.1)).Nodup
  nulFree : ∀ file ∈ files, '\x00' ∉ file.1.toList

theorem WellNamed.recordable {files : List (String × ByteArray)} (h : WellNamed files) :
    ∀ entry ∈ inOrder (fingerprints files), Recordable entry := by
  intro entry hentry
  obtain ⟨file, hfile, rfl⟩ := List.mem_map.1 ((inOrder_perm _).mem_iff.1 hentry)
  exact ⟨h.nulFree file hfile, Digest.length_ofBytes _⟩

theorem content_eq_of_fingerprints {files files' : List (String × ByteArray)}
    (h : (fingerprints files).Perm (fingerprints files')) (hpaths : (files.map (·.1)).Nodup) :
    content files = content files' := by
  rw [← map_fst_fingerprints] at hpaths
  rw [content_eq_flatMap, content_eq_flatMap, inOrder_eq_of_perm h hpaths]

/-- **The bytes say which paths there are, and the digest of the content of each**, and nothing else. -/
theorem content_eq_iff {files files' : List (String × ByteArray)} (h : WellNamed files) (h' : WellNamed files') :
    content files = content files' ↔ (fingerprints files).Perm (fingerprints files') := by
  refine ⟨fun hbytes => ?_, fun hperm => content_eq_of_fingerprints hperm h.nodup⟩
  rw [content_eq_flatMap, content_eq_flatMap] at hbytes
  have hsorted := records_inj h.recordable h'.recordable hbytes
  exact (inOrder_perm _).symm.trans (hsorted ▸ inOrder_perm _)

end StructuralDiff.Checkout
