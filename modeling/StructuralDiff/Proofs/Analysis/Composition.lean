import Mathlib.Data.List.Pairwise
import StructuralDiff.Proofs.Analysis.Merge

/-!
# Analysis file by file

The ids that a file contributes carry its path, so files whose paths are apart have nothing to say about each
other: the snapshot of a list of files is put together from the snapshots of the single files.

* `distinctBy_flatMap`: parts that share no id are thinned out one by one.
* `ofFiles_eq_flatMap`: the nodes and edges of a snapshot, file by file, and no edge is left out.
-/

namespace StructuralDiff

namespace Snapshot

section Distinct

variable {α β : Type} {id : α → String}

/-- What comes first has no say in what follows, if they share no id. -/
theorem distinctBy_append {seen : List String} {l l' : List α}
    (h : ∀ a ∈ l, ∀ b ∈ l', id a ≠ id b) :
    distinctBy id seen (l ++ l') = distinctBy id seen l ++ distinctBy id seen l' := by
  induction l generalizing seen with
  | nil => rfl
  | cons a rest ih =>
    rw [List.forall_mem_cons] at h
    rw [List.cons_append, distinctBy, distinctBy]
    split
    · exact ih h.2
    · have hseen : distinctBy id (id a :: seen) l' = distinctBy id seen l' := by
        refine distinctBy_congr fun b hb => ?_
        rw [List.mem_cons, or_iff_right (h.1 b hb).symm]
      rw [ih h.2, hseen, List.cons_append]

/-- **Parts that share no id are thinned out one by one.** -/
theorem distinctBy_flatMap {parts : List β} {g : β → List α}
    (h : parts.Pairwise fun x y => ∀ a ∈ g x, ∀ b ∈ g y, id a ≠ id b) :
    distinctBy id [] (parts.flatMap g) = parts.flatMap fun x => distinctBy id [] (g x) := by
  induction parts with
  | nil => rfl
  | cons x rest ih =>
    rw [List.pairwise_cons] at h
    rw [List.flatMap_cons, List.flatMap_cons, distinctBy_append, ih h.2]
    intro a ha b hb
    obtain ⟨y, hy, hb⟩ := List.mem_flatMap.1 hb
    exact h.1 y hy a ha b hb

end Distinct

section Files

variable {config : AnalysisConfig} {label : SnapshotLabel} {files : List SourceFile}

section Apart

variable (hnodup : (files.map (·.path)).Nodup)
  (hapart : ∀ a ∈ files, ∀ b ∈ files, a.path ≠ b.path → Path.Apart a.path b.path)

include hnodup hapart

theorem pairwise_apart : files.Pairwise fun a b => Path.Apart a.path b.path := by
  rw [List.Nodup, List.pairwise_map] at hnodup
  exact hnodup.imp_of_mem fun ha hb hne => hapart _ ha _ hb hne

/-- The nodes of a snapshot are those of its files, each file on its own. -/
theorem nodes_ofFiles_eq_flatMap : (ofFiles config label files).nodes =
    files.flatMap fun file => distinctBy Node.id [] (fragmentOf config label file).nodes := by
  rw [nodes_ofFiles]
  refine distinctBy_flatMap ((pairwise_apart hnodup hapart).imp fun hapart a ha b hb => ?_)
  rw [(id_of_mem_nodes ha).1, (id_of_mem_nodes hb).1]
  exact Node.makeId_ne_of_apart hapart _ _ _ _ _

/-- Each edge that a file contributes is in the snapshot, once and in its place. -/
theorem edges_ofFiles_eq_flatMap :
    (ofFiles config label files).edges = files.flatMap fun file => (fragmentOf config label file).edges := by
  rw [edges_ofFiles, distinctBy_flatMap ((pairwise_apart hnodup hapart).imp fun hapart a ha b hb => ?_)]
  · refine List.flatMap_congr fun file _ => ?_
    exact distinctBy_of_nodup (sound_fragmentOf file).edgeIds fun _ _ => List.not_mem_nil
  · obtain ⟨⟨kind, name, hid⟩, -⟩ := id_of_mem_edges ha
    obtain ⟨⟨kind', name', hid'⟩, -⟩ := id_of_mem_edges hb
    rw [hid, hid']
    exact Edge.makeId_ne_of_apart hapart

end Apart

/-- **The snapshot of a list of files is made of the snapshots of the single files**, in their order, and
each edge of each file's fragment is in it. -/
theorem ofFiles_eq_flatMap (hnodup : (files.map (·.path)).Nodup)
    (hcolon : ∀ file ∈ files, ColonFree file.path) :
    (ofFiles config label files).nodes = files.flatMap (fun file => (ofFiles config label [file]).nodes) ∧
    (ofFiles config label files).edges = files.flatMap (fun file => (ofFiles config label [file]).edges) ∧
    (ofFiles config label files).edges =
      files.flatMap (fun file => (Fragment.ofSourceFile config.maxFileBytes label file).edges) := by
  have hapart : ∀ a ∈ files, ∀ b ∈ files, a.path ≠ b.path → Path.Apart a.path b.path :=
    fun a ha b hb => Path.apart_of_colonFree (hcolon a ha) (hcolon b hb)
  refine ⟨?_, ?_, edges_ofFiles_eq_flatMap hnodup hapart⟩
  · rw [nodes_ofFiles_eq_flatMap hnodup hapart]
    refine List.flatMap_congr fun file _ => ?_
    rw [nodes_ofFiles, List.flatMap_singleton]
  · rw [edges_ofFiles_eq_flatMap hnodup hapart]
    refine List.flatMap_congr fun file _ => ?_
    have hsingle : ([file].map (·.path)).Nodup := List.nodup_singleton _
    have hself : ∀ a ∈ [file], ∀ b ∈ [file], a.path ≠ b.path → Path.Apart a.path b.path := by
      rintro a ha b hb hne
      rw [List.mem_singleton.1 ha, List.mem_singleton.1 hb] at hne
      exact absurd rfl hne
    rw [edges_ofFiles_eq_flatMap hsingle hself, List.flatMap_singleton]

end Files

/-- Two files with the same tree, a file without a tree and a file of no known language. -/
def mixedFiles : List SourceFile :=
  let rows : List SourceTree.Row :=
    [⟨0, "module", 1, none, 0, 10⟩, ⟨1, "import_statement", 1, none, 0, 9⟩, ⟨2, "import", 0, none, 0, 6⟩,
     ⟨2, "dotted_name", 1, some "name", 7, 9⟩, ⟨3, "identifier", 1, none, 7, 9⟩]
  [.ofRows "a.py" "import os\n" rows, .ofRows "pkg/a.py" "import os\n" rows,
    ⟨"b.js", "import 'os';\n".toUTF8, none⟩, ⟨"notes.txt", "os\n".toUTF8, none⟩]

theorem ofFiles_eq_flatMap_mixed :
    (mixedFiles.map (·.path)).Nodup ∧ (∀ file ∈ mixedFiles, ColonFree file.path) ∧
    (ofFiles {} ⟨"r", "v1", "main"⟩ mixedFiles).nodes =
      mixedFiles.flatMap (fun file => (ofFiles {} ⟨"r", "v1", "main"⟩ [file]).nodes) ∧
    (ofFiles {} ⟨"r", "v1", "main"⟩ mixedFiles).edges =
      mixedFiles.flatMap (fun file => (ofFiles {} ⟨"r", "v1", "main"⟩ [file]).edges) ∧
    (ofFiles {} ⟨"r", "v1", "main"⟩ mixedFiles).edges =
      mixedFiles.flatMap (fun file => (Fragment.ofSourceFile 1048576 ⟨"r", "v1", "main"⟩ file).edges) := by
  have hnodup : (mixedFiles.map (·.path)).Nodup := by decide
  have hcolon : ∀ file ∈ mixedFiles, ColonFree file.path := by
    intro file hfile
    have hpath : file.path ∈ ["a.py", "pkg/a.py", "b.js", "notes.txt"] := List.mem_map_of_mem hfile
    revert hpath
    generalize file.path = path
    revert path
    decide
  exact ⟨hnodup, hcolon, ofFiles_eq_flatMap hnodup hcolon⟩

end Snapshot

end StructuralDiff
