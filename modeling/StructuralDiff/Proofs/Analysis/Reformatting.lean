import StructuralDiff.Proofs.Analysis.Composition
import StructuralDiff.Proofs.Delta.Emptiness
import StructuralDiff.Proofs.Extract.Python
import StructuralDiff.Proofs.Extract.Script

/-!
# Code that is laid out anew

Where code stands and what comments are around it shows in the ids and lines of a snapshot, not in what is
compared. Files whose trees are equal without comments and places have corresponding fragments, as long as
comments stand aside, names and literals are written in the same way, and no id is repeated.

* `Language.outlines_bare`: a language outlines the bare tree as it outlines the tree.
* `Relaid`: the file is laid out anew.
* `between_relaid`: nothing has changed between files and the same files laid out anew.
* `between_relaid_spaced`: a name that is written with blanks in it has changed.
-/

open scoped List

namespace StructuralDiff

/-! ### One file -/

/-- **A language outlines the bare tree as it outlines the tree**, apart from places. -/
theorem Language.outlines_bare {number : Nat × Nat → Nat} (hnumber : number.Injective) (language : Language)
    {tree : SourceTree} (h : tree.tidy = true) :
    Outline.bareAll (language.outlines (tree.bare number)) = Outline.bareAll (language.outlines tree) := by
  have hscript : Outline.bareAll (Script.outlines false none none (tree.bare number).children) =
      Outline.bareAll (Script.outlines false none none tree.children) := by
    rw [SourceTree.children_bare]
    exact Script.outlines_bare hnumber false none none none none fun child => SourceTree.tidy_of_mem h
  have hpython : Outline.bareAll (Python.outlines false (tree.bare number).namedChildren) =
      Outline.bareAll (Python.outlines false tree.namedChildren) := by
    rw [SourceTree.namedChildren_bare]
    exact Python.outlines_bare hnumber false fun child hchild =>
      SourceTree.tidy_of_mem h (List.mem_filter.1 hchild).1
  cases language with
  | python => exact hpython
  | typeScript | tsx | javaScript => exact hscript
  | unknown => rfl

/-- The tree with neither comments nor places. -/
def SourceTree.code (tree : SourceTree) : SourceTree :=
  tree.bare fun _ => 0

mutual

/-- The tree with neither comments nor places, in which only leaves have a text. -/
def SourceTree.plain : SourceTree → SourceTree
  | ⟨kind, field, named, extra, error, missing, _, _, _, _, text, children⟩ =>
    ⟨kind, field, named, extra, error, missing, 0, 0, 0, 0, if children.isEmpty then text else "",
      plainAll children⟩

/-- The trees of a list with neither comments nor places. -/
def SourceTree.plainAll : List SourceTree → List SourceTree
  | [] => []
  | tree :: rest => if tree.extra then plainAll rest else plain tree :: plainAll rest

end

/-- The tree has its comments where nothing looks for code, and no two leaves at the same place. -/
structure SourceTree.WellKept (tree : SourceTree) : Prop where
  tidy : tree.tidy = true
  places : tree.leafPlaces.Nodup

/-- Two trees of the same code have the same signature and say the same. -/
theorem SourceTree.outlines_of_code_eq {a b : SourceTree} (ha : a.WellKept) (hb : b.WellKept)
    (h : a.code = b.code) (language : Language) : a.signature = b.signature ∧
      Outline.bareAll (language.outlines a) = Outline.bareAll (language.outlines b) := by
  obtain ⟨number, number', hnumber, hnumber', heq⟩ := exists_bare_eq h ha.places hb.places
  rw [← signature_bare hnumber ha.tidy, ← signature_bare hnumber' hb.tidy,
    ← language.outlines_bare hnumber ha.tidy, ← language.outlines_bare hnumber' hb.tidy, heq]
  exact ⟨rfl, rfl⟩

/-- The names in a fragment stand alone, and no id is repeated. -/
structure Fragment.Unambiguous (fragment : Fragment) : Prop where
  names : fragment.StandAlone
  ids : (fragment.nodes.map (·.id)).Nodup

namespace Snapshot

/-- The file `b` is the file `a` laid out anew: both can be analyzed, and the code is the same. -/
structure Relaid (config : AnalysisConfig) (label label' : SnapshotLabel) (a b : SourceFile) : Prop where
  path : a.path = b.path
  code : ∃ text tree text' tree', a.parsed config.maxFileBytes = .ok (text, tree) ∧
    b.parsed config.maxFileBytes = .ok (text', tree') ∧ tree.WellKept ∧ tree'.WellKept ∧
      tree.code = tree'.code
  left : (Fragment.ofSourceFile config.maxFileBytes label a).Unambiguous
  right : (Fragment.ofSourceFile config.maxFileBytes label' b).Unambiguous

variable {config : AnalysisConfig} {label label' : SnapshotLabel} {files files' : List SourceFile}

/-- **A file that is laid out anew has a corresponding fragment.** -/
theorem Relaid.simulates {a b : SourceFile} (h : Relaid config label label' a b) :
    Fragment.Simulates False
      (Fragment.Joined False (fragmentOf config label a) (fragmentOf config label' b))
      (fragmentOf config label a) (fragmentOf config label' b) := by
  have hP : Relator.BiUnique
      (Fragment.Joined False (fragmentOf config label a) (fragmentOf config label' b)) :=
    Fragment.biUnique_joined_of_nodup h.left.ids h.right.ids
  have hm : Fragment.Matchable False
      (Fragment.Joined False (fragmentOf config label a) (fragmentOf config label' b))
      (fragmentOf config label a) (fragmentOf config label' b) :=
    Fragment.matchable_joined h.left.names fun _ => h.right.names
  obtain ⟨text, tree, text', tree', ha, hb, hkept, hkept', hcode⟩ := h.code
  obtain ⟨hsignature, houtlines⟩ := SourceTree.outlines_of_code_eq hkept hkept' hcode (Language.ofPath a.path)
  have hleft : fragmentOf config label a = Fragment.ofTree label a.path text tree := by
    rw [fragmentOf, Fragment.ofSourceFile, ha]
  have hright : fragmentOf config label' b = Fragment.ofTree label' a.path text' tree' := by
    rw [fragmentOf, Fragment.ofSourceFile, hb, h.path]
  rw [hleft, hright] at hP hm ⊢
  exact Fragment.simulates_ofTree hP hsignature houtlines False.elim hm

theorem map_key_eq_of_alike {l l' : List Node} (h : List.Forall₂ (Node.Alike False) l l') :
    (l.map fun node => (node.key, node.signature)) = l'.map fun node => (node.key, node.signature) := by
  induction h with
  | nil => rfl
  | cons hxy _ ih => rw [List.map_cons, List.map_cons, hxy.key, hxy.signature, ih]

theorem map_path_eq (h : List.Forall₂ (Relaid config label label') files files') :
    files.map (·.path) = files'.map (·.path) := by
  induction h with
  | nil => rfl
  | cons hab _ ih => rw [List.map_cons, List.map_cons, hab.path, ih]

/-- What is made of each file on both sides is the same for all of them. -/
theorem map_flatMap_eq {α β : Type} {f g : SourceFile → List α} {p q : α → β}
    (h : List.Forall₂ (Relaid config label label') files files')
    (heq : ∀ a ∈ files, ∀ b ∈ files', Relaid config label label' a b → (f a).map p = (g b).map q) :
    (files.flatMap f).map p = (files'.flatMap g).map q := by
  induction h with
  | nil => rfl
  | @cons a b rest rest' hab _ ih =>
    rw [List.flatMap_cons, List.flatMap_cons, List.map_append, List.map_append,
      heq a List.mem_cons_self b List.mem_cons_self hab, ih fun a ha b hb =>
        heq a (List.mem_cons_of_mem _ ha) b (List.mem_cons_of_mem _ hb)]

end Snapshot

namespace Delta

open Snapshot

/-- **Nothing has changed between files and the same files laid out anew.** -/
theorem between_relaid {config : AnalysisConfig} {oldLabel newLabel : SnapshotLabel}
    {oldFiles newFiles : List SourceFile}
    (hcolon : ColonFree oldLabel.snapshotId) (hcolon' : ColonFree newLabel.snapshotId)
    (hne : oldLabel.snapshotId ≠ newLabel.snapshotId)
    (hnodup : (oldFiles.map (·.path)).Nodup)
    (hapart : ∀ a ∈ oldFiles, ∀ b ∈ oldFiles, a.path ≠ b.path → Path.Apart a.path b.path)
    (h : List.Forall₂ (Relaid config oldLabel newLabel) oldFiles newFiles) :
    (between (ofFiles config oldLabel oldFiles) (ofFiles config newLabel newFiles)).isEmpty = true := by
  have hpaths := map_path_eq h
  have hnodup' : (newFiles.map (·.path)).Nodup := hpaths ▸ hnodup
  -- the new files have the paths of the old ones, so they are apart as well
  have hapart' : ∀ a ∈ newFiles, ∀ b ∈ newFiles, a.path ≠ b.path → Path.Apart a.path b.path := by
    have hold {a : SourceFile} (ha : a ∈ newFiles) : ∃ b ∈ oldFiles, b.path = a.path := by
      have hmem : a.path ∈ oldFiles.map (·.path) := hpaths ▸ List.mem_map_of_mem ha
      exact List.mem_map.1 hmem
    intro a ha b hb
    obtain ⟨a', ha', hpath⟩ := hold ha
    obtain ⟨b', hb', hpath'⟩ := hold hb
    rw [← hpath, ← hpath']
    exact hapart a' ha' b' hb'
  have hseparate : Separate (ofFiles config oldLabel oldFiles) (ofFiles config newLabel newFiles) :=
    separate_ofFiles hcolon hcolon' hne
  rw [isEmpty_iff, nodes_unchanged_iff hseparate, edges_unchanged_iff hseparate.old_valid
    hseparate.new_valid (disjoint_edgeIds_ofFiles hcolon hcolon' hne)]
  constructor
  -- with paths that are apart, a snapshot is its files one after the other, and so are its keys
  · rw [nodes_ofFiles_eq_flatMap hnodup hapart, nodes_ofFiles_eq_flatMap hnodup' hapart']
    refine List.Perm.of_eq (map_flatMap_eq h fun a _ b _ hab => ?_)
    rw [distinctBy_of_nodup hab.left.ids fun _ _ => List.not_mem_nil,
      distinctBy_of_nodup hab.right.ids fun _ _ => List.not_mem_nil]
    exact map_key_eq_of_alike hab.simulates.nodes
  · rw [edges_ofFiles_eq_flatMap hnodup hapart, edges_ofFiles_eq_flatMap hnodup' hapart']
    refine List.Perm.of_eq (map_flatMap_eq h fun a ha b hb hab => ?_)
    exact map_edgeKey_eq hnodup hnodup' ha hb (fun other hother hne => hapart a ha other hother hne.symm)
      (fun other hother hne => hapart' b hb other hother hne.symm) hab.simulates

/-! ### An import in three layouts -/

/-- A file that imports a module. -/
def dottedImport : SourceFile :=
  .ofRows "m.py" "import os.path\n"
    [⟨0, "module", 1, none, 0, 15⟩, ⟨1, "import_statement", 1, none, 0, 14⟩, ⟨2, "import", 0, none, 0, 6⟩,
     ⟨2, "dotted_name", 1, some "name", 7, 14⟩, ⟨3, "identifier", 1, none, 7, 9⟩, ⟨3, ".", 0, none, 9, 10⟩,
     ⟨3, "identifier", 1, none, 10, 14⟩]

/-- The file with a comment and more blanks. -/
def commentedImport : SourceFile :=
  .ofRows "m.py" "#\nimport  os.path\n"
    [⟨0, "module", 1, none, 0, 18⟩, ⟨1, "comment", 3, none, 0, 1⟩, ⟨1, "import_statement", 1, none, 2, 17⟩,
     ⟨2, "import", 0, none, 2, 8⟩, ⟨2, "dotted_name", 1, some "name", 10, 17⟩,
     ⟨3, "identifier", 1, none, 10, 12⟩, ⟨3, ".", 0, none, 12, 13⟩, ⟨3, "identifier", 1, none, 13, 17⟩]

/-- The file with blanks inside the name. -/
def spacedImport : SourceFile :=
  .ofRows "m.py" "import os . path\n"
    [⟨0, "module", 1, none, 0, 17⟩, ⟨1, "import_statement", 1, none, 0, 16⟩, ⟨2, "import", 0, none, 0, 6⟩,
     ⟨2, "dotted_name", 1, some "name", 7, 16⟩, ⟨3, "identifier", 1, none, 7, 9⟩, ⟨3, ".", 0, none, 10, 11⟩,
     ⟨3, "identifier", 1, none, 12, 16⟩]

/-- All three files can be analyzed. -/
theorem parsed_imports :
    dottedImport.parsed 1048576 = .ok ("import os.path\n", dottedImport.tree.getD default) ∧
    commentedImport.parsed 1048576 = .ok ("#\nimport  os.path\n", commentedImport.tree.getD default) ∧
    spacedImport.parsed 1048576 = .ok ("import os . path\n", spacedImport.tree.getD default) := by
  have hlanguage : (Language.ofPath "m.py").isAnalyzable = true := by decide
  exact ⟨SourceFile.parsed_ofRows (by decide) hlanguage (by decide),
    SourceFile.parsed_ofRows (by decide) hlanguage (by decide),
    SourceFile.parsed_ofRows (by decide) hlanguage (by decide)⟩

theorem outlines_imports :
    (Language.ofPath "m.py").outlines (dottedImport.tree.getD default) = [.imports "os.path"] ∧
    (Language.ofPath "m.py").outlines (spacedImport.tree.getD default) = [.imports "os . path"] := by
  rw [show Language.ofPath "m.py" = .python by decide]
  exact ⟨@Python.outlines_of_import _ ["os.path"] (by decide +kernel) (by decide +kernel),
    @Python.outlines_of_import _ ["os . path"] (by decide +kernel) (by decide +kernel)⟩

theorem ofSourceFile_dottedImport (label : SnapshotLabel) :
    Fragment.ofSourceFile 1048576 label dottedImport =
      .withOutlines label dottedImport "import os.path\n" [.imports "os.path"] :=
  Fragment.ofSourceFile_of_parsed parsed_imports.1 outlines_imports.1 label

theorem ofSourceFile_spacedImport (label : SnapshotLabel) :
    Fragment.ofSourceFile 1048576 label spacedImport =
      .withOutlines label spacedImport "import os . path\n" [.imports "os . path"] :=
  Fragment.ofSourceFile_of_parsed parsed_imports.2.2 outlines_imports.2 label

/-- The two files have the same code. -/
theorem code_commentedImport : (dottedImport.tree.getD default).WellKept ∧
    (commentedImport.tree.getD default).WellKept ∧
      (dottedImport.tree.getD default).code = (commentedImport.tree.getD default).code :=
  ⟨⟨by decide +kernel, by decide +kernel⟩, ⟨by decide +kernel, by decide +kernel⟩, by decide +kernel⟩

/-- The outlines of the file with a comment follow from those of the other one. -/
theorem ofSourceFile_commentedImport (label : SnapshotLabel) :
    Fragment.ofSourceFile 1048576 label commentedImport =
      .withOutlines label commentedImport "#\nimport  os.path\n" [.imports "os.path"] := by
  refine Fragment.ofSourceFile_of_parsed parsed_imports.2.1 ?_ label
  obtain ⟨hkept, hkept', hcode⟩ := code_commentedImport
  have houtlines := (SourceTree.outlines_of_code_eq hkept hkept' hcode (Language.ofPath "m.py")).2
  rw [outlines_imports.1, Outline.bareAll_eq_map, Outline.bareAll_eq_map, List.map_singleton, eq_comm,
    List.map_eq_singleton_iff] at houtlines
  obtain ⟨outline, hsingle, hbare⟩ := houtlines
  have himports : outline = .imports "os.path" := Outline.eq_of_bare_imports hbare.symm
  exact hsingle.trans (congrArg ([·]) himports)

theorem relaid_commentedImport :
    Relaid {} ⟨"r", "v1", "old"⟩ ⟨"r", "v2", "new"⟩ dottedImport commentedImport where
  path := rfl
  code := ⟨_, _, _, _, parsed_imports.1, parsed_imports.2.1, code_commentedImport⟩
  left := by
    rw [ofSourceFile_dottedImport]
    refine ⟨?_, by decide⟩
    unfold Fragment.StandAlone
    decide
  right := by
    rw [ofSourceFile_commentedImport]
    refine ⟨?_, by decide⟩
    unfold Fragment.StandAlone
    decide

theorem between_relaid_commented :
    Relaid {} ⟨"r", "v1", "old"⟩ ⟨"r", "v2", "new"⟩ dottedImport commentedImport ∧
    (between (ofFiles {} ⟨"r", "v1", "old"⟩ [dottedImport])
      (ofFiles {} ⟨"r", "v2", "new"⟩ [commentedImport])).isEmpty = true := by
  refine ⟨relaid_commentedImport, between_relaid (by unfold ColonFree; decide) (by unfold ColonFree; decide)
    (by decide) (List.nodup_singleton _) ?_ (.cons relaid_commentedImport .nil)⟩
  intro a ha b hb hne
  rw [List.mem_singleton.1 ha, List.mem_singleton.1 hb] at hne
  exact absurd rfl hne

/-- **A name that is written with blanks in it has changed**, although the trees are equal without comments
and places, and their leaves have the same texts. -/
theorem between_relaid_spaced :
    dottedImport.path = spacedImport.path ∧
    dottedImport.parsed 1048576 = .ok ("import os.path\n", dottedImport.tree.getD default) ∧
    spacedImport.parsed 1048576 = .ok ("import os . path\n", spacedImport.tree.getD default) ∧
    (dottedImport.tree.getD default).plain = (spacedImport.tree.getD default).plain ∧
    (between (ofFiles {} ⟨"r", "v1", "old"⟩ [dottedImport])
      (ofFiles {} ⟨"r", "v2", "new"⟩ [spacedImport])).isEmpty = false := by
  refine ⟨rfl, parsed_imports.1, parsed_imports.2.2, by decide +kernel, ?_⟩
  rw [Bool.eq_false_iff]
  intro hempty
  have hseparate : Separate (ofFiles {} ⟨"r", "v1", "old"⟩ [dottedImport])
      (ofFiles {} ⟨"r", "v2", "new"⟩ [spacedImport]) :=
    separate_ofFiles (by unfold ColonFree; decide) (by unfold ColonFree; decide) (by decide)
  have hperm := (nodes_unchanged_iff hseparate).1 (isEmpty_iff.1 hempty).1
  -- The old name is a key on the old side only.
  have hkeys := hperm.map Prod.fst
  rw [List.map_map, List.map_map] at hkeys
  have hold : NodeKey.symbol "os.path" .module ∈
      (ofFiles {} ⟨"r", "v1", "old"⟩ [dottedImport]).nodes.map (·.key) := by
    simp only [ofFiles, List.map_cons, List.map_nil, ofSourceFile_dottedImport]
    decide +kernel
  have hnew : NodeKey.symbol "os.path" .module ∉
      (ofFiles {} ⟨"r", "v2", "new"⟩ [spacedImport]).nodes.map (·.key) := by
    simp only [ofFiles, List.map_cons, List.map_nil, ofSourceFile_spacedImport]
    decide +kernel
  exact hnew (hkeys.subset hold)

end Delta

end StructuralDiff
