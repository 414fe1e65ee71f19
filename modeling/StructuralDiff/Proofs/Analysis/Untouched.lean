import StructuralDiff.Proofs.Analysis.Merge
import StructuralDiff.Proofs.Delta.Emptiness
import StructuralDiff.Proofs.Source.Stream

/-!
# Files that are not touched

A file that is in two snapshots as it is contributes the same to both. Its edges are unchanged whatever the
other files are, since they are compared within the file. Its nodes are compared by name with those of all
files: a module that two files import is one name, and when one of the files goes, its node can take the
place of the other one.

* `unchanged_of_countP_le`, `unchanged_of_countP_place_le`: a node is unchanged when the other side has at
  least as many nodes like it.
* `edges_unchanged_of_simulates`: the edges of a file are unchanged when its fragments correspond.
* `between_untouched`: the outcome for the nodes and edges of a file that is not touched.
* `between_untouched_displaced`: a node of such a file that has changed, and an edge, where a path has a colon or a
  name has an arrow.
-/

open scoped List

namespace StructuralDiff

/-! ### Nodes with enough partners -/

namespace Pairing

/-- The first round leaves over those nodes of a place that the new side lacks. -/
theorem countP_place_exactRound_old (old new : List Node) (v : Option String × (Nat × Nat)) :
    (exactRound old new).old.countP (place · = v) = old.countP (place · = v) - new.countP (place · = v) := by
  have h := countP_greedy_old samePlace_iff (old.mergeSort Node.standsBefore)
    (new.mergeSort Node.standsBefore) v
  rwa [(List.mergeSort_perm old _).countP_eq, (List.mergeSort_perm new _).countP_eq] at h

/-- The first round pairs an old node or leaves it over. -/
theorem mem_exactRound_old {old new : List Node} {node : Node} (h : node ∈ old) :
    node ∈ (exactRound old new).pairs.map Prod.fst ∨ node ∈ (exactRound old new).old := by
  rw [← List.mem_append, exactRound, (greedy_old_perm _ _ _).mem_iff, List.mem_mergeSort]
  exact h

end Pairing

namespace Delta

section Nodes

variable {old new : Snapshot} (h : Separate old new)

include h

/-- A node is unchanged when the other side has as many nodes with its key and signature. -/
theorem unchanged_of_countP_le {node : Node} (hnode : node ∈ old.nodes)
    (hcount : (old.nodes.countP fun other => other.key = node.key ∧ other.signature = node.signature) ≤
      new.nodes.countP fun other => other.key = node.key ∧ other.signature = node.signature) :
    (between old new).nodeStatus? node.id = some .unchanged := by
  rw [← mem_unchanged_iff h hnode rfl]
  refine (mem_old_side.2 ⟨hnode, rfl⟩).resolve_right fun hleft => ?_
  have hpos : 0 < (pairingUnder old new node.key).oldLeft.countP (·.signature = node.signature) :=
    List.countP_pos_iff.2 ⟨node, hleft, by simp⟩
  rw [pairingUnder, Pairing.countP_signature_oldLeft, countP_under, countP_under] at hpos
  omega

/-- A node is unchanged when the other side has as many nodes with its key and signature on its lines. -/
theorem unchanged_of_countP_place_le {node : Node} (hnode : node ∈ old.nodes)
    (hcount : (old.nodes.countP fun other => other.key = node.key ∧ Pairing.place other = Pairing.place node)
      ≤ new.nodes.countP fun other => other.key = node.key ∧ Pairing.place other = Pairing.place node) :
    (between old new).nodeStatus? node.id = some .unchanged := by
  rw [← mem_unchanged_iff h hnode rfl, pairingUnder, Pairing.unchanged_ofSides, List.map_append]
  refine List.mem_append_left _ ?_
  refine (Pairing.mem_exactRound_old (List.mem_filter.2 ⟨hnode, by simp⟩)).resolve_right fun hleft => ?_
  have hpos : 0 < (Pairing.exactRound (old.nodes.filter (·.key = node.key))
      (new.nodes.filter (·.key = node.key))).old.countP (Pairing.place · = Pairing.place node) :=
    List.countP_pos_iff.2 ⟨node, hleft, by simp⟩
  rw [Pairing.countP_place_exactRound_old, countP_under, countP_under] at hpos
  omega

end Nodes

/-! ### Edges with enough partners -/

/-- The edges under a key are unchanged when both sides have as many of them. -/
theorem edgeStatus?_of_count_eq {old new : Snapshot} (hold : old.Valid) (hnew : new.Valid)
    (hdisjoint : List.Disjoint old.edgeIds new.edgeIds) {key : EdgeKey}
    (hcount : (old.edges.map old.edgeKey).count key = (new.edges.map new.edgeKey).count key)
    {id : String} (hid : id ∈ edgeIdsUnder old key ++ edgeIdsUnder new key) :
    (between old new).edgeStatus? id = some .unchanged := by
  rw [edgeStatus?_eq_some_iff hold hnew hdisjoint]
  rw [count_edgeKey, count_edgeKey, ← edgeOutcomes_unchanged_iff] at hcount
  rw [← (map_fst_edgeOutcomes _ _).mem_iff] at hid
  obtain ⟨⟨other, status⟩, hmem, rfl⟩ := List.mem_map.1 hid
  have hstatus := hcount other status hmem
  exact ⟨key, hstatus ▸ hmem⟩

end Delta

/-! ### The same file in two snapshots -/

/-- How many nodes of other files have the key and the signature of a node. -/
def Snapshot.rivals (snapshot : Snapshot) (node : Node) : Nat :=
  snapshot.nodes.countP fun other => other.filePath ≠ node.filePath ∧
    (other.key = node.key ∧ other.signature = node.signature)

/-- How many of them stand on the lines of the node. -/
def Snapshot.rivalsInPlace (snapshot : Snapshot) (node : Node) : Nat :=
  snapshot.nodes.countP fun other => other.filePath ≠ node.filePath ∧
    (other.key = node.key ∧ Pairing.place other = Pairing.place node)

namespace Snapshot

/-- **The same file gives corresponding fragments in two snapshots.** -/
theorem simulates_same (config : AnalysisConfig) (label label' : SnapshotLabel) (file : SourceFile)
    (hnames : (fragmentOf config label file).StandAlone) :
    Fragment.Simulates True
      (Fragment.Joined True (fragmentOf config label file) (fragmentOf config label' file))
      (fragmentOf config label file) (fragmentOf config label' file) := by
  have hP : Relator.BiUnique
      (Fragment.Joined True (fragmentOf config label file) (fragmentOf config label' file)) :=
    Fragment.biUnique_joined_of_exact trivial (sound_fragmentOf file) (sound_fragmentOf file)
  have hm : Fragment.Matchable True
      (Fragment.Joined True (fragmentOf config label file) (fragmentOf config label' file))
      (fragmentOf config label file) (fragmentOf config label' file) :=
    Fragment.matchable_joined hnames fun hne => absurd trivial hne
  revert hP hm
  generalize Fragment.Joined True (fragmentOf config label file) (fragmentOf config label' file) = P
  unfold fragmentOf Fragment.ofSourceFile
  split
  · exact fun hP hm => Fragment.simulates_ofTree hP rfl rfl (fun _ => ⟨rfl, rfl⟩) hm
  · exact fun _ hm => Fragment.simulates_ofFile (fun _ => rfl) hm

/-- The nodes of a file that is the same in two snapshots are alike. -/
theorem forall₂_nodes_at {config : AnalysisConfig} {label label' : SnapshotLabel}
    {files files' : List SourceFile} {file : SourceFile} (hnodup : (files.map (·.path)).Nodup)
    (hnodup' : (files'.map (·.path)).Nodup) (hmem : file ∈ files) (hmem' : file ∈ files')
    (hapart : ∀ other ∈ files, other.path ≠ file.path → Path.Apart file.path other.path)
    (hapart' : ∀ other ∈ files', other.path ≠ file.path → Path.Apart file.path other.path)
    (hnames : (fragmentOf config label file).StandAlone) :
    List.Forall₂ (Node.Alike True) ((ofFiles config label files).nodes.filter (·.filePath = file.path))
      ((ofFiles config label' files').nodes.filter (·.filePath = file.path)) := by
  have hsame := simulates_same config label label' file hnames
  have hpaired := hsame.nodes_paired (Fragment.matchable_joined hnames fun hne => absurd trivial hne)
  rw [nodes_ofFiles_at hnodup hmem hapart, nodes_ofFiles_at hnodup' hmem' hapart']
  refine (forall₂_distinctBy (Fragment.biUnique_joined_of_exact trivial hsame.left hsame.right)
    (fun x y hxy => hxy.2) .nil hpaired).imp fun x y hxy => hxy.1

end Snapshot

namespace Delta

theorem countP_eq_add_rivals (nodes : List Node) (path : String) (p : Node → Prop) [DecidablePred p] :
    nodes.countP (fun node => p node) = (nodes.filter (·.filePath = path)).countP (fun node => p node) +
      nodes.countP fun node => node.filePath ≠ path ∧ p node := by
  rw [List.countP_eq_countP_filter_add nodes _ (·.filePath = path)]
  congr 1
  rw [List.countP_filter]
  refine List.countP_congr fun node _ => ?_
  simp [and_comm]

/-- A node is unchanged, unless there are more nodes like it in the other files of its own side than in those of
the other side. -/
theorem unchanged_of_rivals_le {old new : Snapshot} (h : Separate old new) {node : Node}
    (hnode : node ∈ old.nodes)
    (hfile : ((old.nodes.filter (·.filePath = node.filePath)).countP fun other =>
        other.key = node.key ∧ other.signature = node.signature) =
      (new.nodes.filter (·.filePath = node.filePath)).countP fun other =>
        other.key = node.key ∧ other.signature = node.signature)
    (hrivals : old.rivals node ≤ new.rivals node) :
    (between old new).nodeStatus? node.id = some .unchanged := by
  refine unchanged_of_countP_le h hnode ?_
  rw [countP_eq_add_rivals old.nodes node.filePath, countP_eq_add_rivals new.nodes node.filePath, hfile]
  exact Nat.add_le_add_left hrivals _

/-- **A node of a file that is not touched is unchanged**, unless there are more nodes like it in the other
files of its own side than in those of the other side. -/
theorem unchanged_of_rivals {old new : Snapshot} (h : Separate old new) {node : Node}
    (hnode : node ∈ old.nodes)
    (hsame : ∀ p : Node → Bool, (∀ x y : Node, x.Alike True y → p x = p y) →
      (old.nodes.filter (·.filePath = node.filePath)).countP p =
        (new.nodes.filter (·.filePath = node.filePath)).countP p)
    (hrivals : old.rivals node ≤ new.rivals node ∨ old.rivalsInPlace node ≤ new.rivalsInPlace node) :
    (between old new).nodeStatus? node.id = some .unchanged := by
  rcases hrivals with hrivals | hrivals
  · exact unchanged_of_rivals_le h hnode (hsame _ fun x y hxy => by rw [hxy.key, hxy.signature]) hrivals
  · refine unchanged_of_countP_place_le h hnode ?_
    have hfile := hsame (fun other => other.key = node.key ∧ Pairing.place other = Pairing.place node)
      fun x y hxy => by
        have hplace : Pairing.place x = Pairing.place y := Prod.ext hxy.signature (hxy.position trivial)
        rw [hxy.key, hplace]
    rw [countP_eq_add_rivals old.nodes node.filePath, countP_eq_add_rivals new.nodes node.filePath, hfile]
    exact Nat.add_le_add_left hrivals _

theorem countP_eq_of_forall₂ {exact : Prop} {l l' : List Node} (h : List.Forall₂ (Node.Alike exact) l l')
    {p : Node → Bool} (hp : ∀ x y : Node, x.Alike exact y → p x = p y) : l.countP p = l'.countP p := by
  rw [List.countP_eq_length_filter, List.countP_eq_length_filter]
  exact (forall₂_filter h hp).length_eq

/-- **The edges of a file are unchanged when its fragments correspond**, whatever the other files are. -/
theorem edges_unchanged_of_simulates {config : AnalysisConfig} {oldLabel newLabel : SnapshotLabel}
    {oldFiles newFiles : List SourceFile} {exact : Prop} {a b : SourceFile}
    (hcolon : ColonFree oldLabel.snapshotId) (hcolon' : ColonFree newLabel.snapshotId)
    (hne : oldLabel.snapshotId ≠ newLabel.snapshotId)
    (hold : (oldFiles.map (·.path)).Nodup) (hnew : (newFiles.map (·.path)).Nodup)
    (ha : a ∈ oldFiles) (hb : b ∈ newFiles) (hsame : a.path = b.path)
    (hapart : ∀ other ∈ oldFiles, other.path ≠ a.path → Path.Apart a.path other.path)
    (hapart' : ∀ other ∈ newFiles, other.path ≠ b.path → Path.Apart b.path other.path)
    (h : Fragment.Simulates exact (Fragment.Joined exact (Snapshot.fragmentOf config oldLabel a)
        (Snapshot.fragmentOf config newLabel b))
      (Snapshot.fragmentOf config oldLabel a) (Snapshot.fragmentOf config newLabel b)) :
    let old := Snapshot.ofFiles config oldLabel oldFiles
    let new := Snapshot.ofFiles config newLabel newFiles
    ∀ edge ∈ old.edges ++ new.edges, edge.filePath = some a.path →
      (between old new).edgeStatus? edge.id = some .unchanged := by
  intro old new edge hedge hpath
  have hvalid : old.Valid := Snapshot.valid_ofFiles config oldLabel oldFiles
  have hvalid' : new.Valid := Snapshot.valid_ofFiles config newLabel newFiles
  have hdisjoint : List.Disjoint old.edgeIds new.edgeIds :=
    Snapshot.disjoint_edgeIds_ofFiles hcolon hcolon' hne
  -- an edge is compared under a key that says in which file it starts
  have hcount {key : EdgeKey} (hkey : key.source.filePath = a.path) :
      (old.edges.map old.edgeKey).count key = (new.edges.map new.edgeKey).count key := by
    rw [Snapshot.count_edgeKey_ofFiles hold ha hapart hkey,
      Snapshot.count_edgeKey_ofFiles hnew hb hapart' (hkey.trans hsame),
      Snapshot.map_edgeKey_eq hold hnew ha hb hapart hapart' h]
  rcases List.mem_append.1 hedge with hedge | hedge
  · refine edgeStatus?_of_count_eq hvalid hvalid' hdisjoint
      (hcount (Snapshot.filePath_source hold ha hapart hedge hpath)) (List.mem_append_left _ ?_)
    exact mem_edgeIdsUnder.2 ⟨edge, hedge, rfl, rfl⟩
  · have hsource := Snapshot.filePath_source hnew hb hapart' hedge (hsame ▸ hpath)
    refine edgeStatus?_of_count_eq hvalid hvalid' hdisjoint (hcount (hsource.trans hsame.symm))
      (List.mem_append_right _ ?_)
    exact mem_edgeIdsUnder.2 ⟨edge, hedge, rfl, rfl⟩

/-- **What a file that is not touched contributes**: its edges are unchanged on both sides, and so are its
nodes as far as the other files do not displace them. -/
theorem between_untouched {config : AnalysisConfig} {oldLabel newLabel : SnapshotLabel}
    {oldFiles newFiles : List SourceFile} {file : SourceFile}
    (hcolon : ColonFree oldLabel.snapshotId) (hcolon' : ColonFree newLabel.snapshotId)
    (hne : oldLabel.snapshotId ≠ newLabel.snapshotId)
    (hold : (oldFiles.map (·.path)).Nodup) (hnew : (newFiles.map (·.path)).Nodup)
    (hmem : file ∈ oldFiles) (hmem' : file ∈ newFiles)
    (hapart : ∀ other ∈ oldFiles ++ newFiles, other.path ≠ file.path → Path.Apart file.path other.path)
    (hnames : (Fragment.ofSourceFile config.maxFileBytes oldLabel file).StandAlone) :
    let old := Snapshot.ofFiles config oldLabel oldFiles
    let new := Snapshot.ofFiles config newLabel newFiles
    (∀ edge ∈ old.edges ++ new.edges, edge.filePath = some file.path →
      (between old new).edgeStatus? edge.id = some .unchanged) ∧
    (∀ node ∈ old.nodes, node.filePath = file.path →
      (old.rivals node ≤ new.rivals node ∨ old.rivalsInPlace node ≤ new.rivalsInPlace node) →
      (between old new).nodeStatus? node.id = some .unchanged) ∧
    (∀ node ∈ new.nodes, node.filePath = file.path →
      (new.rivals node ≤ old.rivals node ∨ new.rivalsInPlace node ≤ old.rivalsInPlace node) →
      (between old new).nodeStatus? node.id = some .unchanged) := by
  intro old new
  have hseparate : Separate old new := Snapshot.separate_ofFiles hcolon hcolon' hne
  rw [List.forall_mem_append] at hapart
  have hnodes : List.Forall₂ (Node.Alike True) (old.nodes.filter (·.filePath = file.path))
      (new.nodes.filter (·.filePath = file.path)) :=
    Snapshot.forall₂_nodes_at hold hnew hmem hmem' hapart.1 hapart.2 hnames
  refine ⟨?_, fun node hnode hpath hrivals => ?_, fun node hnode hpath hrivals => ?_⟩
  · exact edges_unchanged_of_simulates hcolon hcolon' hne hold hnew hmem hmem' rfl hapart.1 hapart.2
      (Snapshot.simulates_same config oldLabel newLabel file hnames)
  · refine unchanged_of_rivals hseparate hnode (fun p hp => ?_) hrivals
    rw [hpath]
    exact countP_eq_of_forall₂ hnodes hp
  · -- the new side is the old one of the comparison the other way round
    refine (nodeStatus?_unchanged_swap hseparate _).1 ?_
    refine unchanged_of_rivals hseparate.symm hnode (fun p hp => ?_) hrivals
    rw [hpath]
    exact (countP_eq_of_forall₂ hnodes hp).symm

/-! ### Files that import one module -/

/-- A file that imports a module, in one language. -/
def importingOs (path : String) : SourceFile :=
  .ofRows path "import os\n"
    [⟨0, "module", 1, none, 0, 10⟩, ⟨1, "import_statement", 1, none, 0, 9⟩, ⟨2, "import", 0, none, 0, 6⟩,
     ⟨2, "dotted_name", 1, some "name", 7, 9⟩, ⟨3, "identifier", 1, none, 7, 9⟩]

theorem ofSourceFile_importingOs {path : String} (hpath : Language.ofPath path = .python)
    (label : SnapshotLabel) : Fragment.ofSourceFile 1048576 label (importingOs path) =
      .withOutlines label (importingOs path) "import os\n" [.imports "os"] := by
  refine Fragment.ofSourceFile_ofRows (by decide) (by rw [hpath]; rfl) (by decide) ?_ label
  rw [hpath]
  exact @Python.outlines_of_import _ ["os"] (by decide +kernel) (by decide +kernel)

/-- A file that imports a module of the same name, in another language. -/
def requiringOs (path : String) : SourceFile :=
  .ofRows path "import 'os';\n"
    [⟨0, "program", 1, none, 0, 13⟩, ⟨1, "import_statement", 1, none, 0, 12⟩,
     ⟨2, "import", 0, none, 0, 6⟩, ⟨2, "string", 1, some "source", 7, 11⟩, ⟨3, "'", 0, none, 7, 8⟩,
     ⟨3, "string_fragment", 1, none, 8, 10⟩, ⟨3, "'", 0, none, 10, 11⟩, ⟨2, ";", 0, none, 11, 12⟩]

theorem ofSourceFile_requiringOs {path : String} (hpath : Language.ofPath path = .javaScript)
    (label : SnapshotLabel) : Fragment.ofSourceFile 1048576 label (requiringOs path) =
      .withOutlines label (requiringOs path) "import 'os';\n" [.imports "os"] := by
  refine Fragment.ofSourceFile_ofRows (by decide) (by rw [hpath]; rfl) (by decide) ?_ label
  rw [hpath]
  exact Script.outlines_of_import (by decide +kernel) (by decide +kernel)

/-- A file that imports a module whose name looks like the end of a path. -/
def requiringColon (path : String) : SourceFile :=
  .ofRows path "import 'b.js:os';\n"
    [⟨0, "program", 1, none, 0, 18⟩, ⟨1, "import_statement", 1, none, 0, 17⟩,
     ⟨2, "import", 0, none, 0, 6⟩, ⟨2, "string", 1, some "source", 7, 16⟩, ⟨3, "'", 0, none, 7, 8⟩,
     ⟨3, "string_fragment", 1, none, 8, 15⟩, ⟨3, "'", 0, none, 15, 16⟩, ⟨2, ";", 0, none, 16, 17⟩]

theorem ofSourceFile_requiringColon {path : String} (hpath : Language.ofPath path = .javaScript)
    (label : SnapshotLabel) : Fragment.ofSourceFile 1048576 label (requiringColon path) =
      .withOutlines label (requiringColon path) "import 'b.js:os';\n" [.imports "b.js:os"] := by
  refine Fragment.ofSourceFile_ofRows (by decide) (by rw [hpath]; rfl) (by decide) ?_ label
  rw [hpath]
  exact Script.outlines_of_import (by decide +kernel) (by decide +kernel)

/-- The labels of two versions. -/
def sampleOldLabel : SnapshotLabel := ⟨"r", "v1", "old"⟩

@[inherit_doc sampleOldLabel]
def sampleNewLabel : SnapshotLabel := ⟨"r", "v2", "new"⟩

theorem between_untouched_first :
    (Fragment.ofSourceFile 1048576 sampleOldLabel (importingOs "z.py")).StandAlone ∧
      Path.Apart "z.py" "a.py" ∧
      let old := Snapshot.ofFiles {} sampleOldLabel [importingOs "z.py", importingOs "a.py"]
      let new := Snapshot.ofFiles {} sampleNewLabel [importingOs "z.py"]
      (∀ edge ∈ old.edges ++ new.edges, edge.filePath = some "z.py" →
        (between old new).edgeStatus? edge.id = some .unchanged) ∧
      (∀ node ∈ old.nodes, node.filePath = "z.py" →
        (old.rivals node ≤ new.rivals node ∨ old.rivalsInPlace node ≤ new.rivalsInPlace node) →
        (between old new).nodeStatus? node.id = some .unchanged) ∧
      (∀ node ∈ new.nodes, node.filePath = "z.py" →
        (new.rivals node ≤ old.rivals node ∨ new.rivalsInPlace node ≤ old.rivalsInPlace node) →
        (between old new).nodeStatus? node.id = some .unchanged) := by
  have hnames : (Fragment.ofSourceFile 1048576 sampleOldLabel (importingOs "z.py")).StandAlone := by
    rw [ofSourceFile_importingOs (by decide), Fragment.StandAlone]
    decide
  have hapart : Path.Apart "z.py" "a.py" := by
    unfold Path.Apart
    decide
  refine ⟨hnames, hapart, between_untouched (by unfold ColonFree; decide) (by unfold ColonFree; decide)
    (by decide) (by decide) (by decide) (.head _) (.head _) ?_ hnames⟩
  intro other hother hne
  simp only [List.cons_append, List.nil_append, List.mem_cons, List.not_mem_nil, or_false] at hother
  rcases hother with rfl | rfl | rfl
  · exact absurd rfl hne
  · exact hapart
  · exact absurd rfl hne

/-! ### Names with arrows -/

/-- The text of a file with two classes that hold another one. The names are not those of a grammar: they hold
arrows, and the link from the first class to the inner one is spelled like the link from the second one. -/
def arrowedText : String :=
  "class f:\n  class g->v1:Class:m.py:m.f->v1:Class:m.py:m.f.g.Y:\n    pass\n" ++
    "class f->v1:Class:m.py:m.f.g:\n  class Y:\n    pass\n"

@[inherit_doc arrowedText]
def arrowedClasses : SourceFile :=
  .ofRows "m.py" arrowedText
    [⟨0, "module", 1, none, 0, 121⟩,
     ⟨1, "class_definition", 1, none, 0, 70⟩, ⟨2, "class", 0, none, 0, 5⟩,
     ⟨2, "identifier", 1, some "name", 6, 7⟩, ⟨2, ":", 0, none, 7, 8⟩, ⟨2, "block", 1, some "body", 11, 70⟩,
     ⟨3, "class_definition", 1, none, 11, 70⟩, ⟨4, "class", 0, none, 11, 16⟩,
     ⟨4, "identifier", 1, some "name", 17, 60⟩, ⟨4, ":", 0, none, 60, 61⟩, ⟨4, "block", 1, some "body", 66, 70⟩,
     ⟨5, "pass_statement", 1, none, 66, 70⟩, ⟨6, "pass", 0, none, 66, 70⟩,
     ⟨1, "class_definition", 1, none, 71, 120⟩, ⟨2, "class", 0, none, 71, 76⟩,
     ⟨2, "identifier", 1, some "name", 77, 99⟩, ⟨2, ":", 0, none, 99, 100⟩, ⟨2, "block", 1, some "body", 103, 120⟩,
     ⟨3, "class_definition", 1, none, 103, 120⟩, ⟨4, "class", 0, none, 103, 108⟩,
     ⟨4, "identifier", 1, some "name", 109, 110⟩, ⟨4, ":", 0, none, 110, 111⟩, ⟨4, "block", 1, some "body", 116, 120⟩,
     ⟨5, "pass_statement", 1, none, 116, 120⟩, ⟨6, "pass", 0, none, 116, 120⟩]

/-- The class at a place in the file. -/
def arrowedClass (i : Nat) : SourceTree :=
  (arrowedClasses.tree.getD default).namedChildren.getD i default

/-- The class inside a class. -/
def innerClass (outer : SourceTree) : SourceTree :=
  (Python.members (outer.child? "body")).headD default

/-- The outline of a class that holds another one. -/
def outlineOfNested (outer : SourceTree) (name innerName : String) : Outline :=
  .declares (.ofTree .classType name outer .empty) [.declares (.ofTree .classType innerName (innerClass outer) .empty) []]

/-- The tree is a class without bases, with a name that says nothing about its kind. -/
def IsPlainClass (tree : SourceTree) (name : String) : Prop :=
  tree.kind = "class_definition" ∧ (tree.child? "name").map (·.text) = some name ∧
    Python.classKind name = .classType ∧ Python.baseNames tree = []

instance (tree : SourceTree) (name : String) : Decidable (IsPlainClass tree name) :=
  inferInstanceAs (Decidable (_ ∧ _))

theorem outline_of_isPlainClass {tree : SourceTree} {name : String} (h : IsPlainClass tree name) (inClass : Bool) :
    Python.outline inClass tree = [.declares (.ofTree .classType name tree .empty)
      (Python.outlines true (Python.members (tree.child? "body")))] := by
  obtain ⟨hkind, hname, hclass, hbases⟩ := h
  obtain ⟨found, hfound, rfl⟩ := Option.map_eq_some_iff.1 hname
  rw [Python.outline, hkind, if_neg (by decide), if_neg (by decide), if_pos (by decide),
    Python.definition_of_class inClass tree [] hkind hfound, hclass, hbases]
  rfl

/-- The tree is a class that holds nothing but a class that passes. -/
def Nests (outer : SourceTree) (name innerName : String) : Prop :=
  IsPlainClass outer name ∧ (Python.members (outer.child? "body")).length = 1 ∧
    IsPlainClass (innerClass outer) innerName ∧
    (Python.members ((innerClass outer).child? "body")).map (fun tree => (tree.kind, tree.namedChildren.length)) =
      [("pass_statement", 0)]

instance (outer : SourceTree) (name innerName : String) : Decidable (Nests outer name innerName) :=
  inferInstanceAs (Decidable (_ ∧ _))

theorem outline_of_nests {outer : SourceTree} {name innerName : String} (h : Nests outer name innerName) :
    Python.outline false outer = [outlineOfNested outer name innerName] := by
  obtain ⟨houter, hone, hinner, hpass⟩ := h
  obtain ⟨inner, hbody⟩ := List.length_eq_one_iff.1 hone
  have hsame : innerClass outer = inner := by
    rw [innerClass, hbody]
    rfl
  obtain ⟨pass, hpassed, heq⟩ := List.map_eq_singleton_iff.1 hpass
  obtain ⟨hkind, hempty⟩ := Prod.mk.inj heq
  have hnone : Python.outlines true [pass] = [] := by
    rw [Python.outlines, Python.outlines, List.append_nil, Python.outline, hkind, List.length_eq_zero_iff.1 hempty,
      if_neg (by decide), if_neg (by decide), if_neg (by decide), if_neg (by decide), if_pos (by decide +kernel),
      Python.outlines]
  rw [outline_of_isPlainClass houter, hbody, ← hsame, Python.outlines, Python.outlines, List.append_nil,
    outline_of_isPlainClass hinner, hpassed, hnone]
  rfl

theorem ofSourceFile_arrowedClasses (label : SnapshotLabel) :
    Fragment.ofSourceFile 1048576 label arrowedClasses = .withOutlines label arrowedClasses arrowedText
      [outlineOfNested (arrowedClass 0) "f" "g->v1:Class:m.py:m.f->v1:Class:m.py:m.f.g.Y",
       outlineOfNested (arrowedClass 1) "f->v1:Class:m.py:m.f.g" "Y"] := by
  have hlanguage : Language.ofPath "m.py" = .python := by decide +kernel
  have hfirst : Nests (arrowedClass 0) "f" "g->v1:Class:m.py:m.f->v1:Class:m.py:m.f.g.Y" := by decide +kernel
  have hsecond : Nests (arrowedClass 1) "f->v1:Class:m.py:m.f.g" "Y" := by decide +kernel
  have htwo : (arrowedClasses.tree.getD default).namedChildren.length = 2 := by decide +kernel
  obtain ⟨first, second, hboth⟩ := List.length_eq_two.1 htwo
  have hclasses : (arrowedClasses.tree.getD default).namedChildren = [arrowedClass 0, arrowedClass 1] := by
    rw [arrowedClass, arrowedClass, hboth]
    rfl
  refine Fragment.ofSourceFile_ofRows (by decide +kernel) (by rw [hlanguage]; rfl) (by decide +kernel) ?_ label
  rw [hlanguage]
  show Python.outlines false (arrowedClasses.tree.getD default).namedChildren = _
  rw [hclasses, Python.outlines, Python.outlines, Python.outlines, outline_of_nests hfirst, outline_of_nests hsecond]
  rfl

/-- **A node and an edge of a file that is not touched can change.** A module that both files import is
removed from the second one when the first one goes, since the new node takes the first partner. A file may
have the path of another file, a colon and more; then a node of the one can stand for a node of the other. With
an arrow in a name, two links can have one id in one of the snapshots only, and there the second one is lost. -/
theorem between_untouched_displaced :
    (let old := Snapshot.ofFiles {} sampleOldLabel [importingOs "a.py", importingOs "z.py"]
     let new := Snapshot.ofFiles {} sampleNewLabel [importingOs "z.py"]
     (∃ node ∈ old.nodes, node.id = "v1:Module:z.py:os" ∧ node.filePath = "z.py") ∧
       (between old new).nodeStatus? "v1:Module:z.py:os" = some .removed) ∧
    (let old := Snapshot.ofFiles {} sampleOldLabel [requiringColon "a.js", requiringOs "a.js:b.js"]
     let new := Snapshot.ofFiles {} sampleNewLabel [requiringOs "a.js:b.js"]
     let id := "IMPORTS:v2:File:a.js:b.js:a.js:b.js->v2:Module:a.js:b.js:os"
     (∃ edge ∈ new.edges, edge.id = id ∧ edge.filePath = some "a.js:b.js") ∧
       (between old new).edgeStatus? id = some .added) ∧
    (let old := Snapshot.ofFiles {} sampleOldLabel [arrowedClasses]
     let new := Snapshot.ofFiles {} sampleNewLabel [arrowedClasses]
     let id := "DECLARES:v2:Class:m.py:m.f->v1:Class:m.py:m.f.g->v2:Class:m.py:m.f->v1:Class:m.py:m.f.g.Y"
     (∃ edge ∈ new.edges, edge.id = id ∧ edge.filePath = some "m.py") ∧
       (between old new).edgeStatus? id = some .added) := by
  have hcolon : ColonFree sampleOldLabel.snapshotId := by unfold ColonFree; decide
  have hcolon' : ColonFree sampleNewLabel.snapshotId := by unfold ColonFree; decide
  have hne : sampleOldLabel.snapshotId ≠ sampleNewLabel.snapshotId := by decide
  refine ⟨?_, ?_, ?_⟩
  · intro old new
    rw [nodeStatus?_eq_some_iff (Snapshot.separate_ofFiles hcolon hcolon' hne)]
    simp only [old, Snapshot.ofFiles, List.map_cons, List.map_nil,
      ofSourceFile_importingOs (show Language.ofPath "a.py" = .python by decide +kernel),
      ofSourceFile_importingOs (show Language.ofPath "z.py" = .python by decide +kernel)]
    refine ⟨by decide +kernel, .symbol "os" .module, ?_⟩
    rw [pairingUnder, Pairing.ofSides, List.mergeSort_of_pairwise (by decide +kernel),
      List.mergeSort_of_pairwise (by decide +kernel)]
    decide +kernel
  · intro old new id
    rw [edgeStatus?_eq_some_iff (Snapshot.valid_ofFiles _ _ _) (Snapshot.valid_ofFiles _ _ _)
      (Snapshot.disjoint_edgeIds_ofFiles hcolon hcolon' hne)]
    simp only [new, id, Snapshot.ofFiles, List.map_cons, List.map_nil,
      ofSourceFile_requiringColon (show Language.ofPath "a.js" = .javaScript by decide +kernel),
      ofSourceFile_requiringOs (show Language.ofPath "a.js:b.js" = .javaScript by decide +kernel)]
    refine ⟨by decide +kernel,
      ⟨.imports, ⟨.file, "a.js:b.js", "a.js:b.js"⟩, ⟨.module, "a.js:b.js", "os"⟩, none⟩, ?_⟩
    rw [edgeOutcomes, Text.sort, Text.sort, List.mergeSort_of_pairwise (by decide +kernel),
      List.mergeSort_of_pairwise (by decide +kernel)]
    decide +kernel
  · intro old new id
    rw [edgeStatus?_eq_some_iff (Snapshot.valid_ofFiles _ _ _) (Snapshot.valid_ofFiles _ _ _)
      (Snapshot.disjoint_edgeIds_ofFiles hcolon hcolon' hne)]
    simp only [new, id, Snapshot.ofFiles, List.map_cons, List.map_nil, ofSourceFile_arrowedClasses]
    refine ⟨by decide +kernel, ⟨.declares, ⟨.classType, "m.py", "m.f->v1:Class:m.py:m.f.g"⟩,
      ⟨.classType, "m.py", "m.f->v1:Class:m.py:m.f.g.Y"⟩, none⟩, ?_⟩
    rw [edgeOutcomes, Text.sort, Text.sort, List.mergeSort_of_pairwise (by decide +kernel),
      List.mergeSort_of_pairwise (by decide +kernel)]
    decide +kernel

end Delta

end StructuralDiff
