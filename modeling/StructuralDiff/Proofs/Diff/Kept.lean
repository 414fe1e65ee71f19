import StructuralDiff.Proofs.Analysis.Reformatting
import StructuralDiff.Proofs.Diff.Registry

/-!
# Changes in files without a summary

A file without a summary is in both snapshots with the same tokens. Something in it may have changed all the same,
for one of two reasons: the two versions are nested differently, which the tokens do not show, or nodes of other
files have taken the partners of its nodes.

* `SourceFile.code?`: the code of a file, as far as there is one.
* `Snapshot.simulates_of_code?_eq`: versions of a file with the same code have corresponding fragments.
* `Delta.displacedAt_of_simulates`: with corresponding fragments, only a node that is outnumbered can change.
* `Delta.KeptAt.displaced_or_recoded`: the reasons for a change in a file that was kept.
* `Registry.summarized_or_displaced_or_recoded`: no other change is without a summary.
-/

namespace StructuralDiff

/-! ### Versions of a file -/

/-- The tree of a file with neither comments nor places, if the file can be analyzed. -/
def SourceFile.code? (maxFileBytes : Nat) (file : SourceFile) : Option SourceTree :=
  (file.parsed maxFileBytes).toOption.map (·.2.code)

/-- Of two files with the same code both can be analyzed, or neither. -/
theorem SourceFile.code?_eq_cases {maxFileBytes : Nat} {a b : SourceFile}
    (h : a.code? maxFileBytes = b.code? maxFileBytes) :
    (∃ text tree text' tree', a.parsed maxFileBytes = .ok (text, tree) ∧
      b.parsed maxFileBytes = .ok (text', tree') ∧ tree.code = tree'.code) ∨
    ∃ error error', a.parsed maxFileBytes = .error error ∧ b.parsed maxFileBytes = .error error' := by
  unfold code? at h
  cases ha : a.parsed maxFileBytes with
  | ok parsed =>
    cases hb : b.parsed maxFileBytes with
    | ok parsed' =>
      rw [ha, hb] at h
      exact .inl ⟨_, _, _, _, rfl, rfl, Option.some.inj h⟩
    | error error =>
      rw [ha, hb] at h
      cases h
  | error error =>
    cases hb : b.parsed maxFileBytes with
    | ok parsed =>
      rw [ha, hb] at h
      cases h
    | error error' => exact .inr ⟨error, error', rfl, rfl⟩

namespace Snapshot

variable {config : AnalysisConfig} {label label' : SnapshotLabel} {files files' : List SourceFile}

/-- The files can be told apart: their paths are different and no path begins another one up to a colon, names
stand alone, no id is repeated, and comments stand aside. -/
structure ClearFiles (config : AnalysisConfig) (label : SnapshotLabel) (files : List SourceFile) : Prop where
  nodup : (files.map (·.path)).Nodup
  apart : ∀ a ∈ files, ∀ b ∈ files, b.path ≠ a.path → Path.Apart a.path b.path
  unambiguous : ∀ file ∈ files, (Fragment.ofSourceFile config.maxFileBytes label file).Unambiguous
  wellKept : ∀ file ∈ files, ∀ text tree, file.parsed config.maxFileBytes = .ok (text, tree) → tree.WellKept

/-- A file that cannot be analyzed is one node. -/
theorem fragmentOf_of_error {file : SourceFile} {error : AnalysisError}
    (h : file.parsed config.maxFileBytes = .error error) :
    fragmentOf config label file = .ofError label file error := by
  rw [fragmentOf, Fragment.ofSourceFile, h]

/-- **Versions of a file with the same code have corresponding fragments.** Versions that cannot be analyzed have one
node each, and these should have the same tokens. -/
theorem simulates_of_code?_eq (hold : ClearFiles config label files) (hnew : ClearFiles config label' files')
    {a b : SourceFile} (ha : a ∈ files) (hb : b ∈ files') (hpath : a.path = b.path)
    (hcode : a.code? config.maxFileBytes = b.code? config.maxFileBytes)
    {x y : Node} (hx : x ∈ (fragmentOf config label a).nodes) (hy : y ∈ (fragmentOf config label' b).nodes)
    (hsignature : x.signature = y.signature) : Fragment.Simulates False
      (Fragment.Joined False (fragmentOf config label a) (fragmentOf config label' b))
      (fragmentOf config label a) (fragmentOf config label' b) := by
  have hleft := hold.unambiguous a ha
  have hright := hnew.unambiguous b hb
  obtain ⟨text, tree, text', tree', hparsed, hparsed', hsame⟩ | ⟨error, error', herror, herror'⟩ :=
    SourceFile.code?_eq_cases hcode
  · have hrelaid : Relaid config label label' a b :=
      ⟨hpath, ⟨text, tree, text', tree', hparsed, hparsed', hold.wellKept a ha _ _ hparsed,
        hnew.wellKept b hb _ _ hparsed', hsame⟩, hleft, hright⟩
    exact hrelaid.simulates
  · have hm : Fragment.Matchable False
        (Fragment.Joined False (fragmentOf config label a) (fragmentOf config label' b))
        (fragmentOf config label a) (fragmentOf config label' b) :=
      Fragment.matchable_joined hleft.names fun _ => hright.names
    rw [fragmentOf_of_error herror] at hx hm ⊢
    rw [fragmentOf_of_error herror'] at hy hm ⊢
    -- the one node of each of them has the text of the file as its tokens
    have htext : Signature.ofText (Text.ofBytesLossy a.bytes) = Signature.ofText (Text.ofBytesLossy b.bytes) := by
      rw [List.mem_singleton.1 hx, List.mem_singleton.1 hy] at hsignature
      exact Option.some.inj hsignature
    unfold Fragment.ofError at hm ⊢
    dsimp only at hm ⊢
    rw [← hpath, ← htext] at hm ⊢
    exact Fragment.simulates_ofFile False.elim hm

/-- Files with corresponding fragments have nodes that are alike. -/
theorem forall₂_nodes_of_simulates (hold : ClearFiles config label files) (hnew : ClearFiles config label' files')
    {a b : SourceFile} (ha : a ∈ files) (hb : b ∈ files')
    (h : Fragment.Simulates False
      (Fragment.Joined False (fragmentOf config label a) (fragmentOf config label' b))
      (fragmentOf config label a) (fragmentOf config label' b)) :
    List.Forall₂ (Node.Alike False) ((ofFiles config label files).nodes.filter (·.filePath = a.path))
      ((ofFiles config label' files').nodes.filter (·.filePath = b.path)) := by
  rw [nodes_ofFiles_at hold.nodup ha (hold.apart a ha), nodes_ofFiles_at hnew.nodup hb (hnew.apart b hb),
    distinctBy_of_nodup (hold.unambiguous a ha).ids fun _ _ => List.not_mem_nil,
    distinctBy_of_nodup (hnew.unambiguous b hb).ids fun _ _ => List.not_mem_nil]
  exact h.nodes

/-- The two versions at a path do not have the same code. -/
def RecodedAt (config : AnalysisConfig) (files files' : List SourceFile) (path : String) : Prop :=
  ∃ a ∈ files, ∃ b ∈ files', a.path = path ∧ b.path = path ∧
    a.code? config.maxFileBytes ≠ b.code? config.maxFileBytes

end Snapshot

/-! ### Nodes without a partner -/

namespace Delta

/-- A changed node at the path has more nodes like it in the other files of its own side than in those of the
other side. -/
def DisplacedAt (delta : Delta) (path : String) : Prop :=
  (∃ node ∈ delta.old.nodes, node.filePath = path ∧ (delta.statusOf node.id).isChanged = true ∧
    delta.new.rivals node < delta.old.rivals node) ∨
  ∃ node ∈ delta.new.nodes, node.filePath = path ∧ (delta.statusOf node.id).isChanged = true ∧
    delta.old.rivals node < delta.new.rivals node

/-- In particular a changed node has the key of a node in another file. -/
theorem DisplacedAt.exists_rival {delta : Delta} {path : String} (h : delta.DisplacedAt path) :
    ∃ snapshot ∈ [delta.old, delta.new], ∃ node ∈ snapshot.nodes, node.filePath = path ∧
      (delta.statusOf node.id).isChanged = true ∧ ∃ rival ∈ snapshot.nodes, rival.filePath ≠ path ∧
        rival.key = node.key ∧ rival.signature = node.signature := by
  have hrival {snapshot : Snapshot} {node : Node} {n : Nat} (hlt : n < snapshot.rivals node) :
      ∃ rival ∈ snapshot.nodes, rival.filePath ≠ node.filePath ∧
        rival.key = node.key ∧ rival.signature = node.signature := by
    obtain ⟨rival, hmem, hlike⟩ := List.countP_pos_iff.1 (Nat.zero_lt_of_lt hlt)
    exact ⟨rival, hmem, of_decide_eq_true hlike⟩
  rcases h with ⟨node, hnode, rfl, hchanged, hlt⟩ | ⟨node, hnode, rfl, hchanged, hlt⟩
  · exact ⟨delta.old, .head _, node, hnode, rfl, hchanged, hrival hlt⟩
  · exact ⟨delta.new, .tail _ (.head _), node, hnode, rfl, hchanged, hrival hlt⟩

theorem ne_unchanged_of_isChanged {delta : Delta} {id : String} (h : (delta.statusOf id).isChanged = true) :
    delta.nodeStatus? id ≠ some .unchanged := by
  intro hstatus
  rw [statusOf, hstatus] at h
  cases h

section Versions

variable {config : AnalysisConfig} {oldLabel newLabel : SnapshotLabel} {oldFiles newFiles : List SourceFile}
  (hcolon : ColonFree oldLabel.snapshotId) (hcolon' : ColonFree newLabel.snapshotId)
  (hne : oldLabel.snapshotId ≠ newLabel.snapshotId)
  (hold : Snapshot.ClearFiles config oldLabel oldFiles) (hnew : Snapshot.ClearFiles config newLabel newFiles)

include hcolon hcolon' hne hold hnew

/-- In a file whose two versions have corresponding fragments something has changed only when a node of it is
outnumbered. -/
theorem displacedAt_of_simulates {a b : SourceFile} (ha : a ∈ oldFiles) (hb : b ∈ newFiles)
    (hsame : a.path = b.path)
    (h : Fragment.Simulates False
      (Fragment.Joined False (Snapshot.fragmentOf config oldLabel a) (Snapshot.fragmentOf config newLabel b))
      (Snapshot.fragmentOf config oldLabel a) (Snapshot.fragmentOf config newLabel b))
    (hchanged : (between (.ofFiles config oldLabel oldFiles) (.ofFiles config newLabel newFiles)).ChangedAt a.path) :
    (between (.ofFiles config oldLabel oldFiles) (.ofFiles config newLabel newFiles)).DisplacedAt a.path := by
  have hseparate : Separate (.ofFiles config oldLabel oldFiles) (.ofFiles config newLabel newFiles) :=
    Snapshot.separate_ofFiles hcolon hcolon' hne
  have hnodes := Snapshot.forall₂_nodes_of_simulates hold hnew ha hb h
  rw [← hsame] at hnodes
  have hcount (node : Node) := countP_eq_of_forall₂ hnodes
    (p := fun other => decide (other.key = node.key ∧ other.signature = node.signature))
    fun _ _ hxy => by rw [hxy.key, hxy.signature]
  rcases hchanged with ⟨node, hnode, hpath, hnodeChanged⟩ | ⟨edge, hedge, hpath, hedgeChanged⟩
  · have hstatus := ne_unchanged_of_isChanged hnodeChanged
    rw [← hpath] at hcount
    rcases List.mem_append.1 hnode with hnode | hnode
    · refine .inl ⟨node, hnode, hpath, hnodeChanged, Nat.lt_of_not_le fun hle => hstatus ?_⟩
      exact unchanged_of_rivals_le hseparate hnode (hcount node) hle
    · refine .inr ⟨node, hnode, hpath, hnodeChanged, Nat.lt_of_not_le fun hle => hstatus ?_⟩
      -- the new side is the old one of the comparison the other way round
      refine (nodeStatus?_unchanged_swap hseparate _).1 ?_
      exact unchanged_of_rivals_le hseparate.symm hnode (hcount node).symm hle
  · -- no edge of the file has changed
    have hunchanged := edges_unchanged_of_simulates hcolon hcolon' hne hold.nodup hnew.nodup ha hb hsame
      (hold.apart a ha) (hnew.apart b hb) h edge hedge hpath
    rw [edgeStatusOf, hunchanged] at hedgeChanged
    cases hedgeChanged

/-- **Why something has changed in a file that was kept**: a node of it is outnumbered by those of other files, or
its two versions are nested differently. -/
theorem KeptAt.displaced_or_recoded {path : String}
    (hkept : (between (.ofFiles config oldLabel oldFiles) (.ofFiles config newLabel newFiles)).KeptAt path)
    (hchanged : (between (.ofFiles config oldLabel oldFiles) (.ofFiles config newLabel newFiles)).ChangedAt path) :
    (between (.ofFiles config oldLabel oldFiles) (.ofFiles config newLabel newFiles)).DisplacedAt path ∨
      Snapshot.RecodedAt config oldFiles newFiles path := by
  obtain ⟨x, hx, y, hy, hxpath, hypath, hsignature⟩ := hkept.file
  obtain ⟨a, ha, hxa⟩ := Snapshot.exists_of_mem_nodes (Snapshot.mem_fileNodes.1 hx).1
  obtain ⟨b, hb, hyb⟩ := Snapshot.exists_of_mem_nodes (Snapshot.mem_fileNodes.1 hy).1
  obtain rfl : a.path = path := (Snapshot.id_of_mem_nodes hxa).2.symm.trans hxpath
  have hsame : b.path = a.path := (Snapshot.id_of_mem_nodes hyb).2.symm.trans hypath
  by_cases hcode : a.code? config.maxFileBytes = b.code? config.maxFileBytes
  · have hsimulates := Snapshot.simulates_of_code?_eq hold hnew ha hb hsame.symm hcode hxa hyb hsignature
    exact .inl (displacedAt_of_simulates hcolon hcolon' hne hold hnew ha hb hsame.symm hsimulates hchanged)
  · exact .inr ⟨a, ha, b, hb, rfl, hsame, hcode⟩

end Versions

end Delta

/-! ### Registered comparisons -/

namespace Registry

variable {σ : Type} {store : Store σ} {config : AnalysisConfig} {request : DiffRequest} {registry : Registry σ}

/-- **A change without a summary** is in a file with a node that is outnumbered, or in one that is nested
differently in its two versions. -/
theorem summarized_or_displaced_or_recoded {id : String} (hcolon : ColonFree request.old.snapshotId)
    (hcolon' : ColonFree request.new.snapshotId) (hne : request.old.snapshotId ≠ request.new.snapshotId)
    (hold : Snapshot.ClearFiles config (request.old.label request.repoId) request.old.files)
    (hnew : Snapshot.ClearFiles config (request.new.label request.repoId) request.new.files)
    (hpaths : ∀ a ∈ request.old.files, ∀ b ∈ request.new.files,
      Name.withoutPositions a.path = Name.withoutPositions b.path → a.path = b.path)
    (hpatches : request.patches = [])
    (hanalyzed : (store.obtain config request registry.state).1 =
      (request.old.analyzed config request.repoId, request.new.analyzed config request.repoId))
    (hok : (create store config request registry).1 = .ok id) :
    ∃ record, (create store config request registry).2.diff? id = some record ∧
      ∀ path, record.delta.ChangedAt path →
        path ∈ record.files.map (·.path) ∨ record.delta.DisplacedAt path ∨
          Snapshot.RecodedAt config request.old.files request.new.files path := by
  have hdelta := obtainedDelta_of_analyzed hanalyzed
  refine ⟨_, diff?_create hok, fun path hchanged => ?_⟩
  rw [hdelta] at hchanged ⊢
  refine (summarized_or_kept hcolon hcolon' hpaths hpatches hchanged).imp_right fun hkept => ?_
  exact Delta.KeptAt.displaced_or_recoded hcolon hcolon' hne hold hnew hkept hchanged

/-! ### A file that goes, and one with the same import -/

open Delta (importingOs ofSourceFile_importingOs)

/-- Files that import a module can be told apart when their paths can. -/
theorem clearFiles_importingOs {label : SnapshotLabel} {paths : List String} (hnodup : paths.Nodup)
    (hapart : ∀ a ∈ paths, ∀ b ∈ paths, b ≠ a → Path.Apart a b)
    (hpython : ∀ path ∈ paths, Language.ofPath path = .python)
    (hnames : ∀ path ∈ paths,
      (Fragment.withOutlines label (importingOs path) "import os\n" [.imports "os"]).StandAlone)
    (hids : ∀ path ∈ paths,
      ((Fragment.withOutlines label (importingOs path) "import os\n" [.imports "os"]).nodes.map (·.id)).Nodup) :
    Snapshot.ClearFiles {} label (paths.map importingOs) where
  nodup := by
    rw [List.map_map]
    exact (List.map_id paths).symm ▸ hnodup
  apart := by
    simp only [List.forall_mem_map]
    exact hapart
  unambiguous := by
    simp only [List.forall_mem_map]
    intro path hpath
    rw [ofSourceFile_importingOs (hpython path hpath)]
    exact ⟨hnames path hpath, hids path hpath⟩
  wellKept := by
    simp only [List.forall_mem_map]
    intro path hpath text tree hparsed
    have hlanguage : (Language.ofPath path).isAnalyzable = true := by rw [hpython path hpath]; rfl
    rw [importingOs, SourceFile.parsed_ofRows (by decide) hlanguage (by decide)] at hparsed
    obtain ⟨-, rfl⟩ := Prod.mk.inj (Except.ok.inj hparsed)
    exact ⟨by decide +kernel, by decide +kernel⟩

/-- In the file that stays it is the module that is outnumbered. -/
theorem displacedAt_sharedImport : (sharedImport.analyzedDelta {}).DisplacedAt "z.py" := by
  have hapart : ∀ a ∈ ["a.py", "z.py"], ∀ b ∈ ["a.py", "z.py"], b ≠ a → Path.Apart a b := by
    unfold Path.Apart
    decide
  have hold : Snapshot.ClearFiles {} ⟨"r", "v1", "old"⟩ sharedImport.old.files :=
    clearFiles_importingOs (by decide) hapart (by decide +kernel) (by unfold Fragment.StandAlone; decide) (by decide)
  have hnew : Snapshot.ClearFiles {} ⟨"r", "v2", "new"⟩ sharedImport.new.files :=
    @clearFiles_importingOs _ ["z.py"] (by decide) (fun a ha b hb => hapart a (.tail _ ha) b (.tail _ hb))
      (by decide +kernel) (by unfold Fragment.StandAlone; decide) (by decide)
  obtain hdisplaced | ⟨a, ha, b, hb, hpatha, -, hcode⟩ := Delta.KeptAt.displaced_or_recoded
    colonFree_sharedImport.1 colonFree_sharedImport.2 (by decide) hold hnew keptAt_sharedImport changedAt_sharedImport
  · exact hdisplaced
  · -- the file is the same in both snapshots
    rw [sharedImport, List.mem_singleton] at hb
    simp only [sharedImport, List.mem_cons, List.not_mem_nil, or_false] at ha
    rcases ha with rfl | rfl
    · exact absurd hpatha (by decide)
    · exact absurd (congrArg _ hb.symm) hcode

end Registry

end StructuralDiff
