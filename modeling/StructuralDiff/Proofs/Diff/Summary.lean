import StructuralDiff.Proofs.Delta.Emptiness
import StructuralDiff.Proofs.Delta.Risk
import StructuralDiff.Proofs.Diff.Accounting
import StructuralDiff.Proofs.Fragment.FileNode

/-!
# Files with a summary

Without hunks, a file has a summary because of the node that stands for it, or because of one of its symbols.
Changed modules, branches and edges count only as far as they show in these.

* `Delta.exists_mem_symbolRisks`: which paths have a listed symbol.
* `Snapshot.HasFiles`: every path of a snapshot has one node that stands for the file.
* `Delta.summarized_or_kept`: a path without a summary belongs to a file that both snapshots have with the
  same tokens and without a listed symbol.
-/

namespace StructuralDiff

/-! ### Summaries -/

namespace Delta

/-- A symbol at the path is listed: one that was removed, or one of the new snapshot that has changed. -/
def ListsSymbolAt (delta : Delta) (path : String) : Prop :=
  (∃ node ∈ delta.old.nodes, node.filePath = path ∧ node.kind.isSymbol = true ∧
    delta.nodeStatus? node.id = some .removed) ∨
  ∃ node ∈ delta.new.nodes, node.filePath = path ∧ node.kind.isSymbol = true ∧
    (delta.statusOf node.id).isChanged = true

theorem exists_mem_symbolRisks {delta : Delta} {path : String} :
    (∃ symbol ∈ delta.symbolRisks, symbol.filePath = path) ↔ delta.ListsSymbolAt path := by
  constructor
  · rintro ⟨symbol, hsymbol, rfl⟩
    obtain ⟨node, hnode, hkind, hremoved, rfl⟩ | ⟨node, hnode, hkind, status, hstatus, hchanged, rfl⟩ :=
      mem_symbolRisks.1 hsymbol
    · exact .inl ⟨node, hnode, rfl, hkind, hremoved⟩
    · exact .inr ⟨node, hnode, rfl, hkind, by rw [statusOf, hstatus]; exact hchanged⟩
  · rintro (⟨node, hnode, rfl, hkind, hremoved⟩ | ⟨node, hnode, rfl, hkind, hchanged⟩)
    · exact ⟨_, mem_symbolRisks.2 (.inl ⟨node, hnode, hkind, hremoved, rfl⟩), rfl⟩
    · cases hstatus : delta.nodeStatus? node.id with
      | none =>
        rw [statusOf, hstatus] at hchanged
        cases hchanged
      | some status =>
        rw [statusOf, hstatus] at hchanged
        exact ⟨_, mem_symbolRisks.2 (.inr ⟨node, hnode, hkind, status, hstatus, hchanged, rfl⟩), rfl⟩

/-- Without hunks, there is something to say when the file or one of its symbols has changed. -/
theorem isSome_fileSummary?_empty {delta : Delta} {symbols : List SymbolRisk} {path : String} :
    (delta.fileSummary? symbols .empty path).isSome = true ↔
      delta.fileStatus path ≠ .unchanged ∨ ∃ symbol ∈ symbols, symbol.filePath = path := by
  rw [isSome_fileSummary?, FilePatch.churnAt, effectiveStatus, Table.get?_empty, or_comm]
  simp

end Delta

/-! ### The nodes that stand for files -/

namespace Node

theorem makeId_inj_of_colonFree {snapshotId snapshotId' : String} {kind kind' : NodeKind}
    {path path' name name' : String} (hs : ColonFree snapshotId) (hs' : ColonFree snapshotId')
    (h : makeId snapshotId kind path name = makeId snapshotId' kind' path' name') :
    kind = kind' ∧ path.toList ++ ':' :: name.toList = path'.toList ++ ':' :: name'.toList := by
  have hchars := congrArg String.toList h
  rw [makeId_toList, makeId_toList] at hchars
  obtain ⟨-, hrest⟩ := append_separator_inj hs hs' hchars
  obtain ⟨hkind, hnames⟩ := append_separator_inj kind.colonFree_name kind'.colonFree_name hrest
  exact ⟨NodeKind.name_inj (String.toList_inj.mp hkind), hnames⟩

/-- The id of a file says its path, whatever the path is. -/
theorem path_eq_of_makeId_file {snapshotId snapshotId' path path' : String} (hs : ColonFree snapshotId)
    (hs' : ColonFree snapshotId')
    (h : makeId snapshotId .file path path = makeId snapshotId' .file path' path') : path = path' := by
  have hnames := (makeId_inj_of_colonFree hs hs' h).2
  -- the separator is in the middle of both
  have hlength := congrArg List.length hnames
  simp only [List.length_append, List.length_cons] at hlength
  exact String.toList_inj.mp (List.append_inj hnames (by omega)).1

end Node

namespace Snapshot

theorem mem_fileNodes {snapshot : Snapshot} {node : Node} :
    node ∈ snapshot.fileNodes ↔ node ∈ snapshot.nodes ∧ node.kind = .file := by
  rw [fileNodes, List.mem_filter, beq_iff_eq]

/-- Ids say the kinds of their nodes, and every path has the node of its file. -/
structure HasFiles (snapshot : Snapshot) : Prop where
  colonFree : ColonFree snapshot.snapshotId
  nodes : ∀ node ∈ snapshot.nodes,
    node.id = Node.makeId snapshot.snapshotId node.kind node.filePath node.qualifiedName
  names : ∀ node ∈ snapshot.nodes, node.kind = .file → node.qualifiedName = node.filePath
  ofNode : ∀ node ∈ snapshot.nodes, ∃ file ∈ snapshot.nodes,
    file.kind = .file ∧ file.filePath = node.filePath
  ofEdge : ∀ edge ∈ snapshot.edges, ∃ file ∈ snapshot.nodes,
    file.kind = .file ∧ edge.filePath = some file.filePath

section Files

variable {config : AnalysisConfig} {label : SnapshotLabel} {files : List SourceFile}

/-- A node of the snapshot of some files is one that a file contributes. -/
theorem exists_of_mem_nodes {node : Node} (h : node ∈ (ofFiles config label files).nodes) :
    ∃ file ∈ files, node ∈ (fragmentOf config label file).nodes := by
  rw [nodes_ofFiles] at h
  exact List.mem_flatMap.1 ((distinctBy_sublist _ _).subset h)

theorem exists_of_mem_edges {edge : Edge} (h : edge ∈ (ofFiles config label files).edges) :
    ∃ file ∈ files, edge ∈ (fragmentOf config label file).edges := by
  rw [edges_ofFiles] at h
  exact List.mem_flatMap.1 ((distinctBy_sublist _ _).subset h)

theorem qualifiedName_of_file {node : Node} (h : node ∈ (ofFiles config label files).nodes)
    (hkind : node.kind = .file) : node.qualifiedName = node.filePath := by
  obtain ⟨file, -, hnode⟩ := exists_of_mem_nodes h
  rw [(id_of_mem_nodes hnode).2, Fragment.hasOneFile_ofSourceFile config.maxFileBytes label file node hnode
    hkind, path_fragmentOf]

theorem id_of_mem_ofFiles {node : Node} (h : node ∈ (ofFiles config label files).nodes) :
    node.id = Node.makeId label.snapshotId node.kind node.filePath node.qualifiedName := by
  obtain ⟨file, -, hnode⟩ := exists_of_mem_nodes h
  obtain ⟨hid, hpath⟩ := id_of_mem_nodes hnode
  rw [hid, hpath]

/-- Each file has a node that stands for it. -/
theorem exists_file_of_mem (config : AnalysisConfig) (hcolon : ColonFree label.snapshotId)
    {file : SourceFile} (h : file ∈ files) :
    ∃ node ∈ (ofFiles config label files).nodes, node.kind = .file ∧ node.filePath = file.path := by
  have hsound : (fragmentOf config label file).Sound := sound_fragmentOf file
  obtain ⟨own, hown, hid, -⟩ := hsound.file
  have hin : own.id ∈ (ofFiles config label files).nodeIds :=
    mem_nodeIds_merge.2 ⟨_, List.mem_map_of_mem h, own, hown, rfl⟩
  obtain ⟨node, hnode, hsame⟩ := List.mem_map.1 hin
  have hfileId : (fragmentOf config label file).fileId =
      Node.makeId label.snapshotId .file file.path file.path :=
    congrArg (·.2.2.2) (Fragment.origin_ofSourceFile _ label file)
  rw [hid, hfileId, id_of_mem_ofFiles hnode] at hsame
  have hkind := (Node.makeId_inj_of_colonFree hcolon hcolon hsame).1
  rw [hkind, qualifiedName_of_file hnode hkind] at hsame
  exact ⟨node, hnode, hkind, Node.path_eq_of_makeId_file hcolon hcolon hsame⟩

/-- **The snapshot of files has a node for each file.** -/
theorem hasFiles_ofFiles (config : AnalysisConfig) (files : List SourceFile)
    (hcolon : ColonFree label.snapshotId) : (ofFiles config label files).HasFiles := by
  refine ⟨hcolon, fun node => id_of_mem_ofFiles, fun node => qualifiedName_of_file, fun node hnode => ?_,
    fun edge hedge => ?_⟩
  · obtain ⟨file, hfile, hmem⟩ := exists_of_mem_nodes hnode
    rw [(id_of_mem_nodes hmem).2]
    exact exists_file_of_mem config hcolon hfile
  · obtain ⟨file, hfile, hmem⟩ := exists_of_mem_edges hedge
    obtain ⟨node, hnode, hkind, hpath⟩ := exists_file_of_mem config hcolon hfile
    exact ⟨node, hnode, hkind, by rw [(id_of_mem_edges hmem).2, hpath]⟩

/-- Files whose paths do not agree up to line numbers have nodes whose paths do not either. -/
theorem filePath_eq_of_files {label' : SnapshotLabel} {files' : List SourceFile}
    (hpaths : ∀ a ∈ files, ∀ b ∈ files',
      Name.withoutPositions a.path = Name.withoutPositions b.path → a.path = b.path) :
    ∀ a ∈ (ofFiles config label files).fileNodes, ∀ b ∈ (ofFiles config label' files').fileNodes,
      Name.withoutPositions a.filePath = Name.withoutPositions b.filePath → a.filePath = b.filePath := by
  intro a ha b hb
  obtain ⟨file, hfile, hmem⟩ := exists_of_mem_nodes (mem_fileNodes.1 ha).1
  obtain ⟨file', hfile', hmem'⟩ := exists_of_mem_nodes (mem_fileNodes.1 hb).1
  rw [(id_of_mem_nodes hmem).2, (id_of_mem_nodes hmem').2]
  exact hpaths file hfile file' hfile'

end Files

namespace HasFiles

/-- A path has one file. -/
theorem eq_of_filePath_eq {snapshot : Snapshot} (h : snapshot.HasFiles) (hvalid : snapshot.Valid) {a b : Node}
    (ha : a ∈ snapshot.fileNodes) (hb : b ∈ snapshot.fileNodes) (hpath : a.filePath = b.filePath) :
    a = b := by
  rw [mem_fileNodes] at ha hb
  refine hvalid.eq_of_id_eq ha.1 hb.1 ?_
  rw [h.nodes a ha.1, h.nodes b hb.1, h.names a ha.1 ha.2, h.names b hb.1 hb.2, ha.2, hb.2, hpath]

/-- A file is alone under its key when everything under the key is a file at its path. -/
theorem filter_key_eq {snapshot : Snapshot} (h : snapshot.HasFiles) (hvalid : snapshot.Valid) {file : Node}
    (hfile : file ∈ snapshot.fileNodes)
    (halone : ∀ node ∈ snapshot.nodes, node.key = file.key →
      node.kind = .file ∧ node.filePath = file.filePath) :
    snapshot.nodes.filter (·.key = file.key) = [file] := by
  refine List.perm_singleton.1 ((List.perm_ext_iff_of_nodup (hvalid.nodes_nodup.filter _)
    (List.nodup_singleton file)).2 fun node => ?_)
  rw [List.mem_filter, decide_eq_true_eq, List.mem_singleton]
  refine ⟨fun ⟨hnode, hkey⟩ => ?_, fun heq => by rw [heq]; exact ⟨(mem_fileNodes.1 hfile).1, rfl⟩⟩
  obtain ⟨hkind, hpath⟩ := halone node hnode hkey
  exact h.eq_of_filePath_eq hvalid (mem_fileNodes.2 ⟨hnode, hkind⟩) hfile hpath

variable {old new : Snapshot} (hold : old.HasFiles) (hnew : new.HasFiles)

include hold hnew

/-- A node with the id of a file is that file, in the other snapshot too. -/
theorem file_of_id_eq {a b : Node} (ha : a ∈ old.nodes) (hb : b ∈ new.nodes) (hfile : a.kind = .file)
    (hid : a.id = b.id) : b.kind = .file ∧ b.filePath = a.filePath := by
  rw [hold.nodes a ha, hnew.nodes b hb, hfile, hold.names a ha hfile] at hid
  have hkind := (Node.makeId_inj_of_colonFree hold.colonFree hnew.colonFree hid).1.symm
  rw [hkind, hnew.names b hb hkind] at hid
  exact ⟨hkind, (Node.path_eq_of_makeId_file hold.colonFree hnew.colonFree hid).symm⟩

/-- Files correspond when their paths agree up to line numbers. -/
theorem file_of_key_eq {a b : Node} (ha : a ∈ old.nodes) (hb : b ∈ new.nodes) (hfile : a.kind = .file)
    (hkey : a.key = b.key) : b.kind = .file ∧
      Name.withoutPositions a.filePath = Name.withoutPositions b.filePath := by
  have hname := hold.names a ha hfile
  have hkind : b.kind = .file := by
    unfold Node.key at hkey
    rw [hfile] at hkey
    by_cases hbranch : (b.kind == .branch) = true
    · simp [hbranch] at hkey
    · simp [hbranch] at hkey
      exact hkey.2.symm
  simp only [Node.key, hfile, hkind, hname, hnew.names b hb hkind] at hkey
  exact ⟨hkind, by simpa using hkey⟩

end HasFiles

end Snapshot

/-! ### Files without a summary -/

namespace Delta

open Snapshot (mem_fileNodes)

/-- Both snapshots have the file at the path with the same tokens, and no symbol of it is listed. -/
structure KeptAt (delta : Delta) (path : String) : Prop where
  file : ∃ a ∈ delta.old.fileNodes, ∃ b ∈ delta.new.fileNodes,
    a.filePath = path ∧ b.filePath = path ∧ a.signature = b.signature
  symbols : ¬delta.ListsSymbolAt path

section Between

variable {old new : Snapshot}

/-- Every node has an outcome that its pairing gives it. -/
theorem exists_nodeStatus? {node : Node} (h : node ∈ old.nodes ∨ node ∈ new.nodes) : ∃ status key,
    (between old new).nodeStatus? node.id = some status ∧
      (node.id, status) ∈ (pairingUnder old new key).statuses := by
  have hid : node.id ∈ ((pairings old new).flatMap Pairing.statuses).map Prod.fst := by
    rw [map_fst_statuses_perm.mem_iff, Snapshot.nodeIds, Snapshot.nodeIds, ← List.map_append]
    exact List.mem_map_of_mem (List.mem_append.2 h)
  obtain ⟨status, hstatus, hmem⟩ := Table.exists_get?_ofList hid
  obtain ⟨key, hkey⟩ := mem_statuses_iff.1 hmem
  exact ⟨status, key, hstatus, hkey⟩

variable (hold : old.HasFiles) (hnew : new.HasFiles)
  (hpaths : ∀ a ∈ old.fileNodes, ∀ b ∈ new.fileNodes,
    Name.withoutPositions a.filePath = Name.withoutPositions b.filePath → a.filePath = b.filePath)

include hold hnew hpaths

/-- A file is only paired with the file at the same path. -/
theorem files_of_mem_pairs {key : NodeKey} {pair : Node × Node} {file : Node}
    (hpair : pair ∈ (pairingUnder old new key).unchanged ++ (pairingUnder old new key).modified)
    (hfile : file ∈ old.fileNodes ∨ file ∈ new.fileNodes)
    (hid : file.id = pair.1.id ∨ file.id = pair.2.id) :
    (pair.1 ∈ old.fileNodes ∧ pair.1.filePath = file.filePath) ∧
      pair.2 ∈ new.fileNodes ∧ pair.2.filePath = file.filePath := by
  obtain ⟨⟨hfirst, hkey⟩, hsecond, hkey'⟩ := sides_of_mem_pairs hpair
  simp only [mem_fileNodes] at hfile hpaths ⊢
  rcases hid with hid | hid
  · have hone : pair.1.kind = .file ∧ pair.1.filePath = file.filePath :=
      hfile.elim (fun h => hold.file_of_id_eq hold h.1 hfirst h.2 hid)
        fun h => hnew.file_of_id_eq hold h.1 hfirst h.2 hid
    obtain ⟨hkind, hnames⟩ := hold.file_of_key_eq hnew hfirst hsecond hone.1 (hkey.trans hkey'.symm)
    have hsame := hpaths _ ⟨hfirst, hone.1⟩ _ ⟨hsecond, hkind⟩ hnames
    exact ⟨⟨⟨hfirst, hone.1⟩, hone.2⟩, ⟨hsecond, hkind⟩, hsame ▸ hone.2⟩
  · have hone : pair.2.kind = .file ∧ pair.2.filePath = file.filePath :=
      hfile.elim (fun h => hold.file_of_id_eq hnew h.1 hsecond h.2 hid)
        fun h => hnew.file_of_id_eq hnew h.1 hsecond h.2 hid
    obtain ⟨hkind, hnames⟩ := hnew.file_of_key_eq hold hsecond hfirst hone.1 (hkey'.trans hkey.symm)
    have hsame := hpaths _ ⟨hfirst, hkind⟩ _ ⟨hsecond, hone.1⟩ hnames.symm
    exact ⟨⟨⟨hfirst, hkind⟩, hsame.trans hone.2⟩, ⟨hsecond, hone.1⟩, hone.2⟩

/-- A file of the new snapshot that counts as unchanged was there before, with the same tokens. -/
theorem exists_of_file_unchanged {file : Node} (hfile : file ∈ new.fileNodes)
    (hstatus : (between old new).statusOf file.id = .unchanged) :
    ∃ a ∈ old.fileNodes, ∃ b ∈ new.fileNodes,
      a.filePath = file.filePath ∧ b.filePath = file.filePath ∧ a.signature = b.signature := by
  have hnode : file ∈ old.nodes ∨ file ∈ new.nodes := .inr (mem_fileNodes.1 hfile).1
  obtain ⟨status, key, hsome, hmem⟩ := exists_nodeStatus? hnode
  rw [statusOf, hsome, Option.getD_some] at hstatus
  rw [hstatus, Pairing.mem_statuses_unchanged] at hmem
  obtain ⟨pair, hpair, hid⟩ := hmem
  obtain ⟨⟨hfirst, hpath⟩, hsecond, hpath'⟩ := files_of_mem_pairs hold hnew hpaths
    (List.mem_append_left _ hpair) (.inr hfile) hid
  exact ⟨pair.1, hfirst, pair.2, hsecond, hpath, hpath', (Pairing.signature_eq_of_mem_unchanged _ _ hpair).symm⟩

/-- A file of the old snapshot that is not in the new one was removed. -/
theorem removed_of_file {file : Node} (hfile : file ∈ old.fileNodes)
    (hgone : ∀ other ∈ new.fileNodes, other.filePath ≠ file.filePath) :
    (between old new).nodeStatus? file.id = some .removed := by
  have hnode : file ∈ old.nodes ∨ file ∈ new.nodes := .inl (mem_fileNodes.1 hfile).1
  obtain ⟨status, key, hsome, hmem⟩ := exists_nodeStatus? hnode
  have hnone (pair : Node × Node) (hpair : pair ∈ (pairingUnder old new key).unchanged ++
      (pairingUnder old new key).modified) : ¬(file.id = pair.1.id ∨ file.id = pair.2.id) := fun hid =>
    have hsecond := (files_of_mem_pairs hold hnew hpaths hpair (.inl hfile) hid).2
    hgone _ hsecond.1 hsecond.2
  rcases Pairing.mem_statuses.1 hmem with ⟨pair, hpair, hid, -⟩ | ⟨pair, hpair, hid, -⟩ | ⟨_, -, -, hstatus⟩ |
    ⟨added, hadded, hid, -⟩
  · exact absurd hid (hnone pair (List.mem_append_left _ hpair))
  · exact absurd hid (hnone pair (List.mem_append_right _ hpair))
  · rw [hsome, hstatus]
  · obtain ⟨hfileOld, hkind⟩ := mem_fileNodes.1 hfile
    have hleft : added ∈ (pairingUnder old new key).newLeft := List.mem_append_right _ hadded
    obtain ⟨hin, -⟩ := mem_new_side.1 (.inr hleft)
    obtain ⟨hkind', hpath⟩ := hold.file_of_id_eq hnew hfileOld hin hkind hid
    exact absurd hpath (hgone added (mem_fileNodes.2 ⟨hin, hkind'⟩))

/-- **A file has a summary unless it was kept**: the same tokens in both snapshots and no listed symbol. -/
theorem summarized_or_kept {path : String}
    (hpath : ∃ file, (file ∈ old.fileNodes ∨ file ∈ new.fileNodes) ∧ file.filePath = path) :
    let delta := between old new
    path ∈ (delta.fileSummaries delta.symbolRisks .empty).map (·.path) ∨ delta.KeptAt path := by
  intro delta
  rw [mem_map_path_fileSummaries, mem_candidatePaths, isSome_fileSummary?_empty]
  by_cases hsymbols : ∃ symbol ∈ delta.symbolRisks, symbol.filePath = path
  · exact .inl ⟨.inr (.inr (.inl hsymbols)), .inr hsymbols⟩
  have hlists : ¬delta.ListsSymbolAt path := fun h => hsymbols (exists_mem_symbolRisks.2 h)
  by_cases hlast : ∃ file ∈ new.fileNodes, file.filePath = path
  · -- the file of the new snapshot decides
    obtain ⟨file, hsome⟩ := exists_getLast?_filePath hlast
    have hstatus : delta.fileStatus path = FileStatus.ofStatus (delta.statusOf file.id) := by
      rw [fileStatus, show delta.new = new from rfl, hsome]
    have hmem := List.mem_filter.1 (List.mem_of_getLast? hsome)
    rw [beq_iff_eq] at hmem
    by_cases hsame : delta.statusOf file.id = .unchanged
    · obtain ⟨a, ha, b, hb, hfile⟩ := exists_of_file_unchanged hold hnew hpaths hmem.1 hsame
      rw [hmem.2] at hfile
      exact .inr ⟨⟨a, ha, b, hb, hfile⟩, hlists⟩
    · refine .inl ⟨.inr (.inl hlast), .inl ?_⟩
      rw [hstatus]
      revert hsame
      cases delta.statusOf file.id <;> decide
  · -- the file is gone, and so its node was removed
    obtain ⟨file, hfile, hfilePath⟩ := hpath
    have hin : file ∈ old.fileNodes := hfile.resolve_right fun h => hlast ⟨file, h, hfilePath⟩
    have hremoved := removed_of_file hold hnew hpaths hin fun other hother heq =>
      hlast ⟨other, hother, heq.trans hfilePath⟩
    have hlisted : ∃ node ∈ delta.removedFiles, node.filePath = path :=
      ⟨file, List.mem_filter.2 ⟨hin, by simp [delta, hremoved]⟩, hfilePath⟩
    refine .inl ⟨.inl hlisted, .inl ?_⟩
    have hnone : (new.fileNodes.filter (·.filePath == path)).getLast? = none :=
      getLast?_filePath_eq_none_iff.2 fun other hother heq => hlast ⟨other, hother, heq⟩
    rw [fileStatus, show delta.new = new from rfl, hnone]
    simp only [List.any_eq_true, beq_iff_eq, hlisted, if_true]
    decide

/-- A file that is at one path with the same tokens is unchanged. -/
theorem statusOf_of_same_tokens (h : Separate old new) {a b : Node} (ha : a ∈ old.fileNodes)
    (hb : b ∈ new.fileNodes) (hpath : a.filePath = b.filePath) (hsignature : a.signature = b.signature) :
    (between old new).statusOf b.id = .unchanged := by
  rw [mem_fileNodes] at ha hb
  have hkey : a.key = b.key := by
    simp [Node.key, ha.2, hb.2, hold.names a ha.1 ha.2, hnew.names b hb.1 hb.2, hpath]
  have hone : old.nodes.filter (·.key = b.key) = [a] := by
    rw [← hkey]
    refine hold.filter_key_eq h.old_valid (mem_fileNodes.2 ha) fun x hx hxkey => ?_
    obtain ⟨hkind, hnames⟩ := hnew.file_of_key_eq hold hb.1 hx hb.2 (hkey.symm.trans hxkey.symm)
    have hsame := hpaths x (mem_fileNodes.2 ⟨hx, hkind⟩) b (mem_fileNodes.2 hb) hnames.symm
    exact ⟨hkind, hsame.trans hpath.symm⟩
  have hother : new.nodes.filter (·.key = b.key) = [b] := by
    refine hnew.filter_key_eq h.new_valid (mem_fileNodes.2 hb) fun x hx hxkey => ?_
    obtain ⟨hkind, hnames⟩ := hold.file_of_key_eq hnew ha.1 hx ha.2 (hkey.trans hxkey.symm)
    have hsame := hpaths a (mem_fileNodes.2 ha) x (mem_fileNodes.2 ⟨hx, hkind⟩) hnames
    exact ⟨hkind, hsame.symm.trans hpath⟩
  have hleft : (pairingUnder old new b.key).newLeft = [] := by
    rw [pairingUnder, hone, hother]
    refine (left_eq_nil_iff.2 fun s => ?_).2
    rw [List.countP_singleton, List.countP_singleton, hsignature]
  have hunchanged : b ∈ (pairingUnder old new b.key).unchanged.map Prod.snd :=
    (mem_new_side.2 ⟨hb.1, rfl⟩).resolve_right (by rw [hleft]; exact List.not_mem_nil)
  obtain ⟨pair, hpair, rfl⟩ := List.mem_map.1 hunchanged
  rw [statusOf, (nodeStatus?_of_unchanged h hpair).2, Option.getD_some]

/-- A file that was kept has no summary. -/
theorem not_summarized_of_kept (h : Separate old new) {path : String}
    (hkept : (between old new).KeptAt path) :
    path ∉ ((between old new).fileSummaries (between old new).symbolRisks .empty).map (·.path) := by
  rw [mem_map_path_fileSummaries, isSome_fileSummary?_empty, exists_mem_symbolRisks, or_iff_left hkept.symbols]
  rintro ⟨-, hstatus⟩
  obtain ⟨a, ha, b, hb, hpatha, hpathb, hsignature⟩ := hkept.file
  obtain ⟨file, hsome⟩ : ∃ file, (new.fileNodes.filter (·.filePath == path)).getLast? = some file :=
    exists_getLast?_filePath ⟨b, hb, hpathb⟩
  have hmem := List.mem_filter.1 (List.mem_of_getLast? hsome)
  have hfile : file = b :=
    hnew.eq_of_filePath_eq h.new_valid hmem.1 hb ((beq_iff_eq.1 hmem.2).trans hpathb.symm)
  refine hstatus ?_
  rw [fileStatus, show (between old new).new = new from rfl, hsome]
  dsimp only
  rw [hfile, statusOf_of_same_tokens hold hnew hpaths h ha hb (hpatha.trans hpathb.symm) hsignature]
  rfl

end Between

end Delta

end StructuralDiff
