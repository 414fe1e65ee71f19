import StructuralDiff.Proofs.Analysis.Clash

/-!
# The node of the file

A fragment starts with the node of its file, and nothing that is recorded later stands for a file: symbols,
branches and imported modules have kinds of their own.

* `HasOneFile`: the nodes of kind file have the path as their name.
* `HasOneFile.recordAll`: recording regular outlines adds no such node.
* `hasOneFile_ofSourceFile`: this holds of the fragment of every file.
-/

namespace StructuralDiff

namespace Fragment

/-- Only the file itself stands for a file. -/
def HasOneFile (fragment : Fragment) : Prop :=
  ∀ node ∈ fragment.nodes, node.kind = .file → node.qualifiedName = fragment.path

/-- New nodes of other kinds do not stand for a file. -/
theorem HasOneFile.of_append {a b : Fragment} (h : a.HasOneFile) (hpath : b.path = a.path)
    {added : List Node} (hnodes : b.nodes = a.nodes ++ added) (hkinds : ∀ node ∈ added, node.kind ≠ .file) :
    b.HasOneFile := by
  intro node hnode hfile
  rw [hnodes, List.mem_append] at hnode
  rw [hpath]
  exact hnode.elim (fun hold => h node hold hfile) fun hnew => absurd hfile (hkinds node hnew)

theorem HasOneFile.addImport {fragment : Fragment} (h : fragment.HasOneFile) (module : String) :
    (fragment.addImport module).HasOneFile := by
  have hpath := (grows_addImport fragment module).path
  revert hpath
  unfold Fragment.addImport
  dsimp only
  split
  · exact fun _ => h
  · intro hpath
    refine h.of_append hpath (nodes_addEdge _ _ _ _ _ _) fun node hnode => ?_
    rw [List.mem_singleton.1 hnode]
    exact nofun

/-- A symbol is one new node of the kind that is declared. -/
theorem exists_node_recordSymbol (fragment : Fragment) (scope : Scope) (declaration : Declaration) :
    ∃ node : Node, node.kind = declaration.kind ∧
      (recordSymbol scope declaration fragment).nodes = fragment.nodes ++ [node] := by
  unfold recordSymbol
  dsimp only
  split
  · rw [nodes_addEdge]
    exact ⟨_, rfl, nodes_addEdge _ _ _ _ _ _⟩
  · exact ⟨_, rfl, nodes_addEdge _ _ _ _ _ _⟩

theorem HasOneFile.recordSymbol {fragment : Fragment} (h : fragment.HasOneFile) (scope : Scope)
    {declaration : Declaration} (hkind : declaration.kind.isSymbol = true) :
    (recordSymbol scope declaration fragment).HasOneFile := by
  have hpath := (grows_recordSymbol fragment scope declaration).path
  obtain ⟨node, hnode, hnodes⟩ := exists_node_recordSymbol fragment scope declaration
  refine h.of_append hpath hnodes fun other hother hfile => ?_
  rw [List.mem_singleton.1 hother, hnode] at hfile
  rw [hfile] at hkind
  exact nomatch hkind

theorem HasOneFile.addFlow {fragment : Fragment} (h : fragment.HasOneFile) (owner : Recorded)
    (body : List FlowStmt) : (fragment.addFlow owner body).HasOneFile := by
  refine h.of_append (grows_addFlow fragment owner body).path (nodes_addFlow _ _ _) fun node hnode => ?_
  rw [← List.map_uncurry_zip_eq_zipWith] at hnode
  obtain ⟨⟨label, site⟩, -, rfl⟩ := List.mem_map.1 hnode
  exact nofun

mutual

theorem HasOneFile.record {scope : Scope} {outline : Outline} {fragment : Fragment}
    (houtline : outline.regular = true) (h : fragment.HasOneFile) :
    (record scope outline fragment).HasOneFile := by
  match outline with
  | .imports module => exact h.addImport module
  | .refers _ _ => exact h
  | .flows body => exact h.addFlow scope.symbol body
  | .declares declaration body =>
    simp only [Outline.regular, Bool.and_eq_true] at houtline
    rw [record_declares]
    exact HasOneFile.recordAll houtline.2 (h.recordSymbol scope houtline.1.1)

/-- **Recording regular outlines adds no node for a file.** -/
theorem HasOneFile.recordAll {scope : Scope} {outlines : List Outline} {fragment : Fragment}
    (houtlines : Outline.regularAll outlines = true) (h : fragment.HasOneFile) :
    (recordAll scope outlines fragment).HasOneFile := by
  match outlines with
  | [] => exact h
  | outline :: rest =>
    rw [Outline.regularAll, Bool.and_eq_true] at houtlines
    rw [Fragment.recordAll]
    exact HasOneFile.recordAll houtlines.2 (HasOneFile.record houtlines.1 h)

end

theorem hasOneFile_ofFile (label : SnapshotLabel) (path : String) (language : Language)
    (source signature : String) (metadata : Metadata) :
    (ofFile label path language source signature metadata).HasOneFile := by
  intro node hnode _
  rw [List.mem_singleton.1 hnode]
  rfl

/-- **The fragment of a file has one node that stands for a file.** -/
theorem hasOneFile_ofSourceFile (maxFileBytes : Nat) (label : SnapshotLabel) (file : SourceFile) :
    (ofSourceFile maxFileBytes label file).HasOneFile := by
  unfold ofSourceFile
  split
  · refine HasOneFile.of_append (a := recordAll _ _ _) ?_ (grows_resolved _).path
      ((nodes_resolved _).trans (List.append_nil _).symm) fun _ hnone => absurd hnone List.not_mem_nil
    exact HasOneFile.recordAll (Language.regularAll_outlines _ _) (hasOneFile_ofFile _ _ _ _ _ _)
  · exact hasOneFile_ofFile _ _ _ _ _ _

end Fragment

end StructuralDiff
