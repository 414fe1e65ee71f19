import StructuralDiff.Diff.Record
import StructuralDiff.Proofs.Delta.Revision

/-!
# Records without revisions

What a record shows is made of ids, names, places and outcomes, so it does not depend on the revisions that the
compared snapshots name.

* `Delta.views_unrevised`, `Delta.symbolRisks_unrevised`, `Delta.fileSummaries_unrevised`: views, risks and
  summaries are the same.
* `DiffRecord.ofDelta_unrevised`: so is the record, up to the snapshots in it.
-/

namespace StructuralDiff

/-! ### Views -/

namespace View

variable (delta : Delta)

section Index

variable (index : Index)

theorem find?_ancestors_unrevised (id : String) (p : NodeKind → Bool) :
    (index.unrevised.ancestors id).find? (fun node => p node.kind) =
      ((index.ancestors id).find? fun node => p node.kind).map Node.unrevised := by
  rw [Index.ancestors_unrevised, List.find?_map]
  rfl

theorem controlFlowNode?_unrevised (node : Node) :
    controlFlowNode? index.unrevised delta node.unrevised = controlFlowNode? index delta node := by
  unfold controlFlowNode?
  dsimp only [Node.id_unrevised, Node.kind_unrevised]
  rw [find?_ancestors_unrevised index node.id NodeKind.isCallable, index.parent?_unrevised, Option.filter_map,
    Option.map_map, Option.map_map]
  rfl

theorem controlFlowEdge?_unrevised (edge : Edge) :
    controlFlowEdge? index.unrevised delta edge.unrevised = controlFlowEdge? index delta edge := by
  have hsource : index.unrevised.node? edge.unrevised.source = (index.node? edge.source).map Node.unrevised :=
    index.node?_unrevised edge.source
  have htarget : index.unrevised.node? edge.unrevised.target = (index.node? edge.target).map Node.unrevised :=
    index.node?_unrevised edge.target
  rw [controlFlowEdge?, hsource, htarget, controlFlowEdge?]
  cases index.node? edge.source <;> cases index.node? edge.target <;> rfl

theorem enclosingFile?_unrevised (id : String) :
    enclosingFile? index.unrevised id = (enclosingFile? index id).map Node.unrevised :=
  find?_ancestors_unrevised index id (· == .file)

end Index

variable (snapshot : Snapshot)

theorem controlFlow_unrevised : controlFlow delta snapshot.unrevised = controlFlow delta snapshot := by
  have hnodes : snapshot.unrevised.nodes = snapshot.nodes.map Node.unrevised := rfl
  have hedges : snapshot.unrevised.edges = snapshot.edges.map Edge.unrevised := rfl
  simp only [controlFlow, Index.ofSnapshot_unrevised, hnodes, hedges, List.filterMap_map, Function.comp_def,
    controlFlowNode?_unrevised, controlFlowEdge?_unrevised]
  rfl

theorem declarationIds_unrevised : declarationIds snapshot.unrevised = declarationIds snapshot := by
  rw [declarationIds, Snapshot.unrevised, List.filter_map, List.map_map]
  rfl

theorem declarations_unrevised : declarations delta snapshot.unrevised = declarations delta snapshot := by
  have hnodes : snapshot.unrevised.nodes = snapshot.nodes.map Node.unrevised := rfl
  have hedges : snapshot.unrevised.edges = snapshot.edges.map Edge.unrevised := rfl
  simp only [declarations, Index.ofSnapshot_unrevised, declarationIds_unrevised, hnodes, hedges,
    List.filterMap_map, List.filter_map, List.map_map, Function.comp_def, Node.id_unrevised,
    Index.parent?_unrevised, Index.children_unrevised, Option.filter_map, Option.map_map, List.any_map]
  rfl

theorem components_unrevised : components delta snapshot.unrevised = components delta snapshot := by
  have hnodes : snapshot.unrevised.nodes = snapshot.nodes.map Node.unrevised := rfl
  have hedges : snapshot.unrevised.edges = snapshot.edges.map Edge.unrevised := rfl
  simp only [components, Index.ofSnapshot_unrevised, hnodes, hedges, List.filterMap_map, List.filter_map,
    List.map_map, Function.comp_def, Node.id_unrevised, Node.kind_unrevised, enclosingFile?_unrevised,
    Option.map_map, List.map_filterMap]
  rfl

theorem project_unrevised (perspective : Perspective) :
    project perspective delta snapshot.unrevised = project perspective delta snapshot := by
  cases perspective with
  | controlFlow => exact controlFlow_unrevised delta snapshot
  | declarations => exact declarations_unrevised delta snapshot
  | components => exact components_unrevised delta snapshot

end View

/-! ### Risks and summaries -/

namespace Delta

variable (delta : Delta)

/-- **The views are the same.** -/
theorem views_unrevised : delta.unrevised.views = delta.views := by
  refine List.map_congr_left fun perspective _ => congrArg (perspective, ·) ?_
  show ViewPair.mk (View.project perspective delta delta.old.unrevised)
    (View.project perspective delta delta.new.unrevised) = _
  rw [View.project_unrevised, View.project_unrevised]
  rfl

theorem ofNode_unrevised (index : Index) (status : Status) (node : Node) :
    SymbolRisk.ofNode index.unrevised status node.unrevised = SymbolRisk.ofNode index status node := by
  have hstats : Risk.Stats.ofNode index.unrevised node.unrevised = Risk.Stats.ofNode index node := by
    simp only [Risk.Stats.ofNode, Node.id_unrevised, Index.incomingCalls_unrevised,
      Index.outgoingCalls_unrevised, Index.ownedDeclarations_unrevised]
    rfl
  simp only [SymbolRisk.ofNode, hstats]
  rfl

/-- **The risks of the changed symbols are the same.** -/
theorem symbolRisks_unrevised : delta.unrevised.symbolRisks = delta.symbolRisks := by
  have hold : delta.unrevised.old.nodes = delta.old.nodes.map Node.unrevised := rfl
  have hnew : delta.unrevised.new.nodes = delta.new.nodes.map Node.unrevised := rfl
  have holdIndex : Index.ofSnapshot delta.unrevised.old = (Index.ofSnapshot delta.old).unrevised :=
    Index.ofSnapshot_unrevised delta.old
  have hnewIndex : Index.ofSnapshot delta.unrevised.new = (Index.ofSnapshot delta.new).unrevised :=
    Index.ofSnapshot_unrevised delta.new
  simp only [symbolRisks, hold, hnew, holdIndex, hnewIndex, List.filter_map, List.map_map, Function.comp_def,
    ofNode_unrevised, Node.id_unrevised, Node.kind_unrevised]
  rfl

theorem fileNodes_unrevised (snapshot : Snapshot) :
    snapshot.unrevised.fileNodes = snapshot.fileNodes.map Node.unrevised := by
  rw [Snapshot.fileNodes, Snapshot.unrevised, List.filter_map]
  rfl

theorem removedFiles_unrevised :
    delta.unrevised.removedFiles = delta.removedFiles.map Node.unrevised := by
  rw [removedFiles, show delta.unrevised.old = delta.old.unrevised from rfl, fileNodes_unrevised,
    List.filter_map]
  rfl

theorem fileStatus_unrevised (path : String) : delta.unrevised.fileStatus path = delta.fileStatus path := by
  have hpath : (fun node : Node => node.filePath == path) ∘ Node.unrevised = fun node => node.filePath == path :=
    rfl
  rw [fileStatus, removedFiles_unrevised, show delta.unrevised.new = delta.new.unrevised from rfl,
    fileNodes_unrevised, List.filter_map, List.getLast?_map, List.any_map, hpath, fileStatus]
  cases (delta.new.fileNodes.filter fun node => node.filePath == path).getLast? <;> rfl

/-- **The summaries of the changed files are the same.** -/
theorem fileSummaries_unrevised (symbols : List SymbolRisk) (patches : Table FilePatch) :
    delta.unrevised.fileSummaries symbols patches = delta.fileSummaries symbols patches := by
  have hpaths : delta.unrevised.candidatePaths symbols patches = delta.candidatePaths symbols patches := by
    rw [candidatePaths, removedFiles_unrevised, show delta.unrevised.new = delta.new.unrevised from rfl,
      fileNodes_unrevised, List.map_map, List.map_map]
    rfl
  have hsummary : delta.unrevised.fileSummary? symbols patches = delta.fileSummary? symbols patches := by
    funext path
    simp only [fileSummary?, fileStatus_unrevised]
  rw [fileSummaries, hpaths, hsummary]
  rfl

end Delta

/-- The record without the revisions of its snapshots. -/
def DiffRecord.unrevised (record : DiffRecord) : DiffRecord :=
  { record with delta := record.delta.unrevised }

/-- **A record shows the same whatever the revisions of its snapshots are.** -/
theorem DiffRecord.ofDelta_unrevised (repoId : String) (old new : SnapshotLabel) (patches : List FilePatch)
    (delta : Delta) :
    ofDelta repoId old new patches delta.unrevised = (ofDelta repoId old new patches delta).unrevised := by
  simp only [ofDelta, unrevised, Delta.views_unrevised, Delta.symbolRisks_unrevised,
    Delta.fileSummaries_unrevised]

end StructuralDiff
