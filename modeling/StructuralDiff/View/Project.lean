import StructuralDiff.Delta.Basic
import StructuralDiff.Graph.Index
import StructuralDiff.View.Basic

/-!
# The views of a delta

How a snapshot looks from each perspective.

* Control flow: callables are groups that hold their branches; flow edges join branches, and call sites
  lead to the groups of their callees.
* Declarations: everything but branches, nested as declared.
* Components: user interface components and hooks, grouped by the file that holds them.
-/

namespace StructuralDiff

/-- The edge of a view between given endpoints. -/
def Edge.shown (edge : Edge) (source target : String) (relation : Relation) (delta : Delta) :
    ViewEdge :=
  { id := edge.id, source, target, relation
    flowType := edge.flowType?
    status := delta.edgeStatusOf edge.id }

namespace View

/-! ### Control flow -/

/-- The node that shows a callable or a branch, if the node is one. -/
def controlFlowNode? (index : Index) (delta : Delta) (node : Node) : Option ViewNode :=
  let shown := ViewNode.ofNode node (delta.statusOf node.id)
  if node.kind.isCallable then
    let parent? := (index.ancestors node.id).find? (·.kind.isCallable)
    some { shown with
      id := groupId node.id
      kind := groupKind
      isGroup := true
      parentId := parent?.map fun parent => groupId parent.id }
  else if node.kind == .branch then
    let parent? := (index.parent? node.id).filter (·.kind.isCallable)
    some { shown with parentId := parent?.map fun parent => groupId parent.id }
  else none

/-- The edge that shows flow between branches or a call site, if the edge is one. -/
def controlFlowEdge? (index : Index) (delta : Delta) (edge : Edge) : Option ViewEdge :=
  match index.node? edge.source, index.node? edge.target with
  | some source, some target =>
    if edge.isFlow && source.kind == .branch && target.kind == .branch then
      some (edge.shown source.id target.id .flow delta)
    else if edge.isCallSite && source.kind == .branch && target.kind.isCallable then
      some (edge.shown source.id (groupId target.id) .invoke delta)
    else none
  | _, _ => none

/-- The control flow of a snapshot. -/
def controlFlow (delta : Delta) (snapshot : Snapshot) : View :=
  let index := Index.ofSnapshot snapshot
  { graphId := makeId snapshot .controlFlow
    perspective := .controlFlow
    nodes := snapshot.nodes.filterMap (controlFlowNode? index delta)
    edges := snapshot.edges.filterMap (controlFlowEdge? index delta) }

/-! ### Declarations -/

/-- How an edge between declarations is shown. Declaring itself is shown by nesting. -/
def declarationRelation? (edge : Edge) : Option Relation :=
  match edge.kind with
  | .calls => if edge.isFlow || edge.isCallSite then none else some .invoke
  | .usesHook => some .invoke
  | .extends | .implements | .imports | .exposesEndpoint | .renders => some .hierarchy
  | .declares => none

/-- The ids of the nodes that are not branches. -/
def declarationIds (snapshot : Snapshot) : List String :=
  (snapshot.nodes.filter (·.kind != .branch)).map (·.id)

/-- The declarations of a snapshot. -/
def declarations (delta : Delta) (snapshot : Snapshot) : View :=
  let index := Index.ofSnapshot snapshot
  let included := declarationIds snapshot
  { graphId := makeId snapshot .declarations
    perspective := .declarations
    nodes := (snapshot.nodes.filter fun node => included.contains node.id).map fun node =>
      { ViewNode.ofNode node (delta.statusOf node.id) with
        parentId :=
          ((index.parent? node.id).filter fun parent => included.contains parent.id).map (·.id)
        isGroup := (index.children node.id).any fun child => included.contains child.id }
    edges := snapshot.edges.filterMap fun edge =>
      if included.contains edge.source && included.contains edge.target then
        (declarationRelation? edge).map fun relation =>
          edge.shown edge.source edge.target relation delta
      else none }

/-! ### Components -/

/-- How an edge between components is shown. -/
def componentRelation? (edge : Edge) : Option Relation :=
  match edge.kind with
  | .renders => some .hierarchy
  | .usesHook => some .invoke
  | .calls => if edge.isFlow || edge.isCallSite then none else some .invoke
  | _ => none

/-- The file that a node is declared in. -/
def enclosingFile? (index : Index) (id : String) : Option Node :=
  (index.ancestors id).find? (·.kind == .file)

/-- The components and hooks of a snapshot. -/
def components (delta : Delta) (snapshot : Snapshot) : View :=
  let index := Index.ofSnapshot snapshot
  let members := snapshot.nodes.filter fun node => node.kind == .component || node.kind == .hook
  let memberIds := members.map (·.id)
  let files := (members.filterMap fun node => enclosingFile? index node.id).map (·.id)
  let groups := (snapshot.nodes.filter fun node => files.contains node.id).map fun node =>
    { ViewNode.ofNode node (delta.statusOf node.id) with isGroup := true }
  { graphId := makeId snapshot .components
    perspective := .components
    nodes := groups ++ members.map fun node =>
      { ViewNode.ofNode node (delta.statusOf node.id) with
        parentId := (enclosingFile? index node.id).map (·.id) }
    edges := snapshot.edges.filterMap fun edge =>
      if memberIds.contains edge.source && memberIds.contains edge.target then
        (componentRelation? edge).map fun relation =>
          edge.shown edge.source edge.target relation delta
      else none }

/-- A snapshot from a perspective. -/
def project (perspective : Perspective) (delta : Delta) (snapshot : Snapshot) : View :=
  match perspective with
  | .controlFlow => controlFlow delta snapshot
  | .declarations => declarations delta snapshot
  | .components => components delta snapshot

end View

namespace Delta

/-- Both snapshots of a delta from a perspective. -/
def viewPair (delta : Delta) (perspective : Perspective) : ViewPair :=
  { old := View.project perspective delta delta.old
    new := View.project perspective delta delta.new }

/-- The views of a delta from all perspectives. -/
def views (delta : Delta) : List (Perspective × ViewPair) :=
  Perspective.all.map fun perspective => (perspective, delta.viewPair perspective)

end Delta

end StructuralDiff
