import StructuralDiff.Bound
import StructuralDiff.Graph.Kind
import StructuralDiff.Metadata

/-!
# Snapshot graphs

One parsed version of a code base: files, modules, symbols and branches as nodes, and what they declare,
call, import and render as edges. Nodes and edges refer to each other by ids, so a list of nodes and a
list of edges need not fit together; `Snapshot.validate` says whether they do.
-/

namespace StructuralDiff

/-- A node of a snapshot graph. -/
structure Node where
  id : String
  kind : NodeKind
  name : String
  qualifiedName : String
  filePath : String
  language : Language
  startLine : Option Nat
  endLine : Option Nat
  signature : Option String
  metadata : Metadata
  snapshotId : String
  revision : String
  deriving DecidableEq, Inhabited

/-- A directed edge of a snapshot graph. -/
structure Edge where
  id : String
  source : String
  target : String
  kind : EdgeKind
  filePath : Option String
  metadata : Metadata
  snapshotId : String
  revision : String
  deriving DecidableEq, Inhabited

/-- Which version of which repository a snapshot is. -/
structure SnapshotLabel where
  repoId : String
  snapshotId : String
  revision : String
  deriving DecidableEq, Repr, Inhabited

/-- One parsed version of a code base. -/
structure Snapshot where
  repoId : String
  snapshotId : String
  revision : String
  nodes : List Node
  edges : List Edge
  deriving DecidableEq, Inhabited

namespace Node

/-- The id of a symbol in a snapshot. -/
def makeId (snapshotId : String) (kind : NodeKind) (filePath qualifiedName : String) : String :=
  snapshotId ++ ":" ++ kind.name ++ ":" ++ filePath ++ ":" ++ qualifiedName

/-- An attribute of a node. -/
def attribute? (node : Node) (key : String) : Option String :=
  node.metadata.get? key

/-- The first and the last line, with 0 for a line that is not known. -/
def position (node : Node) : Nat × Nat :=
  (node.startLine.getD 0, node.endLine.getD 0)

/-- How many lines a node covers as a number of 32 bits, 0 when that is not known. -/
def lineSpan (node : Node) : Nat :=
  match node.startLine, node.endLine with
  | some first, some last => if first ≤ last then (last - first + 1) % Bound.nat32 else 0
  | _, _ => 0

end Node

/-- The attribute that holds the flow type of an edge. -/
def flowTypeKey : String := "flowType"

/-- The attribute that marks an edge from a call site to the callee. -/
def callSiteKey : String := "callSite"

namespace Edge

/-- The id of an edge. -/
def makeId (kind : EdgeKind) (source target : String) (flow : Option FlowType) : String :=
  let id := kind.name ++ ":" ++ source ++ "->" ++ target
  match flow with
  | some flow => id ++ ":" ++ flow.name
  | none => id

/-- The flow type of an edge, if it has one. -/
def flowType? (edge : Edge) : Option FlowType :=
  (edge.metadata.get? flowTypeKey).bind FlowType.ofName?

/-- Control flow inside a function: a call edge with a flow type. -/
def isFlow (edge : Edge) : Bool :=
  edge.kind == .calls && edge.flowType?.isSome

/-- An edge from a call site to the callee. -/
def isCallSite (edge : Edge) : Bool :=
  edge.metadata.get? callSiteKey == some "true"

/-- A call from one symbol to another: neither control flow nor a call site. -/
def isSymbolCall (edge : Edge) : Bool :=
  edge.kind == .calls && !edge.isFlow && !edge.isCallSite

end Edge

namespace Snapshot

/-- The snapshot without any node. -/
def empty (label : SnapshotLabel) : Snapshot :=
  { repoId := label.repoId, snapshotId := label.snapshotId, revision := label.revision,
    nodes := [], edges := [] }

/-- The version that a snapshot shows. -/
def label (snapshot : Snapshot) : SnapshotLabel :=
  { repoId := snapshot.repoId, snapshotId := snapshot.snapshotId, revision := snapshot.revision }

/-- The ids of the nodes. -/
def nodeIds (snapshot : Snapshot) : List String :=
  snapshot.nodes.map (·.id)

/-- The ids of the edges. -/
def edgeIds (snapshot : Snapshot) : List String :=
  snapshot.edges.map (·.id)

/-- The node with an id; of several the last one. -/
def node? (snapshot : Snapshot) (id : String) : Option Node :=
  snapshot.nodes.reverse.find? (·.id == id)

/-- The node with an id; of several the first one. -/
def firstNode? (snapshot : Snapshot) (id : String) : Option Node :=
  snapshot.nodes.find? (·.id == id)

/-- What keeps nodes and edges from forming a graph. -/
inductive Defect where
  | duplicateNode (id : String)
  | duplicateEdge (id : String)
  | danglingEdge (edge endpoint : String)
  deriving DecidableEq, Repr

/-- A defect in words. -/
def Defect.message : Defect → String
  | .duplicateNode id => "duplicate node id `" ++ id ++ "`"
  | .duplicateEdge id => "duplicate edge id `" ++ id ++ "`"
  | .danglingEdge edge endpoint =>
    "edge `" ++ edge ++ "` references unknown node `" ++ endpoint ++ "`"

/-- The first text that has occurred before. -/
def firstRepeat? : (seen : List String) → List String → Option String
  | _, [] => none
  | seen, id :: rest => if seen.contains id then some id else firstRepeat? (id :: seen) rest

/-- The first defect of the edges over nodes with the given ids. -/
def edgeDefect? (ids : List String) : (seen : List String) → List Edge → Option Defect
  | _, [] => none
  | seen, edge :: rest =>
    if seen.contains edge.id then some (.duplicateEdge edge.id)
    else if !ids.contains edge.source then some (.danglingEdge edge.id edge.source)
    else if !ids.contains edge.target then some (.danglingEdge edge.id edge.target)
    else edgeDefect? ids (edge.id :: seen) rest

/-- The first defect of a snapshot: repeated node ids come before all defects of edges. -/
def defect? (snapshot : Snapshot) : Option Defect :=
  match firstRepeat? [] snapshot.nodeIds with
  | some id => some (.duplicateNode id)
  | none => edgeDefect? snapshot.nodeIds [] snapshot.edges

/-- Ids are unique and every edge has both its endpoints. -/
def validate (snapshot : Snapshot) : Except Defect Unit :=
  match snapshot.defect? with
  | some defect => .error defect
  | none => .ok ()

end Snapshot

end StructuralDiff
