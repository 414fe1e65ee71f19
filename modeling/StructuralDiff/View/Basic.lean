import StructuralDiff.Graph.Basic

/-!
# Views

A view shows one snapshot of a comparison from one perspective: a selection of its nodes, nested by
parents, with relations between them and the outcome of the comparison on each.
-/

namespace StructuralDiff

/-- What a view shows. -/
inductive Perspective where
  | controlFlow
  | declarations
  | components
  deriving DecidableEq, Repr, Inhabited

namespace Perspective

/-- All perspectives. -/
def all : List Perspective := [.controlFlow, .declarations, .components]

/-- The name of a perspective. -/
def name : Perspective → String
  | .controlFlow => "control-flow"
  | .declarations => "declarations"
  | .components => "components"

/-- The perspective with a name. -/
def ofName? (name : String) : Option Perspective :=
  all.find? (·.name == name)

theorem ofName?_name (perspective : Perspective) : ofName? perspective.name = some perspective := by
  cases perspective <;> rfl

end Perspective

/-- What an edge of a view stands for. -/
inductive Relation where
  | flow
  | invoke
  | hierarchy
  deriving DecidableEq, Repr, Inhabited

namespace Relation

/-- The name of a relation. -/
def name : Relation → String
  | .flow => "flow"
  | .invoke => "invoke"
  | .hierarchy => "hierarchy"

/-- The relation with a name. -/
def ofName? (name : String) : Option Relation :=
  [Relation.flow, .invoke, .hierarchy].find? (·.name == name)

theorem ofName?_name (relation : Relation) : ofName? relation.name = some relation := by
  cases relation <;> rfl

end Relation

/-- A node of a view. -/
structure ViewNode where
  id : String
  label : String
  kind : String
  filePath : String
  startLine : Option Nat
  endLine : Option Nat
  status : Status
  parentId : Option String
  isGroup : Bool
  branchType : Option String
  symbolId : String
  deriving DecidableEq, Repr, Inhabited

/-- An edge of a view. -/
structure ViewEdge where
  id : String
  source : String
  target : String
  relation : Relation
  flowType : Option FlowType
  status : Status
  deriving DecidableEq, Repr, Inhabited

/-- A snapshot from one perspective. -/
structure View where
  graphId : String
  perspective : Perspective
  nodes : List ViewNode
  edges : List ViewEdge
  deriving DecidableEq, Repr, Inhabited

/-- The two snapshots of a comparison from one perspective. -/
structure ViewPair where
  old : View
  new : View
  deriving DecidableEq, Repr, Inhabited

/-- The kind of groups that stand for callables. -/
def groupKind : String := "group"

/-- The id of the group of a callable. -/
def groupId (symbolId : String) : String := "group:" ++ symbolId

namespace ViewNode

/-- The node of a view that shows a node of a snapshot, on its own and without a parent. -/
def ofNode (node : Node) (status : Status) : ViewNode :=
  { id := node.id
    label := if node.kind == .branch then (node.attribute? "snippet").getD node.name else node.name
    kind := node.kind.name
    filePath := node.filePath
    startLine := node.startLine
    endLine := node.endLine
    status
    parentId := none
    isGroup := false
    branchType := node.attribute? "branchType"
    symbolId := node.id }

/-- The kind by which neighborhood strategies are chosen. -/
def strategyKey (node : ViewNode) : String :=
  if node.isGroup then groupKind else node.kind

end ViewNode

/-- The id of the view of a snapshot. -/
def View.makeId (snapshot : Snapshot) (perspective : Perspective) : String :=
  snapshot.repoId ++ ":" ++ snapshot.snapshotId ++ ":" ++ perspective.name

end StructuralDiff
