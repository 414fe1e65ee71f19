import Mathlib.Data.List.Basic
import StructuralDiff.Delta.Key
import StructuralDiff.Graph.Index

/-!
# Snapshots without revisions

A revision says from which reference of a repository a snapshot was made. Two snapshots that differ in nothing
but that answer everything alike.

* `Node.unrevised`, `Edge.unrevised`, `Snapshot.unrevised`: what is left without the revision.
* `Snapshot.node?_unrevised`, `Snapshot.edgeKey_unrevised`: nodes are found and edges compared as before.
* `Index.parent?_unrevised`, `Index.children_unrevised`, `Index.ancestors_unrevised`: so are neighbours.
-/

namespace StructuralDiff

/-- The node without its revision. -/
def Node.unrevised (node : Node) : Node :=
  { node with revision := "" }

/-- The edge without its revision. -/
def Edge.unrevised (edge : Edge) : Edge :=
  { edge with revision := "" }

/-- The snapshot without its revision. -/
def Snapshot.unrevised (snapshot : Snapshot) : Snapshot :=
  { snapshot with
    revision := ""
    nodes := snapshot.nodes.map Node.unrevised
    edges := snapshot.edges.map Edge.unrevised }

namespace Node

@[simp]
theorem key_unrevised (node : Node) : node.unrevised.key = node.key := rfl

@[simp]
theorem id_unrevised (node : Node) : node.unrevised.id = node.id := rfl

@[simp]
theorem kind_unrevised (node : Node) : node.unrevised.kind = node.kind := rfl

@[simp]
theorem endpoint_unrevised (node : Node) : node.unrevised.endpoint = node.endpoint := rfl

end Node

namespace Snapshot

variable (snapshot : Snapshot)

@[simp]
theorem nodeIds_unrevised : snapshot.unrevised.nodeIds = snapshot.nodeIds := by
  rw [nodeIds, unrevised, List.map_map]
  rfl

theorem node?_unrevised (id : String) :
    snapshot.unrevised.node? id = (snapshot.node? id).map Node.unrevised := by
  rw [node?, unrevised, ← List.map_reverse, List.find?_map]
  rfl

theorem endpoint_unrevised (id : String) : snapshot.unrevised.endpoint id = snapshot.endpoint id := by
  rw [endpoint, node?_unrevised, endpoint]
  cases snapshot.node? id <;> rfl

theorem edgeKey_unrevised (edge : Edge) :
    snapshot.unrevised.edgeKey edge.unrevised = snapshot.edgeKey edge := by
  rw [edgeKey, edgeKey, endpoint_unrevised, endpoint_unrevised]
  rfl

end Snapshot

namespace Index

/-- The index of a snapshot without its revision. -/
def unrevised (index : Index) : Index :=
  { snapshot := index.snapshot.unrevised, links := index.links.map Edge.unrevised }

theorem ofSnapshot_unrevised (snapshot : Snapshot) :
    ofSnapshot snapshot.unrevised = (ofSnapshot snapshot).unrevised := by
  simp only [ofSnapshot, unrevised, Snapshot.nodeIds_unrevised, Index.mk.injEq, true_and]
  simp only [Snapshot.unrevised, List.filter_map]
  rfl

variable (index : Index) (id : String)

theorem node?_unrevised : index.unrevised.node? id = (index.node? id).map Node.unrevised :=
  index.snapshot.node?_unrevised id

theorem edgesFrom_unrevised : index.unrevised.edgesFrom id = (index.edgesFrom id).map Edge.unrevised := by
  rw [edgesFrom, unrevised, ← List.map_reverse, List.filter_map]
  rfl

theorem edgesTo_unrevised : index.unrevised.edgesTo id = (index.edgesTo id).map Edge.unrevised := by
  rw [edgesTo, unrevised, ← List.map_reverse, List.filter_map]
  rfl

theorem children_unrevised : index.unrevised.children id = (index.children id).map Node.unrevised := by
  rw [children, edgesFrom_unrevised, List.filter_map, List.filterMap_map, children, List.map_filterMap]
  refine List.filterMap_congr fun edge _ => ?_
  exact index.node?_unrevised edge.target

theorem parent?_unrevised : index.unrevised.parent? id = (index.parent? id).map Node.unrevised := by
  rw [parent?, edgesTo_unrevised, List.find?_map, parent?, Option.bind_map, Option.map_bind]
  refine congrArg (fun source => Option.bind _ source) (funext fun edge => ?_)
  exact index.node?_unrevised edge.source

theorem ancestors_unrevised : index.unrevised.ancestors id = (index.ancestors id).map Node.unrevised := by
  have hparent : (fun id => (index.unrevised.parent? id).map (·.id)) =
      fun id => (index.parent? id).map (·.id) := by
    funext id
    rw [parent?_unrevised, Option.map_map]
    rfl
  have hsize : index.unrevised.snapshot.nodes.length = index.snapshot.nodes.length := by
    simp [unrevised, Snapshot.unrevised]
  rw [ancestors, hparent, hsize, ancestors, List.map_filterMap]
  exact List.filterMap_congr fun id _ => index.node?_unrevised id

theorem incomingCalls_unrevised : index.unrevised.incomingCalls id = index.incomingCalls id := by
  rw [incomingCalls, edgesTo_unrevised, List.countP_map]
  rfl

theorem outgoingCalls_unrevised : index.unrevised.outgoingCalls id = index.outgoingCalls id := by
  rw [outgoingCalls, edgesFrom_unrevised, List.countP_map]
  rfl

theorem ownedDeclarations_unrevised :
    index.unrevised.ownedDeclarations id = index.ownedDeclarations id := by
  rw [ownedDeclarations, children_unrevised, List.countP_map]
  rfl

end Index

end StructuralDiff
