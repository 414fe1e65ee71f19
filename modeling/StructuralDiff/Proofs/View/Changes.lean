import StructuralDiff.Proofs.Traversal
import StructuralDiff.Proofs.View.WellFormed
import StructuralDiff.View.Changes

/-!
# What is left of a view when only changes are shown

A view is reduced to the nodes that have changed, those that a changed one leads to, and everything around them.
The rest goes without leaving a gap: what is left is a view again, with parents and endpoints of its own, and
reducing it once more changes nothing.

* `View.Contained`: parents and endpoints are nodes of the view.
* `View.Keeps`: the ids that are kept, and `View.mem_changeIds` that they are the ones computed.
* `View.Contained.keeps_changesOnly`: what is kept is kept again.
* `View.WellFormed.changesOnly`: what is left of a view of a delta is a view of the delta.
* `View.changesOnly_eq_filter`: what is left.
-/

open Relation (ReflTransGen)

namespace StructuralDiff.View

/-- A view without repeated ids, in which all parents and endpoints are nodes. -/
structure Contained (view : View) : Prop where
  nodeIds_nodup : view.nodeIds.Nodup
  parent_mem : ∀ node ∈ view.nodes, ∀ parent ∈ node.parentId, parent ∈ view.nodeIds
  source_mem : ∀ edge ∈ view.edges, edge.source ∈ view.nodeIds
  target_mem : ∀ edge ∈ view.edges, edge.target ∈ view.nodeIds

theorem WellFormed.contained {delta : Delta} {view : View} (h : view.WellFormed delta) : view.Contained :=
  ⟨h.nodeIds_nodup, h.parent_mem, h.source_mem, h.target_mem⟩

/-! ### What should be kept -/

/-- The id is that of a changed node. -/
def HasChanged (view : View) (id : String) : Prop :=
  ∃ node ∈ view.nodes, node.id = id ∧ node.status.isChanged = true

/-- The node with the id has changed, or a flow edge leads from a changed one to it. -/
def ShowsChange (view : View) (id : String) : Prop :=
  view.HasChanged id ∨
    ∃ edge ∈ view.edges, edge.relation = .flow ∧ view.HasChanged edge.source ∧ edge.target = id

/-- The id is that of a node that shows a change, or that is reached from one going from parent to parent. -/
def Keeps (view : View) (id : String) : Prop :=
  ∃ inner, view.ShowsChange inner ∧ ReflTransGen (fun child parent => view.Encloses parent child) inner id

variable {view : View} {id : String}

theorem ShowsChange.keeps (h : view.ShowsChange id) : view.Keeps id :=
  ⟨id, h, .refl⟩

theorem Keeps.parent {parent : String} (h : view.Keeps id) (hparent : view.Encloses parent id) :
    view.Keeps parent := by
  obtain ⟨inner, hinner, hup⟩ := h
  exact ⟨inner, hinner, hup.tail hparent⟩

/-! ### What is computed -/

theorem mem_changeSeeds : id ∈ view.changeSeeds ↔ view.ShowsChange id := by
  have hchanged (id : String) :
      id ∈ (view.nodes.filter (·.status.isChanged)).map (·.id) ↔ view.HasChanged id := by
    simp only [HasChanged, List.mem_map, List.mem_filter, and_left_comm, and_comm]
  rw [changeSeeds, List.mem_append, hchanged, ShowsChange]
  refine or_congr_right ?_
  simp only [List.mem_map, List.mem_filter, Bool.and_eq_true, beq_iff_eq, List.contains_iff_mem, hchanged,
    and_assoc]

theorem parentOf?_eq_some_iff (hnodup : view.nodeIds.Nodup) {parent : String} :
    view.parentOf? id = some parent ↔ view.Encloses parent id := by
  have hkey (node : ViewNode) (h : (node.id == id && node.parentId.isSome) = true) : node.id = id :=
    beq_iff_eq.1 (Bool.and_eq_true_iff.1 h).1
  rw [parentOf?, Option.bind_eq_some_iff]
  simp only [find?_reverse_eq_some_iff hnodup hkey, Bool.and_eq_true, beq_iff_eq]
  constructor
  · rintro ⟨node, ⟨hnode, hid, -⟩, hparent⟩
    exact ⟨node, hnode, hid, hparent⟩
  · rintro ⟨node, hnode, hid, hparent⟩
    exact ⟨node, ⟨hnode, hid, Option.isSome_of_eq_some hparent⟩, hparent⟩

/-- **The computed ids are those that should be kept.** -/
theorem mem_changeIds (h : view.Contained) : id ∈ view.changeIds ↔ view.Keeps id := by
  -- going up is a search in which every id is followed by its parent, if it has one
  have hfollows : Traversal.Follows (fun id => (view.parentOf? id).toList) =
      fun child parent => view.Encloses parent child := by
    funext child parent
    rw [Traversal.Follows, Option.mem_toList, parentOf?_eq_some_iff h.nodeIds_nodup]
  have hall (id : String) : (view.parentOf? id).toList ⊆ view.nodeIds := by
    intro parent hparent
    rw [Option.mem_toList, parentOf?_eq_some_iff h.nodeIds_nodup] at hparent
    obtain ⟨node, hnode, -, hparent⟩ := hparent
    exact h.parent_mem node hnode parent hparent
  have hsteps : view.changeSeeds.eraseDups.length + view.nodeIds.length ≤
      view.changeSeeds.eraseDups.length + view.nodes.length + 1 := by
    rw [nodeIds, List.length_map]
    exact Nat.le_succ _
  rw [changeIds, Traversal.mem_append_explore_iff hall hsteps, hfollows]
  simp only [List.mem_eraseDups, mem_changeSeeds, Keeps]

theorem mem_nodes_changesOnly (h : view.Contained) {node : ViewNode} :
    node ∈ view.changesOnly.nodes ↔ node ∈ view.nodes ∧ view.Keeps node.id := by
  rw [changesOnly, List.mem_filter, List.contains_iff_mem, mem_changeIds h]

theorem mem_edges_changesOnly (h : view.Contained) {edge : ViewEdge} :
    edge ∈ view.changesOnly.edges ↔ edge ∈ view.edges ∧ view.Keeps edge.source ∧ view.Keeps edge.target := by
  rw [changesOnly, List.mem_filter, Bool.and_eq_true, List.contains_iff_mem, List.contains_iff_mem,
    mem_changeIds h, mem_changeIds h]

namespace Contained

/-! ### What is left is a view -/

/-- What is kept belongs to a node. -/
theorem mem_nodeIds_of_keeps (h : view.Contained) (hkept : view.Keeps id) : id ∈ view.nodeIds := by
  obtain ⟨inner, hinner, hup⟩ := hkept
  induction hup with
  | refl =>
    rcases hinner with ⟨node, hnode, rfl, -⟩ | ⟨edge, hedge, -, -, rfl⟩
    · exact List.mem_map_of_mem hnode
    · exact h.target_mem edge hedge
  | tail _ hparent _ =>
    obtain ⟨node, hnode, -, hparent⟩ := hparent
    exact h.parent_mem node hnode _ hparent

theorem mem_nodeIds_changesOnly (h : view.Contained) (hkept : view.Keeps id) :
    id ∈ view.changesOnly.nodeIds := by
  obtain ⟨node, hnode, rfl⟩ := List.mem_map.1 (h.mem_nodeIds_of_keeps hkept)
  exact List.mem_map_of_mem ((mem_nodes_changesOnly h).2 ⟨hnode, hkept⟩)

/-- **Parents and endpoints are kept** with what they belong to. -/
theorem changesOnly (h : view.Contained) : view.changesOnly.Contained where
  nodeIds_nodup := (List.filter_sublist.map _).nodup h.nodeIds_nodup
  parent_mem node hnode parent hparent := by
    obtain ⟨hmem, hkept⟩ := (mem_nodes_changesOnly h).1 hnode
    exact h.mem_nodeIds_changesOnly (hkept.parent ⟨node, hmem, rfl, hparent⟩)
  source_mem edge hedge := h.mem_nodeIds_changesOnly ((mem_edges_changesOnly h).1 hedge).2.1
  target_mem edge hedge := h.mem_nodeIds_changesOnly ((mem_edges_changesOnly h).1 hedge).2.2

/-! ### Once more -/

theorem showsChange_changesOnly (h : view.Contained) (hshows : view.ShowsChange id) :
    view.changesOnly.ShowsChange id := by
  have hchanged {id : String} (hid : view.HasChanged id) : view.changesOnly.HasChanged id := by
    obtain ⟨node, hnode, rfl, hstatus⟩ := hid
    have hkept : view.Keeps node.id := ShowsChange.keeps (.inl ⟨node, hnode, rfl, hstatus⟩)
    exact ⟨node, (mem_nodes_changesOnly h).2 ⟨hnode, hkept⟩, rfl, hstatus⟩
  rcases hshows with hid | ⟨edge, hedge, hflow, hsource, rfl⟩
  · exact .inl (hchanged hid)
  · -- the edge stays, as its source has changed and its target shows that
    have hkeptSource : view.Keeps edge.source := ShowsChange.keeps (.inl hsource)
    have hkeptTarget : view.Keeps edge.target := ShowsChange.keeps (.inr ⟨edge, hedge, hflow, hsource, rfl⟩)
    have hstays := (mem_edges_changesOnly h).2 ⟨hedge, hkeptSource, hkeptTarget⟩
    exact .inr ⟨edge, hstays, hflow, hchanged hsource, rfl⟩

/-- **What is kept is kept again.** -/
theorem keeps_changesOnly (h : view.Contained) (hkept : view.Keeps id) : view.changesOnly.Keeps id := by
  -- on the way up every node is kept, and so is the link from it to its parent
  obtain ⟨inner, hinner, hup⟩ := hkept
  induction hup with
  | refl => exact (h.showsChange_changesOnly hinner).keeps
  | tail hbefore hparent ih =>
    obtain ⟨node, hnode, rfl, hparent⟩ := hparent
    exact ih.parent ⟨node, (mem_nodes_changesOnly h).2 ⟨hnode, inner, hinner, hbefore⟩, rfl, hparent⟩

end Contained

/-- **What is left of a well formed view is well formed.** -/
theorem WellFormed.changesOnly {delta : Delta} (h : view.WellFormed delta) : view.changesOnly.WellFormed delta where
  nodeIds_nodup := h.contained.changesOnly.nodeIds_nodup
  edgeIds_nodup := (List.filter_sublist.map _).nodup h.edgeIds_nodup
  parent_mem := h.contained.changesOnly.parent_mem
  source_mem := h.contained.changesOnly.source_mem
  target_mem := h.contained.changesOnly.target_mem
  node_status node hnode := h.node_status node (List.mem_of_mem_filter hnode)
  edge_status edge hedge := h.edge_status edge (List.mem_of_mem_filter hedge)

/-- **What is left when only changes are shown**: in their order, the nodes that show a change or enclose one
that does, and the edges between them. This is a view with all parents and endpoints, and the same is left of
it. -/
theorem changesOnly_eq_filter (view : View) [DecidablePred view.Keeps] (h : view.Contained) :
    view.changesOnly.nodes = (view.nodes.filter fun node => view.Keeps node.id) ∧
      view.changesOnly.edges = (view.edges.filter fun edge => view.Keeps edge.source ∧ view.Keeps edge.target) ∧
      view.changesOnly.Contained ∧
      view.changesOnly.changesOnly.nodes = view.changesOnly.nodes ∧
      view.changesOnly.changesOnly.edges = view.changesOnly.edges := by
  have hkept (id : String) : view.changeIds.contains id = decide (view.Keeps id) := by
    rw [Bool.eq_iff_iff, List.contains_iff_mem, mem_changeIds h, decide_eq_true_iff]
  refine ⟨?_, ?_, h.changesOnly, ?_, ?_⟩
  · rw [changesOnly]
    exact List.filter_congr fun node _ => hkept node.id
  · rw [changesOnly]
    refine List.filter_congr fun edge _ => ?_
    rw [hkept, hkept, Bool.decide_and]
  · refine List.filter_eq_self.2 fun node hnode => ?_
    rw [List.contains_iff_mem, mem_changeIds h.changesOnly]
    exact h.keeps_changesOnly ((mem_nodes_changesOnly h).1 hnode).2
  · refine List.filter_eq_self.2 fun edge hedge => ?_
    obtain ⟨-, hsource, htarget⟩ := (mem_edges_changesOnly h).1 hedge
    rw [Bool.and_eq_true, List.contains_iff_mem, List.contains_iff_mem, mem_changeIds h.changesOnly,
      mem_changeIds h.changesOnly]
    exact ⟨h.keeps_changesOnly hsource, h.keeps_changesOnly htarget⟩

/-- Two groups inside each other; in the inner one a branch that has changed leads to a second branch, and this
to a third one. A branch outside is called by the first. -/
def circledChange : View :=
  let node (id : String) (parentId : Option String) (status : Status) : ViewNode :=
    { id, label := id, kind := "Branch", filePath := "m.py", startLine := none, endLine := none, status
      parentId, isGroup := false, branchType := none, symbolId := id }
  let edge (source target : String) (relation : Relation) : ViewEdge :=
    { id := source ++ target, source, target, relation, flowType := none, status := .unchanged }
  { graphId := "v"
    perspective := .controlFlow
    nodes := [node "outer" (some "inner") .unchanged, node "inner" (some "outer") .unchanged,
      node "a" (some "inner") .modified, node "b" (some "inner") .unchanged,
      node "c" (some "inner") .unchanged, node "d" none .unchanged]
    edges := [edge "a" "b" .flow, edge "b" "c" .flow, edge "a" "d" .invoke] }

theorem changesOnly_eq_filter_circled :
    circledChange.Contained ∧ circledChange.changesOnly.nodeIds = ["outer", "inner", "a", "b"] ∧
      circledChange.changesOnly.edgeIds = ["ab"] ∧
      circledChange.changesOnly.Contained ∧
      circledChange.changesOnly.changesOnly.nodes = circledChange.changesOnly.nodes ∧
      circledChange.changesOnly.changesOnly.edges = circledChange.changesOnly.edges := by
  have hcontained : circledChange.Contained := ⟨by decide, by decide, by decide, by decide⟩
  classical
  obtain ⟨-, -, hagain, hnodes, hedges⟩ := changesOnly_eq_filter circledChange hcontained
  exact ⟨hcontained, by decide, by decide, hagain, hnodes, hedges⟩

end StructuralDiff.View
