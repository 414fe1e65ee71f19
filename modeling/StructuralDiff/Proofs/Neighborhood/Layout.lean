import StructuralDiff.Neighborhood.Layout
import StructuralDiff.Proofs.Traversal

/-!
# Inside a positioned node

The nodes inside a node are collected downwards, generation by generation, while a node itself knows only its
parent. When ids are distinct the two ways agree: a node is found inside another one exactly if the chain of
its parents comes to it. Parents that have not been positioned end a chain, and chains may be cyclic.

* `Layout.HasParent`, `Layout.LiesInside`: the chain of positioned parents of a node.
* `Layout.mem_children`: one generation.
* `Layout.mem_descendants_iff`: what is collected is what lies inside.
-/

open Relation (TransGen)

namespace StructuralDiff.Layout

/-- The ids of the positioned nodes. -/
def nodeIds (layout : Layout) : List String :=
  layout.nodes.map (·.id)

/-- The parent of the node has been positioned, and is the other one. -/
def HasParent (layout : Layout) (node parent : ViewNode) : Prop :=
  node.parentId.bind layout.node? = some parent

instance (layout : Layout) (node parent : ViewNode) : Decidable (layout.HasParent node parent) :=
  inferInstanceAs (Decidable (node.parentId.bind layout.node? = some parent))

/-- The chain of positioned parents of the node comes to a node with the id. -/
def LiesInside (layout : Layout) (node : ViewNode) (id : String) : Prop :=
  ∃ outer, TransGen layout.HasParent node outer ∧ outer.id = id

variable {layout : Layout} {node parent outer : ViewNode} {id : String}

/-! ### Nodes and their ids -/

theorem of_node?_eq_some (h : layout.node? id = some node) : node ∈ layout.nodes ∧ node.id = id :=
  ⟨List.mem_reverse.1 (List.mem_of_find?_eq_some h), by simpa using List.find?_some h⟩

theorem isSome_node? : (layout.node? id).isSome ↔ id ∈ layout.nodeIds := by
  simp [node?, nodeIds]

theorem eq_of_id_eq (hnodup : layout.nodeIds.Nodup) {a b : ViewNode} (ha : a ∈ layout.nodes)
    (hb : b ∈ layout.nodes) (h : a.id = b.id) : a = b :=
  List.inj_on_of_nodup_map hnodup ha hb h

theorem node?_of_mem (hnodup : layout.nodeIds.Nodup) (h : node ∈ layout.nodes) :
    layout.node? node.id = some node :=
  (find?_reverse_eq_some_iff hnodup fun _ => beq_iff_eq.1).2 ⟨h, beq_self_eq_true _⟩

/-! ### Children and parents -/

theorem HasParent.parent_mem (h : layout.HasParent node parent) :
    parent ∈ layout.nodes ∧ node.parentId = some parent.id := by
  obtain ⟨id, hparent, hfound⟩ := Option.bind_eq_some_iff.1 h
  obtain ⟨hmem, rfl⟩ := of_node?_eq_some hfound
  exact ⟨hmem, hparent⟩

theorem hasParent_of_mem (hnodup : layout.nodeIds.Nodup) (hmem : parent ∈ layout.nodes)
    (h : node.parentId = some parent.id) : layout.HasParent node parent := by
  rw [HasParent, h, Option.bind_some, node?_of_mem hnodup hmem]

theorem mem_children {inner : String} : inner ∈ layout.children id ↔
    id ∈ layout.nodeIds ∧ ∃ node ∈ layout.nodes, node.id = inner ∧ node.parentId = some id := by
  rw [children]
  split
  · next hsome =>
    have hid := isSome_node?.1 hsome
    simp [hid, and_left_comm, and_comm]
  · next hnone =>
    have hid : id ∉ layout.nodeIds := fun h => hnone (isSome_node?.2 h)
    simp [hid]

theorem children_subset (layout : Layout) (id : String) : layout.children id ⊆ layout.nodeIds := by
  intro inner hinner
  obtain ⟨-, node, hnode, rfl, -⟩ := mem_children.1 hinner
  exact List.mem_map_of_mem hnode

/-! ### Downwards and upwards -/

/-- What is reached from parent to child lies inside. -/
theorem exists_liesInside (hnodup : layout.nodeIds.Nodup) {inner : String}
    (h : TransGen (Traversal.Follows layout.children) id inner) :
    ∃ node ∈ layout.nodes, node.id = inner ∧ layout.LiesInside node id := by
  induction h with
  | single hchild =>
    obtain ⟨hid, node, hnode, rfl, hparent⟩ := mem_children.1 hchild
    obtain ⟨outer, houter, rfl⟩ := List.mem_map.1 hid
    exact ⟨node, hnode, rfl, outer, .single (hasParent_of_mem hnodup houter hparent), rfl⟩
  | tail _ hchild ih =>
    obtain ⟨middle, hmiddle, rfl, outer, hchain, hid⟩ := ih
    obtain ⟨-, node, hnode, rfl, hparent⟩ := mem_children.1 hchild
    -- the chain of the new node goes to its parent first, and on from there
    exact ⟨node, hnode, rfl, outer, .head (hasParent_of_mem hnodup hmiddle hparent) hchain, hid⟩

/-- What comes later in the chain of parents is positioned, and the node is reached from there. -/
theorem reached_of_hasParent (hnode : node ∈ layout.nodes) (h : TransGen layout.HasParent node outer) :
    outer ∈ layout.nodes ∧ TransGen (Traversal.Follows layout.children) outer.id node.id := by
  -- one link, seen from above
  have hchild {child parent : ViewNode} (hmem : child ∈ layout.nodes)
      (hparent : layout.HasParent child parent) : Traversal.Follows layout.children parent.id child.id := by
    obtain ⟨houter, hid⟩ := hparent.parent_mem
    exact mem_children.2 ⟨List.mem_map_of_mem houter, child, hmem, rfl, hid⟩
  induction h with
  | single hparent => exact ⟨hparent.parent_mem.1, .single (hchild hnode hparent)⟩
  | tail _ hparent ih => exact ⟨hparent.parent_mem.1, .head (hchild ih.1 hparent) ih.2⟩

/-- **What is collected inside a node is what lies inside it**, the node itself apart. -/
theorem mem_descendants_iff (hnodup : layout.nodeIds.Nodup) {inner : String} :
    inner ∈ layout.descendants id ↔
      inner ≠ id ∧ ∃ node ∈ layout.nodes, node.id = inner ∧ layout.LiesInside node id := by
  have hsize : layout.nodeIds.length ≤ layout.nodes.length := Nat.le_of_eq (List.length_map _)
  rw [descendants, Traversal.mem_reachable_iff layout.children_subset hsize, and_congr_right_iff]
  intro _
  constructor
  · exact exists_liesInside hnodup
  · rintro ⟨node, hnode, rfl, outer, hchain, rfl⟩
    exact (reached_of_hasParent hnode hchain).2

/-- The same for two nodes of the layout. -/
theorem id_mem_descendants_iff (hnodup : layout.nodeIds.Nodup) (hnode : node ∈ layout.nodes)
    (houter : outer ∈ layout.nodes) :
    node.id ∈ layout.descendants outer.id ↔ node ≠ outer ∧ TransGen layout.HasParent node outer := by
  rw [mem_descendants_iff hnodup]
  constructor
  · rintro ⟨hne, found, hfound, hid, last, hchain, hlast⟩
    obtain rfl := eq_of_id_eq hnodup hfound hnode hid
    obtain rfl := eq_of_id_eq hnodup (reached_of_hasParent hfound hchain).1 houter hlast
    exact ⟨fun heq => hne (congrArg (·.id) heq), hchain⟩
  · rintro ⟨hne, hchain⟩
    exact ⟨fun hid => hne (eq_of_id_eq hnodup hnode houter hid), node, hnode, rfl, outer, hchain, rfl⟩

end StructuralDiff.Layout

namespace StructuralDiff

/-- A node that is known by its id, its parent and whether it is a group. -/
def ViewNode.sample (id : String) (parentId : Option String) (isGroup : Bool) : ViewNode :=
  { id, label := id, kind := "Branch", filePath := "m.py", startLine := none, endLine := none
    status := .unchanged, parentId, isGroup, branchType := none, symbolId := id }

/-- A flow edge that is known by its endpoints. -/
def ViewEdge.sampleFlow (source target : String) : ViewEdge :=
  { id := source ++ "->" ++ target, source, target, relation := .flow, flowType := none, status := .unchanged }

end StructuralDiff
