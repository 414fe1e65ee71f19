import StructuralDiff.Proofs.Graph.Ancestry
import StructuralDiff.Proofs.Traversal.Distance
import StructuralDiff.Proofs.Traversal.Worklist

/-!
# What a node declares, directly or through others

The descendants of a node are found downwards, by a search through its children, and the ancestors of a node
upwards, by going from parent to parent. A snapshot need not be a tree: nodes may declare themselves and each
other, a node may be declared by several others, and edges may lead nowhere.

* `Snapshot.DeclaresNode`: an edge between two nodes by which the one declares the other.
* `Index.mem_children`, `Index.parent?_eq_some_iff`: one step down, and one step up.
* `Index.ListsDescendants`: what the descendants of an id are, and in which order.
* `Index.listsDescendants_mirrored`: for every snapshot this is what is listed, and where every node is
  declared at most once, the ancestors are its mirror image.
-/

open Relation (TransGen)

namespace StructuralDiff

/-- What is counted once at most is one element at most. -/
theorem eq_of_countP_le_one {α : Type} {p : α → Bool} {l : List α} (h : l.countP p ≤ 1) {a b : α}
    (ha : a ∈ l) (hpa : p a = true) (hb : b ∈ l) (hpb : p b = true) : a = b := by
  rw [List.countP_eq_length_filter] at h
  obtain ⟨i, hi, rfl⟩ := List.getElem_of_mem (List.mem_filter.2 ⟨ha, hpa⟩)
  obtain ⟨j, hj, rfl⟩ := List.getElem_of_mem (List.mem_filter.2 ⟨hb, hpb⟩)
  have hplace : i = j := by omega
  subst hplace
  rfl

namespace Snapshot

/-- The edge declares a node, and both of its endpoints are there. -/
def IsDeclaration (snapshot : Snapshot) (edge : Edge) : Prop :=
  edge.kind = .declares ∧ edge.source ∈ snapshot.nodeIds ∧ edge.target ∈ snapshot.nodeIds

instance (snapshot : Snapshot) (edge : Edge) : Decidable (snapshot.IsDeclaration edge) :=
  inferInstanceAs (Decidable (_ ∧ _ ∧ _))

/-- One node declares another one: there is an edge that says so, and both are there. -/
def DeclaresNode (snapshot : Snapshot) (parent child : String) : Prop :=
  ∃ edge ∈ snapshot.edges, snapshot.IsDeclaration edge ∧ edge.source = parent ∧ edge.target = child

/-- Every node is declared by one edge at most. -/
def DeclaredOnce (snapshot : Snapshot) : Prop :=
  ∀ node ∈ snapshot.nodes,
    snapshot.edges.countP (fun edge => snapshot.IsDeclaration edge ∧ edge.target = node.id) ≤ 1

instance (snapshot : Snapshot) : Decidable snapshot.DeclaredOnce :=
  inferInstanceAs (Decidable (∀ node ∈ snapshot.nodes, _))

variable {snapshot : Snapshot} {id parent parent' child : String}

theorem isSome_node? : (snapshot.node? id).isSome ↔ id ∈ snapshot.nodeIds := by
  simp [node?, nodeIds]

/-- What is declared at most once has one parent at most. -/
theorem DeclaredOnce.parent_unique (h : snapshot.DeclaredOnce) (hparent : snapshot.DeclaresNode parent child)
    (hparent' : snapshot.DeclaresNode parent' child) : parent = parent' := by
  obtain ⟨edge, hedge, hdeclares, rfl, rfl⟩ := hparent
  obtain ⟨edge', hedge', hdeclares', rfl, htarget⟩ := hparent'
  obtain ⟨node, hnode, hid⟩ := List.mem_map.1 hdeclares.2.2
  have hsame : edge = edge' := by
    refine eq_of_countP_le_one (h node hnode) hedge ?_ hedge' ?_
    · exact decide_eq_true ⟨hdeclares, hid.symm⟩
    · exact decide_eq_true ⟨hdeclares', htarget.trans hid.symm⟩
  rw [hsame]

end Snapshot

namespace Index

open Traversal (Search Follows distance)

variable {snapshot : Snapshot} {id parent child : String} {node : Node}

/-! ### One step -/

theorem mem_links {edge : Edge} : edge ∈ (ofSnapshot snapshot).links ↔
    edge ∈ snapshot.edges ∧ edge.source ∈ snapshot.nodeIds ∧ edge.target ∈ snapshot.nodeIds := by
  simp [ofSnapshot]

/-- The ids of the children of a node. -/
def childIds (index : Index) (id : String) : List String :=
  (index.children id).map (·.id)

/-- **One step down.** -/
theorem mem_childIds : child ∈ (ofSnapshot snapshot).childIds id ↔ snapshot.DeclaresNode id child := by
  simp only [childIds, children, edgesFrom, List.mem_map, List.mem_filterMap, List.mem_filter, List.mem_reverse,
    mem_links, beq_iff_eq]
  constructor
  · rintro ⟨node, ⟨edge, ⟨⟨⟨hedge, hends⟩, hsource⟩, hkind⟩, hnode⟩, rfl⟩
    exact ⟨edge, hedge, ⟨hkind, hends⟩, hsource, (Snapshot.of_node?_eq_some hnode).2.symm⟩
  · rintro ⟨edge, hedge, ⟨hkind, hends⟩, hsource, rfl⟩
    obtain ⟨node, hnode⟩ := Option.isSome_iff_exists.1 (Snapshot.isSome_node?.2 hends.2)
    exact ⟨node, ⟨edge, ⟨⟨⟨hedge, hends⟩, hsource⟩, hkind⟩, hnode⟩, (Snapshot.of_node?_eq_some hnode).2⟩

theorem follows_childIds : Follows (ofSnapshot snapshot).childIds = snapshot.DeclaresNode := by
  funext id child
  exact propext mem_childIds

/-- The id of the parent of a node. -/
def parentId? (index : Index) (id : String) : Option String :=
  (index.parent? id).map (·.id)

/-- The parent of a node declares it. -/
theorem declaresNode_of_parentId? (h : (ofSnapshot snapshot).parentId? child = some parent) :
    snapshot.DeclaresNode parent child := by
  obtain ⟨node, hnode, rfl⟩ := Option.map_eq_some_iff.1 h
  obtain ⟨edge, hedge, hsource⟩ := Option.bind_eq_some_iff.1 hnode
  obtain ⟨hlink, htarget⟩ := List.mem_filter.1 (List.mem_of_find?_eq_some hedge)
  obtain ⟨hmem, hends⟩ := mem_links.1 (List.mem_reverse.1 hlink)
  have hkind : edge.kind = .declares := by simpa using List.find?_some hedge
  exact ⟨edge, hmem, ⟨hkind, hends⟩, (Snapshot.of_node?_eq_some hsource).2.symm, by simpa using htarget⟩

/-- What is declared has a parent. -/
theorem exists_parentId? (h : snapshot.DeclaresNode parent child) :
    ∃ other, (ofSnapshot snapshot).parentId? child = some other := by
  obtain ⟨edge, hedge, ⟨hkind, hends⟩, -, rfl⟩ := h
  have hfound : (((ofSnapshot snapshot).edgesTo edge.target).find? (·.kind == .declares)).isSome := by
    rw [List.find?_isSome]
    refine ⟨edge, List.mem_filter.2 ⟨List.mem_reverse.2 (mem_links.2 ⟨hedge, hends⟩), ?_⟩, ?_⟩
    · exact beq_self_eq_true _
    · exact beq_iff_eq.2 hkind
  obtain ⟨first, hfirst⟩ := Option.isSome_iff_exists.1 hfound
  obtain ⟨hlink, -⟩ := List.mem_filter.1 (List.mem_of_find?_eq_some hfirst)
  obtain ⟨-, hsource, -⟩ := mem_links.1 (List.mem_reverse.1 hlink)
  obtain ⟨node, hnode⟩ := Option.isSome_iff_exists.1 (Snapshot.isSome_node?.2 hsource)
  refine ⟨node.id, Option.map_eq_some_iff.2 ⟨node, ?_, rfl⟩⟩
  rw [parent?, hfirst]
  exact hnode

/-- **One step up.** Where every node is declared at most once, this is the step down reversed. -/
theorem parentId?_eq_some_iff (h : snapshot.DeclaredOnce) :
    (ofSnapshot snapshot).parentId? child = some parent ↔ snapshot.DeclaresNode parent child := by
  refine ⟨declaresNode_of_parentId?, fun hparent => ?_⟩
  obtain ⟨other, hother⟩ := exists_parentId? hparent
  rw [hother, h.parent_unique (declaresNode_of_parentId? hother) hparent]

/-! ### All steps -/

theorem childIds_subset (snapshot : Snapshot) (id : String) :
    (ofSnapshot snapshot).childIds id ⊆ snapshot.nodeIds := by
  intro child hchild
  obtain ⟨edge, -, ⟨-, -, htarget⟩, -, rfl⟩ := mem_childIds.1 hchild
  exact htarget

theorem length_nodeIds (snapshot : Snapshot) : snapshot.nodeIds.length = snapshot.nodes.length :=
  List.length_map _

/-- Ids of nodes are looked up, and what is found has these ids. -/
theorem map_id_filterMap_node? {ids : List String} (h : ids ⊆ snapshot.nodeIds) :
    (ids.filterMap (ofSnapshot snapshot).node?).map (·.id) = ids := by
  induction ids with
  | nil => rfl
  | cons id rest ih =>
    obtain ⟨hid, hrest⟩ := List.cons_subset.1 h
    obtain ⟨node, hnode⟩ := Option.isSome_iff_exists.1 (Snapshot.isSome_node?.2 hid)
    have hsome : (ofSnapshot snapshot).node? id = some node := hnode
    rw [List.filterMap_cons_some hsome, List.map_cons, ih hrest, (Snapshot.of_node?_eq_some hnode).2]

theorem mem_nodeIds_of_transGen (h : TransGen snapshot.DeclaresNode parent child) :
    parent ∈ snapshot.nodeIds ∧ child ∈ snapshot.nodeIds := by
  have hends {parent child : String} (hstep : snapshot.DeclaresNode parent child) :
      parent ∈ snapshot.nodeIds ∧ child ∈ snapshot.nodeIds := by
    obtain ⟨edge, -, ⟨-, hends⟩, rfl, rfl⟩ := hstep
    exact hends
  induction h with
  | single hstep => exact hends hstep
  | tail _ hstep ih => exact ⟨ih.1, (hends hstep).2⟩

/-- The ids of the descendants are what the search finds. -/
theorem map_id_descendants (snapshot : Snapshot) (id : String) :
    ((ofSnapshot snapshot).descendants id).map (·.id) =
      Traversal.reachable (ofSnapshot snapshot).childIds snapshot.nodes.length id := by
  refine map_id_filterMap_node? fun child hchild => ?_
  have hreached := (Traversal.mem_reachable_iff (childIds_subset snapshot)
    (Nat.le_of_eq (length_nodeIds snapshot))).1 hchild
  rw [follows_childIds] at hreached
  exact (mem_nodeIds_of_transGen hreached.2).2

/-- **The descendants are what is declared**, directly or through others, except where one begins. -/
theorem mem_descendants_iff : child ∈ ((ofSnapshot snapshot).descendants id).map (·.id) ↔
    child ≠ id ∧ TransGen snapshot.DeclaresNode id child := by
  rw [map_id_descendants, Traversal.mem_reachable_iff (childIds_subset snapshot)
    (Nat.le_of_eq (length_nodeIds snapshot)), follows_childIds]

/-- The ids of the ancestors are what the climb finds. -/
theorem map_id_ancestors (snapshot : Snapshot) (id : String) :
    ((ofSnapshot snapshot).ancestors id).map (·.id) =
      Traversal.climb (ofSnapshot snapshot).parentId? (snapshot.nodes.length + 1) [] id := by
  refine map_id_filterMap_node? fun parent hparent => ?_
  have habove := Traversal.transGen_of_mem_climb (fun _ _ => declaresNode_of_parentId?) hparent
  exact (mem_nodeIds_of_transGen habove).1

/-- **Where every node is declared at most once, the ancestors are all that declare it**, directly or through
others. -/
theorem mem_ancestors_iff (h : snapshot.DeclaredOnce) :
    parent ∈ ((ofSnapshot snapshot).ancestors child).map (·.id) ↔
      TransGen snapshot.DeclaresNode parent child := by
  have hstep : (fun parent child => (ofSnapshot snapshot).parentId? child = some parent) =
      snapshot.DeclaresNode := by
    funext parent child
    exact propext (parentId?_eq_some_iff h)
  have hall (child parent : String) (hparent : (ofSnapshot snapshot).parentId? child = some parent) :
      parent ∈ snapshot.nodeIds :=
    (mem_nodeIds_of_transGen (.single (declaresNode_of_parentId? hparent))).1
  rw [map_id_ancestors, Traversal.mem_climb_iff hall (Nat.le_of_eq (length_nodeIds snapshot)), hstep]

/-! ### The list of descendants -/

/-- The nodes are listed as the descendants of an id. -/
structure ListsDescendants (snapshot : Snapshot) (id : String) (nodes : List Node) : Prop where
  /-- The search through the children ends by itself, and has found these nodes then. -/
  ends : ∃ rounds ≤ snapshot.nodes.length + 1,
    ((Search.round (ofSnapshot snapshot).childIds)^[rounds] (Search.begin id)).queue = [] ∧
      ((Search.round (ofSnapshot snapshot).childIds)^[rounds] (Search.begin id)).found = nodes.map (·.id)
  /-- No node is listed twice. -/
  nodup : (nodes.map (·.id)).Nodup
  /-- What is declared through fewer others comes first. -/
  ordered : nodes.Pairwise fun a b =>
    distance snapshot.DeclaresNode id a.id ≤ distance snapshot.DeclaresNode id b.id
  /-- The nodes listed are those that are reached, and no others. -/
  mem_iff : ∀ node, node ∈ nodes ↔
    snapshot.node? node.id = some node ∧ node.id ≠ id ∧ TransGen snapshot.DeclaresNode id node.id

theorem node?_of_mem_descendants (h : node ∈ (ofSnapshot snapshot).descendants id) :
    snapshot.node? node.id = some node := by
  obtain ⟨child, -, hnode⟩ := List.mem_filterMap.1 h
  have hfound : snapshot.node? child = some node := hnode
  rw [(Snapshot.of_node?_eq_some hfound).2, hfound]

theorem listsDescendants (snapshot : Snapshot) (id : String) :
    ListsDescendants snapshot id ((ofSnapshot snapshot).descendants id) := by
  have hids := map_id_descendants snapshot id
  refine ⟨⟨snapshot.nodes.length + 1, Nat.le_refl _, ?_⟩, ?_, ?_, fun node => ?_⟩
  · rw [hids]
    exact Search.ends (childIds_subset snapshot) (Nat.le_of_eq (length_nodeIds snapshot)) id
  · rw [hids]
    exact Traversal.nodup_explore
  · have hordered : (Traversal.reachable (ofSnapshot snapshot).childIds snapshot.nodes.length id).Pairwise
        fun a b => distance (Follows (ofSnapshot snapshot).childIds) id a ≤
          distance (Follows (ofSnapshot snapshot).childIds) id b :=
      (Traversal.Advances.begin _ id).pairwise_explore
    rw [follows_childIds, ← hids, List.pairwise_map] at hordered
    exact hordered
  · rw [← mem_descendants_iff]
    constructor
    · exact fun hmem => ⟨node?_of_mem_descendants hmem, List.mem_map_of_mem hmem⟩
    · rintro ⟨hnode, hmem⟩
      obtain ⟨other, hother, hsame⟩ := List.mem_map.1 hmem
      have hfound := node?_of_mem_descendants hother
      rw [hsame, hnode] at hfound
      exact Option.some.inj hfound ▸ hother

/-- **Descendants and ancestors.** In every snapshot the descendants of an id are all nodes that it declares,
directly or through others, the nearer ones first and each of them once. Where every node is declared at most
once, one id is among the ancestors of another one exactly if that one is among its descendants. -/
theorem listsDescendants_mirrored (snapshot : Snapshot) :
    (∀ id, ListsDescendants snapshot id ((ofSnapshot snapshot).descendants id)) ∧
      (snapshot.DeclaredOnce → ∀ above below, above ≠ below →
        (above ∈ ((ofSnapshot snapshot).ancestors below).map (·.id) ↔
          below ∈ ((ofSnapshot snapshot).descendants above).map (·.id))) := by
  refine ⟨listsDescendants snapshot, fun honce above below hne => ?_⟩
  rw [mem_ancestors_iff honce, mem_descendants_iff, and_iff_right hne.symm]

/-- A class that is known by its id. -/
def sampleClass (id : String) : Node :=
  { id, kind := .classType, name := id, qualifiedName := id, filePath := "m.py", language := .python
    startLine := none, endLine := none, signature := none, metadata := .empty, snapshotId := "s", revision := "r" }

/-- An edge by which one id declares another one. -/
def sampleDeclaration (source target : String) : Edge :=
  { id := source ++ "->" ++ target, source, target, kind := .declares, filePath := none, metadata := .empty
    snapshotId := "s", revision := "r" }

/-- Three classes that declare each other in turn, one of them a fourth one as well, which declares a missing
one; and a class that declares itself. -/
def circled : Snapshot :=
  { repoId := "repo", snapshotId := "s", revision := "r"
    nodes := ["a", "b", "c", "d", "e"].map sampleClass
    edges := [sampleDeclaration "a" "b", sampleDeclaration "b" "c", sampleDeclaration "c" "a",
      sampleDeclaration "b" "d", sampleDeclaration "d" "x", sampleDeclaration "e" "e"] }

theorem listsDescendants_mirrored_circled : circled.DeclaredOnce ∧ "c" ≠ "d" ∧
    ("c" ∈ ((ofSnapshot circled).ancestors "d").map (·.id) ↔
      "d" ∈ ((ofSnapshot circled).descendants "c").map (·.id)) :=
  have honce : circled.DeclaredOnce := by decide
  ⟨honce, by decide, (listsDescendants_mirrored circled).2 honce "c" "d" (by decide)⟩

example : ((ofSnapshot circled).descendants "c").map (·.id) = ["a", "b", "d"] ∧
    ((ofSnapshot circled).ancestors "d").map (·.id) = ["b", "a", "c"] := by
  decide

end Index

end StructuralDiff
