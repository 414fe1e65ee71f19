import Mathlib.Data.List.Nodup
import StructuralDiff.Proofs.Delta.Correspondence
import StructuralDiff.Proofs.Graph.Ancestry
import StructuralDiff.View.Project

/-!
# Well-formed views

Every view of a delta is a graph of its own: ids are unique, parents and endpoints are nodes of the view, the
outcomes are those of the delta, and nothing is inside itself.

* `View.WellFormed`, `View.NestsAcyclically`: what a view should be.
* `View.Projects`: how a view comes from a snapshot; each node of the view shows one node of the snapshot,
  inside what declares this one.
* `View.projects_controlFlow`, `projects_declarations`, `projects_components`: from each perspective.
* `Delta.map_fst_views`, `Delta.lookup_views`: a delta has a view from every perspective, and no other one.
* `Delta.views_wellFormed`: all views of a delta are well formed.
-/

open Relation (TransGen)

namespace StructuralDiff

/-- A part of a list, looked at through corresponding keys. -/
theorem map_filterMap_sublist {α β γ : Type} {f : α → Option β} {key : α → γ} {key' : β → γ}
    (h : ∀ a b, f a = some b → key' b = key a) (l : List α) :
    ((l.filterMap f).map key').Sublist (l.map key) := by
  induction l with
  | nil => exact .refl _
  | cons a rest ih =>
    rw [List.filterMap_cons, List.map_cons]
    cases hf : f a with
    | none => exact ih.cons _
    | some b =>
      rw [List.map_cons, h a b hf]
      exact ih.cons_cons _

/-! ### Ids of groups -/

theorem groupId_injective : Function.Injective groupId := by
  intro a b h
  rw [groupId, groupId, ← String.toList_inj, String.toList_append, String.toList_append,
    List.append_cancel_left_eq] at h
  exact String.toList_inj.1 h

theorem beginsWith_groupId (id : String) : Text.beginsWith "group:" (groupId id) = true := by
  rw [Text.beginsWith, groupId, String.toList_append, List.isPrefixOf_iff_prefix]
  exact List.prefix_append _ _

/-! ### What a view should be -/

namespace View

/-- The ids of the nodes. -/
def nodeIds (view : View) : List String :=
  view.nodes.map (·.id)

/-- The ids of the edges. -/
def edgeIds (view : View) : List String :=
  view.edges.map (·.id)

/-- The id is the parent of the other one. -/
def Encloses (view : View) (parent child : String) : Prop :=
  ∃ node ∈ view.nodes, node.id = child ∧ node.parentId = some parent

/-- Nothing is inside itself, directly or through others. -/
def NestsAcyclically (view : View) : Prop :=
  ∀ id, ¬TransGen view.Encloses id id

/-- A view is a graph with the outcomes of a delta. -/
structure WellFormed (delta : Delta) (view : View) : Prop where
  nodeIds_nodup : view.nodeIds.Nodup
  edgeIds_nodup : view.edgeIds.Nodup
  parent_mem : ∀ node ∈ view.nodes, ∀ parent ∈ node.parentId, parent ∈ view.nodeIds
  source_mem : ∀ edge ∈ view.edges, edge.source ∈ view.nodeIds
  target_mem : ∀ edge ∈ view.edges, edge.target ∈ view.nodeIds
  node_status : ∀ node ∈ view.nodes, delta.nodeStatus? node.symbolId = some node.status
  edge_status : ∀ edge ∈ view.edges, delta.edgeStatus? edge.id = some edge.status

/-! ### How a view comes from a snapshot -/

/-- Each node of the view shows a node of the snapshot, under the id of this one or of its group, and inside
something that declares it. -/
structure ShowsNodes (delta : Delta) (snapshot : Snapshot) (view : View) : Prop where
  symbolIds_nodup : (view.nodes.map (·.symbolId)).Nodup
  symbol_mem : ∀ node ∈ view.nodes, node.symbolId ∈ snapshot.nodeIds
  id_cases : ∀ node ∈ view.nodes, node.id = node.symbolId ∨ node.id = groupId node.symbolId
  node_status : ∀ node ∈ view.nodes, node.status = delta.statusOf node.symbolId
  nested : ∀ node ∈ view.nodes, ∀ id ∈ node.parentId, ∃ parent ∈ view.nodes, parent.id = id ∧
    TransGen snapshot.Declares parent.symbolId node.symbolId

/-- Each edge of the view shows an edge of the snapshot, between nodes of the view. -/
structure ShowsEdges (delta : Delta) (snapshot : Snapshot) (view : View) : Prop where
  edgeIds_sublist : view.edgeIds.Sublist snapshot.edgeIds
  edge_status : ∀ edge ∈ view.edges, edge.status = delta.edgeStatusOf edge.id
  source_mem : ∀ edge ∈ view.edges, edge.source ∈ view.nodeIds
  target_mem : ∀ edge ∈ view.edges, edge.target ∈ view.nodeIds

/-- The view shows nothing but nodes and edges of the snapshot. -/
structure Projects (delta : Delta) (snapshot : Snapshot) (view : View) : Prop
  extends view.ShowsNodes delta snapshot, view.ShowsEdges delta snapshot

namespace Projects

variable {delta : Delta} {snapshot : Snapshot} {view : View}

/-- No id of the snapshot looks like the one of a group, so an id of the view stands for one node. -/
theorem eq_of_id_eq (h : view.Projects delta snapshot)
    (hplain : ∀ id ∈ snapshot.nodeIds, Text.beginsWith "group:" id = false) {a b : ViewNode}
    (ha : a ∈ view.nodes) (hb : b ∈ view.nodes) (hid : a.id = b.id) : a = b := by
  refine List.inj_on_of_nodup_map h.symbolIds_nodup ha hb ?_
  -- a node under its own id is never taken for a group, as no id of the snapshot looks like one
  have hne {x y : ViewNode} (hx : x ∈ view.nodes) : x.symbolId ≠ groupId y.symbolId := by
    intro heq
    have hx := hplain _ (h.symbol_mem x hx)
    rw [heq, beginsWith_groupId] at hx
    cases hx
  rcases h.id_cases a ha with hida | hida <;> rcases h.id_cases b hb with hidb | hidb <;>
    rw [hida, hidb] at hid
  · exact hid
  · exact absurd hid (hne ha)
  · exact absurd hid.symm (hne hb)
  · exact groupId_injective hid

/-- **A view that comes from a valid snapshot is well formed**, if the delta knows what is in the snapshot. -/
theorem wellFormed (h : view.Projects delta snapshot) (hvalid : snapshot.Valid)
    (hplain : ∀ id ∈ snapshot.nodeIds, Text.beginsWith "group:" id = false)
    (hnodes : ∀ id ∈ snapshot.nodeIds, (delta.nodeStatus? id).isSome)
    (hedges : ∀ id ∈ snapshot.edgeIds, (delta.edgeStatus? id).isSome) : view.WellFormed delta where
  nodeIds_nodup := (List.Nodup.of_map _ h.symbolIds_nodup).map_on fun _ ha _ hb hid =>
    h.eq_of_id_eq hplain ha hb hid
  edgeIds_nodup := h.edgeIds_sublist.nodup hvalid.edgeIds_nodup
  parent_mem node hnode parent hparent := by
    obtain ⟨found, hfound, rfl, -⟩ := h.nested node hnode parent hparent
    exact List.mem_map_of_mem hfound
  source_mem := h.source_mem
  target_mem := h.target_mem
  node_status node hnode := by
    obtain ⟨status, hstatus⟩ := Option.isSome_iff_exists.1 (hnodes _ (h.symbol_mem node hnode))
    rw [h.node_status node hnode, Delta.statusOf, hstatus]
    rfl
  edge_status edge hedge := by
    have hmem := h.edgeIds_sublist.subset (List.mem_map_of_mem hedge)
    obtain ⟨status, hstatus⟩ := Option.isSome_iff_exists.1 (hedges _ hmem)
    rw [h.edge_status edge hedge, Delta.edgeStatusOf, hstatus]
    rfl

/-- What is inside something else shows a node that is declared by the other's one. -/
theorem declares_of_encloses (h : view.Projects delta snapshot)
    (hplain : ∀ id ∈ snapshot.nodeIds, Text.beginsWith "group:" id = false) {outer inner : String}
    (hinside : TransGen view.Encloses outer inner) :
    ∃ a ∈ view.nodes, a.id = outer ∧ ∃ b ∈ view.nodes, b.id = inner ∧
      TransGen snapshot.Declares a.symbolId b.symbolId := by
  induction hinside with
  | single hstep =>
    obtain ⟨b, hb, rfl, hparent⟩ := hstep
    obtain ⟨a, ha, rfl, hdeclares⟩ := h.nested b hb _ hparent
    exact ⟨a, ha, rfl, b, hb, rfl, hdeclares⟩
  | tail _ hstep ih =>
    obtain ⟨a, ha, rfl, b, hb, rfl, hdeclares⟩ := ih
    obtain ⟨c, hc, rfl, hparent⟩ := hstep
    obtain ⟨b', hb', hid, hdeclares'⟩ := h.nested c hc _ hparent
    -- the way so far ends at the node whose id is the parent, and so does not break off in the snapshot
    obtain rfl := h.eq_of_id_eq hplain hb' hb hid
    exact ⟨a, ha, rfl, c, hc, rfl, hdeclares.trans hdeclares'⟩

/-- **Nothing is inside itself** when nothing declares itself. -/
theorem nestsAcyclically (h : view.Projects delta snapshot)
    (hplain : ∀ id ∈ snapshot.nodeIds, Text.beginsWith "group:" id = false)
    (hacyclic : snapshot.DeclaresAcyclically) : view.NestsAcyclically := by
  intro id hinside
  obtain ⟨a, ha, hida, b, hb, hidb, hdeclares⟩ := h.declares_of_encloses hplain hinside
  obtain rfl := h.eq_of_id_eq hplain ha hb (hida.trans hidb.symm)
  exact hacyclic _ hdeclares

end Projects

/-! ### The perspectives -/

section Perspectives

variable {delta : Delta} {snapshot : Snapshot}

/-- The edges of a view are shown one by one. -/
theorem showsEdges_of_filterMap {view : View} {show? : Edge → Option ViewEdge}
    (hedges : view.edges = snapshot.edges.filterMap show?)
    (h : ∀ edge shown, show? edge = some shown → shown.id = edge.id ∧
      shown.status = delta.edgeStatusOf edge.id ∧ shown.source ∈ view.nodeIds ∧ shown.target ∈ view.nodeIds) :
    view.ShowsEdges delta snapshot := by
  have hedge {shown : ViewEdge} (hshown : shown ∈ view.edges) : ∃ edge, show? edge = some shown := by
    rw [hedges, List.mem_filterMap] at hshown
    obtain ⟨edge, -, hshown⟩ := hshown
    exact ⟨edge, hshown⟩
  constructor
  · rw [edgeIds, hedges]
    exact map_filterMap_sublist (fun edge shown hshown => (h edge shown hshown).1) snapshot.edges
  · intro shown hshown
    obtain ⟨edge, hshown⟩ := hedge hshown
    obtain ⟨hid, hstatus, -⟩ := h edge shown hshown
    rw [hid, hstatus]
  · intro shown hshown
    obtain ⟨edge, hshown⟩ := hedge hshown
    exact (h edge shown hshown).2.2.1
  · intro shown hshown
    obtain ⟨edge, hshown⟩ := hedge hshown
    exact (h edge shown hshown).2.2.2

/-- An edge that is shown between its own endpoints, if these are among some ids. -/
theorem edge_cases_of_ids {ids : List String} {relation? : Option Relation} {edge : Edge} {shown : ViewEdge}
    (h : (if ids.contains edge.source && ids.contains edge.target then
      relation?.map fun relation => edge.shown edge.source edge.target relation delta else none) = some shown) :
    shown.id = edge.id ∧ shown.status = delta.edgeStatusOf edge.id ∧ shown.source ∈ ids ∧ shown.target ∈ ids := by
  split at h
  · next hids =>
    obtain ⟨relation, -, rfl⟩ := Option.map_eq_some_iff.1 h
    simp only [Bool.and_eq_true, List.contains_iff_mem] at hids
    exact ⟨rfl, rfl, hids.1, hids.2⟩
  · cases h

/-! ### Control flow -/

/-- What a node shows from the perspective of control flow. -/
theorem controlFlowNode?_cases {node : Node} {shown : ViewNode}
    (h : controlFlowNode? (Index.ofSnapshot snapshot) delta node = some shown) :
    shown.symbolId = node.id ∧ shown.status = delta.statusOf node.id ∧
      ((node.kind.isCallable ∧ shown.id = groupId node.id) ∨ (node.kind = .branch ∧ shown.id = node.id)) ∧
      ∀ id ∈ shown.parentId, ∃ parent ∈ snapshot.nodes, parent.kind.isCallable ∧ groupId parent.id = id ∧
        TransGen snapshot.Declares parent.id node.id := by
  rw [controlFlowNode?] at h
  split at h
  · next hcallable =>
    obtain rfl := Option.some.inj h
    refine ⟨rfl, rfl, .inl ⟨hcallable, rfl⟩, fun id hid => ?_⟩
    obtain ⟨parent, hparent, rfl⟩ := Option.map_eq_some_iff.1 hid
    obtain ⟨hmem, hdeclares⟩ := Index.of_mem_ancestors (List.mem_of_find?_eq_some hparent)
    have hkind := List.find?_some (p := fun node : Node => node.kind.isCallable) hparent
    exact ⟨parent, hmem, hkind, rfl, hdeclares⟩
  · split at h
    · next hbranch =>
      obtain rfl := Option.some.inj h
      refine ⟨rfl, rfl, .inr ⟨by simpa using hbranch, rfl⟩, fun id hid => ?_⟩
      obtain ⟨parent, hparent, rfl⟩ := Option.map_eq_some_iff.1 hid
      obtain ⟨hfound, hcallable⟩ := Option.filter_eq_some_iff.1 hparent
      obtain ⟨hmem, hdeclares⟩ := Index.of_parent? hfound
      exact ⟨parent, hmem, hcallable, rfl, .single hdeclares⟩
    · cases h

theorem groupId_mem_controlFlow (delta : Delta) {node : Node} (hmem : node ∈ snapshot.nodes) (hcallable : node.kind.isCallable) :
    ∃ shown ∈ (controlFlow delta snapshot).nodes, shown.id = groupId node.id ∧ shown.symbolId = node.id := by
  obtain ⟨shown, hshown⟩ : ∃ shown, controlFlowNode? (Index.ofSnapshot snapshot) delta node = some shown := by
    rw [controlFlowNode?, if_pos hcallable]
    exact ⟨_, rfl⟩
  obtain ⟨hsymbol, -, ⟨-, hid⟩ | ⟨hbranch, -⟩, -⟩ := controlFlowNode?_cases hshown
  · exact ⟨shown, List.mem_filterMap.2 ⟨node, hmem, hshown⟩, hid, hsymbol⟩
  · rw [hbranch] at hcallable
    cases hcallable

theorem id_mem_controlFlow {node : Node} (hmem : node ∈ snapshot.nodes) (hbranch : node.kind = .branch) :
    node.id ∈ (controlFlow delta snapshot).nodeIds := by
  obtain ⟨shown, hshown⟩ : ∃ shown, controlFlowNode? (Index.ofSnapshot snapshot) delta node = some shown := by
    rw [controlFlowNode?, hbranch]
    exact ⟨_, rfl⟩
  obtain ⟨-, -, ⟨hcallable, -⟩ | ⟨-, hid⟩, -⟩ := controlFlowNode?_cases hshown
  · rw [hbranch] at hcallable
    cases hcallable
  · exact List.mem_map.2 ⟨shown, List.mem_filterMap.2 ⟨node, hmem, hshown⟩, hid⟩

/-- What an edge shows from the perspective of control flow. -/
theorem controlFlowEdge?_cases {edge : Edge} {shown : ViewEdge}
    (h : controlFlowEdge? (Index.ofSnapshot snapshot) delta edge = some shown) :
    shown.id = edge.id ∧ shown.status = delta.edgeStatusOf edge.id ∧
      shown.source ∈ (controlFlow delta snapshot).nodeIds ∧
      shown.target ∈ (controlFlow delta snapshot).nodeIds := by
  rw [controlFlowEdge?] at h
  split at h
  · next source target hsource htarget =>
    obtain ⟨hsource, -⟩ := Snapshot.of_node?_eq_some hsource
    obtain ⟨htarget, -⟩ := Snapshot.of_node?_eq_some htarget
    split at h
    · next hflow =>
      obtain rfl := Option.some.inj h
      simp only [Bool.and_eq_true, beq_iff_eq] at hflow
      exact ⟨rfl, rfl, id_mem_controlFlow hsource hflow.1.2, id_mem_controlFlow htarget hflow.2⟩
    · split at h
      · next hsite =>
        obtain rfl := Option.some.inj h
        simp only [Bool.and_eq_true, beq_iff_eq] at hsite
        obtain ⟨group, hgroup, hid, -⟩ := groupId_mem_controlFlow delta htarget hsite.2
        exact ⟨rfl, rfl, id_mem_controlFlow hsource hsite.1.2, List.mem_map.2 ⟨group, hgroup, hid⟩⟩
      · cases h
  · cases h

/-- **From the perspective of control flow** a view projects the snapshot. -/
theorem projects_controlFlow (hvalid : snapshot.Valid) : (controlFlow delta snapshot).Projects delta snapshot where
  toShowsEdges := showsEdges_of_filterMap rfl fun _ _ => controlFlowEdge?_cases
  symbolIds_nodup := (map_filterMap_sublist (fun _ _ hshown => (controlFlowNode?_cases hshown).1)
    snapshot.nodes).nodup hvalid.nodeIds_nodup
  symbol_mem shown hshown := by
    obtain ⟨node, hnode, hshown⟩ := List.mem_filterMap.1 hshown
    rw [(controlFlowNode?_cases hshown).1]
    exact List.mem_map_of_mem hnode
  id_cases shown hshown := by
    obtain ⟨node, -, hshown⟩ := List.mem_filterMap.1 hshown
    obtain ⟨hsymbol, -, ⟨-, hid⟩ | ⟨-, hid⟩, -⟩ := controlFlowNode?_cases hshown
    · exact .inr (hsymbol ▸ hid)
    · exact .inl (hsymbol ▸ hid)
  node_status shown hshown := by
    obtain ⟨node, -, hshown⟩ := List.mem_filterMap.1 hshown
    obtain ⟨hsymbol, hstatus, -⟩ := controlFlowNode?_cases hshown
    rw [hsymbol, hstatus]
  nested shown hshown id hid := by
    obtain ⟨node, -, hshown⟩ := List.mem_filterMap.1 hshown
    obtain ⟨hsymbol, -, -, hparent⟩ := controlFlowNode?_cases hshown
    obtain ⟨parent, hmem, hcallable, rfl, hdeclares⟩ := hparent id hid
    obtain ⟨group, hgroup, hid, hgroupSymbol⟩ := groupId_mem_controlFlow delta hmem hcallable
    exact ⟨group, hgroup, hid, hgroupSymbol ▸ hsymbol ▸ hdeclares⟩

/-! ### Declarations -/

/-- What shows a node that is not a branch. -/
theorem exists_declaration (delta : Delta) {node : Node} (hmem : node ∈ snapshot.nodes) (hid : node.id ∈ declarationIds snapshot) :
    ∃ shown ∈ (declarations delta snapshot).nodes, shown.id = node.id ∧ shown.symbolId = node.id :=
  ⟨_, List.mem_map_of_mem (List.mem_filter.2 ⟨hmem, by simpa using hid⟩), rfl, rfl⟩

theorem mem_nodeIds_declarations {id : String} (h : id ∈ declarationIds snapshot) :
    id ∈ (declarations delta snapshot).nodeIds := by
  obtain ⟨node, hnode, rfl⟩ := List.mem_map.1 h
  obtain ⟨shown, hshown, hid, -⟩ := exists_declaration delta (List.mem_filter.1 hnode).1 h
  exact List.mem_map.2 ⟨shown, hshown, hid⟩

/-- **From the perspective of declarations** a view projects the snapshot. -/
theorem projects_declarations (hvalid : snapshot.Valid) : (declarations delta snapshot).Projects delta snapshot where
  toShowsEdges := by
    refine showsEdges_of_filterMap rfl fun edge shown h => ?_
    obtain ⟨hid, hstatus, hsource, htarget⟩ := edge_cases_of_ids h
    exact ⟨hid, hstatus, mem_nodeIds_declarations hsource, mem_nodeIds_declarations htarget⟩
  symbolIds_nodup := by
    rw [declarations, List.map_map]
    exact (List.filter_sublist.map _).nodup hvalid.nodeIds_nodup
  symbol_mem shown hshown := by
    obtain ⟨node, hnode, rfl⟩ := List.mem_map.1 hshown
    exact List.mem_map_of_mem (List.mem_filter.1 hnode).1
  id_cases shown hshown := by
    obtain ⟨node, -, rfl⟩ := List.mem_map.1 hshown
    exact .inl rfl
  node_status shown hshown := by
    obtain ⟨node, -, rfl⟩ := List.mem_map.1 hshown
    rfl
  nested shown hshown id hid := by
    obtain ⟨node, -, rfl⟩ := List.mem_map.1 hshown
    obtain ⟨parent, hparent, rfl⟩ := Option.map_eq_some_iff.1 hid
    obtain ⟨hfound, hincluded⟩ := Option.filter_eq_some_iff.1 hparent
    obtain ⟨hmem, hdeclares⟩ := Index.of_parent? hfound
    obtain ⟨outer, houter, hid, hsymbol⟩ := exists_declaration delta hmem (by simpa using hincluded)
    exact ⟨outer, houter, hid, hsymbol ▸ .single hdeclares⟩

/-! ### Components -/

theorem of_enclosingFile? {id : String} {file : Node}
    (h : enclosingFile? (Index.ofSnapshot snapshot) id = some file) :
    file ∈ snapshot.nodes ∧ file.kind = .file ∧ TransGen snapshot.Declares file.id id := by
  obtain ⟨hmem, hdeclares⟩ := Index.of_mem_ancestors (List.mem_of_find?_eq_some h)
  exact ⟨hmem, by simpa using List.find?_some (p := fun node : Node => node.kind == .file) h, hdeclares⟩

/-- What shows a file that holds a component or a hook. -/
theorem exists_componentGroup (delta : Delta) {node file : Node} (hmem : node ∈ snapshot.nodes)
    (hmember : (node.kind == .component || node.kind == .hook) = true)
    (hfile : enclosingFile? (Index.ofSnapshot snapshot) node.id = some file) :
    ∃ shown ∈ (components delta snapshot).nodes, shown.id = file.id ∧ shown.symbolId = file.id := by
  refine ⟨_, List.mem_append_left _ (List.mem_map_of_mem (List.mem_filter.2 ⟨(of_enclosingFile? hfile).1, ?_⟩)),
    rfl, rfl⟩
  rw [List.contains_iff_mem]
  exact List.mem_map_of_mem (List.mem_filterMap.2 ⟨node, List.mem_filter.2 ⟨hmem, hmember⟩, hfile⟩)

/-- What shows a component or a hook. -/
theorem mem_nodeIds_components {id : String}
    (h : id ∈ (snapshot.nodes.filter fun node => node.kind == .component || node.kind == .hook).map (·.id)) :
    id ∈ (components delta snapshot).nodeIds := by
  obtain ⟨node, hnode, rfl⟩ := List.mem_map.1 h
  exact List.mem_map.2 ⟨_, List.mem_append_right _ (List.mem_map_of_mem hnode), rfl⟩

/-- A node from the perspective of components shows a file that holds one, or is one inside its file. -/
theorem component_cases {shown : ViewNode} (h : shown ∈ (components delta snapshot).nodes) :
    ∃ node ∈ snapshot.nodes, shown.id = node.id ∧ shown.symbolId = node.id ∧
      shown.status = delta.statusOf node.id ∧ ∀ id ∈ shown.parentId, ∃ file,
        (node.kind == .component || node.kind == .hook) = true ∧
        enclosingFile? (Index.ofSnapshot snapshot) node.id = some file ∧ file.id = id := by
  rcases List.mem_append.1 h with hgroup | hmember
  · obtain ⟨node, hnode, rfl⟩ := List.mem_map.1 hgroup
    exact ⟨node, (List.mem_filter.1 hnode).1, rfl, rfl, rfl, fun _ hid => nomatch hid⟩
  · obtain ⟨node, hnode, rfl⟩ := List.mem_map.1 hmember
    obtain ⟨hmem, hkind⟩ := List.mem_filter.1 hnode
    refine ⟨node, hmem, rfl, rfl, rfl, fun id hid => ?_⟩
    obtain ⟨file, hfile, rfl⟩ := Option.map_eq_some_iff.1 hid
    exact ⟨file, hkind, hfile, rfl⟩

/-- The files and what they hold are different nodes. -/
theorem symbolIds_components_nodup (hvalid : snapshot.Valid) :
    ((components delta snapshot).nodes.map (·.symbolId)).Nodup := by
  have hids (p : Node → Bool) : ((snapshot.nodes.filter p).map (·.id)).Nodup :=
    (List.filter_sublist.map _).nodup hvalid.nodeIds_nodup
  rw [components, List.map_append, List.map_map, List.map_map]
  refine List.nodup_append'.2 ⟨hids _, hids _, fun id hgroups hmembers => ?_⟩
  -- a node on both sides is a component or a hook, and a file that holds one
  obtain ⟨group, hgroup, rfl⟩ := List.mem_map.1 hgroups
  obtain ⟨member, hmember, hid⟩ := List.mem_map.1 hmembers
  obtain ⟨hgroup, hfile⟩ := List.mem_filter.1 hgroup
  obtain ⟨hmember, hkind⟩ := List.mem_filter.1 hmember
  obtain rfl := hvalid.eq_of_id_eq hmember hgroup hid
  obtain ⟨file, hfile, hid⟩ := List.mem_map.1 (List.contains_iff_mem.1 hfile)
  obtain ⟨inner, -, hfile⟩ := List.mem_filterMap.1 hfile
  obtain ⟨hmem, hfileKind, -⟩ := of_enclosingFile? hfile
  obtain rfl := hvalid.eq_of_id_eq hmem hmember hid
  rw [hfileKind] at hkind
  cases hkind

/-- **From the perspective of components** a view projects the snapshot. -/
theorem projects_components (hvalid : snapshot.Valid) : (components delta snapshot).Projects delta snapshot where
  toShowsEdges := by
    refine showsEdges_of_filterMap rfl fun edge shown h => ?_
    obtain ⟨hid, hstatus, hsource, htarget⟩ := edge_cases_of_ids h
    exact ⟨hid, hstatus, mem_nodeIds_components hsource, mem_nodeIds_components htarget⟩
  symbolIds_nodup := symbolIds_components_nodup hvalid
  symbol_mem shown hshown := by
    obtain ⟨node, hnode, -, hsymbol, -⟩ := component_cases hshown
    exact hsymbol ▸ List.mem_map_of_mem hnode
  id_cases shown hshown := by
    obtain ⟨node, -, hid, hsymbol, -⟩ := component_cases hshown
    exact .inl (hid.trans hsymbol.symm)
  node_status shown hshown := by
    obtain ⟨node, -, -, hsymbol, hstatus, -⟩ := component_cases hshown
    rw [hsymbol, hstatus]
  nested shown hshown id hid := by
    obtain ⟨node, hnode, -, hsymbol, -, hparent⟩ := component_cases hshown
    obtain ⟨file, hkind, hfile, rfl⟩ := hparent id hid
    obtain ⟨group, hgroup, hid, hgroupSymbol⟩ := exists_componentGroup delta hnode hkind hfile
    exact ⟨group, hgroup, hid, hgroupSymbol ▸ hsymbol ▸ (of_enclosingFile? hfile).2.2⟩

/-- **From every perspective** a view projects the snapshot. -/
theorem projects_project (delta : Delta) (hvalid : snapshot.Valid) (perspective : Perspective) :
    (project perspective delta snapshot).Projects delta snapshot := by
  cases perspective with
  | controlFlow => exact projects_controlFlow hvalid
  | declarations => exact projects_declarations hvalid
  | components => exact projects_components hvalid

end Perspectives

end View

/-! ### The views of a delta -/

theorem Perspective.mem_all (perspective : Perspective) : perspective ∈ all := by
  cases perspective <;> decide

namespace Delta

/-- **A delta is seen from every perspective**, from each one once. -/
theorem map_fst_views (delta : Delta) : delta.views.map (·.1) = Perspective.all := by
  rw [views, List.map_map]
  exact List.map_id _

/-- What belongs to a perspective are the two snapshots from this perspective. -/
theorem mem_views {delta : Delta} {perspective : Perspective} {pair : ViewPair} :
    (perspective, pair) ∈ delta.views ↔ pair = delta.viewPair perspective := by
  rw [views, List.mem_map]
  constructor
  · rintro ⟨_, -, heq⟩
    obtain ⟨rfl, rfl⟩ := Prod.mk.inj heq
    rfl
  · rintro rfl
    exact ⟨perspective, perspective.mem_all, rfl⟩

theorem lookup_views (delta : Delta) (perspective : Perspective) :
    delta.views.lookup perspective = some (delta.viewPair perspective) := by
  cases perspective <;> rfl

section

variable {old new : Snapshot} {id : String}

/-- A delta knows the nodes of both snapshots. -/
theorem nodeStatus?_between_isSome (h : id ∈ old.nodeIds ∨ id ∈ new.nodeIds) :
    ((between old new).nodeStatus? id).isSome :=
  (Table.mem_keys _ _).1 (mem_nodeStatus_keys.2 h)

/-- A delta knows the edges of both snapshots. -/
theorem edgeStatus?_between_isSome (h : id ∈ old.edgeIds ∨ id ∈ new.edgeIds) :
    ((between old new).edgeStatus? id).isSome := by
  obtain ⟨status, hstatus, -⟩ :=
    Table.exists_get?_ofList (map_fst_edgeStatuses_perm.symm.subset (List.mem_append.2 h))
  exact Option.isSome_iff_exists.2 ⟨status, hstatus⟩

/-- From every perspective both sides are well formed. -/
theorem wellFormed_viewPair (hold : old.Valid) (hnew : new.Valid)
    (hplain : ∀ id ∈ old.nodeIds ++ new.nodeIds, Text.beginsWith "group:" id = false) (perspective : Perspective) :
    ((between old new).viewPair perspective).old.WellFormed (between old new) ∧
      ((between old new).viewPair perspective).new.WellFormed (between old new) := by
  constructor
  · exact (View.projects_project _ hold perspective).wellFormed hold
      (fun id hid => hplain id (List.mem_append_left _ hid)) (fun _ hid => nodeStatus?_between_isSome (.inl hid))
      (fun _ hid => edgeStatus?_between_isSome (.inl hid))
  · exact (View.projects_project _ hnew perspective).wellFormed hnew
      (fun id hid => hplain id (List.mem_append_right _ hid)) (fun _ hid => nodeStatus?_between_isSome (.inr hid))
      (fun _ hid => edgeStatus?_between_isSome (.inr hid))

end

/-- **All views of a delta are well formed**, and none of them has anything inside itself when nothing declares
itself. -/
theorem views_wellFormed {old new : Snapshot} (hold : old.validate = .ok ()) (hnew : new.validate = .ok ())
    (hplain : ∀ id ∈ old.nodeIds ++ new.nodeIds, Text.beginsWith "group:" id = false) :
    ∀ entry ∈ (between old new).views,
      (entry.2.old.WellFormed (between old new) ∧ (old.DeclaresAcyclically → entry.2.old.NestsAcyclically)) ∧
      (entry.2.new.WellFormed (between old new) ∧ (new.DeclaresAcyclically → entry.2.new.NestsAcyclically)) := by
  rintro ⟨perspective, pair⟩ hentry
  obtain rfl := mem_views.1 hentry
  have hold := Snapshot.validate_eq_ok_iff.1 hold
  have hnew := Snapshot.validate_eq_ok_iff.1 hnew
  have hshowsOld := View.projects_project (between old new) hold perspective
  have hshowsNew := View.projects_project (between old new) hnew perspective
  obtain ⟨hwellOld, hwellNew⟩ := wellFormed_viewPair hold hnew hplain perspective
  refine ⟨⟨hwellOld, hshowsOld.nestsAcyclically ?_⟩, hwellNew, hshowsNew.nestsAcyclically ?_⟩
  · exact fun id hid => hplain id (List.mem_append_left _ hid)
  · exact fun id hid => hplain id (List.mem_append_right _ hid)

/-- A file with a component that holds a hook, and a function with a branch in the hook. -/
def nestedSample (snapshotId p : String) : Snapshot :=
  let declares (source target : String) : Edge :=
    { sampleCall (p ++ source ++ target) (p ++ source) (p ++ target) with kind := .declares }
  { repoId := "repo", snapshotId, revision := "r"
    nodes := [sampleNode (p ++ "f") .file "m" 1 "F", sampleNode (p ++ "c") .component "m.C" 2 "C",
      sampleNode (p ++ "h") .hook "m.C.useH" 3 "H", sampleNode (p ++ "g") .function "m.C.useH.g" 4 "G",
      sampleNode (p ++ "b") .branch "m.C.useH.g::if#0" 5 "B"]
    edges := [declares "f" "c", declares "c" "h", declares "h" "g", declares "g" "b",
      sampleCall (p ++ "call") (p ++ "c") (p ++ "h")] }

theorem views_wellFormed_nested :
    let old := nestedSample "old" "o"
    let new := nestedSample "new" "n"
    (old.validate = .ok () ∧ new.validate = .ok () ∧
      ∀ id ∈ old.nodeIds ++ new.nodeIds, Text.beginsWith "group:" id = false) ∧
    ∀ entry ∈ (between old new).views,
      (entry.2.old.WellFormed (between old new) ∧ entry.2.old.NestsAcyclically) ∧
      (entry.2.new.WellFormed (between old new) ∧ entry.2.new.NestsAcyclically) := by
  have hold : (nestedSample "old" "o").validate = .ok () := by decide
  have hnew : (nestedSample "new" "n").validate = .ok () := by decide
  have hplain : ∀ id ∈ (nestedSample "old" "o").nodeIds ++ (nestedSample "new" "n").nodeIds,
      Text.beginsWith "group:" id = false := by decide
  have hacyclicOld : (nestedSample "old" "o").DeclaresAcyclically :=
    Snapshot.declaresAcyclically_of_rank ((nestedSample "old" "o").nodeIds.idxOf ·) (by decide)
  have hacyclicNew : (nestedSample "new" "n").DeclaresAcyclically :=
    Snapshot.declaresAcyclically_of_rank ((nestedSample "new" "n").nodeIds.idxOf ·) (by decide)
  refine ⟨⟨hold, hnew, hplain⟩, fun entry hentry => ?_⟩
  obtain ⟨⟨hwellOld, hnestsOld⟩, ⟨hwellNew, hnestsNew⟩⟩ := views_wellFormed hold hnew hplain entry hentry
  exact ⟨⟨hwellOld, hnestsOld hacyclicOld⟩, ⟨hwellNew, hnestsNew hacyclicNew⟩⟩

end Delta

end StructuralDiff
