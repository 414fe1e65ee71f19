import Mathlib.Data.Set.Basic
import Mathlib.Order.Bounds.Defs
import StructuralDiff.Neighborhood.Strategy
import StructuralDiff.Proofs.Neighborhood.Layout

/-!
# What a neighborhood holds

Around a node in focus everything is kept that the backward walk from its direct neighborhood comes to, and
the edges that it may follow on the way. So the kept nodes are the smallest set that has the direct ones and is
closed under going back. Within a group the walk finds nothing new: its neighborhood is the group itself.

* `Strategy.Passes`, `Strategy.Closed`: where the walk may go, and the sets that it does not leave.
* `Strategy.isLeast_nodeIds`, `Strategy.mem_edgeIds_neighborhoodWithin`: what the walk keeps.
* `StrategyTable.neighborhood?_isLeast`: the neighborhood of any node.
* `StrategyTable.neighborhood?_group`: the neighborhood of a group.
-/

open Relation (ReflTransGen TransGen)

namespace StructuralDiff

namespace Neighborhood

variable {nodeIds edgeIds nodeIds' edgeIds' : List String} {id : String}

@[simp]
theorem mem_nodeIds_ofIds : id ∈ (ofIds nodeIds edgeIds).nodeIds ↔ id ∈ nodeIds :=
  Text.mem_sortedSet

@[simp]
theorem mem_edgeIds_ofIds : id ∈ (ofIds nodeIds edgeIds).edgeIds ↔ id ∈ edgeIds :=
  Text.mem_sortedSet

/-- Neighborhoods with the same members are the same. -/
theorem ofIds_ext
    (hnodes : ∀ id, id ∈ (ofIds nodeIds edgeIds).nodeIds ↔ id ∈ (ofIds nodeIds' edgeIds').nodeIds)
    (hedges : ∀ id, id ∈ (ofIds nodeIds edgeIds).edgeIds ↔ id ∈ (ofIds nodeIds' edgeIds').edgeIds) :
    ofIds nodeIds edgeIds = ofIds nodeIds' edgeIds' := by
  simp only [mem_nodeIds_ofIds] at hnodes
  simp only [mem_edgeIds_ofIds] at hedges
  rw [ofIds, ofIds, Text.sortedSet_eq_of_mem_iff hnodes, Text.sortedSet_eq_of_mem_iff hedges]

end Neighborhood

namespace Strategy

/-! ### Where the walk may go -/

/-- The backward walk may follow the edge: it is a flow edge of the layout, and its source is admitted. -/
structure Passes (strategy : Strategy) (layout : Layout) (direct : Neighborhood) (focus : ViewNode)
    (edge : ViewEdge) : Prop where
  mem : edge ∈ layout.edges
  flow : edge.relation = .flow
  admitted : ∃ source, layout.node? edge.source = some source ∧ strategy.admits direct focus source = true

/-- The set has all direct nodes, and the source of every edge into it that the walk may follow. -/
structure Closed (strategy : Strategy) (layout : Layout) (direct : Neighborhood) (focus : ViewNode)
    (ids : Set String) : Prop where
  direct_mem : ∀ id ∈ direct.nodeIds, id ∈ ids
  source_mem : ∀ edge, strategy.Passes layout direct focus edge → edge.target ∈ ids → edge.source ∈ ids

/-- The sources of the edges into a node that the walk may follow. -/
def sources (strategy : Strategy) (layout : Layout) (direct : Neighborhood) (focus : ViewNode)
    (id : String) : List String :=
  (strategy.admitted layout direct focus id).map (·.source)

/-- The neighborhood with a walk of a number of steps. -/
def neighborhoodWithin (strategy : Strategy) (layout : Layout) (direct : Neighborhood) (focus : ViewNode)
    (steps : Nat) : Neighborhood :=
  let walked := Traversal.explore (strategy.sources layout direct focus) steps direct.nodeIds direct.nodeIds
  let nodeIds := direct.nodeIds ++ walked
  Neighborhood.ofIds nodeIds
    (direct.edgeIds ++ nodeIds.flatMap fun id => (strategy.admitted layout direct focus id).map (·.id))

variable {strategy : Strategy} {layout : Layout} {direct : Neighborhood} {focus : ViewNode} {edge : ViewEdge}
  {id source target : String} {steps : Nat}

theorem neighborhood?_eq (h : strategy.direct? layout focus = some direct) :
    strategy.neighborhood? layout focus = some (strategy.neighborhoodWithin layout direct focus
      (direct.nodeIds.length + layout.nodes.length + 1)) := by
  rw [neighborhood?, h]
  rfl

theorem mem_admitted : edge ∈ strategy.admitted layout direct focus id ↔
    strategy.Passes layout direct focus edge ∧ edge.target = id := by
  rw [admitted, Layout.incomingFlow, List.filter_filter, List.mem_filter, Bool.and_eq_true, Bool.and_eq_true,
    Option.any_eq_true, beq_iff_eq, beq_iff_eq]
  constructor
  · rintro ⟨hmem, hadmitted, hflow, htarget⟩
    exact ⟨⟨hmem, hflow, hadmitted⟩, htarget⟩
  · rintro ⟨⟨hmem, hflow, hadmitted⟩, htarget⟩
    exact ⟨hmem, hadmitted, hflow, htarget⟩

theorem follows_sources : Traversal.Follows (strategy.sources layout direct focus) target source ↔
    ∃ edge, strategy.Passes layout direct focus edge ∧ edge.target = target ∧ edge.source = source := by
  rw [Traversal.Follows, sources, List.mem_map]
  simp only [mem_admitted, and_assoc]

theorem sources_subset (id : String) : strategy.sources layout direct focus id ⊆ layout.nodeIds := by
  intro source hsource
  obtain ⟨edge, hpasses, -, rfl⟩ := follows_sources.1 hsource
  obtain ⟨node, hnode, -⟩ := hpasses.admitted
  exact Layout.isSome_node?.1 (Option.isSome_of_eq_some hnode)

/-! ### What the walk keeps -/

/-- So many steps are enough for the walk. -/
theorem length_le_of_steps (h : direct.nodeIds.length + layout.nodes.length ≤ steps) :
    direct.nodeIds.length + layout.nodeIds.length ≤ steps := by
  rwa [Layout.nodeIds, List.length_map]

/-- The kept nodes are those that the walk comes to. -/
theorem mem_nodeIds_neighborhoodWithin (hsteps : direct.nodeIds.length + layout.nodes.length ≤ steps) :
    id ∈ (strategy.neighborhoodWithin layout direct focus steps).nodeIds ↔
      ∃ start ∈ direct.nodeIds,
        ReflTransGen (Traversal.Follows (strategy.sources layout direct focus)) start id := by
  rw [neighborhoodWithin, Neighborhood.mem_nodeIds_ofIds]
  exact Traversal.mem_append_explore_iff sources_subset (length_le_of_steps hsteps)

/-- **The kept nodes are the smallest set that the walk does not leave.** -/
theorem isLeast_nodeIds (strategy : Strategy) (focus : ViewNode)
    (hsteps : direct.nodeIds.length + layout.nodes.length ≤ steps) :
    IsLeast {ids | strategy.Closed layout direct focus ids}
      {id | id ∈ (strategy.neighborhoodWithin layout direct focus steps).nodeIds} := by
  constructor
  · constructor
    · intro id hid
      exact (mem_nodeIds_neighborhoodWithin hsteps).2 ⟨id, hid, .refl⟩
    · intro edge hpasses htarget
      obtain ⟨start, hstart, hwalk⟩ := (mem_nodeIds_neighborhoodWithin hsteps).1 htarget
      have hback := follows_sources.2 ⟨edge, hpasses, rfl, rfl⟩
      exact (mem_nodeIds_neighborhoodWithin hsteps).2 ⟨start, hstart, hwalk.tail hback⟩
  · intro ids hclosed id hid
    -- along the walk, a closed set has every id that is come to
    obtain ⟨start, hstart, hwalk⟩ := (mem_nodeIds_neighborhoodWithin hsteps).1 hid
    induction hwalk with
    | refl => exact hclosed.direct_mem start hstart
    | tail hbefore hback ih =>
      obtain ⟨edge, hpasses, rfl, rfl⟩ := follows_sources.1 hback
      exact hclosed.source_mem edge hpasses
        (ih ((mem_nodeIds_neighborhoodWithin hsteps).2 ⟨start, hstart, hbefore⟩))

/-- **The kept edges are the direct ones and those into kept nodes that the walk may follow.** -/
theorem mem_edgeIds_neighborhoodWithin :
    id ∈ (strategy.neighborhoodWithin layout direct focus steps).edgeIds ↔ id ∈ direct.edgeIds ∨
      ∃ edge, strategy.Passes layout direct focus edge ∧
        edge.target ∈ (strategy.neighborhoodWithin layout direct focus steps).nodeIds ∧ edge.id = id := by
  simp only [neighborhoodWithin, Neighborhood.mem_edgeIds_ofIds, Neighborhood.mem_nodeIds_ofIds]
  rw [List.mem_append]
  refine or_congr_right ?_
  simp only [List.mem_flatMap, List.mem_map, mem_admitted]
  constructor
  · rintro ⟨target, htarget, edge, ⟨hpasses, rfl⟩, rfl⟩
    exact ⟨edge, hpasses, htarget, rfl⟩
  · rintro ⟨edge, hpasses, htarget, rfl⟩
    exact ⟨edge.target, htarget, edge, ⟨hpasses, rfl⟩, rfl⟩

/-- **The walk ends**: with more steps than enough the neighborhood is the same. -/
theorem neighborhoodWithin_eq {steps' : Nat} (hsteps : direct.nodeIds.length + layout.nodes.length ≤ steps)
    (hmore : steps ≤ steps') : strategy.neighborhoodWithin layout direct focus steps' =
      strategy.neighborhoodWithin layout direct focus steps := by
  obtain ⟨more, rfl⟩ := Nat.exists_eq_add_of_le hmore
  rw [neighborhoodWithin, Traversal.explore_add sources_subset
    (Traversal.suffice_of_le (length_le_of_steps hsteps))]
  rfl

/-- Where every edge that the walk may follow is a direct one between direct nodes, it finds nothing new. -/
theorem mem_neighborhoodWithin_iff_of_still (strategy : Strategy) (focus : ViewNode)
    (hsteps : direct.nodeIds.length + layout.nodes.length ≤ steps)
    (hstill : ∀ edge, strategy.Passes layout direct focus edge → edge.target ∈ direct.nodeIds →
      edge.source ∈ direct.nodeIds ∧ edge.id ∈ direct.edgeIds) :
    (∀ id, id ∈ (strategy.neighborhoodWithin layout direct focus steps).nodeIds ↔ id ∈ direct.nodeIds) ∧
      ∀ id, id ∈ (strategy.neighborhoodWithin layout direct focus steps).edgeIds ↔ id ∈ direct.edgeIds := by
  obtain ⟨hclosed, hleast⟩ := isLeast_nodeIds strategy focus hsteps
  have hdirect : strategy.Closed layout direct focus {id | id ∈ direct.nodeIds} :=
    ⟨fun _ hid => hid, fun edge hpasses htarget => (hstill edge hpasses htarget).1⟩
  -- the direct nodes are a closed set already, and the smallest one is within it
  have hnodes (id : String) : id ∈ (strategy.neighborhoodWithin layout direct focus steps).nodeIds ↔
      id ∈ direct.nodeIds :=
    ⟨fun hid => hleast hdirect hid, fun hid => hclosed.direct_mem id hid⟩
  refine ⟨hnodes, fun id => ?_⟩
  rw [mem_edgeIds_neighborhoodWithin]
  constructor
  · rintro (hid | ⟨edge, hpasses, htarget, rfl⟩)
    · exact hid
    · exact (hstill edge hpasses ((hnodes _).1 htarget)).2
  · exact .inl

/-! ### Leaves -/

/-- The id belongs to the focus, to an end of an edge at the focus, or to a node with the same parent. -/
def IsNear (layout : Layout) (focus : ViewNode) (id : String) : Prop :=
  id = focus.id ∨
    (∃ edge ∈ layout.edges, (edge.source = focus.id ∨ edge.target = focus.id) ∧
      (id = edge.source ∨ id = edge.target)) ∨
    ∃ node ∈ layout.nodes, node.id = id ∧ node.parentId = focus.parentId

instance (layout : Layout) (focus : ViewNode) (id : String) : Decidable (IsNear layout focus id) :=
  inferInstanceAs (Decidable (_ ∨ _ ∨ _))

/-- From a leaf the walk does not leave what is near. -/
theorem closed_leaf (h : leaf.direct? layout focus = some direct) :
    leaf.Closed layout direct focus {id | IsNear layout focus id} := by
  obtain rfl := Option.some.inj h
  constructor
  · intro id hid
    rcases List.mem_cons.1 (Neighborhood.mem_nodeIds_ofIds.1 hid) with rfl | hend
    · exact .inl rfl
    · obtain ⟨edge, hedge, hid⟩ := List.mem_flatMap.1 hend
      obtain ⟨hmem, hat⟩ := List.mem_filter.1 hedge
      simp only [Bool.or_eq_true, beq_iff_eq] at hat
      exact .inr (.inl ⟨edge, hmem, hat, by simpa using hid⟩)
  · -- wherever the edge leads, a leaf admits only nodes with the same parent
    rintro edge hpasses -
    obtain ⟨node, hnode, hsame⟩ := hpasses.admitted
    obtain ⟨hmem, hid⟩ := Layout.of_node?_eq_some hnode
    exact .inr (.inr ⟨node, hmem, hid, beq_iff_eq.1 hsame⟩)

/-! ### Groups -/

/-- In a group the edges that the walk may follow are between direct nodes, and direct ones themselves. -/
theorem still_group (h : group.direct? layout focus = some direct)
    (hpasses : group.Passes layout direct focus edge) (htarget : edge.target ∈ direct.nodeIds) :
    edge.source ∈ direct.nodeIds ∧ edge.id ∈ direct.edgeIds := by
  obtain rfl := Option.some.inj h
  -- a group admits its members alone, so the source is one of them
  obtain ⟨node, hnode, hinside⟩ := hpasses.admitted
  obtain ⟨-, hid⟩ := Layout.of_node?_eq_some hnode
  have hsource := List.contains_iff_mem.1 hinside
  rw [hid] at hsource
  refine ⟨hsource, Neighborhood.mem_edgeIds_ofIds.2 (List.mem_map_of_mem (List.mem_filter.2 ⟨hpasses.mem, ?_⟩))⟩
  rw [Neighborhood.mem_nodeIds_ofIds] at hsource htarget
  rw [Bool.and_eq_true, List.contains_iff_mem, List.contains_iff_mem]
  exact ⟨hsource, htarget⟩

/-- **The neighborhood of a group is the direct one.** -/
theorem neighborhood?_group_eq_direct? (layout : Layout) (focus : ViewNode) :
    group.neighborhood? layout focus = group.direct? layout focus := by
  obtain ⟨direct, hdirect⟩ : ∃ direct, group.direct? layout focus = some direct := ⟨_, rfl⟩
  obtain ⟨hnodes, hedges⟩ := mem_neighborhoodWithin_iff_of_still group focus
    (Nat.le_succ (direct.nodeIds.length + layout.nodes.length)) fun _ => still_group hdirect
  rw [neighborhood?_eq hdirect, hdirect]
  obtain rfl := Option.some.inj hdirect
  exact congrArg some (Neighborhood.ofIds_ext hnodes hedges)

end Strategy

/-! ### The neighborhood of a node -/

namespace StrategyTable

/-- **A neighborhood is the least fixed point of the walk.** Whatever the strategy is, when it has a direct
neighborhood the walk ends; the kept nodes are the smallest set that has the direct ones and the admitted
sources of the flow edges into it, and the kept edges are the direct ones and the flow edges that were followed.
Around a leaf, everything that is kept is near. -/
theorem neighborhood?_isLeast (table : StrategyTable) (layout : Layout) (focus : ViewNode)
    {direct : Neighborhood} (hdirect : (table.resolve focus.strategyKey).direct? layout focus = some direct) :
    let strategy := table.resolve focus.strategyKey
    ∃ kept, table.neighborhood? layout focus = some kept ∧
      (∀ steps, direct.nodeIds.length + layout.nodes.length ≤ steps →
        strategy.neighborhoodWithin layout direct focus steps = kept) ∧
      IsLeast {ids | strategy.Closed layout direct focus ids} {id | id ∈ kept.nodeIds} ∧
      (∀ id, id ∈ kept.edgeIds ↔ id ∈ direct.edgeIds ∨
        ∃ edge, strategy.Passes layout direct focus edge ∧ edge.target ∈ kept.nodeIds ∧ edge.id = id) ∧
      (strategy = .leaf → ∀ id ∈ kept.nodeIds, Strategy.IsNear layout focus id) := by
  intro strategy
  have henough := Nat.le_succ (direct.nodeIds.length + layout.nodes.length)
  have hleast := strategy.isLeast_nodeIds focus henough
  refine ⟨_, Strategy.neighborhood?_eq hdirect, fun steps hsteps => ?_, hleast,
    fun id => Strategy.mem_edgeIds_neighborhoodWithin, fun hleaf id hid => ?_⟩
  · -- both numbers of steps are compared with the smallest that is enough
    rw [Strategy.neighborhoodWithin_eq (Nat.le_refl _) hsteps,
      ← Strategy.neighborhoodWithin_eq (Nat.le_refl _) henough]
  · have hnear : strategy.Closed layout direct focus {id | Strategy.IsNear layout focus id} := by
      have hdirect : strategy.direct? layout focus = some direct := hdirect
      rw [hleaf] at hdirect ⊢
      exact Strategy.closed_leaf hdirect
    exact hleast.2 hnear hid

/-- Three branches of a function that lead in a circle and to a fourth one, to which a branch of another function
leads as well. -/
def crossingFlow : Layout :=
  .ofLists [.sample "f" none true, .sample "f0" (some "f") false, .sample "f1" (some "f") false,
      .sample "f2" (some "f") false, .sample "f3" (some "f") false, .sample "h" none true,
      .sample "h0" (some "h") false, .sample "h1" (some "h") false]
    [.sampleFlow "f0" "f1", .sampleFlow "f1" "f2", .sampleFlow "f2" "f0", .sampleFlow "f2" "f3",
      .sampleFlow "h0" "h1", .sampleFlow "h1" "f3", .sampleFlow "gone" "f3"]

/-- The walk goes once around the circle, and not on in the other function. -/
theorem neighborhood?_isLeast_crossing :
    let focus : ViewNode := .sample "f3" (some "f") false
    ∃ direct kept, (standard.resolve focus.strategyKey).direct? crossingFlow focus = some direct ∧
      standard.neighborhood? crossingFlow focus = some kept ∧
      "f0" ∈ kept.nodeIds ∧ "f2->f0" ∈ kept.edgeIds ∧ "h1" ∈ kept.nodeIds ∧ "h0" ∉ kept.nodeIds := by
  intro focus
  have hresolve : standard.resolve focus.strategyKey = .leaf := rfl
  obtain ⟨direct, hdirect⟩ : ∃ direct,
      (standard.resolve focus.strategyKey).direct? crossingFlow focus = some direct := ⟨_, rfl⟩
  obtain ⟨kept, hkept, -, ⟨hclosed, -⟩, hedges, hnear⟩ :=
    neighborhood?_isLeast standard crossingFlow focus hdirect
  have hstart (id : String) (hid : id ∈ ["f2", "h1"]) : id ∈ kept.nodeIds := by
    refine hclosed.direct_mem id ?_
    obtain rfl := Option.some.inj hdirect
    exact Neighborhood.mem_nodeIds_ofIds.2 (by revert id; decide)
  -- the circle: from one branch of the function to the one before it
  have hpasses (source target : String) (hedge : ViewEdge.sampleFlow source target ∈ crossingFlow.edges)
      (hsource : crossingFlow.node? source = some (.sample source (some "f") false)) :
      (standard.resolve focus.strategyKey).Passes crossingFlow direct focus (.sampleFlow source target) :=
    ⟨hedge, rfl, _, hsource, rfl⟩
  have hf1 := hclosed.source_mem _ (hpasses "f1" "f2" (by decide) (by decide)) (hstart "f2" (by decide))
  have hf0 := hclosed.source_mem _ (hpasses "f0" "f1" (by decide) (by decide)) hf1
  have hback := (hedges "f2->f0").2 (.inr ⟨_, hpasses "f2" "f0" (by decide) (by decide), hf0, rfl⟩)
  refine ⟨direct, kept, hdirect, hkept, hf0, hback, hstart "h1" (by decide), fun hfar => ?_⟩
  exact absurd (hnear hresolve "h0" hfar) (by decide)

/-- **The neighborhood of a group is the group**: the focus with everything that lies inside it, and the edges
between them. The walk adds nothing to it. -/
theorem neighborhood?_group (table : StrategyTable) (layout : Layout) (hnodup : layout.nodeIds.Nodup)
    (focus : ViewNode) (hgroup : table.resolve focus.strategyKey = .group) :
    ∃ kept, table.neighborhood? layout focus = some kept ∧ Strategy.group.direct? layout focus = some kept ∧
      (∀ id, id ∈ kept.nodeIds ↔
        id = focus.id ∨ ∃ node ∈ layout.nodes, node.id = id ∧ layout.LiesInside node focus.id) ∧
      (∀ id, id ∈ kept.edgeIds ↔
        ∃ edge ∈ layout.edges, edge.source ∈ kept.nodeIds ∧ edge.target ∈ kept.nodeIds ∧ edge.id = id) := by
  have hkept : table.neighborhood? layout focus = Strategy.group.direct? layout focus := by
    rw [neighborhood?, hgroup, Strategy.neighborhood?_group_eq_direct?]
  refine ⟨_, hkept, rfl, fun id => ?_, fun id => ?_⟩
  · rw [Neighborhood.mem_nodeIds_ofIds, List.mem_cons, Layout.mem_descendants_iff hnodup]
    -- the focus is not listed inside itself, but it is a member anyway
    by_cases hfocus : id = focus.id
    · simp [hfocus]
    · simp [hfocus]
  · simp only [Neighborhood.mem_edgeIds_ofIds, Neighborhood.mem_nodeIds_ofIds, List.mem_map, List.mem_filter,
      Bool.and_eq_true, List.contains_iff_mem, and_assoc]

/-- Two groups inside each other, a branch in one of them, and a branch whose parent has not been positioned. -/
def cyclicGroups : Layout :=
  .ofLists [.sample "a" (some "b") true, .sample "b" (some "a") true, .sample "c" (some "b") false,
      .sample "d" (some "gone") false]
    [.sampleFlow "c" "a", .sampleFlow "d" "a"]

/-- The chain of a branch goes through both groups. -/
theorem neighborhood?_group_cyclic :
    let focus : ViewNode := .sample "a" (some "b") true
    cyclicGroups.nodeIds.Nodup ∧ standard.resolve focus.strategyKey = .group ∧
      ∃ kept, standard.neighborhood? cyclicGroups focus = some kept ∧
        "c" ∈ kept.nodeIds ∧ "c->a" ∈ kept.edgeIds ∧ "d" ∉ kept.nodeIds ∧ "d->a" ∉ kept.edgeIds := by
  intro focus
  have hnodup : cyclicGroups.nodeIds.Nodup := by decide
  have hresolve : standard.resolve focus.strategyKey = .group := rfl
  obtain ⟨kept, hkept, -, hnodes, hedges⟩ := neighborhood?_group standard cyclicGroups hnodup focus hresolve
  have hinside : cyclicGroups.LiesInside (.sample "c" (some "b") false) "a" := by
    let b : ViewNode := .sample "b" (some "a") true
    have hcb : cyclicGroups.HasParent (.sample "c" (some "b") false) b := by decide
    have hba : cyclicGroups.HasParent b focus := by decide
    exact ⟨focus, .head hcb (.single hba), rfl⟩
  have hc : "c" ∈ kept.nodeIds := (hnodes "c").2 (.inr ⟨_, by decide, rfl, hinside⟩)
  have ha : "a" ∈ kept.nodeIds := (hnodes "a").2 (.inl rfl)
  have hd : "d" ∉ kept.nodeIds := by
    intro hd
    rcases (hnodes "d").1 hd with hfocus | ⟨node, hnode, hid, outer, hchain, -⟩
    · exact absurd hfocus (by decide)
    · obtain rfl := Layout.eq_of_id_eq hnodup hnode (b := .sample "d" (some "gone") false) (by decide) hid
      obtain ⟨parent, hparent, -⟩ := TransGen.head'_iff.1 hchain
      cases hparent
  have hca := (hedges "c->a").2 ⟨.sampleFlow "c" "a", by decide, hc, ha, rfl⟩
  have hsole : ∀ edge ∈ cyclicGroups.edges, edge.id = "d->a" → edge.source = "d" := by decide
  refine ⟨hnodup, hresolve, kept, hkept, hc, hca, hd, fun hedge => ?_⟩
  obtain ⟨edge, hmem, hsource, -, hid⟩ := (hedges "d->a").1 hedge
  exact hd (hsole edge hmem hid ▸ hsource)

end StrategyTable

end StructuralDiff
