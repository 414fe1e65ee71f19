import StructuralDiff.Proofs.Delta.Outcome
import StructuralDiff.Proofs.Graph.Revision

/-!
# Comparisons without revisions

Snapshots are compared by keys, signatures, positions and ids. None of them tells the revision, so a delta gives
the same outcomes whatever revisions the snapshots name.

* `Pairing.ofSides_unrevised`: nodes are paired as before.
* `Delta.between_unrevised`: the delta of two snapshots without revisions is their delta without revisions.
-/

namespace StructuralDiff

namespace Pairing

/-- The pairing without the revisions of its nodes. -/
def unrevised (pairing : Pairing) : Pairing where
  unchanged := pairing.unchanged.map (Prod.map Node.unrevised Node.unrevised)
  modified := pairing.modified.map (Prod.map Node.unrevised Node.unrevised)
  removed := pairing.removed.map Node.unrevised
  added := pairing.added.map Node.unrevised

theorem takeFirst?_unrevised {fits fits' : Node → Bool} (h : ∀ node, fits' node.unrevised = fits node)
    (nodes : List Node) : takeFirst? fits' (nodes.map Node.unrevised) =
      (takeFirst? fits nodes).map (Prod.map Node.unrevised (List.map Node.unrevised)) := by
  induction nodes with
  | nil => rfl
  | cons node rest ih =>
    rw [List.map_cons, takeFirst?, takeFirst?, h, ih]
    split
    · rfl
    · cases takeFirst? fits rest <;> rfl

/-- The round without the revisions of its nodes. -/
def Round.unrevised (round : Round) : Round where
  pairs := round.pairs.map (Prod.map Node.unrevised Node.unrevised)
  old := round.old.map Node.unrevised
  new := round.new.map Node.unrevised

theorem greedy_unrevised (fits : Node → Node → Bool)
    (h : ∀ o n, fits o.unrevised n.unrevised = fits o n) (old new : List Node) :
    greedy fits (old.map Node.unrevised) (new.map Node.unrevised) = (greedy fits old new).unrevised := by
  induction old generalizing new with
  | nil => rfl
  | cons o old ih =>
    rw [List.map_cons, greedy, greedy, takeFirst?_unrevised (h o)]
    cases takeFirst? (fits o) new with
    | none =>
      rw [Option.map_none]
      simp only [ih]
      rfl
    | some found =>
      rw [Option.map_some]
      simp only [Prod.map, ih]
      rfl

theorem mergeSort_unrevised (nodes : List Node) :
    (nodes.map Node.unrevised).mergeSort Node.standsBefore =
      (nodes.mergeSort Node.standsBefore).map Node.unrevised := by
  symm
  exact List.map_mergeSort fun _ _ _ _ => rfl

/-- **Nodes are paired whatever their revisions are.** -/
theorem ofSides_unrevised (old new : List Node) :
    ofSides (old.map Node.unrevised) (new.map Node.unrevised) = (ofSides old new).unrevised := by
  simp only [ofSides, mergeSort_unrevised, greedy_unrevised samePlace fun _ _ => rfl,
    Round.unrevised, greedy_unrevised sameSignature fun _ _ => rfl, unrevised, List.map_append,
    List.length_map, List.map_drop, List.zip_map]

theorem statuses_unrevised (pairing : Pairing) : pairing.unrevised.statuses = pairing.statuses := by
  simp only [statuses, unrevised, List.flatMap_map, List.map_map]
  rfl

theorem counterparts_unrevised (pairing : Pairing) :
    pairing.unrevised.counterparts = pairing.counterparts := by
  simp only [counterparts, unrevised, ← List.map_append, List.flatMap_map]
  rfl

end Pairing

namespace Delta

/-- The delta without the revisions of its snapshots. -/
def unrevised (delta : Delta) : Delta :=
  { delta with old := delta.old.unrevised, new := delta.new.unrevised }

variable (old new : Snapshot)

theorem pairings_unrevised :
    pairings old.unrevised new.unrevised = (pairings old new).map Pairing.unrevised := by
  have hkeyed (snapshot : Snapshot) : snapshot.unrevised.nodes.map (fun node => (node.key, node)) =
      (snapshot.nodes.map fun node => (node.key, node)).map (Prod.map id Node.unrevised) := by
    rw [Snapshot.unrevised, List.map_map, List.map_map]
    rfl
  have hunder (key : NodeKey) (entries : List (NodeKey × Node)) :
      under key (entries.map (Prod.map id Node.unrevised)) = (under key entries).map Node.unrevised := by
    rw [under, List.filter_map, List.map_map, under, List.map_map]
    rfl
  have hkeys (entries : List (NodeKey × Node)) :
      (entries.map (Prod.map id Node.unrevised)).map (·.1) = entries.map (·.1) := by
    rw [List.map_map]
    rfl
  simp only [pairings, hkeyed, keysOf, hkeys, hunder, Pairing.ofSides_unrevised]
  symm
  exact List.map_map

theorem edgeStatuses_unrevised : edgeStatuses old.unrevised new.unrevised = edgeStatuses old new := by
  have hkeyed (snapshot : Snapshot) :
      snapshot.unrevised.edges.map (fun edge => (snapshot.unrevised.edgeKey edge, edge.id)) =
        snapshot.edges.map fun edge => (snapshot.edgeKey edge, edge.id) := by
    rw [Snapshot.unrevised, List.map_map]
    exact List.map_congr_left fun edge _ => congrArg (·, edge.id) (snapshot.edgeKey_unrevised edge)
  simp only [edgeStatuses, hkeyed]

/-- **Two snapshots have the same outcomes and counterparts whatever their revisions are.** -/
theorem between_unrevised : between old.unrevised new.unrevised = (between old new).unrevised := by
  simp only [between, unrevised, pairings_unrevised, edgeStatuses_unrevised, List.flatMap_map,
    Pairing.statuses_unrevised, Pairing.counterparts_unrevised]

theorem isEmpty_unrevised (delta : Delta) : delta.unrevised.isEmpty = delta.isEmpty := rfl

end Delta

end StructuralDiff
