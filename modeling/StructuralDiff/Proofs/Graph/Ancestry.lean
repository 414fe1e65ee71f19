import StructuralDiff.Graph.Index
import StructuralDiff.Proofs.Traversal

/-!
# Who declares whom

The declaring edges of a snapshot as a relation between ids, and what the index says about it.

* `Snapshot.Declares`: a node declares another one.
* `Snapshot.declaresAcyclically_of_rank`: a ranking of the nodes keeps them from declaring themselves.
* `Index.of_parent?`: the parent of a node declares it.
* `Index.of_mem_ancestors`: its ancestors declare it, directly or through others.
-/

open Relation (TransGen)

namespace StructuralDiff

namespace Snapshot

/-- There is an edge by which the one id declares the other. -/
def Declares (snapshot : Snapshot) (parent child : String) : Prop :=
  ∃ edge ∈ snapshot.edges, edge.kind = .declares ∧ edge.source = parent ∧ edge.target = child

/-- Nothing declares itself, directly or through others. -/
def DeclaresAcyclically (snapshot : Snapshot) : Prop :=
  ∀ id, ¬TransGen snapshot.Declares id id

/-- Nothing declares itself when what is declared always ranks higher. -/
theorem declaresAcyclically_of_rank {snapshot : Snapshot} (rank : String → Nat)
    (h : ∀ edge ∈ snapshot.edges, edge.kind = .declares → rank edge.source < rank edge.target) :
    snapshot.DeclaresAcyclically := by
  have hrank {a b : String} (hab : TransGen snapshot.Declares a b) : rank a < rank b := by
    induction hab with
    | single hstep =>
      obtain ⟨edge, hedge, hkind, rfl, rfl⟩ := hstep
      exact h edge hedge hkind
    | tail _ hstep ih =>
      obtain ⟨edge, hedge, hkind, rfl, rfl⟩ := hstep
      exact Nat.lt_trans ih (h edge hedge hkind)
  exact fun id hid => Nat.lt_irrefl _ (hrank hid)

theorem of_node?_eq_some {snapshot : Snapshot} {id : String} {node : Node}
    (h : snapshot.node? id = some node) : node ∈ snapshot.nodes ∧ node.id = id :=
  ⟨List.mem_reverse.1 (List.mem_of_find?_eq_some h), by simpa using List.find?_some h⟩

end Snapshot

namespace Index

variable {snapshot : Snapshot} {id : String} {node : Node}

/-- **The parent of a node declares it.** -/
theorem of_parent? (h : (ofSnapshot snapshot).parent? id = some node) :
    node ∈ snapshot.nodes ∧ snapshot.Declares node.id id := by
  obtain ⟨edge, hedge, hnode⟩ := Option.bind_eq_some_iff.1 h
  obtain ⟨hmem, hsource⟩ := Snapshot.of_node?_eq_some hnode
  have hkind : edge.kind = .declares := by simpa using List.find?_some hedge
  obtain ⟨hlink, htarget⟩ := List.mem_filter.1 (List.mem_of_find?_eq_some hedge)
  have hin : edge ∈ snapshot.edges := (List.mem_filter.1 (List.mem_reverse.1 hlink)).1
  exact ⟨hmem, edge, hin, hkind, hsource.symm, by simpa using htarget⟩

/-- **The ancestors of a node declare it**, directly or through others. -/
theorem of_mem_ancestors (h : node ∈ (ofSnapshot snapshot).ancestors id) :
    node ∈ snapshot.nodes ∧ TransGen snapshot.Declares node.id id := by
  obtain ⟨other, hclimb, hnode⟩ := List.mem_filterMap.1 h
  obtain ⟨hmem, rfl⟩ := Snapshot.of_node?_eq_some hnode
  refine ⟨hmem, Traversal.transGen_of_mem_climb (fun child parent hparent => ?_) hclimb⟩
  obtain ⟨found, hfound, rfl⟩ := Option.map_eq_some_iff.1 hparent
  exact (of_parent? hfound).2

end Index

end StructuralDiff
