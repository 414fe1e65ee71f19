import StructuralDiff.Proofs.Delta.Correspondence
import StructuralDiff.Proofs.Delta.Enumeration
import StructuralDiff.Proofs.Ranking
import StructuralDiff.Risk

/-!
# The risks of a comparison

A comparison lists a risk for every symbol that was removed, added or modified. Two nodes that correspond are
both modified, and only the new one is listed; what was removed can only be measured in the old snapshot.

* `Index.incomingCalls_of_valid` and the like: in a valid snapshot all edges count for the measures.
* `Risk.symbolScore_pos`, `Risk.symbolScore_le`: the bounds of a score.
* `Delta.mem_symbolRisks`: what is listed, for any delta.
* `Delta.ListsRisks`, `Delta.listsRisks_between`: what is listed for two snapshots, how high the scores are, and
  in which order, whatever the order of the snapshots.
-/

open scoped List

namespace StructuralDiff

/-! ### Measures -/

namespace Index

variable {snapshot : Snapshot} (h : snapshot.Valid) (id : String)

include h

/-- No edge of a valid snapshot leads nowhere. -/
theorem links_of_valid : (ofSnapshot snapshot).links = snapshot.edges := by
  refine List.filter_eq_self.2 fun edge hedge => ?_
  rw [Bool.and_eq_true, List.contains_iff_mem, List.contains_iff_mem]
  exact ⟨h.source_mem edge hedge, h.target_mem edge hedge⟩

theorem incomingCalls_of_valid : (ofSnapshot snapshot).incomingCalls id =
    snapshot.edges.countP fun edge => edge.isSymbolCall && edge.target == id := by
  rw [incomingCalls, edgesTo, links_of_valid h, List.countP_filter, List.countP_reverse]

theorem outgoingCalls_of_valid : (ofSnapshot snapshot).outgoingCalls id =
    snapshot.edges.countP fun edge => edge.isSymbolCall && edge.source == id := by
  rw [outgoingCalls, edgesFrom, links_of_valid h, List.countP_filter, List.countP_reverse]

theorem ownedDeclarations_of_valid : (ofSnapshot snapshot).ownedDeclarations id =
    snapshot.edges.countP fun edge => ((snapshot.node? edge.target).map (·.kind.isSymbol)).getD false &&
      edge.kind == .declares && edge.source == id := by
  rw [ownedDeclarations, children, edgesFrom, links_of_valid h, List.countP_filterMap, List.countP_filter,
    List.countP_filter, List.countP_reverse]
  rfl

end Index

/-- The order of a snapshot does not show in the risk of a symbol. -/
theorem SymbolRisk.ofNode_reordered {a b : Snapshot} (hab : a.Reordered b) (h : a.Valid) :
    SymbolRisk.ofNode (Index.ofSnapshot b) = SymbolRisk.ofNode (Index.ofSnapshot a) := by
  have hstats : Risk.Stats.ofNode (Index.ofSnapshot b) = Risk.Stats.ofNode (Index.ofSnapshot a) := by
    funext node
    simp only [Risk.Stats.ofNode, Index.incomingCalls_of_valid (hab.valid h), Index.incomingCalls_of_valid h,
      Index.outgoingCalls_of_valid (hab.valid h), Index.outgoingCalls_of_valid h,
      Index.ownedDeclarations_of_valid (hab.valid h), Index.ownedDeclarations_of_valid h,
      hab.edges.countP_eq, hab.node?_eq h]
  funext status node
  rw [SymbolRisk.ofNode, SymbolRisk.ofNode, hstats]

/-! ### Scores -/

namespace Risk

theorem statusWeight_le (status : Status) : statusWeight status ≤ 4 := by
  cases status <;> decide

theorem kindWeight_le (kind : NodeKind) : kindWeight kind ≤ 4 := by
  cases kind <;> decide

theorem spanWeight_le (span : Nat) : spanWeight span ≤ 3 := by
  unfold spanWeight
  split
  · omega
  · split
    · omega
    · split <;> omega

variable {status : Status} (kind : NodeKind) (stats : Stats)

theorem symbolScore_pos (h : status.isChanged = true) : 1 ≤ symbolScore status kind stats := by
  rw [symbolScore, if_pos h]
  exact Nat.le_max_right _ _

/-- The highest score is that of a modified class that is public, long and well connected. -/
theorem symbolScore_le (status : Status) : symbolScore status kind stats ≤ 22 := by
  have hstatus := statusWeight_le status
  have hkind := kindWeight_le kind
  have hspan := spanWeight_le stats.lineSpan
  have hpublic : (if stats.isPublic then 1 else 0) ≤ 1 := by
    split <;> omega
  unfold symbolScore
  split
  · dsimp only
    omega
  · omega

end Risk

theorem RiskLevel.ofScore_ne_high {score : Nat} (h : score < 25) : ofScore score ≠ .high := by
  rw [ofScore, if_neg (by omega)]
  split
  · exact RiskLevel.noConfusion
  · exact RiskLevel.noConfusion

/-- Symbols are ranked by their scores and ids. -/
def SymbolRisk.ranking : Ranking SymbolRisk :=
  ⟨(·.score), (·.id)⟩

/-! ### The list of risks -/

namespace Delta

variable {delta : Delta} {risk : SymbolRisk}

/-- **What is listed**: the symbols of the old snapshot that were removed, and those of the new one that have
changed. -/
theorem mem_symbolRisks : risk ∈ delta.symbolRisks ↔
    (∃ node ∈ delta.old.nodes, node.kind.isSymbol = true ∧ delta.nodeStatus? node.id = some .removed ∧
      risk = .ofNode (Index.ofSnapshot delta.old) .removed node) ∨
    ∃ node ∈ delta.new.nodes, node.kind.isSymbol = true ∧ ∃ status, delta.nodeStatus? node.id = some status ∧
      status.isChanged = true ∧ risk = .ofNode (Index.ofSnapshot delta.new) status node := by
  simp only [symbolRisks, List.mem_mergeSort, List.mem_append, List.mem_map, List.mem_filter, beq_iff_eq]
  refine or_congr ⟨?_, ?_⟩ ⟨?_, ?_⟩
  · rintro ⟨node, ⟨⟨hnode, hremoved⟩, hsymbol⟩, rfl⟩
    exact ⟨node, hnode, hsymbol, hremoved, by rw [statusOf, hremoved, Option.getD_some]⟩
  · rintro ⟨node, hnode, hsymbol, hremoved, rfl⟩
    exact ⟨node, ⟨⟨hnode, hremoved⟩, hsymbol⟩, by rw [statusOf, hremoved, Option.getD_some]⟩
  · rintro ⟨node, ⟨⟨hnode, hchanged⟩, hsymbol⟩, rfl⟩
    obtain ⟨status, hstatus, hchanged⟩ := (Option.any_eq_true _ _).1 hchanged
    exact ⟨node, hnode, hsymbol, status, hstatus, hchanged, by rw [statusOf, hstatus, Option.getD_some]⟩
  · rintro ⟨node, hnode, hsymbol, status, hstatus, hchanged, rfl⟩
    refine ⟨node, ⟨⟨hnode, ?_⟩, hsymbol⟩, by rw [statusOf, hstatus, Option.getD_some]⟩
    exact (Option.any_eq_true _ _).2 ⟨status, hstatus, hchanged⟩

/-- No node is listed twice. -/
theorem map_id_symbolRisks_subperm (delta : Delta) :
    delta.symbolRisks.map (·.id) <+~ delta.old.nodeIds ++ delta.new.nodeIds := by
  refine ((List.mergeSort_perm _ _).map _).subperm.trans (List.Sublist.subperm ?_)
  rw [List.map_append, List.map_map, List.map_map]
  have hsublist (nodes : List Node) (p q : Node → Bool) :
      ((nodes.filter p).filter q).map (·.id) <+ nodes.map (·.id) :=
    ((List.filter_sublist (p := q)).trans List.filter_sublist).map _
  exact (hsublist delta.old.nodes _ _).append (hsublist delta.new.nodes _ _)

/-- The risks of the comparison of two snapshots. -/
structure ListsRisks (old new : Snapshot) (risks : List SymbolRisk) : Prop where
  /-- A removed symbol is listed with its measures in the old snapshot, an added or a modified one with those in
  the new snapshot, and nothing else is listed. -/
  mem_iff : ∀ risk, risk ∈ risks ↔
    (∃ node ∈ old.nodes, node.kind.isSymbol = true ∧ (between old new).nodeStatus? node.id = some .removed ∧
      risk = .ofNode (Index.ofSnapshot old) .removed node) ∨
    ∃ node ∈ new.nodes, node.kind.isSymbol = true ∧ ∃ status, (status = .added ∨ status = .modified) ∧
      (between old new).nodeStatus? node.id = some status ∧
      risk = .ofNode (Index.ofSnapshot new) status node
  /-- No node is listed twice. -/
  nodup : (risks.map (·.id)).Nodup
  /-- Every score is positive, and none is high. -/
  bounded : ∀ risk ∈ risks, 1 ≤ risk.score ∧ risk.score ≤ 22 ∧ risk.level ≠ .high
  /-- The higher score comes first, and of equal scores the smaller id. -/
  ranked : risks.Pairwise fun a b => b.score < a.score ∨ a.score = b.score ∧ Text.order a.id b.id = .lt
  /-- Snapshots that are listed in another order have the same risks. -/
  reordered : ∀ old' new', old.Reordered old' → new.Reordered new' → (between old' new').symbolRisks = risks

section

variable {old new : Snapshot} (h : Separate old new)

include h

theorem mem_symbolRisks_between : risk ∈ (between old new).symbolRisks ↔
    (∃ node ∈ old.nodes, node.kind.isSymbol = true ∧ (between old new).nodeStatus? node.id = some .removed ∧
      risk = .ofNode (Index.ofSnapshot old) .removed node) ∨
    ∃ node ∈ new.nodes, node.kind.isSymbol = true ∧ ∃ status, (status = .added ∨ status = .modified) ∧
      (between old new).nodeStatus? node.id = some status ∧
      risk = .ofNode (Index.ofSnapshot new) status node := by
  refine mem_symbolRisks.trans (or_congr_right (exists_congr fun node => and_congr_right fun hnode => ?_))
  refine and_congr_right fun _ => exists_congr fun status => ?_
  constructor
  · rintro ⟨hstatus, hchanged, hrisk⟩
    refine ⟨?_, hstatus, hrisk⟩
    cases status with
    | added => exact .inl rfl
    | modified => exact .inr rfl
    | unchanged => cases hchanged
    | removed =>
      -- only old nodes are removed, and this one is new
      exact absurd (List.mem_map_of_mem hnode) (h.disjoint (removed_mem h hstatus))
  · rintro ⟨rfl | rfl, hstatus, hrisk⟩
    · exact ⟨hstatus, rfl, hrisk⟩
    · exact ⟨hstatus, rfl, hrisk⟩

theorem nodup_map_id_symbolRisks : ((between old new).symbolRisks.map (·.id)).Nodup := by
  have hids : (old.nodeIds ++ new.nodeIds).Nodup :=
    h.old_valid.nodeIds_nodup.append h.new_valid.nodeIds_nodup h.disjoint
  obtain ⟨ids, hperm, hsublist⟩ := map_id_symbolRisks_subperm (between old new)
  exact hperm.nodup_iff.1 (hids.sublist hsublist)

/-- Without a repeated id, the risks are ranked strictly. -/
theorem pairwise_symbolRisks : (between old new).symbolRisks.Pairwise SymbolRisk.ranking.Before :=
  SymbolRisk.ranking.pairwise_sort (((List.mergeSort_perm _ _).map _).nodup_iff.1 (nodup_map_id_symbolRisks h))

theorem symbolRisks_reordered {old' new' : Snapshot} (hold : old.Reordered old') (hnew : new.Reordered new') :
    (between old' new').symbolRisks = (between old new).symbolRisks := by
  have h' := separate_reordered hold hnew h
  -- ranked lists are known by their members
  refine (pairwise_symbolRisks h').eq_of_mem_iff (pairwise_symbolRisks h) fun risk => ?_
  rw [mem_symbolRisks_between h', mem_symbolRisks_between h]
  simp only [nodeStatus?_reordered hold hnew h, SymbolRisk.ofNode_reordered hold h.old_valid,
    SymbolRisk.ofNode_reordered hnew h.new_valid, hold.nodes.mem_iff, hnew.nodes.mem_iff]

end

/-- The score of a node with a change is within its bounds. -/
theorem bounded_ofNode (index : Index) {status : Status} (hchanged : status.isChanged = true) (node : Node) :
    let risk := SymbolRisk.ofNode index status node
    1 ≤ risk.score ∧ risk.score ≤ 22 ∧ risk.level ≠ .high := by
  have hle := Risk.symbolScore_le node.kind (Risk.Stats.ofNode index node) status
  exact ⟨Risk.symbolScore_pos _ _ hchanged, hle, RiskLevel.ofScore_ne_high (by omega)⟩

/-- **The risks of two valid snapshots without a common id** are those of the removed, the added and the modified
symbols, each of them once and in one order. -/
theorem listsRisks_between {old new : Snapshot} (hold : old.validate = .ok ()) (hnew : new.validate = .ok ())
    (hdisjoint : List.Disjoint old.nodeIds new.nodeIds) :
    ListsRisks old new (between old new).symbolRisks := by
  have h : Separate old new :=
    ⟨Snapshot.validate_eq_ok_iff.mp hold, Snapshot.validate_eq_ok_iff.mp hnew, hdisjoint⟩
  refine ⟨fun risk => mem_symbolRisks_between h, nodup_map_id_symbolRisks h, fun risk hrisk => ?_,
    pairwise_symbolRisks h, fun old' new' hold' hnew' => symbolRisks_reordered h hold' hnew'⟩
  obtain ⟨node, -, -, -, rfl⟩ | ⟨node, -, -, status, -, hchanged, rfl⟩ := mem_symbolRisks.1 hrisk
  · exact bounded_ofNode _ rfl node
  · exact bounded_ofNode _ hchanged node

theorem listsRisks_between_tied :
    tiedOld.validate = .ok () ∧ tiedNew.validate = .ok () ∧ List.Disjoint tiedOld.nodeIds tiedNew.nodeIds ∧
      ListsRisks tiedOld tiedNew (between tiedOld tiedNew).symbolRisks :=
  have hdisjoint : List.Disjoint tiedOld.nodeIds tiedNew.nodeIds := List.disjoint_left.mpr (by decide)
  ⟨by decide, by decide, hdisjoint, listsRisks_between (by decide) (by decide) hdisjoint⟩

example : (between tiedOld tiedNew).symbolRisks.map (fun risk => (risk.id, risk.status, risk.score)) =
    [("n2", .modified, 9), ("n3", .modified, 8)] := by
  cbv

end Delta

end StructuralDiff
