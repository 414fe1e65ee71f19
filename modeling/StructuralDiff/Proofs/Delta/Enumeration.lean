import Mathlib.Data.List.Dedup
import StructuralDiff.Proofs.Delta.Reversal

/-!
# The order of lists and of maps

A comparison goes through lists of nodes and edges, and it keeps free candidates and groups of edges in hash
maps, which are enumerated in any order. Neither of these orders is seen in its outcomes: every tie is broken
by the id at last.

* `Delta.along`: a comparison that keeps its candidates and groups in maps, with the order in which the maps
  are enumerated given.
* `Delta.exists_fits`: every pair of snapshots has such an order.
* `Pairing.ofPools_eq_ofSides`, `Delta.mem_matchGroups`: what it does in one bucket, and with all edges.
* `Delta.pairingUnder_reordered`, `Delta.edgeOutcomes_reordered`: listing a snapshot in another order changes
  nothing in any bucket.
* `Delta.between_reordered`: so neither order matters.
-/

open scoped List

namespace StructuralDiff

/-! ### Sorting by a key that differs -/

namespace Node

/-- Nodes with different ids are sorted in one way only. -/
theorem mergeSort_eq_of_perm {l l' : List Node} (h : l ~ l')
    (hids : ∀ a ∈ l, ∀ b ∈ l, a.id = b.id → a = b) :
    l.mergeSort standsBefore = l'.mergeSort standsBefore :=
  Text.sorted_eq_of_perm standsBefore_trans standsBefore_total h fun a ha b hb hab hba =>
    hids a ha b hb (id_eq_of_standsBefore hab hba)

end Node

/-! ### Candidates in a map -/

namespace Pairing

/-- The free new nodes in pools, one for each signature. The pools stand in the order in which the map that
holds them is enumerated. -/
abbrev Pools := List (Option String × List Node)

/-- The pools of a list of nodes. -/
def poolsOf (signatures : List (Option String)) (nodes : List Node) : Pools :=
  signatures.map fun signature => (signature, nodes.filter (·.signature = signature))

/-- Takes the first node that fits out of the pool with a signature. -/
def takeFrom? (signature : Option String) (fits : Node → Bool) : Pools → Option (Node × Pools)
  | [] => none
  | (s, pool) :: rest =>
    if s = signature then (takeFirst? fits pool).map fun (n, left) => (n, (s, left) :: rest)
    else (takeFrom? signature fits rest).map fun (n, left) => (n, (s, pool) :: left)

/-- What a pass over the old nodes gives: its pairs, the old nodes that are left over, and the pools. -/
structure Pass where
  pairs : List (Node × Node)
  old : List Node
  pools : Pools

/-- Lets each old node in turn take the first node that fits it out of the pool with its signature. -/
def pass (fits : Node → Node → Bool) : (old : List Node) → Pools → Pass
  | [], pools => ⟨[], [], pools⟩
  | o :: old, pools =>
    match takeFrom? o.signature (fits o) pools with
    | some (n, left) =>
      let later := pass fits old left
      { later with pairs := (o, n) :: later.pairs }
    | none =>
      let later := pass fits old pools
      { later with old := o :: later.old }

/-- The partners of the nodes under one key, when the free new nodes are kept in a map that is enumerated in
the given order: first nodes at the same position, then all others with the same signature; what is left over
in the pools is put together and sorted. -/
def ofPools (signatures : List (Option String)) (old new : List Node) : Pairing :=
  let exact := pass (fun o n => n.position == o.position) (old.mergeSort Node.standsBefore)
    (poolsOf signatures (new.mergeSort Node.standsBefore))
  let similar := pass (fun _ _ => true) exact.old exact.pools
  let oldLeft := similar.old.mergeSort Node.standsBefore
  let newLeft := (similar.pools.flatMap (·.2)).mergeSort Node.standsBefore
  { unchanged := exact.pairs ++ similar.pairs
    modified := oldLeft.zip newLeft
    removed := oldLeft.drop newLeft.length
    added := newLeft.drop oldLeft.length }

section Pools

variable {signatures : List (Option String)} (hnodup : signatures.Nodup)

include hnodup

/-- Taking from one pool leaves the others as they are, so it is taking from the list of all free nodes. -/
theorem takeFrom?_poolsOf (signature : Option String) (fits : Node → Bool) {free : List Node}
    (hcover : ∀ n ∈ free, n.signature ∈ signatures) :
    takeFrom? signature fits (poolsOf signatures free) =
      (takeFirst? (fun n => n.signature == signature && fits n) free).map fun (n, rest) =>
        (n, poolsOf signatures rest) := by
  have hfilter (s : Option String) : takeFirst? fits (free.filter (·.signature = s)) =
      (takeFirst? (fun n => n.signature == s && fits n) free).map fun (n, rest) =>
        (n, rest.filter (·.signature = s)) := by
    induction free with
    | nil => rfl
    | cons n free ih =>
      have ih := ih fun m hm => hcover m (List.mem_cons_of_mem n hm)
      by_cases hn : n.signature = s
      · cases hfits : fits n with
        | true => simp [takeFirst?, hn, hfits]
        | false => simp [takeFirst?, hn, hfits, ih, Function.comp_def]
      · simp [takeFirst?, hn, ih, Function.comp_def]
  have hothers {s : Option String} {n : Node} {rest : List Node}
      (htake : takeFirst? (fun n => n.signature == signature && fits n) free = some (n, rest))
      (hs : s ≠ signature) : free.filter (·.signature = s) = rest.filter (·.signature = s) := by
    obtain ⟨before, after, rfl, rfl, hn, -⟩ := takeFirst?_eq_some htake
    have hne : n.signature ≠ s := by
      rw [Bool.and_eq_true, beq_iff_eq] at hn
      exact hn.1 ▸ hs.symm
    simp [hne]
  -- a pool is only looked for among those that are left, so this goes from pool to pool
  have hpools : ∀ {later : List (Option String)}, later.Nodup →
      takeFrom? signature fits (poolsOf later free) =
        if signature ∈ later then
          (takeFirst? (fun n => n.signature == signature && fits n) free).map fun (n, rest) =>
            (n, poolsOf later rest)
        else none := by
    intro later hlater
    induction later with
    | nil => rfl
    | cons s later ih =>
      obtain ⟨hs, hlater⟩ := List.nodup_cons.mp hlater
      rw [poolsOf, List.map_cons, takeFrom?]
      by_cases hsame : s = signature
      · subst hsame
        rw [if_pos rfl, if_pos List.mem_cons_self, hfilter, Option.map_map]
        refine Option.map_congr fun taken htaken => ?_
        have hlaterPools : poolsOf later free = poolsOf later taken.2 :=
          List.map_congr_left fun t ht => by rw [hothers htaken fun heq => hs (heq ▸ ht)]
        exact congrArg (fun pools => (taken.1, _ :: pools)) hlaterPools
      · rw [if_neg hsame]
        have ih := ih hlater
        rw [poolsOf] at ih
        rw [ih]
        by_cases hmem : signature ∈ later
        · rw [if_pos hmem, if_pos (List.mem_cons_of_mem s hmem), Option.map_map]
          refine Option.map_congr fun taken htaken => ?_
          have hpool := hothers htaken hsame
          exact congrArg (fun pool => (taken.1, (s, pool) :: _)) hpool
        · rw [if_neg hmem, if_neg (by simp [Ne.symm hsame, hmem])]
          rfl
  rw [hpools hnodup]
  split
  · rfl
  · next hmem =>
    have hnone : takeFirst? (fun n => n.signature == signature && fits n) free = none := by
      refine takeFirst?_eq_none_iff.mpr fun n hn => ?_
      have hne : n.signature ≠ signature := fun heq => hmem (heq ▸ hcover n hn)
      simp [hne]
    rw [hnone]
    rfl

/-- **A pass over pools is a round over the list of free nodes.** -/
theorem pass_poolsOf (fits : Node → Node → Bool) (old : List Node) {free : List Node}
    (hcover : ∀ n ∈ free, n.signature ∈ signatures) :
    pass fits old (poolsOf signatures free) =
      let round := greedy (fun o n => sameSignature o n && fits o n) old free
      ⟨round.pairs, round.old, poolsOf signatures round.new⟩ := by
  induction old generalizing free with
  | nil => rfl
  | cons o old ih =>
    rw [pass, takeFrom?_poolsOf hnodup _ _ hcover, greedy]
    simp only [sameSignature]
    cases htake : takeFirst? (fun n => n.signature == o.signature && fits o n) free with
    | none => simp only [Option.map_none, ih hcover, sameSignature]
    | some taken =>
      have hrest : ∀ n ∈ taken.2, n.signature ∈ signatures := fun n hn =>
        hcover n ((sublist_of_takeFirst? htake).subset hn)
      simp only [Option.map_some, ih hrest, sameSignature]

/-- What is left over in the pools is what is left over. -/
theorem flatMap_poolsOf_perm {free : List Node} (hcover : ∀ n ∈ free, n.signature ∈ signatures) :
    (poolsOf signatures free).flatMap (·.2) ~ free := by
  rw [poolsOf, List.flatMap_map]
  exact Delta.flatMap_filter_perm Node.signature hnodup hcover

/-- **In whatever order the pools are enumerated**, nodes with different ids get the same partners. -/
theorem ofPools_eq_ofSides (old : List Node) {new : List Node}
    (hcover : ∀ n ∈ new, n.signature ∈ signatures) (hids : ∀ a ∈ new, ∀ b ∈ new, a.id = b.id → a = b) :
    ofPools signatures old new = ofSides old new := by
  have hsorted : ∀ n ∈ new.mergeSort Node.standsBefore, n.signature ∈ signatures := fun n hn =>
    hcover n (List.mem_mergeSort.mp hn)
  have hexact : pass (fun o n => n.position == o.position) (old.mergeSort Node.standsBefore)
      (poolsOf signatures (new.mergeSort Node.standsBefore)) =
        ⟨(exactRound old new).pairs, (exactRound old new).old, poolsOf signatures (exactRound old new).new⟩ :=
    pass_poolsOf hnodup _ _ hsorted
  have hsubset : (exactRound old new).new ⊆ new.mergeSort Node.standsBefore :=
    (greedy_new_sublist _ _ _).subset
  have hsimilar : pass (fun _ _ => true) (exactRound old new).old (poolsOf signatures (exactRound old new).new) =
      ⟨(similarRound old new).pairs, (similarRound old new).old,
        poolsOf signatures (similarRound old new).new⟩ := by
    have hpass := pass_poolsOf hnodup (fun _ _ => true) (exactRound old new).old fun n hn =>
      hsorted n (hsubset hn)
    simp only [Bool.and_true] at hpass
    exact hpass
  -- both sides are in order already, and the pools hold the new side in another order
  have hold : (similarRound old new).old.mergeSort Node.standsBefore = (similarRound old new).old := by
    rw [← oldLeft_ofSides]
    exact List.mergeSort_of_pairwise (pairwise_oldLeft old new)
  have hsublist : (similarRound old new).new <+ new.mergeSort Node.standsBefore :=
    (greedy_new_sublist _ _ _).trans (greedy_new_sublist _ _ _)
  have hmem : ∀ n ∈ (similarRound old new).new, n ∈ new := fun n hn =>
    List.mem_mergeSort.mp (hsublist.subset hn)
  have hnew : ((poolsOf signatures (similarRound old new).new).flatMap (·.2)).mergeSort Node.standsBefore =
      (similarRound old new).new := by
    have hperm := flatMap_poolsOf_perm hnodup fun n hn => hcover n (hmem n hn)
    rw [Node.mergeSort_eq_of_perm hperm fun a ha b hb =>
      hids a (hmem a (hperm.mem_iff.mp ha)) b (hmem b (hperm.mem_iff.mp hb))]
    exact List.mergeSort_of_pairwise ((Node.pairwise_sorted new).sublist hsublist)
  rw [ofPools]
  simp only [hexact, hsimilar, hold, hnew]
  rfl

end Pools

end Pairing

/-! ### Groups of edges in maps -/

namespace Delta

/-- The edges of a snapshot in groups, in the order in which the map that holds them is enumerated. -/
abbrev Groups := List (EdgeKey × List String)

/-- The groups of the edges of a snapshot under some keys. -/
def groupsOf (snapshot : Snapshot) (keys : List EdgeKey) : Groups :=
  keys.map fun key => (key, edgeIdsUnder snapshot key)

/-- The outcomes of edges, when the old groups are gone through one by one and the new group with the same
key is removed each time; the edges of the new groups that are left were added. -/
def matchGroups : (old new : Groups) → List (String × Status)
  | [], new => new.flatMap fun (_, ids) => ids.map (·, .added)
  | (key, ids) :: old, new =>
    edgeOutcomes ids ((new.lookup key).getD []) ++ matchGroups old (new.filter (·.1 ≠ key))

/-- The keys of a map that has one entry for each value that a function takes on a list: every one of them
comes once. -/
structure Enumerates {α κ : Type} (keys : List κ) (f : α → κ) (l : List α) : Prop where
  nodup : keys.Nodup
  mem_iff : ∀ key, key ∈ keys ↔ ∃ a ∈ l, f a = key

/-- The orders in which the maps of a comparison are enumerated. -/
structure Enumeration where
  /-- The signatures of the new nodes under a key. -/
  signatures : NodeKey → List (Option String)
  oldEdges : List EdgeKey
  newEdges : List EdgeKey

/-- The orders are those of the maps of two snapshots. -/
structure Enumeration.Fits (order : Enumeration) (old new : Snapshot) : Prop where
  signatures : ∀ key, Enumerates (order.signatures key) Node.signature (new.nodes.filter (·.key = key))
  oldEdges : Enumerates order.oldEdges old.edgeKey old.edges
  newEdges : Enumerates order.newEdges new.edgeKey new.edges

/-- The keys in the order of their first occurrence. -/
theorem enumerates_dedup {α κ : Type} [DecidableEq κ] (f : α → κ) (l : List α) :
    Enumerates (l.map f).dedup f l :=
  ⟨List.nodup_dedup _, fun key => by rw [List.mem_dedup, List.mem_map]⟩

/-- The maps of any two snapshots can be enumerated. -/
theorem exists_fits (old new : Snapshot) : ∃ order : Enumeration, order.Fits old new :=
  ⟨⟨fun key => ((new.nodes.filter (·.key = key)).map Node.signature).dedup,
    (old.edges.map old.edgeKey).dedup, (new.edges.map new.edgeKey).dedup⟩,
    fun _ => enumerates_dedup _ _, enumerates_dedup _ _, enumerates_dedup _ _⟩

/-- The delta of two snapshots by way of maps that are enumerated in the given orders. -/
def along (order : Enumeration) (old new : Snapshot) : Delta :=
  let pairings := (nodeKeys old new).map fun key => Pairing.ofPools (order.signatures key)
    (old.nodes.filter (·.key = key)) (new.nodes.filter (·.key = key))
  { old, new
    nodeStatus := Table.ofList (pairings.flatMap Pairing.statuses)
    edgeStatus := Table.ofList (matchGroups (groupsOf old order.oldEdges) (groupsOf new order.newEdges))
    counterparts := Table.ofList (pairings.flatMap Pairing.counterparts) }

/-- Two deltas say the same about every node and every edge. -/
structure Agree (a b : Delta) : Prop where
  nodeStatus : ∀ id, a.nodeStatus? id = b.nodeStatus? id
  edgeStatus : ∀ id, a.edgeStatus? id = b.edgeStatus? id
  counterpart : ∀ id, a.counterpart? id = b.counterpart? id

theorem Agree.trans {a b c : Delta} (hab : Agree a b) (hbc : Agree b c) : Agree a c :=
  ⟨fun id => (hab.nodeStatus id).trans (hbc.nodeStatus id),
    fun id => (hab.edgeStatus id).trans (hbc.edgeStatus id),
    fun id => (hab.counterpart id).trans (hbc.counterpart id)⟩

theorem lookup_groupsOf (snapshot : Snapshot) (keys : List EdgeKey) (key : EdgeKey) :
    (groupsOf snapshot keys).lookup key = if key ∈ keys then some (edgeIdsUnder snapshot key) else none := by
  induction keys with
  | nil => rfl
  | cons head keys ih =>
    rw [groupsOf] at ih
    rw [groupsOf, List.map_cons, List.lookup_cons, ih]
    by_cases h : key = head
    · simp [h]
    · have hne : (key == head) = false := by simpa using h
      simp [h, hne]

theorem filter_groupsOf (snapshot : Snapshot) (keys : List EdgeKey) (key : EdgeKey) :
    (groupsOf snapshot keys).filter (·.1 ≠ key) = groupsOf snapshot (keys.filter (· ≠ key)) := by
  rw [groupsOf, groupsOf, List.filter_map]
  rfl

/-- A group with edges of one side only is all removed or all added. -/
theorem mem_edgeOutcomes_nil {new : List String} {entry : String × Status} :
    entry ∈ edgeOutcomes [] new ↔ ∃ id ∈ new, entry = (id, .added) := by
  obtain ⟨id, status⟩ := entry
  rw [mem_edgeOutcomes]
  simp [Text.sort]

section Edges

variable {old new : Snapshot}

/-- Going through the groups meets the edges of each key once, or not at all when there are none. -/
theorem mem_matchGroups {oldKeys newKeys : List EdgeKey} (hnodup : oldKeys.Nodup) {entry : String × Status} :
    entry ∈ matchGroups (groupsOf old oldKeys) (groupsOf new newKeys) ↔
      (∃ key ∈ oldKeys, entry ∈ edgeOutcomes (edgeIdsUnder old key)
        (if key ∈ newKeys then edgeIdsUnder new key else [])) ∨
      ∃ key ∈ newKeys, key ∉ oldKeys ∧ ∃ id ∈ edgeIdsUnder new key, entry = (id, .added) := by
  induction oldKeys generalizing newKeys with
  | nil =>
    rw [groupsOf, List.map_nil, matchGroups, groupsOf, List.flatMap_map, List.mem_flatMap]
    simp [eq_comm]
  | cons head oldKeys ih =>
    obtain ⟨hhead, hnodup⟩ := List.nodup_cons.mp hnodup
    have hne : ∀ {key : EdgeKey}, key ∈ oldKeys → key ≠ head := fun hkey heq => hhead (heq ▸ hkey)
    rw [show groupsOf old (head :: oldKeys) = (head, edgeIdsUnder old head) :: groupsOf old oldKeys from rfl,
      matchGroups, lookup_groupsOf, filter_groupsOf, List.mem_append, ih hnodup]
    have hgroup : (if head ∈ newKeys then some (edgeIdsUnder new head) else none).getD [] =
        if head ∈ newKeys then edgeIdsUnder new head else [] := by
      split <;> rfl
    have hlater : (∃ key ∈ oldKeys, entry ∈ edgeOutcomes (edgeIdsUnder old key)
          (if key ∈ newKeys.filter (· ≠ head) then edgeIdsUnder new key else [])) ↔
        ∃ key ∈ oldKeys, entry ∈ edgeOutcomes (edgeIdsUnder old key)
          (if key ∈ newKeys then edgeIdsUnder new key else []) := by
      refine exists_congr fun key => and_congr_right fun hkey => ?_
      simp [hne hkey]
    rw [hgroup, hlater]
    simp only [List.mem_cons, exists_eq_or_imp, List.mem_filter, decide_eq_true_eq, not_or, or_assoc, and_assoc]

/-- **The edges have the same outcomes in whatever order the groups are enumerated.** -/
theorem mem_matchGroups_iff {order : Enumeration} (horder : order.Fits old new) {entry : String × Status} :
    entry ∈ matchGroups (groupsOf old order.oldEdges) (groupsOf new order.newEdges) ↔
      entry ∈ edgeStatuses old new := by
  -- a key without a group has no edges, so a list of groups and the keys of the edges differ by nothing
  have hempty {snapshot : Snapshot} {keys : List EdgeKey}
      (hkeys : Enumerates keys snapshot.edgeKey snapshot.edges) {key : EdgeKey} (hkey : key ∉ keys) :
      edgeIdsUnder snapshot key = [] := by
    rw [edgeIdsUnder, List.map_eq_nil_iff, List.filter_eq_nil_iff]
    intro edge hedge heq
    exact hkey ((hkeys.mem_iff key).mpr ⟨edge, hedge, of_decide_eq_true heq⟩)
  have hnew (key : EdgeKey) : (if key ∈ order.newEdges then edgeIdsUnder new key else []) =
      edgeIdsUnder new key := by
    split
    · rfl
    · next hkey => exact (hempty horder.newEdges hkey).symm
  rw [mem_matchGroups horder.oldEdges.nodup, mem_edgeStatuses_iff]
  simp only [hnew]
  constructor
  · rintro (⟨key, -, hentry⟩ | ⟨key, -, hkey, hentry⟩)
    · exact ⟨key, hentry⟩
    · refine ⟨key, ?_⟩
      rw [hempty horder.oldEdges hkey]
      exact mem_edgeOutcomes_nil.mpr hentry
  · rintro ⟨key, hentry⟩
    by_cases hold : key ∈ order.oldEdges
    · exact .inl ⟨key, hold, hentry⟩
    · rw [hempty horder.oldEdges hold, mem_edgeOutcomes_nil] at hentry
      refine .inr ⟨key, ?_, hold, hentry⟩
      by_contra hkey
      obtain ⟨id, hid, -⟩ := hentry
      rw [hempty horder.newEdges hkey] at hid
      cases hid

/-- **In whatever orders its maps are enumerated, a comparison says the same.** -/
theorem agree_along (hnew : new.Valid) (hold : old.Valid) (hedges : List.Disjoint old.edgeIds new.edgeIds)
    {order : Enumeration} (horder : order.Fits old new) : Agree (along order old new) (between old new) := by
  have hpairings : ((nodeKeys old new).map fun key => Pairing.ofPools (order.signatures key)
      (old.nodes.filter (·.key = key)) (new.nodes.filter (·.key = key))) = pairings old new := by
    rw [pairings_eq]
    refine List.map_congr_left fun key _ => ?_
    refine Pairing.ofPools_eq_ofSides (horder.signatures key).nodup _ (fun n hn => ?_) fun a ha b hb => ?_
    · exact ((horder.signatures key).mem_iff _).mpr ⟨n, hn, rfl⟩
    · exact hnew.eq_of_id_eq (List.mem_filter.mp ha).1 (List.mem_filter.mp hb).1
  refine ⟨fun id => ?_, fun id => ?_, fun id => ?_⟩
  · simp only [nodeStatus?, along, hpairings, between]
  · have hsingle : Table.SingleValued (edgeStatuses old new) :=
      Table.singleValued_of_nodup (map_fst_edgeStatuses_perm.nodup_iff.mpr
        (hold.edgeIds_nodup.append hnew.edgeIds_nodup hedges))
    refine Option.ext fun status => ?_
    refine (Table.get?_ofList_eq_some_iff fun key a b ha hb => ?_).trans
      ((mem_matchGroups_iff horder).trans (Table.get?_ofList_eq_some_iff hsingle).symm)
    exact hsingle key a b ((mem_matchGroups_iff horder).mp ha) ((mem_matchGroups_iff horder).mp hb)
  · simp only [counterpart?, along, hpairings, between]

end Edges

end Delta

/-! ### Snapshots in another order -/

/-- The same nodes and edges, listed in another order. -/
structure Snapshot.Reordered (a b : Snapshot) : Prop where
  nodes : a.nodes ~ b.nodes
  edges : a.edges ~ b.edges

namespace Snapshot.Reordered

variable {a b : Snapshot} (h : a.Reordered b)

include h

theorem nodeIds_perm : a.nodeIds ~ b.nodeIds :=
  h.nodes.map _

theorem edgeIds_perm : a.edgeIds ~ b.edgeIds :=
  h.edges.map _

theorem valid (ha : a.Valid) : b.Valid := by
  refine ⟨h.nodeIds_perm.nodup_iff.mp ha.nodeIds_nodup, h.edgeIds_perm.nodup_iff.mp ha.edgeIds_nodup,
    fun edge hedge => ?_, fun edge hedge => ?_⟩
  · exact h.nodeIds_perm.mem_iff.mp (ha.source_mem edge (h.edges.mem_iff.mpr hedge))
  · exact h.nodeIds_perm.mem_iff.mp (ha.target_mem edge (h.edges.mem_iff.mpr hedge))

/-- An id stands for the same node in both. -/
theorem node?_eq (ha : a.Valid) (id : String) : a.node? id = b.node? id := by
  refine Option.ext fun node => ?_
  rw [ha.node?_eq_some_iff, (h.valid ha).node?_eq_some_iff, h.nodes.mem_iff]

theorem edgeKey_eq (ha : a.Valid) : a.edgeKey = b.edgeKey := by
  funext edge
  simp only [edgeKey, endpoint, h.node?_eq ha]

theorem edgeIdsUnder_perm (ha : a.Valid) (key : EdgeKey) :
    Delta.edgeIdsUnder a key ~ Delta.edgeIdsUnder b key := by
  rw [Delta.edgeIdsUnder, Delta.edgeIdsUnder, h.edgeKey_eq ha]
  exact (h.edges.filter _).map _

end Snapshot.Reordered

/-- Everything listed from the end. -/
def Snapshot.backwards (snapshot : Snapshot) : Snapshot :=
  { snapshot with nodes := snapshot.nodes.reverse, edges := snapshot.edges.reverse }

theorem Snapshot.reordered_backwards (snapshot : Snapshot) : snapshot.Reordered snapshot.backwards :=
  ⟨(List.reverse_perm _).symm, (List.reverse_perm _).symm⟩

namespace Delta

section

variable {old new old' new' : Snapshot} (hold : old.Reordered old') (hnew : new.Reordered new')

include hold hnew

/-- Each bucket is sorted before its nodes are paired. -/
theorem pairingUnder_reordered (holdValid : old.Valid) (hnewValid : new.Valid) (key : NodeKey) :
    pairingUnder old' new' key = pairingUnder old new key := by
  have hsorted {a b : Snapshot} (h : a.Reordered b) (ha : a.Valid) :
      (b.nodes.filter (·.key = key)).mergeSort Node.standsBefore =
        (a.nodes.filter (·.key = key)).mergeSort Node.standsBefore := by
    refine (Node.mergeSort_eq_of_perm (h.nodes.filter _) fun m hm n hn => ?_).symm
    exact ha.eq_of_id_eq (List.mem_filter.mp hm).1 (List.mem_filter.mp hn).1
  simp only [pairingUnder, Pairing.ofSides, hsorted hold holdValid, hsorted hnew hnewValid]

/-- Each group of edges is sorted before it is taken apart. -/
theorem edgeOutcomes_reordered (holdValid : old.Valid) (hnewValid : new.Valid) (key : EdgeKey) :
    edgeOutcomes (edgeIdsUnder old' key) (edgeIdsUnder new' key) =
      edgeOutcomes (edgeIdsUnder old key) (edgeIdsUnder new key) := by
  simp only [edgeOutcomes, Text.sort_eq_of_perm (hold.edgeIdsUnder_perm holdValid key),
    Text.sort_eq_of_perm (hnew.edgeIdsUnder_perm hnewValid key)]

theorem separate_reordered (h : Separate old new) : Separate old' new' :=
  ⟨hold.valid h.old_valid, hnew.valid h.new_valid, fun _ ho hn =>
    h.disjoint (hold.nodeIds_perm.mem_iff.mpr ho) (hnew.nodeIds_perm.mem_iff.mpr hn)⟩

theorem nodeStatus?_reordered (h : Separate old new) (id : String) :
    (between old' new').nodeStatus? id = (between old new).nodeStatus? id := by
  refine Option.ext fun status => ?_
  simp only [nodeStatus?_eq_some_iff (separate_reordered hold hnew h), nodeStatus?_eq_some_iff h,
    pairingUnder_reordered hold hnew h.old_valid h.new_valid]

theorem agree_reordered (h : Separate old new) (hedges : List.Disjoint old.edgeIds new.edgeIds) :
    Agree (between old' new') (between old new) := by
  have h' := separate_reordered hold hnew h
  have hedges' : List.Disjoint old'.edgeIds new'.edgeIds := fun id ho hn =>
    hedges (hold.edgeIds_perm.mem_iff.mpr ho) (hnew.edgeIds_perm.mem_iff.mpr hn)
  refine ⟨nodeStatus?_reordered hold hnew h, fun id => Option.ext fun status => ?_,
    fun id => Option.ext fun other => ?_⟩
  · simp only [edgeStatus?_eq_some_iff h'.old_valid h'.new_valid hedges',
      edgeStatus?_eq_some_iff h.old_valid h.new_valid hedges,
      edgeOutcomes_reordered hold hnew h.old_valid h.new_valid]
  · simp only [counterpart?_eq_some_iff h', counterpart?_eq_some_iff h,
      pairingUnder_reordered hold hnew h.old_valid h.new_valid]

end

/-- **Neither the order of nodes and edges nor that in which maps are enumerated is seen in a delta.** -/
theorem between_reordered {old new old' new' : Snapshot} (hold : old.validate = .ok ())
    (hnew : new.validate = .ok ()) (hnodes : List.Disjoint old.nodeIds new.nodeIds)
    (hedges : List.Disjoint old.edgeIds new.edgeIds) (hold' : old.Reordered old') (hnew' : new.Reordered new') :
    Agree (between old' new') (between old new) ∧
      ∀ order : Enumeration, order.Fits old' new' → Agree (along order old' new') (between old new) := by
  have h : Separate old new :=
    ⟨Snapshot.validate_eq_ok_iff.mp hold, Snapshot.validate_eq_ok_iff.mp hnew, hnodes⟩
  have hagree := agree_reordered hold' hnew' h hedges
  refine ⟨hagree, fun order horder => (agree_along ?_ ?_ ?_ horder).trans hagree⟩
  · exact hnew'.valid h.new_valid
  · exact hold'.valid h.old_valid
  · exact fun id ho hn => hedges (hold'.edgeIds_perm.mem_iff.mpr ho) (hnew'.edgeIds_perm.mem_iff.mpr hn)

/-- Two of the three functions of one name differ by their ids only; all calls are between functions of this
name. -/
def tiedOld : Snapshot :=
  { repoId := "repo", snapshotId := "old", revision := "r"
    nodes := [sampleNode "o2" .function "m.f" 1 "A", sampleNode "o1" .function "m.f" 1 "A",
      sampleNode "o3" .function "m.f" 5 "B"]
    edges := [sampleCall "e2" "o1" "o2", sampleCall "e1" "o3" "o2", sampleCall "e3" "o1" "o3"] }

/-- Three functions with the same name, of which two are left over with different signatures. -/
def tiedNew : Snapshot :=
  { repoId := "repo", snapshotId := "new", revision := "r"
    nodes := [sampleNode "n3" .function "m.f" 9 "C", sampleNode "n2" .function "m.f" 9 "D",
      sampleNode "n1" .function "m.f" 1 "A"]
    edges := [sampleCall "e5" "n1" "n2", sampleCall "e4" "n2" "n2"] }

theorem between_reordered_tied :
    tiedOld.validate = .ok () ∧ tiedNew.validate = .ok () ∧
      List.Disjoint tiedOld.nodeIds tiedNew.nodeIds ∧ List.Disjoint tiedOld.edgeIds tiedNew.edgeIds ∧
      tiedOld.Reordered tiedOld.backwards ∧ tiedNew.Reordered tiedNew.backwards ∧
      Agree (between tiedOld.backwards tiedNew.backwards) (between tiedOld tiedNew) ∧
      ∀ order : Enumeration, order.Fits tiedOld.backwards tiedNew.backwards →
        Agree (along order tiedOld.backwards tiedNew.backwards) (between tiedOld tiedNew) :=
  have hnodes : List.Disjoint tiedOld.nodeIds tiedNew.nodeIds := List.disjoint_left.mpr (by decide)
  have hedges : List.Disjoint tiedOld.edgeIds tiedNew.edgeIds := List.disjoint_left.mpr (by decide)
  have hold := tiedOld.reordered_backwards
  have hnew := tiedNew.reordered_backwards
  ⟨by decide, by decide, hnodes, hedges, hold, hnew,
    between_reordered (by decide) (by decide) hnodes hedges hold hnew⟩

end Delta

end StructuralDiff
