import Mathlib.Data.List.Nodup
import Mathlib.Data.Set.Basic
import StructuralDiff.Neighborhood.MatchKey
import StructuralDiff.Proofs.Neighborhood.Layout
import StructuralDiff.Proofs.Standing
import StructuralDiff.Proofs.Table
import StructuralDiff.Proofs.Text.Number

/-!
# Match keys

A match key strings together the kind, the scope and the label of a node and its number among the nodes that
agree in all three. Labels may hold any characters, the separators among them; as long as kinds and scopes have
no `|`, a key can still be taken apart in one way only, from the left down to the label and from the right down
to the number.

* `Place.matchKey_inj`: a key says the place and the number.
* `Layout.occurrences`: the nodes at a place, in order.
* `Layout.get?_matchKeys_iff`: the key of a node has its number among these.
* `Layout.matchKeys_number`: the keys of one layout.
* `Layout.matchKeys_correspond`: the keys that two layouts share.
-/

open scoped List

namespace StructuralDiff

/-! ### Keys and places -/

/-- The text has no bar. -/
def BarFree (text : String) : Prop :=
  '|' ∉ text.toList

instance (text : String) : Decidable (BarFree text) :=
  inferInstanceAs (Decidable ('|' ∉ text.toList))

theorem BarFree.append {a b : String} (ha : BarFree a) (hb : BarFree b) : BarFree (a ++ b) := by
  rw [BarFree, String.toList_append, List.mem_append]
  exact fun h => h.elim ha hb

/-- What a key is made of before its label has no bar. -/
structure Place.IsBarFree (place : Place) : Prop where
  kind : BarFree place.kind
  scope : BarFree place.scope

/-- **A key says the place and the number**, whatever the labels are. -/
theorem Place.matchKey_inj {p q : Place} {m n : Nat} (hp : p.IsBarFree) (hq : q.IsBarFree)
    (h : p.matchKey m = q.matchKey n) : p = q ∧ m = n := by
  have hsplit (place : Place) (number : Nat) : (place.matchKey number).toList =
      place.kind.toList ++ '|' :: (place.scope.toList ++ '|' :: (place.label ++ "#" ++ Nat.repr number).toList) := by
    simp [matchKey]
  have hchars := congrArg String.toList h
  rw [hsplit, hsplit] at hchars
  -- the two bars are the first ones, so they are where the texts before them end
  obtain ⟨hkind, hrest⟩ := append_separator_inj hp.kind hq.kind hchars
  obtain ⟨hscope, hnumbered⟩ := append_separator_inj hp.scope hq.scope hrest
  obtain ⟨hlabel, hnumber⟩ := Text.numbered_inj (String.toList_inj.1 hnumbered)
  refine ⟨?_, hnumber⟩
  cases p
  cases q
  cases String.toList_inj.1 hkind
  cases String.toList_inj.1 hscope
  cases hlabel
  rfl

/-! ### The order of the nodes at a place -/

namespace ViewNode

/-- A line for comparing; an unknown one comes before all others. -/
def lineRank : Option Nat → Nat
  | none => 0
  | some line => line + 1

/-- Where a node stands. -/
def standing (node : ViewNode) : Standing :=
  ⟨lineRank node.startLine, lineRank node.endLine, node.id⟩

theorem orderNat?_eq (m n : Option Nat) : Text.orderNat? m n = Text.orderNat (lineRank m) (lineRank n) := by
  cases m <;> cases n <;> simp [Text.orderNat?, Text.orderNat, lineRank]

theorem isLE_orderByLines (a b : ViewNode) : (a.orderByLines b).isLE = a.standing.le b.standing := by
  rw [orderByLines, orderNat?_eq, orderNat?_eq]
  rfl

end ViewNode

namespace Layout

variable {layout layout' : Layout} {node : ViewNode} {place : Place} {id key : String} {i : Nat}

/-- The nodes at a place, in the order of their lines and ids. -/
def occurrences (layout : Layout) (place : Place) : List ViewNode :=
  (layout.nodes.filter (layout.place · = place)).mergeSort fun a b => (a.orderByLines b).isLE

/-- The places at which there are nodes. -/
def places (layout : Layout) : List Place :=
  (layout.nodes.map layout.place).eraseDups

/-- The nodes at a place with their keys. -/
def entriesAt (layout : Layout) (place : Place) : List (String × String) :=
  (layout.occurrences place).zipIdx.map fun (node, number) => (node.id, place.matchKey number)

theorem matchKeys_eq (layout : Layout) : layout.matchKeys = .ofList (layout.places.flatMap layout.entriesAt) := by
  have hplaced (place : Place) : ((layout.nodes.map fun node => (layout.place node, node)).filter
      (·.1 == place)).map (·.2) = layout.nodes.filter (layout.place · = place) := by
    rw [List.filter_map, List.map_map]
    simp [Function.comp_def, Bool.beq_eq_decide_eq]
  have hplaces : (layout.nodes.map fun node => (layout.place node, node)).map (·.1) =
      layout.nodes.map layout.place := by
    rw [List.map_map]
    rfl
  rw [matchKeys, hplaces]
  simp only [hplaced]
  rfl

theorem occurrences_perm (layout : Layout) (place : Place) :
    layout.occurrences place ~ layout.nodes.filter (layout.place · = place) :=
  List.mergeSort_perm _ _

theorem mem_occurrences : node ∈ layout.occurrences place ↔ node ∈ layout.nodes ∧ layout.place node = place := by
  rw [(layout.occurrences_perm place).mem_iff, List.mem_filter, decide_eq_true_eq]

/-- The nodes at a place stand one before the other. -/
theorem pairwise_occurrences (hnodup : layout.nodeIds.Nodup) (place : Place) :
    (layout.occurrences place).Pairwise fun a b => a.standing.Before b.standing := by
  have hsorted : (layout.occurrences place).Pairwise fun a b => (a.orderByLines b).isLE = true := by
    refine List.pairwise_mergeSort (fun a b c => ?_) (fun a b => ?_) _
    · simp only [ViewNode.isLE_orderByLines]
      exact Standing.le_trans
    · simp only [ViewNode.isLE_orderByLines]
      exact Standing.le_total _ _
  have hids : ((layout.occurrences place).map (·.id)).Nodup := by
    rw [((layout.occurrences_perm place).map _).nodup_iff]
    exact hnodup.sublist (List.filter_sublist.map _)
  refine hsorted.imp₂ (fun a b hle hne => ?_) (List.pairwise_map.1 hids)
  rw [ViewNode.isLE_orderByLines] at hle
  exact Standing.before_of_le hle hne

theorem nodup_occurrences (hnodup : layout.nodeIds.Nodup) (place : Place) :
    (layout.occurrences place).Nodup :=
  (layout.occurrences_perm place).nodup_iff.2 (hnodup.of_map _ |>.filter _)

/-! ### The keys of a layout -/

theorem mem_entriesAt : (id, key) ∈ layout.entriesAt place ↔
    ∃ i node, (layout.occurrences place)[i]? = some node ∧ id = node.id ∧ key = place.matchKey i := by
  simp only [entriesAt, List.mem_map, Prod.exists, List.mem_zipIdx_iff_getElem?, Prod.mk.injEq]
  constructor
  · rintro ⟨node, i, hnode, rfl, rfl⟩
    exact ⟨i, node, hnode, rfl, rfl⟩
  · rintro ⟨i, node, hnode, rfl, rfl⟩
    exact ⟨node, i, hnode, rfl, rfl⟩

theorem mem_entries : (id, key) ∈ layout.places.flatMap layout.entriesAt ↔
    ∃ place i node, (layout.occurrences place)[i]? = some node ∧ id = node.id ∧ key = place.matchKey i := by
  rw [List.mem_flatMap]
  constructor
  · rintro ⟨place, -, hentry⟩
    exact ⟨place, mem_entriesAt.1 hentry⟩
  · rintro ⟨place, i, node, hnode, hentry⟩
    refine ⟨place, ?_, mem_entriesAt.2 ⟨i, node, hnode, hentry⟩⟩
    obtain ⟨hmem, rfl⟩ := mem_occurrences.1 (List.mem_of_getElem? hnode)
    exact List.mem_eraseDups.2 (List.mem_map_of_mem hmem)

/-- **The key of a node** is made of its place and of its number there. -/
theorem get?_matchKeys_iff (hnodup : layout.nodeIds.Nodup) : layout.matchKeys.get? id = some key ↔
    ∃ place i node, (layout.occurrences place)[i]? = some node ∧ id = node.id ∧ key = place.matchKey i := by
  have hsingle : Table.SingleValued (layout.places.flatMap layout.entriesAt) := by
    intro id key key' hentry hentry'
    obtain ⟨place, i, node, hnode, rfl, rfl⟩ := mem_entries.1 hentry
    obtain ⟨place', i', node', hnode', hid, rfl⟩ := mem_entries.1 hentry'
    -- the id says the node, the node says the place, and it is there once
    obtain ⟨hmem, rfl⟩ := mem_occurrences.1 (List.mem_of_getElem? hnode)
    obtain ⟨hmem', rfl⟩ := mem_occurrences.1 (List.mem_of_getElem? hnode')
    obtain rfl := eq_of_id_eq hnodup hmem hmem' hid
    have hlt : i < (layout.occurrences (layout.place node)).length := (List.getElem?_eq_some_iff.1 hnode).1
    rw [(List.getElem?_inj hlt (nodup_occurrences hnodup _)).1 (hnode.trans hnode'.symm)]
  rw [matchKeys_eq, Table.get?_ofList_eq_some_iff hsingle, mem_entries]

theorem get?_matchKeys (hnodup : layout.nodeIds.Nodup) (h : (layout.occurrences place)[i]? = some node) :
    layout.matchKeys.get? node.id = some (place.matchKey i) :=
  (get?_matchKeys_iff hnodup).2 ⟨place, i, node, h, rfl, rfl⟩

/-- Every node has a key with its place. -/
theorem exists_get?_matchKeys (hnodup : layout.nodeIds.Nodup) (h : node ∈ layout.nodes) :
    ∃ i, (layout.occurrences (layout.place node))[i]? = some node ∧
      layout.matchKeys.get? node.id = some ((layout.place node).matchKey i) := by
  obtain ⟨i, hi⟩ := List.getElem?_of_mem (mem_occurrences.2 ⟨h, rfl⟩)
  exact ⟨i, hi, get?_matchKeys hnodup hi⟩

/-- Nothing that stands before the label in a key has a bar: no kind, no path and no label of a parent. -/
structure ScopesBarFree (layout : Layout) : Prop where
  kind : ∀ node ∈ layout.nodes, BarFree node.kind
  filePath : ∀ node ∈ layout.nodes, BarFree node.filePath
  parentLabel : ∀ node ∈ layout.nodes, ∀ parent ∈ layout.nodes, layout.HasParent node parent → BarFree parent.label

instance (layout : Layout) : Decidable layout.ScopesBarFree :=
  decidable_of_iff ((∀ node ∈ layout.nodes, BarFree node.kind) ∧ (∀ node ∈ layout.nodes, BarFree node.filePath) ∧
      ∀ node ∈ layout.nodes, ∀ parent ∈ layout.nodes, layout.HasParent node parent → BarFree parent.label)
    ⟨fun h => ⟨h.1, h.2.1, h.2.2⟩, fun h => ⟨h.kind, h.filePath, h.parentLabel⟩⟩

theorem ScopesBarFree.isBarFree (h : layout.ScopesBarFree) (hnode : node ∈ layout.nodes) :
    (layout.place node).IsBarFree := by
  refine ⟨h.kind node hnode, ?_⟩
  have hlabel : BarFree (((node.parentId.bind layout.node?).map (·.label)).getD "") := by
    cases hparent : node.parentId.bind layout.node? with
    | none => exact (by decide : BarFree "")
    | some parent =>
      have hmem : parent ∈ layout.nodes := (show layout.HasParent node parent from hparent).parent_mem.1
      exact h.parentLabel node hnode parent hmem hparent
  exact ((h.filePath node hnode).append (by decide : BarFree ":")).append hlabel

/-- Nodes with one key, of one layout or of two, are at one place and have one number there. -/
theorem place_eq_of_get?_eq (hnodup : layout.nodeIds.Nodup) (hnodup' : layout'.nodeIds.Nodup)
    (hfree : layout.ScopesBarFree) (hfree' : layout'.ScopesBarFree) {a b : ViewNode} (ha : a ∈ layout.nodes)
    (hb : b ∈ layout'.nodes) (h : layout.matchKeys.get? a.id = layout'.matchKeys.get? b.id) :
    layout.place a = layout'.place b ∧ ∃ i : Nat, (layout.occurrences (layout.place a))[i]? = some a ∧
      (layout'.occurrences (layout'.place b))[i]? = some b := by
  obtain ⟨i, hi, hkey⟩ := exists_get?_matchKeys hnodup ha
  obtain ⟨j, hj, hkey'⟩ := exists_get?_matchKeys hnodup' hb
  rw [hkey, hkey', Option.some.injEq] at h
  obtain ⟨hplace, rfl⟩ := Place.matchKey_inj (hfree.isBarFree ha) (hfree'.isBarFree hb) h
  exact ⟨hplace, i, hi, hj⟩

/-- The keys of a layout: one for every node, and numbers in order at every place. -/
structure NumbersNodes (layout : Layout) : Prop where
  /-- The nodes have keys, and nothing else has. -/
  isSome_iff : ∀ id, (layout.matchKeys.get? id).isSome ↔ id ∈ layout.nodeIds
  /-- No two nodes have the same key. -/
  injective : ∀ a ∈ layout.nodes, ∀ b ∈ layout.nodes,
    layout.matchKeys.get? a.id = layout.matchKeys.get? b.id → a = b
  /-- The nodes at a place are numbered on from 0 in the order of first line, last line and id. -/
  numbered : ∀ place, layout.occurrences place ~ layout.nodes.filter (layout.place · = place) ∧
    (layout.occurrences place).Pairwise (fun a b => a.standing.Before b.standing) ∧
    ∀ i node, (layout.occurrences place)[i]? = some node →
      layout.matchKeys.get? node.id = some (place.matchKey i)

/-- **The keys of a layout** are one for every node, different for different nodes, and numbered in order at
every place. -/
theorem numbersNodes (hnodup : layout.nodeIds.Nodup) (hfree : layout.ScopesBarFree) : layout.NumbersNodes where
  isSome_iff id := by
    rw [Option.isSome_iff_exists]
    constructor
    · rintro ⟨key, hkey⟩
      obtain ⟨place, i, node, hnode, rfl, -⟩ := (get?_matchKeys_iff hnodup).1 hkey
      exact List.mem_map_of_mem (mem_occurrences.1 (List.mem_of_getElem? hnode)).1
    · intro hid
      obtain ⟨node, hnode, rfl⟩ := List.mem_map.1 hid
      obtain ⟨i, -, hkey⟩ := exists_get?_matchKeys hnodup hnode
      exact ⟨_, hkey⟩
  injective a ha b hb h := by
    obtain ⟨hplace, i, hi, hj⟩ := place_eq_of_get?_eq hnodup hnodup hfree hfree ha hb h
    rw [hplace, hj] at hi
    exact (Option.some.inj hi).symm
  numbered place := ⟨layout.occurrences_perm place, pairwise_occurrences hnodup place,
    fun _ _ h => get?_matchKeys hnodup h⟩

/-! ### The keys of two layouts -/

/-- The keys of some of the nodes. -/
def keysOf (layout : Layout) (nodes : List ViewNode) : Set String :=
  {key | ∃ node ∈ nodes, layout.matchKeys.get? node.id = some key}

/-- The first nodes at a place have the first numbers. -/
theorem mem_keysOf_take (hnodup : layout.nodeIds.Nodup) {count : Nat} :
    key ∈ layout.keysOf ((layout.occurrences place).take count) ↔
      ∃ i < min count (layout.occurrences place).length, key = place.matchKey i := by
  constructor
  · rintro ⟨node, hnode, hkey⟩
    obtain ⟨i, hi⟩ := List.getElem?_of_mem hnode
    have hlt : i < min count (layout.occurrences place).length := by
      rw [← List.length_take]
      exact (List.getElem?_eq_some_iff.1 hi).1
    rw [List.getElem?_take_of_lt (Nat.lt_of_lt_of_le hlt (Nat.min_le_left _ _))] at hi
    rw [get?_matchKeys hnodup hi] at hkey
    exact ⟨i, hlt, (Option.some.inj hkey).symm⟩
  · rintro ⟨i, hlt, rfl⟩
    obtain ⟨hcount, hlength⟩ := Nat.lt_min.1 hlt
    have hi : (layout.occurrences place)[i]? = some (layout.occurrences place)[i] := List.getElem?_eq_getElem hlength
    refine ⟨_, List.mem_of_getElem? (i := i) ?_, get?_matchKeys hnodup hi⟩
    rw [List.getElem?_take_of_lt hcount, hi]

/-- **The keys at a place that another layout has too** are those of the numbers that there are on both sides,
whichever nodes of the other layout are asked. -/
theorem keysOf_inter (hnodup : layout.nodeIds.Nodup) (hnodup' : layout'.nodeIds.Nodup)
    (hfree : layout.ScopesBarFree) (hfree' : layout'.ScopesBarFree) (place : Place) :
    layout.keysOf (layout.occurrences place) ∩ layout'.keysOf layout'.nodes =
      layout.keysOf ((layout.occurrences place).take
        (min (layout.occurrences place).length (layout'.occurrences place).length)) := by
  ext key
  rw [mem_keysOf_take hnodup]
  constructor
  · rintro ⟨⟨a, ha, hkey⟩, b, hb, hkey'⟩
    obtain ⟨hmem, rfl⟩ := mem_occurrences.1 ha
    obtain ⟨hplace, i, hi, hj⟩ :=
      place_eq_of_get?_eq hnodup hnodup' hfree hfree' hmem hb (hkey.trans hkey'.symm)
    rw [← hplace] at hj
    have hleft := (List.getElem?_eq_some_iff.1 hi).1
    have hright := (List.getElem?_eq_some_iff.1 hj).1
    rw [get?_matchKeys hnodup hi] at hkey
    exact ⟨i, by omega, (Option.some.inj hkey).symm⟩
  · rintro ⟨i, hlt, rfl⟩
    have hleft : i < (layout.occurrences place).length := by omega
    have hright : i < (layout'.occurrences place).length := by omega
    have hi := List.getElem?_eq_getElem hleft
    have hj := List.getElem?_eq_getElem hright
    exact ⟨⟨_, List.mem_of_getElem? hi, get?_matchKeys hnodup hi⟩, _,
      (mem_occurrences.1 (List.mem_of_getElem? hj)).1, get?_matchKeys hnodup' hj⟩

/-- **The keys of two layouts**: each layout numbers its nodes, and at every place they share the keys of as
many first nodes as there are on both sides. -/
theorem matchKeys_correspond (hnodup : layout.nodeIds.Nodup) (hnodup' : layout'.nodeIds.Nodup)
    (hfree : layout.ScopesBarFree) (hfree' : layout'.ScopesBarFree) :
    layout.NumbersNodes ∧ layout'.NumbersNodes ∧ ∀ place,
      let both := min (layout.occurrences place).length (layout'.occurrences place).length
      layout.keysOf (layout.occurrences place) ∩ layout'.keysOf layout'.nodes =
          layout.keysOf ((layout.occurrences place).take both) ∧
        layout'.keysOf (layout'.occurrences place) ∩ layout.keysOf layout.nodes =
          layout'.keysOf ((layout'.occurrences place).take both) ∧
        layout.keysOf ((layout.occurrences place).take both) =
          layout'.keysOf ((layout'.occurrences place).take both) := by
  refine ⟨numbersNodes hnodup hfree, numbersNodes hnodup' hfree', fun place => ⟨?_, ?_, ?_⟩⟩
  · exact keysOf_inter hnodup hnodup' hfree hfree' place
  · rw [keysOf_inter hnodup' hnodup hfree' hfree place, Nat.min_comm]
  · ext key
    rw [mem_keysOf_take hnodup, mem_keysOf_take hnodup']
    simp only [Nat.min_eq_left (Nat.min_le_left _ _), Nat.min_eq_left (Nat.min_le_right _ _)]

/-! ### Labels with bars -/

/-- Nodes with labels that look like parts of keys, inside a group; those with the ids agree in all but the line. -/
def barred (ids : List String) : Layout where
  nodes := .sample "g" none true :: { ViewNode.sample "x" (some "g") false with label := "a|b#0#0" } ::
    ids.zipIdx.map fun (id, line) =>
      { ViewNode.sample id (some "g") false with label := "a|b#0", startLine := some (9 - line) }
  edges := []

theorem matchKeys_correspond_barred :
    let old := barred ["a", "b"]
    let new := barred ["c", "d", "e"]
    old.nodeIds.Nodup ∧ new.nodeIds.Nodup ∧ old.ScopesBarFree ∧ new.ScopesBarFree ∧
      old.NumbersNodes ∧ new.NumbersNodes ∧ ∀ place,
        let both := min (old.occurrences place).length (new.occurrences place).length
        old.keysOf (old.occurrences place) ∩ new.keysOf new.nodes =
            old.keysOf ((old.occurrences place).take both) ∧
          new.keysOf (new.occurrences place) ∩ old.keysOf old.nodes =
            new.keysOf ((new.occurrences place).take both) ∧
          old.keysOf ((old.occurrences place).take both) = new.keysOf ((new.occurrences place).take both) := by
  have hnodup : (barred ["a", "b"]).nodeIds.Nodup := by decide
  have hnodup' : (barred ["c", "d", "e"]).nodeIds.Nodup := by decide
  have hfree : (barred ["a", "b"]).ScopesBarFree := by decide
  have hfree' : (barred ["c", "d", "e"]).ScopesBarFree := by decide
  exact ⟨hnodup, hnodup', hfree, hfree', matchKeys_correspond hnodup hnodup' hfree hfree'⟩

example : ["a", "b", "x"].map (barred ["a", "b"]).matchKeys.get? =
    [some "Branch|m.py:g|a|b#0#1", some "Branch|m.py:g|a|b#0#0", some "Branch|m.py:g|a|b#0#0#0"] := by
  cbv

end Layout

end StructuralDiff
