import Mathlib.Data.List.DropRight
import Mathlib.Data.List.Infix
import StructuralDiff.Neighborhood.Search
import StructuralDiff.Proofs.Neighborhood.Layout

/-!
# What a search leaves in

A search that includes leaves the nodes in that match. One that excludes takes them out, and with every group
that matches all that it encloses; seen from a node, this is a matter of the chain of its parents alone.

* `Text.has_iff`, `needle_eq_empty_iff`: occurring in a text, and what is not looked for.
* `ViewNode.isHit_iff`: the nodes that match a query.
* `Layout.mem_removedIds`: what an excluding search takes out.
* `Layout.mem_searchMatches`: both kinds of searches.
-/

open Relation (TransGen)

namespace StructuralDiff

/-! ### Occurrences -/

namespace Text

theorem isSome_splitFirstChars? {pattern cs : List Char} :
    (splitFirstChars? pattern cs).isSome ↔ pattern <:+: cs := by
  induction cs with
  | nil =>
    rw [splitFirstChars?, List.infix_nil]
    cases pattern <;> simp
  | cons c rest ih =>
    rw [splitFirstChars?, List.infix_cons_iff, ← ih, ← List.isPrefixOf_iff_prefix]
    split
    · next hstarts => simp [hstarts]
    · next hstarts => simp [hstarts]

theorem has_iff {pattern text : String} : has pattern text = true ↔ pattern.toList <:+: text.toList :=
  isSome_splitFirstChars?

/-! ### Blank queries -/

theorem lowerChar_ne_nil (c : Char) : lowerChar c ≠ [] := by
  unfold lowerChar
  split
  · exact List.cons_ne_nil _ _
  · split
    · exact List.cons_ne_nil _ _
    · dsimp only
      split
      · exact List.cons_ne_nil _ _
      · exact List.cons_ne_nil _ _

theorem lowerFrom_eq_nil_iff {before cs : List Char} : lowerFrom before cs = [] ↔ cs = [] := by
  -- a letter may become several, but never none
  cases cs with
  | nil => simp [lowerFrom]
  | cons c rest =>
    simp only [lowerFrom, List.append_eq_nil_iff, List.cons_ne_nil, iff_false, not_and]
    intro hlower
    split at hlower
    · cases hlower
    · exact absurd hlower (lowerChar_ne_nil c)

theorem lowercase_eq_empty_iff {text : String} : lowercase text = "" ↔ text = "" := by
  rw [lowercase, ← String.toList_inj, String.toList_ofList, ← String.toList_inj]
  exact lowerFrom_eq_nil_iff

/-- A text that is empty without the blanks at its ends is blank throughout. -/
theorem trim_eq_empty_iff {text : String} : trim text = "" ↔ ∀ c ∈ text.toList, isBlank c = true := by
  rw [trim, trimEnd, trimStart, ← String.toList_inj, String.toList_ofList, String.toList_ofList]
  calc ((text.toList.dropWhile isBlank).reverse.dropWhile isBlank).reverse = []
      ↔ ∀ c ∈ text.toList.dropWhile isBlank, isBlank c = true := by
        rw [List.reverse_eq_nil_iff, List.dropWhile_eq_nil_iff]
        simp only [List.mem_reverse]
    _ ↔ ∀ c ∈ text.toList, isBlank c = true := by
        rw [← List.dropWhile_eq_nil_iff, List.dropWhile_idempotent, List.dropWhile_eq_nil_iff]

end Text

theorem needle_eq_empty_iff {query : String} :
    needle query = "" ↔ ∀ c ∈ query.toList, Text.isBlank c = true := by
  rw [needle, Text.lowercase_eq_empty_iff, Text.trim_eq_empty_iff]

/-- The query, without the blanks at its ends, occurs in the label, the path or the kind of the node, whatever
the case of the letters. -/
def ViewNode.Matches (node : ViewNode) (query : String) : Prop :=
  ∃ field ∈ [node.label, node.filePath, node.kind],
    (Text.lowercase (Text.trim query)).toList <:+: (Text.lowercase field).toList

theorem ViewNode.isHit_iff {node : ViewNode} {query : String} :
    node.isHit (needle query) = true ↔ node.Matches query := by
  rw [isHit, List.any_eq_true]
  simp only [Text.has_iff, needle, Matches]

instance (node : ViewNode) (query : String) : Decidable (node.Matches query) :=
  decidable_of_iff _ ViewNode.isHit_iff

/-! ### Searches -/

namespace Layout

variable {layout : Layout} {node : ViewNode} {query id : String}

/-- The nodes that match. -/
def hits (layout : Layout) (query : String) : List ViewNode :=
  layout.nodes.filter (·.isHit (needle query))

/-- The ids that an excluding search takes out: of the nodes that match, and of all that groups among them
enclose. -/
def removedIds (layout : Layout) (query : String) : List String :=
  (layout.hits query).map (·.id) ++
    ((layout.hits query).filter (·.isGroup)).flatMap fun group => layout.descendants group.id

theorem mem_hits : node ∈ layout.hits query ↔ node ∈ layout.nodes ∧ node.Matches query := by
  rw [hits, List.mem_filter, ViewNode.isHit_iff]

theorem searchMatches_eq (hquery : ∃ c ∈ query.toList, Text.isBlank c = false) (exclude : Bool) :
    layout.searchMatches query exclude = Text.sortedSet (if exclude then
      layout.nodeIds.filter (!(layout.removedIds query).contains ·) else (layout.hits query).map (·.id)) := by
  have hneedle : ¬(needle query == "") = true := by
    rw [beq_iff_eq, needle_eq_empty_iff]
    obtain ⟨c, hc, hvisible⟩ := hquery
    intro hblank
    rw [hblank c hc] at hvisible
    cases hvisible
  rw [searchMatches, if_neg hneedle]
  cases exclude <;> rfl

/-- **What an excluding search takes out**: the nodes that match, or are inside a group that matches. -/
theorem mem_removedIds (hnodup : layout.nodeIds.Nodup) (hnode : node ∈ layout.nodes) :
    node.id ∈ layout.removedIds query ↔ node.Matches query ∨
      ∃ group, TransGen layout.HasParent node group ∧ group.isGroup = true ∧ group.Matches query := by
  rw [removedIds, List.mem_append, List.mem_map, List.mem_flatMap]
  constructor
  · rintro (⟨hit, hhit, hid⟩ | ⟨group, hgroup, hinside⟩)
    · obtain ⟨hmem, hmatches⟩ := mem_hits.1 hhit
      obtain rfl := eq_of_id_eq hnodup hmem hnode hid
      exact .inl hmatches
    · obtain ⟨hhit, hisGroup⟩ := List.mem_filter.1 hgroup
      obtain ⟨hmem, hmatches⟩ := mem_hits.1 hhit
      obtain ⟨-, hchain⟩ := (id_mem_descendants_iff hnodup hnode hmem).1 hinside
      exact .inr ⟨group, hchain, hisGroup, hmatches⟩
  · rintro (hmatches | ⟨group, hchain, hisGroup, hmatches⟩)
    · exact .inl ⟨node, mem_hits.2 ⟨hnode, hmatches⟩, rfl⟩
    · have hmem := (reached_of_hasParent hnode hchain).1
      by_cases hsame : node = group
      · -- a group inside itself is not among its own descendants, but it matches
        exact .inl ⟨node, mem_hits.2 ⟨hnode, hsame ▸ hmatches⟩, rfl⟩
      · exact .inr ⟨group, List.mem_filter.2 ⟨mem_hits.2 ⟨hmem, hmatches⟩, hisGroup⟩,
          (id_mem_descendants_iff hnodup hnode hmem).2 ⟨hsame, hchain⟩⟩

/-- **What a search leaves in**, unless the query is blank: when it excludes, the nodes that do not match and
have no matching group in the chain of their parents; when it includes, the nodes that match. No node is left
in by both. -/
theorem mem_searchMatches (layout : Layout) (hnodup : layout.nodeIds.Nodup) (query : String)
    (hquery : ∃ c ∈ query.toList, Text.isBlank c = false) :
    (∀ id, id ∈ layout.searchMatches query true ↔
      ∃ node ∈ layout.nodes, node.id = id ∧ ¬node.Matches query ∧
        ∀ group, TransGen layout.HasParent node group → group.isGroup = true → ¬group.Matches query) ∧
    (∀ id, id ∈ layout.searchMatches query false ↔
      ∃ node ∈ layout.nodes, node.id = id ∧ node.Matches query) ∧
    (layout.searchMatches query true).Disjoint (layout.searchMatches query false) := by
  have hexclude (id : String) : id ∈ layout.searchMatches query true ↔
      ∃ node ∈ layout.nodes, node.id = id ∧ ¬node.Matches query ∧
        ∀ group, TransGen layout.HasParent node group → group.isGroup = true → ¬group.Matches query := by
    rw [searchMatches_eq hquery, Text.mem_sortedSet, if_pos rfl, List.mem_filter, nodeIds, List.mem_map,
      Bool.not_eq_true', ← Bool.not_eq_true, List.contains_iff_mem]
    constructor
    · rintro ⟨⟨node, hnode, rfl⟩, hkept⟩
      rw [mem_removedIds hnodup hnode, not_or] at hkept
      exact ⟨node, hnode, rfl, hkept.1, fun group hchain hisGroup hmatches =>
        hkept.2 ⟨group, hchain, hisGroup, hmatches⟩⟩
    · rintro ⟨node, hnode, rfl, hmatches, hgroups⟩
      refine ⟨⟨node, hnode, rfl⟩, fun hremoved => ?_⟩
      rcases (mem_removedIds hnodup hnode).1 hremoved with hhit | ⟨group, hchain, hisGroup, hhit⟩
      · exact hmatches hhit
      · exact hgroups group hchain hisGroup hhit
  have hinclude (id : String) : id ∈ layout.searchMatches query false ↔
      ∃ node ∈ layout.nodes, node.id = id ∧ node.Matches query := by
    rw [searchMatches_eq hquery, Text.mem_sortedSet, if_neg Bool.false_ne_true, List.mem_map]
    simp only [mem_hits, and_left_comm, and_comm]
  -- a node left in by both would match and not match; ids are different, so it is one node
  refine ⟨hexclude, hinclude, fun id hleft hhit => ?_⟩
  obtain ⟨node, hnode, rfl, hmisses, -⟩ := (hexclude id).1 hleft
  obtain ⟨other, hother, hid, hmatches⟩ := (hinclude node.id).1 hhit
  exact hmisses (eq_of_id_eq hnodup hother hnode hid ▸ hmatches)

/-- A group with a node in it that is not one, and a branch in that; a group apart; and two nodes inside each
other, one of them a group. -/
def nestedGroups : Layout :=
  .ofLists [.sample "Checkout" none true, .sample "part" (some "Checkout") false,
      .sample "call" (some "part") false, .sample "render" none true,
      .sample "ring" (some "recheck") false, .sample "recheck" (some "ring") true] []

/-- The branch goes with the group, and both nodes of the circle with the one that matches. -/
theorem mem_searchMatches_nested :
    nestedGroups.nodeIds.Nodup ∧ (∃ c ∈ " CHECK ".toList, Text.isBlank c = false) ∧
      "render" ∈ nestedGroups.searchMatches " CHECK " true ∧
      "call" ∉ nestedGroups.searchMatches " CHECK " true ∧ "ring" ∉ nestedGroups.searchMatches " CHECK " true ∧
      "recheck" ∉ nestedGroups.searchMatches " CHECK " true ∧
      "recheck" ∈ nestedGroups.searchMatches " CHECK " false := by
  have hnodup : nestedGroups.nodeIds.Nodup := by decide
  have hquery : ∃ c ∈ " CHECK ".toList, Text.isBlank c = false := ⟨'C', by decide, by decide⟩
  obtain ⟨hexclude, hinclude, hdisjoint⟩ := mem_searchMatches nestedGroups hnodup " CHECK " hquery
  let checkout : ViewNode := .sample "Checkout" none true
  let part : ViewNode := .sample "part" (some "Checkout") false
  have hpart : nestedGroups.HasParent part checkout := by decide
  have hcall : nestedGroups.HasParent (.sample "call" (some "part") false) part := by decide
  have hring : nestedGroups.HasParent (.sample "ring" (some "recheck") false)
      (.sample "recheck" (some "ring") true) := by
    decide
  -- what is inside a group that matches is taken out
  have hinside {node group : ViewNode} (hnode : node ∈ nestedGroups.nodes)
      (hchain : TransGen nestedGroups.HasParent node group) (hisGroup : group.isGroup = true)
      (hmatches : group.Matches " CHECK ") : node.id ∉ nestedGroups.searchMatches " CHECK " true := by
    intro hleft
    obtain ⟨found, hfound, hid, -, hgroups⟩ := (hexclude node.id).1 hleft
    obtain rfl := eq_of_id_eq hnodup hfound hnode hid
    exact hgroups group hchain hisGroup hmatches
  have hrender : "render" ∈ nestedGroups.searchMatches " CHECK " true := by
    refine (hexclude "render").2
      ⟨.sample "render" none true, by decide, rfl, by decide, fun group hchain => ?_⟩
    obtain ⟨parent, hparent, -⟩ := TransGen.head'_iff.1 hchain
    cases hparent
  have hrecheck : "recheck" ∈ nestedGroups.searchMatches " CHECK " false :=
    (hinclude "recheck").2 ⟨.sample "recheck" (some "ring") true, by decide, rfl, by decide⟩
  refine ⟨hnodup, hquery, hrender, ?_, ?_, fun hleft => hdisjoint hleft hrecheck, hrecheck⟩
  · exact hinside (by decide) (.head hcall (.single hpart)) rfl (by decide)
  · exact hinside (by decide) (.single hring) rfl (by decide)

end Layout

end StructuralDiff
