import Mathlib.Order.Bounds.Basic
import StructuralDiff.Proofs.Source.Exit
import StructuralDiff.Proofs.Source.Stream

/-!
# The first error of a tree

The walk for the first error goes through the nodes in the order in which the tree lists them, and leaves out the
parts without errors. Where the children of each node stand in it one after the other, the error that it comes to
first is one on the topmost line.

* `SourceTree.hasError_eq_any`: a tree has an error exactly when one of its nodes is an error or is missing.
* `SourceTree.searchError?_eq_find?`: the walk misses nothing.
* `SourceTree.InOrder.pairwise_nodes`: the nodes are listed in the order in which they start.
* `SourceTree.firstErrorLine?_isLeast`: the line of the first error is the topmost one with an error.
* `SourceTree.inOrder_rows_of_ofJson?`: a stored tree is in order by its lines if it is by its bytes.
-/

namespace StructuralDiff.SourceTree

/-! ### The walk -/

theorem anyError_eq_any (trees : List SourceTree) : anyError trees = trees.any hasError := by
  induction trees with
  | nil => rfl
  | cons tree rest ih => rw [anyError, List.any_cons, ih]

theorem hasError_eq (tree : SourceTree) : tree.hasError = (tree.isBroken || tree.children.any hasError) := by
  cases tree
  rw [hasError, anyError_eq_any, isBroken]

theorem hasError_eq_any (tree : SourceTree) : tree.hasError = tree.nodes.any isBroken := by
  induction tree using inductionOn with
  | node tree ih =>
    have hchildren : tree.children.any hasError = tree.children.any fun child => child.nodes.any isBroken := by
      rw [Bool.eq_iff_iff, List.any_eq_true, List.any_eq_true]
      exact exists_congr fun child => and_congr_right fun hchild => by rw [ih child hchild]
    rw [hasError_eq, hchildren, nodes_eq, List.any_cons, List.any_flatMap]

/-- **The walk finds the first of the nodes on the stack and below them that is an error or is missing**, though it
leaves out what lies below a node without errors. -/
theorem searchError?_eq_find? (stack : List SourceTree) :
    searchError? stack = ((stack.flatMap nodes).find? isBroken).map (·.startRow + 1) := by
  induction stack using searchError?.induct with
  | case1 => rw [searchError?, List.flatMap_nil, List.find?_nil, Option.map_none]
  | case2 tree stack hbroken =>
    rw [searchError?, if_pos hbroken, List.flatMap_cons, nodes_eq, List.cons_append, List.find?_cons_of_pos hbroken,
      Option.map_some]
  | case3 tree stack hbroken herror ih =>
    rw [searchError?, if_neg hbroken, if_pos herror, ih, List.flatMap_append, List.flatMap_cons, nodes_eq tree,
      List.cons_append, List.find?_cons_of_neg hbroken]
  | case4 tree stack hbroken herror ih =>
    have hnone : tree.nodes.find? isBroken = none := by
      rw [hasError_eq_any, List.any_eq_true] at herror
      exact List.find?_eq_none.2 fun node hnode hnodeBroken => herror ⟨node, hnode, hnodeBroken⟩
    rw [searchError?, if_neg hbroken, if_neg herror, ih, List.flatMap_cons, List.find?_append, hnone, Option.none_or]

/-- The line of the root, which the walk falls back on, is never needed. -/
theorem firstErrorLine?_eq_find? (tree : SourceTree) :
    tree.firstErrorLine? = (tree.nodes.find? isBroken).map (·.startRow + 1) := by
  have herror : tree.hasError = true ↔ (tree.nodes.find? isBroken).isSome = true := by
    rw [hasError_eq_any, List.any_eq_true, List.find?_isSome]
  simp only [firstErrorLine?, searchError?_eq_find?, List.flatMap_singleton, herror]
  cases tree.nodes.find? isBroken <;> rfl

/-! ### Trees in source order -/

/-- The children of a node lie inside it, one after the other. Where a node starts and where it ends may be counted in
bytes or in lines. -/
structure Encloses (first last : SourceTree → Nat) (tree : SourceTree) : Prop where
  first_le_last : first tree ≤ last tree
  inside : ∀ child ∈ tree.children, first tree ≤ first child ∧ last child ≤ last tree
  apart : tree.children.Pairwise fun before after => last before ≤ first after

/-- The children of every node lie inside it, one after the other. -/
def InOrder (first last : SourceTree → Nat) (tree : SourceTree) : Prop :=
  ∀ node ∈ tree.nodes, node.Encloses first last

instance (first last : SourceTree → Nat) (tree : SourceTree) : Decidable (tree.Encloses first last) :=
  decidable_of_iff
    (first tree ≤ last tree ∧ (∀ child ∈ tree.children, first tree ≤ first child ∧ last child ≤ last tree) ∧
      tree.children.Pairwise fun before after => last before ≤ first after)
    ⟨fun h => ⟨h.1, h.2.1, h.2.2⟩, fun h => ⟨h.first_le_last, h.inside, h.apart⟩⟩

instance (first last : SourceTree → Nat) (tree : SourceTree) : Decidable (tree.InOrder first last) :=
  inferInstanceAs (Decidable (∀ node ∈ tree.nodes, node.Encloses first last))

namespace InOrder

variable {first last : SourceTree → Nat} {tree : SourceTree}

theorem of_mem (h : tree.InOrder first last) {child : SourceTree} (hchild : child ∈ tree.children) :
    child.InOrder first last :=
  fun _ hnode => h _ (mem_nodes_of_mem hnode hchild)

/-- All nodes of a tree lie inside its root. -/
theorem inside (h : tree.InOrder first last) {node : SourceTree} (hnode : node ∈ tree.nodes) :
    first tree ≤ first node ∧ last node ≤ last tree := by
  induction tree using inductionOn with
  | node tree ih =>
    rw [nodes_eq, List.mem_cons, List.mem_flatMap] at hnode
    obtain rfl | ⟨child, hchild, hnode⟩ := hnode
    · exact ⟨le_rfl, le_rfl⟩
    · have hnear := (h tree tree.self_mem_nodes).inside child hchild
      have hfar := ih child hchild (h.of_mem hchild) hnode
      exact ⟨hnear.1.trans hfar.1, hfar.2.trans hnear.2⟩

/-- **The nodes of a tree are listed in the order in which they start.** -/
theorem pairwise_nodes (h : tree.InOrder first last) :
    tree.nodes.Pairwise fun before after => first before ≤ first after := by
  induction tree using inductionOn with
  | node tree ih =>
    rw [nodes_eq, List.pairwise_cons, List.pairwise_flatMap]
    refine ⟨fun node hnode => ?_, fun child hchild => ih child hchild (h.of_mem hchild), ?_⟩
    · obtain ⟨child, hchild, hnode⟩ := List.mem_flatMap.1 hnode
      exact (h.inside (mem_nodes_of_mem hnode hchild)).1
    · -- what stands below a child starts before that child ends, and so before the next one starts
      refine (h tree tree.self_mem_nodes).apart.imp_of_mem fun {before after} hbefore hafter hapart x hx y hy => ?_
      calc first x ≤ last x := (h x (mem_nodes_of_mem hx hbefore)).first_le_last
        _ ≤ last before := ((h.of_mem hbefore).inside hx).2
        _ ≤ first after := hapart
        _ ≤ first y := ((h.of_mem hafter).inside hy).1

/-- The node with a property that is listed first starts before all others with it. -/
theorem isLeast_of_find? (h : tree.InOrder first last) {p : SourceTree → Bool} {node : SourceTree}
    (hfound : tree.nodes.find? p = some node) :
    IsLeast {place | ∃ other ∈ tree.nodes, p other = true ∧ first other = place} (first node) := by
  refine ⟨⟨node, List.mem_of_find?_eq_some hfound, List.find?_some hfound, rfl⟩, ?_⟩
  rintro _ ⟨other, hother, hp, rfl⟩
  obtain ⟨-, before, after, hnodes, hbefore⟩ := List.find?_eq_some_iff_append.1 hfound
  have hsorted := h.pairwise_nodes
  rw [hnodes, List.mem_append, List.mem_cons] at hother
  rw [hnodes, List.pairwise_append, List.pairwise_cons] at hsorted
  obtain hother | rfl | hother := hother
  · exact absurd hp (by simpa using hbefore other hother)
  · exact le_rfl
  · exact hsorted.2.1.1 other hother

/-- Places that grow with those of an order are an order as well. -/
theorem map {first' last' : SourceTree → Nat} {f : Nat → Nat} (h : tree.InOrder first last) (hf : Monotone f)
    (hplaces : ∀ node ∈ tree.nodes, first' node = f (first node) ∧ last' node = f (last node)) :
    tree.InOrder first' last' := by
  intro node hnode
  have hchildren := children_subset_nodes hnode
  obtain ⟨hspan, hinside, hapart⟩ := h node hnode
  refine ⟨?_, fun child hchild => ?_, hapart.imp_of_mem fun {before after} hbefore hafter hle => ?_⟩
  · rw [(hplaces node hnode).1, (hplaces node hnode).2]
    exact hf hspan
  · rw [(hplaces node hnode).1, (hplaces node hnode).2, (hplaces child (hchildren hchild)).1,
      (hplaces child (hchildren hchild)).2]
    exact ⟨hf (hinside child hchild).1, hf (hinside child hchild).2⟩
  · rw [(hplaces before (hchildren hbefore)).2, (hplaces after (hchildren hafter)).1]
    exact hf hle

end InOrder

/-! ### The topmost line -/

/-- **The line of the first error is the topmost one with an error.** A tree in source order has no such line exactly
when none of its nodes is an error or is missing, and else it is the line on which the first of those nodes starts. -/
theorem firstErrorLine?_isLeast (tree : SourceTree) (h : tree.InOrder startRow endRow) :
    (tree.firstErrorLine? = none ↔ ∀ node ∈ tree.nodes, node.error = false ∧ node.missing = false) ∧
    ∀ row, tree.firstErrorLine? = some (row + 1) ↔
      IsLeast {row | ∃ node ∈ tree.nodes, (node.error = true ∨ node.missing = true) ∧ node.startRow = row} row := by
  have hbroken (node : SourceTree) : node.isBroken = true ↔ node.error = true ∨ node.missing = true :=
    Bool.or_eq_true_iff
  simp only [← hbroken, firstErrorLine?_eq_find?]
  refine ⟨?_, fun row => ?_⟩
  · rw [Option.map_eq_none_iff, List.find?_eq_none]
    refine forall₂_congr fun node _ => ?_
    rw [hbroken, not_or, Bool.not_eq_true, Bool.not_eq_true]
  · cases hfound : tree.nodes.find? isBroken with
    | none =>
      refine iff_of_false (by simp) ?_
      rintro ⟨⟨node, hnode, hnodeBroken, -⟩, -⟩
      exact List.find?_eq_none.1 hfound node hnode hnodeBroken
    | some node =>
      have hleast := h.isLeast_of_find? hfound
      rw [Option.map_some, Option.some_inj, Nat.add_right_cancel_iff]
      exact ⟨fun heq => heq ▸ hleast, hleast.unique⟩

/-- A tuple that is not closed before the next function. -/
def unclosedTuple : SourceTree :=
  ofRows "def f():\n    x = (1,\n\ndef g(): pass\n"
    [⟨0, "module", 1, none, 0, 36⟩, ⟨1, "function_definition", 1, none, 0, 35⟩, ⟨2, "def", 0, none, 0, 3⟩,
     ⟨2, "identifier", 1, some "name", 4, 5⟩, ⟨2, "parameters", 1, some "parameters", 5, 7⟩,
     ⟨3, "(", 0, none, 5, 6⟩, ⟨3, ")", 0, none, 6, 7⟩, ⟨2, ":", 0, none, 7, 8⟩,
     ⟨2, "block", 1, some "body", 13, 35⟩, ⟨3, "expression_statement", 1, none, 13, 35⟩,
     ⟨4, "assignment", 1, none, 13, 35⟩, ⟨5, "identifier", 1, some "left", 13, 14⟩,
     ⟨5, "ERROR", 7, none, 15, 29⟩, ⟨6, "=", 0, none, 15, 16⟩, ⟨6, "(", 0, none, 17, 18⟩,
     ⟨6, "integer", 1, none, 18, 19⟩, ⟨6, ",", 0, none, 19, 20⟩, ⟨6, "call", 1, none, 22, 29⟩,
     ⟨7, "identifier", 1, some "function", 22, 25⟩, ⟨7, "ERROR", 7, none, 26, 27⟩,
     ⟨8, "identifier", 1, none, 26, 27⟩, ⟨7, "argument_list", 1, some "arguments", 27, 29⟩,
     ⟨8, "(", 0, none, 27, 28⟩, ⟨8, ")", 0, none, 28, 29⟩, ⟨5, ":", 0, none, 29, 30⟩,
     ⟨5, "type", 1, some "type", 31, 35⟩, ⟨6, "identifier", 1, none, 31, 35⟩]

/-- Two nodes are errors, on the second and on the fourth line. -/
theorem firstErrorLine?_isLeast_unclosedTuple :
    unclosedTuple.InOrder startRow endRow ∧ (unclosedTuple.nodes.filter isBroken).map startRow = [1, 3] ∧
      unclosedTuple.firstErrorLine? ≠ none ∧ unclosedTuple.firstErrorLine? = some 2 := by
  have horder : unclosedTuple.InOrder startRow endRow := by decide +kernel
  have hfirst : ∃ node ∈ unclosedTuple.nodes, (node.error = true ∨ node.missing = true) ∧ node.startRow = 1 := by
    decide +kernel
  have htop : ∀ node ∈ unclosedTuple.nodes, node.error = true ∨ node.missing = true → 1 ≤ node.startRow := by
    decide +kernel
  obtain ⟨hnone, hsome⟩ := firstErrorLine?_isLeast unclosedTuple horder
  refine ⟨horder, by decide +kernel, fun h => ?_, (hsome 1).2 ⟨hfirst, ?_⟩⟩
  · obtain ⟨node, hnode, hbroken, -⟩ := hfirst
    obtain ⟨herror, hmissing⟩ := hnone.1 h node hnode
    simp [herror, hmissing] at hbroken
  · rintro _ ⟨node, hnode, hbroken, rfl⟩
    exact htop node hnode hbroken

/-! ### Stored trees -/

/-- The nodes of a stored tree are on the lines that the line breaks before their bytes make. -/
theorem rows_of_mem_forest {bytes : ByteArray} {breaks : List Nat} {rows : List Row} {part : Nat × SourceTree}
    (hpart : part ∈ forest bytes breaks rows) : ∀ node ∈ part.2.nodes,
      node.startRow = breaks.countP (·.blt node.startByte) ∧ node.endRow = breaks.countP (·.blt node.endByte) := by
  induction rows generalizing part with
  | nil => cases hpart
  | cons row rest ih =>
    rw [forest, List.mem_cons] at hpart
    obtain rfl | hpart := hpart
    · intro node hnode
      rw [nodes_eq, List.mem_cons, List.mem_flatMap] at hnode
      obtain rfl | ⟨child, hchild, hnode⟩ := hnode
      · exact ⟨rfl, rfl⟩
      · obtain ⟨part, hpart, rfl⟩ := List.mem_map.1 hchild
        exact ih (List.takeWhile_subset _ hpart) node hnode
    · exact ih (List.mem_of_mem_drop hpart)

/-- **A stored tree whose nodes stand in source order by their bytes does so by its lines.** -/
theorem inOrder_rows_of_ofJson? {bytes : ByteArray} {v : Json} {tree : SourceTree}
    (hread : ofJson? bytes v = some tree) (h : tree.InOrder startByte endByte) : tree.InOrder startRow endRow := by
  simp only [ofJson?, Option.bind_eq_bind, Option.bind_eq_some_iff] at hread
  obtain ⟨record, -, kinds, -, fields, -, rows, -, hread⟩ := hread
  split at hread
  next hforest =>
    obtain rfl := Option.some.inj hread
    have hgrows : Monotone fun place : Nat => (lineBreaks bytes).countP (·.blt place) := by
      refine fun place place' hle => List.countP_mono_left fun lineBreak _ hlt => ?_
      rw [Nat.blt_eq] at hlt ⊢
      exact hlt.trans_le hle
    exact h.map hgrows (rows_of_mem_forest (hforest ▸ List.mem_singleton_self _))
  · cases hread

end StructuralDiff.SourceTree
