import Mathlib.Data.List.Flatten
import Mathlib.Data.List.Perm.Basic
import StructuralDiff.Flow.Basic
import StructuralDiff.Source.Tree

/-!
# Exits in a tree

A function is left at its return statements and where it raises an exception. Which nodes these are, below which
nodes they are looked for, and which nodes are functions and classes of their own depends on the language.

* `ExitRules.all`: the exits of a node that do not stand in a nested function or class.
* `ExitRules.found`: those among them to which a way of nodes of known kinds leads.
* `ExitRules.found_sublist_all`: nothing else is found.
* `ExitRules.foundFrom_append`: exits are found group by group.
-/

open scoped List

namespace StructuralDiff

namespace SourceTree

/-! ### The nodes of a tree -/

mutual

/-- A node and the nodes below it. -/
def nodes : SourceTree → List SourceTree
  | ⟨kind, field, named, extra, error, missing, startByte, endByte, startRow, endRow, text, children⟩ =>
    ⟨kind, field, named, extra, error, missing, startByte, endByte, startRow, endRow, text, children⟩
      :: nodesOfEach children

/-- The nodes of several trees. -/
def nodesOfEach : List SourceTree → List SourceTree
  | [] => []
  | tree :: rest => nodes tree ++ nodesOfEach rest

end

theorem nodesOfEach_eq_flatMap (trees : List SourceTree) : nodesOfEach trees = trees.flatMap nodes := by
  induction trees with
  | nil => rfl
  | cons tree rest ih => rw [nodesOfEach, List.flatMap_cons, ih]

theorem nodes_eq (tree : SourceTree) : tree.nodes = tree :: tree.children.flatMap nodes := by
  cases tree
  rw [nodes, nodesOfEach_eq_flatMap]

theorem self_mem_nodes (tree : SourceTree) : tree ∈ tree.nodes := by
  rw [nodes_eq]
  exact List.mem_cons_self

theorem mem_nodes_of_mem {node child tree : SourceTree} (hnode : node ∈ child.nodes)
    (hchild : child ∈ tree.children) : node ∈ tree.nodes := by
  rw [nodes_eq]
  exact List.mem_cons_of_mem _ (List.mem_flatMap.2 ⟨child, hchild, hnode⟩)

theorem mem_nodes_trans {node middle tree : SourceTree} (hnode : node ∈ middle.nodes)
    (hmiddle : middle ∈ tree.nodes) : node ∈ tree.nodes := by
  rw [nodes_eq, List.mem_cons, List.mem_flatMap] at hmiddle
  obtain rfl | ⟨child, hchild, hmiddle⟩ := hmiddle
  · exact hnode
  · exact mem_nodes_of_mem (mem_nodes_trans hnode hmiddle) hchild
termination_by sizeOf tree
decreasing_by exact sizeOf_lt_of_mem hchild

theorem children_subset_nodes {tree root : SourceTree} (h : tree ∈ root.nodes) : tree.children ⊆ root.nodes :=
  fun child hchild => mem_nodes_trans (mem_nodes_of_mem child.self_mem_nodes hchild) h

theorem child?_mem_nodes {tree child root : SourceTree} {role : String} (h : tree ∈ root.nodes)
    (hchild : tree.child? role = some child) : child ∈ root.nodes :=
  children_subset_nodes h (List.mem_of_find?_eq_some hchild)

/-- All nodes of a tree have a property. -/
def everywhere (p : SourceTree → Bool) (tree : SourceTree) : Bool :=
  tree.nodes.all p

variable {p : SourceTree → Bool} {tree : SourceTree}

theorem here_of_everywhere (h : tree.everywhere p = true) : p tree = true :=
  List.all_eq_true.1 h tree tree.self_mem_nodes

theorem everywhere_of_mem_nodes {node : SourceTree} (h : tree.everywhere p = true) (hnode : node ∈ tree.nodes) :
    node.everywhere p = true :=
  List.all_eq_true.2 fun other hother => List.all_eq_true.1 h other (mem_nodes_trans hother hnode)

theorem everywhere_of_mem {child : SourceTree} (h : tree.everywhere p = true) (hchild : child ∈ tree.children) :
    child.everywhere p = true :=
  everywhere_of_mem_nodes h (mem_nodes_of_mem child.self_mem_nodes hchild)

theorem everywhere_child? {role : String} {child : SourceTree} (h : tree.everywhere p = true)
    (hchild : tree.child? role = some child) : child.everywhere p = true :=
  everywhere_of_mem h (List.mem_of_find?_eq_some hchild)

/-! ### Roles -/

/-- The children in a role are those of some kinds. -/
def holds (tree : SourceTree) (role : String) (kinds : List String) : Bool :=
  tree.children.all fun child => (child.field == some role) == kinds.contains child.kind

/-- There is at most one child in a role, and it is the only one of some kinds. -/
def sole (tree : SourceTree) (role : String) (kinds : List String) : Bool :=
  tree.holds role kinds && decide ((tree.childrenIn role).length ≤ 1)

/-- The children of some kinds are nodes of the grammar, and none of them may stand anywhere. -/
def lists (tree : SourceTree) (kinds : List String) : Bool :=
  tree.children.all fun child => !kinds.contains child.kind || (child.named && !child.extra)

theorem named_of_lists {kinds : List String} (h : tree.lists kinds = true) :
    ∀ child ∈ tree.children, child.kind ∈ kinds → (child.named && !child.extra) = true := by
  intro child hchild hkind
  simpa [hkind] using List.all_eq_true.1 h child hchild

theorem childrenIn_of_holds {role : String} {kinds : List String} (h : tree.holds role kinds = true) :
    tree.childrenIn role = tree.children.filter (kinds.contains ·.kind) :=
  List.filter_congr fun child hchild => beq_iff_eq.1 (List.all_eq_true.1 h child hchild)

theorem toList_find?_of_length {α : Type} {q : α → Bool} {l : List α} (h : (l.filter q).length ≤ 1) :
    (l.find? q).toList = l.filter q := by
  rw [← List.head?_filter]
  match l.filter q, h with
  | [], _ => rfl
  | [_], _ => rfl

theorem toList_child?_of_sole {role : String} {kinds : List String} (h : tree.sole role kinds = true) :
    (tree.child? role).toList = tree.children.filter (kinds.contains ·.kind) := by
  rw [sole, Bool.and_eq_true, decide_eq_true_iff] at h
  rw [← childrenIn_of_holds h.1]
  exact toList_find?_of_length h.2

theorem kind_of_sole {role : String} {kinds : List String} (h : tree.sole role kinds = true) {part : SourceTree}
    (hpart : tree.child? role = some part) : part.kind ∈ kinds := by
  have hmem : part ∈ (tree.child? role).toList := Option.mem_toList.2 hpart
  rw [toList_child?_of_sole h] at hmem
  simpa using (List.mem_filter.1 hmem).2

/-! ### Exits -/

section Exits

variable (leaves : String → Bool) (enters : String → String → Bool)

mutual

/-- The exits at and below a node, where it is said from which nodes one goes on to which children. -/
def exits : SourceTree → List SourceTree
  | ⟨kind, field, named, extra, error, missing, startByte, endByte, startRow, endRow, text, children⟩ =>
    if leaves kind then
      [⟨kind, field, named, extra, error, missing, startByte, endByte, startRow, endRow, text, children⟩]
    else exitsAmong kind children

/-- The exits of the children of a node to which one goes on. -/
def exitsAmong (parent : String) : List SourceTree → List SourceTree
  | [] => []
  | tree :: rest => (if enters parent tree.kind then exits tree else []) ++ exitsAmong parent rest

end

theorem exitsAmong_eq_flatMap (parent : String) (trees : List SourceTree) :
    exitsAmong leaves enters parent trees =
      trees.flatMap fun tree => if enters parent tree.kind then tree.exits leaves enters else [] := by
  induction trees with
  | nil => rfl
  | cons tree rest ih => rw [exitsAmong, ih, List.flatMap_cons]

theorem exits_eq (tree : SourceTree) : tree.exits leaves enters =
    if leaves tree.kind then [tree]
    else tree.children.flatMap fun child =>
      if enters tree.kind child.kind then child.exits leaves enters else [] := by
  cases tree
  rw [exits, exitsAmong_eq_flatMap]

end Exits

theorem flatMap_sublist {α β : Type} {f g : α → List β} {l : List α} (h : ∀ a ∈ l, f a <+ g a) :
    l.flatMap f <+ l.flatMap g := by
  induction l with
  | nil => exact .refl _
  | cons a rest ih =>
    rw [List.forall_mem_cons] at h
    rw [List.flatMap_cons, List.flatMap_cons]
    exact h.1.append (ih h.2)

variable {leaves : String → Bool} {enters enters' : String → String → Bool}

/-- Who goes on less often finds less. -/
theorem exits_sublist (h : ∀ parent child, enters parent child = true → enters' parent child = true)
    (tree : SourceTree) : tree.exits leaves enters <+ tree.exits leaves enters' := by
  rw [exits_eq, exits_eq leaves enters']
  split
  · exact .refl _
  · refine flatMap_sublist fun child hchild => ?_
    split
    · next henter =>
      rw [if_pos (h _ _ henter)]
      exact exits_sublist h child
    · exact List.nil_sublist _
termination_by sizeOf tree
decreasing_by exact sizeOf_lt_of_mem hchild

end SourceTree

/-! ### What a language says -/

/-- Where functions of a language are left. -/
structure ExitRules where
  /-- The kind of the body of a function. -/
  block : String
  /-- The kind of the branch that an exit becomes. -/
  branch? : String → Option String
  /-- The kinds of children in which exits are looked for. -/
  reached : String → List String
  /-- A function or class of its own. -/
  nested : String → Bool

namespace ExitRules

variable (rules : ExitRules)

/-- A function is left at nodes of the kind. -/
def leaves (kind : String) : Bool :=
  (rules.branch? kind).isSome

/-- The exits at and below a node; those of nested functions and classes are not counted. -/
def all (tree : SourceTree) : List SourceTree :=
  tree.exits rules.leaves fun _ child => !rules.nested child

/-- The exits at and below a node that are found. -/
def found (tree : SourceTree) : List SourceTree :=
  tree.exits rules.leaves fun parent child => (rules.reached parent).contains child && !rules.nested child

/-- **Only exits are found.** -/
theorem found_sublist_all (tree : SourceTree) : rules.found tree <+ rules.all tree := by
  refine SourceTree.exits_sublist (fun parent child h => ?_) tree
  rw [Bool.and_eq_true] at h
  exact h.2

/-- The exits of a function: those of its body. -/
def exitsOf (function : SourceTree) : List SourceTree :=
  match function.child? "body" with
  | none => []
  | some body => if rules.nested body.kind then [] else rules.all body

/-- The exits that are found in the trees of some kinds. -/
def foundFrom (kinds : List String) (trees : List SourceTree) : List SourceTree :=
  trees.flatMap fun tree => if kinds.contains tree.kind then rules.found tree else []

/-- The site of an exit. -/
def site (tree : SourceTree) : Site :=
  .ofTree ((rules.branch? tree.kind).getD "") tree

/-- The sites at which a function is found to be left. A body that is an expression is returned. -/
def sitesOf (function : SourceTree) : List Site :=
  match function.child? "body" with
  | none => []
  | some body =>
    if body.kind == rules.block then (rules.found body).map rules.site else [.ofTree "return" body]

variable {rules}

theorem found_of_leaves {tree : SourceTree} (h : rules.leaves tree.kind = true) : rules.found tree = [tree] := by
  rw [found, SourceTree.exits_eq, if_pos h]

/-- Exits are found through children of the kinds in which they are looked for. -/
theorem found_of_kind {tree : SourceTree} {kind : String} (hkind : tree.kind = kind)
    (hleaves : rules.leaves kind = false) (hnested : ∀ child ∈ rules.reached kind, rules.nested child = false) :
    rules.found tree = rules.foundFrom (rules.reached kind) tree.children := by
  subst hkind
  rw [found, SourceTree.exits_eq, if_neg (by rw [hleaves]; decide), foundFrom]
  refine congrArg (tree.children.flatMap ·) (funext fun child => ?_)
  cases hchild : (rules.reached tree.kind).contains child.kind with
  | false => rfl
  | true =>
    rw [hnested _ (List.contains_iff_mem.1 hchild)]
    rfl

theorem foundFrom_cons (kinds : List String) (tree : SourceTree) (rest : List SourceTree) :
    rules.foundFrom kinds (tree :: rest) = rules.foundFrom kinds [tree] ++ rules.foundFrom kinds rest := by
  rw [foundFrom, foundFrom, foundFrom, List.flatMap_cons, List.flatMap_singleton]

theorem foundFrom_singleton_of_mem {kinds : List String} {tree : SourceTree} (h : tree.kind ∈ kinds) :
    rules.foundFrom kinds [tree] = rules.found tree := by
  rw [foundFrom, List.flatMap_singleton, if_pos (List.contains_iff_mem.2 h)]

theorem foundFrom_singleton_of_notMem {kinds : List String} {tree : SourceTree} (h : tree.kind ∉ kinds) :
    rules.foundFrom kinds [tree] = [] := by
  rw [foundFrom, List.flatMap_singleton, if_neg (mt List.contains_iff_mem.1 h)]

/-- The exits of a tree of a kind are those of its parts. -/
theorem foundFrom_singleton {tree : SourceTree} {kind : String} {kinds : List String} (hkind : tree.kind = kind)
    (hmem : kind ∈ kinds) (hleaves : rules.leaves kind = false)
    (hnested : ∀ child ∈ rules.reached kind, rules.nested child = false) :
    rules.foundFrom kinds [tree] = rules.foundFrom (rules.reached kind) tree.children := by
  rw [foundFrom_singleton_of_mem (hkind ▸ hmem), found_of_kind hkind hleaves hnested]

theorem foundFrom_eq_filter (kinds : List String) (trees : List SourceTree) :
    rules.foundFrom kinds trees = (trees.filter (kinds.contains ·.kind)).flatMap rules.found := by
  induction trees with
  | nil => rfl
  | cons tree rest ih =>
    rw [foundFrom_cons, ih, List.filter_cons]
    by_cases h : tree.kind ∈ kinds
    · rw [foundFrom_singleton_of_mem h, if_pos (List.contains_iff_mem.2 h), List.flatMap_cons]
    · rw [foundFrom_singleton_of_notMem h, if_neg (mt List.contains_iff_mem.1 h), List.nil_append]

theorem foundFrom_filter {kinds : List String} {p : SourceTree → Bool} {trees : List SourceTree}
    (h : ∀ tree ∈ trees, tree.kind ∈ kinds → p tree = true) :
    rules.foundFrom kinds (trees.filter p) = rules.foundFrom kinds trees := by
  rw [foundFrom_eq_filter, foundFrom_eq_filter, List.filter_filter]
  refine congrArg (List.flatMap _) (List.filter_congr fun tree htree => ?_)
  cases hkind : kinds.contains tree.kind with
  | false => rfl
  | true => rw [h tree htree (List.contains_iff_mem.1 hkind), Bool.and_self]

theorem foundFrom_of_sole {tree : SourceTree} {role : String} {kinds : List String}
    (h : tree.sole role kinds = true) :
    rules.foundFrom kinds tree.children = (tree.child? role).toList.flatMap rules.found := by
  rw [foundFrom_eq_filter, SourceTree.toList_child?_of_sole h]

/-- Kinds of children are gone through group by group. -/
theorem foundFrom_append {kinds kinds' : List String} (h : ∀ kind ∈ kinds, kind ∉ kinds')
    (trees : List SourceTree) :
    rules.foundFrom (kinds ++ kinds') trees ~ rules.foundFrom kinds trees ++ rules.foundFrom kinds' trees := by
  induction trees with
  | nil => exact .refl _
  | cons tree rest ih =>
    rw [foundFrom_cons, foundFrom_cons kinds, foundFrom_cons kinds']
    by_cases hkind : tree.kind ∈ kinds
    · rw [foundFrom_singleton_of_mem (List.mem_append_left _ hkind), foundFrom_singleton_of_mem hkind,
        foundFrom_singleton_of_notMem (h _ hkind), List.nil_append, List.append_assoc]
      exact ih.append_left _
    · rw [foundFrom_singleton_of_notMem hkind, List.nil_append]
      by_cases hkind' : tree.kind ∈ kinds'
      · rw [foundFrom_singleton_of_mem (List.mem_append_right _ hkind'), foundFrom_singleton_of_mem hkind']
        refine (ih.append_left _).trans ?_
        rw [← List.append_assoc, ← List.append_assoc]
        exact List.perm_append_comm.append_right _
      · have hneither : tree.kind ∉ kinds ++ kinds' := fun hmem => (List.mem_append.1 hmem).elim hkind hkind'
        rw [foundFrom_singleton_of_notMem hneither, foundFrom_singleton_of_notMem hkind']
        exact ih

end ExitRules

end StructuralDiff
