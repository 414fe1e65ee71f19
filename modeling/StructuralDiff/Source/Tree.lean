/-!
# Concrete trees of source files

The tree that a parser gives for a source file, with every token as a leaf. A node knows its kind, the role
it plays in its parent, its place in the file and its own text, so that nothing else of the file is needed
to work with it.
-/

namespace StructuralDiff

/-- A node of the tree of a source file. -/
structure SourceTree where
  kind : String
  /-- The role of the node in its parent. -/
  field : Option String
  /-- A node of the grammar, as opposed to a bare token. -/
  named : Bool
  /-- A node that may stand anywhere, such as a comment. -/
  extra : Bool
  /-- A piece of the file that could not be parsed. -/
  error : Bool
  /-- A node that was put in to make the rest parse. -/
  missing : Bool
  /-- The bytes that the node covers. -/
  startByte : Nat
  endByte : Nat
  /-- The lines that the node covers, counted from 0. -/
  startRow : Nat
  endRow : Nat
  /-- The text that the node covers. -/
  text : String
  children : List SourceTree
  deriving Inhabited

namespace SourceTree

mutual

/-- Whether two trees are equal. -/
def decEq : (a b : SourceTree) → Decidable (a = b)
  | ⟨kind, field, named, extra, error, missing, startByte, endByte, startRow, endRow, text, children⟩,
    ⟨kind', field', named', extra', error', missing', startByte', endByte', startRow', endRow', text', children'⟩ =>
    match decEqAll children children' with
    | isTrue hchildren =>
      decidable_of_iff
        ((kind, field, named, extra, error, missing) = (kind', field', named', extra', error', missing') ∧
          (startByte, endByte, startRow, endRow, text) = (startByte', endByte', startRow', endRow', text'))
        (by simp [hchildren, and_assoc])
    | isFalse hchildren => isFalse fun heq => hchildren (congrArg SourceTree.children heq)

/-- Whether two lists of trees are equal. -/
def decEqAll : (trees trees' : List SourceTree) → Decidable (trees = trees')
  | [], [] => isTrue rfl
  | [], _ :: _ => isFalse nofun
  | _ :: _, [] => isFalse nofun
  | tree :: rest, tree' :: rest' =>
    match decEq tree tree', decEqAll rest rest' with
    | isTrue htree, isTrue hrest => isTrue (by rw [htree, hrest])
    | isFalse htree, _ => isFalse fun heq => htree (List.cons.inj heq).1
    | _, isFalse hrest => isFalse fun heq => hrest (List.cons.inj heq).2

end

instance : DecidableEq SourceTree := decEq

/-- The first child in a role. -/
def child? (tree : SourceTree) (role : String) : Option SourceTree :=
  tree.children.find? (·.field == some role)

/-- All children in a role. -/
def childrenIn (tree : SourceTree) (role : String) : List SourceTree :=
  tree.children.filter (·.field == some role)

/-- The children that are nodes of the grammar. -/
def namedChildren (tree : SourceTree) : List SourceTree :=
  tree.children.filter (·.named)

/-- The first child that is a node of the grammar. -/
def firstNamed? (tree : SourceTree) : Option SourceTree :=
  tree.children.find? (·.named)

/-- The first and the last line of a node, counted from 1. -/
def lines (tree : SourceTree) : Nat × Nat :=
  (tree.startRow + 1, tree.endRow + 1)

theorem sizeOf_lt_of_mem {child tree : SourceTree} (h : child ∈ tree.children) :
    sizeOf child < sizeOf tree := by
  cases tree
  simp only [mk.sizeOf_spec] at h ⊢
  have := List.sizeOf_lt_of_mem h
  omega

/-- What is true of a tree when it is true of its children is true of every tree. -/
@[elab_as_elim]
theorem inductionOn {motive : SourceTree → Prop}
    (node : ∀ tree : SourceTree, (∀ child ∈ tree.children, motive child) → motive tree) (tree : SourceTree) :
    motive tree :=
  node tree fun child _ => inductionOn node child
termination_by sizeOf tree
decreasing_by exact sizeOf_lt_of_mem ‹_›

theorem sizeOf_lt_of_child? {child tree : SourceTree} {role : String}
    (h : tree.child? role = some child) : sizeOf child < sizeOf tree :=
  sizeOf_lt_of_mem (List.mem_of_find?_eq_some h)

theorem sizeOf_lt_of_firstNamed? {child tree : SourceTree}
    (h : tree.firstNamed? = some child) : sizeOf child < sizeOf tree :=
  sizeOf_lt_of_mem (List.mem_of_find?_eq_some h)

theorem sizeOf_children_lt (tree : SourceTree) : sizeOf tree.children < sizeOf tree := by
  cases tree
  simp only [mk.sizeOf_spec]
  omega

theorem sizeOf_filter_le (p : SourceTree → Bool) (trees : List SourceTree) :
    sizeOf (trees.filter p) ≤ sizeOf trees := by
  induction trees with
  | nil => simp
  | cons tree rest ih =>
    by_cases h : p tree
    · simp [List.filter_cons_of_pos h, ih]
    · rw [List.filter_cons_of_neg h]
      simp only [List.cons.sizeOf_spec]
      omega

theorem sizeOf_singleton_le_of_mem {tree : SourceTree} {trees : List SourceTree}
    (h : tree ∈ trees) : sizeOf [tree] ≤ sizeOf trees := by
  induction trees with
  | nil => cases h
  | cons head rest ih =>
    simp only [List.cons.sizeOf_spec, List.nil.sizeOf_spec] at ih ⊢
    have hpos : 1 ≤ sizeOf rest := by
      cases rest <;> simp only [List.cons.sizeOf_spec, List.nil.sizeOf_spec] <;> omega
    rcases List.mem_cons.1 h with rfl | h
    · omega
    · have := ih h
      omega

theorem sizeOf_namedChildren_lt (tree : SourceTree) :
    sizeOf tree.namedChildren < sizeOf tree :=
  Nat.lt_of_le_of_lt (sizeOf_filter_le _ _) (sizeOf_children_lt tree)

theorem one_lt_sizeOf (tree : SourceTree) : 1 < sizeOf tree := by
  have := sizeOf_children_lt tree
  have : 1 ≤ sizeOf tree.children := by
    cases tree.children <;> simp only [List.cons.sizeOf_spec, List.nil.sizeOf_spec] <;> omega
  omega

/-! ### Errors -/

/-- The node itself is an error or is missing. -/
def isBroken (tree : SourceTree) : Bool :=
  tree.error || tree.missing

mutual

/-- The node or something below it is an error or is missing. This is what the parser library documents of its own
flag for it; a missing token that is in no list of children is taken not to occur. -/
def hasError : SourceTree → Bool
  | ⟨_, _, _, _, error, missing, _, _, _, _, _, children⟩ => error || missing || anyError children

/-- One of the nodes has an error. -/
def anyError : List SourceTree → Bool
  | [] => false
  | tree :: rest => hasError tree || anyError rest

end

theorem sizeOf_append (trees others : List SourceTree) :
    sizeOf (trees ++ others) + 1 = sizeOf trees + sizeOf others := by
  induction trees with
  | nil => rw [List.nil_append, List.nil.sizeOf_spec, Nat.add_comm]
  | cons tree rest ih =>
    simp only [List.cons_append, List.cons.sizeOf_spec]
    omega

/-- The line, counted from 1, of the first error that is met on a walk through the nodes on a stack. A node
gives its place to its children, unless it is an error itself or there is none below it. -/
def searchError? : List SourceTree → Option Nat
  | [] => none
  | tree :: stack =>
    if tree.isBroken then some (tree.startRow + 1)
    else if tree.hasError then searchError? (tree.children ++ stack)
    else searchError? stack
termination_by stack => sizeOf stack
decreasing_by
  · have := sizeOf_append tree.children stack
    have := sizeOf_children_lt tree
    simp only [List.cons.sizeOf_spec]
    omega
  · simp only [List.cons.sizeOf_spec]
    omega

/-- The line of the first error of a file. -/
def firstErrorLine? (tree : SourceTree) : Option Nat :=
  if tree.hasError then some ((searchError? [tree]).getD (tree.startRow + 1)) else none

end SourceTree

end StructuralDiff
