import Mathlib.Data.List.Basic
import Mathlib.Data.Nat.Pairing
import StructuralDiff.Source.Token

/-!
# Trees without comments and places

How a source is laid out shows in its tree as places, as comments, and in the texts of the nodes above the
leaves. A bare tree has none of these: what it keeps is the code.

* `SourceTree.bare`: the tree without comments and places.
* `SourceTree.tidy`: comments stand aside, where nothing looks for code.
* `signature_bare`, `headerSignature_bare`, `symbolSignature_bare`: signatures are those of the bare tree.
* `bare_eq_of_numbered`: the places of the leaves can be numbered again.
-/

namespace StructuralDiff.SourceTree

/-! ### The bare tree -/

/-- The children that are no comments. -/
def codeChildren (tree : SourceTree) : List SourceTree :=
  tree.children.filter (!·.extra)

/-- Roles of nodes that are read as they are written. -/
def wordRoles : List String := ["name", "property", "attribute", "module_name", "source"]

/-- Kinds of nodes that are read as they are written. -/
def wordKinds : List String := ["identifier", "type_identifier", "dotted_name", "string"]

/-- Names of the object itself. -/
def selfNames : List String := ["self", "cls"]

/-- A node whose text counts: a leaf, a name or a literal. -/
def isWord (tree : SourceTree) : Bool :=
  tree.children.isEmpty || tree.field.any wordRoles.contains || wordKinds.contains tree.kind
    || selfNames.contains tree.text

mutual

/-- The tree without comments and places, in which the places of leaves are numbered. -/
def bare (number : Nat × Nat → Nat) : SourceTree → SourceTree
  | ⟨kind, field, named, extra, error, missing, startByte, endByte, startRow, endRow, text, children⟩ =>
    let word := isWord
      ⟨kind, field, named, extra, error, missing, startByte, endByte, startRow, endRow, text, children⟩
    let place := if children.isEmpty then (number (startByte, endByte), 1) else (0, 0)
    ⟨kind, field, named, extra, false, false, place.1, place.2, 0, 0, if word then text else "",
      bareAll number children⟩

/-- The trees of a list without comments and places. -/
def bareAll (number : Nat × Nat → Nat) : List SourceTree → List SourceTree
  | [] => []
  | tree :: rest => if tree.extra then bareAll number rest else bare number tree :: bareAll number rest

end

variable {number : Nat × Nat → Nat}

theorem bareAll_eq (trees : List SourceTree) :
    bareAll number trees = (trees.filter (!·.extra)).map (bare number) := by
  induction trees with
  | nil => rfl
  | cons tree rest ih =>
    rw [bareAll]
    split
    · next hextra => rw [ih, List.filter_cons_of_neg (by simp [hextra])]
    · next hextra => rw [ih, List.filter_cons_of_pos (by simpa using hextra), List.map_cons]

@[simp]
theorem kind_bare (tree : SourceTree) : (tree.bare number).kind = tree.kind := by
  cases tree
  rfl

@[simp]
theorem field_bare (tree : SourceTree) : (tree.bare number).field = tree.field := by
  cases tree
  rfl

@[simp]
theorem named_bare (tree : SourceTree) : (tree.bare number).named = tree.named := by
  cases tree
  rfl

@[simp]
theorem extra_bare (tree : SourceTree) : (tree.bare number).extra = tree.extra := by
  cases tree
  rfl

theorem children_bare (tree : SourceTree) :
    (tree.bare number).children = tree.codeChildren.map (bare number) := by
  cases tree
  exact bareAll_eq _

theorem text_bare (tree : SourceTree) :
    (tree.bare number).text = if tree.isWord then tree.text else "" := by
  cases tree
  rfl

theorem text_bare_of_isWord {tree : SourceTree} (h : tree.isWord = true) :
    (tree.bare number).text = tree.text := by
  rw [text_bare, if_pos h]

theorem text_bare_of_field {tree : SourceTree} {role : String} (h : tree.field = some role)
    (hrole : role ∈ wordRoles) : (tree.bare number).text = tree.text :=
  text_bare_of_isWord (by simp [isWord, h, hrole])

theorem text_bare_of_kind {tree : SourceTree} (h : tree.kind ∈ wordKinds) :
    (tree.bare number).text = tree.text :=
  text_bare_of_isWord (by simp [isWord, h])

theorem selfNames_contains_text_bare (tree : SourceTree) :
    selfNames.contains (tree.bare number).text = selfNames.contains tree.text := by
  rw [text_bare]
  split
  · rfl
  · next hword =>
    have hself : selfNames.contains tree.text = false := by
      simp only [isWord, Bool.or_eq_true, not_or, Bool.not_eq_true] at hword
      exact hword.2
    rw [hself]
    decide

/-! ### Comments that stand aside -/

theorem beq_of_ignored {kind other : String} (h : kind ∈ ignoredKinds) (hother : other ∉ ignoredKinds) :
    (kind == other) = false :=
  beq_false_of_ne fun heq => hother (heq ▸ h)

/-- Kinds of nodes that are looked through to the first node of the grammar in them. -/
def lookedThrough : List String :=
  ["expression_statement", "await", "await_expression", "parenthesized_expression", "decorator"]

/-- The name that a node calls, if it is a call. -/
def calledHere? (kind : String) (children : List SourceTree) : Option SourceTree :=
  if kind == "call" || kind == "call_expression" then
    (children.find? (·.field == some "function")).bind calledName?
  else none

/-- What is to hold at a node: a comment is a leaf without a role; it is not all of a name, not the first
node where that is looked for, and not an end of a parenthesized expression. The name that is called is
a leaf. -/
structure TidyHere (tree : SourceTree) : Prop where
  leaf_of_extra : tree.extra = true → tree.children = []
  field_of_extra : tree.extra = true → tree.field = none
  kind_of_extra : tree.extra = true → tree.kind ∈ ignoredKinds
  exists_of_word : tree.isWord = true → tree.children = [] ∨ ∃ child ∈ tree.children, child.extra = false
  first : tree.kind ∈ lookedThrough → ∀ child ∈ tree.firstNamed?, child.extra = false
  head : tree.kind = "parenthesized_expression" → ∀ child ∈ tree.children.head?, child.extra = false
  last : tree.kind = "parenthesized_expression" → ∀ child ∈ tree.children.getLast?, child.extra = false
  called : ∀ name ∈ calledHere? tree.kind tree.children, name.children = []

instance (tree : SourceTree) : Decidable tree.TidyHere :=
  decidable_of_iff
    ((tree.extra = true → tree.children = []) ∧ (tree.extra = true → tree.field = none) ∧
      (tree.extra = true → tree.kind ∈ ignoredKinds) ∧
      (tree.isWord = true → tree.children = [] ∨ ∃ child ∈ tree.children, child.extra = false) ∧
      (tree.kind ∈ lookedThrough → ∀ child ∈ tree.firstNamed?, child.extra = false) ∧
      (tree.kind = "parenthesized_expression" → ∀ child ∈ tree.children.head?, child.extra = false) ∧
      (tree.kind = "parenthesized_expression" → ∀ child ∈ tree.children.getLast?, child.extra = false) ∧
      ∀ name ∈ calledHere? tree.kind tree.children, name.children = [])
    ⟨fun ⟨h₁, h₂, h₃, h₄, h₅, h₆, h₇, h₈⟩ => ⟨h₁, h₂, h₃, h₄, h₅, h₆, h₇, h₈⟩,
      fun ⟨h₁, h₂, h₃, h₄, h₅, h₆, h₇, h₈⟩ => ⟨h₁, h₂, h₃, h₄, h₅, h₆, h₇, h₈⟩⟩

mutual

/-- Comments stand aside everywhere in a tree. -/
def tidy : SourceTree → Bool
  | ⟨kind, field, named, extra, error, missing, startByte, endByte, startRow, endRow, text, children⟩ =>
    decide (TidyHere
      ⟨kind, field, named, extra, error, missing, startByte, endByte, startRow, endRow, text, children⟩)
      && tidyAll children

/-- Comments stand aside in all trees of a list. -/
def tidyAll : List SourceTree → Bool
  | [] => true
  | tree :: rest => tidy tree && tidyAll rest

end

theorem tidyAll_iff {trees : List SourceTree} :
    tidyAll trees = true ↔ ∀ tree ∈ trees, tree.tidy = true := by
  induction trees with
  | nil => simp [tidyAll]
  | cons tree rest ih => rw [tidyAll, Bool.and_eq_true, ih, List.forall_mem_cons]

theorem tidy_iff {tree : SourceTree} :
    tree.tidy = true ↔ tree.TidyHere ∧ ∀ child ∈ tree.children, child.tidy = true := by
  cases tree
  rw [tidy, Bool.and_eq_true, decide_eq_true_iff, tidyAll_iff]

theorem tidyHere_of_tidy {tree : SourceTree} (h : tree.tidy = true) : tree.TidyHere :=
  (tidy_iff.1 h).1

theorem tidy_of_mem {tree child : SourceTree} (h : tree.tidy = true) (hchild : child ∈ tree.children) :
    child.tidy = true :=
  (tidy_iff.1 h).2 child hchild

theorem tidy_of_child? {tree child : SourceTree} {role : String} (h : tree.tidy = true)
    (hchild : tree.child? role = some child) : child.tidy = true :=
  tidy_of_mem h (List.mem_of_find?_eq_some hchild)

theorem tidy_of_firstNamed? {tree child : SourceTree} (h : tree.tidy = true)
    (hchild : tree.firstNamed? = some child) : child.tidy = true :=
  tidy_of_mem h (List.mem_of_find?_eq_some hchild)

/-! ### Looking for children -/

section Children

variable {tree : SourceTree} {p : SourceTree → Bool}

theorem filter_bare (hp : ∀ child : SourceTree, p (child.bare number) = p child) :
    (tree.bare number).children.filter p =
      ((tree.children.filter p).filter (!·.extra)).map (bare number) := by
  rw [children_bare, codeChildren, List.filter_map, List.filter_filter, List.filter_filter]
  congr 1
  refine List.filter_congr fun child _ => ?_
  rw [Function.comp_apply, hp, Bool.and_comm]

/-- Children that are looked for are found in the bare tree, if a comment is never meant. -/
theorem filter_children_bare (hp : ∀ child : SourceTree, p (child.bare number) = p child)
    (hextra : ∀ child ∈ tree.children, child.extra = true → p child = false) :
    (tree.bare number).children.filter p = (tree.children.filter p).map (bare number) := by
  rw [filter_bare hp, List.filter_eq_self.2]
  intro child hchild
  rw [List.mem_filter] at hchild
  cases hx : child.extra with
  | false => rfl
  | true => simp [hextra child hchild.1 hx] at hchild

theorem find?_children_bare (hp : ∀ child : SourceTree, p (child.bare number) = p child)
    (hextra : ∀ child ∈ tree.children, child.extra = true → p child = false) :
    (tree.bare number).children.find? p = (tree.children.find? p).map (bare number) := by
  rw [← List.head?_filter, filter_children_bare hp hextra, List.head?_map, List.head?_filter]

variable (h : tree.tidy = true)

include h

theorem field_of_extra {child : SourceTree} (hchild : child ∈ tree.children) (hextra : child.extra = true) :
    child.field = none :=
  (tidyHere_of_tidy (tidy_of_mem h hchild)).field_of_extra hextra

theorem kind_of_extra {child : SourceTree} (hchild : child ∈ tree.children) (hextra : child.extra = true) :
    child.kind ∈ ignoredKinds :=
  (tidyHere_of_tidy (tidy_of_mem h hchild)).kind_of_extra hextra

theorem kind_ne_of_extra {child : SourceTree} (hchild : child ∈ tree.children) (hextra : child.extra = true)
    {kind : String} (hkind : kind ∉ ignoredKinds) : child.kind ≠ kind :=
  fun heq => hkind (heq ▸ kind_of_extra h hchild hextra)

theorem child?_bare (role : String) : (tree.bare number).child? role = (tree.child? role).map (bare number) :=
  find?_children_bare (fun child => by rw [field_bare])
    fun child hchild hextra => by simp [field_of_extra h hchild hextra]

theorem childrenIn_bare (role : String) :
    (tree.bare number).childrenIn role = (tree.childrenIn role).map (bare number) :=
  filter_children_bare (fun child => by rw [field_bare])
    fun child hchild hextra => by simp [field_of_extra h hchild hextra]

omit h in
theorem namedChildren_bare : (tree.bare number).namedChildren =
    (tree.namedChildren.filter (!·.extra)).map (bare number) :=
  filter_bare named_bare

/-- Children of a kind that no comment has. -/
theorem filter_kind_bare {kind : String} (hkind : kind ∉ ignoredKinds) :
    (tree.bare number).children.filter (fun child => child.named && child.kind == kind) =
      (tree.children.filter fun child => child.named && child.kind == kind).map (bare number) :=
  filter_children_bare (fun child => by simp)
    fun child hchild hextra => by simp [kind_ne_of_extra h hchild hextra hkind]

theorem filter_namedChildren_bare {kind : String} (hkind : kind ∉ ignoredKinds) :
    (tree.bare number).namedChildren.filter (·.kind == kind) =
      (tree.namedChildren.filter (·.kind == kind)).map (bare number) := by
  have hfilter (other : SourceTree) : other.namedChildren.filter (·.kind == kind) =
      other.children.filter fun child => child.named && child.kind == kind := by
    rw [namedChildren, List.filter_filter]
    exact List.filter_congr fun child _ => Bool.and_comm _ _
  rw [hfilter, hfilter, filter_kind_bare h hkind]

theorem find?_kind_bare {kind : String} (hkind : kind ∉ ignoredKinds) :
    (tree.bare number).children.find? (fun child => child.named && child.kind == kind) =
      (tree.children.find? fun child => child.named && child.kind == kind).map (bare number) := by
  rw [← List.head?_filter, filter_kind_bare h hkind, List.head?_map, List.head?_filter]

theorem firstNamed?_bare (hkind : tree.kind ∈ lookedThrough) :
    (tree.bare number).firstNamed? = tree.firstNamed?.map (bare number) := by
  have hfirst := (tidyHere_of_tidy h).first hkind
  rw [firstNamed?, children_bare, codeChildren, List.find?_map, List.find?_filter]
  congr 1
  rw [firstNamed?] at hfirst ⊢
  cases hfound : tree.children.find? (·.named) with
  | none =>
    rw [List.find?_eq_none] at hfound ⊢
    intro child hchild
    simpa using fun _ => hfound child hchild
  | some child =>
    have hextra := hfirst child hfound
    rw [List.find?_eq_some_iff_append] at hfound ⊢
    obtain ⟨hnamed, before, after, heq, hbefore⟩ := hfound
    refine ⟨by simp [hextra, hnamed], before, after, heq, fun other hother => ?_⟩
    have hother := hbefore other hother
    simp_all

end Children

theorem field_of_child? {tree child : SourceTree} {role : String} (h : tree.child? role = some child) :
    child.field = some role := by
  simpa using List.find?_some h

/-- What is made of the text of a child in a role. -/
theorem map_child?_bare {α : Type} (f : String → α) (tree : SourceTree) {role : String}
    (hrole : role ∈ wordRoles) :
    ((tree.child? role).map (bare number)).map (fun child => f child.text) =
      (tree.child? role).map fun child => f child.text := by
  rw [Option.map_map]
  refine Option.map_congr fun child hchild => ?_
  rw [Function.comp_apply, text_bare_of_field (field_of_child? hchild) hrole]

theorem map_text_child?_bare (tree : SourceTree) {role : String} (hrole : role ∈ wordRoles) :
    ((tree.child? role).map (bare number)).map (·.text) = (tree.child? role).map (·.text) :=
  map_child?_bare id tree hrole

/-! ### Ways from a node to a node below it -/

/-- The value of an assignment of one of two kinds, or else the value itself. -/
def assigned? (plain augmented : String) (value : SourceTree) : Option SourceTree :=
  if value.kind == plain || value.kind == augmented then value.child? "right" else some value

/-- The call that is awaited, or else the call itself. -/
def awaitedCall? (await call : String) (value : SourceTree) : Option SourceTree :=
  (if value.kind == await then value.firstNamed? else some value).bind fun value =>
    if value.kind == call then some value else none

/-- The call that a value makes: as the value of an assignment, awaited, or on its own. -/
def madeCall? (plain augmented await call : String) (value : SourceTree) : Option SourceTree :=
  (assigned? plain augmented value).bind (awaitedCall? await call)

/-- The same, step by step. -/
theorem madeCall?_eq (plain augmented await call : String) (value : SourceTree) :
    madeCall? plain augmented await call value =
      let then_ (value : SourceTree) : Option SourceTree :=
        if value.kind == await then
          value.firstNamed?.bind fun value => if value.kind == call then some value else none
        else if value.kind == call then some value else none
      if value.kind == plain || value.kind == augmented then (value.child? "right").bind then_
      else then_ value := by
  have hawaited (value : SourceTree) : awaitedCall? await call value =
      if value.kind == await then
        value.firstNamed?.bind fun value => if value.kind == call then some value else none
      else if value.kind == call then some value else none := by
    rw [awaitedCall?]
    split
    · rfl
    · rfl
  rw [madeCall?, assigned?, funext hawaited]
  split
  · rfl
  · rfl

/-- The name in a function expression: the whole of it, or the member in a role of an expression of a
kind. -/
def memberName? (kind role : String) (function : SourceTree) : Option SourceTree :=
  if function.kind == "identifier" then some function
  else if function.kind == kind then function.child? role
  else none

section Ways

variable {value : SourceTree} (h : value.tidy = true)

include h

theorem assigned?_bare (plain augmented : String) :
    assigned? plain augmented (value.bare number) = (assigned? plain augmented value).map (bare number) := by
  rw [assigned?, kind_bare, child?_bare h, assigned?]
  split
  · rfl
  · rfl

theorem tidy_of_assigned? {plain augmented : String} {part : SourceTree}
    (hpart : assigned? plain augmented value = some part) : part.tidy = true := by
  rw [assigned?] at hpart
  split at hpart
  · exact tidy_of_child? h hpart
  · cases hpart
    exact h

theorem awaitedCall?_bare {await : String} (hawait : await ∈ lookedThrough) (call : String) :
    awaitedCall? await call (value.bare number) = (awaitedCall? await call value).map (bare number) := by
  have hcall (part? : Option SourceTree) :
      (part?.map (bare number)).bind (fun part => if part.kind == call then some part else none) =
        (part?.bind fun part => if part.kind == call then some part else none).map (bare number) := by
    cases part? with
    | none => rfl
    | some part => by_cases hkind : part.kind = call <;> simp [hkind]
  rw [awaitedCall?, kind_bare, awaitedCall?, ← hcall]
  split
  · next hkind => rw [firstNamed?_bare h (by simp_all)]
  · rfl

theorem tidy_of_awaitedCall? {await call : String} {part : SourceTree}
    (hpart : awaitedCall? await call value = some part) : part.tidy = true := by
  rw [awaitedCall?, Option.bind_eq_some_iff] at hpart
  obtain ⟨other, hother, hpart⟩ := hpart
  split at hpart
  · cases hpart
    split at hother
    · exact tidy_of_firstNamed? h hother
    · cases hother
      exact h
  · cases hpart

theorem madeCall?_bare (plain augmented : String) {await : String} (hawait : await ∈ lookedThrough)
    (call : String) : madeCall? plain augmented await call (value.bare number) =
      (madeCall? plain augmented await call value).map (bare number) := by
  rw [madeCall?, assigned?_bare h, Option.bind_map, madeCall?, Option.map_bind]
  refine Option.bind_congr fun part hpart => ?_
  exact awaitedCall?_bare (tidy_of_assigned? h hpart) hawait call

theorem tidy_of_madeCall? {plain augmented await call : String} {part : SourceTree}
    (hpart : madeCall? plain augmented await call value = some part) : part.tidy = true := by
  obtain ⟨other, hother, hpart⟩ := Option.bind_eq_some_iff.1 hpart
  exact tidy_of_awaitedCall? (tidy_of_assigned? h hother) hpart

theorem map_text_memberName?_bare (kind : String) {role : String} (hrole : role ∈ wordRoles) :
    (memberName? kind role (value.bare number)).map (·.text) = (memberName? kind role value).map (·.text) := by
  rw [memberName?, kind_bare, memberName?]
  split
  · next hkind => simp [text_bare_of_kind (show value.kind ∈ wordKinds by simp_all [wordKinds])]
  split
  · rw [child?_bare h]
    exact map_text_child?_bare value hrole
  · rfl

/-- The name that a call calls. -/
theorem map_text_callee_bare (kind : String) {role : String} (hrole : role ∈ wordRoles) :
    (((value.bare number).child? "function").bind (memberName? kind role)).map (·.text) =
      ((value.child? "function").bind (memberName? kind role)).map (·.text) := by
  rw [child?_bare h, Option.bind_map, Option.map_bind, Option.map_bind]
  refine Option.bind_congr fun function hfunction => ?_
  exact map_text_memberName?_bare (tidy_of_child? h hfunction) kind hrole

end Ways

/-! ### Lists of trees without the comments among them -/

section Lists

variable {α : Type} {trees : List SourceTree}

/-- What comes from each tree of a list comes from the bare trees, if comments give nothing. -/
theorem flatMap_bare {f g : SourceTree → List α}
    (hf : ∀ tree ∈ trees, tree.extra = false → f (tree.bare number) = g tree)
    (hextra : ∀ tree ∈ trees, tree.extra = true → g tree = []) :
    ((trees.filter (!·.extra)).map (bare number)).flatMap f = trees.flatMap g := by
  induction trees with
  | nil => rfl
  | cons tree rest ih =>
    rw [List.forall_mem_cons] at hf hextra
    rw [List.flatMap_cons, ← ih hf.2 hextra.2]
    cases hx : tree.extra with
    | false => rw [List.filter_cons_of_pos (by simp [hx]), List.map_cons, List.flatMap_cons, hf.1 hx]
    | true => rw [List.filter_cons_of_neg (by simp [hx]), hextra.1 hx, List.nil_append]

theorem filterMap_bare {f g : SourceTree → Option α}
    (hf : ∀ tree ∈ trees, tree.extra = false → f (tree.bare number) = g tree)
    (hextra : ∀ tree ∈ trees, tree.extra = true → g tree = none) :
    ((trees.filter (!·.extra)).map (bare number)).filterMap f = trees.filterMap g := by
  rw [List.filterMap_eq_flatMap_toList, List.filterMap_eq_flatMap_toList]
  exact flatMap_bare (fun tree htree hx => by rw [hf tree htree hx])
    fun tree htree hx => by rw [hextra tree htree hx, Option.toList_none]

theorem any_bare {p q : SourceTree → Bool}
    (hp : ∀ tree ∈ trees, tree.extra = false → p (tree.bare number) = q tree)
    (hextra : ∀ tree ∈ trees, tree.extra = true → q tree = false) :
    ((trees.filter (!·.extra)).map (bare number)).any p = trees.any q := by
  induction trees with
  | nil => rfl
  | cons tree rest ih =>
    rw [List.forall_mem_cons] at hp hextra
    rw [List.any_cons, ← ih hp.2 hextra.2]
    cases hx : tree.extra with
    | false => rw [List.filter_cons_of_pos (by simp [hx]), List.map_cons, List.any_cons, hp.1 hx]
    | true => rw [List.filter_cons_of_neg (by simp [hx]), hextra.1 hx, Bool.false_or]

/-- What is made up step by step from the trees of a list is made up from the bare trees, if comments
change nothing. -/
theorem foldl_bare {f g : α → SourceTree → α}
    (hf : ∀ tree ∈ trees, tree.extra = false → ∀ a, f a (tree.bare number) = g a tree)
    (hextra : ∀ tree ∈ trees, tree.extra = true → ∀ a, g a tree = a) (a : α) :
    ((trees.filter (!·.extra)).map (bare number)).foldl f a = trees.foldl g a := by
  induction trees generalizing a with
  | nil => rfl
  | cons tree rest ih =>
    rw [List.forall_mem_cons] at hf hextra
    rw [List.foldl_cons, ← ih hf.2 hextra.2]
    cases hx : tree.extra with
    | false => rw [List.filter_cons_of_pos (by simp [hx]), List.map_cons, List.foldl_cons, hf.1 hx]
    | true => rw [List.filter_cons_of_neg (by simp [hx]), hextra.1 hx]

end Lists

/-! ### Tokens -/

/-- The number of a place, as a place. -/
def numbered (number : Nat × Nat → Nat) (place : Nat × Nat) : Nat × Nat :=
  (number place, 1)

theorem numbered_injective (hnumber : number.Injective) : (numbered number).Injective :=
  fun _ _ h => hnumber (Prod.mk.inj h).1

/-- The bytes that a node covers. -/
def place (tree : SourceTree) : Nat × Nat :=
  (tree.startByte, tree.endByte)

theorem place_bare_of_leaf {tree : SourceTree} (h : tree.children = []) :
    (tree.bare number).place = numbered number tree.place := by
  cases tree
  obtain rfl := h
  rfl

theorem place_bare_of_ne_nil {tree : SourceTree} (h : tree.children ≠ []) :
    (tree.bare number).place = (0, 0) := by
  cases tree
  have hempty := List.isEmpty_eq_false_iff.2 h
  simp only at hempty
  simp [place, bare, hempty]

theorem maskedParts_eq_map (masked : List (Nat × Nat)) (trees : List SourceTree) :
    maskedParts masked trees = trees.map (maskedTokens masked) := by
  induction trees with
  | nil => rfl
  | cons tree rest ih => rw [maskedParts, List.map_cons, ih]

/-- The children whose tokens are those of a node. -/
def innerChildren (tree : SourceTree) : List SourceTree :=
  if isGrouped tree.kind tree.children then (tree.children.drop 1).dropLast else tree.children

theorem maskedTokens_eq (masked : List (Nat × Nat)) (tree : SourceTree) :
    maskedTokens masked tree =
      if tree.isIgnored then []
      else if tree.children.isEmpty then
        if masked.contains tree.place then [maskedCallee] else leafToken tree.text
      else tree.innerChildren.flatMap (maskedTokens masked) := by
  cases tree
  simp only [maskedTokens, isIgnored, innerChildren, place, maskedParts_eq_map]
  split
  · rfl
  split
  · rfl
  split
  · rw [← List.map_drop, ← List.map_dropLast, List.flatMap_def]
  · rw [List.flatMap_def]

theorem maskedTokens_of_extra {masked : List (Nat × Nat)} {tree : SourceTree} (h : tree.extra = true) :
    maskedTokens masked tree = [] := by
  rw [maskedTokens_eq, if_pos (by simp [isIgnored, h])]

theorem exists_of_isGrouped {kind : String} {children : List SourceTree}
    (h : isGrouped kind children = true) : kind = "parenthesized_expression" ∧
      ∃ first inner last, children = first :: (inner ++ [last]) := by
  simp only [isGrouped, Bool.and_eq_true, beq_iff_eq] at h
  obtain ⟨⟨hkind, hhead⟩, hlast⟩ := h
  refine ⟨hkind, ?_⟩
  cases children with
  | nil => simp at hhead
  | cons first rest =>
    rcases List.eq_nil_or_concat rest with rfl | ⟨inner, last, rfl⟩
    · simp at hhead hlast
      simp [hhead] at hlast
    · exact ⟨first, inner, last, by rw [List.concat_eq_append]⟩

theorem innerChildren_sublist (tree : SourceTree) : tree.innerChildren.Sublist tree.children := by
  rw [innerChildren]
  split
  · exact (List.dropLast_sublist _).trans (List.drop_sublist _ _)
  · exact .refl _

theorem head?_filter_of_head? {trees : List SourceTree} (h : ∀ tree ∈ trees.head?, tree.extra = false) :
    (trees.filter (!·.extra)).head? = trees.head? := by
  cases trees with
  | nil => rfl
  | cons tree rest => rw [List.filter_cons_of_pos (by simpa using h tree rfl), List.head?_cons, List.head?_cons]

theorem getLast?_filter_of_getLast? {trees : List SourceTree}
    (h : ∀ tree ∈ trees.getLast?, tree.extra = false) :
    (trees.filter (!·.extra)).getLast? = trees.getLast? := by
  rw [← List.head?_reverse, ← List.head?_reverse, ← List.filter_reverse]
  exact head?_filter_of_head? (by rwa [List.head?_reverse])

theorem isGrouped_bare {tree : SourceTree} (h : tree.TidyHere) :
    isGrouped tree.kind (tree.bare number).children = isGrouped tree.kind tree.children := by
  by_cases hkind : tree.kind = "parenthesized_expression"
  · simp only [isGrouped, children_bare, codeChildren, List.head?_map, List.getLast?_map, Option.map_map,
      head?_filter_of_head? (h.head hkind), getLast?_filter_of_getLast? (h.last hkind)]
    simp [Function.comp_def]
  · simp [isGrouped, beq_false_of_ne hkind]

theorem innerChildren_bare {tree : SourceTree} (h : tree.TidyHere) :
    (tree.bare number).innerChildren = (tree.innerChildren.filter (!·.extra)).map (bare number) := by
  rw [innerChildren, kind_bare, isGrouped_bare h, innerChildren]
  split
  · next hgrouped =>
    obtain ⟨hkind, first, inner, last, hchildren⟩ := exists_of_isGrouped hgrouped
    have hfirst : first.extra = false := h.head hkind first (by simp [hchildren])
    have hlast : last.extra = false := h.last hkind last (by simp [hchildren, List.getLast?_cons])
    simp [children_bare, codeChildren, hchildren, hfirst, hlast, List.filter_append]
  · exact children_bare tree

/-- A node with nothing but comments in it is no name and no literal. -/
theorem text_bare_of_comments {tree : SourceTree} (h : tree.TidyHere) (hchildren : tree.children ≠ [])
    (hbare : (tree.bare number).children = []) : (tree.bare number).text = "" := by
  rw [text_bare, if_neg]
  intro hword
  obtain ⟨child, hchild, hextra⟩ := (h.exists_of_word hword).resolve_left hchildren
  have hmem : child.bare number ∈ (tree.bare number).children := by
    rw [children_bare]
    exact List.mem_map_of_mem (List.mem_filter.2 ⟨hchild, by simp [hextra]⟩)
  rw [hbare] at hmem
  cases hmem

theorem contains_map_numbered (hnumber : number.Injective) (masked : List (Nat × Nat)) (p : Nat × Nat) :
    (masked.map (numbered number)).contains (numbered number p) = masked.contains p := by
  rw [Bool.eq_iff_iff, List.contains_iff_mem, List.contains_iff_mem,
    List.mem_map_of_injective (numbered_injective hnumber)]

theorem not_contains_map_numbered (masked : List (Nat × Nat)) :
    (masked.map (numbered number)).contains (0, 0) = false := by
  rw [Bool.eq_false_iff]
  intro hmem
  rw [List.contains_iff_mem, List.mem_map] at hmem
  obtain ⟨p, -, heq⟩ := hmem
  exact absurd (Prod.mk.inj heq).2 (by decide)

/-- **The tokens of a tree are those of the bare tree.** -/
theorem maskedTokens_bare (hnumber : number.Injective) (masked : List (Nat × Nat)) {tree : SourceTree}
    (h : tree.tidy = true) :
    maskedTokens (masked.map (numbered number)) (tree.bare number) = maskedTokens masked tree := by
  have ih : ∀ child ∈ tree.children,
      maskedTokens (masked.map (numbered number)) (child.bare number) = maskedTokens masked child :=
    fun child hchild => maskedTokens_bare hnumber masked (tidy_of_mem h hchild)
  have hinner : (tree.bare number).innerChildren.flatMap
      (maskedTokens (masked.map (numbered number))) = tree.innerChildren.flatMap (maskedTokens masked) := by
    rw [innerChildren_bare (tidyHere_of_tidy h)]
    exact flatMap_bare (fun child hchild _ => ih child (tree.innerChildren_sublist.subset hchild))
      fun child _ hextra => maskedTokens_of_extra hextra
  rw [maskedTokens_eq, maskedTokens_eq masked, isIgnored, extra_bare, kind_bare, isIgnored]
  split
  · rfl
  by_cases hleaf : tree.children = []
  · rw [place_bare_of_leaf hleaf, contains_map_numbered hnumber,
      text_bare_of_isWord (by simp [isWord, hleaf])]
    simp [children_bare, codeChildren, hleaf]
  rw [← hinner, if_neg (by simpa using hleaf) (c := tree.children.isEmpty = true)]
  split
  -- Without its comments, a node with nothing else in it is a leaf; it is not masked and has no text.
  · next hempty =>
    have hnil : (tree.bare number).children = [] := List.isEmpty_iff.1 hempty
    have htrim : Text.trim "" = "" := by decide
    rw [place_bare_of_ne_nil hleaf, not_contains_map_numbered,
      text_bare_of_comments (tidyHere_of_tidy h) hleaf hnil, innerChildren, hnil]
    simp [leafToken, isGrouped, htrim]
  · rfl
termination_by sizeOf tree
decreasing_by exact sizeOf_lt_of_mem hchild

theorem tokens_bare (hnumber : number.Injective) {tree : SourceTree} (h : tree.tidy = true) :
    (tree.bare number).tokens = tree.tokens :=
  maskedTokens_bare hnumber [] h

theorem signature_bare (hnumber : number.Injective) {tree : SourceTree} (h : tree.tidy = true) :
    (tree.bare number).signature = tree.signature := by
  rw [signature, stream, tokens_bare hnumber h, signature, stream]

/-- A node with nothing but comments in it has no tokens. -/
theorem tokens_of_comments {tree : SourceTree} (hchildren : tree.children ≠ [])
    (hbare : (tree.bare number).children = []) : tree.tokens = [] := by
  rw [children_bare, List.map_eq_nil_iff, codeChildren, List.filter_eq_nil_iff] at hbare
  rw [tokens, maskedTokens_eq]
  split
  · rfl
  rw [if_neg (by simpa using hchildren), List.flatMap_eq_nil_iff]
  intro child hchild
  exact maskedTokens_of_extra (by simpa using hbare child (tree.innerChildren_sublist.subset hchild))

theorem headerSignature_bare (hnumber : number.Injective) {tree : SourceTree} (h : tree.tidy = true) :
    (tree.bare number).headerSignature = tree.headerSignature := by
  have hparts : ((tree.bare number).children.filter (!·.isBody)).flatMap tokens =
      (tree.children.filter (!·.isBody)).flatMap tokens := by
    rw [filter_bare fun child => by simp [isBody]]
    exact flatMap_bare
      (fun child hchild _ => tokens_bare hnumber (tidy_of_mem h (List.mem_filter.1 hchild).1))
      fun child _ hextra => maskedTokens_of_extra hextra
  rw [headerSignature, headerStream, headerSignature, headerStream, ← hparts, stream,
    tokens_bare hnumber h, stream]
  by_cases hleaf : tree.children = []
  · simp [children_bare, codeChildren, hleaf]
  by_cases hbare : (tree.bare number).children = []
  · simp [hleaf, hbare, tokens_of_comments hleaf hbare]
  · simp [hleaf, hbare]

theorem calledName?_bare {function : SourceTree} (h : function.tidy = true) :
    calledName? (function.bare number) = (calledName? function).map (bare number) := by
  simp only [calledName?, kind_bare, child?_bare h]
  split
  · rfl
  split
  · rfl
  split
  · rfl
  · rfl

theorem calleePlaces_eq (tree : SourceTree) : calleePlaces tree =
    ((calledHere? tree.kind tree.children).map place).toList ++ tree.children.flatMap calleePlaces := by
  have hall (trees : List SourceTree) : calleePlacesAll trees = trees.flatMap calleePlaces := by
    induction trees with
    | nil => rfl
    | cons tree rest ih => rw [calleePlacesAll, List.flatMap_cons, ih]
  cases tree
  simp only [calleePlaces, calledHere?, hall]
  split
  · rfl
  · rfl

theorem calledHere?_bare {tree : SourceTree} (h : tree.tidy = true) :
    calledHere? (tree.bare number).kind (tree.bare number).children =
      (calledHere? tree.kind tree.children).map (bare number) := by
  have hfunction : (tree.bare number).child? "function" = (tree.child? "function").map (bare number) :=
    child?_bare h "function"
  simp only [child?] at hfunction
  simp only [calledHere?, kind_bare, hfunction]
  split
  · cases hfound : tree.children.find? (·.field == some "function") with
    | none => rfl
    | some function => exact calledName?_bare (tidy_of_child? h hfound)
  · rfl

/-- The names that are called in the bare tree are those that are called in the tree. -/
theorem calleePlaces_bare {tree : SourceTree} (h : tree.tidy = true) :
    calleePlaces (tree.bare number) = (calleePlaces tree).map (numbered number) := by
  have ih : ∀ child ∈ tree.children,
      calleePlaces (child.bare number) = (calleePlaces child).map (numbered number) :=
    fun child hchild => calleePlaces_bare (tidy_of_mem h hchild)
  rw [calleePlaces_eq, calledHere?_bare h, children_bare, calleePlaces_eq tree, List.map_append,
    List.map_flatMap]
  congr 1
  · cases hcalled : calledHere? tree.kind tree.children with
    | none => rfl
    | some name =>
      have hleaf := (tidyHere_of_tidy h).called name hcalled
      simp [place_bare_of_leaf hleaf]
  · refine flatMap_bare (fun child hchild _ => ih child hchild) fun child hchild hextra => ?_
    have htidy := tidyHere_of_tidy (tidy_of_mem h hchild)
    rw [calleePlaces_eq, htidy.leaf_of_extra hextra]
    simp [calledHere?]
termination_by sizeOf tree
decreasing_by exact sizeOf_lt_of_mem hchild

theorem symbolSignature_bare (hnumber : number.Injective) {tree : SourceTree} (h : tree.tidy = true) :
    (tree.bare number).symbolSignature = tree.symbolSignature := by
  rw [symbolSignature, symbolStream, calleePlaces_bare h, maskedTokens_bare hnumber _ h, symbolSignature,
    symbolStream]

/-! ### Numbering the leaves -/

mutual

/-- The places of the leaves, comments apart. -/
def leafPlaces : SourceTree → List (Nat × Nat)
  | ⟨_, _, _, _, _, _, startByte, endByte, _, _, _, children⟩ =>
    if children.all (·.extra) then [(startByte, endByte)] else leafPlacesAll children

/-- The places of the leaves of a list of trees. -/
def leafPlacesAll : List SourceTree → List (Nat × Nat)
  | [] => []
  | tree :: rest => if tree.extra then leafPlacesAll rest else leafPlaces tree ++ leafPlacesAll rest

end

theorem leafPlaces_eq (tree : SourceTree) : leafPlaces tree =
    if tree.codeChildren = [] then [tree.place] else tree.codeChildren.flatMap leafPlaces := by
  have hall (trees : List SourceTree) :
      leafPlacesAll trees = (trees.filter (!·.extra)).flatMap leafPlaces := by
    induction trees with
    | nil => rfl
    | cons tree rest ih =>
      rw [leafPlacesAll]
      split
      · next hextra => rw [ih, List.filter_cons_of_neg (by simp [hextra])]
      · next hextra => rw [ih, List.filter_cons_of_pos (by simpa using hextra), List.flatMap_cons]
  cases tree
  simp [leafPlaces, codeChildren, hall, place]

theorem bare_eq (tree : SourceTree) : tree.bare number =
    { kind := tree.kind, field := tree.field, named := tree.named, extra := tree.extra
      error := false, missing := false
      startByte := if tree.children.isEmpty then number tree.place else 0
      endByte := if tree.children.isEmpty then 1 else 0
      startRow := 0, endRow := 0, text := if tree.isWord then tree.text else ""
      children := tree.codeChildren.map (bare number) } := by
  cases tree with
  | mk kind field named extra error missing startByte endByte startRow endRow text children =>
    rw [bare, bareAll_eq]
    simp only [codeChildren, place]
    split
    · rfl
    · rfl

theorem codeChildren_bare (tree : SourceTree) :
    (tree.bare number).codeChildren = tree.codeChildren.map (bare number) := by
  rw [codeChildren, children_bare, List.filter_eq_self.2 fun child hchild => ?_]
  obtain ⟨child, hcode, rfl⟩ := List.mem_map.1 hchild
  simpa using (List.mem_filter.1 hcode).2

theorem length_leafPlaces_bare (number : Nat × Nat → Nat) (tree : SourceTree) :
    (leafPlaces (tree.bare number)).length = (leafPlaces tree).length := by
  have ih : ∀ child ∈ tree.codeChildren,
      (leafPlaces (child.bare number)).length = (leafPlaces child).length :=
    fun child hchild => length_leafPlaces_bare number child
  rw [leafPlaces_eq, leafPlaces_eq tree, codeChildren_bare]
  by_cases hnil : tree.codeChildren = []
  · simp [hnil]
  · simp only [List.map_eq_nil_iff, hnil, if_false, List.length_flatMap, List.map_map]
    congr 1
    exact List.map_congr_left ih
termination_by sizeOf tree
decreasing_by exact sizeOf_lt_of_mem (List.mem_filter.1 hchild).1

section Numbering

variable {zero zero' number' : Nat × Nat → Nat}

theorem map_bare_eq_of_numbered {xs ys : List SourceTree}
    (hbare : xs.map (bare zero) = ys.map (bare zero'))
    (hplaces : (xs.flatMap leafPlaces).map number = (ys.flatMap leafPlaces).map number')
    (ih : ∀ x ∈ xs, ∀ y : SourceTree, x.bare zero = y.bare zero' →
      (leafPlaces x).map number = (leafPlaces y).map number' → x.bare number = y.bare number') :
    xs.map (bare number) = ys.map (bare number') := by
  induction xs generalizing ys with
  | nil =>
    cases ys with
    | nil => rfl
    | cons y ys => simp at hbare
  | cons x xs ihxs =>
    cases ys with
    | nil => simp at hbare
    | cons y ys =>
      rw [List.forall_mem_cons] at ih
      rw [List.map_cons, List.map_cons, List.cons.injEq] at hbare
      have hlength : (leafPlaces x).length = (leafPlaces y).length := by
        rw [← length_leafPlaces_bare zero, hbare.1, length_leafPlaces_bare]
      rw [List.flatMap_cons, List.flatMap_cons, List.map_append, List.map_append] at hplaces
      obtain ⟨hx, hxs⟩ := List.append_inj hplaces (by simpa using hlength)
      rw [List.map_cons, List.map_cons, ih.1 y hbare.1 hx, ihxs hbare.2 hxs ih.2]

/-- **The places of the leaves can be numbered again**: trees that are equal apart from the numbers of
their leaves are equal when the leaves have the same numbers. -/
theorem bare_eq_of_numbered {a b : SourceTree} (hbare : a.bare zero = b.bare zero')
    (hplaces : (leafPlaces a).map number = (leafPlaces b).map number') :
    a.bare number = b.bare number' := by
  have ih : ∀ x ∈ a.codeChildren, ∀ y : SourceTree, x.bare zero = y.bare zero' →
      (leafPlaces x).map number = (leafPlaces y).map number' → x.bare number = y.bare number' :=
    fun x hx y hxy hplaces => bare_eq_of_numbered hxy hplaces
  rw [bare_eq, bare_eq b] at hbare
  rw [bare_eq, bare_eq b]
  injection hbare with hkind hfield hnamed hextra _ _ _ hend _ _ htext hchildren
  have hempty : a.children.isEmpty = b.children.isEmpty := by
    cases ha : a.children.isEmpty <;> cases hb : b.children.isEmpty <;> simp [ha, hb] at hend ⊢
  have hnil : a.codeChildren = [] ↔ b.codeChildren = [] := by
    rw [← List.map_eq_nil_iff (f := bare zero), hchildren, List.map_eq_nil_iff]
  rw [leafPlaces_eq, leafPlaces_eq b] at hplaces
  -- a leaf has its own place; an inner node has none, and its children share out the places
  by_cases ha : a.codeChildren = []
  · have hb := hnil.1 ha
    simp only [ha, hb, if_true, List.map_cons, List.map_nil, List.cons.injEq, and_true] at hplaces
    simp only [hkind, hfield, hnamed, hextra, htext, hempty, hplaces, ha, hb, List.map_nil]
  · have hb := mt hnil.2 ha
    simp only [ha, hb, if_false] at hplaces
    have hinner (tree : SourceTree) (h : tree.codeChildren ≠ []) : tree.children.isEmpty = false := by
      rw [List.isEmpty_eq_false_iff]
      intro hnil
      exact h (by simp [codeChildren, hnil])
    simp only [hkind, hfield, hnamed, hextra, htext, hinner a ha, hinner b hb,
      map_bare_eq_of_numbered hchildren hplaces ih]
    rfl
termination_by sizeOf a
decreasing_by exact sizeOf_lt_of_mem (List.mem_filter.1 hx).1

/-- The number of a place: even for those of a list, odd for the others. -/
def numberOf (places : List (Nat × Nat)) (place : Nat × Nat) : Nat :=
  if place ∈ places then 2 * places.idxOf place else 2 * Nat.pair place.1 place.2 + 1

theorem numberOf_injective (places : List (Nat × Nat)) : (numberOf places).Injective := by
  intro p q h
  unfold numberOf at h
  split at h
  · next hp =>
    split at h
    · exact (List.idxOf_inj hp).1 (by omega)
    · omega
  · split at h
    · omega
    · have hpair : Nat.pair p.1 p.2 = Nat.pair q.1 q.2 := by omega
      exact Prod.ext_iff.2 (Nat.pair_eq_pair.1 hpair)

theorem map_numberOf {places : List (Nat × Nat)} (h : places.Nodup) :
    places.map (numberOf places) = (List.range places.length).map (2 * ·) := by
  refine List.ext_getElem (by simp) fun i hi _ => ?_
  rw [List.length_map] at hi
  simp [numberOf, h.idxOf_getElem]

/-- Trees that are equal without comments and places are equal for some numbering of their leaves, if no
two leaves of a tree are at the same place. -/
theorem exists_bare_eq {a b : SourceTree} (hbare : a.bare zero = b.bare zero')
    (ha : (leafPlaces a).Nodup) (hb : (leafPlaces b).Nodup) :
    ∃ number number' : Nat × Nat → Nat, number.Injective ∧ number'.Injective ∧
      a.bare number = b.bare number' := by
  refine ⟨numberOf (leafPlaces a), numberOf (leafPlaces b), numberOf_injective _, numberOf_injective _, ?_⟩
  refine bare_eq_of_numbered hbare ?_
  have hlength : (leafPlaces a).length = (leafPlaces b).length := by
    rw [← length_leafPlaces_bare zero, hbare, length_leafPlaces_bare]
  rw [map_numberOf ha, map_numberOf hb, hlength]

end Numbering

end StructuralDiff.SourceTree
