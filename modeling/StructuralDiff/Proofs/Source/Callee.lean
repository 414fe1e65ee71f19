import Mathlib.Data.List.Infix
import Mathlib.Data.List.Nodup
import StructuralDiff.Proofs.Source.Bare
import StructuralDiff.Proofs.Source.Stream

/-!
# Names of callees

The names of callees are masked by their places in the file, which are collected from the whole tree first. When
such a name changes, all places after it change as well, so names are followed by the way to them in the tree.

* `SourceTree.Spot`: a node of a tree together with the way to it.
* `SourceTree.tokenSpots`, `SourceTree.calledSpots`: the leaves that give tokens, and the names that are called.
* `SourceTree.maskedTokens_eq_map`: the tokens of a symbol are those of the tree with the called names masked.
* `SourceTree.symbolSignature_eq_of_renamed`: so renaming what is called does not change the signature of a symbol.
-/

namespace StructuralDiff.SourceTree

/-! ### Spots -/

/-- A node of a tree, with the numbers of the children on the way to it. -/
structure Spot where
  path : List Nat
  tree : SourceTree

/-- The spot as it is seen from above, when it is below the child with the number `i`. -/
def Spot.under (i : Nat) (spot : Spot) : Spot :=
  { spot with path := i :: spot.path }

/-- The node to which a way leads. -/
def at? : SourceTree → List Nat → Option SourceTree
  | tree, [] => some tree
  | tree, i :: path => tree.children[i]?.bind (at? · path)

mutual

/-- All leaves. -/
def leafSpots : SourceTree → List Spot
  | tree@⟨_, _, _, _, _, _, _, _, _, _, _, children⟩ =>
    if children.isEmpty then [⟨[], tree⟩] else (leafParts 0 children).flatten

/-- The leaves of each tree of a list that is numbered from `i` on. -/
def leafParts (i : Nat) : List SourceTree → List (List Spot)
  | [] => []
  | tree :: rest => (leafSpots tree).map (.under i) :: leafParts (i + 1) rest

end

mutual

/-- The leaves whose texts are tokens: ignored nodes and the parentheses of groups are left out. -/
def tokenSpots : SourceTree → List Spot
  | tree@⟨kind, _, _, extra, _, _, _, _, _, _, _, children⟩ =>
    if extra || ignoredKinds.contains kind then []
    else if children.isEmpty then [⟨[], tree⟩]
    else
      let parts := tokenParts 0 children
      (if isGrouped kind children then (parts.drop 1).dropLast else parts).flatten

/-- The same for each tree of a list that is numbered from `i` on. -/
def tokenParts (i : Nat) : List SourceTree → List (List Spot)
  | [] => []
  | tree :: rest => (tokenSpots tree).map (.under i) :: tokenParts (i + 1) rest

end

/-- The first child in a role. -/
def roleSpot? (role : String) (children : List SourceTree) : Option Spot :=
  (children.zipIdx.find? (·.1.field == some role)).map fun entry => ⟨[entry.2], entry.1⟩

/-- The name in a function expression. -/
def nameSpot? (function : SourceTree) : Option Spot :=
  if function.kind == "identifier" then some ⟨[], function⟩
  else if function.kind == "attribute" then roleSpot? "attribute" function.children
  else if function.kind == "member_expression" then roleSpot? "property" function.children
  else none

/-- The name that a node calls, if it is a call. -/
def calledSpot? (kind : String) (children : List SourceTree) : Option Spot :=
  if kind == "call" || kind == "call_expression" then
    (roleSpot? "function" children).bind fun function =>
      (nameSpot? function.tree).map fun name => { name with path := function.path ++ name.path }
  else none

mutual

/-- The names that are called anywhere in a tree. -/
def calledSpots : SourceTree → List Spot
  | ⟨kind, _, _, _, _, _, _, _, _, _, _, children⟩ =>
    (calledSpot? kind children).toList ++ (calledParts 0 children).flatten

/-- The same for each tree of a list that is numbered from `i` on. -/
def calledParts (i : Nat) : List SourceTree → List (List Spot)
  | [] => []
  | tree :: rest => (calledSpots tree).map (.under i) :: calledParts (i + 1) rest

end

/-- The ways to the names that are called in a tree. -/
def calledPaths (tree : SourceTree) : List (List Nat) :=
  (calledSpots tree).map (·.path)

/-- The tokens of a tree before trailing commas are dropped, each with the way to its leaf. -/
def spottedTokens (tree : SourceTree) : List (List Nat × String) :=
  ((tokenSpots tree).map fun spot => (spot.path, Text.trim spot.tree.text)).filter (·.2 != "")

/-! ### Spots below the children -/

/-- What is found in each tree of a list that is numbered from `i` on. -/
def partsFrom (find : SourceTree → List Spot) (i : Nat) (trees : List SourceTree) : List (List Spot) :=
  (trees.zipIdx i).map fun entry => (find entry.1).map (.under entry.2)

variable {tree : SourceTree} {spot : Spot}

theorem leafSpots_eq (tree : SourceTree) : leafSpots tree =
    if tree.children.isEmpty then [⟨[], tree⟩] else (partsFrom leafSpots 0 tree.children).flatten := by
  have hparts (i : Nat) (trees : List SourceTree) : leafParts i trees = partsFrom leafSpots i trees := by
    induction trees generalizing i with
    | nil => rfl
    | cons tree rest ih => rw [leafParts, ih]; rfl
  cases tree
  rw [leafSpots, hparts]

theorem tokenSpots_eq (tree : SourceTree) : tokenSpots tree =
    if tree.isIgnored then [] else if tree.children.isEmpty then [⟨[], tree⟩]
    else (if isGrouped tree.kind tree.children then ((partsFrom tokenSpots 0 tree.children).drop 1).dropLast
      else partsFrom tokenSpots 0 tree.children).flatten := by
  have hparts (i : Nat) (trees : List SourceTree) : tokenParts i trees = partsFrom tokenSpots i trees := by
    induction trees generalizing i with
    | nil => rfl
    | cons tree rest ih => rw [tokenParts, ih]; rfl
  cases tree
  rw [tokenSpots, hparts]
  rfl

theorem calledSpots_eq (tree : SourceTree) : calledSpots tree =
    (calledSpot? tree.kind tree.children).toList ++ (partsFrom calledSpots 0 tree.children).flatten := by
  have hparts (i : Nat) (trees : List SourceTree) : calledParts i trees = partsFrom calledSpots i trees := by
    induction trees generalizing i with
    | nil => rfl
    | cons tree rest ih => rw [calledParts, ih]; rfl
  cases tree
  rw [calledSpots, hparts]

theorem mem_partsFrom {find : SourceTree → List Spot} {trees : List SourceTree} :
    spot ∈ (partsFrom find 0 trees).flatten ↔
      ∃ i child, trees[i]? = some child ∧ ∃ inner ∈ find child, inner.under i = spot := by
  simp only [partsFrom, List.mem_flatten, List.mem_map, Prod.exists, List.mem_zipIdx_iff_getElem?]
  constructor
  · rintro ⟨_, ⟨child, i, hchild, rfl⟩, hspot⟩
    exact ⟨i, child, hchild, List.mem_map.1 hspot⟩
  · rintro ⟨i, child, hchild, hspot⟩
    exact ⟨_, ⟨child, i, hchild, rfl⟩, List.mem_map.2 hspot⟩

/-- The leaves are the nodes without children. -/
theorem mem_leafSpots_iff (tree : SourceTree) (spot : Spot) :
    spot ∈ leafSpots tree ↔ tree.at? spot.path = some spot.tree ∧ spot.tree.children = [] := by
  obtain ⟨path, leaf⟩ := spot
  rw [leafSpots_eq]
  by_cases hleaf : tree.children = []
  · rw [hleaf, List.isEmpty_nil, if_pos rfl, List.mem_singleton, Spot.mk.injEq]
    constructor
    · rintro ⟨rfl, rfl⟩
      exact ⟨rfl, hleaf⟩
    · rintro ⟨hat, -⟩
      cases path with
      | nil => exact ⟨rfl, (Option.some.inj hat).symm⟩
      | cons i path => simp [at?, hleaf] at hat
  · -- The first step of the way says below which child the leaf is.
    rw [if_neg (by simpa using hleaf), mem_partsFrom]
    constructor
    · rintro ⟨i, child, hchild, inner, hinner, heq⟩
      obtain ⟨hat, hleaf⟩ := (mem_leafSpots_iff child inner).1 hinner
      cases heq
      exact ⟨Option.bind_eq_some_iff.2 ⟨child, hchild, hat⟩, hleaf⟩
    · rintro ⟨hat, hspot⟩
      cases path with
      | nil => exact absurd ((congrArg children (Option.some.inj hat)).trans hspot) hleaf
      | cons i path =>
        obtain ⟨child, hchild, hat⟩ := Option.bind_eq_some_iff.1 hat
        exact ⟨i, child, hchild, ⟨path, leaf⟩, (mem_leafSpots_iff child ⟨path, leaf⟩).2 ⟨hat, hspot⟩, rfl⟩
termination_by sizeOf tree
decreasing_by all_goals exact sizeOf_lt_of_mem (List.mem_of_getElem? hchild)

/-- What gives a token is a leaf. -/
theorem mem_leafSpots_of_mem_tokenSpots {tree : SourceTree} {spot : Spot} (h : spot ∈ tokenSpots tree) :
    spot ∈ leafSpots tree := by
  rw [tokenSpots_eq] at h
  rw [leafSpots_eq]
  split at h
  · cases h
  split at h
  · next hleaf => rwa [if_pos hleaf]
  · next hleaf =>
    have hmem : spot ∈ (partsFrom tokenSpots 0 tree.children).flatten := by
      obtain ⟨part, hpart, hspot⟩ := List.mem_flatten.1 h
      refine List.mem_flatten.2 ⟨part, ?_, hspot⟩
      split at hpart
      · exact List.mem_of_mem_drop (List.mem_of_mem_dropLast hpart)
      · exact hpart
    obtain ⟨i, child, hchild, inner, hinner, rfl⟩ := mem_partsFrom.1 hmem
    rw [if_neg hleaf]
    exact mem_partsFrom.2 ⟨i, child, hchild, inner, mem_leafSpots_of_mem_tokenSpots hinner, rfl⟩
termination_by sizeOf tree
decreasing_by exact sizeOf_lt_of_mem (List.mem_of_getElem? hchild)

/-! ### Called names -/

theorem at?_roleSpot? {role : String} (h : roleSpot? role tree.children = some spot) :
    tree.at? spot.path = some spot.tree := by
  obtain ⟨⟨child, i⟩, hfound, rfl⟩ := Option.map_eq_some_iff.1 h
  have hchild := List.mem_zipIdx_iff_getElem?.1 (List.mem_of_find?_eq_some hfound)
  rw [at?, hchild]
  rfl

theorem at?_append {child : SourceTree} {path : List Nat} (h : tree.at? path = some child) (rest : List Nat) :
    tree.at? (path ++ rest) = child.at? rest := by
  induction path generalizing tree with
  | nil => rw [List.nil_append, Option.some.inj h]
  | cons i path ih =>
    obtain ⟨next, hnext, hat⟩ := Option.bind_eq_some_iff.1 h
    rw [List.cons_append, at?, hnext]
    exact ih hat

theorem at?_nameSpot? {function : SourceTree} (h : nameSpot? function = some spot) :
    function.at? spot.path = some spot.tree := by
  unfold nameSpot? at h
  split at h
  · cases h
    rfl
  split at h
  · exact at?_roleSpot? h
  split at h
  · exact at?_roleSpot? h
  · cases h

theorem at?_calledSpot? (h : calledSpot? tree.kind tree.children = some spot) :
    tree.at? spot.path = some spot.tree := by
  unfold calledSpot? at h
  split at h
  · obtain ⟨function, hfunction, h⟩ := Option.bind_eq_some_iff.1 h
    obtain ⟨name, hname, rfl⟩ := Option.map_eq_some_iff.1 h
    rw [at?_append (at?_roleSpot? hfunction)]
    exact at?_nameSpot? hname
  · cases h

/-- A called name is where the way to it leads. -/
theorem at?_of_mem_calledSpots {tree : SourceTree} {spot : Spot} (h : spot ∈ calledSpots tree) :
    tree.at? spot.path = some spot.tree := by
  rw [calledSpots_eq, List.mem_append] at h
  rcases h with h | h
  · exact at?_calledSpot? (Option.mem_toList.1 h)
  · obtain ⟨i, child, hchild, inner, hinner, rfl⟩ := mem_partsFrom.1 h
    exact Option.bind_eq_some_iff.2 ⟨child, hchild, at?_of_mem_calledSpots hinner⟩
termination_by sizeOf tree
decreasing_by exact sizeOf_lt_of_mem (List.mem_of_getElem? hchild)

theorem map_tree_roleSpot? (role : String) (children : List SourceTree) :
    (roleSpot? role children).map (·.tree) = children.find? (·.field == some role) := by
  have hfind (i : Nat) : ((children.zipIdx i).find? (·.1.field == some role)).map (·.1) =
      children.find? (·.field == some role) := by
    induction children generalizing i with
    | nil => rfl
    | cons child rest ih =>
      rw [List.zipIdx_cons, List.find?_cons, List.find?_cons]
      cases child.field == some role
      · exact ih (i + 1)
      · rfl
  rw [roleSpot?, Option.map_map, ← hfind 0]
  rfl

theorem map_tree_nameSpot? (function : SourceTree) :
    (nameSpot? function).map (·.tree) = calledName? function := by
  unfold nameSpot? calledName?
  split
  · rfl
  split
  · exact map_tree_roleSpot? _ _
  split
  · exact map_tree_roleSpot? _ _
  · rfl

theorem map_tree_calledSpot? (kind : String) (children : List SourceTree) :
    (calledSpot? kind children).map (·.tree) = calledHere? kind children := by
  unfold calledSpot? calledHere?
  split
  · rw [← map_tree_roleSpot?]
    cases roleSpot? "function" children with
    | none => rfl
    | some function =>
      rw [Option.map_some, Option.bind_some, Option.bind_some, Option.map_map, ← map_tree_nameSpot?]
      rfl
  · rfl

/-- The masked places are those of the called names. -/
theorem calleePlaces_eq_map (tree : SourceTree) :
    calleePlaces tree = (calledSpots tree).map fun spot => spot.tree.place := by
  -- By induction on the children that are left, which are numbered from any number on.
  have hparts (i : Nat) (trees : List SourceTree) (htrees : ∀ child ∈ trees, child ∈ tree.children) :
      (partsFrom calledSpots i trees).flatten.map (fun spot => spot.tree.place) = trees.flatMap calleePlaces := by
    induction trees generalizing i with
    | nil => rfl
    | cons child rest ih =>
      rw [List.forall_mem_cons] at htrees
      have hchild := sizeOf_lt_of_mem htrees.1
      rw [List.flatMap_cons, ← ih (i + 1) htrees.2, calleePlaces_eq_map child, partsFrom, List.zipIdx_cons,
        List.map_cons, List.flatten_cons, List.map_append, List.map_map]
      rfl
  rw [calleePlaces_eq, calledSpots_eq, List.map_append, hparts 0 _ fun _ h => h, ← map_tree_calledSpot?]
  cases calledSpot? tree.kind tree.children <;> rfl
termination_by sizeOf tree

/-! ### Masked tokens -/

/-- The tokens of a tree are read off its leaves one by one. -/
theorem maskedTokens_eq_flatMap (masked : List (Nat × Nat)) (tree : SourceTree) :
    maskedTokens masked tree = (tokenSpots tree).flatMap fun spot =>
      if masked.contains spot.tree.place then [maskedCallee] else leafToken spot.tree.text := by
  let read (spot : Spot) : List String :=
    if masked.contains spot.tree.place then [maskedCallee] else leafToken spot.tree.text
  -- by the recursion on the tree, with the number of the child left free
  have hparts (i : Nat) (trees : List SourceTree) (htrees : ∀ child ∈ trees, child ∈ tree.children) :
      (partsFrom tokenSpots i trees).map (·.flatMap read) = trees.map (maskedTokens masked) := by
    induction trees generalizing i with
    | nil => rfl
    | cons child rest ih =>
      rw [List.forall_mem_cons] at htrees
      have hchild := sizeOf_lt_of_mem htrees.1
      rw [List.map_cons, ← ih (i + 1) htrees.2, maskedTokens_eq_flatMap masked child, partsFrom, List.zipIdx_cons,
        List.map_cons, List.map_cons, List.flatMap_map]
      rfl
  have hflat (parts : List (List Spot)) :
      parts.flatten.flatMap read = (parts.map (·.flatMap read)).flatten := by
    simp only [List.flatMap_def, List.map_flatten, List.flatten_flatten, List.map_map, Function.comp_def]
  rw [maskedTokens_eq, tokenSpots_eq, innerChildren]
  split
  · rfl
  split
  · simp
  · rw [hflat]
    split
    · rw [List.map_dropLast, List.map_drop, hparts 0 _ fun _ h => h, ← List.map_drop, ← List.map_dropLast,
        List.flatMap_def]
    · rw [hparts 0 _ fun _ h => h, List.flatMap_def]
termination_by sizeOf tree

/-- The leaves of a tree have different places, and the names that are called are leaves with a text. -/
structure Addressed (tree : SourceTree) : Prop where
  distinct : ((leafSpots tree).map fun spot => spot.tree.place).Nodup
  named : ∀ spot ∈ calledSpots tree, spot.tree.children = [] ∧ Text.trim spot.tree.text ≠ ""

instance (tree : SourceTree) : Decidable tree.Addressed :=
  decidable_of_iff
    (((leafSpots tree).map fun spot => spot.tree.place).Nodup ∧
      ∀ spot ∈ calledSpots tree, spot.tree.children.isEmpty = true ∧ Text.trim spot.tree.text ≠ "")
    ⟨fun h => ⟨h.1, by simpa using h.2⟩, fun h => ⟨h.distinct, by simpa using h.named⟩⟩

/-- Different leaves have different ways to them. -/
theorem eq_of_path_eq {x y : Spot} (hx : x ∈ leafSpots tree) (hy : y ∈ leafSpots tree) (h : x.path = y.path) :
    x = y := by
  have hat := ((mem_leafSpots_iff tree x).1 hx).1
  rw [h, ((mem_leafSpots_iff tree y).1 hy).1] at hat
  cases x
  cases y
  cases h
  cases hat
  rfl

namespace Addressed

variable (h : tree.Addressed)

include h

theorem mem_leafSpots (hspot : spot ∈ calledSpots tree) : spot ∈ leafSpots tree :=
  (mem_leafSpots_iff tree spot).2 ⟨at?_of_mem_calledSpots hspot, (h.named spot hspot).1⟩

/-- **A leaf is masked exactly when it is a called name**, although only its place is looked at. -/
theorem contains_calleePlaces (hspot : spot ∈ leafSpots tree) :
    (calleePlaces tree).contains spot.tree.place = true ↔ spot.path ∈ calledPaths tree := by
  rw [List.contains_iff_mem, calleePlaces_eq_map, calledPaths, List.mem_map, List.mem_map]
  -- Places tell leaves apart because they are different, and ways do by themselves.
  constructor
  · rintro ⟨name, hname, hplace⟩
    exact ⟨name, hname,
      congrArg Spot.path (List.inj_on_of_nodup_map h.distinct (h.mem_leafSpots hname) hspot hplace)⟩
  · rintro ⟨name, hname, hpath⟩
    exact ⟨name, hname, congrArg (·.tree.place) (eq_of_path_eq (h.mem_leafSpots hname) hspot hpath)⟩

/-- A leaf that is a called name has a token. -/
theorem trim_ne_of_called (hspot : spot ∈ leafSpots tree) (hcalled : spot.path ∈ calledPaths tree) :
    Text.trim spot.tree.text ≠ "" := by
  obtain ⟨name, hname, hpath⟩ := List.mem_map.1 hcalled
  rw [← eq_of_path_eq (h.mem_leafSpots hname) hspot hpath]
  exact (h.named name hname).2

/-- **The tokens of a symbol are those of the tree, but for the called names**, which are masked. -/
theorem maskedTokens_eq_map : maskedTokens (calleePlaces tree) tree = (spottedTokens tree).map fun token =>
    if token.1 ∈ calledPaths tree then maskedCallee else token.2 := by
  have hleaves : ∀ spot ∈ tokenSpots tree, spot ∈ leafSpots tree := fun _ => mem_leafSpots_of_mem_tokenSpots
  rw [maskedTokens_eq_flatMap, spottedTokens]
  generalize tokenSpots tree = spots at hleaves ⊢
  induction spots with
  | nil => rfl
  | cons spot rest ih =>
    rw [List.forall_mem_cons] at hleaves
    rw [List.flatMap_cons, ih hleaves.2, List.map_cons, List.filter_cons, leafToken]
    have hmasked := h.contains_calleePlaces hleaves.1
    by_cases hcalled : spot.path ∈ calledPaths tree
    · have htext := h.trim_ne_of_called hleaves.1 hcalled
      rw [if_pos (hmasked.2 hcalled)]
      simp [hcalled, htext]
    · rw [if_neg (hcalled ∘ hmasked.1)]
      by_cases htext : Text.trim spot.tree.text = "" <;> simp [htext, hcalled]

end Addressed

/-- The tokens of a tree are the trimmed texts of its leaves. -/
theorem tokens_eq_map (tree : SourceTree) : tree.tokens = (spottedTokens tree).map (·.2) := by
  rw [tokens, maskedTokens_eq_flatMap, spottedTokens]
  induction tokenSpots tree with
  | nil => rfl
  | cons spot rest ih =>
    rw [List.flatMap_cons, ih, List.map_cons, List.filter_cons, leafToken]
    by_cases htext : Text.trim spot.tree.text = "" <;> simp [htext]

/-! ### Renaming -/

mutual

/-- Two trees have the same kinds, roles, extras and children, whatever their texts and places. -/
def sameFrame : SourceTree → SourceTree → Bool
  | ⟨kind, field, _, extra, _, _, _, _, _, _, _, children⟩,
    ⟨kind', field', _, extra', _, _, _, _, _, _, _, children'⟩ =>
    kind == kind' && field == field' && extra == extra' && sameFrames children children'

/-- Two lists of trees have the same frames one by one. -/
def sameFrames : List SourceTree → List SourceTree → Bool
  | [], [] => true
  | tree :: rest, tree' :: rest' => sameFrame tree tree' && sameFrames rest rest'
  | _, _ => false

end

/-- The spots are at the same place in trees of the same frame. -/
structure Spot.Matches (x y : Spot) : Prop where
  path : x.path = y.path
  frame : x.tree.sameFrame y.tree = true

variable {a b : SourceTree}

theorem forall₂_of_sameFrames : ∀ {xs ys : List SourceTree}, sameFrames xs ys = true →
    List.Forall₂ (fun x y => sameFrame x y = true) xs ys
  | [], [], _ => .nil
  | x :: xs, y :: ys, h => by
    rw [sameFrames, Bool.and_eq_true] at h
    exact .cons h.1 (forall₂_of_sameFrames h.2)
  | [], _ :: _, h => by simp [sameFrames] at h
  | _ :: _, [], h => by simp [sameFrames] at h

theorem eq_of_sameFrame (h : a.sameFrame b = true) : a.kind = b.kind ∧ a.field = b.field ∧ a.extra = b.extra ∧
    List.Forall₂ (fun x y => sameFrame x y = true) a.children b.children := by
  cases a
  cases b
  simp only [sameFrame, Bool.and_eq_true, beq_iff_eq] at h
  exact ⟨h.1.1.1, h.1.1.2, h.1.2, forall₂_of_sameFrames h.2⟩

/-- What is found in trees of the same frames is at the same places. -/
theorem forall₂_partsFrom {find : SourceTree → List Spot} {xs ys : List SourceTree}
    (h : List.Forall₂ (fun x y => sameFrame x y = true) xs ys)
    (hfind : ∀ x ∈ xs, ∀ y, x.sameFrame y = true → List.Forall₂ Spot.Matches (find x) (find y)) (i : Nat) :
    List.Forall₂ (List.Forall₂ Spot.Matches) (partsFrom find i xs) (partsFrom find i ys) := by
  induction h generalizing i with
  | nil => exact .nil
  | cons hxy _ ih =>
    rw [List.forall_mem_cons] at hfind
    refine .cons ?_ (ih hfind.2 (i + 1))
    rw [List.forall₂_map_left_iff, List.forall₂_map_right_iff]
    exact (hfind.1 _ hxy).imp fun _ _ hmatch => ⟨congrArg (i :: ·) hmatch.path, hmatch.frame⟩

theorem isEmpty_eq_of_forall₂ {α β : Type} {R : α → β → Prop} {xs : List α} {ys : List β}
    (h : List.Forall₂ R xs ys) : xs.isEmpty = ys.isEmpty := by
  cases h <;> rfl

theorem kinds_eq_of_sameFrames {xs ys : List SourceTree}
    (h : List.Forall₂ (fun x y => sameFrame x y = true) xs ys) : xs.map (·.kind) = ys.map (·.kind) := by
  induction h with
  | nil => rfl
  | cons hxy _ ih => rw [List.map_cons, List.map_cons, (eq_of_sameFrame hxy).1, ih]

/-- Trees of the same frame have their tokens at the same leaves. -/
theorem tokenSpots_of_sameFrame {a b : SourceTree} (h : a.sameFrame b = true) :
    List.Forall₂ Spot.Matches (tokenSpots a) (tokenSpots b) := by
  obtain ⟨hkind, -, hextra, hchildren⟩ := eq_of_sameFrame h
  have hignored : a.isIgnored = b.isIgnored := by rw [isIgnored, isIgnored, hkind, hextra]
  have hgrouped : isGrouped a.kind a.children = isGrouped b.kind b.children := by
    rw [← hkind]
    exact isGrouped_eq_of_kinds _ (kinds_eq_of_sameFrames hchildren)
  have hparts := forall₂_partsFrom hchildren (fun x hx y hxy => by
    have := sizeOf_lt_of_mem hx
    exact tokenSpots_of_sameFrame hxy) 0
  rw [tokenSpots_eq, tokenSpots_eq, ← hignored, ← hgrouped, ← isEmpty_eq_of_forall₂ hchildren]
  split
  · exact .nil
  split
  · exact .cons ⟨rfl, h⟩ .nil
  · split
    · have hinner := List.forall₂_drop 1 hparts
      rw [List.dropLast_eq_take, List.dropLast_eq_take, hinner.length_eq]
      exact List.rel_flatten (List.forall₂_take _ hinner)
    · exact List.rel_flatten hparts
termination_by sizeOf a

section Options

variable {α β γ δ : Type} {R : α → β → Prop} {S : γ → δ → Prop} {x : Option α} {y : Option β}

theorem rel_map {f : α → γ} {g : β → δ} (h : Option.Rel R x y) (hfg : ∀ a b, R a b → S (f a) (g b)) :
    Option.Rel S (x.map f) (y.map g) := by
  cases h with
  | none => exact .none
  | some hxy => exact .some (hfg _ _ hxy)

theorem rel_bind {f : α → Option γ} {g : β → Option δ} (h : Option.Rel R x y)
    (hfg : ∀ a b, R a b → Option.Rel S (f a) (g b)) : Option.Rel S (x.bind f) (y.bind g) := by
  cases h with
  | none => exact .none
  | some hxy => exact hfg _ _ hxy

theorem forall₂_toList (h : Option.Rel R x y) : List.Forall₂ R x.toList y.toList := by
  cases h with
  | none => exact .nil
  | some hxy => exact .cons hxy .nil

end Options

/-- In trees of the same frame, the same child has a role. -/
theorem roleSpot?_of_sameFrame (role : String) {xs ys : List SourceTree}
    (h : List.Forall₂ (fun x y => sameFrame x y = true) xs ys) :
    Option.Rel Spot.Matches (roleSpot? role xs) (roleSpot? role ys) := by
  have hfind (i : Nat) : Option.Rel (fun x y => x.2 = y.2 ∧ sameFrame x.1 y.1 = true)
      ((xs.zipIdx i).find? (·.1.field == some role)) ((ys.zipIdx i).find? (·.1.field == some role)) := by
    induction h generalizing i with
    | nil => exact .none
    | @cons x y xs ys hxy _ ih =>
      rw [List.zipIdx_cons, List.zipIdx_cons, List.find?_cons, List.find?_cons, (eq_of_sameFrame hxy).2.1]
      cases y.field == some role
      · exact ih (i + 1)
      · exact .some ⟨rfl, hxy⟩
  exact rel_map (hfind 0) fun _ _ hxy => ⟨congrArg (fun i => [i]) hxy.1, hxy.2⟩

theorem nameSpot?_of_sameFrame (h : a.sameFrame b = true) :
    Option.Rel Spot.Matches (nameSpot? a) (nameSpot? b) := by
  obtain ⟨hkind, -, -, hchildren⟩ := eq_of_sameFrame h
  unfold nameSpot?
  rw [← hkind]
  split
  · exact .some ⟨rfl, h⟩
  split
  · exact roleSpot?_of_sameFrame _ hchildren
  split
  · exact roleSpot?_of_sameFrame _ hchildren
  · exact .none

theorem calledSpot?_of_sameFrame (kind : String) {xs ys : List SourceTree}
    (h : List.Forall₂ (fun x y => sameFrame x y = true) xs ys) :
    Option.Rel Spot.Matches (calledSpot? kind xs) (calledSpot? kind ys) := by
  unfold calledSpot?
  split
  · refine rel_bind (roleSpot?_of_sameFrame "function" h) fun _ _ hfunction => ?_
    refine rel_map (nameSpot?_of_sameFrame hfunction.frame) fun _ _ hname => ?_
    exact ⟨congrArg₂ (· ++ ·) hfunction.path hname.path, hname.frame⟩
  · exact .none

/-- Trees of the same frame call names at the same leaves. -/
theorem calledSpots_of_sameFrame {a b : SourceTree} (h : a.sameFrame b = true) :
    List.Forall₂ Spot.Matches (calledSpots a) (calledSpots b) := by
  obtain ⟨hkind, -, -, hchildren⟩ := eq_of_sameFrame h
  have hparts := forall₂_partsFrom hchildren (fun x hx y hxy => by
    have := sizeOf_lt_of_mem hx
    exact calledSpots_of_sameFrame hxy) 0
  rw [calledSpots_eq, calledSpots_eq, ← hkind]
  exact List.rel_append (forall₂_toList (calledSpot?_of_sameFrame a.kind hchildren)) (List.rel_flatten hparts)
termination_by sizeOf a

/-- The leaves of two trees have the same texts, but for the names that are called in the first one. -/
def RenamedOnly (a b : SourceTree) : Prop :=
  ∀ x ∈ leafSpots a, ∀ y ∈ leafSpots b, x.path = y.path → x.path ∉ calledPaths a →
    Text.trim x.tree.text = Text.trim y.tree.text

instance (a b : SourceTree) : Decidable (RenamedOnly a b) :=
  inferInstanceAs (Decidable (∀ x ∈ leafSpots a, ∀ y ∈ leafSpots b, _))

theorem calledPaths_of_sameFrame (h : a.sameFrame b = true) : calledPaths a = calledPaths b := by
  have hspots := calledSpots_of_sameFrame h
  unfold calledPaths
  generalize calledSpots a = xs at hspots ⊢
  generalize calledSpots b = ys at hspots ⊢
  induction hspots with
  | nil => rfl
  | cons hxy _ ih => rw [List.map_cons, List.map_cons, hxy.path, ih]

/-- Renaming what is called does not change the tokens of a symbol, although it moves all the masked places. -/
theorem maskedTokens_of_renamed (ha : a.Addressed) (hb : b.Addressed) (hframe : a.sameFrame b = true)
    (htexts : RenamedOnly a b) : maskedTokens (calleePlaces a) a = maskedTokens (calleePlaces b) b := by
  have hspots := tokenSpots_of_sameFrame hframe
  have hleavesA : ∀ spot ∈ tokenSpots a, spot ∈ leafSpots a := fun _ => mem_leafSpots_of_mem_tokenSpots
  have hleavesB : ∀ spot ∈ tokenSpots b, spot ∈ leafSpots b := fun _ => mem_leafSpots_of_mem_tokenSpots
  rw [maskedTokens_eq_flatMap, maskedTokens_eq_flatMap]
  generalize tokenSpots a = xs at hspots hleavesA ⊢
  generalize tokenSpots b = ys at hspots hleavesB ⊢
  induction hspots with
  | nil => rfl
  | @cons x y xs ys hxy _ ih =>
    rw [List.forall_mem_cons] at hleavesA hleavesB
    rw [List.flatMap_cons, List.flatMap_cons, ih hleavesA.2 hleavesB.2]
    congr 1
    -- Both leaves are called names, or neither is.
    have hmaskedA := ha.contains_calleePlaces hleavesA.1
    have hmaskedB := hb.contains_calleePlaces hleavesB.1
    rw [← calledPaths_of_sameFrame hframe, ← hxy.path] at hmaskedB
    by_cases hcalled : x.path ∈ calledPaths a
    · rw [if_pos (hmaskedA.2 hcalled), if_pos (hmaskedB.2 hcalled)]
    · rw [if_neg (hcalled ∘ hmaskedA.1), if_neg (hcalled ∘ hmaskedB.1), leafToken, leafToken,
        htexts x hleavesA.1 y hleavesB.1 hxy.path hcalled]

/-- **The signature of a symbol is blind to the names that it calls and to nothing else.** It digests the tokens of the
tree with these names masked, so it stays the same when they are renamed. -/
theorem symbolSignature_eq_of_renamed (ha : a.Addressed) (hb : b.Addressed) (hframe : a.sameFrame b = true)
    (htexts : RenamedOnly a b) :
    a.signature = Signature.ofTokens (dropTrailingCommas ((spottedTokens a).map (·.2))) ∧
    a.symbolSignature = Signature.ofTokens (dropTrailingCommas ((spottedTokens a).map fun token =>
      if token.1 ∈ calledPaths a then maskedCallee else token.2)) ∧
    a.symbolSignature = b.symbolSignature := by
  refine ⟨?_, ?_, ?_⟩
  · rw [signature, stream, tokens_eq_map]
  · rw [symbolSignature, symbolStream, ha.maskedTokens_eq_map]
  · rw [symbolSignature, symbolStream, maskedTokens_of_renamed ha hb hframe htexts, symbolSignature, symbolStream]

/-- A leaf with a text that begins at a byte. -/
def leafAt (kind : String) (field : Option String) (start : Nat) (text : String) : SourceTree :=
  { kind, field, named := true, extra := false, error := false, missing := false
    startByte := start, endByte := start + text.utf8ByteSize, startRow := 0, endRow := 0, text, children := [] }

/-- A node with children. -/
def nodeAbove (kind : String) (field : Option String) (children : List SourceTree) : SourceTree :=
  { leafAt kind field 0 "" with children }

/-- The call of a function with the call of a method in its argument. -/
def nestedCall (function method : String) : SourceTree :=
  let inner := function.utf8ByteSize + 1
  let arguments := inner + 5 + method.utf8ByteSize
  nodeAbove "call" none
    [leafAt "identifier" (some "function") 0 function,
      nodeAbove "argument_list" (some "arguments")
        [leafAt "(" none function.utf8ByteSize "(",
          nodeAbove "call" none
            [nodeAbove "attribute" (some "function")
              [leafAt "identifier" (some "object") inner "self", leafAt "." none (inner + 4) ".",
                leafAt "identifier" (some "attribute") (inner + 5) method],
            nodeAbove "argument_list" (some "arguments")
              [leafAt "(" none arguments "(", leafAt "identifier" none (arguments + 1) "x",
                leafAt ")" none (arguments + 2) ")"]],
          leafAt ")" none (arguments + 3) ")"]]

theorem symbolSignature_eq_of_renamed_nested :
    (nestedCall "f" "g").Addressed ∧ (nestedCall "fetch" "f").Addressed ∧
    (nestedCall "f" "g").sameFrame (nestedCall "fetch" "f") = true ∧
    RenamedOnly (nestedCall "f" "g") (nestedCall "fetch" "f") ∧
    (nestedCall "f" "g").stream ≠ (nestedCall "fetch" "f").stream ∧
    (nestedCall "f" "g").symbolSignature = (nestedCall "fetch" "f").symbolSignature := by
  have hshort : (nestedCall "f" "g").Addressed := by decide +kernel
  have hlong : (nestedCall "fetch" "f").Addressed := by decide +kernel
  have hframe : (nestedCall "f" "g").sameFrame (nestedCall "fetch" "f") = true := by decide +kernel
  have htexts : RenamedOnly (nestedCall "f" "g") (nestedCall "fetch" "f") := by decide +kernel
  exact ⟨hshort, hlong, hframe, htexts, by decide +kernel,
    (symbolSignature_eq_of_renamed hshort hlong hframe htexts).2.2⟩

end StructuralDiff.SourceTree
