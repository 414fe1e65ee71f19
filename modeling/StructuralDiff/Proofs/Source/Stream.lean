import Mathlib.Data.List.Forall2
import StructuralDiff.Source.Codec
import StructuralDiff.Source.Token

/-!
# What the token stream of a tree keeps

The signature of a tree digests its token stream. Seen from the normal form of the tree, in which nothing is
left that depends on layout, the stream is the list of the texts at the leaves: every text is kept, up to the
blanks around it, and the nesting is not.

* `stream_eq_texts`: the stream lists the texts of the normal form in order.
* `normal_eq_iff`: a normal form is its stream together with its nesting, and neither part can be spared.
* `stream_eq_iff_trimmed`: for trees of the same shape, the stream is the trimmed text of every leaf.
-/

namespace StructuralDiff

/-! ### Forms -/

/-- A part of a tree that does not depend on layout: a token, or a node with its parts. -/
inductive Form where
  | token (kind text : String)
  | node (kind : String) (parts : List Form)

namespace Form

mutual

/-- The texts of the tokens of a form, in order. -/
def texts : Form → List String
  | .token _ text => [text]
  | .node _ parts => allTexts parts

/-- The texts of the tokens of several forms. -/
def allTexts : List Form → List String
  | [] => []
  | form :: rest => texts form ++ allTexts rest

end

mutual

/-- Two forms have the same kinds and the same nesting, whatever their texts. -/
def alike : Form → Form → Bool
  | .token kind _, .token kind' _ => kind == kind'
  | .node kind parts, .node kind' parts' => kind == kind' && allAlike parts parts'
  | _, _ => false

/-- Two lists of forms are alike one by one. -/
def allAlike : List Form → List Form → Bool
  | [], [] => true
  | form :: rest, form' :: rest' => alike form form' && allAlike rest rest'
  | _, _ => false

end

mutual

/-- A form without its trailing commas, when `next` is the token after it. -/
def pruned (next : Option String) : Form → List Form
  | .token kind text => if text == "," && next.any SourceTree.isCloser then [] else [.token kind text]
  | .node kind parts => [.node kind (allPruned next parts)]

/-- Several forms without their trailing commas. -/
def allPruned (next : Option String) : List Form → List Form
  | [] => []
  | form :: rest => pruned ((allTexts rest).head?.or next) form ++ allPruned next rest

end

theorem allTexts_append (a b : List Form) : allTexts (a ++ b) = allTexts a ++ allTexts b := by
  induction a with
  | nil => rfl
  | cons form rest ih => simp only [List.cons_append, allTexts, ih, List.append_assoc]

theorem allTexts_flatten (parts : List (List Form)) :
    allTexts parts.flatten = (parts.map allTexts).flatten := by
  induction parts with
  | nil => rfl
  | cons part rest ih => simp only [List.flatten_cons, allTexts_append, ih, List.map_cons]

mutual

theorem alike_self (form : Form) : form.alike form = true := by
  match form with
  | .token _ _ => simp [alike]
  | .node _ parts => simp [alike, allAlike_self parts]

theorem allAlike_self (forms : List Form) : allAlike forms forms = true := by
  match forms with
  | [] => rfl
  | form :: rest => simp [allAlike, alike_self form, allAlike_self rest]

end

mutual

/-- The nesting of a form says which texts belong to it, so that they can be put back. -/
theorem eq_of_alike {a b : Form} (h : a.alike b = true) {u v : List String}
    (htexts : a.texts ++ u = b.texts ++ v) : a = b ∧ u = v := by
  match a, b with
  | .token kind text, .token kind' text' =>
    simp only [alike, beq_iff_eq] at h
    simp only [texts, List.singleton_append, List.cons.injEq] at htexts
    exact ⟨by rw [h, htexts.1], htexts.2⟩
  | .node kind parts, .node kind' parts' =>
    simp only [alike, Bool.and_eq_true, beq_iff_eq] at h
    obtain ⟨rfl, rfl⟩ := eq_of_allAlike h.2 htexts
    exact ⟨by rw [h.1], rfl⟩
  | .token _ _, .node _ _ => simp [alike] at h
  | .node _ _, .token _ _ => simp [alike] at h

theorem eq_of_allAlike {a b : List Form} (h : allAlike a b = true) {u v : List String}
    (htexts : allTexts a ++ u = allTexts b ++ v) : a = b ∧ u = v := by
  match a, b with
  | [], [] => exact ⟨rfl, htexts⟩
  | form :: rest, form' :: rest' =>
    simp only [allAlike, Bool.and_eq_true] at h
    simp only [allTexts, List.append_assoc] at htexts
    obtain ⟨rfl, htexts'⟩ := eq_of_alike h.1 htexts
    obtain ⟨rfl, rfl⟩ := eq_of_allAlike h.2 htexts'
    exact ⟨rfl, rfl⟩
  | [], _ :: _ => simp [allAlike] at h
  | _ :: _, [] => simp [allAlike] at h

end

end Form

namespace SourceTree

/-! ### Trailing commas -/

/-- The tokens without their trailing commas, when `next` is the token after them. -/
def dropCommasBefore (next : Option String) : List String → List String
  | [] => []
  | token :: rest =>
    if token == "," && (rest.head?.or next).any isCloser then dropCommasBefore next rest
    else token :: dropCommasBefore next rest

theorem dropTrailingCommas_eq (tokens : List String) :
    dropTrailingCommas tokens = dropCommasBefore none tokens := by
  fun_induction dropTrailingCommas tokens with
  | case1 => rfl
  | case2 token => simp [dropCommasBefore]
  | case3 token next rest h ih =>
    rw [dropCommasBefore, if_pos (by simpa using h), ih]
  | case4 token next rest h ih =>
    rw [dropCommasBefore, if_neg (by simpa using h), ih]

theorem dropCommasBefore_append (next : Option String) (a b : List String) :
    dropCommasBefore next (a ++ b) = dropCommasBefore (b.head?.or next) a ++ dropCommasBefore next b := by
  induction a with
  | nil => rfl
  | cons token rest ih =>
    have hnext : (rest ++ b).head?.or next = rest.head?.or (b.head?.or next) := by
      rw [List.head?_append, Option.or_assoc]
    simp only [List.cons_append, dropCommasBefore, ih, hnext]
    split <;> rfl

mutual

theorem allTexts_pruned (next : Option String) (form : Form) :
    Form.allTexts (form.pruned next) = dropCommasBefore next form.texts := by
  match form with
  | .token kind text =>
    rw [Form.pruned, Form.texts, dropCommasBefore, List.head?_nil, Option.none_or]
    split
    · rfl
    · rfl
  | .node kind parts =>
    simp only [Form.pruned, Form.allTexts, Form.texts, List.append_nil]
    exact allTexts_allPruned next parts

theorem allTexts_allPruned (next : Option String) (forms : List Form) :
    Form.allTexts (Form.allPruned next forms) = dropCommasBefore next (Form.allTexts forms) := by
  match forms with
  | [] => rfl
  | form :: rest =>
    rw [Form.allPruned, Form.allTexts_append, allTexts_pruned, allTexts_allPruned, Form.allTexts,
      dropCommasBefore_append]

end

/-! ### Normal forms -/

mutual

/-- What a tree is without ignored nodes, blank leaves and the parentheses of its groups. -/
def forms : SourceTree → List Form
  | ⟨kind, _, _, extra, _, _, _, _, _, _, text, children⟩ =>
    if extra || ignoredKinds.contains kind then []
    else if children.isEmpty then (leafToken text).map (.token kind)
    else if isGrouped kind children then (((formsOfEach children).drop 1).dropLast).flatten
    else [.node kind (formsOfEach children).flatten]

/-- The forms of each tree of a list. -/
def formsOfEach : List SourceTree → List (List Form)
  | [] => []
  | tree :: rest => forms tree :: formsOfEach rest

end

/-- The normal form of a tree: what is left of it when layout does not count. -/
def normal (tree : SourceTree) : List Form :=
  Form.allPruned none tree.forms

theorem allTexts_leafToken (kind text : String) :
    Form.allTexts ((leafToken text).map (.token kind)) = leafToken text := by
  unfold leafToken
  dsimp only
  split <;> rfl

mutual

theorem allTexts_forms (tree : SourceTree) : Form.allTexts tree.forms = maskedTokens [] tree := by
  match tree with
  | ⟨kind, _, _, extra, _, _, _, _, _, _, text, children⟩ =>
    rw [forms, maskedTokens]
    split
    · rfl
    · split
      · simpa using allTexts_leafToken kind text
      · have hparts := map_allTexts_formsOfEach children
        split
        · dsimp only
          rw [Form.allTexts_flatten, ← hparts, ← List.map_drop, ← List.map_dropLast]
        · rw [← hparts, ← Form.allTexts_flatten]
          simp only [Form.allTexts, Form.texts, List.append_nil]

theorem map_allTexts_formsOfEach (trees : List SourceTree) :
    (formsOfEach trees).map Form.allTexts = maskedParts [] trees := by
  match trees with
  | [] => rfl
  | tree :: rest =>
    rw [formsOfEach, maskedParts, List.map_cons, allTexts_forms, map_allTexts_formsOfEach]

end

/-- **The stream lists the texts of the normal form in order.** -/
theorem stream_eq_texts (tree : SourceTree) : tree.stream = Form.allTexts tree.normal := by
  rw [normal, allTexts_allPruned, allTexts_forms, ← dropTrailingCommas_eq]
  rfl

/-- **A normal form is its stream together with its nesting.** Two trees with the same stream are the same
up to layout exactly when they are nested alike; of that, the stream says nothing. -/
theorem normal_eq_iff (a b : SourceTree) : a.normal = b.normal ↔
    a.stream = b.stream ∧ Form.allAlike a.normal b.normal = true := by
  rw [stream_eq_texts, stream_eq_texts]
  constructor
  · intro h
    rw [h]
    exact ⟨rfl, Form.allAlike_self _⟩
  · rintro ⟨htexts, halike⟩
    refine (Form.eq_of_allAlike halike (u := []) (v := []) ?_).1
    simpa using htexts

/-- The tree of a source with the given rows. -/
def ofRows (source : String) (rows : List Row) : SourceTree :=
  let bytes := source.toUTF8
  (((forest bytes (lineBreaks bytes) rows).map (·.2)).head?).getD default

/-- The product of a sum in parentheses. -/
def productOfSum : SourceTree :=
  ofRows "x = (a + b) * c\n"
    [⟨0, "module", 1, none, 0, 16⟩, ⟨1, "expression_statement", 1, none, 0, 15⟩,
     ⟨2, "assignment", 1, none, 0, 15⟩, ⟨3, "identifier", 1, some "left", 0, 1⟩, ⟨3, "=", 0, none, 2, 3⟩,
     ⟨3, "binary_operator", 1, some "right", 4, 15⟩,
     ⟨4, "parenthesized_expression", 1, some "left", 4, 11⟩, ⟨5, "(", 0, none, 4, 5⟩,
     ⟨5, "binary_operator", 1, none, 5, 10⟩, ⟨6, "identifier", 1, some "left", 5, 6⟩,
     ⟨6, "+", 0, some "operator", 7, 8⟩, ⟨6, "identifier", 1, some "right", 9, 10⟩,
     ⟨5, ")", 0, none, 10, 11⟩, ⟨4, "*", 0, some "operator", 12, 13⟩,
     ⟨4, "identifier", 1, some "right", 14, 15⟩]

/-- The same without the parentheses, a sum of a product. -/
def sumOfProduct : SourceTree :=
  ofRows "x = a + b * c\n"
    [⟨0, "module", 1, none, 0, 14⟩, ⟨1, "expression_statement", 1, none, 0, 13⟩,
     ⟨2, "assignment", 1, none, 0, 13⟩, ⟨3, "identifier", 1, some "left", 0, 1⟩, ⟨3, "=", 0, none, 2, 3⟩,
     ⟨3, "binary_operator", 1, some "right", 4, 13⟩, ⟨4, "identifier", 1, some "left", 4, 5⟩,
     ⟨4, "+", 0, some "operator", 6, 7⟩, ⟨4, "binary_operator", 1, some "right", 8, 13⟩,
     ⟨5, "identifier", 1, some "left", 8, 9⟩, ⟨5, "*", 0, some "operator", 10, 11⟩,
     ⟨5, "identifier", 1, some "right", 12, 13⟩]

/-- A call after a condition. -/
def callAfterBlock : SourceTree :=
  ofRows "if a:\n    b()\nc()\n"
    [⟨0, "module", 1, none, 0, 18⟩, ⟨1, "if_statement", 1, none, 0, 13⟩, ⟨2, "if", 0, none, 0, 2⟩,
     ⟨2, "identifier", 1, some "condition", 3, 4⟩, ⟨2, ":", 0, none, 4, 5⟩,
     ⟨2, "block", 1, some "consequence", 10, 13⟩, ⟨3, "expression_statement", 1, none, 10, 13⟩,
     ⟨4, "call", 1, none, 10, 13⟩, ⟨5, "identifier", 1, some "function", 10, 11⟩,
     ⟨5, "argument_list", 1, some "arguments", 11, 13⟩, ⟨6, "(", 0, none, 11, 12⟩,
     ⟨6, ")", 0, none, 12, 13⟩, ⟨1, "expression_statement", 1, none, 14, 17⟩, ⟨2, "call", 1, none, 14, 17⟩,
     ⟨3, "identifier", 1, some "function", 14, 15⟩, ⟨3, "argument_list", 1, some "arguments", 15, 17⟩,
     ⟨4, "(", 0, none, 15, 16⟩, ⟨4, ")", 0, none, 16, 17⟩]

/-- The same call, indented into the condition. -/
def callInBlock : SourceTree :=
  ofRows "if a:\n    b()\n    c()\n"
    [⟨0, "module", 1, none, 0, 22⟩, ⟨1, "if_statement", 1, none, 0, 21⟩, ⟨2, "if", 0, none, 0, 2⟩,
     ⟨2, "identifier", 1, some "condition", 3, 4⟩, ⟨2, ":", 0, none, 4, 5⟩,
     ⟨2, "block", 1, some "consequence", 10, 21⟩, ⟨3, "expression_statement", 1, none, 10, 13⟩,
     ⟨4, "call", 1, none, 10, 13⟩, ⟨5, "identifier", 1, some "function", 10, 11⟩,
     ⟨5, "argument_list", 1, some "arguments", 11, 13⟩, ⟨6, "(", 0, none, 11, 12⟩,
     ⟨6, ")", 0, none, 12, 13⟩, ⟨3, "expression_statement", 1, none, 18, 21⟩, ⟨4, "call", 1, none, 18, 21⟩,
     ⟨5, "identifier", 1, some "function", 18, 19⟩, ⟨5, "argument_list", 1, some "arguments", 19, 21⟩,
     ⟨6, "(", 0, none, 19, 20⟩, ⟨6, ")", 0, none, 20, 21⟩]

/-- The stream loses parentheses that carry meaning, and the block that a statement stands in. -/
theorem stream_loses_nesting :
    productOfSum.hasError = false ∧ sumOfProduct.hasError = false ∧
      productOfSum.stream = sumOfProduct.stream ∧
      Form.allAlike productOfSum.normal sumOfProduct.normal = false ∧
      callAfterBlock.hasError = false ∧ callInBlock.hasError = false ∧
      callAfterBlock.stream = callInBlock.stream ∧
      Form.allAlike callAfterBlock.normal callInBlock.normal = false := by
  decide +kernel

/-! ### Leaves -/

/-- A leaf of a tree. -/
structure Leaf where
  kind : String
  text : String

namespace Leaf

/-- The text of a leaf without the blanks around it. -/
def trimmed (leaf : Leaf) : String :=
  Text.trim leaf.text

/-- There is nothing in the leaf but blanks. -/
def isBlank (leaf : Leaf) : Bool :=
  leaf.trimmed == ""

/-- A comma stands before a closing bracket, by what is written. -/
def trailsAsWritten (leaf next : Leaf) : Bool :=
  leaf.trimmed == "," && isCloser next.trimmed

/-- A comma stands before a closing bracket, by the kinds of the leaves. -/
def trailsByKind (leaf next : Leaf) : Bool :=
  leaf.kind == "," && isCloser next.kind

end Leaf

mutual

/-- The leaves of a tree in order; ignored nodes and the parentheses of groups are left out. -/
def leaves : SourceTree → List Leaf
  | ⟨kind, _, _, extra, _, _, _, _, _, _, text, children⟩ =>
    if extra || ignoredKinds.contains kind then []
    else if children.isEmpty then [⟨kind, text⟩]
    else if isGrouped kind children then (((leavesOfEach children).drop 1).dropLast).flatten
    else (leavesOfEach children).flatten

/-- The leaves of each tree of a list. -/
def leavesOfEach : List SourceTree → List (List Leaf)
  | [] => []
  | tree :: rest => leaves tree :: leavesOfEach rest

end

mutual

/-- Two trees have the same kinds, extras and children, whatever their texts and places. -/
def sameShape : SourceTree → SourceTree → Bool
  | ⟨kind, _, _, extra, _, _, _, _, _, _, _, children⟩,
    ⟨kind', _, _, extra', _, _, _, _, _, _, _, children'⟩ =>
    kind == kind' && extra == extra' && sameShapes children children'

/-- Two lists of trees have the same shapes one by one. -/
def sameShapes : List SourceTree → List SourceTree → Bool
  | [], [] => true
  | tree :: rest, tree' :: rest' => sameShape tree tree' && sameShapes rest rest'
  | _, _ => false

end

theorem kind_eq_of_sameShape {a b : SourceTree} (h : a.sameShape b = true) : a.kind = b.kind := by
  cases a
  cases b
  simp only [sameShape, Bool.and_eq_true, beq_iff_eq] at h
  exact h.1.1

theorem kinds_eq_of_sameShapes : ∀ {a b : List SourceTree}, sameShapes a b = true →
    a.map (·.kind) = b.map (·.kind)
  | [], [], _ => rfl
  | tree :: rest, tree' :: rest', h => by
    simp only [sameShapes, Bool.and_eq_true] at h
    rw [List.map_cons, List.map_cons, kind_eq_of_sameShape h.1, kinds_eq_of_sameShapes h.2]
  | [], _ :: _, h => by simp [sameShapes] at h
  | _ :: _, [], h => by simp [sameShapes] at h

theorem isGrouped_eq_of_kinds (kind : String) {a b : List SourceTree}
    (h : a.map (·.kind) = b.map (·.kind)) : isGrouped kind a = isGrouped kind b := by
  unfold isGrouped
  rw [← List.head?_map, ← List.head?_map, ← List.getLast?_map, ← List.getLast?_map, h]

mutual

/-- Trees of the same shape have leaves of the same kinds. -/
theorem leaves_of_sameShape {a b : SourceTree} (h : a.sameShape b = true) :
    List.Forall₂ (fun x y => x.kind = y.kind) a.leaves b.leaves := by
  match a, b with
  | ⟨kind, _, _, extra, _, _, _, _, _, _, text, children⟩,
    ⟨kind', _, _, extra', _, _, _, _, _, _, text', children'⟩ =>
    simp only [sameShape, Bool.and_eq_true, beq_iff_eq] at h
    obtain ⟨⟨rfl, rfl⟩, hchildren⟩ := h
    have hkinds := kinds_eq_of_sameShapes hchildren
    have hempty : children.isEmpty = children'.isEmpty := by
      rw [← List.isEmpty_map (f := (·.kind)), hkinds, List.isEmpty_map]
    have hparts := leavesOfEach_of_sameShapes hchildren
    simp only [leaves, ← hempty, ← isGrouped_eq_of_kinds kind hkinds]
    split
    · exact .nil
    · split
      · exact .cons rfl .nil
      · split
        · have hinner := List.forall₂_drop 1 hparts
          rw [List.dropLast_eq_take, List.dropLast_eq_take, hinner.length_eq]
          exact List.rel_flatten (List.forall₂_take _ hinner)
        · exact List.rel_flatten hparts

theorem leavesOfEach_of_sameShapes {a b : List SourceTree} (h : sameShapes a b = true) :
    List.Forall₂ (List.Forall₂ fun x y => x.kind = y.kind) (leavesOfEach a) (leavesOfEach b) := by
  match a, b with
  | [], [] => exact .nil
  | tree :: rest, tree' :: rest' =>
    simp only [sameShapes, Bool.and_eq_true] at h
    exact .cons (leaves_of_sameShape h.1) (leavesOfEach_of_sameShapes h.2)
  | [], _ :: _ => simp [sameShapes] at h
  | _ :: _, [] => simp [sameShapes] at h

end

/-- The leaves of a tree that give tokens. -/
def counted (tree : SourceTree) : List Leaf :=
  tree.leaves.filter (!·.isBlank)

mutual

theorem flatMap_leafToken_leaves (tree : SourceTree) :
    tree.leaves.flatMap (fun leaf => leafToken leaf.text) = maskedTokens [] tree := by
  match tree with
  | ⟨kind, _, _, extra, _, _, _, _, _, _, text, children⟩ =>
    rw [leaves, maskedTokens]
    split
    · rfl
    · split
      · simp
      · have hparts := map_leafToken_leavesOfEach children
        have hflat (parts : List (List Leaf)) :
            parts.flatten.flatMap (fun leaf => leafToken leaf.text)
              = (parts.map (·.flatMap fun leaf => leafToken leaf.text)).flatten := by
          simp only [List.flatMap_def, List.map_flatten, List.flatten_flatten, List.map_map,
            Function.comp_def]
        split
        · dsimp only
          rw [← hparts, ← List.map_drop, ← List.map_dropLast, hflat]
        · dsimp only
          rw [← hparts, hflat]

theorem map_leafToken_leavesOfEach (trees : List SourceTree) :
    (leavesOfEach trees).map (·.flatMap fun leaf => leafToken leaf.text) = maskedParts [] trees := by
  match trees with
  | [] => rfl
  | tree :: rest =>
    rw [leavesOfEach, maskedParts, List.map_cons, flatMap_leafToken_leaves,
      map_leafToken_leavesOfEach]

end

theorem tokens_eq_trimmed (tree : SourceTree) : tree.tokens = tree.counted.map Leaf.trimmed := by
  rw [tokens, ← flatMap_leafToken_leaves, counted]
  induction tree.leaves with
  | nil => rfl
  | cons leaf rest ih =>
    rw [List.flatMap_cons, ih, leafToken]
    by_cases h : leaf.isBlank = true
    · rw [List.filter_cons_of_neg (by simpa using h)]
      simp only [Leaf.isBlank, Leaf.trimmed] at h
      simp [h]
    · rw [List.filter_cons_of_pos (by simpa using h)]
      simp only [Leaf.isBlank, Leaf.trimmed] at h
      simp [h, Leaf.trimmed]

/-- What a parser says about punctuation: a comma before a closing bracket is written where the kinds say so,
and nowhere else. -/
def Punctuated (tree : SourceTree) : Prop :=
  tree.counted.IsChain fun leaf next => leaf.trailsAsWritten next = leaf.trailsByKind next

theorem dropTrailingCommas_trimmed (x y : Leaf) (rest : List Leaf) :
    dropTrailingCommas ((x :: y :: rest).map Leaf.trimmed) =
      if x.trailsAsWritten y then dropTrailingCommas ((y :: rest).map Leaf.trimmed)
      else x.trimmed :: dropTrailingCommas ((y :: rest).map Leaf.trimmed) := by
  simp only [List.map_cons, dropTrailingCommas, Leaf.trailsAsWritten]

/-- Commas are left out at the same places of the two lists, so that no token can stand for another one. -/
theorem trimmed_eq_of_dropTrailingCommas {xs ys : List Leaf}
    (hkinds : List.Forall₂ (fun x y => x.kind = y.kind) xs ys)
    (hx : xs.IsChain fun leaf next => leaf.trailsAsWritten next = leaf.trailsByKind next)
    (hy : ys.IsChain fun leaf next => leaf.trailsAsWritten next = leaf.trailsByKind next)
    (h : dropTrailingCommas (xs.map Leaf.trimmed) = dropTrailingCommas (ys.map Leaf.trimmed)) :
    List.Forall₂ (fun x y => x.trimmed = y.trimmed) xs ys := by
  induction hkinds with
  | nil => exact .nil
  | @cons x y xs ys hkind hrest ih =>
    cases hrest with
    | nil => exact .cons (by simpa [dropTrailingCommas] using h) .nil
    | @cons x' y' xs ys hkind' hrest =>
      rw [List.isChain_cons_cons] at hx hy
      have hsame : x.trailsAsWritten x' = y.trailsAsWritten y' := by
        rw [hx.1, hy.1, Leaf.trailsByKind, Leaf.trailsByKind, hkind, hkind']
      rw [dropTrailingCommas_trimmed, dropTrailingCommas_trimmed, ← hsame] at h
      split at h
      · next hdrop =>
        have hcomma : x.trimmed = "," ∧ y.trimmed = "," := by
          have hdrop' := hsame ▸ hdrop
          simp only [Leaf.trailsAsWritten, Bool.and_eq_true, beq_iff_eq] at hdrop hdrop'
          exact ⟨hdrop.1, hdrop'.1⟩
        exact .cons (hcomma.1.trans hcomma.2.symm) (ih hx.2 hy.2 h)
      · rw [List.cons.injEq] at h
        exact .cons h.1 (ih hx.2 hy.2 h.2)

/-- Blank leaves at the same places can be put back. -/
theorem trimmed_eq_of_counted {xs ys : List Leaf}
    (hblank : List.Forall₂ (fun x y => x.isBlank = y.isBlank) xs ys)
    (h : List.Forall₂ (fun x y => x.trimmed = y.trimmed) (xs.filter (!·.isBlank)) (ys.filter (!·.isBlank))) :
    List.Forall₂ (fun x y => x.trimmed = y.trimmed) xs ys := by
  induction hblank with
  | nil => exact .nil
  | @cons x y xs ys hxy _ ih =>
    by_cases hx : x.isBlank = true
    · have hy := hxy ▸ hx
      rw [List.filter_cons_of_neg (by simpa using hx), List.filter_cons_of_neg (by simpa using hy)] at h
      have htrimmed : x.trimmed = y.trimmed := by
        simp only [Leaf.isBlank, beq_iff_eq] at hx hy
        rw [hx, hy]
      exact .cons htrimmed (ih h)
    · have hy := hxy ▸ hx
      rw [List.filter_cons_of_pos (by simpa using hx), List.filter_cons_of_pos (by simpa using hy)] at h
      cases h with
      | cons htrimmed h => exact .cons htrimmed (ih h)

/-- Corresponding leaves agree in a feature when the lists of the features are equal. -/
theorem forall₂_iff_map_eq {β : Type} {f : Leaf → β} {xs ys : List Leaf} :
    List.Forall₂ (fun x y => f x = f y) xs ys ↔ xs.map f = ys.map f := by
  rw [← List.forall₂_eq_eq_eq, List.forall₂_map_left_iff, List.forall₂_map_right_iff]

theorem forall₂_filter {β : Type} {f : Leaf → β} {xs ys : List Leaf}
    (hblank : List.Forall₂ (fun x y => x.isBlank = y.isBlank) xs ys)
    (h : List.Forall₂ (fun x y => f x = f y) xs ys) :
    List.Forall₂ (fun x y => f x = f y) (xs.filter (!·.isBlank)) (ys.filter (!·.isBlank)) := by
  have hboth : List.Forall₂ (fun x y => x.isBlank = y.isBlank ∧ f x = f y) xs ys :=
    hblank.mp (fun _ _ hxy hf => ⟨hxy, hf⟩) h
  have hfilter := List.rel_filter (p := (!·.isBlank)) (q := (!·.isBlank))
    (fun x y hxy => by simp only [hxy.1]) hboth
  exact hfilter.imp fun _ _ hxy => hxy.2

/-- **For trees of the same shape, the stream is the trimmed text of every leaf.** Blanks at the ends of a
leaf are lost; where no leaf has any, the stream keeps the exact text of every leaf. -/
theorem stream_eq_iff_trimmed {a b : SourceTree} (hshape : a.sameShape b = true) (ha : a.Punctuated)
    (hb : b.Punctuated) (hblank : a.leaves.map Leaf.isBlank = b.leaves.map Leaf.isBlank) :
    (a.stream = b.stream ↔ a.leaves.map Leaf.trimmed = b.leaves.map Leaf.trimmed) ∧
    ((∀ leaf ∈ a.leaves ++ b.leaves, leaf.trimmed = leaf.text) →
      (a.stream = b.stream ↔ a.leaves.map Leaf.text = b.leaves.map Leaf.text)) := by
  have hkinds := leaves_of_sameShape hshape
  have hblank' := forall₂_iff_map_eq.2 hblank
  have htrimmed : a.stream = b.stream ↔ a.leaves.map Leaf.trimmed = b.leaves.map Leaf.trimmed := by
    rw [stream, stream, tokens_eq_trimmed, tokens_eq_trimmed, ← forall₂_iff_map_eq]
    constructor
    · intro h
      exact trimmed_eq_of_counted hblank'
        (trimmed_eq_of_dropTrailingCommas (forall₂_filter hblank' hkinds) ha hb h)
    · intro h
      have hcounted := forall₂_iff_map_eq.1 (forall₂_filter hblank' h)
      rw [counted, counted, hcounted]
  refine ⟨htrimmed, fun htight => ?_⟩
  have hexact {tree : SourceTree} (h : ∀ leaf ∈ tree.leaves, leaf ∈ a.leaves ++ b.leaves) :
      tree.leaves.map Leaf.trimmed = tree.leaves.map Leaf.text :=
    List.map_congr_left fun leaf hleaf => htight leaf (h leaf hleaf)
  rw [htrimmed, hexact fun _ => List.mem_append_left _, hexact fun _ => List.mem_append_right _]

/-- A string literal with blanks at its ends. -/
def spacedLiteral : SourceTree :=
  ofRows "s = ' a b '\n"
    [⟨0, "module", 1, none, 0, 12⟩, ⟨1, "expression_statement", 1, none, 0, 11⟩,
     ⟨2, "assignment", 1, none, 0, 11⟩, ⟨3, "identifier", 1, some "left", 0, 1⟩, ⟨3, "=", 0, none, 2, 3⟩,
     ⟨3, "string", 1, some "right", 4, 11⟩, ⟨4, "string_start", 1, none, 4, 5⟩,
     ⟨4, "string_content", 1, none, 5, 10⟩, ⟨4, "string_end", 1, none, 10, 11⟩]

/-- The same literal without these blanks. -/
def tightLiteral : SourceTree :=
  ofRows "s = 'a b'\n"
    [⟨0, "module", 1, none, 0, 10⟩, ⟨1, "expression_statement", 1, none, 0, 9⟩,
     ⟨2, "assignment", 1, none, 0, 9⟩, ⟨3, "identifier", 1, some "left", 0, 1⟩, ⟨3, "=", 0, none, 2, 3⟩,
     ⟨3, "string", 1, some "right", 4, 9⟩, ⟨4, "string_start", 1, none, 4, 5⟩,
     ⟨4, "string_content", 1, none, 5, 8⟩, ⟨4, "string_end", 1, none, 8, 9⟩]

theorem stream_eq_iff_trimmed_literal :
    spacedLiteral.sameShape tightLiteral = true ∧ spacedLiteral.Punctuated ∧ tightLiteral.Punctuated ∧
      spacedLiteral.leaves.map Leaf.isBlank = tightLiteral.leaves.map Leaf.isBlank ∧
      spacedLiteral.stream = tightLiteral.stream :=
  have hshape : spacedLiteral.sameShape tightLiteral = true := by decide +kernel
  have hspaced : spacedLiteral.Punctuated := by unfold Punctuated; decide +kernel
  have htight : tightLiteral.Punctuated := by unfold Punctuated; decide +kernel
  have hblank : spacedLiteral.leaves.map Leaf.isBlank = tightLiteral.leaves.map Leaf.isBlank := by
    decide +kernel
  ⟨hshape, hspaced, htight, hblank,
    (stream_eq_iff_trimmed hshape hspaced htight hblank).1.2 (by decide +kernel)⟩

/-- The stream loses the blanks at the ends of a string literal. -/
theorem stream_loses_blanks :
    spacedLiteral.hasError = false ∧ tightLiteral.hasError = false ∧
      spacedLiteral.sameShape tightLiteral = true ∧ spacedLiteral.stream = tightLiteral.stream ∧
      spacedLiteral.leaves.map Leaf.text ≠ tightLiteral.leaves.map Leaf.text := by
  decide +kernel

end SourceTree

end StructuralDiff
