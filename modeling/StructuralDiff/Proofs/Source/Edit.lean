import Mathlib.Logic.Relation
import StructuralDiff.Proofs.Source.Stream
import StructuralDiff.Proofs.Source.Bare

/-!
# Edits of the layout

What may be done to a source without a change to its signature: spacing it differently, putting in comments,
putting an expression in parentheses, and putting a comma before a closing bracket. An edit may be anywhere in a
tree, so it is looked at together with the tokens on both sides of it.

* `SourceTree.Edit`: an edit of a tree between given tokens.
* `SourceTree.Edit.dropTrailingCommas_eq`: it does not change what is left when trailing commas are dropped.
* `SourceTree.signature_eq_of_edits`: so no sequence of edits, forth or back, changes the signature.
-/

namespace StructuralDiff.SourceTree

/-! ### Children of a node -/

/-- The node with other children. -/
def withChildren (node : SourceTree) (children : List SourceTree) : SourceTree :=
  { node with children }

/-- The tree is a parenthesis. -/
def isParenthesis (tree : SourceTree) : Bool :=
  tree.kind == "(" || tree.kind == ")"

/-- Something can be put between the children of a node: the node is not a leaf, and if it is an expression in
parentheses, the place is inside of them. -/
def IsGap (kind : String) (before after : List SourceTree) : Prop :=
  before ++ after ≠ [] ∧ (isGrouped kind (before ++ after) = true → before ≠ [] ∧ after ≠ [])

/-- The tokens of the first children of a node, up to a gap; an opening parenthesis is left out of a group. -/
def tokensBefore (grouped : Bool) (before : List SourceTree) : List String :=
  (if grouped then before.drop 1 else before).flatMap tokens

/-- The tokens of the last children of a node, from a gap on; a closing parenthesis is left out of a group. -/
def tokensAfter (grouped : Bool) (after : List SourceTree) : List String :=
  (if grouped then after.dropLast else after).flatMap tokens

variable {node tree : SourceTree} {kind : String} {before after : List SourceTree}

/-- The tokens of a node are those of its children, without the parentheses of a group. -/
theorem tokens_withChildren {children : List SourceTree} (hchildren : children ≠ []) :
    (node.withChildren children).tokens = if node.isIgnored then [] else
      (if isGrouped node.kind children then (children.drop 1).dropLast else children).flatMap tokens := by
  rw [tokens, maskedTokens_eq, innerChildren]
  simp only [withChildren, isIgnored, List.isEmpty_iff, hchildren, if_false]
  rfl

theorem isGrouped_append (hbefore : before ≠ []) (hafter : after ≠ []) (middle : List SourceTree) :
    isGrouped kind (before ++ middle ++ after) = isGrouped kind (before ++ after) := by
  unfold isGrouped
  rw [List.append_assoc, List.head?_append_of_ne_nil _ hbefore, List.head?_append_of_ne_nil _ hbefore,
    ← List.append_assoc, List.getLast?_append_of_ne_nil _ hafter, List.getLast?_append_of_ne_nil _ hafter]

/-- Putting something into a gap that is no parenthesis makes no group and breaks none. -/
theorem isGrouped_insert (hgap : IsGap kind before after) (htree : tree.isParenthesis = false) :
    isGrouped kind (before ++ tree :: after) = isGrouped kind (before ++ after) := by
  simp only [isParenthesis, Bool.or_eq_false_iff, beq_eq_false_iff_ne] at htree
  by_cases hends : before ≠ [] ∧ after ≠ []
  · have h : isGrouped kind (before ++ [tree] ++ after) = isGrouped kind (before ++ after) :=
      isGrouped_append hends.1 hends.2 [tree]
    rwa [List.append_assoc, List.singleton_append] at h
  · -- At the ends of a node that is no group, the new child is the first or the last one.
    rw [Bool.eq_false_iff.2 fun hgrouped => hends (hgap.2 hgrouped), Bool.eq_false_iff]
    intro hgrouped
    simp only [isGrouped, Bool.and_eq_true, beq_iff_eq] at hgrouped
    obtain ⟨⟨-, hfirst⟩, hlast⟩ := hgrouped
    rw [not_and_or, not_not, not_not] at hends
    rcases hends with rfl | rfl
    · exact htree.1 (by simpa using hfirst)
    · exact htree.2 (by simpa using hlast)

/-- The children of a group between its parentheses. -/
theorem drop_dropLast_append (hbefore : before ≠ []) (hafter : after ≠ []) (middle : List SourceTree) :
    ((before ++ middle ++ after).drop 1).dropLast = before.drop 1 ++ middle ++ after.dropLast := by
  obtain ⟨first, rest, rfl⟩ := List.exists_cons_of_ne_nil hbefore
  rw [List.append_assoc, List.cons_append, List.drop_one, List.tail_cons, ← List.append_assoc,
    List.dropLast_append_of_ne_nil hafter]
  rfl

/-- The tokens of a node around a gap with something in it. -/
theorem tokens_fill {middle : List SourceTree} (hne : before ++ middle ++ after ≠ [])
    (hends : isGrouped node.kind (before ++ middle ++ after) = true → before ≠ [] ∧ after ≠ [])
    (hnode : node.isIgnored = false) : (node.withChildren (before ++ middle ++ after)).tokens =
      tokensBefore (isGrouped node.kind (before ++ middle ++ after)) before ++ middle.flatMap tokens ++
        tokensAfter (isGrouped node.kind (before ++ middle ++ after)) after := by
  rw [tokens_withChildren hne, hnode, if_neg Bool.false_ne_true]
  cases hgrouped : isGrouped node.kind (before ++ middle ++ after) with
  | true =>
    obtain ⟨hbefore, hafter⟩ := hends hgrouped
    rw [if_pos rfl, drop_dropLast_append hbefore hafter, List.flatMap_append, List.flatMap_append]
    rfl
  | false =>
    rw [if_neg Bool.false_ne_true, List.flatMap_append, List.flatMap_append]
    rfl

theorem tokens_gap (hgap : IsGap node.kind before after) (hnode : node.isIgnored = false) :
    (node.withChildren (before ++ after)).tokens =
      tokensBefore (isGrouped node.kind (before ++ after)) before ++
        tokensAfter (isGrouped node.kind (before ++ after)) after := by
  have h := @tokens_fill node before after [] (by simpa using hgap.1) (by simpa using hgap.2) hnode
  simpa using h

theorem tokens_insert (hgap : IsGap node.kind before after) (htree : tree.isParenthesis = false)
    (hnode : node.isIgnored = false) : (node.withChildren (before ++ tree :: after)).tokens =
      tokensBefore (isGrouped node.kind (before ++ after)) before ++ tree.tokens ++
        tokensAfter (isGrouped node.kind (before ++ after)) after := by
  have hgrouped := isGrouped_insert hgap htree
  have h := @tokens_fill node before after [tree] (by simp) (by simpa [hgrouped] using hgap.2) hnode
  simpa [hgrouped] using h

/-! ### Edits -/

/-- An edit of the layout of a tree that has the tokens `left` before it and the tokens `right` behind it. -/
inductive Edit : (left right : List String) → SourceTree → SourceTree → Prop
  /-- Places change, and blanks around the leaves. -/
  | respace {left right : List String} {a b : SourceTree} (hshape : a.sameShape b = true)
    (htexts : a.leaves.map Leaf.trimmed = b.leaves.map Leaf.trimmed) : Edit left right a b
  /-- A comment, or another node without tokens, is put in. -/
  | comment {left right : List String} {node tree : SourceTree} {before after : List SourceTree}
    (htree : tree.isIgnored = true) (hkind : tree.isParenthesis = false) (hgap : IsGap node.kind before after) :
    Edit left right (node.withChildren (before ++ after)) (node.withChildren (before ++ tree :: after))
  /-- A tree is put in parentheses. -/
  | wrap {left right : List String} {tree wrapper opener closer : SourceTree} (hkind : tree.isParenthesis = false)
    (hwrapper : wrapper.kind = "parenthesized_expression") (hextra : wrapper.extra = false)
    (hopener : opener.kind = "(") (hcloser : closer.kind = ")") :
    Edit left right tree (wrapper.withChildren [opener, tree, closer])
  /-- A comma is put in before a closing bracket, but not behind another comma. -/
  | comma {left right : List String} {node tree : SourceTree} {before after : List SourceTree}
    (hkind : tree.kind = ",") (hextra : tree.extra = false) (hleaf : tree.children = [])
    (htext : Text.trim tree.text = ",") (hgap : IsGap node.kind before after)
    (hnext : (tokensAfter (isGrouped node.kind (before ++ after)) after ++ right).head?.any isCloser = true)
    (hlast : (left ++ tokensBefore (isGrouped node.kind (before ++ after)) before).getLast? ≠ some ",") :
    Edit left right (node.withChildren (before ++ after)) (node.withChildren (before ++ tree :: after))
  /-- A child is edited. -/
  | inside {left right : List String} {node child child' : SourceTree} {before after : List SourceTree}
    (h : Edit (left ++ tokensBefore (isGrouped node.kind (before ++ child :: after)) before)
      (tokensAfter (isGrouped node.kind (before ++ child :: after)) after ++ right) child child') :
    Edit left right (node.withChildren (before ++ child :: after)) (node.withChildren (before ++ child' :: after))

theorem tokens_of_isIgnored (h : tree.isIgnored = true) : tree.tokens = [] := by
  rw [tokens, maskedTokens_eq, if_pos h]

/-- Whatever stands in an ignored node, it has no tokens. -/
theorem tokens_withChildren_of_isIgnored (h : node.isIgnored = true) (children : List SourceTree) :
    (node.withChildren children).tokens = [] :=
  tokens_of_isIgnored h

theorem tokens_eq_of_trimmed {a b : SourceTree} (h : a.leaves.map Leaf.trimmed = b.leaves.map Leaf.trimmed) :
    a.tokens = b.tokens := by
  have htrimmed (tree : SourceTree) : tree.tokens = (tree.leaves.map Leaf.trimmed).filter (· != "") := by
    simp only [tokens_eq_trimmed, counted, List.filter_map, Function.comp_def, Leaf.isBlank, bne]
  rw [htrimmed, htrimmed, h]

/-- The parentheses around a tree have no tokens, and it keeps its own. -/
theorem tokens_wrap {wrapper opener closer : SourceTree} (hwrapper : wrapper.kind = "parenthesized_expression")
    (hextra : wrapper.extra = false) (hopener : opener.kind = "(") (hcloser : closer.kind = ")") :
    (wrapper.withChildren [opener, tree, closer]).tokens = tree.tokens := by
  have hgrouped : isGrouped wrapper.kind [opener, tree, closer] = true := by
    simp [isGrouped, hwrapper, hopener, hcloser]
  have hvisible : wrapper.isIgnored = false := by
    rw [isIgnored, hextra, hwrapper]
    decide
  rw [tokens_withChildren (by simp), hvisible, if_neg Bool.false_ne_true, if_pos hgrouped]
  simp

/-- A comma before a closing bracket goes away, if what is before it does not end with a comma that would take its
place. -/
theorem dropTrailingCommas_comma {x y : List String} (hnext : y.head?.any isCloser = true)
    (hlast : x.getLast? ≠ some ",") : dropTrailingCommas (x ++ "," :: y) = dropTrailingCommas (x ++ y) := by
  have hcomma : dropCommasBefore none ("," :: y) = dropCommasBefore none y := by
    rw [dropCommasBefore, if_pos (by simpa using hnext)]
  have hkept (next : Option String) : dropCommasBefore next x = dropCommasBefore none x := by
    rcases List.eq_nil_or_concat x with rfl | ⟨rest, token, rfl⟩
    · rfl
    · rw [List.concat_eq_append, List.getLast?_concat] at hlast
      have htoken : (token == ",") = false := beq_eq_false_iff_ne.2 fun h => hlast (congrArg some h)
      rw [List.concat_eq_append, dropCommasBefore_append, dropCommasBefore_append]
      simp [dropCommasBefore, htoken]
  rw [dropTrailingCommas_eq, dropTrailingCommas_eq, dropCommasBefore_append, dropCommasBefore_append, hcomma,
    hkept, hkept (y.head?.or none)]

namespace Edit

variable {left right : List String} {a b : SourceTree}

/-- An edit makes no parenthesis of something else, nor the other way round. -/
theorem parentheses (h : Edit left right a b) :
    (a.kind = "(" ↔ b.kind = "(") ∧ (a.kind = ")" ↔ b.kind = ")") := by
  cases h with
  | respace hshape => rw [kind_eq_of_sameShape hshape]; simp
  | wrap hkind hwrapper =>
    simp only [isParenthesis, Bool.or_eq_false_iff, beq_eq_false_iff_ne] at hkind
    simp [hkind, withChildren, hwrapper]
  | comment | comma | inside => exact ⟨Iff.rfl, Iff.rfl⟩

theorem isGrouped_eq {child child' : SourceTree} (h : Edit left right child child') :
    isGrouped kind (before ++ child :: after) = isGrouped kind (before ++ child' :: after) := by
  obtain ⟨hopen, hclose⟩ := h.parentheses
  have hfirst : (before ++ child :: after).head?.map (·.kind) = some "(" ↔
      (before ++ child' :: after).head?.map (·.kind) = some "(" := by
    cases before with
    | nil => simpa using hopen
    | cons first rest => rfl
  have hlast : (before ++ child :: after).getLast?.map (·.kind) = some ")" ↔
      (before ++ child' :: after).getLast?.map (·.kind) = some ")" := by
    cases after with
    | nil => simpa using hclose
    | cons next rest => simp [List.getLast?_cons]
  rw [Bool.eq_iff_iff]
  simp only [isGrouped, Bool.and_eq_true, beq_iff_eq, hfirst, hlast]

/-- **An edit does not change what is left when trailing commas are dropped.** The induction is on the way down to
the place of the edit, and carries the tokens on both sides of it. -/
theorem dropTrailingCommas_eq (h : Edit left right a b) :
    dropTrailingCommas (left ++ a.tokens ++ right) = dropTrailingCommas (left ++ b.tokens ++ right) := by
  induction h with
  | respace _ htexts => rw [tokens_eq_of_trimmed htexts]
  | @comment left right node tree before after htree hkind hgap =>
    cases hnode : node.isIgnored with
    | true => rw [tokens_withChildren_of_isIgnored hnode, tokens_withChildren_of_isIgnored hnode]
    | false =>
      rw [tokens_gap hgap hnode, tokens_insert hgap hkind hnode, tokens_of_isIgnored htree, List.append_nil]
  | wrap _ hwrapper hextra hopener hcloser => rw [tokens_wrap hwrapper hextra hopener hcloser]
  | @comma left right node tree before after hkind hextra hleaf htext hgap hnext hlast =>
    cases hnode : node.isIgnored with
    | true => rw [tokens_withChildren_of_isIgnored hnode, tokens_withChildren_of_isIgnored hnode]
    | false =>
      have htokens : tree.tokens = [","] := by
        have hvisible : tree.isIgnored = false := by
          rw [isIgnored, hextra, hkind]
          decide
        rw [tokens, maskedTokens_eq, hvisible, hleaf]
        simp [leafToken, htext]
      have hparenthesis : tree.isParenthesis = false := by
        rw [isParenthesis, hkind]
        decide
      have hdrop := dropTrailingCommas_comma hnext hlast
      rw [tokens_gap hgap hnode, tokens_insert hgap hparenthesis hnode, htokens]
      simpa only [List.append_assoc, List.cons_append, List.nil_append] using hdrop.symm
  | @inside left right node child child' before after h ih =>
    have hgrouped : isGrouped node.kind (before ++ child :: after) = isGrouped node.kind (before ++ child' :: after) :=
      h.isGrouped_eq
    cases hnode : node.isIgnored with
    | true => rw [tokens_withChildren_of_isIgnored hnode, tokens_withChildren_of_isIgnored hnode]
    | false =>
      by_cases hends : isGrouped node.kind (before ++ child :: after) = true → before ≠ [] ∧ after ≠ []
      · have hfill := @tokens_fill node before after [child] (by simp) (by simpa using hends) hnode
        have hfill' := @tokens_fill node before after [child'] (by simp) (by simpa [← hgrouped] using hends) hnode
        simp only [List.append_assoc, List.singleton_append, List.flatMap_singleton, ← hgrouped] at hfill hfill'
        rw [hfill, hfill']
        simpa only [List.append_assoc] using ih
      · -- The child is itself a parenthesis of a group, and has no tokens.
        rw [Classical.not_imp, not_and_or, not_not, not_not] at hends
        obtain ⟨hgroup, hends⟩ := hends
        rw [tokens_withChildren (by simp), tokens_withChildren (by simp), ← hgrouped, if_pos hgroup, if_pos hgroup]
        rcases hends with rfl | rfl
        · rfl
        · cases before <;> simp

end Edit

/-- **Signatures do not depend on layout**: no sequence of edits, forth or back, changes the stream of a tree. -/
theorem signature_eq_of_edits {a b : SourceTree} (h : Relation.EqvGen (Edit [] []) a b) :
    a.stream = b.stream ∧ a.signature = b.signature := by
  have hstream : a.stream = b.stream := by
    induction h with
    | rel a b h => simpa [stream] using h.dropTrailingCommas_eq
    | refl => rfl
    | symm a b _ ih => exact ih.symm
    | trans a b c _ _ ih ih' => exact ih.trans ih'
  exact ⟨hstream, by rw [signature, hstream, signature]⟩

/-- A leaf; comments may stand anywhere. -/
def leafOf (kind text : String) : SourceTree :=
  { kind, field := none, named := true, extra := kind == "comment", error := false, missing := false
    startByte := 0, endByte := 0, startRow := 0, endRow := 0, text, children := [] }

/-- A node with children. -/
def nodeOf (kind : String) (children : List SourceTree) : SourceTree :=
  (leafOf kind "").withChildren children

/-- A call with an argument behind a comment. -/
def commentedCall : SourceTree :=
  nodeOf "call" [leafOf "identifier" "f", nodeOf "argument_list"
    [leafOf "(" "(", leafOf "comment" "# c", leafOf "identifier" "a", leafOf ")" ")"]]

/-- The same call with the argument in parentheses, and a comma after it. -/
def groupedCall : SourceTree :=
  nodeOf "call" [leafOf "identifier" "f", nodeOf "argument_list"
    [leafOf "(" "(", nodeOf "parenthesized_expression" [leafOf "(" "(", leafOf "identifier" " a ", leafOf ")" ")"],
      leafOf "," ",", leafOf ")" ")"]]

theorem signature_eq_of_edits_call : Relation.EqvGen (Edit [] []) commentedCall groupedCall ∧
    commentedCall.stream = groupedCall.stream ∧ commentedCall.signature = groupedCall.signature := by
  -- The argument list of the call, before and after one step.
  have hstep {xs ys : List SourceTree} (h : Edit ["f"] [] (nodeOf "argument_list" xs) (nodeOf "argument_list" ys)) :
      Edit [] [] (nodeOf "call" [leafOf "identifier" "f", nodeOf "argument_list" xs])
        (nodeOf "call" [leafOf "identifier" "f", nodeOf "argument_list" ys]) :=
    @Edit.inside [] [] _ _ _ [leafOf "identifier" "f"] [] h
  let opener := leafOf "(" "("
  let closer := leafOf ")" ")"
  let argument := leafOf "identifier" "a"
  let group := nodeOf "parenthesized_expression" [opener, argument, closer]
  have hcomment : Edit ["f"] [] (nodeOf "argument_list" [opener, argument, closer])
      (nodeOf "argument_list" [opener, leafOf "comment" "# c", argument, closer]) :=
    @Edit.comment _ _ (leafOf "argument_list" "") _ [opener] [argument, closer] (by decide) (by decide)
      ⟨by simp, by simp⟩
  have hwrap : Edit ["f"] [] (nodeOf "argument_list" [opener, argument, closer])
      (nodeOf "argument_list" [opener, group, closer]) :=
    @Edit.inside _ _ (leafOf "argument_list" "") _ _ [opener] [closer] (.wrap (by decide) rfl rfl rfl rfl)
  have hcomma : Edit ["f"] [] (nodeOf "argument_list" [opener, group, closer])
      (nodeOf "argument_list" [opener, group, leafOf "," ",", closer]) :=
    @Edit.comma _ _ (leafOf "argument_list" "") _ [opener, group] [closer] rfl rfl rfl (by decide)
      ⟨by simp, by simp⟩ (by decide) (by decide)
  have hspace : Edit [] [] (nodeOf "call" [leafOf "identifier" "f", nodeOf "argument_list"
      [opener, group, leafOf "," ",", closer]]) groupedCall :=
    .respace (by decide) (by decide)
  have hedits : Relation.EqvGen (Edit [] []) commentedCall groupedCall :=
    .trans _ _ _ (.symm _ _ (.rel _ _ (hstep hcomment))) (.trans _ _ _ (.rel _ _ (hstep hwrap))
      (.trans _ _ _ (.rel _ _ (hstep hcomma)) (.rel _ _ hspace)))
  exact ⟨hedits, signature_eq_of_edits hedits⟩

end StructuralDiff.SourceTree
