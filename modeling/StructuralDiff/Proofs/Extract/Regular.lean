import StructuralDiff.Analysis
import StructuralDiff.Proofs.Outline
import StructuralDiff.Proofs.Source.Exit

/-!
# What outlines are made of

What a file says about its symbols is made of a few things: imports and references, the control flow of functions, and
declarations of functions, of classes and of endpoints. So a property that all of these keep holds of the outlines of
every tree.

* `Outline.Keeps`: what it means to keep a property.
* `Python.holds_outlines`, `Script.holds_outlines`: it holds of all outlines then.
* `Language.regularAll_outlines`: outlines are regular; only symbols are declared, and nothing inside an endpoint.
-/

namespace StructuralDiff

/-! ### The parts of outlines -/

namespace Outline

/-- An outline that imports or refers to something. -/
def isPlain : Outline → Bool
  | .imports _ | .refers _ _ => true
  | .flows _ | .declares _ _ => false

theorem isPlain_of_mem_map {α : Type} {f : α → Outline} (hf : ∀ a, (f a).isPlain = true) {l : List α} :
    ∀ outline ∈ l.map f, outline.isPlain = true :=
  List.forall_mem_map.2 fun a _ => hf a

theorem isPlain_of_mem_toList {α : Type} {f : α → Outline} (hf : ∀ a, (f a).isPlain = true) {o : Option α} :
    ∀ outline ∈ (o.map f).toList, outline.isPlain = true := by
  rw [Option.toList_map]
  exact isPlain_of_mem_map hf

/-- Whatever outlines are made of keeps the property `Holds`, and in the body of a function, where control flow may
stand, the property `Within`. A function that is declared `Stands` in the tree. -/
structure Keeps (Stands : Outline → Prop) (Holds Within : List Outline → Prop) : Prop where
  append {a b : List Outline} : Holds a → Holds b → Holds (a ++ b)
  plain {outlines : List Outline} : (∀ outline ∈ outlines, outline.isPlain = true) → Holds outlines
  endpoint {declaration : Declaration} : declaration.kind = .endpoint → Holds [.declares declaration []]
  container {declaration : Declaration} {inner : List Outline} : declaration.kind.isSymbol = true →
    declaration.kind.isCallable = false → declaration.kind ≠ .endpoint → Holds inner →
      Holds [.declares declaration inner]
  function {declaration : Declaration} {inner : List Outline} : declaration.kind.isCallable = true →
    Stands (.declares declaration inner) → Within inner → Holds [.declares declaration inner]
  within {outlines : List Outline} : Holds outlines → Within outlines
  body {a b : List Outline} (flow : List FlowStmt) : Holds a → Holds b → Within (a ++ [.flows flow] ++ b)

theorem Keeps.nil {Stands : Outline → Prop} {Holds Within : List Outline → Prop}
    (h : Keeps Stands Holds Within) : Holds [] :=
  h.plain (List.forall_mem_nil _)

/-- The outline is that of a function in a tree. -/
def StandsIn (IsFunction : SourceTree → SourceTree → Outline → Prop) (root : SourceTree)
    (outline : Outline) : Prop :=
  ∃ outer ∈ root.nodes, ∃ function ∈ root.nodes, IsFunction outer function outline

end Outline

open Outline

namespace Python

/-! ### Python -/

/-- The outline of a function definition, which may stand under decorators. -/
def IsFunction (outer function : SourceTree) (outline : Outline) : Prop :=
  function.kind = "function_definition" ∧ (outer = function ∨ outer.child? "definition" = some function) ∧
    ∃ inClass decorators, definition inClass outer decorators function = [outline]

theorem kind_of_endpoint? {decorator : Decorator} {declaration : Declaration}
    (h : endpoint? decorator = some declaration) : declaration.kind = .endpoint := by
  unfold endpoint? at h
  by_cases hcall : (decorator.expr.kind != "call") = true
  · simp [hcall] at h
  · simp only [hcall, Bool.false_eq_true, if_false] at h
    simp [Option.bind_eq_some_iff] at h
    obtain ⟨_, _, _, _, _, _, _, _, _, _, rfl⟩ := h
    rfl

/-- A class declares a symbol that is neither a function nor an endpoint. -/
theorem classKind_cases (name : String) : (classKind name).isSymbol = true ∧
    (classKind name).isCallable = false ∧ classKind name ≠ .endpoint := by
  unfold classKind
  split
  · exact ⟨rfl, rfl, by decide⟩
  · split
    · exact ⟨rfl, rfl, by decide⟩
    · exact ⟨rfl, rfl, by decide⟩

/-- The outline of a class definition: what it extends, and what its body declares. -/
theorem definition_of_class (inClass : Bool) (outer : SourceTree) (decorators : List Decorator)
    {class_ name : SourceTree} (hkind : class_.kind = "class_definition")
    (hname : class_.child? "name" = some name) :
    definition inClass outer decorators class_ =
      [.declares (.ofTree (classKind name.text) name.text outer (withDecorators .empty decorators))
        ((baseNames class_).map (.refers .extends) ++ outlines true (members (class_.child? "body")))] := by
  have hclass : (class_.kind == "class_definition") = true := beq_iff_eq.2 hkind
  rw [definition, hname]
  dsimp only
  rw [hclass, if_pos rfl]

/-- The outline of a function definition: its endpoints, its calls, its control flow and what its body declares. -/
theorem definition_of_function (inClass : Bool) (outer : SourceTree) (decorators : List Decorator)
    {function name : SourceTree} (hkind : function.kind = "function_definition")
    (hname : function.child? "name" = some name) :
    definition inClass outer decorators function =
      [.declares (.ofTree (if inClass then .method else .function) name.text outer
          (functionMetadata function decorators))
        ((decorators.filterMap endpoint?).map (fun endpoint => .declares endpoint []) ++
          match function.child? "body" with
          | some block => (calls block).map (.refers .call) ++ [.flows (lowerAll (statements (some block)))]
              ++ outlines false block.namedChildren
          | none => [])] := by
  have hclass : ¬(function.kind == "class_definition") = true := by
    rw [hkind]
    decide
  have hfunction : (function.kind == "function_definition") = true := beq_iff_eq.2 hkind
  rw [definition, hname]
  dsimp only
  rw [if_neg hclass, if_pos hfunction, Bool.eq_false_of_not_eq_true hclass]
  cases function.child? "body" <;> rfl

section Keeps

variable {root : SourceTree} {Stands : Outline → Prop} {Holds Within : List Outline → Prop}

theorem holds_endpoints (h : Keeps Stands Holds Within) (decorators : List Decorator) :
    Holds ((decorators.filterMap endpoint?).map fun endpoint => .declares endpoint []) := by
  induction decorators with
  | nil => exact h.nil
  | cons decorator rest ih =>
    rw [List.filterMap_cons]
    split
    · exact ih
    · next endpoint hendpoint => exact h.append (h.endpoint (kind_of_endpoint? hendpoint)) ih

mutual

theorem holds_definition (h : Keeps (StandsIn IsFunction root) Holds Within) (inClass : Bool) {outer : SourceTree}
    (decorators : List Decorator) {definition_ : SourceTree} (houter : outer ∈ root.nodes)
    (hmem : definition_ ∈ root.nodes) (hholds : outer = definition_ ∨ outer.child? "definition" = some definition_) :
    Holds (definition inClass outer decorators definition_) := by
  have hmembers : members (definition_.child? "body") ⊆ root.nodes := by
    cases hpart : definition_.child? "body" with
    | none => exact List.nil_subset _
    | some block =>
      exact fun tree htree => SourceTree.children_subset_nodes (SourceTree.child?_mem_nodes hmem hpart)
        (List.mem_filter.1 htree).1
  have hbody (inClass : Bool) := holds_outlines h inClass hmembers
  cases hname : definition_.child? "name" with
  | none =>
    rw [definition, hname]
    exact h.nil
  | some name =>
    by_cases hkind : definition_.kind = "function_definition"
    · have htrace := definition_of_function inClass outer decorators hkind hname
      have hcallable : (if inClass then NodeKind.method else .function).isCallable = true := by
        cases inClass <;> rfl
      rw [htrace]
      refine h.function hcallable ⟨outer, houter, definition_, hmem, hkind, hholds, inClass, decorators, htrace⟩ ?_
      have hendpoints := holds_endpoints h decorators
      cases hpart : definition_.child? "body" with
      | none => exact h.within (h.append hendpoints h.nil)
      | some block =>
        rw [hpart] at hbody
        dsimp only
        rw [← List.append_assoc, ← List.append_assoc]
        exact h.body _ (h.append hendpoints (h.plain (isPlain_of_mem_map fun _ => rfl))) (hbody false)
    · -- A class is no function itself, and its members stand in its body.
      have hfunction : ¬(definition_.kind == "function_definition") = true := mt beq_iff_eq.1 hkind
      rw [definition, hname]
      dsimp only
      rw [if_neg hfunction]
      split
      · obtain ⟨hsymbol, hcallable, hne⟩ := classKind_cases name.text
        exact h.container hsymbol hcallable hne (h.append (h.plain (isPlain_of_mem_map fun _ => rfl)) (hbody _))
      · exact h.nil
termination_by (sizeOf definition_, 0)
decreasing_by
  exact Prod.Lex.left _ _ (sizeOf_members_lt fun _ h => SourceTree.sizeOf_lt_of_child? h)

theorem holds_outline (h : Keeps (StandsIn IsFunction root) Holds Within) (inClass : Bool) {tree : SourceTree}
    (hmem : tree ∈ root.nodes) : Holds (outline inClass tree) := by
  rw [outline]
  split
  · exact h.plain (isPlain_of_mem_map fun _ => rfl)
  split
  · exact h.plain (isPlain_of_mem_toList fun _ => rfl)
  split
  · exact holds_definition h inClass [] hmem hmem (.inl rfl)
  split
  · split
    · next inner hinner =>
      exact holds_definition h inClass _ hmem (SourceTree.child?_mem_nodes hmem hinner) (.inr hinner)
    · exact h.nil
  split
  · exact holds_outlines h inClass fun child hchild =>
      SourceTree.children_subset_nodes hmem (List.mem_filter.1 hchild).1
  · exact h.nil
termination_by (sizeOf tree, 1)
decreasing_by
  · exact Prod.Lex.left _ _ tree.sizeOf_namedChildren_lt
  · exact Prod.Lex.left _ _ (SourceTree.sizeOf_lt_of_child? ‹_›)
  · exact Prod.Lex.right _ (by decide)

/-- **What the parts of Python outlines keep holds of the outlines of all statements in a tree.** -/
theorem holds_outlines (h : Keeps (StandsIn IsFunction root) Holds Within) (inClass : Bool)
    {trees : List SourceTree} (hsub : trees ⊆ root.nodes) : Holds (outlines inClass trees) := by
  match trees with
  | [] =>
    rw [outlines]
    exact h.nil
  | tree :: rest =>
    rw [List.cons_subset] at hsub
    rw [outlines]
    exact h.append (holds_outline h inClass hsub.1) (holds_outlines h inClass hsub.2)
termination_by (sizeOf trees, 0)
decreasing_by
  all_goals
    refine Prod.Lex.left _ _ ?_
    simp only [List.cons.sizeOf_spec]
    omega

end

end Keeps

end Python

namespace Script

/-! ### Scripts -/

/-- The outline of a function with a name, which may be a value, or of a callback. -/
inductive IsFunction : SourceTree → SourceTree → Outline → Prop
  | named (inClass : Bool) (comment : Option SourceTree) {outer function : SourceTree} (name : String)
      (h : outer = function ∨ outer.child? "value" = some function) :
      IsFunction outer function (Script.function inClass comment outer name function)
  | callback (callee : String) (comment : Option SourceTree) (function : SourceTree) :
      IsFunction function function
        (.declares (callbackDeclaration callee function comment) (functionBody function))

theorem isCallable_functionKind (inClass : Bool) (name : String) (function : SourceTree) :
    (functionKind inClass name function).isCallable = true := by
  unfold functionKind
  split
  · rfl
  split
  · rfl
  split
  · rfl
  · rfl

theorem isPlain_of_mem_sourceModule {stmt : SourceTree} :
    ∀ outline ∈ sourceModule stmt, outline.isPlain = true :=
  isPlain_of_mem_toList fun _ => rfl

theorem isPlain_of_mem_references {tree : SourceTree} : ∀ outline ∈ references tree, outline.isPlain = true := by
  unfold references
  split
  · unfold callReference
    split
    · exact List.forall_mem_nil _
    · exact isPlain_of_mem_toList fun _ => rfl
  split
  · unfold renderReference
    split
    · exact List.forall_mem_nil _
    · split
      · exact List.forall_mem_singleton.2 rfl
      · exact List.forall_mem_nil _
  · exact List.forall_mem_nil _

theorem isPlain_of_mem_heritage {class_ : SourceTree} : ∀ outline ∈ heritage class_, outline.isPlain = true := by
  unfold heritage
  split
  · exact List.forall_mem_nil _
  · intro outline houtline
    obtain ⟨clause, -, hclause⟩ := List.mem_flatMap.1 houtline
    dsimp only at hclause
    split at hclause
    · exact isPlain_of_mem_map (fun _ => rfl) outline hclause
    split at hclause
    · exact isPlain_of_mem_map (fun _ => rfl) outline hclause
    · exact isPlain_of_mem_toList (fun _ => rfl) outline hclause

section Keeps

variable {root : SourceTree} {Holds Within : List Outline → Prop}

/-- A function with a name, when what stands in its body is known. -/
theorem holds_function (h : Keeps (StandsIn IsFunction root) Holds Within) (inClass : Bool)
    (comment : Option SourceTree) {outer : SourceTree} (name : String) {value : SourceTree}
    (houter : outer ∈ root.nodes) (hmem : value ∈ root.nodes)
    (hholds : outer = value ∨ outer.child? "value" = some value) (hinside : Within (functionBody value)) :
    Holds [function inClass comment outer name value] := by
  have htrace : StandsIn IsFunction root (function inClass comment outer name value) :=
    ⟨outer, houter, value, hmem, .named inClass comment name hholds⟩
  rw [function] at htrace ⊢
  exact h.function (isCallable_functionKind inClass name value) htrace hinside

mutual

theorem within_functionBody (h : Keeps (StandsIn IsFunction root) Holds Within) {function : SourceTree}
    (hmem : function ∈ root.nodes) : Within (functionBody function) := by
  rw [functionBody]
  split
  · exact h.within h.nil
  · next body hbody =>
    have hchildren := SourceTree.children_subset_nodes (SourceTree.child?_mem_nodes hmem hbody)
    refine h.body _ (h.append (h.plain isPlain_of_mem_references) (holds_scanAll h _ none hchildren)) ?_
    split
    · exact holds_outlines h false none none hchildren
    · exact h.nil
termination_by (sizeOf function, 0)
decreasing_by
  all_goals
    refine Prod.Lex.left _ _ ?_
    exact Nat.lt_trans (SourceTree.sizeOf_children_lt _) (SourceTree.sizeOf_lt_of_child? ‹_›)

theorem holds_scan (h : Keeps (StandsIn IsFunction root) Holds Within) (context : Context)
    (previous : Option SourceTree) {tree : SourceTree} (hmem : tree ∈ root.nodes) :
    Holds (scan context previous tree) := by
  rw [scan]
  split
  · exact h.nil
  split
  · exact h.function rfl ⟨tree, hmem, tree, hmem, .callback _ previous tree⟩ (within_functionBody h hmem)
  split
  · exact h.nil
  · exact h.append (h.plain isPlain_of_mem_references)
      (holds_scanAll h _ none (SourceTree.children_subset_nodes hmem))
termination_by (sizeOf tree, 1)
decreasing_by
  · exact Prod.Lex.left _ _ tree.sizeOf_children_lt
  · exact Prod.Lex.right _ (by decide)

theorem holds_scanAll (h : Keeps (StandsIn IsFunction root) Holds Within) (context : Context)
    (previous : Option SourceTree) {trees : List SourceTree} (hsub : trees ⊆ root.nodes) :
    Holds (scanAll context previous trees) := by
  match trees with
  | [] =>
    rw [scanAll]
    exact h.nil
  | tree :: rest =>
    rw [List.cons_subset] at hsub
    rw [scanAll]
    split
    · exact h.append (holds_scan h context previous hsub.1) (holds_scanAll h context (some tree) hsub.2)
    · exact holds_scanAll h context previous hsub.2
termination_by (sizeOf trees, 0)
decreasing_by
  all_goals
    refine Prod.Lex.left _ _ ?_
    simp only [List.cons.sizeOf_spec]
    omega

theorem holds_bindings (h : Keeps (StandsIn IsFunction root) Holds Within) (inClass : Bool)
    (comment : Option SourceTree) {declarators : List SourceTree} (hsub : declarators ⊆ root.nodes) :
    Holds (bindings inClass comment declarators) := by
  match declarators with
  | [] =>
    rw [bindings]
    exact h.nil
  | declarator :: rest =>
    rw [List.cons_subset] at hsub
    rw [bindings]
    refine h.append ?_ (holds_bindings h inClass comment hsub.2)
    split
    · next value _ hvalue =>
      split
      · have hmem := SourceTree.child?_mem_nodes hsub.1 hvalue
        exact holds_function h inClass comment _ hsub.1 hmem (.inr hvalue) (within_functionBody h hmem)
      · exact h.nil
    · exact h.nil
termination_by (sizeOf declarators, 0)
decreasing_by
  · refine Prod.Lex.left _ _ ?_
    have := SourceTree.sizeOf_lt_of_child? ‹declarator.child? "value" = _›
    simp only [List.cons.sizeOf_spec]
    omega
  · refine Prod.Lex.left _ _ ?_
    simp only [List.cons.sizeOf_spec]
    omega

theorem holds_outline (h : Keeps (StandsIn IsFunction root) Holds Within) (inClass : Bool)
    (comment : Option SourceTree) {tree : SourceTree} (hmem : tree ∈ root.nodes) :
    Holds (outline inClass comment tree) := by
  have hchildren := SourceTree.children_subset_nodes hmem
  have hmodule : Holds (sourceModule tree) := h.plain isPlain_of_mem_sourceModule
  -- in the order of the kinds: imports, exports, functions, classes, variables, fields, statements
  rw [outline]
  split
  · exact hmodule
  split
  · exact h.append hmodule (holds_outlines h inClass (some comment) none hchildren)
  split
  · split
    · exact holds_function h inClass comment _ hmem hmem (.inl rfl) (within_functionBody h hmem)
    · exact h.nil
  split
  · split
    · have hkind : NodeKind.classType ≠ .endpoint := by decide
      refine h.container rfl rfl hkind (h.append (h.plain isPlain_of_mem_heritage) ?_)
      split
      · next body hbody =>
        exact holds_outlines h true none none
          (SourceTree.children_subset_nodes (SourceTree.child?_mem_nodes hmem hbody))
      · exact h.nil
    · exact h.nil
  split
  · exact holds_bindings h inClass comment fun declarator hdeclarator => hchildren (List.mem_filter.1 hdeclarator).1
  split
  · split
    · next value _ hvalue =>
      split
      · have hvalue_mem := SourceTree.child?_mem_nodes hmem hvalue
        exact holds_function h inClass comment _ hmem hvalue_mem (.inr hvalue) (within_functionBody h hvalue_mem)
      · exact h.nil
    · exact h.nil
  split
  · exact holds_outlines h inClass none none hchildren
  · exact h.nil
termination_by (sizeOf tree, 2)
decreasing_by
  all_goals first
    | exact Prod.Lex.left _ _ tree.sizeOf_children_lt
    | exact Prod.Lex.right _ (by decide)
    | exact Prod.Lex.left _ _ (SourceTree.sizeOf_lt_of_child? ‹tree.child? "value" = _›)
    | exact Prod.Lex.left _ _ (Nat.lt_trans (SourceTree.sizeOf_children_lt _)
        (SourceTree.sizeOf_lt_of_child? ‹tree.child? "body" = _›))
    | exact Prod.Lex.left _ _
        (Nat.lt_of_le_of_lt (SourceTree.sizeOf_filter_le _ _) tree.sizeOf_children_lt)

/-- **What the parts of a script's outlines keep holds of the outlines of all nodes in a tree.** -/
theorem holds_outlines (h : Keeps (StandsIn IsFunction root) Holds Within) (inClass : Bool)
    (wrapperComment : Option (Option SourceTree)) (previous : Option SourceTree) {trees : List SourceTree}
    (hsub : trees ⊆ root.nodes) : Holds (outlines inClass wrapperComment previous trees) := by
  match trees with
  | [] =>
    rw [outlines]
    exact h.nil
  | tree :: rest =>
    rw [List.cons_subset] at hsub
    rw [outlines]
    split
    · exact h.append (holds_outline h inClass _ hsub.1) (holds_outlines h inClass wrapperComment (some tree) hsub.2)
    · exact holds_outlines h inClass wrapperComment previous hsub.2
termination_by (sizeOf trees, 0)
decreasing_by
  all_goals
    refine Prod.Lex.left _ _ ?_
    simp only [List.cons.sizeOf_spec]
    omega

end

end Keeps

end Script

/-! ### All languages -/

namespace Language

/-- The outline is that of a function, where `outer` is the node that declares it. -/
def IsFunction (language : Language) (outer function : SourceTree) (outline : Outline) : Prop :=
  match language with
  | .python => Python.IsFunction outer function outline
  | .typeScript | .tsx | .javaScript => Script.IsFunction outer function outline
  | .unknown => False

/-- **What the parts of outlines keep holds of the outlines of every tree, in every language.** -/
theorem holds_outlines {language : Language} {root : SourceTree} {Holds Within : List Outline → Prop}
    (h : Keeps (StandsIn language.IsFunction root) Holds Within) : Holds (language.outlines root) := by
  have hchildren : root.children ⊆ root.nodes := SourceTree.children_subset_nodes root.self_mem_nodes
  cases language with
  | python => exact Python.holds_outlines h false fun child hchild => hchildren (List.mem_filter.1 hchild).1
  | typeScript => exact Script.holds_outlines h false none none hchildren
  | tsx => exact Script.holds_outlines h false none none hchildren
  | javaScript => exact Script.holds_outlines h false none none hchildren
  | unknown => exact h.nil

end Language

/-! ### Regular outlines -/

theorem Outline.regular_of_isPlain {outline : Outline} (h : outline.isPlain = true) : outline.regular = true := by
  cases outline with
  | imports _ | refers _ _ => rfl
  | flows _ | declares _ _ => cases h

/-- A declared function is a symbol. -/
theorem NodeKind.isSymbol_of_isCallable {kind : NodeKind} (h : kind.isCallable = true) :
    kind.isSymbol = true ∧ kind ≠ .endpoint := by
  cases kind <;> simp_all [NodeKind.isCallable, NodeKind.isSymbol]

theorem Outline.keeps_regularAll (Stands : Outline → Prop) :
    Keeps Stands (regularAll · = true) (regularAll · = true) where
  append ha hb := regularAll_append.2 ⟨ha, hb⟩
  plain h := regularAll_iff.2 fun outline houtline => regular_of_isPlain (h outline houtline)
  endpoint h := by simp [regularAll, regular, h, NodeKind.isSymbol]
  container hsymbol _ hne hinner := regularAll_iff.2 (List.forall_mem_singleton.2 (regular_declares hsymbol hne hinner))
  function hcallable _ hinner :=
    have hkind := NodeKind.isSymbol_of_isCallable hcallable
    regularAll_iff.2 (List.forall_mem_singleton.2 (regular_declares hkind.1 hkind.2 hinner))
  within h := h
  body _ ha hb := regularAll_append.2 ⟨regularAll_append.2 ⟨ha, rfl⟩, hb⟩

/-- **What a file says is regular, in every language.** -/
theorem Language.regularAll_outlines (language : Language) (root : SourceTree) :
    Outline.regularAll (language.outlines root) = true :=
  Language.holds_outlines (Outline.keeps_regularAll _)

end StructuralDiff
