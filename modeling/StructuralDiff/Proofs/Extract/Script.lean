import StructuralDiff.Extract.Script
import StructuralDiff.Proofs.Outline

/-!
# Script outlines of bare trees

Where comments stand aside, a script says the same about its symbols as its bare tree does. The comment before
a symbol is its documentation, which is no part of what the outlines of two trees have in common.

* `Script.lowerAll_bare`: the control flow of a list of statements.
* `Script.outlines_bare`: the outlines of a list of nodes.
-/

namespace StructuralDiff.Script

open SourceTree

variable {number : Nat × Nat → Nat}

/-! ### Control flow -/

theorem knownTruth?_eq (expr : SourceTree) : knownTruth? expr =
    if expr.kind == "true" then some true
    else if expr.kind == "false" || expr.kind == "null" || expr.kind == "undefined" then some false
    else if expr.kind == "parenthesized_expression" then expr.firstNamed?.bind knownTruth?
    else if expr.kind == "unary_expression" then
      if (expr.child? "operator").any (·.kind == "!") then
        (expr.child? "argument").bind fun argument => (knownTruth? argument).map (!·)
      else none
    else none := by
  rw [knownTruth?]
  cases expr.child? "argument" <;> cases expr.firstNamed? <;> rfl

theorem knownTruth?_bare {expr : SourceTree} (h : expr.tidy = true) :
    knownTruth? (expr.bare number) = knownTruth? expr := by
  have hoperator : ((expr.child? "operator").map (bare number)).any (·.kind == "!") =
      (expr.child? "operator").any (·.kind == "!") := by
    cases expr.child? "operator" with
    | none => rfl
    | some operator => simp
  rw [knownTruth?_eq, knownTruth?_eq expr, kind_bare, child?_bare h, child?_bare h, hoperator, Option.bind_map]
  split
  · rfl
  split
  · rfl
  split
  · next hkind =>
    rw [firstNamed?_bare h (by simp_all [lookedThrough]), Option.bind_map]
    refine Option.bind_congr fun inner hinner => ?_
    rw [Function.comp_apply, knownTruth?_bare (tidy_of_firstNamed? h hinner)]
  split
  · split
    · refine Option.bind_congr fun argument hargument => ?_
      rw [Function.comp_apply, knownTruth?_bare (tidy_of_child? h hargument)]
    · rfl
  · rfl
termination_by sizeOf expr
decreasing_by
  · exact sizeOf_lt_of_child? ‹_›
  · exact sizeOf_lt_of_firstNamed? ‹_›

theorem bind_knownTruth?_bare {stmt : SourceTree} (h : stmt.tidy = true) (role : String) :
    ((stmt.child? role).map (bare number)).bind knownTruth? = (stmt.child? role).bind knownTruth? := by
  rw [Option.bind_map]
  refine Option.bind_congr fun condition hcondition => ?_
  rw [Function.comp_apply, knownTruth?_bare (tidy_of_child? h hcondition)]

theorem statementValue?_bare {stmt : SourceTree} (h : stmt.tidy = true) :
    statementValue? (stmt.bare number) = (statementValue? stmt).map (bare number) := by
  rw [statementValue?, kind_bare, filter_namedChildren_bare h (by decide), statementValue?]
  split
  · next hkind => exact firstNamed?_bare h (by simp_all [lookedThrough])
  cases hdeclarators : stmt.namedChildren.filter (·.kind == "variable_declarator") with
  | nil => rfl
  | cons declarator rest =>
    cases rest with
    | nil =>
      have hmem : declarator ∈ stmt.namedChildren.filter (·.kind == "variable_declarator") := by
        simp [hdeclarators]
      have htidy := tidy_of_mem h (List.mem_filter.1 (List.mem_filter.1 hmem).1).1
      exact child?_bare htidy "value"
    | cons _ _ => rfl

theorem tidy_of_statementValue? {stmt value : SourceTree} (h : stmt.tidy = true)
    (hvalue : statementValue? stmt = some value) : value.tidy = true := by
  rw [statementValue?] at hvalue
  split at hvalue
  · exact tidy_of_firstNamed? h hvalue
  split at hvalue
  · next declarator hdeclarators =>
    have hmem : declarator ∈ stmt.namedChildren.filter (·.kind == "variable_declarator") := by
      simp [hdeclarators]
    exact tidy_of_child? (tidy_of_mem h (List.mem_filter.1 (List.mem_filter.1 hmem).1).1) hvalue
  · cases hvalue

theorem statementCall?_eq (stmt : SourceTree) : statementCall? stmt =
    (statementValue? stmt).bind (madeCall? "assignment_expression" "augmented_assignment_expression"
      "await_expression" "call_expression") := by
  rw [funext (madeCall?_eq _ _ _ _)]
  rfl

theorem statementCall?_bare {stmt : SourceTree} (h : stmt.tidy = true) :
    statementCall? (stmt.bare number) = (statementCall? stmt).map (bare number) := by
  rw [statementCall?_eq, statementCall?_eq stmt, statementValue?_bare h, Option.bind_map, Option.map_bind]
  refine Option.bind_congr fun value hvalue => ?_
  exact madeCall?_bare (tidy_of_statementValue? h hvalue) _ _ (by decide) _

theorem tidy_of_statementCall? {stmt call : SourceTree} (h : stmt.tidy = true)
    (hcall : statementCall? stmt = some call) : call.tidy = true := by
  rw [statementCall?_eq, Option.bind_eq_some_iff] at hcall
  obtain ⟨value, hvalue, hcall⟩ := hcall
  exact tidy_of_madeCall? (tidy_of_statementValue? h hvalue) hcall

theorem calleeName_bare {call : SourceTree} (h : call.tidy = true) :
    calleeName (call.bare number) = calleeName call := by
  have hrole : "property" ∈ wordRoles := by decide
  exact congrArg (·.getD "call") (map_text_callee_bare h "member_expression" hrole)

theorem statements_bare (block? : Option SourceTree) :
    statements (block?.map (bare number)) = (statements block?).map (bare number) := by
  cases block? with
  | none => rfl
  | some block =>
    simp only [Option.map_some, statements, kind_bare]
    split
    · exact filter_children_bare (fun child => by simp) fun child _ hextra => by simp [hextra]
    · rfl

theorem tidy_of_mem_statements {block? : Option SourceTree}
    (h : ∀ block, block? = some block → block.tidy = true) {stmt : SourceTree}
    (hstmt : stmt ∈ statements block?) : stmt.tidy = true := by
  cases block? with
  | none => cases hstmt
  | some block =>
    rw [statements] at hstmt
    split at hstmt
    · exact tidy_of_mem (h block rfl) (List.mem_filter.1 hstmt).1
    · rw [List.mem_singleton.1 hstmt]
      exact h block rfl

theorem alternative?_bare (clause : SourceTree) :
    alternative? (clause.bare number) = (alternative? clause).map (bare number) :=
  find?_children_bare (fun child => by simp) fun child _ hextra => by simp [hextra]

theorem alternativeKind_bare (tree? : Option SourceTree) :
    alternativeKind (tree?.map (bare number)) = alternativeKind tree? := by
  cases tree? with
  | none => rfl
  | some tree => simp [alternativeKind]

theorem lower_eq (condKind : String) (stmt : SourceTree) : lower condKind stmt =
    if stmt.kind == "if_statement" then
      .cond (.ofTree condKind stmt) ((stmt.child? "condition").bind knownTruth?)
        (lowerAll "if" (statements (stmt.child? "consequence")))
        ((stmt.child? "alternative").map fun clause =>
          lowerAll (alternativeKind (alternative? clause)) (statements (alternative? clause)))
    else if stmt.kind == "return_statement" then .exit (.ofTree "return" stmt)
    else if stmt.kind == "throw_statement" then .exit (.ofTree "throw" stmt)
    else if stmt.kind == "for_statement" || stmt.kind == "for_in_statement" then
      .loop (.ofTree "for" stmt) (lowerAll "if" (statements (stmt.child? "body")))
    else if stmt.kind == "while_statement" then
      .loop (.ofTree "while" stmt) (lowerAll "if" (statements (stmt.child? "body")))
    else if stmt.kind == "do_statement" then
      .loop (.ofTree "do" stmt) (lowerAll "if" (statements (stmt.child? "body")))
    else if stmt.kind == "try_statement" then
      .guarded { Site.ofTree "try" stmt with snippet := "try \x7b" }
        (lowerAll "if" (statements (stmt.child? "body")))
        ((stmt.child? "handler").map fun clause => lowerAll "if" (statements (clause.child? "body"))).toList
        ((stmt.child? "finalizer").map fun clause => lowerAll "if" (statements (clause.child? "body")))
    else if stmt.kind == "statement_block" then
      .sequence (lowerAll "if" (stmt.children.filter fun child => child.named && !child.extra))
    else if stmt.kind == "expression_statement" || stmt.kind == "lexical_declaration"
        || stmt.kind == "variable_declaration" then
      match statementCall? stmt with
      | some call => .call { Site.ofTree "call" stmt with callee := some (calleeName call) }
      | none => .plain true
    else .plain true := by
  rw [lower]
  cases stmt.child? "alternative" <;> cases stmt.child? "handler" <;> cases stmt.child? "finalizer" <;> rfl

mutual

/-- **The control flow of a bare statement is that of the statement.** -/
theorem lower_bare (hnumber : number.Injective) (condKind : String) {stmt : SourceTree}
    (h : stmt.tidy = true) :
    (lower condKind (stmt.bare number)).bare = (lower condKind stmt).bare := by
  -- the parts of a statement: its site, its blocks, its else, its clauses and what is nested in it
  have hsite (kind : String) := Site.bare_ofTree_bare hnumber h kind
  have hblock (role : String) :
      FlowStmt.bareAll (lowerAll "if" ((statements (stmt.child? role)).map (bare number))) =
        FlowStmt.bareAll (lowerAll "if" (statements (stmt.child? role))) :=
    lowerAll_bare hnumber _ fun stmt hstmt =>
      tidy_of_mem_statements (fun block hblock => tidy_of_child? h hblock) hstmt
  have helse : (stmt.child? "alternative").map (fun clause => FlowStmt.bareAll (lowerAll
        (alternativeKind (alternative? (clause.bare number))) (statements (alternative? (clause.bare number))))) =
      (stmt.child? "alternative").map fun clause =>
        FlowStmt.bareAll (lowerAll (alternativeKind (alternative? clause)) (statements (alternative? clause))) := by
    refine Option.map_congr fun clause hclause => ?_
    rw [alternative?_bare, alternativeKind_bare, statements_bare]
    exact lowerAll_bare hnumber _ fun stmt hstmt => tidy_of_mem_statements (fun block hblock =>
      tidy_of_mem (tidy_of_child? h hclause) (List.mem_of_find?_eq_some hblock)) hstmt
  have hclause (role : String) : (stmt.child? role).map (fun clause =>
        FlowStmt.bareAll (lowerAll "if" (statements ((clause.bare number).child? "body")))) =
      (stmt.child? role).map fun clause =>
        FlowStmt.bareAll (lowerAll "if" (statements (clause.child? "body"))) := by
    refine Option.map_congr fun clause hclause => ?_
    have htidy := tidy_of_child? h hclause
    rw [child?_bare htidy, statements_bare]
    exact lowerAll_bare hnumber _ fun stmt hstmt =>
      tidy_of_mem_statements (fun block hblock => tidy_of_child? htidy hblock) hstmt
  have hinner : FlowStmt.bareAll (lowerAll "if" ((stmt.children.filter fun child =>
        child.named && !child.extra).map (bare number))) =
      FlowStmt.bareAll (lowerAll "if" (stmt.children.filter fun child => child.named && !child.extra)) :=
    lowerAll_bare hnumber _ fun child hchild => tidy_of_mem h (List.mem_filter.1 hchild).1
  have hchildren : (stmt.bare number).children.filter (fun child => child.named && !child.extra) =
      (stmt.children.filter fun child => child.named && !child.extra).map (bare number) :=
    filter_children_bare (fun child => by simp) fun child _ hextra => by simp [hextra]
  -- kind by kind, a statement is made of these parts
  rw [lower_eq, lower_eq condKind stmt]
  simp only [kind_bare, child?_bare h, statements_bare, bind_knownTruth?_bare h, hchildren,
    statementCall?_bare h]
  refine FlowStmt.bare_ite (fun _ => ?_) ?_
  · simp only [FlowStmt.bare, FlowStmt.bareOption_eq_map, Option.map_map, Function.comp_def, hsite, hblock,
      helse]
  refine FlowStmt.bare_ite (fun _ => ?_) ?_
  · simp only [FlowStmt.bare, hsite]
  refine FlowStmt.bare_ite (fun _ => ?_) ?_
  · simp only [FlowStmt.bare, hsite]
  refine FlowStmt.bare_ite (fun _ => ?_) ?_
  · simp only [FlowStmt.bare, hsite, hblock]
  refine FlowStmt.bare_ite (fun _ => ?_) ?_
  · simp only [FlowStmt.bare, hsite, hblock]
  refine FlowStmt.bare_ite (fun _ => ?_) ?_
  · simp only [FlowStmt.bare, hsite, hblock]
  refine FlowStmt.bare_ite (fun _ => ?_) ?_
  · simp only [FlowStmt.bare, FlowStmt.bareOption_eq_map, FlowStmt.bareEach_eq_map, ← Option.toList_map,
      Option.map_map, Function.comp_def, Site.bare_with_snippet (hsite "try"), hblock, hclause]
  refine FlowStmt.bare_ite (fun _ => ?_) ?_
  · simp only [FlowStmt.bare, hinner]
  refine FlowStmt.bare_ite (fun _ => ?_) ?_
  · cases hcall : statementCall? stmt with
    | none => rfl
    | some call =>
      simp only [Option.map_some, FlowStmt.bare, calleeName_bare (tidy_of_statementCall? h hcall),
        Site.bare_with_callee (hsite "call")]
  · rfl
termination_by sizeOf stmt
decreasing_by
  · exact sizeOf_statements_child?_lt stmt _
  · exact sizeOf_statements_alternative?_lt ‹_›
  · exact sizeOf_statements_of_child?_lt ‹_› _
  · exact Nat.lt_of_le_of_lt (sizeOf_filter_le _ _) stmt.sizeOf_children_lt

theorem lowerAll_bare (hnumber : number.Injective) (condKind : String) {stmts : List SourceTree}
    (h : ∀ stmt ∈ stmts, stmt.tidy = true) :
    FlowStmt.bareAll (lowerAll condKind (stmts.map (bare number))) =
      FlowStmt.bareAll (lowerAll condKind stmts) := by
  match stmts with
  | [] => rfl
  | stmt :: rest =>
    rw [List.forall_mem_cons] at h
    rw [List.map_cons, lowerAll, lowerAll, FlowStmt.bareAll, FlowStmt.bareAll,
      lower_bare hnumber condKind h.1, lowerAll_bare hnumber condKind h.2]
termination_by sizeOf stmts

end

theorem lowerBody_bare (hnumber : number.Injective) {body : SourceTree} (h : body.tidy = true) :
    FlowStmt.bareAll (lowerBody (body.bare number)) = FlowStmt.bareAll (lowerBody body) := by
  rw [lowerBody, kind_bare, lowerBody]
  split
  · rw [← Option.map_some, statements_bare]
    exact lowerAll_bare hnumber _ fun stmt hstmt =>
      tidy_of_mem_statements (fun block hblock => Option.some.inj hblock ▸ h) hstmt
  · simp only [FlowStmt.bareAll, FlowStmt.bare, Site.bare_ofTree_bare hnumber h]

/-! ### Kinds of nodes -/

theorem hasMarkup_eq (tree : SourceTree) : hasMarkup tree =
    (tree.kind == "jsx_element" || tree.kind == "jsx_self_closing_element" || tree.kind == "jsx_fragment"
      || tree.children.any fun child => child.named && !isNestedDeclaration child.kind && hasMarkup child) := by
  have hany (trees : List SourceTree) : anyMarkup trees = trees.any fun child =>
      child.named && !isNestedDeclaration child.kind && hasMarkup child := by
    induction trees with
    | nil => rfl
    | cons tree rest ih => rw [anyMarkup, List.any_cons, ih]
  cases tree
  rw [hasMarkup, hany]

theorem hasMarkup_bare {tree : SourceTree} (h : tree.tidy = true) :
    hasMarkup (tree.bare number) = hasMarkup tree := by
  have ih : ∀ child ∈ tree.children, hasMarkup (child.bare number) = hasMarkup child :=
    fun child hchild => hasMarkup_bare (tidy_of_mem h hchild)
  rw [hasMarkup_eq, hasMarkup_eq tree, kind_bare, children_bare, codeChildren]
  congr 1
  refine any_bare (fun child hchild _ => by rw [named_bare, kind_bare, ih child hchild])
    fun child hchild hextra => ?_
  have hleaf := (tidyHere_of_tidy (tidy_of_mem h hchild)).leaf_of_extra hextra
  have hkind := kind_of_extra h hchild hextra
  rw [hasMarkup_eq child, hleaf, beq_of_ignored hkind (by decide), beq_of_ignored hkind (by decide),
    beq_of_ignored hkind (by decide)]
  simp
termination_by sizeOf tree
decreasing_by exact sizeOf_lt_of_mem hchild

theorem isFunctionValue_bare (tree : SourceTree) : isFunctionValue (tree.bare number) = isFunctionValue tree := by
  rw [isFunctionValue, kind_bare, isFunctionValue]

theorem functionKind_bare (inClass : Bool) (name : String) {function : SourceTree}
    (h : function.tidy = true) :
    functionKind inClass name (function.bare number) = functionKind inClass name function := by
  have hmarkup : ((function.child? "body").map (bare number)).any hasMarkup =
      (function.child? "body").any hasMarkup := by
    cases hbody : function.child? "body" with
    | none => rfl
    | some body => exact hasMarkup_bare (tidy_of_child? h hbody)
  rw [functionKind, child?_bare h, hmarkup, functionKind]

/-! ### References -/

theorem typeName?_eq (tree : SourceTree) : typeName? tree =
    if tree.kind == "identifier" || tree.kind == "type_identifier" then some tree.text
    else if tree.kind == "member_expression" then (tree.child? "property").map (·.text)
    else if tree.kind == "nested_type_identifier" then (tree.child? "name").map (·.text)
    else if tree.kind == "generic_type" then (tree.child? "name").bind typeName?
    else none := by
  rw [typeName?]
  cases tree.child? "name" <;> rfl

theorem typeName?_bare {tree : SourceTree} (h : tree.tidy = true) :
    typeName? (tree.bare number) = typeName? tree := by
  have hname : "name" ∈ wordRoles := by decide
  have hproperty : "property" ∈ wordRoles := by decide
  rw [typeName?_eq, typeName?_eq tree, kind_bare, child?_bare h, child?_bare h,
    map_text_child?_bare tree hname, map_text_child?_bare tree hproperty, Option.bind_map]
  split
  · next hkind =>
    have hword : tree.kind ∈ wordKinds := by
      rcases (by simpa using hkind) with hkind | hkind <;> simp [hkind, wordKinds]
    rw [text_bare_of_kind hword]
  split
  · rfl
  split
  · rfl
  split
  · refine Option.bind_congr fun name hname => ?_
    exact typeName?_bare (tidy_of_child? h hname)
  · rfl
termination_by sizeOf tree
decreasing_by exact sizeOf_lt_of_child? ‹_›

theorem typeName?_of_ignored {tree : SourceTree} (h : tree.kind ∈ ignoredKinds) : typeName? tree = none := by
  rw [typeName?_eq, beq_of_ignored h (by decide), beq_of_ignored h (by decide), beq_of_ignored h (by decide),
    beq_of_ignored h (by decide), beq_of_ignored h (by decide)]
  rfl

theorem heritage_bare {class_ : SourceTree} (h : class_.tidy = true) :
    heritage (class_.bare number) = heritage class_ := by
  rw [heritage, find?_kind_bare h (by decide), heritage]
  cases hfound : class_.children.find? fun child => child.named && child.kind == "class_heritage" with
  | none => rfl
  | some bases =>
    have hbases := tidy_of_mem h (List.mem_of_find?_eq_some hfound)
    simp only [Option.map_some, namedChildren_bare]
    refine flatMap_bare (fun clause hclause _ => ?_) fun clause hclause hextra => ?_
    · have hclause := tidy_of_mem hbases (List.mem_filter.1 hclause).1
      have hnames : (clause.bare number).namedChildren.filterMap typeName? =
          clause.namedChildren.filterMap typeName? := by
        rw [namedChildren_bare]
        refine filterMap_bare (fun base hbase _ => ?_) fun base hbase hextra => ?_
        · exact typeName?_bare (tidy_of_mem hclause (List.mem_filter.1 hbase).1)
        · exact typeName?_of_ignored (kind_of_extra hclause (List.mem_filter.1 hbase).1 hextra)
      rw [kind_bare, typeName?_bare hclause, hnames]
    · have hkind := kind_of_extra hbases (List.mem_filter.1 hclause).1 hextra
      rw [beq_of_ignored hkind (by decide), beq_of_ignored hkind (by decide), typeName?_of_ignored hkind]
      rfl

theorem sourceModule_bare {stmt : SourceTree} (h : stmt.tidy = true) :
    sourceModule (stmt.bare number) = sourceModule stmt := by
  have hrole : "source" ∈ wordRoles := by decide
  rw [sourceModule, child?_bare h, map_child?_bare (fun text => Outline.imports (stringValue text)) stmt hrole,
    sourceModule]

theorem callReference_eq (call : SourceTree) : callReference call =
    (((call.child? "function").bind fun function =>
      if function.kind == "identifier" then some function
      else if function.kind == "member_expression" && (function.child? "object").any (·.kind == "this") then
        function.child? "property"
      else none).map fun name => .refers .call name.text).toList := by
  rw [callReference]
  cases call.child? "function" <;> rfl

theorem callReference_bare {call : SourceTree} (h : call.tidy = true) :
    callReference (call.bare number) = callReference call := by
  have hrole : "property" ∈ wordRoles := by decide
  rw [callReference_eq, callReference_eq call, child?_bare h, Option.bind_map, Option.map_bind,
    Option.map_bind]
  congr 1
  refine Option.bind_congr fun function hfunction => ?_
  have htidy := tidy_of_child? h hfunction
  have hobject : ((function.child? "object").map (bare number)).any (·.kind == "this") =
      (function.child? "object").any (·.kind == "this") := by
    cases function.child? "object" with
    | none => rfl
    | some object => simp
  simp only [Function.comp_apply, kind_bare, child?_bare htidy, hobject]
  split
  · next hkind => rw [Option.map_some, text_bare_of_kind (by simp_all [wordKinds])]; rfl
  split
  · exact map_child?_bare (Outline.refers .call) function hrole
  · rfl

theorem renderReference_bare {element : SourceTree} (h : element.tidy = true) :
    renderReference (element.bare number) = renderReference element := by
  rw [renderReference, child?_bare h, renderReference]
  cases hname : element.child? "name" with
  | none => rfl
  | some name =>
    simp only [Option.map_some, kind_bare, text_bare_of_field (field_of_child? hname)
      (show "name" ∈ wordRoles by decide)]

theorem references_bare {tree : SourceTree} (h : tree.tidy = true) :
    references (tree.bare number) = references tree := by
  rw [references, kind_bare, callReference_bare h, renderReference_bare h, references]

theorem bare_callbackDeclaration_bare (hnumber : number.Injective) (callee : String) {function : SourceTree}
    (h : function.tidy = true) (comment comment' : Option SourceTree) :
    (callbackDeclaration callee (function.bare number) comment').bare =
      (callbackDeclaration callee function comment).bare := by
  have hline (name : String) (line line' : Nat) :
      Name.gist (name ++ "@L" ++ Nat.repr line) = Name.gist (name ++ "@L" ++ Nat.repr line') := by
    rw [Name.gist_eq_iff, Name.withoutPositions_append_line, Name.withoutPositions_append_line]
    simp
  simp only [callbackDeclaration, Declaration.bare, Declaration.ofTree, symbolSignature_bare hnumber h,
    hline _ _ (function.startRow + 1)]

/-! ### Outlines -/

theorem functionBody_eq (function : SourceTree) : functionBody function =
    ((function.child? "body").map fun body =>
      references body ++ scanAll ⟨body, none⟩ none body.children
        ++ [.flows (lowerBody body)]
        ++ (if body.kind == "statement_block" then outlines false none none body.children else [])).getD [] := by
  rw [functionBody]
  cases function.child? "body" <;> rfl

theorem bindings_cons (inClass : Bool) (comment : Option SourceTree) (declarator : SourceTree)
    (rest : List SourceTree) : bindings inClass comment (declarator :: rest) =
      (match declarator.child? "name", declarator.child? "value" with
        | some name, some value =>
          if name.kind == "identifier" && isFunctionValue value then
            [function inClass comment declarator name.text value]
          else []
        | _, _ => []) ++ bindings inClass comment rest := by
  rw [bindings]
  cases declarator.child? "name" <;> cases declarator.child? "value" <;> rfl

theorem outline_eq (inClass : Bool) (comment : Option SourceTree) (tree : SourceTree) :
    outline inClass comment tree =
      if tree.kind == "import_statement" then sourceModule tree
      else if tree.kind == "export_statement" then
        sourceModule tree ++ outlines inClass (some comment) none tree.children
      else if tree.kind == "function_declaration" || tree.kind == "generator_function_declaration"
          || (tree.kind == "method_definition" && inClass) then
        ((tree.child? "name").map fun name => function inClass comment tree name.text tree).toList
      else if tree.kind == "class_declaration" || tree.kind == "abstract_class_declaration" then
        ((tree.child? "name").map fun name =>
          .declares (.ofTree .classType name.text tree (withDocumentation .empty comment))
            (heritage tree ++
              ((tree.child? "body").map fun body => outlines true none none body.children).getD [])).toList
      else if tree.kind == "lexical_declaration" || tree.kind == "variable_declaration" then
        bindings inClass comment (functionVariables tree)
      else if (tree.kind == "public_field_definition" || tree.kind == "field_definition") && inClass then
        match (tree.child? "name").or (tree.child? "property"), tree.child? "value" with
        | some name, some value =>
          if isFunctionValue value then [function inClass comment tree name.text value] else []
        | _, _ => []
      else if holdsStatements tree.kind then outlines inClass none none tree.children
      else [] := by
  rw [outline]
  cases tree.child? "name" <;> cases tree.child? "body" <;> cases tree.child? "property" <;>
    cases tree.child? "value" <;> rfl

theorem outline_of_ignored (inClass : Bool) (comment : Option SourceTree) {tree : SourceTree}
    (h : tree.kind ∈ ignoredKinds) : outline inClass comment tree = [] := by
  have hholds : ∀ kind ∈ ignoredKinds, holdsStatements kind = false := by decide
  rw [outline_eq, hholds _ h]
  simp only [ignoredKinds, List.mem_cons, List.not_mem_nil, or_false] at h
  rcases h with hkind | hkind | hkind <;> simp [hkind]

theorem scan_of_ignored (context : Context) (previous : Option SourceTree) {tree : SourceTree}
    (h : tree.kind ∈ ignoredKinds) (hleaf : tree.children = []) : scan context previous tree = [] := by
  rw [scan, hleaf, scanAll]
  simp only [ignoredKinds, List.mem_cons, List.not_mem_nil, or_false] at h
  rcases h with hkind | hkind | hkind <;> simp [hkind, isNestedDeclaration, isFunctionValue, references]

theorem functionVariables_bare {stmt : SourceTree} (h : stmt.tidy = true) :
    functionVariables (stmt.bare number) = (functionVariables stmt).map (bare number) :=
  filter_kind_bare h (by decide)

/-- The place of a node in the bare tree. -/
def Context.bare (number : Nat × Nat → Nat) (context : Context) : Context :=
  ⟨context.parent.bare number, context.grandparent.map (SourceTree.bare number)⟩

/-- Comments stand aside in the nodes that hold a node. -/
structure Context.Tidy (context : Context) : Prop where
  parent : context.parent.tidy = true
  grandparent : ∀ tree, context.grandparent = some tree → tree.tidy = true

mutual

theorem functionBody_bare (hnumber : number.Injective) {function : SourceTree}
    (h : function.tidy = true) :
    Outline.bareAll (functionBody (function.bare number)) = Outline.bareAll (functionBody function) := by
  rw [functionBody_eq, functionBody_eq function, child?_bare h]
  cases hbody : function.child? "body" with
  | none => rfl
  | some body =>
    have htidy := tidy_of_child? h hbody
    have hcontext : Context.Tidy ⟨body, none⟩ := ⟨htidy, fun tree htree => by cases htree⟩
    have hscan := scanAll_bare hnumber hcontext none none fun child hchild => tidy_of_mem htidy hchild
    have houtlines := outlines_bare hnumber false none none none none
      fun child hchild => tidy_of_mem htidy hchild
    simp only [Context.bare, Option.map_none] at hscan
    simp only [Option.map_some, Option.getD_some, Outline.bareAll_append, references_bare htidy, children_bare,
      codeChildren, hscan, Outline.bareAll, Outline.bare, lowerBody_bare hnumber htidy, kind_bare]
    split
    · rw [houtlines]
    · rfl
termination_by (sizeOf function, 0)
decreasing_by
  all_goals
    refine Prod.Lex.left _ _ ?_
    exact Nat.lt_trans body.sizeOf_children_lt (sizeOf_lt_of_child? ‹_›)

theorem scan_bare (hnumber : number.Injective) {context : Context} (hcontext : context.Tidy)
    (previous previous' : Option SourceTree) {tree : SourceTree} (h : tree.tidy = true) :
    Outline.bareAll (scan (context.bare number) previous' (tree.bare number)) =
      Outline.bareAll (scan context previous tree) := by
  have hcallee : (((context.grandparent.map (bare number)).map calleeName).getD "call") =
      (context.grandparent.map calleeName).getD "call" := by
    rw [Option.map_map]
    congr 1
    refine Option.map_congr fun call hcall => ?_
    exact calleeName_bare (hcontext.grandparent call hcall)
  have hinner : Context.Tidy ⟨tree, some context.parent⟩ :=
    ⟨h, fun other hother => Option.some.inj hother ▸ hcontext.parent⟩
  have hscan := scanAll_bare hnumber hinner none none fun child hchild => tidy_of_mem h hchild
  simp only [Context.bare, Option.map_some] at hscan
  rw [scan.eq_1 (context.bare number), scan.eq_1 context]
  simp only [Context.bare, kind_bare, isFunctionValue_bare, references_bare h, children_bare, codeChildren,
    hcallee]
  -- nested declarations, callbacks, functions of other kinds, and everything else
  split
  · rfl
  split
  · simp only [Outline.bareAll, Outline.bare, functionBody_bare hnumber h,
      bare_callbackDeclaration_bare hnumber _ h previous previous']
  split
  · rfl
  · rw [Outline.bareAll_append, Outline.bareAll_append, hscan]
termination_by (sizeOf tree, 1)
decreasing_by
  · exact Prod.Lex.left _ _ tree.sizeOf_children_lt
  · exact Prod.Lex.right _ (by decide)

theorem scanAll_bare (hnumber : number.Injective) {context : Context} (hcontext : context.Tidy)
    (previous previous' : Option SourceTree) {trees : List SourceTree}
    (h : ∀ tree ∈ trees, tree.tidy = true) :
    Outline.bareAll (scanAll (context.bare number) previous' ((trees.filter (!·.extra)).map (bare number))) =
      Outline.bareAll (scanAll context previous trees) := by
  match trees with
  | [] =>
    rw [List.filter_nil, List.map_nil, scanAll, scanAll]
  | tree :: rest =>
    rw [List.forall_mem_cons] at h
    have hrest (previous previous' : Option SourceTree) := scanAll_bare hnumber hcontext previous previous' h.2
    rw [scanAll.eq_2 context]
    -- the bare tree goes without the extra nodes, which have nothing to scan
    cases hextra : tree.extra with
    | false =>
      rw [List.filter_cons_of_pos (by simp [hextra]), List.map_cons, scanAll.eq_2, named_bare]
      split
      · rw [Outline.bareAll_append, Outline.bareAll_append,
          scan_bare hnumber hcontext previous previous' h.1, hrest (some tree)]
      · exact hrest previous previous'
    | true =>
      have htidy := tidyHere_of_tidy h.1
      rw [List.filter_cons_of_neg (by simp [hextra])]
      split
      · rw [scan_of_ignored context previous (htidy.kind_of_extra hextra) (htidy.leaf_of_extra hextra),
          List.nil_append]
        exact hrest (some tree) previous'
      · exact hrest previous previous'
termination_by (sizeOf trees, 0)
decreasing_by
  all_goals
    refine Prod.Lex.left _ _ ?_
    simp only [List.cons.sizeOf_spec]
    omega

theorem function_bare (hnumber : number.Injective) (inClass : Bool) (comment comment' : Option SourceTree)
    {outer : SourceTree} (houter : outer.tidy = true) (name : String) {value : SourceTree}
    (h : value.tidy = true) :
    Outline.bare (function inClass comment' (outer.bare number) name (value.bare number)) =
      Outline.bare (function inClass comment outer name value) := by
  rw [function, function, Outline.bare, Outline.bare, functionBody_bare hnumber h, functionKind_bare inClass name h,
    Declaration.bare_ofTree_bare hnumber houter]
termination_by (sizeOf value, 1)
decreasing_by exact Prod.Lex.right _ (by decide)

theorem bindings_bare (hnumber : number.Injective) (inClass : Bool) (comment comment' : Option SourceTree)
    {declarators : List SourceTree} (h : ∀ declarator ∈ declarators, declarator.tidy = true) :
    Outline.bareAll (bindings inClass comment' (declarators.map (bare number))) =
      Outline.bareAll (bindings inClass comment declarators) := by
  match declarators with
  | [] => rw [List.map_nil, bindings, bindings]
  | declarator :: rest =>
    rw [List.forall_mem_cons] at h
    rw [List.map_cons, bindings_cons, bindings_cons, Outline.bareAll_append, Outline.bareAll_append,
      bindings_bare hnumber inClass comment comment' h.2, child?_bare h.1, child?_bare h.1]
    congr 1
    cases hname : declarator.child? "name" with
    | none => rfl
    | some name =>
      cases hvalue : declarator.child? "value" with
      | none => rfl
      | some value =>
        have htext : (name.bare number).text = name.text :=
          text_bare_of_field (field_of_child? hname) (by decide)
        simp only [Option.map_some, kind_bare, isFunctionValue_bare, htext]
        split
        · simp only [Outline.bareAll, function_bare hnumber inClass comment comment' h.1 name.text
            (tidy_of_child? h.1 hvalue)]
        · rfl
termination_by (sizeOf declarators, 0)
decreasing_by
  · refine Prod.Lex.left _ _ ?_
    simp only [List.cons.sizeOf_spec]
    omega
  · refine Prod.Lex.left _ _ ?_
    have := sizeOf_lt_of_child? ‹_›
    simp only [List.cons.sizeOf_spec]
    omega

theorem outline_bare (hnumber : number.Injective) (inClass : Bool) (comment comment' : Option SourceTree)
    {tree : SourceTree} (h : tree.tidy = true) :
    Outline.bareAll (outline inClass comment' (tree.bare number)) =
      Outline.bareAll (outline inClass comment tree) := by
  have hname {name : SourceTree} (hname : tree.child? "name" = some name) :
      (name.bare number).text = name.text := text_bare_of_field (field_of_child? hname) (by decide)
  have hchildren (wrapperComment wrapperComment' : Option (Option SourceTree)) :=
    outlines_bare hnumber inClass wrapperComment wrapperComment' none none
      fun child hchild => tidy_of_mem h hchild
  rw [outline_eq, outline_eq inClass comment tree]
  simp only [kind_bare, child?_bare h, sourceModule_bare h, children_bare, codeChildren, heritage_bare h,
    functionVariables_bare h]
  -- in the order of the kinds: imports, exports, functions, classes, variables, fields, statements
  split
  · rfl
  split
  · rw [Outline.bareAll_append, Outline.bareAll_append, hchildren]
  split
  · cases hfound : tree.child? "name" with
    | none => rfl
    | some name =>
      simp only [Option.map_some, Option.toList_some, Outline.bareAll, hname hfound,
        function_bare hnumber inClass comment comment' h name.text h]
  split
  · cases hfound : tree.child? "name" with
    | none => rfl
    | some name =>
      have hmembers : Outline.bareAll ((((tree.child? "body").map (bare number)).map fun body =>
            outlines true none none body.children).getD []) =
          Outline.bareAll (((tree.child? "body").map fun body =>
            outlines true none none body.children).getD []) := by
        cases hbody : tree.child? "body" with
        | none => rfl
        | some body =>
          simp only [Option.map_some, Option.getD_some, children_bare, codeChildren]
          exact outlines_bare hnumber true none none none none
            fun child hchild => tidy_of_mem (tidy_of_child? h hbody) hchild
      simp only [Option.map_some, Option.toList_some, Outline.bareAll, Outline.bare, Outline.bareAll_append,
        hname hfound, hmembers, Declaration.bare_ofTree_bare hnumber h _ _ _ (withDocumentation .empty comment)]
  split
  · exact bindings_bare hnumber inClass comment comment' fun declarator hdeclarator =>
      tidy_of_mem h (List.mem_filter.1 hdeclarator).1
  split
  · rw [← Option.map_or]
    cases hfound : (tree.child? "name").or (tree.child? "property") with
    | none => rfl
    | some name =>
      cases hvalue : tree.child? "value" with
      | none => rfl
      | some value =>
        have htext : (name.bare number).text = name.text := by
          rcases Option.or_eq_some_iff.1 hfound with hfound | ⟨-, hfound⟩
          · exact hname hfound
          · exact text_bare_of_field (field_of_child? hfound) (by decide)
        simp only [Option.map_some, isFunctionValue_bare, htext]
        split
        · simp only [Outline.bareAll, function_bare hnumber inClass comment comment' h name.text
            (tidy_of_child? h hvalue)]
        · rfl
  split
  · exact hchildren none none
  · rfl
termination_by (sizeOf tree, 2)
decreasing_by
  · exact Prod.Lex.left _ _ tree.sizeOf_children_lt
  · exact Prod.Lex.left _ _ (sizeOf_lt_of_child? ‹_›)
  · exact Prod.Lex.left _ _ (Nat.lt_of_le_of_lt (sizeOf_filter_le _ _) tree.sizeOf_children_lt)
  · exact Prod.Lex.left _ _ (Nat.lt_trans body.sizeOf_children_lt (sizeOf_lt_of_child? ‹_›))
  · exact Prod.Lex.right _ (by decide)

/-- **What a list of bare nodes says is what the nodes say**, whatever comments stand before them. -/
theorem outlines_bare (hnumber : number.Injective) (inClass : Bool)
    (wrapperComment wrapperComment' : Option (Option SourceTree)) (previous previous' : Option SourceTree)
    {trees : List SourceTree} (h : ∀ tree ∈ trees, tree.tidy = true) :
    Outline.bareAll (outlines inClass wrapperComment' previous' ((trees.filter (!·.extra)).map (bare number))) =
      Outline.bareAll (outlines inClass wrapperComment previous trees) := by
  match trees with
  | [] => rw [List.filter_nil, List.map_nil, outlines, outlines]
  | tree :: rest =>
    rw [List.forall_mem_cons] at h
    have hrest (previous previous' : Option SourceTree) :=
      outlines_bare hnumber inClass wrapperComment wrapperComment' previous previous' h.2
    rw [outlines.eq_2 inClass wrapperComment]
    -- an extra node is a comment and says nothing itself; it is only the documentation of the node after it,
    -- and bare outlines do not have this
    cases hextra : tree.extra with
    | false =>
      rw [List.filter_cons_of_pos (by simp [hextra]), List.map_cons, outlines.eq_2, named_bare]
      split
      · rw [Outline.bareAll_append, Outline.bareAll_append, outline_bare hnumber inClass _ _ h.1,
          hrest (some tree)]
      · exact hrest previous previous'
    | true =>
      rw [List.filter_cons_of_neg (by simp [hextra])]
      split
      · rw [outline_of_ignored _ _ ((tidyHere_of_tidy h.1).kind_of_extra hextra), List.nil_append]
        exact hrest (some tree) previous'
      · exact hrest previous previous'
termination_by (sizeOf trees, 0)
decreasing_by
  all_goals
    refine Prod.Lex.left _ _ ?_
    simp only [List.cons.sizeOf_spec]
    omega

end

end StructuralDiff.Script
