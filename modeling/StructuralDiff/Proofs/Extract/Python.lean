import Mathlib.Data.List.Forall2
import StructuralDiff.Extract.Python
import StructuralDiff.Proofs.Outline

/-!
# Python outlines of bare trees

Where comments stand aside, a Python file says the same about its symbols as its bare tree does.

* `Python.lowerAll_bare`: the control flow of a list of statements.
* `Python.outlines_bare`: the outlines of a list of statements.
-/

namespace StructuralDiff.Python

open SourceTree

variable {number : Nat × Nat → Nat}

/-! ### Control flow -/

theorem knownTruth?_eq (expr : SourceTree) : knownTruth? expr =
    if expr.kind == "true" then some true
    else if expr.kind == "false" || expr.kind == "none" then some false
    else if expr.kind == "not_operator" then
      (expr.child? "argument").bind fun argument => (knownTruth? argument).map (!·)
    else if expr.kind == "parenthesized_expression" then expr.firstNamed?.bind knownTruth?
    else none := by
  rw [knownTruth?]
  cases expr.child? "argument" <;> cases expr.firstNamed? <;> rfl

theorem knownTruth?_bare {expr : SourceTree} (h : expr.tidy = true) :
    knownTruth? (expr.bare number) = knownTruth? expr := by
  rw [knownTruth?_eq, knownTruth?_eq expr, kind_bare, child?_bare h, Option.bind_map]
  split
  · rfl
  split
  · rfl
  split
  · refine Option.bind_congr fun argument hargument => ?_
    rw [Function.comp_apply, knownTruth?_bare (tidy_of_child? h hargument)]
  split
  · next hkind =>
    rw [firstNamed?_bare h (by simp_all [lookedThrough]), Option.bind_map]
    refine Option.bind_congr fun inner hinner => ?_
    rw [Function.comp_apply, knownTruth?_bare (tidy_of_firstNamed? h hinner)]
  · rfl
termination_by sizeOf expr
decreasing_by
  · exact sizeOf_lt_of_firstNamed? ‹_›
  · exact sizeOf_lt_of_child? ‹_›

theorem bind_knownTruth?_bare {stmt : SourceTree} (h : stmt.tidy = true) (role : String) :
    ((stmt.child? role).map (bare number)).bind knownTruth? = (stmt.child? role).bind knownTruth? := by
  rw [Option.bind_map]
  refine Option.bind_congr fun condition hcondition => ?_
  rw [Function.comp_apply, knownTruth?_bare (tidy_of_child? h hcondition)]

theorem statementCall?_eq (stmt : SourceTree) : statementCall? stmt =
    stmt.firstNamed?.bind (madeCall? "assignment" "augmented_assignment" "await" "call") := by
  rw [funext (madeCall?_eq _ _ _ _)]
  rfl

theorem statementCall?_bare {stmt : SourceTree} (h : stmt.tidy = true)
    (hkind : stmt.kind = "expression_statement") :
    statementCall? (stmt.bare number) = (statementCall? stmt).map (bare number) := by
  rw [statementCall?_eq, statementCall?_eq stmt, firstNamed?_bare h (by simp [hkind, lookedThrough]),
    Option.bind_map, Option.map_bind]
  refine Option.bind_congr fun value hvalue => ?_
  exact madeCall?_bare (tidy_of_firstNamed? h hvalue) _ _ (by decide) _

theorem tidy_of_statementCall? {stmt call : SourceTree} (h : stmt.tidy = true)
    (hcall : statementCall? stmt = some call) : call.tidy = true := by
  rw [statementCall?_eq, Option.bind_eq_some_iff] at hcall
  obtain ⟨value, hvalue, hcall⟩ := hcall
  exact tidy_of_madeCall? (tidy_of_firstNamed? h hvalue) hcall

theorem calleeName_bare {call : SourceTree} (h : call.tidy = true) :
    calleeName (call.bare number) = calleeName call := by
  have hrole : "attribute" ∈ wordRoles := by decide
  exact congrArg (·.getD "call") (map_text_callee_bare h "attribute" hrole)

theorem statements_bare (block? : Option SourceTree) :
    statements (block?.map (bare number)) = (statements block?).map (bare number) := by
  cases block? with
  | none => rfl
  | some block => exact filter_children_bare (fun child => by simp) fun child _ hextra => by simp [hextra]

theorem blockOf?_bare {clause : SourceTree} (h : clause.tidy = true) :
    blockOf? (clause.bare number) = (blockOf? clause).map (bare number) := by
  rw [blockOf?, child?_bare h, find?_kind_bare h (by decide), blockOf?]
  cases clause.child? "body" with
  | none => rfl
  | some body => rfl

theorem clauses_bare {stmt : SourceTree} (h : stmt.tidy = true) {kinds : List String}
    (hkinds : ∀ kind ∈ ignoredKinds, kind ∉ kinds) :
    (stmt.bare number).children.filter (isClause kinds) =
      (stmt.children.filter (isClause kinds)).map (bare number) := by
  refine filter_children_bare (fun child => by simp [isClause]) fun child hchild hextra => ?_
  simp [isClause, hkinds _ (kind_of_extra h hchild hextra)]

theorem elseClauses_bare {stmt : SourceTree} (h : stmt.tidy = true) :
    elseClauses (stmt.bare number) = (elseClauses stmt).map (bare number) :=
  clauses_bare h (by decide)

theorem handlerClauses_bare {stmt : SourceTree} (h : stmt.tidy = true) :
    handlerClauses (stmt.bare number) = (handlerClauses stmt).map (bare number) :=
  clauses_bare h (by decide)

theorem finallyClauses_bare {stmt : SourceTree} (h : stmt.tidy = true) :
    finallyClauses (stmt.bare number) = (finallyClauses stmt).map (bare number) :=
  clauses_bare h (by decide)

theorem tidy_of_mem_statements {block? : Option SourceTree}
    (h : ∀ block, block? = some block → block.tidy = true) {stmt : SourceTree}
    (hstmt : stmt ∈ statements block?) : stmt.tidy = true := by
  cases block? with
  | none => cases hstmt
  | some block => exact tidy_of_mem (h block rfl) (List.mem_filter.1 hstmt).1

theorem tidy_of_blockOf? {clause block : SourceTree} (h : clause.tidy = true)
    (hblock : blockOf? clause = some block) : block.tidy = true := by
  rw [blockOf?] at hblock
  cases hbody : clause.child? "body" with
  | some body =>
    rw [hbody] at hblock
    cases hblock
    exact tidy_of_child? h hbody
  | none =>
    rw [hbody] at hblock
    exact tidy_of_mem h (List.mem_of_find?_eq_some hblock)

mutual

/-- **The control flow of a bare statement is that of the statement.** -/
theorem lower_bare (hnumber : number.Injective) {stmt : SourceTree} (h : stmt.tidy = true) :
    (lower (stmt.bare number)).bare = (lower stmt).bare := by
  -- the parts of a statement: its site, its blocks, its clauses and its alternatives
  have hsite (kind : String) := Site.bare_ofTree_bare hnumber h kind
  have hblock (role : String) :
      FlowStmt.bareAll (lowerAll ((statements (stmt.child? role)).map (bare number))) =
        FlowStmt.bareAll (lowerAll (statements (stmt.child? role))) :=
    lowerAll_bare hnumber fun stmt hstmt =>
      tidy_of_mem_statements (fun block hblock => tidy_of_child? h hblock) hstmt
  have hclauses (kinds : List String) :
      FlowStmt.bareEach (lowerClauses ((stmt.children.filter (isClause kinds)).map (bare number))) =
        FlowStmt.bareEach (lowerClauses (stmt.children.filter (isClause kinds))) :=
    lowerClauses_bare hnumber fun clause hclause => tidy_of_mem h (List.mem_filter.1 hclause).1
  have halternatives := lowerAlternatives_bare hnumber fun clause hclause =>
    tidy_of_mem h (List.mem_filter.1 (show clause ∈ stmt.childrenIn "alternative" from hclause)).1
  -- kind by kind, a statement is made of these parts
  rw [lower.eq_1 (stmt.bare number), lower.eq_1 stmt]
  simp only [kind_bare, child?_bare h, childrenIn_bare h, statements_bare, bind_knownTruth?_bare h]
  refine FlowStmt.bare_ite (fun _ => ?_) ?_
  · simp only [FlowStmt.bare, hsite, hblock, halternatives]
  refine FlowStmt.bare_ite (fun _ => ?_) ?_
  · simp only [FlowStmt.bare, hsite]
  refine FlowStmt.bare_ite (fun _ => ?_) ?_
  · simp only [FlowStmt.bare, hsite]
  refine FlowStmt.bare_ite (fun _ => ?_) ?_
  · simp only [FlowStmt.bare, hsite, hblock]
  refine FlowStmt.bare_ite (fun _ => ?_) ?_
  · simp only [FlowStmt.bare, hsite, hblock]
  refine FlowStmt.bare_ite (fun _ => ?_) ?_
  · have hguard := Site.bare_with_snippet (hsite "try") "try:"
    simp only [FlowStmt.bare, FlowStmt.bareAll_append, FlowStmt.bareAll_flatten, FlowStmt.bareOption_eq_map,
      ← List.getLast?_map, ← FlowStmt.bareEach_eq_map, elseClauses_bare h, handlerClauses_bare h,
      finallyClauses_bare h, hguard, hblock]
    simp only [elseClauses, handlerClauses, finallyClauses, hclauses]
  refine FlowStmt.bare_ite (fun _ => ?_) ?_
  · simp only [FlowStmt.bare, hsite, hblock]
  refine FlowStmt.bare_ite (fun hkind => ?_) ?_
  · rw [statementCall?_bare h (by simpa using hkind)]
    cases hcall : statementCall? stmt with
    | none => rfl
    | some call =>
      simp only [Option.map_some, FlowStmt.bare, calleeName_bare (tidy_of_statementCall? h hcall),
        Site.bare_with_callee (hsite "call")]
  · rfl
termination_by sizeOf stmt
decreasing_by
  · exact sizeOf_statements_lt fun _ h => sizeOf_lt_of_child? h
  · exact sizeOf_filter_lt _ stmt
  · exact sizeOf_filter_lt _ stmt

theorem lowerAll_bare (hnumber : number.Injective) {stmts : List SourceTree}
    (h : ∀ stmt ∈ stmts, stmt.tidy = true) :
    FlowStmt.bareAll (lowerAll (stmts.map (bare number))) = FlowStmt.bareAll (lowerAll stmts) := by
  match stmts with
  | [] => rfl
  | stmt :: rest =>
    rw [List.forall_mem_cons] at h
    rw [List.map_cons, lowerAll, lowerAll, FlowStmt.bareAll, FlowStmt.bareAll, lower_bare hnumber h.1,
      lowerAll_bare hnumber h.2]
termination_by sizeOf stmts

theorem lowerClauses_bare (hnumber : number.Injective) {clauses : List SourceTree}
    (h : ∀ clause ∈ clauses, clause.tidy = true) :
    FlowStmt.bareEach (lowerClauses (clauses.map (bare number))) = FlowStmt.bareEach (lowerClauses clauses) := by
  match clauses with
  | [] => rfl
  | clause :: rest =>
    rw [List.forall_mem_cons] at h
    rw [List.map_cons, lowerClauses, lowerClauses, FlowStmt.bareEach, FlowStmt.bareEach,
      blockOf?_bare h.1, statements_bare,
      lowerAll_bare hnumber fun stmt hstmt =>
        tidy_of_mem_statements (fun block hblock => tidy_of_blockOf? h.1 hblock) hstmt,
      lowerClauses_bare hnumber h.2]
termination_by sizeOf clauses
decreasing_by
  · have : sizeOf (statements (blockOf? clause)) < sizeOf clause :=
      sizeOf_statements_lt fun _ h => sizeOf_lt_of_blockOf? h
    simp only [List.cons.sizeOf_spec]
    omega
  · simp only [List.cons.sizeOf_spec]
    omega

theorem lowerAlternatives_bare (hnumber : number.Injective) {alternatives : List SourceTree}
    (h : ∀ clause ∈ alternatives, clause.tidy = true) :
    FlowStmt.bareOption (lowerAlternatives (alternatives.map (bare number))) =
      FlowStmt.bareOption (lowerAlternatives alternatives) := by
  match alternatives with
  | [] => rfl
  | next :: rest =>
    rw [List.forall_mem_cons] at h
    have hconsequence : FlowStmt.bareAll (lowerAll ((statements (next.child? "consequence")).map (bare number))) =
        FlowStmt.bareAll (lowerAll (statements (next.child? "consequence"))) :=
      lowerAll_bare hnumber fun stmt hstmt =>
        tidy_of_mem_statements (fun block hblock => tidy_of_child? h.1 hblock) hstmt
    have hlast : FlowStmt.bareAll (lowerAll ((statements (blockOf? next)).map (bare number))) =
        FlowStmt.bareAll (lowerAll (statements (blockOf? next))) :=
      lowerAll_bare hnumber fun stmt hstmt =>
        tidy_of_mem_statements (fun block hblock => tidy_of_blockOf? h.1 hblock) hstmt
    have hrest := lowerAlternatives_bare hnumber h.2
    rw [List.map_cons, lowerAlternatives, lowerAlternatives, kind_bare, child?_bare h.1, child?_bare h.1,
      bind_knownTruth?_bare h.1, statements_bare, blockOf?_bare h.1, statements_bare]
    -- an `elif` is a condition of its own, and an `else` ends the list
    split
    · simp only [FlowStmt.bareOption, FlowStmt.bareAll, FlowStmt.bare, hconsequence, hrest,
        Site.bare_ofTree_bare hnumber h.1]
    · simp only [FlowStmt.bareOption, hlast]
termination_by sizeOf alternatives
decreasing_by
  · have : sizeOf (statements (next.child? "consequence")) < sizeOf next :=
      sizeOf_statements_lt fun _ h => sizeOf_lt_of_child? h
    simp only [List.cons.sizeOf_spec]
    omega
  · have : sizeOf (statements (blockOf? next)) < sizeOf next :=
      sizeOf_statements_lt fun _ h => sizeOf_lt_of_blockOf? h
    simp only [List.cons.sizeOf_spec]
    omega
  · simp only [List.cons.sizeOf_spec]
    omega

end

/-! ### Calls -/

theorem referredName?_bare {function : SourceTree} (h : function.tidy = true) :
    referredName? (function.bare number) = referredName? function := by
  have hself (text : String) : (text == "self" || text == "cls") = selfNames.contains text := by
    rw [Bool.eq_iff_iff]
    simp [selfNames]
  simp only [referredName?, kind_bare, child?_bare h, hself]
  split
  · next hkind => rw [text_bare_of_kind (by simp_all [wordKinds])]
  split
  · have hrole : "attribute" ∈ wordRoles := by decide
    cases function.child? "object" with
    | none => rfl
    | some object =>
      simp only [Option.map_some, selfNames_contains_text_bare, map_text_child?_bare function hrole]
  · rfl

theorem calls_eq (tree : SourceTree) : calls tree =
    (if tree.kind == "call" then ((tree.child? "function").bind referredName?).toList else []) ++
      tree.children.flatMap fun child =>
        if child.named && !isDeclaration child.kind then calls child else [] := by
  have hall (trees : List SourceTree) : callsAll trees = trees.flatMap fun child =>
      if child.named && !isDeclaration child.kind then calls child else [] := by
    induction trees with
    | nil => rfl
    | cons tree rest ih => rw [callsAll, List.flatMap_cons, ih]
  cases tree
  rw [calls, hall]
  rfl

theorem calls_bare {tree : SourceTree} (h : tree.tidy = true) : calls (tree.bare number) = calls tree := by
  have ih : ∀ child ∈ tree.children, calls (child.bare number) = calls child :=
    fun child hchild => calls_bare (tidy_of_mem h hchild)
  rw [calls_eq, calls_eq tree, kind_bare, child?_bare h, Option.bind_map, children_bare, codeChildren]
  congr 1
  · split
    · congr 1
      refine Option.bind_congr fun function hfunction => ?_
      exact referredName?_bare (tidy_of_child? h hfunction)
    · rfl
  · refine flatMap_bare (fun child hchild _ => ?_) fun child hchild hextra => ?_
    · rw [named_bare, kind_bare, ih child hchild]
    · have hleaf := (tidyHere_of_tidy (tidy_of_mem h hchild)).leaf_of_extra hextra
      rw [calls_eq child, hleaf, beq_of_ignored (kind_of_extra h hchild hextra) (by decide)]
      simp
termination_by sizeOf tree
decreasing_by exact sizeOf_lt_of_mem hchild

/-! ### Declarations -/

/-- What a keyword argument with a value says about a route. -/
def Route.addKeyword (route : Route) (name? : Option String) (value : SourceTree) : Route :=
  if name? = some "path" then
    if value.kind == "string" then { route with path := some (stringValue value.text) } else route
  else if name? = some "methods" then
    let first? := value.children.find? fun item => item.named && item.kind == "string"
    { route with method := first?.map fun item => Text.uppercase (stringValue item.text) }
  else route

theorem Route.add_eq (route : Route) (argument : SourceTree) : route.add argument =
    if argument.kind == "string" && route.path.isNone then
      { route with path := some (stringValue argument.text) }
    else if argument.kind == "keyword_argument" then
      ((argument.child? "value").map (route.addKeyword ((argument.child? "name").map (·.text)))).getD route
    else route := by
  rw [Route.add]
  split
  · rfl
  split
  · generalize (argument.child? "name").map (·.text) = name?
    cases argument.child? "value" with
    | none => split <;> simp_all
    | some value => split <;> simp_all [Route.addKeyword]
  · rfl

theorem Route.addKeyword_bare (route : Route) (name? : Option String) {value : SourceTree}
    (h : value.tidy = true) : route.addKeyword name? (value.bare number) = route.addKeyword name? value := by
  have hitems : ((value.children.find? fun item => item.named && item.kind == "string").map (bare number)).map
      (fun item => Text.uppercase (stringValue item.text)) =
      (value.children.find? fun item => item.named && item.kind == "string").map
        fun item => Text.uppercase (stringValue item.text) := by
    rw [Option.map_map]
    refine Option.map_congr fun item hitem => ?_
    have hfound := List.find?_some hitem
    simp only [Bool.and_eq_true, beq_iff_eq] at hfound
    rw [Function.comp_apply, text_bare_of_kind (by simp [hfound.2, wordKinds])]
  simp only [Route.addKeyword, kind_bare, find?_kind_bare h (show "string" ∉ ignoredKinds by decide), hitems]
  split
  · split
    · next hkind => rw [text_bare_of_kind (by simp_all [wordKinds])]
    · rfl
  · rfl

theorem Route.add_bare (route : Route) {argument : SourceTree} (h : argument.tidy = true) :
    route.add (argument.bare number) = route.add argument := by
  have hrole : "name" ∈ wordRoles := by decide
  rw [Route.add_eq, Route.add_eq route argument, kind_bare, child?_bare h, child?_bare h,
    map_text_child?_bare argument hrole, Option.map_map]
  split
  · next hkind => rw [text_bare_of_kind (by simp_all [wordKinds])]
  split
  · congr 1
    refine Option.map_congr fun value hvalue => ?_
    exact Route.addKeyword_bare route _ (tidy_of_child? h hvalue)
  · rfl

theorem Route.add_of_ignored (route : Route) {argument : SourceTree} (h : argument.kind ∈ ignoredKinds) :
    route.add argument = route := by
  rw [Route.add, beq_of_ignored h (by decide), beq_of_ignored h (by decide)]
  rfl

/-- The endpoint of a decorator with the given expression. -/
theorem endpoint?_eq (decorator : Decorator) : endpoint? decorator =
    if decorator.expr.kind != "call" then none
    else (decorator.expr.child? "function").bind fun function =>
      if function.kind != "attribute" then none
      else (function.child? "attribute").bind fun verb =>
        if !routeMethods.contains verb.text then none
        else (decorator.expr.child? "arguments").bind fun arguments =>
          let route := arguments.namedChildren.foldl Route.add {}
          route.path.map fun path =>
            let method := if verb.text == "route" then route.method.getD "GET" else Text.uppercase verb.text
            Declaration.ofTree .endpoint (method ++ " " ++ path) decorator.expr
              (Metadata.ofList [("httpMethod", method), ("route", path)]) := by
  rw [endpoint?]
  split
  · rfl
  refine Option.bind_congr fun function _ => ?_
  split
  · rfl
  refine Option.bind_congr fun verb _ => ?_
  dsimp only
  split
  · rfl
  refine Option.bind_congr fun arguments _ => ?_
  rw [Option.map_eq_bind]
  rfl

theorem foldl_add_bare {arguments : SourceTree} (h : arguments.tidy = true) (route : Route) :
    (arguments.bare number).namedChildren.foldl Route.add route =
      arguments.namedChildren.foldl Route.add route := by
  rw [namedChildren_bare]
  refine foldl_bare (fun argument hargument _ route => ?_) (fun argument hargument hextra route => ?_) route
  · exact route.add_bare (tidy_of_mem h (List.mem_filter.1 hargument).1)
  · exact route.add_of_ignored (kind_of_extra h (List.mem_filter.1 hargument).1 hextra)

theorem endpoint?_bare (hnumber : number.Injective) {a b : Decorator} (hexpr : a.expr = b.expr.bare number)
    (h : b.expr.tidy = true) :
    (endpoint? a).map Declaration.bare = (endpoint? b).map Declaration.bare := by
  have hrole : "attribute" ∈ wordRoles := by decide
  rw [endpoint?_eq, endpoint?_eq b, hexpr, kind_bare, child?_bare h, child?_bare h, Option.bind_map]
  split
  · rfl
  rw [Option.map_bind, Option.map_bind]
  refine Option.bind_congr fun function hfunction => ?_
  simp only [Function.comp_apply, kind_bare, child?_bare (tidy_of_child? h hfunction), Option.bind_map]
  split
  · rfl
  rw [Option.map_bind, Option.map_bind]
  refine Option.bind_congr fun verb hverb => ?_
  simp only [Function.comp_apply, text_bare_of_field (field_of_child? hverb) hrole]
  split
  · rfl
  rw [Option.map_bind, Option.map_bind]
  refine Option.bind_congr fun arguments harguments => ?_
  simp only [Function.comp_apply, foldl_add_bare (tidy_of_child? h harguments), Option.map_map]
  refine Option.map_congr fun path _ => ?_
  exact Declaration.bare_ofTree_bare hnumber h _ _ _ _

/-- A decorator of a bare tree and one of the tree have the same expression. -/
def Decorator.Matches (number : Nat × Nat → Nat) (a b : Decorator) : Prop :=
  a.expr = b.expr.bare number ∧ b.expr.tidy = true

theorem decorators_bare {tree : SourceTree} (h : tree.tidy = true) :
    List.Forall₂ (Decorator.Matches number) (decorators (tree.bare number)) (decorators tree) := by
  have hexprs : ((tree.bare number).namedChildren.filter (·.kind == "decorator")).filterMap (·.firstNamed?) =
      ((tree.namedChildren.filter (·.kind == "decorator")).filterMap (·.firstNamed?)).map (bare number) := by
    rw [filter_namedChildren_bare h (by decide), List.filterMap_map, List.map_filterMap]
    refine List.filterMap_congr fun child hchild => ?_
    rw [List.mem_filter, namedChildren, List.mem_filter] at hchild
    exact firstNamed?_bare (tidy_of_mem h hchild.1.1) (by simp_all [lookedThrough])
  rw [decorators, hexprs, decorators, List.map_map, List.forall₂_map_left_iff, List.forall₂_map_right_iff,
    List.forall₂_same]
  intro expr hexpr
  obtain ⟨child, hchild, hfirst⟩ := List.mem_filterMap.1 hexpr
  rw [List.mem_filter, namedChildren, List.mem_filter] at hchild
  exact ⟨rfl, tidy_of_firstNamed? (tidy_of_mem h hchild.1.1) hfirst⟩

theorem endpoints_bare (hnumber : number.Injective) {a b : List Decorator}
    (h : List.Forall₂ (Decorator.Matches number) a b) :
    Outline.bareAll ((a.filterMap endpoint?).map fun endpoint => .declares endpoint []) =
      Outline.bareAll ((b.filterMap endpoint?).map fun endpoint => .declares endpoint []) := by
  have hsame : (a.filterMap endpoint?).map Declaration.bare = (b.filterMap endpoint?).map Declaration.bare := by
    rw [List.map_filterMap, List.map_filterMap]
    induction h with
    | nil => rfl
    | cons hab _ ih => rw [List.filterMap_cons, List.filterMap_cons, endpoint?_bare hnumber hab.1 hab.2, ih]
  have hbare (endpoint : Declaration) : Outline.bare (.declares endpoint []) = .declares endpoint.bare [] := rfl
  simp only [Outline.bareAll_eq_map, List.map_map, Function.comp_def, hbare]
  have hmap := congrArg (List.map fun endpoint => Outline.declares endpoint []) hsame
  simpa only [List.map_map, Function.comp_def] using hmap

theorem baseNames_bare {class_ : SourceTree} (h : class_.tidy = true) :
    baseNames (class_.bare number) = baseNames class_ := by
  rw [baseNames, child?_bare h, baseNames]
  cases hbases : class_.child? "superclasses" with
  | none => rfl
  | some bases =>
    have htidy := tidy_of_child? h hbases
    simp only [Option.map_some, namedChildren_bare]
    refine filterMap_bare (fun base hbase _ => ?_) fun base hbase hextra => ?_
    · have hbase := tidy_of_mem htidy (List.mem_filter.1 hbase).1
      have hrole : "attribute" ∈ wordRoles := by decide
      rw [kind_bare, child?_bare hbase, map_text_child?_bare base hrole]
      split
      · next hkind => rw [text_bare_of_kind (by simp_all [wordKinds])]
      · rfl
    · have hkind := kind_of_extra htidy (List.mem_filter.1 hbase).1 hextra
      rw [beq_of_ignored hkind (by decide), beq_of_ignored hkind (by decide)]
      rfl

theorem importedModules_bare {stmt : SourceTree} (h : stmt.tidy = true) :
    importedModules (stmt.bare number) = importedModules stmt := by
  rw [importedModules, namedChildren_bare, importedModules]
  refine filterMap_bare (fun child hchild _ => ?_) fun child hchild hextra => ?_
  · have hrole : "name" ∈ wordRoles := by decide
    rw [kind_bare, child?_bare (tidy_of_mem h (List.mem_filter.1 hchild).1), map_text_child?_bare child hrole]
    split
    · rfl
    split
    · next hkind => rw [text_bare_of_kind (by simp_all [wordKinds])]
    · rfl
  · have hkind := kind_of_extra h (List.mem_filter.1 hchild).1 hextra
    rw [beq_of_ignored hkind (by decide), beq_of_ignored hkind (by decide)]
    rfl

theorem members_bare (part? : Option SourceTree) :
    members (part?.map (bare number)) = ((members part?).filter (!·.extra)).map (bare number) := by
  cases part? with
  | none => rfl
  | some part => exact namedChildren_bare

theorem tidy_of_mem_members {part? : Option SourceTree}
    (h : ∀ part, part? = some part → part.tidy = true) {tree : SourceTree}
    (htree : tree ∈ members part?) : tree.tidy = true := by
  cases part? with
  | none => cases htree
  | some part => exact tidy_of_mem (h part rfl) (List.mem_filter.1 htree).1

theorem outline_eq (inClass : Bool) (tree : SourceTree) : outline inClass tree =
    if tree.kind == "import_statement" then (importedModules tree).map .imports
    else if tree.kind == "import_from_statement" then
      ((tree.child? "module_name").map fun name => .imports name.text).toList
    else if tree.kind == "class_definition" || tree.kind == "function_definition" then
      definition inClass tree [] tree
    else if tree.kind == "decorated_definition" then
      ((tree.child? "definition").map (definition inClass tree (decorators tree))).getD []
    else if holdsStatements tree.kind then outlines inClass tree.namedChildren
    else [] := by
  rw [outline]
  cases tree.child? "definition" <;> rfl

theorem outline_of_ignored (inClass : Bool) {tree : SourceTree} (h : tree.kind ∈ ignoredKinds) :
    outline inClass tree = [] := by
  have hholds : ∀ kind ∈ ignoredKinds, holdsStatements kind = false := by decide
  rw [outline_eq, beq_of_ignored h (by decide), beq_of_ignored h (by decide), beq_of_ignored h (by decide),
    beq_of_ignored h (by decide), beq_of_ignored h (by decide), hholds _ h]
  rfl

/-! ### Outlines -/

mutual

theorem definition_bare (hnumber : number.Injective) (inClass : Bool) {outer definition_ : SourceTree}
    (houter : outer.tidy = true) (h : definition_.tidy = true) {a b : List Decorator}
    (hdecorators : List.Forall₂ (Decorator.Matches number) a b) :
    Outline.bareAll (definition inClass (outer.bare number) a (definition_.bare number)) =
      Outline.bareAll (definition inClass outer b definition_) := by
  have hbody : Outline.bareAll (outlines (definition_.kind == "class_definition")
        (((members (definition_.child? "body")).filter (!·.extra)).map (bare number))) =
      Outline.bareAll (outlines (definition_.kind == "class_definition")
        (members (definition_.child? "body"))) :=
    outlines_bare hnumber _ fun tree htree =>
      tidy_of_mem_members (fun part hpart => tidy_of_child? h hpart) htree
  rw [definition.eq_1 inClass (outer.bare number), definition.eq_1 inClass outer]
  simp only [kind_bare, child?_bare h, members_bare, baseNames_bare h]
  cases hname : definition_.child? "name" with
  | none => rfl
  | some name =>
    have htext : (name.bare number).text = name.text := text_bare_of_field (field_of_child? hname) (by decide)
    simp only [Option.map_some, htext]
    -- a class, a function with its endpoints and its control flow, or nothing
    split
    · simp only [Outline.bareAll, Outline.bare, Outline.bareAll_append, hbody,
        Declaration.bare_ofTree_bare hnumber houter _ _ _ (withDecorators .empty b)]
    split
    · simp only [Outline.bareAll, Outline.bare, Outline.bareAll_append, endpoints_bare hnumber hdecorators,
        Declaration.bare_ofTree_bare hnumber houter _ _ _ (functionMetadata definition_ b)]
      cases hblock_eq : definition_.child? "body" with
      | none => rfl
      | some block =>
        have hblock := tidy_of_child? h hblock_eq
        have hflow : FlowStmt.bareAll (lowerAll (statements (some (block.bare number)))) =
            FlowStmt.bareAll (lowerAll (statements (some block))) := by
          rw [← Option.map_some, statements_bare]
          exact lowerAll_bare hnumber fun stmt hstmt =>
            tidy_of_mem_statements (fun other hother => Option.some.inj hother ▸ hblock) hstmt
        rw [hblock_eq] at hbody
        simp only [Option.map_some, Outline.bareAll_append, calls_bare hblock, Outline.bareAll, Outline.bare, hflow,
          hbody]
    · rfl
termination_by (sizeOf definition_, 0)
decreasing_by
  exact Prod.Lex.left _ _ (sizeOf_members_lt fun _ h => sizeOf_lt_of_child? h)

theorem outline_bare (hnumber : number.Injective) (inClass : Bool) {tree : SourceTree}
    (h : tree.tidy = true) :
    Outline.bareAll (outline inClass (tree.bare number)) = Outline.bareAll (outline inClass tree) := by
  rw [outline_eq, outline_eq inClass tree]
  simp only [kind_bare, child?_bare h, importedModules_bare h,
    map_child?_bare Outline.imports tree (show "module_name" ∈ wordRoles by decide)]
  split
  · rfl
  split
  · rfl
  split
  · exact definition_bare hnumber inClass h h .nil
  split
  · cases hinner : tree.child? "definition" with
    | none => rfl
    | some inner => exact definition_bare hnumber inClass h (tidy_of_child? h hinner) (decorators_bare h)
  split
  · rw [namedChildren_bare]
    exact outlines_bare hnumber inClass fun child hchild => tidy_of_mem h (List.mem_filter.1 hchild).1
  · rfl
termination_by (sizeOf tree, 1)
decreasing_by
  · exact Prod.Lex.left _ _ tree.sizeOf_namedChildren_lt
  · exact Prod.Lex.left _ _ (sizeOf_lt_of_child? ‹_›)
  · exact Prod.Lex.right _ (by decide)

/-- **What a list of bare statements says is what the statements say.** -/
theorem outlines_bare (hnumber : number.Injective) (inClass : Bool) {trees : List SourceTree}
    (h : ∀ tree ∈ trees, tree.tidy = true) :
    Outline.bareAll (outlines inClass ((trees.filter (!·.extra)).map (bare number))) =
      Outline.bareAll (outlines inClass trees) := by
  match trees with
  | [] => rfl
  | tree :: rest =>
    rw [List.forall_mem_cons] at h
    have hrest := outlines_bare hnumber inClass h.2
    rw [outlines.eq_2, Outline.bareAll_append]
    cases hextra : tree.extra with
    | false =>
      rw [List.filter_cons_of_pos (by simp [hextra]), List.map_cons, outlines.eq_2, Outline.bareAll_append,
        outline_bare hnumber inClass h.1, hrest]
    | true =>
      have hkind := (tidyHere_of_tidy h.1).kind_of_extra hextra
      rw [List.filter_cons_of_neg (by simp [hextra]), hrest, outline_of_ignored inClass hkind]
      rfl
termination_by (sizeOf trees, 0)
decreasing_by
  all_goals
    refine Prod.Lex.left _ _ ?_
    simp only [List.cons.sizeOf_spec]
    omega

end

end StructuralDiff.Python
