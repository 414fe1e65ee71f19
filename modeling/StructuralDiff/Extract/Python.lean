import StructuralDiff.Outline
import StructuralDiff.Text.Case

/-!
# Outlines of Python files

What a Python file imports, declares, calls and exposes, and how control flows in its functions.

* `Python.lowerAll`: the control flow of a list of statements.
* `Python.outlines`: the outlines of a list of statements.
-/

namespace StructuralDiff.Python

/-! ### Control flow -/

/-- The value of a condition, where it can be read off. -/
def knownTruth? (expr : SourceTree) : Option Bool :=
  if expr.kind == "true" then some true
  else if expr.kind == "false" || expr.kind == "none" then some false
  else if expr.kind == "not_operator" then
    match _h : expr.child? "argument" with
    | some argument => (knownTruth? argument).map (!·)
    | none => none
  else if expr.kind == "parenthesized_expression" then
    match _h : expr.firstNamed? with
    | some inner => knownTruth? inner
    | none => none
  else none
termination_by sizeOf expr
decreasing_by
  · exact SourceTree.sizeOf_lt_of_child? _h
  · exact SourceTree.sizeOf_lt_of_firstNamed? _h

/-- The call that a statement makes: as an expression, as the value of an assignment, or awaited. -/
def statementCall? (stmt : SourceTree) : Option SourceTree := do
  let value ← stmt.firstNamed?
  let value ←
    if value.kind == "assignment" || value.kind == "augmented_assignment" then value.child? "right"
    else some value
  let value ← if value.kind == "await" then value.firstNamed? else some value
  if value.kind == "call" then some value else none

/-- The name that a call calls. -/
def calleeName (call : SourceTree) : String :=
  let name? := (call.child? "function").bind fun function =>
    if function.kind == "identifier" then some function
    else if function.kind == "attribute" then function.child? "attribute"
    else none
  (name?.map (·.text)).getD "call"

/-- The block of a clause. -/
def blockOf? (clause : SourceTree) : Option SourceTree :=
  (clause.child? "body").or (clause.children.find? fun child => child.named && child.kind == "block")

/-- The statements of a block that may be absent. -/
def statements : Option SourceTree → List SourceTree
  | none => []
  | some block => block.children.filter fun child => child.named && !child.extra

theorem sizeOf_statements_lt {block? : Option SourceTree} {tree : SourceTree}
    (h : ∀ block, block? = some block → sizeOf block < sizeOf tree) :
    sizeOf (statements block?) < sizeOf tree := by
  cases block? with
  | none => simpa [statements] using tree.one_lt_sizeOf
  | some block =>
    have := h block rfl
    have := SourceTree.sizeOf_filter_le (fun child => child.named && !child.extra) block.children
    have := block.sizeOf_children_lt
    simp only [statements]
    omega

theorem sizeOf_lt_of_blockOf? {clause block : SourceTree} (h : blockOf? clause = some block) :
    sizeOf block < sizeOf clause := by
  unfold blockOf? at h
  cases hbody : clause.child? "body" with
  | some body =>
    rw [hbody] at h
    cases h
    exact SourceTree.sizeOf_lt_of_child? hbody
  | none =>
    rw [hbody] at h
    exact SourceTree.sizeOf_lt_of_mem (List.mem_of_find?_eq_some h)

/-- A clause with one of the kinds. -/
def isClause (kinds : List String) (tree : SourceTree) : Bool :=
  tree.named && kinds.contains tree.kind

/-- The handlers of a guarded block. -/
def handlerClauses (stmt : SourceTree) : List SourceTree :=
  stmt.children.filter (isClause ["except_clause", "except_group_clause"])

/-- The alternatives of a guarded block that are taken without an exception. -/
def elseClauses (stmt : SourceTree) : List SourceTree :=
  stmt.children.filter (isClause ["else_clause"])

/-- The clauses that follow a guarded block in any case. -/
def finallyClauses (stmt : SourceTree) : List SourceTree :=
  stmt.children.filter (isClause ["finally_clause"])

theorem sizeOf_filter_lt (p : SourceTree → Bool) (tree : SourceTree) :
    sizeOf (tree.children.filter p) < sizeOf tree :=
  Nat.lt_of_le_of_lt (SourceTree.sizeOf_filter_le _ _) tree.sizeOf_children_lt

mutual

/-- The control flow of a statement. -/
def lower (stmt : SourceTree) : FlowStmt :=
  if stmt.kind == "if_statement" then
    .cond (.ofTree "if" stmt) ((stmt.child? "condition").bind knownTruth?)
      (lowerAll (statements (stmt.child? "consequence")))
      (lowerAlternatives (stmt.childrenIn "alternative"))
  else if stmt.kind == "return_statement" then .exit (.ofTree "return" stmt)
  else if stmt.kind == "raise_statement" then .exit (.ofTree "raise" stmt)
  else if stmt.kind == "for_statement" then
    .loop (.ofTree "for" stmt) (lowerAll (statements (stmt.child? "body")))
  else if stmt.kind == "while_statement" then
    .loop (.ofTree "while" stmt) (lowerAll (statements (stmt.child? "body")))
  else if stmt.kind == "try_statement" then
    .guarded { Site.ofTree "try" stmt with snippet := "try:" }
      (lowerAll (statements (stmt.child? "body")) ++ (lowerClauses (elseClauses stmt)).flatten)
      (lowerClauses (handlerClauses stmt))
      (lowerClauses (finallyClauses stmt)).getLast?
  else if stmt.kind == "with_statement" then
    .scoped (.ofTree "with" stmt) (lowerAll (statements (stmt.child? "body")))
  else if stmt.kind == "expression_statement" then
    match statementCall? stmt with
    | some call => .call { Site.ofTree "call" stmt with callee := some (calleeName call) }
    | none => .plain true
  else .plain true
termination_by sizeOf stmt
decreasing_by
  all_goals first
    | exact sizeOf_statements_lt fun _ h => SourceTree.sizeOf_lt_of_child? h
    | exact sizeOf_filter_lt _ stmt

/-- The control flow of a list of statements. -/
def lowerAll (stmts : List SourceTree) : List FlowStmt :=
  match stmts with
  | [] => []
  | stmt :: rest => lower stmt :: lowerAll rest
termination_by sizeOf stmts

/-- The control flow of each of several clauses. -/
def lowerClauses (clauses : List SourceTree) : List (List FlowStmt) :=
  match clauses with
  | [] => []
  | clause :: rest => lowerAll (statements (blockOf? clause)) :: lowerClauses rest
termination_by sizeOf clauses
decreasing_by
  · have : sizeOf (statements (blockOf? clause)) < sizeOf clause :=
      sizeOf_statements_lt fun _ h => sizeOf_lt_of_blockOf? h
    simp only [List.cons.sizeOf_spec]
    omega
  · simp only [List.cons.sizeOf_spec]
    omega

/-- What is done when a condition fails: the next alternative, which may be a condition itself. -/
def lowerAlternatives (alternatives : List SourceTree) : Option (List FlowStmt) :=
  match alternatives with
  | [] => none
  | next :: rest =>
    if next.kind == "elif_clause" then
      some [.cond (.ofTree "elif" next) ((next.child? "condition").bind knownTruth?)
        (lowerAll (statements (next.child? "consequence"))) (lowerAlternatives rest)]
    else some (lowerAll (statements (blockOf? next)))
termination_by sizeOf alternatives
decreasing_by
  · have : sizeOf (statements (next.child? "consequence")) < sizeOf next :=
      sizeOf_statements_lt fun _ h => SourceTree.sizeOf_lt_of_child? h
    simp only [List.cons.sizeOf_spec]
    omega
  · simp only [List.cons.sizeOf_spec]
    omega
  · have : sizeOf (statements (blockOf? next)) < sizeOf next :=
      sizeOf_statements_lt fun _ h => sizeOf_lt_of_blockOf? h
    simp only [List.cons.sizeOf_spec]
    omega

end

/-! ### Calls -/

/-- A declaration, whose calls are not those of the function around it. -/
def isDeclaration (kind : String) : Bool :=
  kind == "function_definition" || kind == "class_definition" || kind == "decorated_definition"

/-- The name that a function expression refers to: a plain name, or a method of the object itself. -/
def referredName? (function : SourceTree) : Option String :=
  if function.kind == "identifier" then some function.text
  else if function.kind == "attribute" then
    match function.child? "object" with
    | some object =>
      if object.text == "self" || object.text == "cls" then
        (function.child? "attribute").map (·.text)
      else none
    | none => none
  else none

mutual

/-- The names that are called in a tree, in order. -/
def calls : SourceTree → List String
  | ⟨kind, _, _, _, _, _, _, _, _, _, _, children⟩ =>
    let here :=
      if kind == "call" then
        ((children.find? (·.field == some "function")).bind referredName?).toList
      else []
    here ++ callsAll children

/-- The names that are called in a list of trees; declarations are left out. -/
def callsAll : List SourceTree → List String
  | [] => []
  | tree :: rest =>
    (if tree.named && !isDeclaration tree.kind then calls tree else []) ++ callsAll rest

end

/-! ### Declarations -/

/-- The text of a string literal without its marks and quotes. -/
def stringValue (literal : String) : String :=
  let isQuote (c : Char) : Bool := c == '"' || c == '\x27'
  let body := (literal.toList.dropWhile Char.isAlpha).dropWhile isQuote
  String.ofList (body.reverse.dropWhile isQuote).reverse

/-- A decorator of a declaration. -/
structure Decorator where
  name : String
  expr : SourceTree

/-- The decorators of a declaration. -/
def decorators (decorated : SourceTree) : List Decorator :=
  ((decorated.namedChildren.filter (·.kind == "decorator")).filterMap (·.firstNamed?)).map fun expr =>
    let head := if expr.kind == "call" then (expr.child? "function").getD expr else expr
    { name := head.compactText, expr }

/-- The names of decorators as an attribute, if there are any. -/
def withDecorators (metadata : Metadata) (decorators : List Decorator) : Metadata :=
  if decorators.isEmpty then metadata
  else metadata.insert "decorators" (",".intercalate (decorators.map (·.name)))

/-- Decorators that declare a route of a web service. -/
def routeMethods : List String :=
  ["get", "post", "put", "patch", "delete", "head", "options", "route"]

/-- What the arguments of a route say: its path and its method. -/
structure Route where
  path : Option String := none
  method : Option String := none

/-- Reads one argument of a route. -/
def Route.add (route : Route) (argument : SourceTree) : Route :=
  if argument.kind == "string" && route.path.isNone then
    { route with path := some (stringValue argument.text) }
  else if argument.kind == "keyword_argument" then
    match (argument.child? "name").map (·.text), argument.child? "value" with
    | some "path", some value =>
      if value.kind == "string" then { route with path := some (stringValue value.text) } else route
    | some "methods", some value =>
      let first? := value.children.find? fun item => item.named && item.kind == "string"
      { route with method := first?.map fun item => Text.uppercase (stringValue item.text) }
    | _, _ => route
  else route

/-- The endpoint that a decorator declares: `@app.get("/users")` declares `GET /users`. -/
def endpoint? (decorator : Decorator) : Option Declaration := do
  let expr := decorator.expr
  if expr.kind != "call" then none
  let function ← expr.child? "function"
  if function.kind != "attribute" then none
  let verb := (← function.child? "attribute").text
  if !routeMethods.contains verb then none
  let arguments ← expr.child? "arguments"
  let route := arguments.namedChildren.foldl Route.add {}
  let path ← route.path
  let method := if verb == "route" then route.method.getD "GET" else Text.uppercase verb
  return Declaration.ofTree .endpoint (method ++ " " ++ path) expr
    (Metadata.ofList [("httpMethod", method), ("route", path)])

/-- One parameter of a function, without its default value. -/
def parameter (tree : SourceTree) : String :=
  if tree.kind == "default_parameter" then ((tree.child? "name").map (·.compactText)).getD ""
  else if tree.kind == "typed_default_parameter" then
    let name := ((tree.child? "name").map (·.text)).getD ""
    match tree.child? "type" with
    | some type => name ++ ": " ++ type.compactText
    | none => name
  else tree.compactText

/-- The parameters of a function. -/
def parameters (function : SourceTree) : String :=
  match function.child? "parameters" with
  | none => "()"
  | some list =>
    "(" ++ ", ".intercalate ((list.namedChildren.filter (!·.extra)).map parameter) ++ ")"

/-- The documentation of a function: a string that is its first statement. -/
def docstring? (body : SourceTree) : Option String := do
  let first ← body.children.find? fun child => child.named && !child.extra
  if first.kind != "expression_statement" then none
  let literal ← first.firstNamed?
  if literal.kind != "string" then none
  let lines := (Text.lines (stringValue literal.text)).map Text.trim
  let doc := Text.trim ("\n".intercalate lines)
  if doc == "" then none else some doc

/-- The attributes of a function. -/
def functionMetadata (function : SourceTree) (decorators : List Decorator) : Metadata :=
  let metadata := Metadata.empty.insert "params" (parameters function)
  let metadata :=
    match function.child? "return_type" with
    | some type => metadata.insert "returnType" type.compactText
    | none => metadata
  let metadata :=
    match (function.child? "body").bind docstring? with
    | some doc => metadata.insert "documentation" doc
    | none => metadata
  withDecorators metadata decorators

/-- The kind of a class, by its name. -/
def classKind (name : String) : NodeKind :=
  if Text.finishesWith "Controller" name then .controller
  else if Text.finishesWith "Service" name then .service
  else .classType

/-- The names of the classes that a class extends. -/
def baseNames (class_ : SourceTree) : List String :=
  match class_.child? "superclasses" with
  | none => []
  | some bases => bases.namedChildren.filterMap fun base =>
    if base.kind == "identifier" then some base.text
    else if base.kind == "attribute" then (base.child? "attribute").map (·.text)
    else none

/-- The modules that an import statement names. -/
def importedModules (stmt : SourceTree) : List String :=
  stmt.namedChildren.filterMap fun child =>
    if child.kind == "aliased_import" then (child.child? "name").map (·.text)
    else if child.kind == "dotted_name" then some child.text
    else none

/-- A node that holds statements. -/
def holdsStatements (kind : String) : Bool :=
  kind == "module" || kind == "block" || Text.finishesWith "_statement" kind
    || Text.finishesWith "_clause" kind

/-- The nodes of the grammar in a part that may be absent. -/
def members : Option SourceTree → List SourceTree
  | none => []
  | some tree => tree.namedChildren

theorem sizeOf_members_lt {part? : Option SourceTree} {tree : SourceTree}
    (h : ∀ part, part? = some part → sizeOf part < sizeOf tree) :
    sizeOf (members part?) < sizeOf tree := by
  cases part? with
  | none => simpa [members] using tree.one_lt_sizeOf
  | some part =>
    have := h part rfl
    have := part.sizeOf_namedChildren_lt
    simp only [members]
    omega

mutual

/-- The outline of a definition, which is the part `definition` of `outer` with its decorators. -/
def definition (inClass : Bool) (outer : SourceTree) (decorators : List Decorator)
    (definition_ : SourceTree) : List Outline :=
  match definition_.child? "name" with
  | none => []
  | some name =>
    let body := outlines (definition_.kind == "class_definition") (members (definition_.child? "body"))
    if definition_.kind == "class_definition" then
      [.declares
        (.ofTree (classKind name.text) name.text outer (withDecorators .empty decorators))
        ((baseNames definition_).map (.refers .extends) ++ body)]
    else if definition_.kind == "function_definition" then
      let endpoints := (decorators.filterMap endpoint?).map fun endpoint => .declares endpoint []
      let inner :=
        match definition_.child? "body" with
        | some block =>
          (calls block).map (.refers .call) ++ [.flows (lowerAll (statements (some block)))] ++ body
        | none => []
      [.declares
        (.ofTree (if inClass then .method else .function) name.text outer
          (functionMetadata definition_ decorators))
        (endpoints ++ inner)]
    else []
termination_by (sizeOf definition_, 0)
decreasing_by
  exact Prod.Lex.left _ _ (sizeOf_members_lt fun _ h => SourceTree.sizeOf_lt_of_child? h)

/-- The outline of a statement. -/
def outline (inClass : Bool) (tree : SourceTree) : List Outline :=
  if tree.kind == "import_statement" then (importedModules tree).map .imports
  else if tree.kind == "import_from_statement" then
    ((tree.child? "module_name").map fun name => .imports name.text).toList
  else if tree.kind == "class_definition" || tree.kind == "function_definition" then
    definition inClass tree [] tree
  else if tree.kind == "decorated_definition" then
    match _h : tree.child? "definition" with
    | some inner => definition inClass tree (decorators tree) inner
    | none => []
  else if holdsStatements tree.kind then outlines inClass tree.namedChildren
  else []
termination_by (sizeOf tree, 1)
decreasing_by
  · exact Prod.Lex.right _ (by decide)
  · exact Prod.Lex.left _ _ (SourceTree.sizeOf_lt_of_child? _h)
  · exact Prod.Lex.left _ _ tree.sizeOf_namedChildren_lt

/-- The outlines of a list of statements. -/
def outlines (inClass : Bool) (trees : List SourceTree) : List Outline :=
  match trees with
  | [] => []
  | tree :: rest => outline inClass tree ++ outlines inClass rest
termination_by (sizeOf trees, 0)
decreasing_by
  · refine Prod.Lex.left _ _ ?_
    simp only [List.cons.sizeOf_spec]
    omega
  · refine Prod.Lex.left _ _ ?_
    simp only [List.cons.sizeOf_spec]
    omega

end

end StructuralDiff.Python
