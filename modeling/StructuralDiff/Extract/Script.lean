import StructuralDiff.Outline

/-!
# Outlines of TypeScript and JavaScript files

What a script imports, declares, calls and renders, and how control flows in its functions. TypeScript, its
variant with markup and JavaScript share the kinds of nodes that matter here. A function that is an argument
of a call is a callback, a symbol inside the function that makes the call.

* `Script.lowerAll`: the control flow of a list of statements.
* `Script.outlines`: the outlines of a list of statements.
-/

namespace StructuralDiff.Script

/-! ### Control flow -/

/-- The value of a condition, where it can be read off. -/
def knownTruth? (expr : SourceTree) : Option Bool :=
  if expr.kind == "true" then some true
  else if expr.kind == "false" || expr.kind == "null" || expr.kind == "undefined" then some false
  else if expr.kind == "parenthesized_expression" then
    match _h : expr.firstNamed? with
    | some inner => knownTruth? inner
    | none => none
  else if expr.kind == "unary_expression" then
    if (expr.child? "operator").any (·.kind == "!") then
      match _h : expr.child? "argument" with
      | some argument => (knownTruth? argument).map (!·)
      | none => none
    else none
  else none
termination_by sizeOf expr
decreasing_by
  · exact SourceTree.sizeOf_lt_of_firstNamed? _h
  · exact SourceTree.sizeOf_lt_of_child? _h

/-- The value that a statement computes: of an expression, or of its only variable. -/
def statementValue? (stmt : SourceTree) : Option SourceTree :=
  if stmt.kind == "expression_statement" then stmt.firstNamed?
  else
    match stmt.namedChildren.filter (·.kind == "variable_declarator") with
    | [declarator] => declarator.child? "value"
    | _ => none

/-- The call that a statement makes: on its own, as an assigned value, or awaited. -/
def statementCall? (stmt : SourceTree) : Option SourceTree := do
  let value ← statementValue? stmt
  let value ←
    if value.kind == "assignment_expression" || value.kind == "augmented_assignment_expression" then
      value.child? "right"
    else some value
  let value ← if value.kind == "await_expression" then value.firstNamed? else some value
  if value.kind == "call_expression" then some value else none

/-- The name that a call calls. -/
def calleeName (call : SourceTree) : String :=
  let name? := (call.child? "function").bind fun function =>
    if function.kind == "identifier" then some function
    else if function.kind == "member_expression" then function.child? "property"
    else none
  (name?.map (·.text)).getD "call"

/-- The statements at a place that holds a block or a single statement. -/
def statements : Option SourceTree → List SourceTree
  | none => []
  | some tree =>
    if tree.kind == "statement_block" then
      tree.children.filter fun child => child.named && !child.extra
    else [tree]

/-- What stands in the alternative of a condition. -/
def alternative? (clause : SourceTree) : Option SourceTree :=
  clause.children.find? fun child => child.named && !child.extra

/-- The kind of the branch of a condition that stands where `tree` does in an alternative. -/
def alternativeKind (tree : Option SourceTree) : String :=
  if tree.any (·.kind == "if_statement") then "elif" else "if"

theorem sizeOf_statements_child?_lt (tree : SourceTree) (role : String) :
    sizeOf (statements (tree.child? role)) < sizeOf tree := by
  cases h : tree.child? role with
  | none => simpa [statements] using tree.one_lt_sizeOf
  | some part =>
    have hpart := SourceTree.sizeOf_lt_of_child? h
    have hmem : part ∈ tree.children := List.mem_of_find?_eq_some h
    simp only [statements]
    split
    · have := SourceTree.sizeOf_filter_le (fun child => child.named && !child.extra) part.children
      have := part.sizeOf_children_lt
      omega
    · have := SourceTree.sizeOf_singleton_le_of_mem hmem
      have := tree.sizeOf_children_lt
      omega

theorem sizeOf_statements_of_child?_lt {tree part : SourceTree} {role : String}
    (h : tree.child? role = some part) (inner : String) :
    sizeOf (statements (part.child? inner)) < sizeOf tree :=
  Nat.lt_trans (sizeOf_statements_child?_lt part inner) (SourceTree.sizeOf_lt_of_child? h)

theorem sizeOf_statements_alternative?_lt {tree clause : SourceTree} {role : String}
    (h : tree.child? role = some clause) :
    sizeOf (statements (alternative? clause)) < sizeOf tree := by
  have hclause := SourceTree.sizeOf_lt_of_child? h
  cases ha : alternative? clause with
  | none => simpa [statements] using tree.one_lt_sizeOf
  | some part =>
    have hmem : part ∈ clause.children := List.mem_of_find?_eq_some ha
    have hchildren := clause.sizeOf_children_lt
    simp only [statements]
    split
    · have := SourceTree.sizeOf_filter_le (fun child => child.named && !child.extra) part.children
      have := part.sizeOf_children_lt
      have := SourceTree.sizeOf_lt_of_mem hmem
      omega
    · have := SourceTree.sizeOf_singleton_le_of_mem hmem
      omega

mutual

/-- The control flow of a statement; a condition becomes a branch of the given kind. -/
def lower (condKind : String) (stmt : SourceTree) : FlowStmt :=
  if stmt.kind == "if_statement" then
    let elseBody :=
      match _h : stmt.child? "alternative" with
      | some clause =>
        some (lowerAll (alternativeKind (alternative? clause)) (statements (alternative? clause)))
      | none => none
    .cond (.ofTree condKind stmt) ((stmt.child? "condition").bind knownTruth?)
      (lowerAll "if" (statements (stmt.child? "consequence"))) elseBody
  else if stmt.kind == "return_statement" then .exit (.ofTree "return" stmt)
  else if stmt.kind == "throw_statement" then .exit (.ofTree "throw" stmt)
  else if stmt.kind == "for_statement" || stmt.kind == "for_in_statement" then
    .loop (.ofTree "for" stmt) (lowerAll "if" (statements (stmt.child? "body")))
  else if stmt.kind == "while_statement" then
    .loop (.ofTree "while" stmt) (lowerAll "if" (statements (stmt.child? "body")))
  else if stmt.kind == "do_statement" then
    .loop (.ofTree "do" stmt) (lowerAll "if" (statements (stmt.child? "body")))
  else if stmt.kind == "try_statement" then
    let handlers :=
      match _h : stmt.child? "handler" with
      | some clause => [lowerAll "if" (statements (clause.child? "body"))]
      | none => []
    let finalBody :=
      match _h : stmt.child? "finalizer" with
      | some clause => some (lowerAll "if" (statements (clause.child? "body")))
      | none => none
    .guarded { Site.ofTree "try" stmt with snippet := "try \x7b" }
      (lowerAll "if" (statements (stmt.child? "body"))) handlers finalBody
  else if stmt.kind == "statement_block" then
    .sequence (lowerAll "if" (stmt.children.filter fun child => child.named && !child.extra))
  else if stmt.kind == "expression_statement" || stmt.kind == "lexical_declaration"
      || stmt.kind == "variable_declaration" then
    match statementCall? stmt with
    | some call => .call { Site.ofTree "call" stmt with callee := some (calleeName call) }
    | none => .plain true
  else .plain true
termination_by sizeOf stmt
decreasing_by
  · exact sizeOf_statements_alternative?_lt _h
  · exact sizeOf_statements_child?_lt stmt _
  · exact sizeOf_statements_child?_lt stmt _
  · exact sizeOf_statements_child?_lt stmt _
  · exact sizeOf_statements_child?_lt stmt _
  · exact sizeOf_statements_of_child?_lt _h _
  · exact sizeOf_statements_of_child?_lt _h _
  · exact sizeOf_statements_child?_lt stmt _
  · exact Nat.lt_of_le_of_lt (SourceTree.sizeOf_filter_le _ _) stmt.sizeOf_children_lt

/-- The control flow of a list of statements; conditions among them become branches of the given kind. -/
def lowerAll (condKind : String) (stmts : List SourceTree) : List FlowStmt :=
  match stmts with
  | [] => []
  | stmt :: rest => lower condKind stmt :: lowerAll condKind rest
termination_by sizeOf stmts

end

/-- The control flow of the body of a function. A body that is an expression is returned. -/
def lowerBody (body : SourceTree) : List FlowStmt :=
  if body.kind == "statement_block" then lowerAll "if" (statements (some body))
  else [.exit (.ofTree "return" body)]

/-! ### Kinds of nodes -/

/-- A function as a value. -/
def isFunctionValue (tree : SourceTree) : Bool :=
  tree.kind == "arrow_function" || tree.kind == "function_expression"
    || tree.kind == "generator_function"

/-- A declaration that is a symbol of its own. -/
def isNestedDeclaration (kind : String) : Bool :=
  ["function_declaration", "generator_function_declaration", "class_declaration",
   "abstract_class_declaration", "method_definition"].contains kind

/-- A node that holds statements. -/
def holdsStatements (kind : String) : Bool :=
  ["program", "statement_block", "class_body", "else_clause", "catch_clause", "finally_clause",
   "switch_body", "switch_case", "switch_default"].contains kind
    || Text.finishesWith "_statement" kind

/-- A node that only wraps a declaration, so that a comment before it belongs to the declaration. -/
def isWrapper (kind : String) : Bool :=
  kind == "export_statement" || kind == "lexical_declaration" || kind == "variable_declaration"

/-- The text begins with a capital letter. -/
def isCapitalized (text : String) : Bool :=
  (text.toList.head?).any Char.isUpper

/-- The name of a hook: `use` and a capital letter. -/
def isHookName (name : String) : Bool :=
  (Text.afterStart? "use" name).any isCapitalized

mutual

/-- Markup occurs in a tree. -/
def hasMarkup : SourceTree → Bool
  | ⟨kind, _, _, _, _, _, _, _, _, _, _, children⟩ =>
    kind == "jsx_element" || kind == "jsx_self_closing_element" || kind == "jsx_fragment"
      || anyMarkup children

/-- Markup occurs in a list of trees; declarations are left out. -/
def anyMarkup : List SourceTree → Bool
  | [] => false
  | tree :: rest =>
    (tree.named && !isNestedDeclaration tree.kind && hasMarkup tree) || anyMarkup rest

end

/-! ### Attributes -/

/-- The text of a string literal without its quotes. -/
def stringValue (literal : String) : String :=
  let isQuote (c : Char) : Bool := c == '"' || c == '\x27' || c == '\x60'
  String.ofList ((literal.toList.dropWhile isQuote).reverse.dropWhile isQuote).reverse

/-- The characters, held in reverse, without any `*/` at their end. -/
def dropCommentEnds : List Char → List Char
  | '/' :: '*' :: rest => dropCommentEnds rest
  | text => text

/-- The documentation in a comment that begins with two stars. -/
def documentation? (comment : Option SourceTree) : Option String := do
  let comment ← comment
  if comment.kind != "comment" then none
  let text ← Text.afterStart? "/**" comment.text
  let text := String.ofList (dropCommentEnds text.toList.reverse).reverse
  let lines := (Text.lines text).map fun line =>
    Text.trim (String.ofList ((Text.trim line).toList.dropWhile (· == '*')))
  let doc := "\n".intercalate (lines.filter (· != ""))
  if doc == "" then none else some doc

/-- An optional documentation as an attribute. -/
def withDocumentation (metadata : Metadata) (comment : Option SourceTree) : Metadata :=
  match documentation? comment with
  | some doc => metadata.insert "documentation" doc
  | none => metadata

/-- The attributes of a function with the comment before it. -/
def functionMetadata (function : SourceTree) (comment : Option SourceTree) : Metadata :=
  let params :=
    match function.child? "parameters", function.child? "parameter" with
    | some params, _ => params.compactText
    | none, some param => "(" ++ param.compactText ++ ")"
    | none, none => "()"
  let metadata := Metadata.empty.insert "params" params
  let metadata :=
    match function.child? "return_type" with
    | some type =>
      metadata.insert "returnType"
        (Text.trim (String.ofList (type.compactText.toList.dropWhile (· == ':'))))
    | none => metadata
  withDocumentation metadata comment

/-- The simple name that an entry of a class heritage refers to. -/
def typeName? (tree : SourceTree) : Option String :=
  if tree.kind == "identifier" || tree.kind == "type_identifier" then some tree.text
  else if tree.kind == "member_expression" then (tree.child? "property").map (·.text)
  else if tree.kind == "nested_type_identifier" then (tree.child? "name").map (·.text)
  else if tree.kind == "generic_type" then
    match _h : tree.child? "name" with
    | some name => typeName? name
    | none => none
  else none
termination_by sizeOf tree
decreasing_by exact SourceTree.sizeOf_lt_of_child? _h

/-- The references of a class to what it extends and implements. -/
def heritage (class_ : SourceTree) : List Outline :=
  match class_.children.find? fun child => child.named && child.kind == "class_heritage" with
  | none => []
  | some heritage => heritage.namedChildren.flatMap fun clause =>
    let names := clause.namedChildren.filterMap typeName?
    if clause.kind == "extends_clause" then names.map (.refers .extends)
    else if clause.kind == "implements_clause" then names.map (.refers .implements)
    -- Without types, the base stands directly in the heritage.
    else ((typeName? clause).map (.refers .extends)).toList

/-- The module that a statement imports or exports from. -/
def sourceModule (stmt : SourceTree) : List Outline :=
  ((stmt.child? "source").map fun source => .imports (stringValue source.text)).toList

/-- The symbol that a call refers to: a plain name, or a method of the object itself. -/
def callReference (call : SourceTree) : List Outline :=
  match call.child? "function" with
  | none => []
  | some function =>
    let name? :=
      if function.kind == "identifier" then some function
      else if function.kind == "member_expression"
          && (function.child? "object").any (·.kind == "this") then function.child? "property"
      else none
    (name?.map fun name => .refers .call name.text).toList

/-- The component that an element of markup renders. -/
def renderReference (element : SourceTree) : List Outline :=
  match element.child? "name" with
  | none => []
  | some name =>
    if name.kind == "identifier" && isCapitalized name.text then [.refers .renders name.text] else []

/-- What a node itself refers to. -/
def references (tree : SourceTree) : List Outline :=
  if tree.kind == "call_expression" then callReference tree
  else if tree.kind == "jsx_opening_element" || tree.kind == "jsx_self_closing_element" then
    renderReference tree
  else []

/-- The kind of a function, by its name and what it contains. -/
def functionKind (inClass : Bool) (name : String) (function : SourceTree) : NodeKind :=
  if inClass then .method
  else if isHookName name then .hook
  else if isCapitalized name && (function.child? "body").any hasMarkup then .component
  else .function

/-- The declaration of a callback of a call. -/
def callbackDeclaration (callee : String) (function : SourceTree) (comment : Option SourceTree) :
    Declaration :=
  let name := callee ++ "$callback"
  { Declaration.ofTree .function name function (functionMetadata function comment) with
    localName := name ++ "@L" ++ Nat.repr (function.startRow + 1)
    rendersForOwner := true }

/-- The names and function values of the variables that a statement declares. -/
def functionVariables (stmt : SourceTree) : List SourceTree :=
  stmt.children.filter fun child => child.named && child.kind == "variable_declarator"

/-! ### Outlines -/

/-- Where a node stands: the node that holds it, and the one that holds that one. -/
structure Context where
  parent : SourceTree
  grandparent : Option SourceTree

mutual

/-- What stands inside a function: its references and callbacks, its control flow, and the declarations in
its body. -/
def functionBody (function : SourceTree) : List Outline :=
  match _h : function.child? "body" with
  | none => []
  | some body =>
    references body ++ scanAll ⟨body, none⟩ none body.children
      ++ [.flows (lowerBody body)]
      ++ (if body.kind == "statement_block" then outlines false none none body.children else [])
termination_by (sizeOf function, 0)
decreasing_by
  all_goals
    refine Prod.Lex.left _ _ ?_
    exact Nat.lt_trans body.sizeOf_children_lt (SourceTree.sizeOf_lt_of_child? _h)

/-- The references and callbacks at and below a node of a function body; `previous` is the node of the
grammar before it. Declarations and functions that are assigned to a name are symbols of their own. -/
def scan (context : Context) (previous : Option SourceTree) (tree : SourceTree) : List Outline :=
  if isNestedDeclaration tree.kind then []
  else if isFunctionValue tree && context.parent.kind == "arguments" then
    let callee := (context.grandparent.map calleeName).getD "call"
    [.declares (callbackDeclaration callee tree previous) (functionBody tree)]
  else if isFunctionValue tree && ["variable_declarator", "public_field_definition",
      "field_definition"].contains context.parent.kind then []
  else references tree ++ scanAll ⟨tree, some context.parent⟩ none tree.children
termination_by (sizeOf tree, 1)
decreasing_by
  · exact Prod.Lex.right _ (by decide)
  · exact Prod.Lex.left _ _ tree.sizeOf_children_lt

/-- The references and callbacks in a list of nodes, of which those of the grammar count. -/
def scanAll (context : Context) (previous : Option SourceTree) (trees : List SourceTree) :
    List Outline :=
  match trees with
  | [] => []
  | tree :: rest =>
    if tree.named then scan context previous tree ++ scanAll context (some tree) rest
    else scanAll context previous rest
termination_by (sizeOf trees, 0)
decreasing_by
  all_goals
    refine Prod.Lex.left _ _ ?_
    simp only [List.cons.sizeOf_spec]
    omega

/-- The outline of a named function, which is the value of `outer` or the whole of it. -/
def function (inClass : Bool) (comment : Option SourceTree) (outer : SourceTree) (name : String)
    (value : SourceTree) : Outline :=
  .declares
    (.ofTree (functionKind inClass name value) name outer (functionMetadata value comment))
    (functionBody value)
termination_by (sizeOf value, 1)
decreasing_by exact Prod.Lex.right _ (by decide)

/-- The outlines of the functions among declared variables. -/
def bindings (inClass : Bool) (comment : Option SourceTree) (declarators : List SourceTree) :
    List Outline :=
  match declarators with
  | [] => []
  | declarator :: rest =>
    let here :=
      match declarator.child? "name", _h : declarator.child? "value" with
      | some name, some value =>
        if name.kind == "identifier" && isFunctionValue value then
          [function inClass comment declarator name.text value]
        else []
      | _, _ => []
    here ++ bindings inClass comment rest
termination_by (sizeOf declarators, 0)
decreasing_by
  · refine Prod.Lex.left _ _ ?_
    have := SourceTree.sizeOf_lt_of_child? _h
    simp only [List.cons.sizeOf_spec]
    omega
  · refine Prod.Lex.left _ _ ?_
    simp only [List.cons.sizeOf_spec]
    omega

/-- The outline of a statement or a member of a class; `comment` is the node before it. -/
def outline (inClass : Bool) (comment : Option SourceTree) (tree : SourceTree) : List Outline :=
  if tree.kind == "import_statement" then sourceModule tree
  else if tree.kind == "export_statement" then
    sourceModule tree ++ outlines inClass (some comment) none tree.children
  else if tree.kind == "function_declaration" || tree.kind == "generator_function_declaration"
      || (tree.kind == "method_definition" && inClass) then
    match tree.child? "name" with
    | some name => [function inClass comment tree name.text tree]
    | none => []
  else if tree.kind == "class_declaration" || tree.kind == "abstract_class_declaration" then
    match tree.child? "name" with
    | some name =>
      let members :=
        match _h : tree.child? "body" with
        | some body => outlines true none none body.children
        | none => []
      [.declares (.ofTree .classType name.text tree (withDocumentation .empty comment))
        (heritage tree ++ members)]
    | none => []
  else if tree.kind == "lexical_declaration" || tree.kind == "variable_declaration" then
    bindings inClass comment (functionVariables tree)
  else if (tree.kind == "public_field_definition" || tree.kind == "field_definition") && inClass then
    match (tree.child? "name").or (tree.child? "property"), _h : tree.child? "value" with
    | some name, some value =>
      if isFunctionValue value then [function inClass comment tree name.text value] else []
    | _, _ => []
  else if holdsStatements tree.kind then outlines inClass none none tree.children
  else []
termination_by (sizeOf tree, 2)
decreasing_by
  · exact Prod.Lex.left _ _ tree.sizeOf_children_lt
  · exact Prod.Lex.right _ (by decide)
  · exact Prod.Lex.left _ _
      (Nat.lt_trans body.sizeOf_children_lt (SourceTree.sizeOf_lt_of_child? _h))
  · exact Prod.Lex.left _ _
      (Nat.lt_of_le_of_lt (SourceTree.sizeOf_filter_le _ _) tree.sizeOf_children_lt)
  · exact Prod.Lex.left _ _ (SourceTree.sizeOf_lt_of_child? _h)
  · exact Prod.Lex.left _ _ tree.sizeOf_children_lt

/-- The outlines of a list of nodes, of which those of the grammar count. Inside a wrapper the comment is
that of the wrapper; elsewhere it is the node of the grammar before. -/
def outlines (inClass : Bool) (wrapperComment : Option (Option SourceTree))
    (previous : Option SourceTree) (trees : List SourceTree) : List Outline :=
  match trees with
  | [] => []
  | tree :: rest =>
    if tree.named then
      outline inClass (wrapperComment.getD previous) tree
        ++ outlines inClass wrapperComment (some tree) rest
    else outlines inClass wrapperComment previous rest
termination_by (sizeOf trees, 0)
decreasing_by
  all_goals
    refine Prod.Lex.left _ _ ?_
    simp only [List.cons.sizeOf_spec]
    omega

end

end StructuralDiff.Script
