import StructuralDiff.Extract.Python
import StructuralDiff.Extract.Script
import StructuralDiff.Proofs.Source.Exit

/-!
# Statements in the grammars

Which kinds of nodes hold statements, and which of them are looked through for the exits of a function. A tree that
comes from a parser has the parts that the grammar gives it: one block in the role of a body, an `else` behind all
other alternatives, and so on.

* `Python.exitRules`, `Script.exitRules`: where functions are left.
* `Python.conforms`, `Script.conforms`: what the grammars say about the parts of a node.
-/

namespace StructuralDiff

namespace Python

/-- The kinds of statements in which exits are looked for. -/
def reachedStatements : List String :=
  ["return_statement", "raise_statement", "if_statement", "for_statement", "while_statement", "try_statement",
    "with_statement"]

/-- The kinds of statements whose only part is their body. -/
def bodyKinds : List String :=
  ["for_statement", "while_statement", "with_statement"]

/-- The kinds of clauses that have a block. -/
def clauseKinds : List String :=
  ["else_clause", "except_clause", "except_group_clause", "finally_clause"]

/-- The kinds of children in which exits are looked for. The `else` of a loop and the cases of a `match` are not
among them. -/
def reached (kind : String) : List String :=
  if kind == "block" then reachedStatements
  else if kind == "if_statement" then ["block"] ++ ["elif_clause", "else_clause"]
  else if kind == "try_statement" then
    ["block"] ++ (["else_clause"] ++ (["except_clause", "except_group_clause"] ++ ["finally_clause"]))
  else if kind == "elif_clause" || bodyKinds.contains kind || clauseKinds.contains kind then ["block"]
  else []

/-- Where Python functions are left. -/
def exitRules : ExitRules where
  block := "block"
  branch? kind :=
    if kind == "return_statement" then some "return"
    else if kind == "raise_statement" then some "raise"
    else none
  reached := reached
  nested kind := ["function_definition", "class_definition", "lambda"].contains kind

/-- The only block of a clause is a node of the grammar. -/
def hasSoleBlock (clause : SourceTree) : Bool :=
  (clause.children.all fun child =>
      (child.field != some "body" || child.kind == "block") && (child.kind != "block" || child.named))
    && decide ((clause.children.filter fun child => ["block"].contains child.kind).length ≤ 1)

/-- A node has the children that the grammar of Python gives it, as far as its statements are concerned. -/
def conforms (tree : SourceTree) : Bool :=
  if tree.kind == "block" then tree.lists reachedStatements
  else if tree.kind == "if_statement" then
    tree.sole "consequence" ["block"] && tree.holds "alternative" ["elif_clause", "else_clause"]
      && (tree.childrenIn "alternative").dropLast.all (·.kind == "elif_clause")
  else if tree.kind == "elif_clause" then tree.sole "consequence" ["block"]
  else if tree.kind == "try_statement" then
    tree.sole "body" ["block"]
      && (tree.children.all fun child => !clauseKinds.contains child.kind || child.named)
      && decide ((finallyClauses tree).length ≤ 1)
  else if tree.kind == "function_definition" || bodyKinds.contains tree.kind then tree.sole "body" ["block"]
  else if clauseKinds.contains tree.kind then hasSoleBlock tree
  else true

section Conforms

variable {tree : SourceTree}

theorem conforms_block (h : conforms tree = true) (hkind : tree.kind = "block") :
    tree.lists reachedStatements = true := by
  simpa [conforms, hkind] using h

theorem conforms_if (h : conforms tree = true) (hkind : tree.kind = "if_statement") :
    tree.sole "consequence" ["block"] = true ∧ tree.holds "alternative" ["elif_clause", "else_clause"] = true ∧
      (tree.childrenIn "alternative").dropLast.all (·.kind == "elif_clause") = true := by
  simpa [conforms, hkind, and_assoc] using h

theorem conforms_elif (h : conforms tree = true) (hkind : tree.kind = "elif_clause") :
    tree.sole "consequence" ["block"] = true := by
  simpa [conforms, hkind] using h

theorem conforms_try (h : conforms tree = true) (hkind : tree.kind = "try_statement") :
    tree.sole "body" ["block"] = true ∧
      (tree.children.all fun child => !clauseKinds.contains child.kind || child.named) = true ∧
      (finallyClauses tree).length ≤ 1 := by
  simpa [conforms, hkind, and_assoc] using h

theorem conforms_function (h : conforms tree = true) (hkind : tree.kind = "function_definition") :
    tree.sole "body" ["block"] = true := by
  simpa [conforms, hkind] using h

theorem conforms_body (h : conforms tree = true) (hkind : tree.kind ∈ bodyKinds) :
    tree.sole "body" ["block"] = true := by
  simp only [bodyKinds, List.mem_cons, List.not_mem_nil, or_false] at hkind
  rcases hkind with hkind | hkind | hkind <;> simpa [conforms, hkind, bodyKinds] using h

theorem conforms_clause (h : conforms tree = true) (hkind : tree.kind ∈ clauseKinds) :
    hasSoleBlock tree = true := by
  simp only [clauseKinds, List.mem_cons, List.not_mem_nil, or_false] at hkind
  rcases hkind with hkind | hkind | hkind | hkind <;> simpa [conforms, hkind, bodyKinds, clauseKinds] using h

end Conforms

end Python

namespace Script

/-- The kinds of statements in which exits are looked for. -/
def reachedStatements : List String :=
  ["return_statement", "throw_statement", "if_statement", "for_statement", "for_in_statement",
    "while_statement", "do_statement", "try_statement", "statement_block"]

/-- The kinds of loops. -/
def loopKinds : List String :=
  ["for_statement", "for_in_statement", "while_statement", "do_statement"]

/-- The kinds of clauses that have a block. -/
def clauseKinds : List String :=
  ["catch_clause", "finally_clause"]

/-- The kinds of children in which exits are looked for. A `switch`, a statement with a label and one that begins
with `with` are not among them. -/
def reached (kind : String) : List String :=
  if kind == "if_statement" then reachedStatements ++ ["else_clause"]
  else if kind == "try_statement" then ["statement_block"] ++ (["catch_clause"] ++ ["finally_clause"])
  else if clauseKinds.contains kind then ["statement_block"]
  else if kind == "statement_block" || kind == "else_clause" || loopKinds.contains kind then reachedStatements
  else []

/-- Where functions of scripts are left. -/
def exitRules : ExitRules where
  block := "statement_block"
  branch? kind :=
    if kind == "return_statement" then some "return"
    else if kind == "throw_statement" then some "throw"
    else none
  reached := reached
  nested kind := ["function_declaration", "generator_function_declaration", "function_expression",
    "generator_function", "arrow_function", "method_definition", "class_declaration",
    "abstract_class_declaration", "class"].contains kind

/-- The statements among the children of a node are the one child in a role. -/
def hasSoleStatement (tree : SourceTree) (role : String) : Bool :=
  (tree.children.all fun child => !reachedStatements.contains child.kind || child.field == some role)
    && decide ((tree.childrenIn role).length ≤ 1)

/-- A node has the children that the grammar of a script gives it, as far as its statements are concerned. -/
def conforms (tree : SourceTree) : Bool :=
  if tree.kind == "if_statement" then
    hasSoleStatement tree "consequence" && tree.sole "alternative" ["else_clause"]
  else if tree.kind == "try_statement" then
    tree.sole "body" ["statement_block"] && tree.sole "handler" ["catch_clause"]
      && tree.sole "finalizer" ["finally_clause"]
  else if clauseKinds.contains tree.kind then tree.sole "body" ["statement_block"]
  else if tree.kind == "statement_block" then tree.lists reachedStatements
  else if tree.kind == "else_clause" then
    tree.lists reachedStatements
      && decide ((tree.children.filter fun child => child.named && !child.extra).length ≤ 1)
  else if loopKinds.contains tree.kind then hasSoleStatement tree "body"
  else true

section Conforms

variable {tree : SourceTree}

theorem conforms_if (h : conforms tree = true) (hkind : tree.kind = "if_statement") :
    hasSoleStatement tree "consequence" = true ∧ tree.sole "alternative" ["else_clause"] = true := by
  simpa [conforms, hkind] using h

theorem conforms_try (h : conforms tree = true) (hkind : tree.kind = "try_statement") :
    tree.sole "body" ["statement_block"] = true ∧ tree.sole "handler" ["catch_clause"] = true ∧
      tree.sole "finalizer" ["finally_clause"] = true := by
  simpa [conforms, hkind, and_assoc] using h

theorem conforms_clause (h : conforms tree = true) (hkind : tree.kind ∈ clauseKinds) :
    tree.sole "body" ["statement_block"] = true := by
  simp only [clauseKinds, List.mem_cons, List.not_mem_nil, or_false] at hkind
  rcases hkind with hkind | hkind <;> simpa [conforms, hkind, clauseKinds] using h

theorem conforms_loop (h : conforms tree = true) (hkind : tree.kind ∈ loopKinds) :
    hasSoleStatement tree "body" = true := by
  simp only [loopKinds, List.mem_cons, List.not_mem_nil, or_false] at hkind
  rcases hkind with hkind | hkind | hkind | hkind <;> simpa [conforms, hkind, clauseKinds, loopKinds] using h

theorem conforms_block (h : conforms tree = true) (hkind : tree.kind = "statement_block") :
    tree.lists reachedStatements = true := by
  simpa [conforms, hkind, clauseKinds] using h

theorem conforms_else (h : conforms tree = true) (hkind : tree.kind = "else_clause") :
    tree.lists reachedStatements = true ∧
      (tree.children.filter fun child => child.named && !child.extra).length ≤ 1 := by
  simpa [conforms, hkind, clauseKinds] using h

end Conforms

end Script

end StructuralDiff
