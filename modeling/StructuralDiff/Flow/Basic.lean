import StructuralDiff.Graph.Kind
import StructuralDiff.Source.Token

/-!
# Flow statements

The shape of a function body as far as control flow is concerned, the same for all languages: conditions,
exits, calls, loops, guarded blocks and the places where they stand.

* `FlowStmt.fallsThrough`: control can pass from a statement to the next one.
* `FlowStmt.sites`: the branch sites of a statement, in the order of the source.
-/

namespace StructuralDiff

/-- A place in a function body that becomes a branch. -/
structure Site where
  kind : String
  lines : Nat × Nat
  snippet : String
  signature : String
  callee : Option String
  deriving DecidableEq, Repr, Inhabited

namespace Site

/-- The site of a statement, without its body. -/
def ofTree (kind : String) (tree : SourceTree) : Site :=
  { kind
    lines := tree.lines
    snippet := tree.snippet
    signature := tree.headerSignature
    callee := none }

end Site

/-- The control flow of a statement. -/
inductive FlowStmt where
  /-- A condition, with its value where that is known. -/
  | cond (site : Site) (truth : Option Bool) (thenBody : List FlowStmt)
      (elseBody : Option (List FlowStmt))
  /-- The end of the function: a return or an exception. -/
  | exit (site : Site)
  /-- A call. -/
  | call (site : Site)
  /-- A loop. -/
  | loop (site : Site) (body : List FlowStmt)
  /-- A block with handlers for its exceptions, and what is done after all of them. -/
  | guarded (site : Site) (body : List FlowStmt) (handlers : List (List FlowStmt))
      (finalBody : Option (List FlowStmt))
  /-- A block inside a context. -/
  | scoped (site : Site) (body : List FlowStmt)
  /-- A nested list of statements, without a branch of its own. -/
  | sequence (body : List FlowStmt)
  /-- A statement without any branch. -/
  | plain (falls : Bool)
  deriving Inhabited

namespace FlowStmt

mutual

/-- Control can pass from the statement to the next one. -/
def fallsThrough : FlowStmt → Bool
  | .exit _ => false
  | .cond _ _ thenBody elseBody => blockFallsThrough thenBody || optionFallsThrough elseBody
  | .guarded _ body handlers finalBody =>
    (blockFallsThrough body || anyFallsThrough handlers) && optionFallsThrough finalBody
  | .scoped _ body | .sequence body => blockFallsThrough body
  | .loop _ _ | .call _ => true
  | .plain falls => falls

/-- Control can pass through all statements. -/
def blockFallsThrough : List FlowStmt → Bool
  | [] => true
  | stmt :: rest => fallsThrough stmt && blockFallsThrough rest

/-- Control can pass through a block that may be absent. -/
def optionFallsThrough : Option (List FlowStmt) → Bool
  | none => true
  | some body => blockFallsThrough body

/-- Control can pass through one of the blocks. -/
def anyFallsThrough : List (List FlowStmt) → Bool
  | [] => false
  | body :: rest => blockFallsThrough body || anyFallsThrough rest

end

mutual

/-- The branch sites of a statement, in the order of the source. -/
def sites : FlowStmt → List Site
  | .cond site _ thenBody elseBody => site :: (blockSites thenBody ++ optionSites elseBody)
  | .exit site | .call site => [site]
  | .loop site body | .scoped site body => site :: blockSites body
  | .guarded site body handlers finalBody =>
    site :: (blockSites body ++ allSites handlers ++ optionSites finalBody)
  | .sequence body => blockSites body
  | .plain _ => []

/-- The branch sites of a block. -/
def blockSites : List FlowStmt → List Site
  | [] => []
  | stmt :: rest => sites stmt ++ blockSites rest

/-- The branch sites of a block that may be absent. -/
def optionSites : Option (List FlowStmt) → List Site
  | none => []
  | some body => blockSites body

/-- The branch sites of several blocks. -/
def allSites : List (List FlowStmt) → List Site
  | [] => []
  | body :: rest => blockSites body ++ allSites rest

end

end FlowStmt

end StructuralDiff
