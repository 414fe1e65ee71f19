import StructuralDiff.Flow.Basic
import StructuralDiff.Graph.Basic

/-!
# Outlines

What a source file says about its symbols, in the order of the source and independent of its language: what
it imports, what it declares, to what it refers by name, and how control flows in its functions. Names are
relative to the declaration around them.
-/

namespace StructuralDiff

/-- How a reference by name becomes an edge. -/
inductive Reference where
  | call
  | callSite
  | extends
  | implements
  | renders
  deriving DecidableEq, Repr

namespace Reference

/-- The reference can be to a node of a kind. -/
def accepts (reference : Reference) (kind : NodeKind) : Bool :=
  let classLike := kind == .classType || kind == .controller || kind == .service
  match reference with
  | .call | .callSite => kind.isCallable || classLike
  | .extends | .implements => classLike
  | .renders => kind == .component

/-- The kind of the edge to a node of a kind. -/
def edgeKind (reference : Reference) (target : NodeKind) : EdgeKind :=
  match reference with
  | .call => if target == .hook then .usesHook else .calls
  | .callSite => .calls
  | .extends => .extends
  | .implements => .implements
  | .renders => .renders

end Reference

/-- A declared symbol. -/
structure Declaration where
  kind : NodeKind
  name : String
  /-- The name that is qualified by the scope. -/
  localName : String
  lines : Nat × Nat
  signature : String
  metadata : Metadata
  /-- What the symbol renders counts for the symbol around it. -/
  rendersForOwner : Bool := false

namespace Declaration

/-- The declaration of a named symbol by a tree. -/
def ofTree (kind : NodeKind) (name : String) (tree : SourceTree) (metadata : Metadata) :
    Declaration :=
  { kind, name, localName := name, lines := tree.lines, signature := tree.symbolSignature, metadata }

end Declaration

/-- What a source file says about its symbols. -/
inductive Outline where
  /-- The file imports a module. -/
  | imports (module : String)
  /-- The symbol around it refers to another one by name. -/
  | refers (reference : Reference) (name : String)
  /-- The control flow of the symbol around it. -/
  | flows (body : List FlowStmt)
  /-- A declaration, with what stands inside it. -/
  | declares (declaration : Declaration) (body : List Outline)

end StructuralDiff
