import StructuralDiff.Graph.Basic
import StructuralDiff.Signature

/-!
# Correspondence keys

Nodes of two snapshots can only correspond when they have the same key: symbols by name and kind, branches
by owner, type and content. Edges correspond by kind, flow type and the identity of their endpoints.
Keys never contain ids, line numbers or the number of a branch.
-/

namespace StructuralDiff

/-- What two corresponding nodes have in common. -/
inductive NodeKey where
  | symbol (qualifiedName : String) (kind : NodeKind)
  | branch (owner branchType content : String)
  deriving DecidableEq, Repr

namespace NodeKey

/-- Symbols come before branches; each of them in the order of their parts. -/
def order : NodeKey → NodeKey → Ordering
  | .symbol name kind, .symbol name' kind' =>
    (Text.order name name').then (Text.orderNat kind.rank kind'.rank)
  | .symbol _ _, .branch _ _ _ => .lt
  | .branch _ _ _, .symbol _ _ => .gt
  | .branch owner type content, .branch owner' type' content' =>
    (Text.order owner owner').then ((Text.order type type').then (Text.order content content'))

/-- The key `a` does not come after `b`. -/
def le (a b : NodeKey) : Bool :=
  (order a b).isLE

end NodeKey

namespace Node

/-- The name of the symbol that a branch belongs to, from the branch's own name. -/
def ownerName (qualifiedName : String) : String :=
  match Text.splitLast? "::" qualifiedName with
  | some (owner, _) => owner
  | none => qualifiedName

/-- The owner of a branch. -/
def branchOwner (node : Node) : String :=
  Name.withoutInstance ((node.attribute? "owner").getD (ownerName node.qualifiedName))

/-- What a branch does: its signature, or its normalised snippet when it has none. -/
def branchContent (node : Node) : String :=
  match node.signature with
  | some signature => signature
  | none => Signature.normalSnippet ((node.attribute? "snippet").getD node.name)

/-- The correspondence key of a node. -/
def key (node : Node) : NodeKey :=
  if node.kind == .branch then
    .branch node.branchOwner ((node.attribute? "branchType").getD "branch") node.branchContent
  else .symbol (Name.withoutPositions node.qualifiedName) node.kind

end Node

/-- What identifies the endpoint of an edge in every snapshot. -/
structure Endpoint where
  kind : NodeKind
  filePath : String
  name : String
  deriving DecidableEq, Repr

/-- The endpoint that a node is. -/
def Node.endpoint (node : Node) : Endpoint :=
  { kind := node.kind, filePath := node.filePath, name := Name.withoutPositions node.qualifiedName }

/-- The endpoint with an id in a snapshot; a missing node is identified by the id alone. -/
def Snapshot.endpoint (snapshot : Snapshot) (id : String) : Endpoint :=
  match snapshot.node? id with
  | some node => node.endpoint
  | none => { kind := .module, filePath := "", name := id }

/-- What two corresponding edges have in common. -/
structure EdgeKey where
  kind : EdgeKind
  source : Endpoint
  target : Endpoint
  flowType : Option FlowType
  deriving DecidableEq, Repr

/-- The correspondence key of an edge of a snapshot. -/
def Snapshot.edgeKey (snapshot : Snapshot) (edge : Edge) : EdgeKey :=
  { kind := edge.kind
    source := snapshot.endpoint edge.source
    target := snapshot.endpoint edge.target
    flowType := edge.flowType? }

end StructuralDiff
