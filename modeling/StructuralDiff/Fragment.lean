import StructuralDiff.Flow.Skeleton
import StructuralDiff.Outline
import StructuralDiff.Table

/-!
# Fragments

The part of a snapshot graph that one file contributes. A fragment starts with the node of the file and
grows by symbols, branches, imports and edges; references by name are collected and resolved at the end,
among the symbols of the same file.

* `Fragment.ofFile`: the fragment with nothing but the file.
* `Fragment.record`: adds what an outline says.
* `Fragment.resolved`: the fragment with its references resolved.
-/

namespace StructuralDiff

/-- A reference by name that is not resolved yet. -/
structure PendingReference where
  reference : Reference
  source : String
  /-- Where a symbol with the name is looked for first. -/
  scope : String
  name : String
  deriving DecidableEq, Repr

/-- The part of a snapshot graph that one file contributes. -/
structure Fragment where
  label : SnapshotLabel
  path : String
  language : Language
  modulePath : String
  fileId : String
  nodes : List Node
  edges : List Edge
  parents : Table String
  pending : List PendingReference

namespace Fragment

/-- A node of the fragment. -/
def node (fragment : Fragment) (kind : NodeKind) (name qualifiedName : String)
    (lines : Option (Nat × Nat)) (signature : String) (metadata : Metadata) : Node :=
  { id := Node.makeId fragment.label.snapshotId kind fragment.path qualifiedName
    kind
    name
    qualifiedName
    filePath := fragment.path
    language := fragment.language
    startLine := lines.map (·.1)
    endLine := lines.map (·.2)
    signature := some signature
    metadata
    snapshotId := fragment.label.snapshotId
    revision := fragment.label.revision }

/-- The id of a node of the fragment. -/
def makeId (fragment : Fragment) (kind : NodeKind) (qualifiedName : String) : String :=
  Node.makeId fragment.label.snapshotId kind fragment.path qualifiedName

/-- Adds a node. -/
def push (fragment : Fragment) (node : Node) : Fragment :=
  { fragment with nodes := fragment.nodes ++ [node] }

/-- The fragment of a file with nothing but the file itself. -/
def ofFile (label : SnapshotLabel) (path : String) (language : Language) (source signature : String)
    (metadata : Metadata) : Fragment :=
  let fragment : Fragment :=
    { label, path, language
      modulePath := Path.modulePath path
      fileId := Node.makeId label.snapshotId .file path path
      nodes := []
      edges := []
      parents := Table.empty
      pending := [] }
  fragment.push (fragment.node .file (Path.lastPart path) path
    (some (1, max (Text.lines source).length 1)) signature metadata)

/-- A node with the id is there. -/
def hasNode (fragment : Fragment) (id : String) : Bool :=
  fragment.nodes.any (·.id == id)

/-- Adds an edge, unless there is one with the same id. -/
def addEdge (fragment : Fragment) (kind : EdgeKind) (source target : String)
    (flow : Option FlowType) (callSite : Bool) : Fragment :=
  let id := Edge.makeId kind source target flow
  if fragment.edges.any (·.id == id) then fragment
  else
    let metadata :=
      match flow with
      | some flow => Metadata.empty.insert flowTypeKey flow.name
      | none => Metadata.empty
    let metadata := if callSite then metadata.insert callSiteKey "true" else metadata
    { fragment with
      edges := fragment.edges ++ [{
        id, source, target, kind
        filePath := some fragment.path
        metadata
        snapshotId := fragment.label.snapshotId
        revision := fragment.label.revision }] }

/-- The symbol that declares a node. -/
def parentOf? (fragment : Fragment) (id : String) : Option String :=
  fragment.parents.get? id

/-- The scope of a node: the symbol that declares it, or the file. -/
def scopeOf (fragment : Fragment) (id : String) : String :=
  (fragment.parentOf? id).getD fragment.fileId

/-- Makes a node the child of another one. -/
def declare (fragment : Fragment) (parent child : String) : Fragment :=
  { fragment with parents := fragment.parents.insert child parent }.addEdge .declares parent child
    none false

/-- Adds an imported module, unless it is there already. -/
def addImport (fragment : Fragment) (module : String) : Fragment :=
  let module := Text.trim module
  let known := fragment.nodes.any fun node => node.kind == .module && node.qualifiedName == module
  if module == "" || known then fragment
  else
    let name := Text.afterLast (fun c => c == '.' || c == '/') module
    let node := fragment.node .module name module none (Signature.ofText module) Metadata.empty
    (fragment.push node).addEdge .imports fragment.fileId node.id none false

/-- Adds a reference by name with a scope in which the name is looked for first. -/
def referFrom (fragment : Fragment) (reference : Reference) (source scope name : String) :
    Fragment :=
  { fragment with pending := fragment.pending ++ [{ reference, source, scope, name }] }

/-- Adds a reference by name from a symbol. -/
def refer (fragment : Fragment) (reference : Reference) (source name : String) : Fragment :=
  fragment.referFrom reference source (fragment.scopeOf source) name

/-! ### Symbols and branches -/

/-- A symbol as it was recorded. -/
structure Recorded where
  id : String
  qualifiedName : String

/-- The qualified name of a new symbol: a name that is taken gets the first line as a suffix. -/
def freeName (fragment : Fragment) (kind : NodeKind) (qualifiedName : String) (line : Nat) : String :=
  if fragment.hasNode (fragment.makeId kind qualifiedName) then
    qualifiedName ++ "@L" ++ Nat.repr line
  else qualifiedName

/-- Adds a declared symbol under a parent. -/
def addSymbol (fragment : Fragment) (declaration : Declaration) (parent scopeName : String) :
    Recorded × Fragment :=
  let qualifiedName := fragment.freeName declaration.kind
    (Name.qualify scopeName declaration.localName) declaration.lines.1
  let node := fragment.node declaration.kind declaration.name qualifiedName
    (some declaration.lines) declaration.signature declaration.metadata
  (⟨node.id, qualifiedName⟩, (fragment.push node).declare parent node.id)

/-- The attributes of a branch. -/
def branchMetadata (ownerName : String) (site : Site) : Metadata :=
  let metadata := Metadata.ofList
    [("owner", ownerName), ("branchType", site.kind), ("snippet", site.snippet)]
  match site.callee with
  | some callee => metadata.insert "callee" callee
  | none => metadata

/-- Adds the branch at a site under its owner. A call site refers to its callee. -/
def addBranch (fragment : Fragment) (owner : Recorded) (scope label : String) (site : Site) :
    Fragment :=
  let node := fragment.node .branch label (owner.qualifiedName ++ "::" ++ label)
    (some site.lines) site.signature (branchMetadata owner.qualifiedName site)
  let fragment := (fragment.push node).declare owner.id node.id
  match site.callee with
  | some callee => fragment.referFrom .callSite node.id scope callee
  | none => fragment

/-- Adds the pieces of a skeleton; the names of the branches that are still to come are given. -/
def addPieces (owner : Recorded) (scope : String) (ids : List String) :
    (labels : List String) → List Piece → Fragment → Fragment
  | _, [], fragment => fragment
  | labels, .link source target flow :: rest, fragment =>
    addPieces owner scope ids labels rest
      (fragment.addEdge .calls (ids.getD source "") (ids.getD target "") (some flow) false)
  | labels, .branch site :: rest, fragment =>
    addPieces owner scope ids labels.tail rest
      (fragment.addBranch owner scope (labels.headD "") site)

/-- Adds the skeleton of a function. The function leads to the branch at which its body is entered. -/
def addFlow (fragment : Fragment) (owner : Recorded) (body : List FlowStmt) : Fragment :=
  let skeleton := Skeleton.ofBody body
  let labels := skeleton.labels
  let ids := labels.map fun label =>
    fragment.makeId .branch (owner.qualifiedName ++ "::" ++ label)
  let built := addPieces owner (fragment.scopeOf owner.id) ids labels skeleton.pieces fragment
  match skeleton.entry with
  | some entry => built.addEdge .calls owner.id (ids.getD entry "") (some .next) false
  | none => built

/-! ### Outlines -/

/-- The symbol that is being recorded. -/
structure Scope where
  symbol : Recorded
  /-- The symbol for which things are rendered. -/
  renderer : String

/-- The file as a scope. -/
def fileScope (fragment : Fragment) : Scope :=
  { symbol := ⟨fragment.fileId, fragment.modulePath⟩, renderer := fragment.fileId }

mutual

/-- Adds what an outline says about the symbol of a scope. -/
def record (scope : Scope) : Outline → Fragment → Fragment
  | .imports module, fragment => fragment.addImport module
  | .refers reference name, fragment =>
    fragment.refer reference (if reference == .renders then scope.renderer else scope.symbol.id) name
  | .flows body, fragment => fragment.addFlow scope.symbol body
  | .declares declaration body, fragment =>
    let (symbol, fragment) :=
      fragment.addSymbol declaration scope.symbol.id scope.symbol.qualifiedName
    -- An endpoint is exposed by the symbol that declares it.
    let fragment :=
      if declaration.kind == .endpoint then
        fragment.addEdge .exposesEndpoint scope.symbol.id symbol.id none false
      else fragment
    let renderer := if declaration.rendersForOwner then scope.renderer else symbol.id
    recordAll { symbol, renderer } body fragment

/-- Adds what the outlines of a list say, one after the other. -/
def recordAll (scope : Scope) : List Outline → Fragment → Fragment
  | [], fragment => fragment
  | outline :: rest, fragment => recordAll scope rest (record scope outline fragment)

end

/-! ### Resolution -/

/-- The symbol that a reference is to: a sibling if there is one, else a symbol of the file's top level,
else the first symbol with the name. -/
def target? (fragment : Fragment) (pending : PendingReference) : Option Node :=
  let accepted := fragment.nodes.filter fun node =>
    node.kind.isSymbol && node.kind != .endpoint && node.name == pending.name
      && pending.reference.accepts node.kind
  let declaredBy (parent : String) :=
    accepted.find? fun node => fragment.parentOf? node.id == some parent
  ((declaredBy pending.scope).or (declaredBy fragment.fileId)).or accepted.head?

/-- The fragment with its references resolved; those to unknown names are dropped. -/
def resolved (fragment : Fragment) : Fragment :=
  fragment.pending.foldl (fun built pending =>
    match fragment.target? pending with
    | some target =>
      built.addEdge (pending.reference.edgeKind target.kind) pending.source target.id none
        (pending.reference == .callSite)
    | none => built) fragment

end Fragment

end StructuralDiff
