import StructuralDiff.Path

/-!
# Kinds

The closed vocabularies of snapshot graphs: what a node and an edge stand for, the languages that are
understood, the ways control can pass along a flow edge, and the outcomes of a comparison. Each has the
names under which it is stored.
-/

namespace StructuralDiff

/-- What a node stands for. -/
inductive NodeKind where
  | file
  | module
  | classType
  | function
  | method
  | branch
  | endpoint
  | controller
  | service
  | component
  | hook
  deriving DecidableEq, Repr, Inhabited

namespace NodeKind

/-- All kinds, in their order. -/
def all : List NodeKind :=
  [.file, .module, .classType, .function, .method, .branch, .endpoint, .controller, .service, .component,
   .hook]

/-- The name of a kind. -/
def name : NodeKind → String
  | .file => "File"
  | .module => "Module"
  | .classType => "Class"
  | .function => "Function"
  | .method => "Method"
  | .branch => "Branch"
  | .endpoint => "Endpoint"
  | .controller => "Controller"
  | .service => "Service"
  | .component => "Component"
  | .hook => "Hook"

/-- The kind with a name. -/
def ofName? (name : String) : Option NodeKind :=
  all.find? (·.name == name)

/-- The place of a kind in the order of kinds. -/
def rank (kind : NodeKind) : Nat :=
  all.idxOf kind

/-- Named code entities, which have a risk and appear in symbol listings. -/
def isSymbol : NodeKind → Bool
  | .file | .module | .branch => false
  | _ => true

/-- Kinds that own a control-flow skeleton. -/
def isCallable : NodeKind → Bool
  | .function | .method | .component | .hook => true
  | _ => false

theorem ofName?_name (kind : NodeKind) : ofName? kind.name = some kind := by
  cases kind <;> rfl

end NodeKind

/-- A language whose syntax is understood, or none. -/
inductive Language where
  | python
  | typeScript
  | tsx
  | javaScript
  | unknown
  deriving DecidableEq, Repr, Inhabited

namespace Language

/-- All languages. -/
def all : List Language := [.python, .typeScript, .tsx, .javaScript, .unknown]

/-- The name of a language. -/
def name : Language → String
  | .python => "python"
  | .typeScript => "typescript"
  | .tsx => "tsx"
  | .javaScript => "javascript"
  | .unknown => "unknown"

/-- The language with a name. -/
def ofName? (name : String) : Option Language :=
  all.find? (·.name == name)

/-- The language of files with an extension. -/
def ofExtension : String → Language
  | "py" | "pyi" => .python
  | "ts" | "mts" | "cts" => .typeScript
  | "tsx" => .tsx
  | "js" | "jsx" | "mjs" | "cjs" => .javaScript
  | _ => .unknown

/-- The language of a file, by its path. -/
def ofPath (path : String) : Language :=
  match Path.extension? path with
  | some extension => ofExtension extension
  | none => .unknown

theorem ofName?_name (language : Language) : ofName? language.name = some language := by
  cases language <;> rfl

end Language

/-- What an edge stands for. -/
inductive EdgeKind where
  | imports
  | declares
  | calls
  | extends
  | implements
  | renders
  | usesHook
  | exposesEndpoint
  deriving DecidableEq, Repr, Inhabited

namespace EdgeKind

/-- All kinds, in their order. -/
def all : List EdgeKind :=
  [.imports, .declares, .calls, .extends, .implements, .renders, .usesHook, .exposesEndpoint]

/-- The name of a kind. -/
def name : EdgeKind → String
  | .imports => "IMPORTS"
  | .declares => "DECLARES"
  | .calls => "CALLS"
  | .extends => "EXTENDS"
  | .implements => "IMPLEMENTS"
  | .renders => "RENDERS"
  | .usesHook => "USES_HOOK"
  | .exposesEndpoint => "EXPOSES_ENDPOINT"

/-- The kind with a name. -/
def ofName? (name : String) : Option EdgeKind :=
  all.find? (·.name == name)

theorem ofName?_name (kind : EdgeKind) : ofName? kind.name = some kind := by
  cases kind <;> rfl

end EdgeKind

/-- Under which condition control passes along a flow edge. -/
inductive FlowType where
  | true
  | false
  | next
  deriving DecidableEq, Repr, Inhabited

namespace FlowType

/-- All types. -/
def all : List FlowType := [.true, .false, .next]

/-- The name of a type. -/
def name : FlowType → String
  | .true => "true"
  | .false => "false"
  | .next => "next"

/-- The type with a name. -/
def ofName? (name : String) : Option FlowType :=
  all.find? (·.name == name)

theorem ofName?_name (flow : FlowType) : ofName? flow.name = some flow := by
  cases flow <;> rfl

end FlowType

/-- The outcome of a comparison for a node or an edge. -/
inductive Status where
  | added
  | removed
  | modified
  | unchanged
  deriving DecidableEq, Repr, Inhabited

namespace Status

/-- All outcomes, in their order. -/
def all : List Status := [.added, .removed, .modified, .unchanged]

/-- The name of an outcome. -/
def name : Status → String
  | .added => "added"
  | .removed => "removed"
  | .modified => "modified"
  | .unchanged => "unchanged"

/-- The outcome with a name. -/
def ofName? (name : String) : Option Status :=
  all.find? (·.name == name)

/-- Anything but unchanged. -/
def isChanged (status : Status) : Bool :=
  status != .unchanged

/-- The outcome when old and new are exchanged. -/
def reversed : Status → Status
  | .added => .removed
  | .removed => .added
  | status => status

theorem ofName?_name (status : Status) : ofName? status.name = some status := by
  cases status <;> rfl

theorem reversed_reversed (status : Status) : status.reversed.reversed = status := by
  cases status <;> rfl

end Status

end StructuralDiff
