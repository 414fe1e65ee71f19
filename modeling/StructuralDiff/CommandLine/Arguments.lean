import StructuralDiff.Text.Line

/-!
# Command lines

What the arguments of the program ask for. Options are long (`--root dir`, `--root=dir`) or short (`-r dir`,
`-rdir`, several of them in one argument); two dashes end them. The first argument that is wrong decides,
unless help is asked for before it.

* `Arguments.parse`: what the arguments ask for.
-/

namespace StructuralDiff

/-- What `diff` is asked to do. -/
structure DiffOptions where
  old : String
  new : String
  repo : Option String
  patch : Option String
  search : Option String
  json : Bool
  deriving DecidableEq, Repr

/-- A command of the program. -/
inductive Command where
  | diff (options : DiffOptions)
  | clear
  | version
  deriving DecidableEq, Repr

/-- What there is help about. -/
inductive Topic where
  | program
  | diff
  | clear
  | version
  | help
  deriving DecidableEq, Repr

/-- A command with the directory that it works for. -/
structure Invocation where
  root : String
  verbose : Bool
  command : Command
  deriving DecidableEq, Repr

/-- What the arguments ask for. -/
inductive Request where
  | run (invocation : Invocation)
  | help (topic : Topic)
  /-- Nothing that can be done. -/
  | misuse
  deriving DecidableEq, Repr

namespace Arguments

/-- An option. -/
structure Spec where
  long : String
  short : Option Char
  takesValue : Bool
  /-- The value is a path, which is never empty. -/
  isPath : Bool
  deriving DecidableEq, Repr

/-- A flag for help. -/
def helpSpec : Spec := { long := "help", short := some 'h', takesValue := false, isPath := false }

/-- The options before a command. -/
def programSpecs : List Spec := [
  { long := "verbose", short := some 'v', takesValue := false, isPath := false },
  { long := "root", short := some 'r', takesValue := true, isPath := true },
  helpSpec]

/-- The options of `diff`. -/
def diffSpecs : List Spec := [
  { long := "repo", short := none, takesValue := true, isPath := false },
  { long := "patch", short := none, takesValue := true, isPath := true },
  { long := "search", short := none, takesValue := true, isPath := false },
  { long := "json", short := none, takesValue := false, isPath := false },
  helpSpec]

/-- A piece of the arguments. -/
inductive Piece where
  | flag (spec : Spec)
  | value (spec : Spec) (text : String)
  | positional (text : String)
  /-- A command, with the arguments after it. -/
  | command (name : String) (rest : List String)
  | wrong
  deriving DecidableEq, Repr

/-- What an argument is on its own: it may be complete, or be an option that waits for its value. -/
structure Reading where
  pieces : List Piece
  pending : Option Spec

/-- The short options of an argument. -/
def readShort (specs : List Spec) : List Char → Reading
  | [] => ⟨[], none⟩
  | c :: rest =>
    match specs.find? (·.short == some c) with
    | none => ⟨[.wrong], none⟩
    | some spec =>
      if spec.takesValue then
        match rest with
        | [] => ⟨[], some spec⟩
        | '=' :: text => ⟨[.value spec (String.ofList text)], none⟩
        | text => ⟨[.value spec (String.ofList text)], none⟩
      else
        let later := readShort specs rest
        ⟨.flag spec :: later.pieces, later.pending⟩

/-- A long option with the text after its sign of equality. -/
def readLong (specs : List Spec) (name : String) (text? : Option String) : Reading :=
  match specs.find? (·.long == name), text? with
  | none, _ => ⟨[.wrong], none⟩
  | some spec, none => if spec.takesValue then ⟨[], some spec⟩ else ⟨[.flag spec], none⟩
  | some spec, some text => if spec.takesValue then ⟨[.value spec text], none⟩ else ⟨[.wrong], none⟩

/-- An argument that begins with a dash and is more than a dash. -/
def isOption (argument : String) : Bool :=
  Text.beginsWith "-" argument && argument != "-"

/-- The options in an argument. -/
def read (specs : List Spec) (argument : String) : Reading :=
  match Text.afterStart? "--" argument with
  | some long =>
    match Text.splitFirst? "=" long with
    | some (name, text) => readLong specs name (some text)
    | none => readLong specs long none
  | none => readShort specs (argument.toList.drop 1)

/-- The pieces of the arguments. Where a command is expected, the first argument that is no option names
it. -/
def pieces (specs : List Spec) (wantsCommand : Bool) : List String → List Piece
  | [] => []
  | argument :: rest =>
    if argument == "--" then rest.map .positional
    else if isOption argument then
      let reading := read specs argument
      match reading.pending, rest with
      | none, rest => reading.pieces ++ pieces specs wantsCommand rest
      | some _, [] => reading.pieces ++ [.wrong]
      | some spec, text :: rest =>
        if isOption text then reading.pieces ++ [.wrong]
        else reading.pieces ++ .value spec text :: pieces specs wantsCommand rest
    else if wantsCommand then [.command argument rest]
    else .positional argument :: pieces specs wantsCommand rest

/-- What the pieces give. -/
structure Given where
  flags : List String := []
  values : List (String × String) := []
  positionals : List String := []
  command : Option (String × List String) := none

/-- Why no command is run. -/
inductive Stop where
  | help
  | misuse

/-- Takes one piece. No option is given twice, and there are no more than `limit` positional arguments, all
of which are paths. -/
def Given.take (limit : Nat) (given : Given) : Piece → Except Stop Given
  | .wrong => .error .misuse
  | .flag spec =>
    if spec == helpSpec then .error .help
    else if given.flags.contains spec.long then .error .misuse
    else .ok { given with flags := spec.long :: given.flags }
  | .value spec text =>
    if (given.values.lookup spec.long).isSome || (spec.isPath && text == "") then .error .misuse
    else .ok { given with values := (spec.long, text) :: given.values }
  | .positional text =>
    if text == "" || limit ≤ given.positionals.length then .error .misuse
    else .ok { given with positionals := given.positionals ++ [text] }
  | .command name rest => .ok { given with command := some (name, rest) }

/-- What the arguments give. -/
def collect (specs : List Spec) (wantsCommand : Bool) (limit : Nat) (arguments : List String) :
    Except Stop Given :=
  (pieces specs wantsCommand arguments).foldlM (Given.take limit) {}

/-- The request that ends the reading of the arguments. -/
def Stop.request (topic : Topic) : Stop → Request
  | .help => .help topic
  | .misuse => .misuse

/-- The topic that a list of commands names. -/
def topic? : List String → Option Topic
  | [] => some .program
  | ["diff"] => some .diff
  | ["clear"] => some .clear
  | ["version"] => some .version
  | ["help"] => some .help
  | _ => none

/-- The request of a command with its own arguments. -/
def parseCommand (root : String) (verbose : Bool) (name : String) (rest : List String) : Request :=
  let run (command : Command) : Request := .run { root, verbose, command }
  let bare (topic : Topic) (command : Command) : Request :=
    match collect [helpSpec] false 0 rest with
    | .error stop => stop.request topic
    | .ok _ => run command
  match name with
  | "diff" =>
    match collect diffSpecs false 2 rest with
    | .error stop => stop.request .diff
    | .ok given =>
      match given.positionals with
      | [old, new] =>
        run (.diff {
          old, new
          repo := given.values.lookup "repo"
          patch := given.values.lookup "patch"
          search := given.values.lookup "search"
          json := given.flags.contains "json" })
      | _ => .misuse
  | "clear" => bare .clear .clear
  | "version" => bare .version .version
  | "help" =>
    match topic? rest with
    | some topic => .help topic
    | none => .misuse
  | _ => .misuse

/-- What the arguments ask for. -/
def parse (arguments : List String) : Request :=
  match collect programSpecs true 0 arguments with
  | .error stop => stop.request .program
  | .ok given =>
    match given.command with
    | none => .misuse
    | some (name, rest) =>
      parseCommand ((given.values.lookup "root").getD ".") (given.flags.contains "verbose") name rest

end Arguments

end StructuralDiff
