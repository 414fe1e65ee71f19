import StructuralDiff.Checkout
import StructuralDiff.CommandLine.Help
import StructuralDiff.CommandLine.Report
import StructuralDiff.Config
import StructuralDiff.Environment
import StructuralDiff.Store.File
import StructuralDiff.Worker

/-!
# Running commands

The program as a function on a disk: it reads its configuration, does what its arguments ask for, and leaves
the disk as its store has changed it.

* `CommandLine.run`: the program.
-/

namespace StructuralDiff.CommandLine

/-- Where and when the program runs. -/
structure Setting where
  /-- The working directory. -/
  here : List String
  environment : Environment
  parse : Parser
  /-- The moment that is noted in stored files. -/
  savedAt : String

/-- How the program ended. -/
structure Exit where
  code : Nat
  output : String := ""
  /-- Why it failed. -/
  complaint : String := ""
  deriving DecidableEq, Repr

/-- The program did what was asked for. -/
def Exit.success (output : String) : Exit := { code := 0, output }

/-- The program failed. -/
def Exit.failure (complaint : String) : Exit := { code := 1, complaint }

/-- The name and the version of the program. -/
def versionText : String := "rift v0.1.0\n"

/-- The store of a directory. -/
def fileStore (setting : Setting) (root : String) (config : Config) : FileStore :=
  { here := setting.here, directory := Path.join root config.storeDirectory }

/-- The repository that is meant when none is named: the one called like the directory. -/
def defaultRepo (setting : Setting) (root : String) (disk : Disk) : String :=
  ((disk.exists? setting.here root).bind (·.getLast?)).getD "local"

/-- The hunks of a patch file. -/
def patches (setting : Setting) (disk : Disk) : Option String → Except String (List FilePatch)
  | none => .ok []
  | some path =>
    match disk.read setting.here path with
    | .error cause => .error ("reading patch " ++ path ++ ": " ++ cause.message)
    | .ok bytes =>
      match Text.ofBytes? bytes with
      | none => .error ("reading patch " ++ path ++ ": stream did not contain valid UTF-8")
      | some text => .ok (FilePatch.parseAll text)

/-- What a search in the declarations of the new side finds. -/
def searched (config : Config) (record : DiffRecord) (query : String) : Option (List String) := do
  let input ← record.derivationInput? .declarations .new false query false
  let worker := (Worker.ofEngine (Engine.ofCapacity config.cacheCapacity)).submit input
  let (outcome, _) ← worker.waitFor? worker.submitted
  return (← outcome).2.searchMatchIds

/-- What is printed about a comparison. -/
def report (config : Config) (options : DiffOptions) (record : DiffRecord) : Exit :=
  let summary :=
    if options.json then (Json.ofList FileSummary.toJson record.files).pretty ++ "\n"
    else Report.text (Report.summaryLines record)
  match options.search with
  | none => .success summary
  | some query =>
    match searched config record query with
    | none => { code := 1, output := summary, complaint := "derivation worker stopped" }
    | some ids => .success (summary ++ Report.text (Report.searchLines query ids))

/-- Compares two directories. -/
def diff (setting : Setting) (root : String) (config : Config) (options : DiffOptions)
    (disk : Disk) : Exit × Disk :=
  match patches setting disk options.patch with
  | .error complaint => (.failure complaint, disk)
  | .ok patches =>
    let request : DiffRequest :=
      { repoId := options.repo.getD (defaultRepo setting root disk)
        old := Checkout.source setting.parse disk setting.here options.old
        new := Checkout.source setting.parse disk setting.here options.new
        patches }
    let store := Store.file (fileStore setting root config) setting.savedAt
    match Registry.create store config.analysis request (Registry.ofState disk) with
    | (.error error, registry) => (.success (error.message ++ "\n"), registry.state)
    | (.ok id, registry) =>
      match registry.diff? id with
      | none => (.failure "diff missing", registry.state)
      | some record => (report config options record, registry.state)

/-- Removes the store. -/
def clear (setting : Setting) (root : String) (config : Config) (disk : Disk) : Exit × Disk :=
  match (fileStore setting root config).clear disk with
  | (.ok _, disk) => (.success "", disk)
  | (.error error, disk) => (.failure error.message, disk)

/-- The name of the file with further variables. -/
def environmentFile : String := ".env"

/-- The environment with the variables of the file in the working directory. -/
def fullEnvironment (setting : Setting) (disk : Disk) : Environment :=
  match disk.read setting.here environmentFile with
  | .ok bytes => setting.environment.extended bytes
  | .error _ => setting.environment

/-- Runs a command. -/
def runCommand (setting : Setting) (invocation : Invocation) (disk : Disk) : Exit × Disk :=
  let environment := fullEnvironment setting disk
  match Config.load disk setting.here invocation.root environment.get? with
  | .error error => (.failure error.message, disk)
  | .ok config =>
    match invocation.command with
    | .diff options => diff setting invocation.root config options disk
    | .clear => clear setting invocation.root config disk
    | .version => (.success versionText, disk)

/-- The program. -/
def run (setting : Setting) (arguments : List String) (disk : Disk) : Exit × Disk :=
  match Arguments.parse arguments with
  | .misuse => ({ code := 2, complaint := Topic.text .program }, disk)
  | .help topic => (.success topic.text, disk)
  | .run invocation => runCommand setting invocation disk

end StructuralDiff.CommandLine
