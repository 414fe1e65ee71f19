import StructuralDiff.Analysis
import StructuralDiff.Cache
import StructuralDiff.Disk
import StructuralDiff.Toml.Reader

/-!
# Configuration

Limits of the analysis, the capacity of the derivation cache and the directory of the store. They are read
from a file, and variables of the environment count more than the file.

* `Config.ofText?`: the configuration in the text of a file.
* `Config.withEnvironment`: the overrides of the environment.
* `Config.load`: the configuration below a directory.
-/

namespace StructuralDiff

/-- All settings. -/
structure Config where
  analysis : AnalysisConfig := {}
  cacheCapacity : Nat := Cache.defaultCapacity
  storeDirectory : String := ".rift"
  deriving DecidableEq, Repr, Inhabited

/-- Why there is no configuration. -/
inductive ConfigError where
  /-- The file cannot be read. -/
  | io (path : String)
  /-- The file is malformed, or a setting has the wrong type. -/
  | malformed (path : String)
  deriving DecidableEq, Repr

/-- The reason in words. -/
def ConfigError.message : ConfigError → String
  | .io path => "failed to read config " ++ path
  | .malformed path => "invalid config " ++ path

namespace Config

open Toml (Item Entries)

/-- The name of the configuration file. -/
def fileName : String := "rift.toml"

/-- The variable that overrides the directory of the store. -/
def storeVariable : String := "RIFT_STORE_DIR"

/-- The variable that overrides the capacity of the cache. -/
def cacheVariable : String := "RIFT_DERIVATION_CACHE"

/-- The settings of a section with the given names, each of which may be missing: a table with these keys,
or an array in the order of the names. A moment counts as a table without any of the keys. -/
def settings? (names : List String) : Item → Option (List (Option Item))
  | .table _ entries | .braces entries => some (names.map fun name => entries.lookup name)
  | .arr items => some (names.mapIdx fun i _ => items[i]?)
  | .tables elements => some (names.mapIdx fun i _ => (elements[i]?).map (.table .header ·))
  | .moment _ => some (names.map fun _ => none)
  | _ => none

/-- A setting that is a number. -/
def number? (fallback : Nat) : Option Item → Option Nat
  | none => some fallback
  | some (.int n) => if 0 ≤ n then some n.toNat else none
  | some _ => none

/-- A setting that is a text. -/
def text? (fallback : String) : Option Item → Option String
  | none => some fallback
  | some (.str s) => some s
  | some _ => none

/-- The settings of a section that may be missing. -/
def sectionSettings? (entries : Entries) (name : String) (names : List String) : Option (List (Option Item)) :=
  match entries.lookup name with
  | none => some (names.map fun _ => none)
  | some item => settings? names item

/-- The configuration in the tables of a file. -/
def ofEntries? (entries : Entries) : Option Config := do
  let standard : Config := {}
  let analysis ← sectionSettings? entries "analysis" ["max_file_bytes", "threads"]
  let derivation ← sectionSettings? entries "derivation" ["cache_capacity"]
  let store ← sectionSettings? entries "store" ["dir"]
  match analysis, derivation, store with
  | [maxFileBytes, threads], [cacheCapacity], [directory] =>
    return {
      analysis := {
        maxFileBytes := ← number? standard.analysis.maxFileBytes maxFileBytes
        threads := ← number? standard.analysis.threads threads }
      cacheCapacity := ← number? standard.cacheCapacity cacheCapacity
      storeDirectory := ← text? standard.storeDirectory directory }
  | _, _, _ => none

/-- The configuration in the text of a file. -/
def ofText? (text : String) : Option Config :=
  (Toml.read? text).bind ofEntries?

/-- A number of 64 bits in decimal digits, with an optional plus sign. -/
def capacity? (text : String) : Option Nat :=
  let digits :=
    match text.toList with
    | '+' :: digits => digits
    | digits => digits
  (Text.decimal? digits).filter (· < Bound.nat64)

/-- Applies the variables of an environment; those without a usable value are ignored. -/
def withEnvironment (config : Config) (lookup : String → Option String) : Config :=
  let config :=
    match (lookup storeVariable).map Text.trim with
    | none | some "" => config
    | some directory => { config with storeDirectory := directory }
  match (lookup cacheVariable).bind fun text => capacity? (Text.trim text) with
  | none => config
  | some cacheCapacity => { config with cacheCapacity }

/-- The configuration in a file. -/
def ofFile (disk : Disk) (here : List String) (path : String) : Except ConfigError Config :=
  match disk.read here path with
  | .error _ => .error (.io path)
  | .ok bytes =>
    match Text.ofBytes? bytes with
    | none => .error (.io path)
    | some text =>
      match ofText? text with
      | none => .error (.malformed path)
      | some config => .ok config

/-- The configuration below a directory; without a file the standard settings apply. -/
def load (disk : Disk) (here : List String) (root : String) (lookup : String → Option String) :
    Except ConfigError Config :=
  let path := Path.join root fileName
  let config := if (disk.exists? here path).isSome then ofFile disk here path else .ok {}
  config.map (·.withEnvironment lookup)

end Config

end StructuralDiff
