import StructuralDiff.CommandLine.Run
import StructuralDiff.CommandLine.Trees

/-!
# The program

Reads the files below the working directory, runs the command line on them, and writes back what it
changed.
-/

open StructuralDiff

namespace StructuralDiff.Program

/-- The path of a place. -/
def pathOf (place : List String) : String :=
  "/" ++ "/".intercalate place

/-- The files below the working directory, and the place of that directory. -/
def readDisk : IO (Disk × List String) := do
  let here ← IO.currentDir
  let mut disk := (Disk.empty.makeDirectories [] here.toString).toOption.getD Disk.empty
  for path in ← here.walkDir do
    let place := Path.components path.toString
    if ← path.isDir then
      disk := disk.put place .directory
    else
      disk := disk.put place (.file (← IO.FS.readBinFile path))
  return (disk, Path.components here.toString)

/-- Writes the files that are new or have changed, and removes what is gone. -/
def writeChanges (before after : Disk) : IO Unit := do
  for (place, bytes) in after.filesBelow [] do
    let same := match before.entry? place with
      | some (.file old) => old == bytes
      | _ => false
    unless same do
      IO.FS.createDirAll (pathOf place.dropLast)
      IO.FS.writeBinFile (pathOf place) bytes
  let gone := before.entries.filter fun (place, _) => (after.entry? place).isNone
  for (place, entry) in gone.mergeSort fun a b => b.1.length ≤ a.1.length do
    match entry with
    | .file _ => IO.FS.removeFile (pathOf place)
    | .directory => IO.FS.removeDir (pathOf place)

/-- The present moment. -/
def now : IO Moment := do
  let (_, path) ← IO.FS.createTempFile
  let metadata ← path.metadata
  IO.FS.removeFile path
  return Moment.ofSeconds metadata.modified.sec.toNat

/-- The variables that the program looks at. -/
def readEnvironment : IO Environment := do
  let mut environment := Table.empty
  for name in [Config.storeVariable, Config.cacheVariable] do
    if let some value ← IO.getEnv name then
      environment := environment.insert name value
  return environment

end StructuralDiff.Program

open StructuralDiff.Program in
/-- Runs the program with its arguments. -/
def main (arguments : List String) : IO UInt32 := do
  let (disk, here) ← readDisk
  let setting : CommandLine.Setting := {
    here
    environment := ← readEnvironment
    parse := Trees.parser disk
    savedAt := (← now).text }
  let (result, after) := CommandLine.run setting arguments disk
  IO.print result.output
  IO.eprint result.complaint
  writeChanges disk after
  return result.code.toUInt32
