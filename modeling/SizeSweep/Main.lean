import SizeSweep.Launch
import SizeSweep.Plot

/-!
The command line.  `run` measures a sweep and `plot` compares results files.  The files that a
command names are read into a tree, the command works on the tree, and what it changed there is
written back.
-/

namespace SizeSweep.Disk

/-- Puts the files that can be read at some paths into a tree. -/
def load (paths : List String) : IO Files := do
  let mut files : Files := {}
  for path in paths do
    match ← (IO.FS.readBinFile path).toBaseIO with
    | .ok bytes =>
      let parent := "/".intercalate (Files.names path).dropLast
      files := (files.createDirectories Files.home parent).2.setContent Files.home path bytes.toList
    | .error _ => pure ()
  return files

def wayTo (location : Location) : String :=
  if Files.home.isPrefixOf location then "/".intercalate (location.drop Files.home.length)
  else "/" ++ "/".intercalate location

/-- The path of a location: the one that it was loaded from, or the way there. -/
def pathOf (before : Files) (paths : List String) (location : Location) : String :=
  let leadsHere (path : String) : Bool :=
    match before.resolve Files.home path with
    | .ok target => target.location = location
    | .error _ => false
  (paths.find? leadsHere).getD (wayTo location)

/-- Writes what differs between two trees. -/
def save (paths : List String) (before after : Files) : IO Unit := do
  for (location, entry) in after.entries.reverse do
    if before.lookup? location ≠ some entry then
      let path := pathOf before paths location
      match entry with
      | .directory => IO.FS.createDirAll path
      | .file bytes => IO.FS.writeBinFile path bytes.toByteArray
      | .void | .program => pure ()
  for (location, entry) in before.entries do
    if entry ≠ .directory && (after.lookup? location).isNone then
      IO.FS.removeFile (pathOf before paths location)

def report (errors : List String) : IO Unit := do
  for error in errors do IO.eprintln error

/-- The files that a run may need: the configuration, and those that it names. -/
def runPaths (words : List String) : IO (List String) := do
  match Runner.Arguments.ofWords words with
  | .error _ => return []
  | .ok arguments =>
    let files ← load [arguments.configPath]
    match Config.ofFile (files.readText Files.home arguments.configPath) with
    | .error _ => return [arguments.configPath]
    | .ok config =>
      return (arguments.configPath :: arguments.results.getD config.results :: config.program ::
        config.args).filter (! ·.isEmpty)

/-- Measures a sweep. -/
def run (words : List String) : IO UInt32 := do
  let paths ← runPaths words
  let files ← load paths
  let outcome := Runner.program Launch.surroundings words files
  save paths files outcome.world
  report (outcome.errors.map Runner.Event.message)
  return .ofNat outcome.exitCode

def plotPaths (words : List String) : List String :=
  match Plot.Arguments.ofWords words with
  | .error _ => []
  | .ok arguments => arguments.series.map Plot.Series.path ++ arguments.styles.toList

def plot (words : List String) : IO UInt32 := do
  let paths := plotPaths words
  let files ← load paths
  let outcome := Plot.program words files
  save paths files outcome.files
  report outcome.errors
  return .ofNat outcome.exitCode

end SizeSweep.Disk

/-- Measures or plots, as the first word says. -/
def main (words : List String) : IO UInt32 := do
  match words with
  | "run" :: rest => SizeSweep.Disk.run rest
  | "plot" :: rest => SizeSweep.Disk.plot rest
  | _ =>
    IO.eprintln "usage: sizesweep run [options] | sizesweep plot [options]"
    return 2
