import SizeSweep.Runner
import SizeSweep.Shell.Evaluation

/-!
Processes in a directory tree.  The programs that can be started are those of the system; a file is
no program by itself, but the shell can run it as a script.
-/

namespace SizeSweep.Launch

/-- What a process leaves behind. -/
structure Completed where
  /-- How it ended, unless it was stopped because its time was up. -/
  status : Option ExitStatus
  stdout : Bytes
  stderr : Bytes

structure Start where
  program : String
  args : List String
  /-- The directory to start in, if not the one that paths begin in. -/
  cwd : Option String := none
  env : List (String × String) := []
  deadline : Option Nat := none

def hasZero (text : String) : Bool := text.toList.contains '\x00'

def Start.hasZero (start : Start) : Bool :=
  Launch.hasZero start.program || start.args.any Launch.hasZero ||
    start.cwd.any Launch.hasZero ||
    start.env.any fun (name, value) => Launch.hasZero name || Launch.hasZero value

/-- The directory that a process starts in. -/
def startLocation (files : Files) : Option String → Except OsFault Location
  | none => .ok Files.home
  | some path => do
    let target ← files.resolve Files.home path
    match target.entry with
    | some .directory => .ok target.location
    | some _ => .error .notDirectory
    | none => .error .notFound

/-- The variables that a process sees.  Each entry of its environment is a name and a value with
an equals sign between them, the first one in it. -/
def Start.variables (start : Start) : Shell.Variables :=
  ((Shell.pathVariable, Shell.standardPath) :: start.env).foldl (fun vars (name, value) =>
    match Text.splitAt? ['='] (name ++ "=" ++ value).toList with
    | some (name, value) => vars.set (String.ofList name) (String.ofList value)
    | none => vars) []

/-- The state that a process begins in. -/
def Start.state (start : Start) (files : Files) (cwd : Location) : Shell.State :=
  let vars := start.variables
  { files, cwd, name := start.program, args := start.args, vars
    exported := vars.map Prod.fst, deadline := start.deadline }

/-- What a process does: the program by its name, which may be called by its path. -/
def Start.body (start : Start) (program : String) : Shell.Eval Nat :=
  match Shell.programs.lookup program with
  | some program => program start.args
  | none => Shell.script Shell.enoughFuel start.program start.args

def run (start : Start) (files : Files) : Except OsFault Completed × Files :=
  let found : Except OsFault (Shell.State × String) := do
    if start.hasZero then throw .zeroInArgument
    let state := start.state files (← startLocation files start.cwd)
    return (state, ← Shell.findProgram files state.cwd state.searchPath start.program)
  match found with
  | .error fault => (.error fault, files)
  | .ok (state, program) =>
    let (status, state) := match (start.body program).run state with
      | .ok code state => (some (ExitStatus.code code), state)
      | .error (.ended status) state => (some status, state)
      | .error .endless state => (none, state)
      | .error _ state => (some (ExitStatus.code state.status), state)
    let status := if start.deadline = some 0 then none else status
    let stdout := Shell.Chunks.bytes state.output
    (.ok ⟨status, stdout, Shell.Chunks.bytes state.messages⟩, state.files)

/-! ### Trials and builds -/

/-- Runs the measured program for a size.  A program that never ends runs out of time, whatever
the limit. -/
def trial (invocation : Invocation) (limit : Option Milliseconds) (files : Files)
    (size : UInt64) : Except Trial.Fault String × Files :=
  let start : Start :=
    { program := invocation.program, args := invocation.argsFor size, cwd := invocation.cwd
      env := invocation.env, deadline := limit.map Milliseconds.count }
  match run start files with
  | (.error fault, files) => (.error (.spawn invocation.program fault.message), files)
  | (.ok completed, files) =>
    let stdout := Text.decodeLenient completed.stdout
    let result := match completed.status with
      | none => .error (.timeout size (limit.getD ⟨0⟩))
      | some status =>
        if status.isSuccess then .ok stdout
        else .error (.failed size status stdout (Text.decodeLenient completed.stderr))
    (result, files)

/-- Runs the steps of a build until one fails. -/
def buildSteps (make : String) (dir : Option String) :
    List (String × List String) → Files → Except Build.Fault Unit × Files
  | [], files => (.ok (), files)
  | (step, args) :: rest, files =>
    match run { program := make, args, cwd := dir } files with
    | (.error fault, files) => (.error (.spawn step fault.message), files)
    | (.ok completed, files) =>
      let status := completed.status.getD (.signal 9)
      if status.isSuccess then buildSteps make dir rest files
      else (.error (.failed step status (Text.decodeLenient completed.stderr)), files)

/-- Builds the measured program with a program that takes the arguments of `make`. -/
def build (make : String) (spec : BuildSpec) (files : Files) : Except Build.Fault Unit × Files :=
  buildSteps make spec.dir (Build.steps spec) files

def defaultMake : String := "make"

/-- A directory tree as the surroundings of the runner. -/
def surroundings : Runner.Surroundings Files where
  readText files path := files.readText Files.home path
  spot files path := files.spot Files.home path
  setContent files path bytes := files.setContent Files.home path bytes
  trial := trial
  build := build defaultMake

end SizeSweep.Launch
