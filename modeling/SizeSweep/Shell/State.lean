import SizeSweep.Files
import SizeSweep.Shell.Arithmetic
import SizeSweep.Shell.Script
import SizeSweep.Trial

/-!
The state of a running script: its files, its variables, and where its output goes.  Time passes
only while a script sleeps, and a script that would go on beyond its deadline is stopped.
-/

namespace SizeSweep.Shell

/-- Where a channel leads. -/
inductive Sink where
  | output
  /-- The messages that the caller collects. -/
  | messages
  | file (location : Location)
  | nowhere
deriving DecidableEq

/-- Chunks of output, the last one first. -/
abbrev Chunks := List Bytes

def Chunks.bytes (chunks : Chunks) : Bytes := chunks.reverse.flatten

structure State where
  files : Files
  cwd : Location
  name : String
  args : List String
  vars : Variables := []
  /-- The variables that other scripts see. -/
  exported : List String := []
  functions : List (String × Command) := []
  /-- How many loops are around the command at hand. -/
  loops : Nat := 0
  /-- Whether the script ends when a command fails whose exit code nothing asks for. -/
  stopsOnFailure : Bool := false
  /-- Whether the script ends when a variable is used that has no value. -/
  stopsOnUnset : Bool := false
  /-- Whether something asks for the exit code of the command at hand. -/
  isTested : Bool := false
  status : Nat := 0
  line : Nat := 1
  input : Bytes := []
  output : Chunks := []
  messages : Chunks := []
  stdout : Sink := .output
  stderr : Sink := .messages
  /-- The time slept, in milliseconds. -/
  slept : Nat := 0
  deadline : Option Nat := none

/-- Why a script, or a part of it, does not go on. -/
inductive Ending where
  | ended (status : ExitStatus)
  /-- The script would go on beyond its deadline. -/
  | endless
  /-- So many loops are left. -/
  | leave (loops : Nat)
  /-- So many loops but one are left, and the last one begins its next round. -/
  | again (loops : Nat)
  /-- The command that a name stands for is left with an exit code. -/
  | back (code : Nat)
deriving DecidableEq

/-- A part of a script at work. -/
abbrev Eval := EStateM Ending State

/-- Where programs are sought unless something else is said. -/
def standardPath : String := "/usr/bin:/bin"

/-- The name of the variable that says where programs are sought. -/
def pathVariable : String := "PATH"

def State.searchPath (s : State) : String := (s.vars.lookup pathVariable).getD standardPath

/-- The number of a script among the processes. -/
def processNumber : String := "1000"

/-! ### Output -/

def writeTo (sink : Sink) (bytes : Bytes) : Eval Unit := modify fun s =>
  match sink with
  | .output => { s with output := bytes :: s.output }
  | .messages => { s with messages := bytes :: s.messages }
  | .file location =>
    let old := match s.files.lookup? location with
      | some (.file content) => content
      | _ => []
    { s with files := s.files.put location (.file (old ++ bytes)) }
  | .nowhere => s

def write (bytes : Bytes) : Eval Unit := do writeTo (← get).stdout bytes

def print (text : String) : Eval Unit := write (Text.encode text)

/-- Writes a line as a message. -/
def complain (text : String) : Eval Unit := do
  writeTo (← get).stderr (Text.encode (text ++ "\n"))

/-- Writes a message of the script itself. -/
def complainHere (text : String) : Eval Unit := do
  let s ← get
  complain s!"{s.name}: {s.line}: {text}"

/-- Ends the script with an exit code. -/
def finish {α : Type} (code : Nat) : Eval α := throw (.ended (.code (code % 256)))

/-- Ends the script with a message. -/
def abort {α : Type} (text : String) : Eval α := do
  complainHere text
  finish 2

/-- Ends the script if the last command failed and the script does not go on then. -/
def insistOnSuccess : Eval Unit := do
  let s ← get
  if s.stopsOnFailure && !s.isTested && s.status ≠ 0 then finish s.status

/-! ### Input -/

/-- Reads a line of the input, unless the input has ended before it began.  Says also whether the
line was ended. -/
def readLine : Eval (Option (String × Bool)) := do
  let s ← get
  match s.input with
  | [] => return none
  | bytes =>
    let line := bytes.takeWhile (· ≠ 0x0A)
    let rest := bytes.drop line.length
    set { s with input := rest.drop 1 }
    return some (Text.decodeLenient line, !rest.isEmpty)

def sleep (milliseconds : Nat) : Eval Unit := do
  let s ← get
  let slept := s.slept + milliseconds
  set { s with slept }
  if s.deadline.any (· ≤ slept) then throw .endless

end SizeSweep.Shell
