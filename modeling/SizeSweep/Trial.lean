import SizeSweep.Binary64.Printing
import SizeSweep.Text.Blank

/-!
Trials: one run of the measured program for one size.  The arguments of the program name the size
by a placeholder; an invocation without one gets the size as its last argument.
-/

namespace SizeSweep

inductive ExitStatus where
  | code (n : Nat)
  | signal (n : Nat)
deriving DecidableEq

/-- The names of the signals, from signal 1 on. -/
def signalNames : List String :=
  ["HUP", "INT", "QUIT", "ILL", "TRAP", "ABRT", "BUS", "FPE", "KILL", "USR1", "SEGV", "USR2",
   "PIPE", "ALRM", "TERM", "STKFLT", "CHLD", "CONT", "STOP", "TSTP", "TTIN", "TTOU", "URG",
   "XCPU", "XFSZ", "VTALRM", "PROF", "WINCH", "IO", "PWR", "SYS"]

namespace ExitStatus

def isSuccess (status : ExitStatus) : Bool := status = code 0

def message : ExitStatus → String
  | code n => s!"exit status: {n}"
  | signal n =>
    match if n = 0 then none else signalNames[n - 1]? with
    | some name => s!"signal: {n} (SIG{name})"
    | none => s!"signal: {n}"

end ExitStatus

structure Milliseconds where
  count : Nat
deriving DecidableEq

/-- A span of time in seconds: the whole seconds plus the rest, each rounded. -/
def Milliseconds.seconds (t : Milliseconds) : Binary64 :=
  Binary64.ofNat (t.count / 1000) +
    Binary64.ofNat (t.count % 1000 * 1000000) / Binary64.ofNat 1000000000

namespace Trial

inductive Fault where
  | failed (size : UInt64) (status : ExitStatus) (stdout stderr : String)
  | spawn (program cause : String)
  | timeout (size : UInt64) (limit : Milliseconds)
deriving DecidableEq

def Fault.message : Fault → String
  | failed size status _ _ => s!"measured program failed for size {size} ({status.message})"
  | spawn program cause => s!"failed to run {program}: {cause}"
  | timeout size limit =>
    s!"measured program did not finish within {Binary64.plain.render limit.seconds}s " ++
      s!"for size {size}"

def Fault.causes : Fault → List String
  | spawn _ cause => [cause]
  | _ => []

end Trial

/-- How the measured program is started. -/
structure Invocation where
  program : String
  args : List String := []
  /-- The directory to start in, if not the current one. -/
  cwd : Option String := none
  /-- What is added to the environment, later entries winning. -/
  env : List (String × String) := []
deriving DecidableEq

namespace Invocation

/-- The text that stands for the size. -/
def placeholder : List Char := ['\x7b', 's', 'i', 'z', 'e', '\x7d']

/-- A text with every occurrence of `mark`, from left to right, replaced by `value`; `skip` of its
characters belong to an occurrence already replaced. -/
def substitute (mark value : List Char) (skip : Nat) : List Char → List Char
  | [] => []
  | c :: rest =>
    match skip with
    | skip + 1 => substitute mark value skip rest
    | 0 =>
      if mark.isPrefixOf (c :: rest) then value ++ substitute mark value (mark.length - 1) rest
      else c :: substitute mark value 0 rest

def argsFor (invocation : Invocation) (size : UInt64) : List String :=
  let digits := (toString size).toList
  let named := invocation.args.map fun a =>
    String.ofList (substitute placeholder digits 0 a.toList)
  if invocation.args.any fun a => Text.occurs placeholder a.toList then named
  else named ++ [toString size]

end Invocation

end SizeSweep
