import SizeSweep.Trial

/-!
Building the measured program: which variables `make` is given, and how a build fails.
-/

namespace SizeSweep

/-- How the measured program is built. -/
structure BuildSpec where
  config : String := "Enclave/Enclave.config.xml"
  flags : List String := []
  /-- Whether to build with debugging and without the pre-release optimisation. -/
  debug : Bool := false
  /-- Further arguments, as they are. -/
  additionalVars : List String := []
  dir : Option String := none
deriving DecidableEq

namespace BuildSpec

/-- The variable that passes the definitions to the compiler. -/
def cflags (flags : List String) : String :=
  flags.foldl (fun text flag => text ++ " -D" ++ flag) "CFLAGS="

def makeArgs (spec : BuildSpec) : List String :=
  let (debug, prerelease) := if spec.debug then ("1", "0") else ("0", "1")
  ["SGX_DEBUG=" ++ debug, "SGX_PRERELEASE=" ++ prerelease, "CONFIG=" ++ spec.config,
    cflags spec.flags] ++ spec.additionalVars

end BuildSpec

namespace Build

inductive Fault where
  | failed (step : String) (status : ExitStatus) (stderr : String)
  | spawn (step cause : String)
deriving DecidableEq

def Fault.message : Fault → String
  | failed step status _ => s!"`{step}` failed ({status.message})"
  | spawn step cause => s!"failed to run `{step}`: {cause}"

def Fault.causes : Fault → List String
  | spawn _ cause => [cause]
  | _ => []

/-- The steps of a build: their names and the arguments of `make`. -/
def steps (spec : BuildSpec) : List (String × List String) :=
  [("make clean", ["clean"]), ("make", spec.makeArgs)]

end Build

end SizeSweep
