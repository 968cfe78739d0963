import SizeSweep.CommandLine
import SizeSweep.Config
import SizeSweep.Experiment

/-!
The runner: a command line and a configuration file become an experiment, which is then run.  The
command line wins over the configuration.  Everything outside is reached through `Surroundings`,
and nothing is started or written before the whole plan has been accepted.
-/

namespace SizeSweep.Runner

/-! ### Arguments -/

structure Arguments where
  config : Option String := none
  reps : Option UInt64 := none
  mode : Option SweepMode := none
  results : Option String := none
  skipBuild : Bool := false
deriving DecidableEq

def Arguments.configPath (arguments : Arguments) : String := arguments.config.getD "cfg.yaml"

open CommandLine in
def switches : List (Switch Arguments) :=
  [⟨"config", none, .setting
      (setOnce Arguments.config (fun a x => { a with config := some x }) path)⟩,
   ⟨"reps", some 'r', .setting
      (setOnce Arguments.reps (fun a x => { a with reps := some x }) (readable size?))⟩,
   ⟨"mode", none, .setting
      (setOnce Arguments.mode (fun a x => { a with mode := some x })
        (choice [("fresh", .fresh), ("resume", .resume)]))⟩,
   ⟨"results", none, .setting
      (setOnce Arguments.results (fun a x => { a with results := some x }) path)⟩,
   ⟨"skip-build", none, .flag
      (flagOnce Arguments.skipBuild fun a => { a with skipBuild := true })⟩]

def Arguments.ofWords (words : List String) : Except CommandLine.Stop Arguments :=
  CommandLine.parse switches {} words

/-! ### Surroundings -/

/-- What the runner reaches outside, the condition of which is a value of type `W`. -/
structure Surroundings (W : Type) where
  readText : W → String → Except OsFault String
  /-- What a path holds for a results file. -/
  spot : W → String → Spot
  setContent : W → String → Bytes → W
  /-- Runs the measured program for a size, within a limit of time. -/
  trial : Invocation → Option Milliseconds → W → UInt64 → Except Trial.Fault String × W
  build : BuildSpec → W → Except Build.Fault Unit × W

/-- The bench of an experiment in its surroundings. -/
def Surroundings.bench {W : Type} (surroundings : Surroundings W) (results : String)
    (invocation : Invocation) (limit : Option Milliseconds) (build : Option BuildSpec) :
    Bench W where
  results w := surroundings.spot w results
  setResults w bytes := surroundings.setContent w results bytes
  trial := surroundings.trial invocation limit
  build := build.map surroundings.build

/-! ### Planning -/

/-- What the runner reports as an error. -/
inductive Event where
  | unusableConfig (path : String) (fault : Config.Fault)
  | invalidSweep (fault : PlanFault)
  | rejected (fault : PlanFault)
  /-- What a failed trial wrote. -/
  | programOutput (size : UInt64) (stdout stderr : String)
  | buildOutput (stderr : String)
  | halted (halt : Experiment.Halt)

def Event.message : Event → String
  | unusableConfig path fault => s!"invalid configuration config={path} err={fault.message}"
  | invalidSweep fault => s!"invalid sweep err={fault.message}"
  | rejected fault => s!"invalid configuration err={fault.message}"
  | programOutput size stdout stderr =>
    s!"measured program output size=Some({size}) stdout={stdout} stderr={stderr}"
  | buildOutput stderr => s!"build output stderr={stderr}"
  | halted halt => s!"sweep failed err={halt.message}"

/-- An experiment and what it needs from its surroundings. -/
structure Plan where
  experiment : Experiment
  invocation : Invocation
  limit : Option Milliseconds
  build : Option BuildSpec

/-- How a configuration starts the measured program. -/
def invocationOf (config : Config) : Invocation :=
  { program := config.program, args := config.args, cwd := config.cwd, env := config.env }

/-- The plan that a command line and a configuration make. -/
def plan (arguments : Arguments) (config : Config) : Except Event Plan :=
  match config.sweep.resolve with
  | .error fault => .error (.invalidSweep fault)
  | .ok sizes =>
    let repetitions := ((arguments.reps <|> config.repetitions).getD 1).toNat
    let mode := (arguments.mode <|> config.mode).getD .fresh
    let results := arguments.results.getD config.results
    match Experiment.plan sizes repetitions mode config.metrics results with
    | .error fault => .error (.rejected fault)
    | .ok experiment =>
      .ok
        { experiment
          invocation := invocationOf config
          limit := config.trialTimeoutSecs.map fun secs => ⟨secs.toNat * 1000⟩
          build := if arguments.skipBuild then none else config.build }

/-! ### Running -/

structure Outcome (W : Type) where
  exitCode : Nat
  errors : List Event := []
  journal : Experiment.Journal := {}
  world : W

/-- What is reported of a halt: the output of what failed, if there is one, and the halt. -/
def eventsOf (halt : Experiment.Halt) : List Event :=
  (match halt.cause with
    | .trial (.failed size _ stdout stderr) => [Event.programOutput size stdout stderr]
    | .build (.failed _ _ stderr) => [Event.buildOutput stderr]
    | _ => []) ++ [.halted halt]

def execute {W : Type} (surroundings : Surroundings W) (plan : Plan) (w : W) : Outcome W :=
  let bench := surroundings.bench plan.experiment.results plan.invocation plan.limit plan.build
  let part := plan.experiment.run bench w
  match part.result with
  | .ok _ => { exitCode := 0, journal := part.journal, world := part.world }
  | .error halt =>
    { exitCode := 1, errors := eventsOf halt, journal := part.journal, world := part.world }

def program {W : Type} (surroundings : Surroundings W) (words : List String) (w : W) :
    Outcome W :=
  match Arguments.ofWords words with
  | .error stop => { exitCode := stop.exitCode, world := w }
  | .ok arguments =>
    let path := arguments.configPath
    match Config.ofFile (surroundings.readText w path) with
    | .error fault => { exitCode := 1, errors := [.unusableConfig path fault], world := w }
    | .ok config =>
      match plan arguments config with
      | .error event => { exitCode := 1, errors := [event], world := w }
      | .ok plan => execute surroundings plan w

end SizeSweep.Runner
