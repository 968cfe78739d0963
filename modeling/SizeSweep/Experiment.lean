import SizeSweep.Build
import SizeSweep.Store
import SizeSweep.Sweep
import SizeSweep.Trial

/-!
An experiment: every size of a sweep is measured by a number of trials, one after the other, and
its row is recorded before the next size begins.  The first fault stops the run, and the rows
recorded so far stay.  A run is a function of its surroundings, a `Bench`, and keeps a journal of
the states it went through.
-/

namespace SizeSweep

/-- What to do with an earlier results file. -/
inductive SweepMode where
  /-- Discard it. -/
  | fresh
  /-- Keep its rows and measure the sizes that it lacks. -/
  | resume
deriving DecidableEq

/-- A plan that can be run. -/
structure Experiment where
  sizes : List UInt64
  repetitions : Nat
  mode : SweepMode
  metrics : List Metric
  results : String
  sizes_ok : Sweep.check sizes = .ok ()
  metrics_ok : Metric.check metrics = .ok ()
  repetitions_ne_zero : repetitions ≠ 0

/-- The surroundings of a run, whose condition is a value of type `W`. -/
structure Bench (W : Type) where
  results : W → Spot
  setResults : W → Bytes → W
  trial : W → UInt64 → Except Trial.Fault String × W
  build : Option (W → Except Build.Fault Unit × W)

namespace Experiment

/-- How far a run has come. -/
inductive State where
  | notStarted
  | running (size : UInt64) (repetition : Nat)
  | aggregating (size : UInt64)
  | persisted (size : UInt64)
  | complete
deriving DecidableEq

inductive Fault where
  | aggregate (fault : AggregateFault)
  | build (fault : Build.Fault)
  | store (fault : Store.Fault)
  | trial (fault : Trial.Fault)
deriving DecidableEq

/-- The text of the fault itself. -/
def Fault.inner : Fault → String
  | aggregate fault => fault.message
  | build fault => fault.message
  | store fault => fault.message
  | trial fault => fault.message

def Fault.message : Fault → String
  | build fault => s!"build failed: {fault.message}"
  | fault => fault.inner

/-- The texts of what lies behind a fault, the fault itself first. -/
def Fault.causes (fault : Fault) : List String :=
  fault.inner :: match fault with
    | aggregate _ => []
    | build fault => fault.causes
    | store fault => fault.causes
    | trial fault => fault.causes

/-- A run that stopped early: at a size, or before the first one. -/
structure Halt where
  size : Option UInt64
  cause : Fault
deriving DecidableEq

def Halt.message (halt : Halt) : String :=
  match halt.size with
  | some size => s!"sweep halted at size {size}: {halt.cause.message}"
  | none => s!"sweep could not start: {halt.cause.message}"

def Halt.causes (halt : Halt) : List String := halt.cause.message :: halt.cause.causes

structure Report where
  /-- The sizes whose rows were recorded, in order. -/
  persisted : List UInt64
  skipped : List UInt64
  /-- How many lines named a metric without giving a sample. -/
  parseFailures : Nat
deriving DecidableEq

/-- A state that a run entered, with what the results path held then. -/
structure Transition where
  state : State
  results : Spot
deriving DecidableEq

/-- What happened during a part of a run, in order. -/
structure Journal where
  transitions : List Transition := []
  calls : List UInt64 := []
  /-- The lines that gave no sample. -/
  warnings : List (String × Sample.Fault) := []

def Journal.append (a b : Journal) : Journal :=
  ⟨a.transitions ++ b.transitions, a.calls ++ b.calls, a.warnings ++ b.warnings⟩

instance : Append Journal := ⟨Journal.append⟩

/-- A part of a run: its result, what happened, and the surroundings after it. -/
structure Part (W α : Type) where
  result : α
  journal : Journal
  world : W

/-! ### Planning -/

/-- Checks the sizes, then the metrics, then the repetitions of a plan. -/
def plan (sizes : List UInt64) (repetitions : Nat) (mode : SweepMode) (metrics : List Metric)
    (results : String) : Except PlanFault Experiment :=
  match hs : Sweep.check sizes with
  | .error fault => .error fault
  | .ok () => match hm : Metric.check metrics with
    | .error fault => .error fault
    | .ok () =>
      if hr : repetitions = 0 then .error .zeroRepetitions
      else .ok ⟨sizes, repetitions, mode, metrics, results, hs, hm, hr⟩

/-! ### Running -/

section Run

variable {W : Type} (bench : Bench W) (e : Experiment)

/-- The entry of a state in the journal. -/
def enter (w : W) (state : State) : Journal := { transitions := [⟨state, bench.results w⟩] }

/-- Runs trials of a size, `done` of which are behind, and adds their samples to those at hand. -/
def trials (size : UInt64) (done : Nat) (set : SampleSet) :
    Nat → W → Part W (Except Trial.Fault SampleSet)
  | 0, w => ⟨.ok set, {}, w⟩
  | n + 1, w =>
    let entered := enter bench w (.running size done)
    match bench.trial w size with
    | (.error fault, w) => ⟨.error fault, { entered with calls := [size] }, w⟩
    | (.ok output, w) =>
      let reading := Reading.ofOutput e.metrics output
      let rest := trials size (done + 1) (set.merge reading.samples) n w
      let tried := { entered with calls := [size], warnings := reading.warnings }
      ⟨rest.result, tried ++ rest.journal, rest.world⟩

/-- Records a row and enters the state that says so. -/
def record (store : Store) (row : Row) (w : W) : Part W (Except Fault Unit) :=
  match store.append row (bench.results w) with
  | .error fault => ⟨.error (.store fault), {}, w⟩
  | .ok bytes =>
    let w := bench.setResults w bytes
    ⟨.ok (), enter bench w (.persisted row.size), w⟩

/-- Measures a size: all its trials, then its row. -/
def measure (store : Store) (size : UInt64) (w : W) : Part W (Except Fault Unit) :=
  let tried := trials bench e size 0 (SampleSet.empty e.metrics) e.repetitions w
  match tried.result with
  | .error fault => ⟨.error (.trial fault), tried.journal, tried.world⟩
  | .ok set =>
    let journal := tried.journal ++ enter bench tried.world (.aggregating size)
    match set.aggregate size with
    | .error fault => ⟨.error (.aggregate fault), journal, tried.world⟩
    | .ok row =>
      let recorded := record bench store row tried.world
      ⟨recorded.result, journal ++ recorded.journal, recorded.world⟩

/-- Measures those of the sizes that are not to be skipped, until the first fault. -/
def measureAll (store : Store) (skip : List UInt64) :
    List UInt64 → W → Part W (Except Halt (List UInt64))
  | [], w => ⟨.ok [], {}, w⟩
  | size :: sizes, w =>
    if skip.contains size then measureAll store skip sizes w
    else
      let measured := measure bench e store size w
      match measured.result with
      | .error cause => ⟨.error ⟨some size, cause⟩, measured.journal, measured.world⟩
      | .ok () =>
        let rest := measureAll store skip sizes measured.world
        ⟨rest.result.map (size :: ·), measured.journal ++ rest.journal, rest.world⟩

/-- Opens the results file: its content from now on, and the sizes to skip. -/
def openStore (store : Store) (spot : Spot) : Except Store.Fault (Bytes × List UInt64) :=
  match e.mode with
  | .fresh => (store.fresh spot).map fun bytes => (bytes, [])
  | .resume => store.resume spot

/-- Builds the measured program, if it is to be built. -/
def prepare (w : W) : Except Build.Fault Unit × W :=
  match bench.build with
  | none => (.ok (), w)
  | some build => build w

/-- Opens the results file and measures the sizes. -/
def sweep (w : W) : Part W (Except Halt Report) :=
  let store := Store.forMetrics e.results e.metrics
  match openStore e store (bench.results w) with
  | .error fault => ⟨.error ⟨none, .store fault⟩, {}, w⟩
  | .ok (bytes, skip) =>
    let measured := measureAll bench e store skip e.sizes (bench.setResults w bytes)
    match measured.result with
    | .error halt => ⟨.error halt, measured.journal, measured.world⟩
    | .ok persisted =>
      ⟨.ok ⟨persisted, e.sizes.filter skip.contains, measured.journal.warnings.length⟩,
        measured.journal ++ enter bench measured.world .complete, measured.world⟩

/-- Runs an experiment: the build, then the sweep. -/
def run (w : W) : Part W (Except Halt Report) :=
  match prepare bench w with
  | (.error fault, w) => ⟨.error ⟨none, .build fault⟩, {}, w⟩
  | (.ok (), w) => sweep bench e w

end Run

/-- The state after a part of a run that began in `before`. -/
def Journal.stateAfter (journal : Journal) (before : State) : State :=
  match journal.transitions.getLast? with
  | none => before
  | some transition => transition.state

end Experiment

end SizeSweep
