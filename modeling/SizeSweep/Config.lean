import SizeSweep.Build
import SizeSweep.Experiment
import SizeSweep.OsFault
import SizeSweep.Yaml.Decoder

/-!
The configuration of an experiment, as it is written in a YAML file.  Every record refuses fields
that it does not know; fields that are left out take their defaults one by one.
-/

namespace SizeSweep

/-- The configuration of an experiment. -/
structure Config where
  program : String
  args : List String := []
  /-- The directory in which the program runs, if not the current one. -/
  cwd : Option String := none
  /-- What is added to the environment of the program, sorted by names. -/
  env : List (String × String) := []
  results : String := "experiment.csv"
  repetitions : Option UInt64 := none
  mode : Option SweepMode := none
  sweep : Sweep
  trialTimeoutSecs : Option UInt64 := none
  metrics : List Metric := Metric.defaults
  build : Option BuildSpec := none

namespace Config

open Yaml (Decoder RecordField)

def path : Decoder String := .text "path string"

def texts : Decoder (List String) := .list (.text "a string")

/-- The names of the modes. -/
def sweepMode : Decoder SweepMode := .variant [("fresh", .fresh), ("resume", .resume)]

/-! ### Metrics -/

/-- The fields of a metric that have been read. -/
structure MetricDraft where
  column : Option String := none
  label : Option String := none

/-- The fields of a metric. -/
def metricFields : List (RecordField MetricDraft) :=
  [.of "column" MetricDraft.column (fun d x => { d with column := some x }) (.text "a string"),
   .of "label" MetricDraft.label (fun d x => { d with label := some x }) (.text "a string")]

/-- The metric of a draft. -/
def MetricDraft.complete (draft : MetricDraft) : Except String Metric :=
  match draft.column, draft.label with
  | none, _ => .error "column"
  | _, none => .error "label"
  | some column, some label => .ok ⟨column, label⟩

def metric : Decoder Metric := .record "struct MetricSpec" metricFields {} MetricDraft.complete

/-! ### Sweeps -/

structure SweepDraft where
  sizes : Option (List UInt64) := none
  base : Option (Option UInt64) := none
  steps : Option (Option UInt32) := none

def sweepFields : List (RecordField SweepDraft) :=
  [.of "sizes" SweepDraft.sizes (fun d x => { d with sizes := some x }) (.list (.size "u64")),
   .of "base" SweepDraft.base (fun d x => { d with base := some x }) (.optional (.size "u64")),
   .of "steps" SweepDraft.steps (fun d x => { d with steps := some x })
    (.optional (.count "u32"))]

def SweepDraft.complete (draft : SweepDraft) : Sweep :=
  { sizes := draft.sizes.getD [], base := draft.base.join, steps := draft.steps.join }

def sweepSpec : Decoder Sweep :=
  .record "struct SweepCfg" sweepFields {} fun draft => .ok draft.complete

/-! ### Builds -/

structure BuildDraft where
  config : Option String := none
  flags : Option (List String) := none
  debug : Option Bool := none
  additionalVars : Option (List String) := none
  dir : Option (Option String) := none

def buildFields : List (RecordField BuildDraft) :=
  [.of "config" BuildDraft.config (fun d x => { d with config := some x }) (.text "a string"),
   .of "flags" BuildDraft.flags (fun d x => { d with flags := some x }) texts,
   .of "debug" BuildDraft.debug (fun d x => { d with debug := some x }) .boolean,
   .of "additional_vars" BuildDraft.additionalVars
    (fun d x => { d with additionalVars := some x }) texts,
   .of "dir" BuildDraft.dir (fun d x => { d with dir := some x }) (.optional path)]

def BuildDraft.complete (draft : BuildDraft) : BuildSpec :=
  let blank : BuildSpec := {}
  { config := draft.config.getD blank.config
    flags := draft.flags.getD blank.flags
    debug := draft.debug.getD blank.debug
    additionalVars := draft.additionalVars.getD blank.additionalVars
    dir := draft.dir.getD blank.dir }

def buildSpec : Decoder BuildSpec :=
  .record "struct BuildSpec" buildFields {} fun draft => .ok draft.complete

/-! ### Configurations -/

/-- The fields of a configuration that have been read. -/
structure Draft where
  program : Option String := none
  args : Option (List String) := none
  cwd : Option (Option String) := none
  env : Option (List (String × String)) := none
  results : Option String := none
  repetitions : Option (Option UInt64) := none
  mode : Option (Option SweepMode) := none
  sweep : Option Sweep := none
  trialTimeoutSecs : Option (Option UInt64) := none
  metrics : Option (List Metric) := none
  build : Option (Option BuildSpec) := none

def fields : List (RecordField Draft) :=
  [.of "program" Draft.program (fun d x => { d with program := some x }) path,
   .of "args" Draft.args (fun d x => { d with args := some x }) texts,
   .of "cwd" Draft.cwd (fun d x => { d with cwd := some x }) (.optional path),
   .of "env" Draft.env (fun d x => { d with env := some x }) .dictionary,
   .of "results" Draft.results (fun d x => { d with results := some x }) path,
   .of "repetitions" Draft.repetitions (fun d x => { d with repetitions := some x })
    (.optional (.size "usize")),
   .of "mode" Draft.mode (fun d x => { d with mode := some x }) (.optional sweepMode),
   .of "sweep" Draft.sweep (fun d x => { d with sweep := some x }) sweepSpec,
   .of "trial_timeout_secs" Draft.trialTimeoutSecs
    (fun d x => { d with trialTimeoutSecs := some x }) (.optional (.size "u64")),
   .of "metrics" Draft.metrics (fun d x => { d with metrics := some x }) (.list metric),
   .of "build" Draft.build (fun d x => { d with build := some x }) (.optional buildSpec)]

def Draft.complete (draft : Draft) : Except String Config :=
  match draft.program, draft.sweep with
  | none, _ => .error "program"
  | _, none => .error "sweep"
  | some program, some sweep =>
    let blank : Config := { program, sweep }
    .ok
      { blank with
        args := draft.args.getD blank.args
        cwd := draft.cwd.getD blank.cwd
        env := draft.env.getD blank.env
        results := draft.results.getD blank.results
        repetitions := draft.repetitions.getD blank.repetitions
        mode := draft.mode.getD blank.mode
        trialTimeoutSecs := draft.trialTimeoutSecs.getD blank.trialTimeoutSecs
        metrics := draft.metrics.getD blank.metrics
        build := draft.build.getD blank.build }

def decoder : Decoder Config := .record "struct Config" fields {} Draft.complete

/-! ### Loading -/

/-- Why there is no configuration. -/
inductive Fault where
  | io (fault : OsFault)
  /-- What is written is no configuration. -/
  | text (fault : Yaml.ReadFault)

def Fault.message : Fault → String
  | io fault => s!"failed to read config file: {fault.message}"
  | text fault => s!"failed to parse config file: {fault.message}"

def Fault.causes : Fault → List String
  | io fault => [fault.message]
  | text fault => [fault.message]

def ofText (text : String) : Except Fault Config := (decoder.ofText text).mapError Fault.text

/-- The configuration in a file, given what reading the file gave. -/
def ofFile : Except OsFault String → Except Fault Config
  | .error fault => .error (.io fault)
  | .ok text => ofText text

end Config

end SizeSweep
