import SizeSweep.Binary64.Reading
import SizeSweep.ControlSequence
import SizeSweep.Metric
import SizeSweep.Text.Blank
import SizeSweep.Text.Quoted

/-!
Samples: the numbers that the output of a measured program reports.  A line reports a metric if it
contains the metric's label; the value is what follows the first `": "` of the line, without
control sequences and without white space around it.
-/

namespace SizeSweep

namespace Sample

/-- Why a line that reports a metric gives no sample. -/
inductive Fault where
  /-- The line has no delimiter before a value. -/
  | missingDelimiter (label line : String)
  | invalidNumber (label raw : String)
  | nonFinite (label raw : String)
deriving DecidableEq

def Fault.message : Fault → String
  | missingDelimiter label line => s!"line reporting `{label}` has no value: {Text.quoted line}"
  | invalidNumber label raw =>
    s!"value {Text.quoted raw} reported for `{label}` is not a number"
  | nonFinite label raw => s!"value {Text.quoted raw} reported for `{label}` is not finite"

/-- What stands between a label and its value. -/
def delimiter : List Char := [':', ' ']

/-- The number that a value text reports. -/
def value (label raw : String) : Except Fault Binary64 :=
  match Binary64.ofText? raw with
  | none => .error (.invalidNumber label raw)
  | some x => if x.isFinite then .ok x else .error (.nonFinite label raw)

/-- What a line reports for a label, if it reports it at all. -/
def extract (line : List Char) (label : String) : Option (Except Fault Binary64) :=
  if Text.occurs label.toList line then
    match Text.splitAt? delimiter line with
    | none => some (.error (.missingDelimiter label (String.ofList line)))
    | some (_, after) =>
      some (value label (String.ofList (Text.trim (ControlSequence.strip after))))
  else none

end Sample

/-- What one run of the measured program reported. -/
structure Reading where
  /-- One list of samples per metric, in the order of the metrics. -/
  samples : List (List Binary64)
  /-- The lines that gave no sample: the column concerned and the fault, metric by metric. -/
  warnings : List (String × Sample.Fault)

namespace Reading

/-- The reports of one label in a list of lines, in order. -/
def reports (lines : List (List Char)) (label : String) : List (Except Sample.Fault Binary64) :=
  lines.filterMap fun line => Sample.extract line label

def samplesOf (lines : List (List Char)) (label : String) : List Binary64 :=
  (reports lines label).filterMap Except.toOption

def faultsOf (lines : List (List Char)) (label : String) : List Sample.Fault :=
  (reports lines label).filterMap fun
    | .error fault => some fault
    | .ok _ => none

/-- Collects the samples of every metric from the output of a run. -/
def ofOutput (metrics : List Metric) (output : String) : Reading :=
  let lines := Text.lines output.toList
  { samples := metrics.map fun m => samplesOf lines m.label
    warnings := metrics.flatMap fun m => (faultsOf lines m.label).map fun f => (m.column, f) }

/-- How many lines named a metric without giving a sample of it, over all metrics. -/
def parseFailures (reading : Reading) : Nat := reading.warnings.length

end Reading

end SizeSweep
