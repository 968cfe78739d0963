import SizeSweep.Binary64.Basic
import SizeSweep.Sample

/-!
Aggregation: the samples of one size over all its trials become one row, the median of each
metric.
-/

namespace SizeSweep

/-- One line of a results file: a size and a value per metric. -/
structure Row where
  size : UInt64
  values : List Binary64
deriving DecidableEq

/-- The samples in the total order of numbers. -/
def ascending (samples : List Binary64) : List Binary64 := samples.mergeSort Binary64.totalLE

/-- The middle sample, or for an even count the sum of the halves of the two middle ones.  Each is
halved before adding, so that their sum cannot overflow. -/
def median? (samples : List Binary64) : Option Binary64 :=
  let sorted := ascending samples
  let middle := sorted.length / 2
  let two := Binary64.ofNat 2
  if sorted.length % 2 = 1 then sorted[middle]?
  else match sorted[middle - 1]?, sorted[middle]? with
    | some low, some high => some (low / two + high / two)
    | _, _ => none

/-- Why a size has no row. -/
inductive AggregateFault where
  /-- No trial reported the metric of this column. -/
  | emptySample (column : String)
deriving DecidableEq

def AggregateFault.message : AggregateFault → String
  | emptySample column => s!"no samples were collected for metric `{column}`"

/-- The samples of one size: for each metric its column and what was collected for it. -/
structure SampleSet where
  columns : List (String × List Binary64)

namespace SampleSet

def empty (metrics : List Metric) : SampleSet := ⟨metrics.map fun m => (m.column, [])⟩

/-- Appends lists of samples to those of the columns, one by one, as far as there are lists. -/
def appendEach :
    List (String × List Binary64) → List (List Binary64) → List (String × List Binary64)
  | (column, old) :: columns, new :: more => (column, old ++ new) :: appendEach columns more
  | columns, _ => columns

/-- The set with the samples of one more trial. -/
def merge (set : SampleSet) (samples : List (List Binary64)) : SampleSet :=
  ⟨appendEach set.columns samples⟩

/-- The samples of the first metric with a column. -/
def samples? (set : SampleSet) (column : String) : Option (List Binary64) :=
  set.columns.lookup column

def value : String × List Binary64 → Except AggregateFault Binary64
  | (column, samples) => match median? samples with
    | some x => .ok x
    | none => .error (.emptySample column)

/-- The row of a size: the median of every metric, or the first metric without samples. -/
def aggregate (set : SampleSet) (size : UInt64) : Except AggregateFault Row :=
  (set.columns.mapM value).map fun values => ⟨size, values⟩

end SampleSet

end SizeSweep
