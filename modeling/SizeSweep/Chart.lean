import SizeSweep.Table

/-!
Charts.  The datasets that are compared share columns and sizes; a column is charted with its
values as they are, and relative to one of the datasets, the baseline, where the baseline is not
zero.
-/

namespace SizeSweep

structure Dataset where
  label : String
  table : Table
deriving DecidableEq

/-- The data of a chart: its sizes, and under each label a value per size. -/
structure Chart where
  name : String
  title : String
  sizes : List UInt64
  lines : List (String × List Binary64)
deriving DecidableEq

namespace Chart

/-! ### What datasets share -/

/-- The columns that every dataset has, in the order of the first one. -/
def sharedColumns (datasets : List Dataset) : List String :=
  match datasets with
  | [] => []
  | first :: _ =>
    first.table.columns.filter fun column =>
      datasets.all fun d => (d.table.columnIndex? column).isSome

/-- The sizes that every dataset records, ascending and each once. -/
def sharedSizes (datasets : List Dataset) : List UInt64 :=
  match datasets with
  | [] => []
  | first :: _ =>
    let shared := first.table.sizes.filter fun size =>
      datasets.all fun d => d.table.sizes.contains size
    (shared.mergeSort (· ≤ ·)).eraseDups

/-! ### Charts of a column -/

/-- The value of a dataset at a size; a value that is not recorded is no number. -/
def valueAt (dataset : Dataset) (column : String) (size : UInt64) : Binary64 :=
  (dataset.table.value? size column).getD .nan

/-- The chart of the values. -/
def absolute (datasets : List Dataset) (column : String) (sizes : List UInt64) : Chart where
  name := column
  title := column
  sizes
  lines := datasets.map fun d => (d.label, sizes.map (valueAt d column))

/-- What values at a size are divided by: the value of the baseline, unless it is zero. -/
def divisor? (baseline : Dataset) (column : String) (size : UInt64) : Option Binary64 :=
  (baseline.table.value? size column).filter fun v => !v.isZero

/-- The sizes with a divisor, each with it. -/
def divisors (baseline : Dataset) (column : String) (sizes : List UInt64) :
    List (UInt64 × Binary64) :=
  sizes.filterMap fun size => (divisor? baseline column size).map fun v => (size, v)

/-- The sizes without a divisor. -/
def leftOut (baseline : Dataset) (column : String) (sizes : List UInt64) : List UInt64 :=
  sizes.filter fun size => (divisor? baseline column size).isNone

/-- The chart of the values divided by those of the baseline. -/
def relative (datasets : List Dataset) (baseline : Dataset) (column : String)
    (sizes : List UInt64) : Chart :=
  let divisors := divisors baseline column sizes
  { name := column ++ "_relative"
    title := s!"{column} relative to {baseline.label}"
    sizes := divisors.map Prod.fst
    lines := datasets.map fun d =>
      (d.label, divisors.map fun (size, divisor) => valueAt d column size / divisor) }

def both (datasets : List Dataset) (baseline : Dataset) (columns : List String)
    (sizes : List UInt64) : List Chart :=
  columns.flatMap fun column =>
    [absolute datasets column sizes, relative datasets baseline column sizes]

/-! ### Colours -/

/-- One colour per line: the one that its label is styled with, or else the next one of the
palette, which is used over and over.  Without a palette nothing is coloured. -/
def lineColors {α : Type} (palette : List α) (labels : List String)
    (styles : List (String × String)) (read : String → α) : List α :=
  labels.zipIdx.filterMap fun (label, i) =>
    (palette[i % palette.length]?).map fun color =>
      match styles.lookup label with
      | some style => read style
      | none => color

end Chart

end SizeSweep
