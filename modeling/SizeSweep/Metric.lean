import SizeSweep.Fault

/-!
Metrics: what is measured, under which column it is recorded, and which label announces it in the
output of the measured program.
-/

namespace SizeSweep

/-- A measured quantity: the column that records it and the label that reports it. -/
structure Metric where
  column : String
  label : String
deriving DecidableEq

namespace Metric

/-- The column of a results file that holds the sizes. -/
def sizeColumn : String := "size"

/-- The metrics of an oblivious map: set-up, and the average cost of each operation. -/
def defaults : List Metric :=
  [⟨"initTime", "ORAM Initialization Time"⟩, ⟨"readTime", "Average OMAP Read Time"⟩,
   ⟨"writeTime", "Average OMAP Write Time"⟩, ⟨"deleteTime", "Average OMAP Delete Time"⟩]

/-- The columns of a results file that records the metrics. -/
def header (metrics : List Metric) : List String := sizeColumn :: metrics.map Metric.column

/-- Checks the metrics in order, given the columns of those before them. -/
def checkAfter (seen : List String) : List Metric → Except PlanFault Unit
  | [] => .ok ()
  | m :: rest =>
    if m.column.isEmpty || m.column = sizeColumn || m.column.toList.contains ',' then
      .error (.invalidColumn m.column)
    else if m.label.isEmpty then .error (.emptyLabel m.column)
    else if seen.contains m.column then .error (.duplicateColumn m.column)
    else checkAfter (m.column :: seen) rest

/-- Whether the metrics can be tracked together: there is one, each has a column of its own that
fits a header, and each has a label. -/
def check (metrics : List Metric) : Except PlanFault Unit :=
  if metrics.isEmpty then .error .noMetrics else checkAfter [] metrics

end Metric

end SizeSweep
