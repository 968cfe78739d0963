/-!
What can be wrong with the plan of an experiment: its metrics, its sizes, its repetitions.
-/

namespace SizeSweep

/-- Why a plan is refused. -/
inductive PlanFault where
  /-- Sizes are both listed and generated. -/
  | ambiguousSweep
  | duplicateColumn (column : String)
  | emptyLabel (column : String)
  | emptySweep
  | invalidColumn (column : String)
  /-- Sizes are neither listed nor fully generated. -/
  | missingSweep
  | noMetrics
  | notIncreasing (previous next : UInt64)
  /-- A generated size needs more than 64 bits. -/
  | sweepOverflow (base : UInt64) (step : Nat)
  | zeroRepetitions
  | zeroSize
deriving DecidableEq

def PlanFault.message : PlanFault → String
  | ambiguousSweep => "sweep must use either `sizes` or `base`/`steps`, not both"
  | duplicateColumn column => s!"metric column `{column}` is defined twice"
  | emptyLabel column => s!"metric column `{column}` has an empty label"
  | emptySweep => "sweep contains no sizes"
  | invalidColumn column => s!"`{column}` is not a valid metric column name"
  | missingSweep => "sweep requires `sizes` or both `base` and `steps`"
  | noMetrics => "at least one metric must be tracked"
  | notIncreasing previous next =>
    s!"sweep sizes must strictly increase, but {next} follows {previous}"
  | sweepOverflow base step => s!"sweep size {base} * 2^{step} does not fit in 64 bits"
  | zeroRepetitions => "repetitions must be at least 1"
  | zeroSize => "sweep sizes must be positive"

end SizeSweep
