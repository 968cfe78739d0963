import SizeSweep.Fault

/-!
Sweeps: the sizes that an experiment measures.  They are listed, or generated by doubling a base;
either way they are positive and strictly increasing.
-/

namespace SizeSweep

/-- How the sizes of a sweep are given. -/
structure Sweep where
  sizes : List UInt64 := []
  base : Option UInt64 := none
  steps : Option UInt32 := none
deriving DecidableEq

namespace Sweep

/-- The size `base * 2 ^ step`, if it fits in 64 bits. -/
def sizeAt (base : UInt64) (step : Nat) : Except PlanFault UInt64 :=
  if base.toNat <<< step < UInt64.size then .ok (.ofNat (base.toNat <<< step))
  else .error (.sweepOverflow base step)

/-- The sizes `base * 2 ^ i` for `i < steps`.  Of a positive base no size from step 64 on fits, so
the first 65 steps decide. -/
def geometric (base : UInt64) (steps : Nat) : Except PlanFault (List UInt64) :=
  if base = 0 then .error .zeroSize
  else (List.range (min steps 65)).mapM (sizeAt base)

/-- The first size that does not exceed the one before it, with that one. -/
def descent? : List UInt64 → Option (UInt64 × UInt64)
  | a :: b :: rest => if b ≤ a then some (a, b) else descent? (b :: rest)
  | _ => none

/-- Whether sizes can be swept: there are some, all positive, each larger than the last. -/
def check (sizes : List UInt64) : Except PlanFault Unit :=
  if sizes.isEmpty then .error .emptySweep
  else if sizes.contains 0 then .error .zeroSize
  else match descent? sizes with
    | some (previous, next) => .error (.notIncreasing previous next)
    | none => .ok ()

/-- The sizes that a sweep stands for, before they are checked. -/
def expand (sweep : Sweep) : Except PlanFault (List UInt64) :=
  match sweep.sizes, sweep.base, sweep.steps with
  | [], some base, some steps => geometric base steps.toNat
  | [], _, _ => .error .missingSweep
  | sizes, none, none => .ok sizes
  | _, _, _ => .error .ambiguousSweep

/-- The sizes to measure. -/
def resolve (sweep : Sweep) : Except PlanFault (List UInt64) := do
  let sizes ← sweep.expand
  check sizes
  return sizes

end Sweep

end SizeSweep
