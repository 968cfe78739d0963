/-!
Double precision numbers as data.  A number is its sign and its *magnitude*, the other 63 bits
read as a natural number, so that among non-negative numbers the order of the values is the order
of the magnitudes.  Every finite value is a whole number of *units* of `2 ^ -1074`; an operation
computes the exact result as a fraction of units and rounds once, to the nearest magnitude with
ties to the even one.
-/

namespace SizeSweep

/-- A double precision number: its sign bit and the value of its other 63 bits. -/
structure Binary64 where
  negative : Bool
  magnitude : Nat
  magnitude_lt : magnitude < 1 <<< 63
deriving DecidableEq

namespace Binary64

/-! ### Classes of numbers -/

/-- How many magnitudes share an exponent, which is also the leading bit of a significand. -/
def leadingBit : Nat := 1 <<< 52

/-- The magnitude of the infinities; larger magnitudes are not numbers. -/
def infinityMagnitude : Nat := 2047 * leadingBit

/-- The canonical not-a-number. -/
def nan : Binary64 := ⟨false, infinityMagnitude + 1 <<< 51, by decide⟩

def zero (negative : Bool) : Binary64 := ⟨negative, 0, by decide⟩

def infinity (negative : Bool) : Binary64 := ⟨negative, infinityMagnitude, by decide⟩

instance : Inhabited Binary64 := ⟨zero false⟩

def negate (x : Binary64) : Binary64 := { x with negative := !x.negative }

def isNaN (x : Binary64) : Bool := infinityMagnitude < x.magnitude

def isInfinite (x : Binary64) : Bool := x.magnitude = infinityMagnitude

def isFinite (x : Binary64) : Bool := x.magnitude < infinityMagnitude

def isZero (x : Binary64) : Bool := x.magnitude = 0

/-! ### Values and rounding -/

/-- One, counted in units of `2 ^ -1074`. -/
def unitsPerOne : Nat := 1 <<< 1074

/-- The value of a magnitude in units.  Its upper bits are the exponent field `e` and its lower
52 bits the fraction: `e = 0` holds the subnormal numbers, and `e + 1` scales by `2 ^ e`. -/
def units (magnitude : Nat) : Nat :=
  if magnitude < leadingBit then magnitude
  else (leadingBit + magnitude % leadingBit) <<< (magnitude / leadingBit - 1)

/-- The quotient of two natural numbers rounded to the nearest one, a half going to the even
neighbour. -/
def roundQuotient (num den : Nat) : Nat :=
  let q := num / den
  let r := 2 * (num % den)
  if r < den then q
  else if den < r then q + 1
  else q + q % 2

/-- The magnitude nearest to `num / den` units.  With `s` the number of binary places beyond 53
in the whole part, the rounded significand `m` stands for `m * 2 ^ s` units, whose magnitude is
`s * 2 ^ 52 + m`; a carry out of `m` runs into the exponent field as it should. -/
def roundUnits (num den : Nat) : Nat :=
  let s := (num / den).log2 - 52
  min infinityMagnitude (s * leadingBit + roundQuotient num (den <<< s))

theorem roundUnits_lt (num den : Nat) : roundUnits num den < 1 <<< 63 :=
  Nat.lt_of_le_of_lt (Nat.min_le_left _ _) (by decide)

/-- The number of the given sign nearest to `num / den` units. -/
def ofUnits (negative : Bool) (num den : Nat) : Binary64 :=
  ⟨negative, roundUnits num den, roundUnits_lt num den⟩

/-- The number nearest to a natural number. -/
def ofNat (n : Nat) : Binary64 := ofUnits false (n * unitsPerOne) 1

/-! ### Arithmetic -/

/-- The value of a finite number in units, with its sign. -/
def signedUnits (x : Binary64) : Int :=
  if x.negative then -(units x.magnitude : Int) else units x.magnitude

/-- The sum, rounded once.  An exact zero is negative only if both terms are. -/
def add (x y : Binary64) : Binary64 :=
  if x.isNaN || y.isNaN then nan
  else if x.isInfinite then
    if y.isInfinite && x.negative != y.negative then nan else x
  else if y.isInfinite then y
  else
    let total := x.signedUnits + y.signedUnits
    if total = 0 then zero (x.negative && y.negative)
    else ofUnits (total < 0) total.natAbs 1

/-- The quotient, rounded once.  A non-zero number over zero is an infinity, and zero over zero
or infinity over infinity is no number. -/
def div (x y : Binary64) : Binary64 :=
  let negative := x.negative != y.negative
  if x.isNaN || y.isNaN then nan
  else if x.isInfinite then
    if y.isInfinite then nan else infinity negative
  else if y.isInfinite then zero negative
  else if y.isZero then
    if x.isZero then nan else infinity negative
  else ofUnits negative (units x.magnitude * unitsPerOne) (units y.magnitude)

instance : Add Binary64 := ⟨add⟩
instance : Div Binary64 := ⟨div⟩

/-! ### Total order -/

/-- The place of a number in the total order, in which a negative not-a-number comes first, then
negative infinity up to `-0.0`, then `0.0` up to positive infinity, and last the other
not-a-numbers. -/
def rank (x : Binary64) : Int :=
  if x.negative then -(x.magnitude : Int) - 1 else x.magnitude

def totalLE (x y : Binary64) : Bool := x.rank ≤ y.rank

end Binary64

end SizeSweep
