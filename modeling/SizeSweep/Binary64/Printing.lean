import SizeSweep.Binary64.Basic

/-!
Numbers as texts are written.  The digits are the fewest that read back as the same number, the
nearest to it among those.  A `Layout` then says which numbers are written positionally and
whether a whole number keeps a point.
-/

namespace SizeSweep

namespace Binary64

/-! ### Shortest digits -/

/-- Digits and the power of ten that scales them. -/
structure Decimal where
  digits : Nat
  scale : Int
deriving DecidableEq

/-- Whether `digits * 10 ^ scale` rounds to the magnitude: it lies between the midpoints to the
neighbouring magnitudes, a midpoint itself going to an even magnitude. -/
def Decimal.roundsTo (d : Decimal) (magnitude : Nat) : Bool :=
  let value := 2 * d.digits * Nat.pow 10 d.scale.toNat * unitsPerOne
  let unit := Nat.pow 10 (-d.scale).toNat
  let low := (units (magnitude - 1) + units magnitude) * unit
  let high := (units magnitude + units (magnitude + 1)) * unit
  if magnitude % 2 = 0 then low ≤ value && value ≤ high
  else low < value && value < high

/-- The decimal exponent of a positive magnitude: the largest `e` with `10 ^ e` at most its
value.  The number of decimal digits of the value, or of its reciprocal, gives it. -/
def decimalExponent (magnitude : Nat) : Int :=
  let value := units magnitude
  if unitsPerOne ≤ value then ((Nat.toDigits 10 (value / unitsPerOne)).length : Int) - 1
  else -((Nat.toDigits 10 ((unitsPerOne - 1) / value)).length : Int)

/-- The decimal with the given scale just below the value of a magnitude, or equal to it. -/
def Decimal.below (magnitude : Nat) (scale : Int) : Decimal :=
  ⟨units magnitude * Nat.pow 10 (-scale).toNat / (unitsPerOne * Nat.pow 10 scale.toNat), scale⟩

/-- Whether the upper neighbour of `below` on its grid is at least as near to the value of the
magnitude as `below` itself. -/
def Decimal.upperNearer (below : Decimal) (magnitude : Nat) : Bool :=
  2 * units magnitude * Nat.pow 10 (-below.scale).toNat ≥
    (2 * below.digits + 1) * unitsPerOne * Nat.pow 10 below.scale.toNat

/-- The decimal of the given scale that rounds to the magnitude and is nearest to its value, the
upper one of two equally near. -/
def Decimal.onGrid? (magnitude : Nat) (scale : Int) : Option Decimal :=
  let below := Decimal.below magnitude scale
  let above : Decimal := ⟨below.digits + 1, scale⟩
  match below.roundsTo magnitude, above.roundsTo magnitude with
  | true, true => some (if below.upperNearer magnitude then above else below)
  | true, false => some below
  | false, true => some above
  | false, false => none

/-- The shortest decimal that rounds to a positive magnitude: the first hit on the grids of one
digit, two digits and so on.  Seventeen digits always suffice. -/
def Decimal.shortest (magnitude : Nat) : Decimal :=
  let top := decimalExponent magnitude
  ((List.range 17).findSome? fun (n : Nat) => Decimal.onGrid? magnitude (top - n)).getD
    (Decimal.below magnitude (top - 16))

/-! ### Layout -/

structure Layout where
  /-- Which exponents, of the form `d.ddd * 10 ^ e`, are written positionally. -/
  positional : Int → Bool
  /-- Whether a whole number is followed by `.0`. -/
  keepsPoint : Bool

def dropTrailingZeros (ds : List Char) : List Char :=
  (ds.reverse.dropWhile (· = '0')).reverse

/-- The text of the digits `d.ddd * 10 ^ exponent`. -/
def Layout.place (layout : Layout) (digits : List Char) (exponent : Int) : List Char :=
  if layout.positional exponent then
    if exponent < 0 then
      '0' :: '.' :: List.replicate ((-exponent).toNat - 1) '0' ++ digits
    else
      let count := exponent.toNat + 1
      let whole := digits.take count ++ List.replicate (count - digits.length) '0'
      match digits.drop count with
      | [] => if layout.keepsPoint then whole ++ ['.', '0'] else whole
      | fraction => whole ++ '.' :: fraction
  else
    let tail := 'e' :: (toString exponent).toList
    match digits with
    | first :: next :: rest => first :: '.' :: next :: rest ++ tail
    | ds => ds ++ tail

/-- The text of a magnitude without its sign. -/
def Layout.magnitudeText (layout : Layout) (magnitude : Nat) : List Char :=
  if magnitude = 0 then layout.place ['0'] 0
  else
    let d := Decimal.shortest magnitude
    let all := Nat.toDigits 10 d.digits
    layout.place (dropTrailingZeros all) (d.scale + all.length - 1)

def Layout.render (layout : Layout) (x : Binary64) : String :=
  if x.isNaN then "NaN"
  else
    let sign := if x.negative then ['-'] else []
    let body := if x.isInfinite then "inf".toList else layout.magnitudeText x.magnitude
    String.ofList (sign ++ body)

/-- Measured values: positional from `0.0001` to below `10 ^ 16`, and always with a point there. -/
def measured : Layout := ⟨fun e => -4 ≤ e && e < 16, true⟩

/-- All digits written out, always with a point. -/
def pointed : Layout := ⟨fun _ => true, true⟩

/-- All digits written out, and a point only before a fraction. -/
def plain : Layout := ⟨fun _ => true, false⟩

/-- The text of a measured value. -/
def text (x : Binary64) : String := measured.render x

end Binary64

end SizeSweep
