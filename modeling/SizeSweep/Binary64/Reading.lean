import SizeSweep.Binary64.Basic

/-!
Numbers as texts are read.  A decimal numeral has an optional sign, digits with at most one point
among them, and an optional exponent; the words for infinity and for no number are read in any
case.  A numeral denotes `digits * 10 ^ scale`, and reading rounds that value once.  A size is
read from digits alone, with an optional plus sign.
-/

namespace SizeSweep

/-! ### Digits -/

def digitValue (c : Char) : Nat := c.toNat - '0'.toNat

/-- The value of a list of decimal digits read after the value `acc`. -/
def digitsValue (acc : Nat) (ds : List Char) : Nat :=
  ds.foldl (fun n c => 10 * n + digitValue c) acc

/-- The value of a non-empty text of decimal digits. -/
def natural? (cs : List Char) : Option Nat :=
  if cs.isEmpty || cs.any (! ·.isDigit) then none else some (digitsValue 0 cs)

/-- A size read from a text: decimal digits after an optional plus sign, below `2 ^ 64`. -/
def size? (text : String) : Option UInt64 :=
  let digits := match text.toList with
    | '+' :: rest => rest
    | cs => cs
  (natural? digits).bind fun n => if n < UInt64.size then some (.ofNat n) else none

namespace Binary64

/-! ### Decimal numerals -/

/-- The magnitude nearest to `digits * 10 ^ scale`.  `10 ^ 310` is beyond the largest finite
number and `10 ^ -330` below half of the smallest positive one, so the power of ten is only
computed between these. -/
def decimalMagnitude (digits : Nat) (scale : Int) : Nat :=
  let length := (Nat.toDigits 10 digits).length
  if digits = 0 then 0
  else if scale + length > 310 then infinityMagnitude
  else if scale + length < -330 then 0
  else roundUnits (digits * Nat.pow 10 scale.toNat * unitsPerOne) (Nat.pow 10 (-scale).toNat)

theorem decimalMagnitude_lt (digits : Nat) (scale : Int) :
    decimalMagnitude digits scale < 1 <<< 63 := by
  unfold decimalMagnitude
  dsimp only
  split
  · decide
  · split
    · decide
    · split
      · decide
      · exact roundUnits_lt _ _

/-- The number of the given sign nearest to `digits * 10 ^ scale`. -/
def ofDecimal (negative : Bool) (digits : Nat) (scale : Int) : Binary64 :=
  ⟨negative, decimalMagnitude digits scale, decimalMagnitude_lt digits scale⟩

/-- The sign in front of a numeral and what follows it. -/
def splitSign : List Char → Bool × List Char
  | '-' :: rest => (true, rest)
  | '+' :: rest => (false, rest)
  | cs => (false, cs)

/-- The exponent that ends a numeral: nothing, or the letter `e` and a signed number. -/
def exponent? : List Char → Option Int
  | [] => some 0
  | c :: rest =>
    if c = 'e' || c = 'E' then
      let (negative, digits) := splitSign rest
      (natural? digits).map fun n => if negative then -(n : Int) else n
    else none

/-- The value of an unsigned numeral as digits and the power of ten that scales them. -/
def numeral? (cs : List Char) : Option (Nat × Int) :=
  let whole := cs.takeWhile Char.isDigit
  let afterWhole := cs.dropWhile Char.isDigit
  let (fraction, rest) := match afterWhole with
    | '.' :: tail => (tail.takeWhile Char.isDigit, tail.dropWhile Char.isDigit)
    | _ => ([], afterWhole)
  if whole.isEmpty && fraction.isEmpty then none
  else (exponent? rest).map fun e =>
    (digitsValue 0 (whole ++ fraction), e - (fraction.length : Int))

def ofText? (text : String) : Option Binary64 :=
  let (negative, cs) := splitSign text.toList
  let word := String.ofList (cs.map Char.toLower)
  if word = "nan" then some { nan with negative }
  else if word = "inf" || word = "infinity" then some (infinity negative)
  else (numeral? cs).map fun (digits, scale) => ofDecimal negative digits scale

end Binary64

end SizeSweep
