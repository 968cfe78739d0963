import SizeSweep.Binary64.Reading
import SizeSweep.Shell.Arithmetic
import SizeSweep.Text.Utf8

/-!
Formatted output of scripts: escapes in texts, and formats whose directives are filled with
arguments.
-/

namespace SizeSweep.Shell

def charBytes (c : Char) : Bytes := String.utf8EncodeChar c

def isOctal (c : Char) : Bool := '0' ≤ c && c ≤ '7'

def octalByte (digits : List Char) : UInt8 :=
  .ofNat (digits.foldl (fun n c => 8 * n + (c.toNat - 48)) 0)

/-- The byte that a letter after a backslash stands for. -/
def letterByte? (c : Char) : Option UInt8 :=
  [('a', 7), ('b', 8), ('f', 12), ('n', 10), ('r', 13), ('t', 9), ('v', 11), ('\\', 92)].lookup c

/-- What an escape stands for. -/
inductive Escape where
  | bytes (bytes : Bytes) (rest : List Char)
  | stop

/-- Reads an escape after its backslash.  The digits of an octal number follow a zero if
`leadingZero` is set. -/
def readEscape (leadingZero : Bool) : List Char → Escape
  | [] => .bytes [0x5C] []
  | c :: rest =>
    match letterByte? c with
    | some b => .bytes [b] rest
    | none =>
      if leadingZero && c = 'c' then .stop
      else if leadingZero && c = '0' then
        let digits := (rest.take 3).takeWhile isOctal
        .bytes [octalByte digits] (rest.drop digits.length)
      else if !leadingZero && isOctal c then
        let digits := ((c :: rest).take 3).takeWhile isOctal
        .bytes [octalByte digits] ((c :: rest).drop digits.length)
      else .bytes (0x5C :: charBytes c) rest

/-- A text with its escapes carried out, and whether they stop all output. -/
def unescape : Nat → List Char → Bytes × Bool
  | 0, _ => ([], false)
  | _, [] => ([], false)
  | fuel + 1, c :: rest =>
    if c = '\\' then
      match readEscape true rest with
      | .stop => ([], true)
      | .bytes bytes rest =>
        let (more, stopped) := unescape fuel rest
        (bytes ++ more, stopped)
    else
      let (more, stopped) := unescape fuel rest
      (charBytes c ++ more, stopped)

/-! ### Directives -/

/-- How a directive writes its argument. -/
structure Directive where
  flags : List Char
  width : Nat
  precision : Option Nat
  conversion : Char

/-- The number that digits stand for. -/
def decimal (digits : List Char) : Nat := digits.foldl (fun n c => 10 * n + (c.toNat - 48)) 0

/-- Reads a directive after its percent sign. -/
def readDirective (cs : List Char) : Option (Directive × List Char) :=
  let flags := cs.takeWhile "-+ #0".toList.contains
  let cs := cs.drop flags.length
  let width := cs.takeWhile Char.isDigit
  let cs := cs.drop width.length
  let (precision, cs) := match cs with
    | '.' :: rest =>
      let digits := rest.takeWhile Char.isDigit
      (some (decimal digits), rest.drop digits.length)
    | cs => (none, cs)
  match cs with
  | conversion :: rest => some (⟨flags, decimal width, precision, conversion⟩, rest)
  | [] => none

/-- Fills bytes up to the width of a directive. -/
def Directive.pad (d : Directive) (bytes : Bytes) : Bytes :=
  let fill := List.replicate (d.width - bytes.length) 0x20
  if d.flags.contains '-' then bytes ++ fill else fill ++ bytes

def digitsIn (base : Nat) (upper : Bool) (n : Nat) : List Char :=
  let digits := Nat.toDigits base n
  if upper then digits.map Char.toUpper else digits

/-- A number with its sign and enough zeros. -/
def Directive.signed (d : Directive) (negative : Bool) (digits : List Char) : Bytes :=
  let sign := if negative then ['-'] else if d.flags.contains '+' then ['+']
    else if d.flags.contains ' ' then [' '] else []
  let least := match d.precision with
    | some p => if d.conversion = 'f' then 0 else p
    | none => 0
  let zeroed := d.flags.contains '0' && !d.flags.contains '-' &&
    (d.precision.isNone || d.conversion = 'f')
  let wanted := if zeroed then d.width - sign.length else least
  let zeros := List.replicate (wanted - digits.length) '0'
  d.pad (Text.encode (String.ofList (sign ++ zeros ++ digits)))

/-- The digits of a number of finite value with some places after the point. -/
def fixed (x : Binary64) (places : Nat) : List Char :=
  let scaled := Binary64.roundQuotient (Binary64.units x.magnitude * Nat.pow 10 places)
    Binary64.unitsPerOne
  let digits := Nat.toDigits 10 scaled
  let padded := List.replicate (places + 1 - digits.length) '0' ++ digits
  let whole := padded.take (padded.length - places)
  if places = 0 then whole else whole ++ '.' :: padded.drop (padded.length - places)

/-- What a formatted output is made of. -/
structure Formatted where
  bytes : Bytes := []
  args : List String
  stopped : Bool := false
  /-- The arguments that are no numbers although they should be. -/
  refused : List String := []

/-- The integer of an argument: a number, or a character after a quote. -/
def argumentInteger (raw : String) : Int × Bool :=
  match raw.toList with
  | '\'' :: c :: _ | '"' :: c :: _ => (c.toNat, true)
  | _ =>
    match Arithmetic.integer? raw with
    | some n => (n.toInt, true)
    | none =>
      let (negative, cs) := match raw.toList with
        | '-' :: rest => (true, rest)
        | cs => (false, cs)
      let (n, _) := Arithmetic.leadingNumber cs
      (if negative then -n else n, false)

def Directive.write (d : Directive) (f : Formatted) : Formatted :=
  let raw := f.args.headD ""
  let f := { f with args := f.args.drop 1 }
  let cut (bytes : Bytes) : Bytes := match d.precision with
    | some p => bytes.take p
    | none => bytes
  let numeric (render : Int → Bytes) : Formatted :=
    let (n, good) := argumentInteger raw
    { f with bytes := f.bytes ++ render n, refused := f.refused ++ if good then [] else [raw] }
  let natural (base : Nat) (upper : Bool) : Formatted := numeric fun n =>
    let word := (if n < 0 then n + UInt64.size else n).toNat
    d.signed false (digitsIn base upper word)
  match d.conversion with
  | 's' => { f with bytes := f.bytes ++ d.pad (cut (Text.encode raw)) }
  | 'b' =>
    let (bytes, stopped) := unescape (raw.length + 1) raw.toList
    { f with bytes := f.bytes ++ d.pad (cut bytes), stopped }
  | 'c' => { f with bytes := f.bytes ++ d.pad ((Text.encode raw).take 1) }
  | 'd' | 'i' => numeric fun n => d.signed (n < 0) (digitsIn 10 false n.natAbs)
  | 'u' => natural 10 false
  | 'o' => natural 8 false
  | 'x' => natural 16 false
  | 'X' => natural 16 true
  | _ =>
    match if raw.isEmpty then some (.zero false) else Binary64.ofText? raw with
    | some x =>
      if x.isFinite then
        { f with bytes := f.bytes ++ d.signed x.negative (fixed x (d.precision.getD 6)) }
      else
        let word := if x.isNaN then "nan" else "inf"
        let signed := if x.negative then "-" ++ word else word
        { f with bytes := f.bytes ++ d.pad (Text.encode signed) }
    | none =>
      { f with
        bytes := f.bytes ++ d.signed false (fixed (.zero false) (d.precision.getD 6))
        refused := f.refused ++ [raw] }

def formatOnce : Nat → List Char → Formatted → Formatted
  | 0, _, f => f
  | _, [], f => f
  | fuel + 1, c :: rest, f =>
    if f.stopped then f
    else if c = '\\' then
      match readEscape false rest with
      | .stop => { f with stopped := true }
      | .bytes bytes rest => formatOnce fuel rest { f with bytes := f.bytes ++ bytes }
    else if c = '%' then
      match readDirective rest with
      | none => { f with bytes := f.bytes ++ [0x25] }
      | some (d, rest) =>
        if d.conversion = '%' then formatOnce fuel rest { f with bytes := f.bytes ++ [0x25] }
        else formatOnce fuel rest (d.write f)
    else formatOnce fuel rest { f with bytes := f.bytes ++ charBytes c }

/-- Writes a format as often as it takes to use up the arguments, and at least once. -/
def formatAll (format : List Char) : Nat → Formatted → Formatted
  | 0, f => f
  | fuel + 1, f =>
    let count := f.args.length
    let f := formatOnce (format.length + 1) format f
    if f.stopped || f.args.isEmpty || f.args.length = count then f else formatAll format fuel f

def format (format : String) (args : List String) : Formatted :=
  formatAll format.toList (args.length + 1) { args }

end SizeSweep.Shell
