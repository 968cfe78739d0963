import SizeSweep.Binary64.Printing
import SizeSweep.Binary64.Reading
import SizeSweep.Text.Quoted
import SizeSweep.Yaml.Node

/-!
What a scalar means.  An unquoted text may be null, a truth value, an integer in one of four bases,
or a finite number; every other text means itself.  A tag of the standard types says which of these
to expect.
-/

namespace SizeSweep.Yaml

inductive Meaning where
  | null
  | boolean (value : Bool)
  | integer (value : Int)
  | number (value : Binary64)
  | text (value : String)

namespace Meaning

def isNull (text : String) : Bool := ["null", "Null", "NULL", "~"].contains text

def boolean? (text : String) : Option Bool :=
  if ["true", "True", "TRUE"].contains text then some true
  else if ["false", "False", "FALSE"].contains text then some false
  else none

/-! ### Integers -/

/-- The value of a digit in a base up to 16. -/
def digit? (base : Nat) (c : Char) : Option Nat :=
  (Scalar.hexDigit? c).filter (· < base)

def digits? (base : Nat) (cs : List Char) : Option Nat :=
  if cs.isEmpty then none
  else (cs.mapM (digit? base)).map fun ds => ds.foldl (fun n d => base * n + d) 0

/-- Whether a text is a number of digits that begins with a needless zero. -/
def hasLeadingZero (cs : List Char) : Bool :=
  let digits := match cs with
    | '-' :: rest | '+' :: rest => rest
    | cs => cs
  match digits with
  | '0' :: c :: rest => (c :: rest).all Char.isDigit
  | _ => false

/-- The value of an unsigned integer: digits with the mark of their base, or decimal digits. -/
def magnitude? : List Char → Option Nat
  | '0' :: 'x' :: rest => digits? 16 rest
  | '0' :: 'o' :: rest => digits? 8 rest
  | '0' :: 'b' :: rest => digits? 2 rest
  | cs => if hasLeadingZero cs then none else digits? 10 cs

/-- The value of a non-negative integer, perhaps with a plus sign. -/
def natural? : List Char → Option Nat
  | '+' :: rest => magnitude? rest
  | cs => magnitude? cs

/-- The value of an integer between `-2 ^ 127` and below `2 ^ 128`. -/
def integer? (cs : List Char) : Option Int :=
  match cs with
  | '-' :: rest => (magnitude? rest).bind fun n => if n ≤ 1 <<< 127 then some (-(n : Int)) else none
  | _ => (natural? cs).bind fun n => if n < 1 <<< 128 then some (n : Int) else none

/-! ### Numbers -/

/-- The value of a number with a point or an exponent, or of a word for infinity or for no
number. -/
def number? (text : String) : Option Binary64 :=
  let unsigned := match text.toList with
    | '+' :: rest => rest
    | cs => cs
  let word := String.ofList unsigned
  if [".inf", ".Inf", ".INF"].contains word then some (.infinity false)
  else if ["-.inf", "-.Inf", "-.INF"].contains text then some (.infinity true)
  else if [".nan", ".NaN", ".NAN"].contains text then some .nan
  else if text.startsWith "+" && (word.startsWith "+" || word.startsWith "-") then none
  else (Binary64.ofText? word).filter Binary64.isFinite

/-! ### Scalars -/

/-- The meaning of an unquoted scalar without a tag. -/
def ofPlain (raw : String) : Meaning :=
  if raw.isEmpty || isNull raw then null
  else match boolean? raw, integer? raw.toList with
    | some b, _ => boolean b
    | none, some n => integer n
    | none, none =>
      if hasLeadingZero raw.toList then text raw
      else match number? raw with
        | some x => number x
        | none => text raw

/-- The standard types that a tag can name. -/
inductive Standard where
  | boolean
  | integer
  | number
  | null
deriving DecidableEq

/-- The standard types by their tags. -/
def Standard.tags : List (String × Standard) :=
  [("tag:yaml.org,2002:bool", boolean), ("tag:yaml.org,2002:int", integer),
   ("tag:yaml.org,2002:float", number), ("tag:yaml.org,2002:null", null)]

def Standard.ofTag? (tag : Bytes) : Option Standard :=
  (tags.find? fun (name, _) => Text.encode name = tag).map Prod.snd

/-- Whether a tag is a local one, which begins with an exclamation mark. -/
def isLocalTag (tag : Bytes) : Bool := tag.head? = some 0x21

/-- The name in a local tag: what follows the mark, or the mark itself where nothing does.  A tag
that is no text has none. -/
def localName? (tag : Bytes) : Option String :=
  if isLocalTag tag then (Text.decode (if tag.length = 1 then tag else tag.drop 1)).toOption
  else none

def Standard.description : Standard → String
  | boolean => "a boolean"
  | integer => "an integer"
  | number => "a float"
  | null => "null"

/-- The meaning of a text as one of a standard type. -/
def ofStandard? (standard : Standard) (raw : String) : Option Meaning :=
  match standard with
  | .boolean => (boolean? raw).map boolean
  | .integer => (integer? raw.toList).map integer
  | .number => (number? raw).map number
  | .null => if isNull raw then some null else none

/-- The meaning of a scalar, or the standard type that its tag names in vain. -/
def ofScalar (raw : String) (style : ScalarStyle) (tag : Option Bytes) :
    Except Standard Meaning :=
  match tag with
  | none => .ok (if style = .plain then ofPlain raw else text raw)
  | some tag =>
    match Standard.ofTag? tag with
    | some standard => match ofStandard? standard raw with
      | some meaning => .ok meaning
      | none => .error standard
    | none => .ok (if isLocalTag tag && style = .plain then ofPlain raw else text raw)

/-- How a message names what was found. -/
def description : Meaning → String
  | null => "unit value"
  | boolean b => s!"boolean `{b}`"
  | integer n =>
    if n < Int64.minValue.toInt then s!"integer `{n}` as i128"
    else if n < UInt64.size then s!"integer `{n}`"
    else s!"integer `{n}` as u128"
  | number x => s!"floating point `{Binary64.pointed.render x}`"
  | text s => s!"string {Text.quoted s}"

end Meaning

end SizeSweep.Yaml
