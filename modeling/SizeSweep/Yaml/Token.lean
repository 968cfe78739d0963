import SizeSweep.Text.Utf8
import SizeSweep.Yaml.Scalar

/-!
The tokens of a YAML text, and the readers of those that hold a name: anchors, aliases, tags and
directives.
-/

namespace SizeSweep.Yaml

/-- A token.  Those without a written form of their own mark where block collections begin and end
and where a key begins. -/
inductive Token where
  | version (major minor : Nat)
  | handle (name : String) (uri : Bytes)
  | documentStart
  | documentEnd
  | blockSequenceStart
  | blockMappingStart
  | blockEnd
  | flowSequenceStart
  | flowSequenceEnd
  | flowMappingStart
  | flowMappingEnd
  | blockEntry
  | flowEntry
  | key
  | value
  | reference (name : String)
  | anchor (name : String)
  | tag (handle : String) (suffix : Bytes)
  | scalar (text : String) (style : ScalarStyle)
  | streamEnd
deriving DecidableEq

namespace Token

/-! ### Anchors and aliases -/

/-- Reads an anchor or an alias after its indicator. -/
def anchorName (activity : Activity) : Read String := do
  Read.advance 1
  let name ← Read.takeWhile isWordChar
  let c ← get
  if name.isEmpty || !(c.gapAt 0 || c.hasOneOf 0 ['?', ':', ',', ']', '\x7d', '%', '@', '\x60'])
  then Read.fail (some activity) .noAnchorName
  return String.ofList name

/-! ### Tags -/

/-- Whether a character may stand in the address of a tag; inside `<` and `>` the flow indicators
may. -/
def isUriChar (verbatim : Bool) (c : Char) : Bool :=
  isWordChar c || ";/?:@&=+$.!~*'()".contains c || verbatim && ",[]".contains c

/-- How many bytes a character takes whose first one is given, if a character can begin so. -/
def characterWidth? (octet : UInt8) : Option Nat :=
  if octet < 0x80 then some 1
  else if octet < 0xC0 then none
  else if octet < 0xE0 then some 2
  else if octet < 0xF0 then some 3
  else if octet < 0xF8 then some 4
  else none

/-- Reads a byte written as `%` and two hexadecimal digits. -/
def escapedOctet (activity : Activity) : Read UInt8 := do
  match (← get).rest with
  | '%' :: a :: b :: _ =>
    match Scalar.hexDigit? a, Scalar.hexDigit? b with
    | some m, some n =>
      Read.advance 3
      return .ofNat (16 * m + n)
    | _, _ => Read.fail (some activity) .badEscapedOctet
  | _ => Read.fail (some activity) .badEscapedOctet

/-- Reads the bytes of a character after its first one. -/
def trailingOctets (activity : Activity) : Nat → Read Bytes
  | 0 => return []
  | n + 1 => do
    let octet ← escapedOctet activity
    if octet < 0x80 || 0xC0 ≤ octet then Read.fail (some activity) .badTrailingOctet
    return octet :: (← trailingOctets activity n)

/-- Reads a character whose bytes are written in hexadecimal digits. -/
def escapedCharacter (activity : Activity) : Read Bytes := do
  let octet ← escapedOctet activity
  match characterWidth? octet with
  | none => Read.fail (some activity) .badLeadingOctet
  | some width => return octet :: (← trailingOctets activity (width - 1))

/-- Reads the characters of an address, each as its bytes. -/
def uriChars (activity : Activity) (verbatim : Bool) : Nat → Read (List Bytes)
  | 0 => return []
  | fuel + 1 => do
    match (← get).look? 0 with
    | none => return []
    | some x =>
      if x = '%' then
        let bytes ← escapedCharacter activity
        return bytes :: (← uriChars activity verbatim fuel)
      else if isUriChar verbatim x then
        Read.advance 1
        return Text.encode (String.singleton x) :: (← uriChars activity verbatim fuel)
      else return []

/-- Reads an address that begins with `head`, which must not be empty as a whole.  It ends before
a zero byte. -/
def uri (activity : Activity) (verbatim : Bool) (head : List Char) : Read Bytes := do
  let more ← uriChars activity verbatim (← get).rest.length
  if head.isEmpty && more.isEmpty then Read.fail (some activity) .noUri
  return (Text.encode (String.ofList (head.drop 1)) ++ more.flatten).takeWhile (· ≠ 0)

/-- Reads a tag handle: `!`, or a name between two of them. -/
def tagHandle (inDirective : Bool) : Read (List Char) := do
  unless (← get).has 0 '!' do
    Read.fail (some (if inDirective then .tagDirectiveHandle else .tag)) .noHandleStart
  Read.advance 1
  let name ← Read.takeWhile isWordChar
  if (← get).has 0 '!' then
    Read.advance 1
    return '!' :: name ++ ['!']
  else if inDirective && !name.isEmpty then
    Read.fail (some .tagDirectiveHandleEnd) .noHandleEnd
  else return '!' :: name

def tagName (inFlow : Bool) : Read Token := do
  let token ← do
    if (← get).has 1 '<' then
      Read.advance 2
      let suffix ← uri .tagValue true []
      unless (← get).has 0 '>' do Read.fail (some .tag) .noVerbatimEnd
      Read.advance 1
      pure (tag "" suffix)
    else
      let handle ← tagHandle false
      if 1 < handle.length && handle.getLast? = some '!' then
        let suffix ← uri .tagValue false []
        pure (tag (String.ofList handle) suffix)
      else
        let suffix ← uri .tagValue false handle
        pure (if suffix.isEmpty then tag "" (Text.encode "!") else tag "!" suffix)
  let c ← get
  unless c.gapAt 0 || inFlow && c.has 0 ',' do Read.fail (some .tag) .noSpaceOrLineBreak
  return token

/-! ### Directives -/

def versionNumber : Read Nat := do
  let digits ← Read.takeWhile Char.isDigit
  if digits.isEmpty then Read.fail (some .versionDirective) .noVersionNumber
  if 9 < digits.length then Read.fail (some .versionDirective) .longVersionNumber
  return digits.foldl (fun n d => 10 * n + (d.toNat - '0'.toNat)) 0

def directive : Read Token := do
  Read.advance 1
  let name ← Read.takeWhile isWordChar
  if name.isEmpty then Read.fail (some .directive) .noDirectiveName
  unless (← get).gapAt 0 do Read.fail (some .directive) .directiveNameEnd
  let token ← do
    if name = "YAML".toList then
      modify (·.skipWhile isBlank)
      let major ← versionNumber
      unless (← get).has 0 '.' do Read.fail (some .versionDirective) .noVersionPoint
      Read.advance 1
      let minor ← versionNumber
      pure (version major minor)
    else if name = "TAG".toList then
      modify (·.skipWhile isBlank)
      let name ← tagHandle true
      unless (← get).atBlank do Read.fail (some .tagDirective) .noSpace
      modify (·.skipWhile isBlank)
      let address ← uri .tagDirectiveValue true []
      unless (← get).gapAt 0 do Read.fail (some .tagDirective) .noSpaceOrLineBreak
      pure (handle (String.ofList name) address)
    else Read.fail (some .directive) .unknownDirective
  Read.restOfLine .directive
  return token

end Token

end SizeSweep.Yaml
