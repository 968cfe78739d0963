/-!
Texts as bytes.  A byte list is decoded character by character; where no character stands the
decoder stops, and it knows how many bytes were good.  A lenient reading puts one replacement
character for each maximal part that could have begun a character.
-/

namespace SizeSweep

/-- The content of a file. -/
abbrev Bytes := List UInt8

namespace Text

def encode (s : String) : Bytes := s.toList.flatMap String.utf8EncodeChar

/-- The character that the bytes begin with. -/
def frontChar? (bs : Bytes) : Option Char := (bs.take 4).toByteArray.utf8DecodeChar? 0

/-- The characters of a byte list from its `skip`-th byte on, or how many bytes are good before
the first fault, counted from `offset`. -/
def decodeFrom (offset skip : Nat) : Bytes → Except Nat (List Char)
  | [] => .ok []
  | b :: rest =>
    match skip with
    | skip + 1 => decodeFrom (offset + 1) skip rest
    | 0 => match frontChar? (b :: rest) with
      | none => .error offset
      | some c => (decodeFrom (offset + 1) (c.utf8Size - 1) rest).map (c :: ·)

/-- The text that the bytes encode, or the number of good bytes before the first fault. -/
def decode (bs : Bytes) : Except Nat String := (decodeFrom 0 0 bs).map String.ofList

/-- The bytes that separate words: tab, line feed, form feed, carriage return and space. -/
def isBlankByte (b : UInt8) : Bool := b = 0x20 || b = 0x09 || b = 0x0A || b = 0x0C || b = 0x0D

/-- A byte list without the blank bytes at its ends. -/
def trimBytes (bs : Bytes) : Bytes :=
  ((bs.dropWhile isBlankByte).reverse.dropWhile isBlankByte).reverse

/-! ### Lenient decoding -/

/-- How many continuation bytes a lead byte asks for, and the range of the first of them. -/
def leadByte? (b : UInt8) : Option (Nat × UInt8 × UInt8) :=
  if 0xC2 ≤ b && b ≤ 0xDF then some (1, 0x80, 0xBF)
  else if b = 0xE0 then some (2, 0xA0, 0xBF)
  else if b = 0xED then some (2, 0x80, 0x9F)
  else if 0xE1 ≤ b && b ≤ 0xEF then some (2, 0x80, 0xBF)
  else if b = 0xF0 then some (3, 0x90, 0xBF)
  else if 0xF1 ≤ b && b ≤ 0xF3 then some (3, 0x80, 0xBF)
  else if b = 0xF4 then some (3, 0x80, 0x8F)
  else none

/-- How many bytes at the front could have begun a character: the lead byte and the continuation
bytes that fit it, and at least one byte. -/
def faultLength : Bytes → Nat
  | [] => 0
  | b :: rest =>
    match leadByte? b with
    | none => 1
    | some (count, low, high) =>
      match rest with
      | [] => 1
      | next :: more =>
        if low ≤ next && next ≤ high then
          2 + ((more.take (count - 1)).takeWhile fun c => 0x80 ≤ c && c ≤ 0xBF).length
        else 1

/-- The characters of a byte list from its `skip`-th byte on, faulty parts replaced. -/
def lenientFrom (skip : Nat) : Bytes → List Char
  | [] => []
  | b :: rest =>
    match skip with
    | skip + 1 => lenientFrom skip rest
    | 0 => match frontChar? (b :: rest) with
      | some c => c :: lenientFrom (c.utf8Size - 1) rest
      | none => '\uFFFD' :: lenientFrom (faultLength (b :: rest) - 1) rest

/-- The text of the bytes with U+FFFD for every part that encodes no character. -/
def decodeLenient (bs : Bytes) : String := String.ofList (lenientFrom 0 bs)

end Text

end SizeSweep
