import SizeSweep.Text.Utf8

/-!
Comma-separated records as bytes.  A record ends at a line feed or a carriage return, and empty
lines between records count for nothing.  A field that begins with a quote may hold commas and
line ends until its closing quote, a quote inside it being written twice.  Every byte list is a
list of records: text after a closing quote is kept, and an unclosed quote runs to the end.
-/

namespace SizeSweep.Csv

/-- A place in a byte list: how many bytes stand before it, and its line, counting line feeds
from 1. -/
structure Position where
  byte : Nat
  line : Nat
deriving DecidableEq

def Position.next (p : Position) (b : UInt8) : Position :=
  ⟨p.byte + 1, if b = 0x0A then p.line + 1 else p.line⟩

/-- A record: where reading of it began, right after the byte that ended the record before, and
its fields without their quotes. -/
structure Record where
  start : Position
  fields : List Bytes
deriving DecidableEq

/-- Where a reader stands in a record. -/
inductive Place where
  /-- Before the first byte of a record. -/
  | between
  | fieldStart
  | unquoted
  | quoted
  /-- Right after a quote inside quotes. -/
  | closing
deriving DecidableEq

/-- What a reader has of the record at hand: the finished fields, last one first, and the bytes of
the field at hand, last one first. -/
structure Pending where
  fields : List Bytes := []
  field : Bytes := []
deriving DecidableEq

/-- Adds a byte to the field at hand. -/
def Pending.push (p : Pending) (b : UInt8) : Pending := { p with field := b :: p.field }

def Pending.endField (p : Pending) : Pending := ⟨p.field.reverse :: p.fields, []⟩

/-- The fields of the record once its last field is finished. -/
def Pending.record (p : Pending) : List Bytes := p.endField.fields.reverse

/-- Whether a byte ends a record outside quotes. -/
def isLineEnd (b : UInt8) : Bool := b = 0x0A || b = 0x0D

def comma : UInt8 := 0x2C

def quote : UInt8 := 0x22

/-- What a byte does to a reader. -/
inductive Step where
  | goOn (place : Place) (pending : Pending)
  /-- The record ends with these fields. -/
  | finish (fields : List Bytes)

/-- What a byte outside quotes does once the field has begun. -/
def stepUnquoted (pending : Pending) (b : UInt8) : Step :=
  if b = comma then .goOn .fieldStart pending.endField
  else if isLineEnd b then .finish pending.record
  else .goOn .unquoted (pending.push b)

/-- What the next byte does. -/
def step (place : Place) (pending : Pending) (b : UInt8) : Step :=
  match place with
  | .between =>
    if isLineEnd b then .goOn .between pending
    else if b = quote then .goOn .quoted pending
    else stepUnquoted pending b
  | .fieldStart => if b = quote then .goOn .quoted pending else stepUnquoted pending b
  | .unquoted => stepUnquoted pending b
  | .quoted => if b = quote then .goOn .closing pending else .goOn .quoted (pending.push b)
  | .closing =>
    if b = quote then .goOn .quoted (pending.push b) else stepUnquoted pending b

/-- The records from a place on.  The record at hand began at `start`, and the next byte stands at
`here`. -/
def recordsFrom (place : Place) (pending : Pending) (start here : Position) :
    Bytes → List Record
  | [] => if place = .between then [] else [⟨start, pending.record⟩]
  | b :: rest =>
    match step place pending b with
    | .goOn place pending => recordsFrom place pending start (here.next b) rest
    | .finish fields =>
      ⟨start, fields⟩ :: recordsFrom .between {} (here.next b) (here.next b) rest

def byteOrderMark : Bytes := [0xEF, 0xBB, 0xBF]

/-- The records of a byte list, a byte order mark at its front left out. -/
def records (bs : Bytes) : List Record :=
  let origin : Position := ⟨0, 1⟩
  if byteOrderMark.isPrefixOf bs then recordsFrom .between {} origin ⟨3, 1⟩ (bs.drop 3)
  else recordsFrom .between {} origin origin bs

/-! ### Writing -/

/-- A record as a line: its fields as they are, commas between them, and a line feed. -/
def line (fields : List String) : Bytes :=
  Text.encode (String.intercalate "," fields ++ "\n")

end SizeSweep.Csv
