import SizeSweep.Yaml.Fault

/-!
A place in a text, with the line and the column it stands in, and the characters that matter to
the reader of a YAML text.
-/

namespace SizeSweep.Yaml

/-- A place in a text. -/
structure Cursor where
  rest : List Char
  /-- How many bytes stand before. -/
  index : Nat := 0
  line : Nat := 0
  column : Nat := 0

/-- A step of reading: what was read, and where reading goes on. -/
abbrev Read (α : Type) := StateT Cursor (Except Fault) α

/-! ### Characters -/

def isBreak (c : Char) : Bool :=
  c = '\n' || c = '\r' || c = '\x85' || c = '\u2028' || c = '\u2029'

/-- Whether a character is a blank: a space or a tab. -/
def isBlank (c : Char) : Bool := c = ' ' || c = '\t'

/-- Whether a character may stand in a name: an ASCII letter or digit, `-` or `_`. -/
def isWordChar (c : Char) : Bool := c.isAlphanum || c = '-' || c = '_'

def isAllowed (c : Char) : Bool :=
  let n := c.toNat
  n = 0x09 || n = 0x0A || n = 0x0D || n = 0x85 || 0x20 ≤ n && n ≤ 0x7E ||
    0xA0 ≤ n && n ≤ 0xFFFD || 0x10000 ≤ n

/-- The mark of the order of bytes, which may stand in front of a line. -/
def byteOrderMark : Char := '\ufeff'

/-- How many bytes some characters take. -/
def byteCount (cs : List Char) : Nat := cs.foldl (fun n c => n + c.utf8Size) 0

namespace Cursor

def ofText (text : String) : Cursor := { rest := text.toList }

/-- The character `k` places on. -/
def look? (c : Cursor) (k : Nat) : Option Char := c.rest[k]?

def has (c : Cursor) (k : Nat) (x : Char) : Bool := c.look? k = some x

def hasOneOf (c : Cursor) (k : Nat) (xs : List Char) : Bool := (c.look? k).any xs.contains

def atEnd (c : Cursor) : Bool := c.rest.isEmpty

def atBlank (c : Cursor) : Bool := (c.look? 0).any isBlank

def breakAt (c : Cursor) (k : Nat) : Bool := (c.look? k).any isBreak

def lineEnds (c : Cursor) : Bool := c.atEnd || c.breakAt 0

/-- Whether a blank, a line break or the end of the text stands `k` places on. -/
def gapAt (c : Cursor) (k : Nat) : Bool :=
  match c.look? k with
  | none => true
  | some x => isBlank x || isBreak x

/-- The place `n` characters on in the same line. -/
def advance (c : Cursor) (n : Nat) : Cursor :=
  { c with
    rest := c.rest.drop n
    index := c.index + byteCount (c.rest.take n)
    column := c.column + n }

/-- The place after all characters from here on that satisfy `p`, in the same line. -/
def skipWhile (c : Cursor) (p : Char → Bool) : Cursor := c.advance (c.rest.takeWhile p).length

/-- The place after a line break, if one stands here, and what it counts as in a scalar: a line
feed, except for the separators of Unicode, which stand for themselves. -/
def lineBreak (c : Cursor) : List Char × Cursor :=
  let next (kept : Char) (n : Nat) : List Char × Cursor :=
    ([kept], { c.advance n with line := c.line + 1, column := 0 })
  match c.rest with
  | '\r' :: '\n' :: _ => next '\n' 2
  | x :: _ =>
    if x = '\u2028' || x = '\u2029' then next x 1
    else if isBreak x then next '\n' 1
    else ([], c)
  | [] => ([], c)

/-- The place after a line break, if one stands here. -/
def skipLine (c : Cursor) : Cursor := c.lineBreak.2

/-- Whether three characters that mark the bounds of a document stand alone at the beginning of
the line. -/
def atMark (c : Cursor) (x : Char) : Bool :=
  c.column = 0 && c.has 0 x && c.has 1 x && c.has 2 x && c.gapAt 3

def atDocumentMark (c : Cursor) : Bool := c.atMark '-' || c.atMark '.'

end Cursor

namespace Read

def fail {α : Type} (activity : Option Activity) (problem : Problem) : Read α :=
  throw ⟨problem, activity⟩

/-- Moves on by some characters of the line. -/
def advance (n : Nat) : Read Unit := modify (·.advance n)

/-- Reads the characters from here on that satisfy `p`. -/
def takeWhile (p : Char → Bool) : Read (List Char) := do
  let c ← get
  let taken := c.rest.takeWhile p
  set (c.advance taken.length)
  return taken

/-- Reads a line break, if one stands here. -/
def lineBreak : Read (List Char) := do
  let (kept, c) := (← get).lineBreak
  set c
  return kept

/-- Reads blanks and a comment up to the end of the line, and the line break, if there is one. -/
def restOfLine (activity : Activity) : Read Unit := do
  modify (·.skipWhile isBlank)
  if (← get).has 0 '#' then modify (·.skipWhile (! isBreak ·))
  unless (← get).lineEnds do fail (some activity) .lineContinues
  modify Cursor.skipLine

end Read

end SizeSweep.Yaml
