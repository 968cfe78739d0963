import SizeSweep.Yaml.Cursor

/-!
The written forms of scalars: plain, in single or double quotes, and as a block after `|` or `>`.
Each reader gives the text that the form stands for.
-/

namespace SizeSweep.Yaml

inductive ScalarStyle where
  | plain
  | singleQuoted
  | doubleQuoted
  | literal
  | folded
deriving DecidableEq

namespace Scalar

/-! ### Gaps between words -/

/-- Blanks and line breaks between two words of a scalar. -/
structure Gap where
  /-- Whether a line break was among them. -/
  broken : Bool := false
  /-- The blanks before the first line break. -/
  blanks : List Char := []
  /-- The first line break. -/
  first : List Char := []
  /-- The further line breaks. -/
  further : List Char := []

/-- What a gap counts as: a single line break as a space, more of them as all but the first, and
blanks within a line as themselves. -/
def Gap.text (gap : Gap) : List Char :=
  if gap.broken then
    if gap.first = ['\n'] then if gap.further.isEmpty then [' '] else gap.further
    else gap.first ++ gap.further
  else gap.blanks

/-- Reads a gap of at most `fuel` characters.  After a line break a tab may not stand in a column
below `indent`. -/
def gap (indent : Nat) : Nat → Gap → Read Gap
  | 0, g => return g
  | fuel + 1, g => do
    let c ← get
    match c.look? 0 with
    | none => return g
    | some x =>
      if isBlank x then
        if g.broken && c.column < indent && x = '\t' then
          Read.fail (some .plainScalar) .tabBelowIndentation
        else
          Read.advance 1
          gap indent fuel (if g.broken then g else { g with blanks := g.blanks ++ [x] })
      else if isBreak x then
        let kept ← Read.lineBreak
        gap indent fuel
          (if g.broken then { g with further := g.further ++ kept }
            else { g with broken := true, blanks := [], first := kept })
      else return g

/-! ### Plain scalars -/

/-- The characters that end a plain scalar inside brackets. -/
def flowIndicators : List Char := [',', '[', ']', '\x7b', '\x7d']

/-- Reads a word of a plain scalar: up to a gap or an indicator that ends the scalar. -/
def plainWord (inFlow : Bool) : Nat → Read (List Char)
  | 0 => return []
  | fuel + 1 => do
    let c ← get
    match c.look? 0 with
    | none => return []
    | some x =>
      if isBlank x || isBreak x then return []
      else if inFlow && x = ':' && c.hasOneOf 1 ('?' :: flowIndicators) then
        Read.fail (some .plainScalar) .colonOutOfPlace
      else if x = ':' && c.gapAt 1 || inFlow && flowIndicators.contains x then return []
      else
        Read.advance 1
        return x :: (← plainWord inFlow fuel)

/-- Reads the words of a plain scalar, given its text so far and the gap before the next word.
Gives the text, and whether reading stopped in a new line. -/
def plainWords (inFlow : Bool) (indent : Nat) : Nat → List Char → Gap → Read (List Char × Bool)
  | 0, text, g => return (text, g.broken)
  | fuel + 1, text, g => do
    let c ← get
    if c.atDocumentMark || c.has 0 '#' then return (text, g.broken)
    let word ← plainWord inFlow c.rest.length
    let (text, g) := if word.isEmpty then (text, g) else (text ++ g.text ++ word, {})
    let c ← get
    if c.atBlank || c.breakAt 0 then
      let g ← gap indent c.rest.length { broken := g.broken }
      if !inFlow && (← get).column < indent then return (text, g.broken)
      plainWords inFlow indent fuel text g
    else return (text, g.broken)

/-- Reads a plain scalar whose further lines stand at column `indent` or beyond. -/
def plain (inFlow : Bool) (indent : Nat) : Read (String × Bool) := do
  let (text, broken) ← plainWords inFlow indent ((← get).rest.length + 1) [] {}
  return (String.ofList text, broken)

/-! ### Quoted scalars -/

/-- The character that a letter after a backslash stands for. -/
def escapedChar? (x : Char) : Option Char :=
  [('0', '\x00'), ('a', '\x07'), ('b', '\x08'), ('t', '\t'), ('\t', '\t'), ('n', '\n'),
   ('v', '\x0b'), ('f', '\x0c'), ('r', '\r'), ('e', '\x1b'), (' ', ' '), ('"', '"'), ('/', '/'),
   ('\\', '\\'), ('N', '\x85'), ('_', '\xa0'), ('L', '\u2028'), ('P', '\u2029')].lookup x

/-- How many hexadecimal digits follow a letter after a backslash. -/
def escapeDigits? (x : Char) : Option Nat := [('x', 2), ('u', 4), ('U', 8)].lookup x

def hexDigit? (x : Char) : Option Nat :=
  if x.isDigit then some (x.toNat - '0'.toNat)
  else if 'a' ≤ x && x ≤ 'f' then some (x.toNat - 'a'.toNat + 10)
  else if 'A' ≤ x && x ≤ 'F' then some (x.toNat - 'A'.toNat + 10)
  else none

def escaped : Read Char := do
  let activity := some Activity.quotedScalarEscape
  match (← get).look? 1 with
  | none => Read.fail activity .unknownEscape
  | some x =>
    Read.advance 2
    match escapedChar? x, escapeDigits? x with
    | some y, _ => return y
    | none, none => Read.fail activity .unknownEscape
    | none, some count =>
      let digits := (← get).rest.take count
      match digits.mapM hexDigit? with
      | none => Read.fail activity .noHexDigit
      | some values =>
        let code := values.foldl (fun n d => 16 * n + d) 0
        if digits.length < count then Read.fail activity .noHexDigit
        else if h : code.isValidChar then
          Read.advance count
          return Char.ofNatAux code h
        else Read.fail activity .badCodePoint

/-- Reads a word inside quotes.  Gives its text, and whether an escaped line break ended it. -/
def quotedWord (single : Bool) : Nat → Read (List Char × Bool)
  | 0 => return ([], false)
  | fuel + 1 => do
    let c ← get
    let goOn (x : Char) : Read (List Char × Bool) := do
      let (word, broken) ← quotedWord single fuel
      return (x :: word, broken)
    match c.look? 0 with
    | none => return ([], false)
    | some x =>
      if isBlank x || isBreak x then return ([], false)
      else if single && x = '\'' && c.has 1 '\'' then
        Read.advance 2
        goOn x
      else if x = if single then '\'' else '"' then return ([], false)
      else if !single && x = '\\' then
        if c.breakAt 1 then
          Read.advance 1
          discard Read.lineBreak
          return ([], true)
        else goOn (← escaped)
      else
        Read.advance 1
        goOn x

/-- Reads the words inside quotes up to the closing quote. -/
def quotedWords (single : Bool) : Nat → List Char → Read (List Char)
  | 0, text => return text
  | fuel + 1, text => do
    let c ← get
    if c.atDocumentMark then Read.fail (some .quotedScalar) .documentMark
    if c.atEnd then Read.fail (some .quotedScalar) .unclosedQuote
    let (word, broken) ← quotedWord single c.rest.length
    let c ← get
    if c.has 0 (if single then '\'' else '"') then
      Read.advance 1
      return text ++ word
    let g ← gap 0 c.rest.length { broken }
    quotedWords single fuel (text ++ word ++ g.text)

def quoted (single : Bool) : Read String := do
  Read.advance 1
  return String.ofList (← quotedWords single ((← get).rest.length + 1) [])

/-! ### Block scalars -/

/-- What happens to the line breaks at the end of a block scalar. -/
inductive Chomping where
  | strip
  | clip
  | keep
deriving DecidableEq

def chomping? : Read (Option Chomping) := do
  let c ← get
  if c.has 0 '+' then
    Read.advance 1
    return some .keep
  else if c.has 0 '-' then
    Read.advance 1
    return some .strip
  else return none

def indentation? : Read (Option Nat) := do
  match (← get).look? 0 with
  | some x =>
    if x = '0' then Read.fail (some .blockScalar) .zeroIndentation
    else if x.isDigit then
      Read.advance 1
      return some (x.toNat - '0'.toNat)
    else return none
  | none => return none

/-- Reads the indentation and empty lines before a line of a block scalar, at most `fuel` lines.
Without a known indentation it is found here: `deepest` is the deepest column so far, and
`outer + 1` the least.  Gives the line breaks and the indentation. -/
def blockBreaks (outer : Int) (indent : Option Nat) :
    Nat → Nat → List Char → Read (List Char × Nat)
  | 0, _, breaks => return (breaks, indent.getD 1)
  | fuel + 1, deepest, breaks => do
    let inIndent (column : Nat) : Bool := indent.all (column < ·)
    let c ← get
    let spaces := c.rest.takeWhile (· = ' ')
    let count := match indent with
      | none => spaces.length
      | some n => min spaces.length (n - c.column)
    Read.advance count
    let c ← get
    let deepest := max deepest c.column
    if inIndent c.column && c.has 0 '\t' then Read.fail (some .blockScalar) .tabAsIndentation
    if c.breakAt 0 then
      let kept ← Read.lineBreak
      blockBreaks outer indent fuel deepest (breaks ++ kept)
    else return (breaks, indent.getD (max (max deepest (outer + 1).toNat) 1))

/-- Reads the lines of a block scalar: the text so far, the break after its last line, whether that
line began with a blank, and the empty lines since.  Gives the text, the last break and the empty
lines after it. -/
def blockLines (isFolded : Bool) (outer : Int) (indent : Nat) :
    Nat → List Char → List Char → Bool → List Char → Read (List Char × List Char × List Char)
  | 0, text, last, _, breaks => return (text, last, breaks)
  | fuel + 1, text, last, afterBlank, breaks => do
    let c ← get
    if c.column = indent && !c.atEnd then
      let startsBlank := c.atBlank
      let joined :=
        if isFolded && last = ['\n'] && !afterBlank && !startsBlank then
          if breaks.isEmpty then [' '] else []
        else last
      let line ← Read.takeWhile (! isBreak ·)
      let last ← Read.lineBreak
      let (following, _) ← blockBreaks outer (some indent) ((← get).rest.length + 1) 0 []
      blockLines isFolded outer indent fuel (text ++ joined ++ breaks ++ line) last startsBlank
        following
    else return (text, last, breaks)

/-- Reads a block scalar inside a collection indented by `outer`. -/
def block (isFolded : Bool) (outer : Int) : Read String := do
  Read.advance 1
  let before ← chomping?
  let increment ← indentation?
  let after ← if before.isNone then chomping? else pure none
  let chomping := (before.or after).getD .clip
  Read.restOfLine .blockScalar
  let known := increment.map fun n => n + (max outer 0).toNat
  let fuel := (← get).rest.length + 1
  let (breaks, indent) ← blockBreaks outer known fuel 0 []
  let (text, last, breaks) ← blockLines isFolded outer indent fuel [] [] false breaks
  return String.ofList (match chomping with
    | .strip => text
    | .clip => text ++ last
    | .keep => text ++ last ++ breaks)

end Scalar

end SizeSweep.Yaml
