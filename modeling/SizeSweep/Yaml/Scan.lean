import SizeSweep.Yaml.Token

/-!
A YAML text as a list of tokens.  Indentation opens and closes block collections, and a scalar, an
alias or a flow collection may turn out to be a key when the colon after it is read: the token that
announces it is then put in front of it.  Until that is known a token is not settled.  A malformed
text has the tokens that were settled when its fault was met.
-/

namespace SizeSweep.Yaml

/-- A place where a key may have begun. -/
structure KeyCandidate where
  /-- Whether nothing but a key can stand there. -/
  required : Bool
  tokens : Nat
  index : Nat
  line : Nat
  column : Nat

/-- What is known in the middle of a text. -/
structure Scan where
  cursor : Cursor
  tokens : List Token := []
  flowLevel : Nat := 0
  /-- The column of the innermost block collection, or -1 outside all of them. -/
  indent : Int := -1
  /-- The columns of the block collections around it. -/
  indents : List Int := []
  keyAllowed : Bool := true
  /-- For each open bracket, innermost first, and for what is outside, the last candidate. -/
  candidates : List (Option KeyCandidate) := [none]
  /-- How many of the tokens, from the first one on, are settled. -/
  settled : Nat := 0

namespace Scan

/-- A step of the scan.  What is known survives a fault. -/
abbrev Step (α : Type) := ExceptT Fault (StateM Scan) α

/-- Runs a reader at the place that the scan has reached. -/
def reading {α : Type} (read : Read α) : Step α := do
  let s ← get
  match read.run s.cursor with
  | .error fault => throw fault
  | .ok (a, cursor) =>
    set { s with cursor }
    return a

def fail {α : Type} (activity : Option Activity) (problem : Problem) : Step α :=
  throw ⟨problem, activity⟩

def emit (token : Token) : Step Unit := modify fun s => { s with tokens := token :: s.tokens }

/-- Puts a token in front of those from the `n`-th on. -/
def insert (n : Nat) (token : Token) : Step Unit := modify fun s =>
  let later := s.tokens.length - n
  { s with tokens := s.tokens.take later ++ token :: s.tokens.drop later }

def allowKey (allowed : Bool) : Step Unit := modify fun s => { s with keyAllowed := allowed }

/-! ### Candidates for keys -/

/-- The longest key that needs no mark of its own, in bytes. -/
def maxKeyLength : Nat := 1024

/-- Gives up a candidate; one that had to be a key is a problem. -/
def dropCandidate (candidate : Option KeyCandidate) : Step Unit := do
  if candidate.any (·.required) then fail (some .simpleKey) .keyWithoutColon

/-- Gives up the candidate of the innermost bracket. -/
def forgetCandidate : Step Unit := do
  match (← get).candidates with
  | [] => return
  | candidate :: outer =>
    dropCandidate candidate
    modify fun s => { s with candidates := none :: outer }

/-- Gives up the candidates that lie in an earlier line or too far back. -/
def forgetStale : Step Unit := do
  let s ← get
  let stale (k : KeyCandidate) : Bool :=
    k.line < s.cursor.line || k.index + maxKeyLength < s.cursor.index
  let kept ← s.candidates.mapM fun candidate => do
    if candidate.any stale then
      dropCandidate candidate
      return none
    else return candidate
  modify fun s => { s with candidates := kept }

/-- Settles the tokens that stand before every candidate. -/
def settle : Step Unit := modify fun s =>
  let starts := s.candidates.filterMap fun candidate => candidate.map KeyCandidate.tokens
  { s with settled := starts.foldl min s.tokens.length }

def noteCandidate : Step Unit := do
  let s ← get
  if s.keyAllowed then
    forgetCandidate
    let c := s.cursor
    let candidate : KeyCandidate :=
      { required := s.flowLevel = 0 && s.indent = c.column
        tokens := s.tokens.length, index := c.index, line := c.line, column := c.column }
    modify fun s => { s with candidates := some candidate :: s.candidates.drop 1 }

/-! ### Indentation -/

/-- Opens a block collection at a column, unless one is open there or the text is in brackets.  Its
token stands in front of those from the `n`-th on. -/
def openBlock (column : Nat) (n : Nat) (token : Token) : Step Unit := do
  let s ← get
  if s.flowLevel = 0 && s.indent < column then
    set { s with indent := (column : Int), indents := s.indent :: s.indents }
    insert n token

/-- Closes the block collections whose columns, innermost first, lie beyond `column`. -/
def closing (column : Int) (indent : Int) : List Int → Int × List Int × Nat
  | [] => (indent, [], 0)
  | outer :: rest =>
    if column < indent then
      let (indent, indents, count) := closing column outer rest
      (indent, indents, count + 1)
    else (indent, outer :: rest, 0)

/-- Closes the block collections beyond a column, unless the text is in brackets. -/
def closeBlocks (column : Int) : Step Unit := do
  let s ← get
  if s.flowLevel = 0 then
    let (indent, indents, count) := closing column s.indent s.indents
    set { s with indent, indents, tokens := List.replicate count Token.blockEnd ++ s.tokens }

/-! ### Between tokens -/

/-- Moves over blanks, comments and line breaks, and over a byte order mark in front of a line.  A
tab may only stand where no key can begin. -/
def skipGap : Nat → Step Unit
  | 0 => return
  | fuel + 1 => do
    let s ← get
    let tabs := 0 < s.flowLevel || !s.keyAllowed
    let c := s.cursor
    let c := if c.column = 0 && c.has 0 byteOrderMark then c.advance 1 else c
    let c := c.skipWhile fun x => x = ' ' || tabs && x = '\t'
    let c := if c.has 0 '#' then c.skipWhile (! isBreak ·) else c
    if c.breakAt 0 then
      set { s with cursor := c.skipLine, keyAllowed := s.keyAllowed || s.flowLevel = 0 }
      skipGap fuel
    else set { s with cursor := c }

/-! ### Tokens -/

/-- Reads a mark of some characters. -/
def mark (length : Nat) (token : Token) : Step Unit := do
  reading (Read.advance length)
  emit token

/-- Ends all block collections before a token that stands outside every document. -/
def leaveDocument : Step Unit := do
  closeBlocks (-1)
  forgetCandidate
  allowKey false

def openFlow (token : Token) : Step Unit := do
  noteCandidate
  modify fun s =>
    { s with flowLevel := s.flowLevel + 1, candidates := none :: s.candidates, keyAllowed := true }
  mark 1 token

def closeFlow (token : Token) : Step Unit := do
  forgetCandidate
  modify fun s =>
    { s with
      flowLevel := s.flowLevel - 1
      candidates := if 0 < s.flowLevel then s.candidates.drop 1 else s.candidates
      keyAllowed := false }
  mark 1 token

/-- Reads the comma between entries in brackets. -/
def flowEntry : Step Unit := do
  forgetCandidate
  allowKey true
  mark 1 .flowEntry

/-- Reads the dash before an entry. -/
def blockEntry : Step Unit := do
  let s ← get
  if s.flowLevel = 0 then
    unless s.keyAllowed do fail none .entryOutOfPlace
    openBlock s.cursor.column s.tokens.length .blockSequenceStart
  forgetCandidate
  allowKey true
  mark 1 .blockEntry

/-- Reads the question mark before a key. -/
def keyMark : Step Unit := do
  let s ← get
  if s.flowLevel = 0 then
    unless s.keyAllowed do fail none .keyOutOfPlace
    openBlock s.cursor.column s.tokens.length .blockMappingStart
  forgetCandidate
  allowKey (s.flowLevel = 0)
  mark 1 .key

/-- Reads the colon before a value. -/
def valueMark : Step Unit := do
  let s ← get
  match s.candidates with
  | some k :: outer =>
    set { s with candidates := none :: outer }
    insert k.tokens .key
    openBlock k.column k.tokens .blockMappingStart
    allowKey false
  | _ =>
    if s.flowLevel = 0 then
      unless s.keyAllowed do fail none .valueOutOfPlace
      openBlock s.cursor.column s.tokens.length .blockMappingStart
    allowKey (s.flowLevel = 0)
  mark 1 .value

/-- Reads a token that may begin a key. -/
def content (read : Read Token) : Step Unit := do
  noteCandidate
  allowKey false
  emit (← reading read)

def blockScalar (isFolded : Bool) : Step Unit := do
  forgetCandidate
  allowKey true
  let text ← reading (Scalar.block isFolded (← get).indent)
  emit (.scalar text (if isFolded then .folded else .literal))

/-- Reads a plain scalar.  If it ends in a new line, a key may begin there. -/
def plainScalar : Step Unit := do
  noteCandidate
  allowKey false
  let s ← get
  let (text, broken) ← reading (Scalar.plain (0 < s.flowLevel) (s.indent + 1).toNat)
  if broken then allowKey true
  emit (.scalar text .plain)

/-- The characters that begin no plain scalar. -/
def indicators : List Char :=
  ['-', '?', ':', ',', '[', ']', '\x7b', '\x7d', '#', '&', '*', '!', '|', '>', '\'', '"', '%', '@',
   '\x60']

def plainStarts (inFlow : Bool) (c : Cursor) : Bool :=
  !(c.gapAt 0 || c.hasOneOf 0 indicators) ||
    c.has 0 '-' && !(c.look? 1).any isBlank ||
    !inFlow && c.hasOneOf 0 ['?', ':'] && !c.gapAt 1

/-- Reads the token that a character begins. -/
def token (x : Char) : Step Unit := do
  let s ← get
  let c := s.cursor
  let inFlow := 0 < s.flowLevel
  if c.column = 0 && x = '%' then
    leaveDocument
    emit (← reading Token.directive)
  else if c.atMark '-' then
    leaveDocument
    mark 3 .documentStart
  else if c.atMark '.' then
    leaveDocument
    mark 3 .documentEnd
  else if x = '[' then openFlow .flowSequenceStart
  else if x = '\x7b' then openFlow .flowMappingStart
  else if x = ']' then closeFlow .flowSequenceEnd
  else if x = '\x7d' then closeFlow .flowMappingEnd
  else if x = ',' then flowEntry
  else if x = '-' && c.gapAt 1 then blockEntry
  else if x = '?' && (inFlow || c.gapAt 1) then keyMark
  else if x = ':' && (inFlow || c.gapAt 1) then valueMark
  else if x = '*' then content (Token.reference <$> Token.anchorName .reference)
  else if x = '&' then content (Token.anchor <$> Token.anchorName .anchor)
  else if x = '!' then content (Token.tagName inFlow)
  else if x = '|' && !inFlow then blockScalar false
  else if x = '>' && !inFlow then blockScalar true
  else if x = '\'' then content ((Token.scalar · .singleQuoted) <$> Scalar.quoted true)
  else if x = '"' then content ((Token.scalar · .doubleQuoted) <$> Scalar.quoted false)
  else if plainStarts inFlow c then plainScalar
  else fail (some .nextToken) .noTokenStart

/-- Ends the text, whose last line counts as ended. -/
def endText : Step Unit := do
  modify fun s =>
    if s.cursor.column = 0 then s
    else { s with cursor := { s.cursor with line := s.cursor.line + 1, column := 0 } }
  leaveDocument
  emit .streamEnd

/-- Reads all tokens; every round reads at least one character. -/
def run : Nat → Step Unit
  | 0 => return
  | fuel + 1 => do
    settle
    skipGap ((← get).cursor.rest.length + 1)
    forgetStale
    let s ← get
    match s.cursor.look? 0 with
    | none =>
      endText
      forgetStale
    | some x =>
      closeBlocks s.cursor.column
      token x
      forgetStale
      run fuel

end Scan

/-- The tokens of a text, and its fault if it has one. -/
def tokens (text : String) : List Token × Option Fault :=
  let cursor := Cursor.ofText text
  if cursor.rest.any (! isAllowed ·) then
    ([], some ⟨.controlCharacter (byteCount (cursor.rest.takeWhile isAllowed)), none⟩)
  else
    match (Scan.run (cursor.rest.length + 1)).run.run { cursor } with
    | (.ok _, s) => (s.tokens.reverse, none)
    | (.error fault, s) => (s.tokens.reverse.take s.settled, some fault)

end SizeSweep.Yaml
