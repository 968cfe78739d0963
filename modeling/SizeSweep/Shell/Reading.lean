import SizeSweep.Shell.Script

/-!
Reading scripts.  A script is read line by line, each line with all that belongs to the commands
begun in it, so that the lines before a fault can still be run.
-/

namespace SizeSweep.Shell

/-- What is wrong with a script. -/
inductive SyntaxProblem where
  | unclosedQuote
  | endOfFile (expected : Option String)
  | unexpected (token : String) (expected : Option String)
  | badSubstitution
deriving DecidableEq

/-- What is wrong with a script, and in which line. -/
structure SyntaxFault where
  line : Nat
  problem : SyntaxProblem
deriving DecidableEq

def SyntaxProblem.message : SyntaxProblem → String
  | unclosedQuote => "Syntax error: Unterminated quoted string"
  | endOfFile none => "Syntax error: end of file unexpected"
  | endOfFile (some word) => s!"Syntax error: end of file unexpected (expecting \"{word}\")"
  | unexpected "\n" _ => "Syntax error: newline unexpected"
  | unexpected token none => s!"Syntax error: \"{token}\" unexpected"
  | unexpected token (some word) =>
    s!"Syntax error: \"{token}\" unexpected (expecting \"{word}\")"
  | badSubstitution => "Bad substitution"

/-- What is left to read. -/
structure Input where
  rest : List Char
  line : Nat := 1

/-- A step of reading. -/
abbrev Parse (α : Type) := StateT Input (Except SyntaxFault) α

namespace Parse

def fail {α : Type} (problem : SyntaxProblem) : Parse α := do throw ⟨(← get).line, problem⟩

def take (n : Nat) : Parse (List Char) := do
  let s ← get
  let taken := s.rest.take n
  set { s with rest := s.rest.drop n, line := s.line + taken.count '\n' : Input }
  return taken

def skip (n : Nat) : Parse Unit := discard (take n)

/-- Moves over all characters up to the first one that does not satisfy `p`. -/
def takeWhile (p : Char → Bool) : Parse (List Char) := do
  take ((← get).rest.takeWhile p).length

def nextIs (text : String) : Parse Bool := do return text.toList.isPrefixOf (← get).rest

/-- Moves over some characters if they come next. -/
def accept (text : String) : Parse Bool := do
  if ← nextIs text then
    skip text.length
    return true
  else return false

/-! ### Blanks and words -/

def endsWord (c : Char) : Bool := " \t\n;&|()<>".toList.contains c

def isNameChar (c : Char) : Bool := c.isAlphanum || c = '_'

def isNameStart (c : Char) : Bool := c.isAlpha || c = '_'

/-- Moves over blanks, continued lines and a comment. -/
def skipBlanks : Nat → Parse Unit
  | 0 => return
  | fuel + 1 => do
    match (← get).rest with
    | ' ' :: _ | '\t' :: _ =>
      skip 1
      skipBlanks fuel
    | '\\' :: '\n' :: _ =>
      skip 2
      skipBlanks fuel
    | '#' :: _ => discard (takeWhile (· ≠ '\n'))
    | _ => return

def skipLines : Nat → Parse Unit
  | 0 => return
  | fuel + 1 => do
    skipBlanks ((← get).rest.length + 1)
    if ← accept "\n" then skipLines fuel

/-- The characters up to the end of the word, quotes and all. -/
def nextWord : Parse String := do
  return String.ofList ((← get).rest.takeWhile (! endsWord ·))

/-- The token that comes next, for a message. -/
def nextToken : Parse String := do
  match (← get).rest with
  | ';' :: ';' :: _ => return ";;"
  | '&' :: '&' :: _ => return "&&"
  | '|' :: '|' :: _ => return "||"
  | c :: _ => if endsWord c then return c.toString else nextWord
  | [] => return ""

/-- Stops at the next token. -/
def unexpected {α : Type} (expected : Option String) : Parse α := do
  if (← get).rest.isEmpty then fail (.endOfFile expected)
  else fail (.unexpected (← nextToken) expected)

/-- Moves over a reserved word, which must come next. -/
def expectWord (word : String) : Parse Unit := do
  if (← nextWord) = word then skip word.length else unexpected (some word)

/-- Moves over a token, which must come next. -/
def expectToken (token : String) : Parse Unit := do
  unless ← accept token do unexpected (some token)

/-- The words that end a list of commands. -/
def closers : List String := ["then", "else", "elif", "fi", "do", "done", "esac", "\x7d"]

/-- Whether a list of commands ends here. -/
def atCloser : Parse Bool := do
  match (← get).rest with
  | [] => return true
  | ')' :: _ => return true
  | ';' :: ';' :: _ => return true
  | _ => return closers.contains (← nextWord)

/-! ### Quotes -/

/-- The characters up to a closing backquote, and those after it.  A backslash before a backquote,
a dollar sign or a backslash is dropped. -/
def backquoted : List Char → Option (List Char × List Char)
  | [] => none
  | '\x60' :: rest => some ([], rest)
  | '\\' :: c :: rest =>
    let kept := if c = '\x60' || c = '$' || c = '\\' then [c] else ['\\', c]
    (backquoted rest).map fun (inside, after) => (kept ++ inside, after)
  | c :: rest => (backquoted rest).map fun (inside, after) => (c :: inside, after)

/-- The characters up to two closing brackets that are not paired, and how many they are. -/
def toDoubleClose : Nat → List Char → Option (List Char)
  | _, [] => none
  | 0, ')' :: rest => match rest with
    | ')' :: _ => some []
    | _ => none
  | depth + 1, ')' :: rest => (toDoubleClose depth rest).map (')' :: ·)
  | depth, '(' :: rest => (toDoubleClose (depth + 1) rest).map ('(' :: ·)
  | depth, c :: rest => (toDoubleClose depth rest).map (c :: ·)

/-- Where the pieces of a word stand. -/
inductive Context where
  | word
  | quotes
  /-- After the operator of a parameter in braces. -/
  | braces (quoted : Bool)
  | expression
  /-- In lines that a command reads. -/
  | lines
deriving DecidableEq

def Context.isQuoted : Context → Bool
  | word => false
  | quotes => true
  | braces quoted => quoted
  | expression => true
  | lines => true

/-- Whether a character ends the pieces. -/
def Context.endsAt (context : Context) (c : Char) : Bool :=
  match context with
  | word => endsWord c
  | quotes => c = '"'
  | braces _ => c = '\x7d'
  | expression => false
  | lines => false

/-- Whether a character stands for itself. -/
def Context.isPlain (context : Context) (c : Char) : Bool :=
  !context.endsAt c && c ≠ '\\' && c ≠ '$' && c ≠ '\x60' && (c ≠ '"' || context = .lines) &&
    (c ≠ '\'' || context.isQuoted)

/-- The lines up to the one that holds only `mark`, and what follows it. -/
def linesTo (mark : List Char) : Nat → List Char → List Char × List Char
  | 0, cs => ([], cs)
  | fuel + 1, cs =>
    let line := cs.takeWhile (· ≠ '\n')
    let rest := cs.drop (line.length + 1)
    if line = mark || cs.isEmpty then ([], rest)
    else
      let (more, after) := linesTo mark fuel rest
      (line ++ '\n' :: more, after)

/-- Moves over the word that marks the end of lines to read, takes the lines from the input, and
says whether the word was quoted. -/
def linesBelow : Parse (List Char × Bool) := do
  let word := (← nextWord).toList
  skip word.length
  let isQuote (c : Char) : Bool := c = '\'' || c = '"' || c = '\\'
  let s ← get
  let here := s.rest.takeWhile (· ≠ '\n')
  let below := s.rest.drop (here.length + 1)
  let (lines, after) := linesTo (word.filter (! isQuote ·)) (below.length + 1) below
  set { s with rest := here ++ '\n' :: after }
  return (lines, word.any isQuote)

def singleQuoted : Parse Piece := do
  skip 1
  let chars ← takeWhile (· ≠ '\'')
  unless ← accept "'" do fail .unclosedQuote
  return .text (String.ofList chars) true

def escape (context : Context) : Parse (List Piece) := do
  match (← get).rest with
  | '\\' :: '\n' :: _ =>
    skip 2
    return []
  | '\\' :: c :: _ =>
    if context.isQuoted && !"$\x60\"\\".toList.contains c then
      skip 1
      return [.text "\\" true]
    else
      skip 2
      return [.text c.toString true]
  | _ =>
    skip 1
    return [.text "\\" true]

/-- The name of a parameter: a variable, a number or a special character. -/
def parameterName (braced : Bool) : Parse (Option String) := do
  match (← get).rest with
  | c :: _ =>
    if isNameStart c then return some (String.ofList (← takeWhile isNameChar))
    else if c.isDigit then
      if braced then return some (String.ofList (← takeWhile Char.isDigit))
      else return some (String.ofList (← take 1))
    else if "@*#?$!-".toList.contains c then return some (String.ofList (← take 1))
    else return none
  | [] => return none

/-- Reads the operator of a parameter in braces, if its operand is a word to use instead. -/
def substitute? : Parse (Option (Substitute × Bool)) := do
  let orEmpty ← accept ":"
  match (← get).rest with
  | '-' :: _ =>
    skip 1
    return some (.default, orEmpty)
  | '=' :: _ =>
    skip 1
    return some (.assign, orEmpty)
  | '+' :: _ =>
    skip 1
    return some (.alternate, orEmpty)
  | '?' :: _ =>
    skip 1
    return some (.insist, orEmpty)
  | _ => if orEmpty then fail .badSubstitution else return none

def closeBrace : Parse Unit := do
  unless ← accept "\x7d" do
    if (← get).rest.isEmpty then fail (.endOfFile (some "\x7d")) else fail .badSubstitution

/-! ### Words and commands -/

mutual

def pieces (context : Context) : Nat → Parse Word
  | 0 => return []
  | fuel + 1 => do
    match (← get).rest with
    | [] => if context = .quotes then fail .unclosedQuote else return []
    | c :: _ =>
      if context.endsAt c then return []
      let found ← piece context c fuel
      return found ++ (← pieces context fuel)

/-- Reads what begins with a character. -/
def piece (context : Context) (c : Char) : Nat → Parse Word
  | 0 => return []
  | fuel + 1 => do
    if context.isPlain c then
      return [.text (String.ofList (← takeWhile context.isPlain)) context.isQuoted]
    else if c = '\'' then return [← singleQuoted]
    else if c = '\\' then escape context
    else if c = '"' then
      skip 1
      if context = .expression then return []
      let inside ← pieces .quotes fuel
      skip 1
      return if inside.isEmpty then [.text "" true] else inside
    else if c = '\x60' then
      match backquoted ((← get).rest.drop 1) with
      | none => fail .unclosedQuote
      | some (inside, after) =>
        let line := (← get).line
        set ({ rest := inside, line } : Input)
        let script ← commands fuel
        set ({ rest := after, line := line + inside.count '\n' } : Input)
        return [.output script context.isQuoted]
    else dollar context.isQuoted fuel

def dollar (quoted : Bool) : Nat → Parse Word
  | 0 => return []
  | fuel + 1 => do
    skip 1
    let s ← get
    match s.rest with
    | '\x7b' :: _ =>
      skip 1
      let piece ← braced quoted fuel
      return [piece]
    | '(' :: rest =>
      let inside? := if rest.head? = some '(' then toDoubleClose 0 (rest.drop 1) else none
      match inside? with
      | some inside =>
        set { s with rest := inside }
        let expression ← pieces .expression fuel
        set s
        skip (inside.length + 4)
        return [.value expression quoted]
      | none =>
        skip 1
        let script ← commands fuel
        expectToken ")"
        return [.output script quoted]
    | _ =>
      match ← parameterName false with
      | some name => return [.parameter name .keep quoted]
      | none => return [.text "$" quoted]

/-- Reads a parameter after its opening brace. -/
def braced (quoted : Bool) : Nat → Parse Piece
  | 0 => fail .badSubstitution
  | fuel + 1 => do
    let s ← get
    match s.rest with
    | '#' :: c :: _ =>
      if isNameStart c || c.isDigit then
        skip 1
        let name ← parameterName true
        closeBrace
        return .parameter (name.getD "") .length quoted
    | _ => pure ()
    match ← parameterName true with
    | none => fail .badSubstitution
    | some name =>
      if ← accept "\x7d" then return .parameter name .keep quoted
      let change ← match ← substitute? with
        | some (kind, orEmpty) => do
          pure (Change.replace kind orEmpty (← pieces (.braces quoted) fuel))
        | none =>
          if ← accept "%%" then pure (Change.cut true true (← pieces (.braces quoted) fuel))
          else if ← accept "%" then pure (Change.cut true false (← pieces (.braces quoted) fuel))
          else if ← accept "##" then pure (Change.cut false true (← pieces (.braces quoted) fuel))
          else if ← accept "#" then pure (Change.cut false false (← pieces (.braces quoted) fuel))
          else fail .badSubstitution
      closeBrace
      return .parameter name change quoted

def redirect? : Nat → Parse (Option Redirect)
  | 0 => return none
  | fuel + 1 => do
    let s ← get
    let digits := s.rest.takeWhile Char.isDigit
    let after := s.rest.drop digits.length
    let channel (default : Nat) : Nat :=
      match digits with
      | [] => default
      | ds => ds.foldl (fun n c => 10 * n + (c.toNat - 48)) 0
    let found : Option (Nat × Nat × Direction) := match after with
      | '>' :: '>' :: _ => some (2, 1, .append)
      | '>' :: '&' :: _ => some (2, 1, .duplicate)
      | '>' :: '|' :: _ => some (2, 1, .write)
      | '>' :: _ => some (1, 1, .write)
      | '<' :: '&' :: _ => some (2, 0, .duplicate)
      | '<' :: '<' :: _ => some (2, 0, .text)
      | '<' :: _ => some (1, 0, .read)
      | _ => none
    match found with
    | none => return none
    | some (width, default, direction) =>
      skip (digits.length + width)
      skipBlanks ((← get).rest.length + 1)
      if direction = .text then
        let (lines, quoted) ← linesBelow
        if quoted then return some (.mk (channel default) .text [.text (String.ofList lines) true])
        let s ← get
        set { s with rest := lines }
        let target ← pieces .lines fuel
        set s
        return some (.mk (channel default) .text target)
      let target ← pieces .word fuel
      if target.isEmpty then unexpected none
      return some (.mk (channel default) direction target)

/-- Reads the redirections after a compound command. -/
def redirects : Nat → Parse (List Redirect)
  | 0 => return []
  | fuel + 1 => do
    skipBlanks ((← get).rest.length + 1)
    match ← redirect? fuel with
    | none => return []
    | some redirect => return redirect :: (← redirects fuel)

/-- Reads a list of commands up to a word or a token that closes it. -/
def commands : Nat → Parse (List Command)
  | 0 => return []
  | fuel + 1 => do
    skipLines ((← get).rest.length + 1)
    if ← atCloser then return []
    let command ← chain fuel
    skipBlanks ((← get).rest.length + 1)
    match (← get).rest with
    | '&' :: _ =>
      skip 1
      return .group true [command] [] :: (← commands fuel)
    | ';' :: c :: _ => if c ≠ ';' then skip 1
    | [';'] => skip 1
    | '\n' :: _ => skip 1
    | _ => unless ← atCloser do unexpected none
    return command :: (← commands fuel)

/-- Reads commands joined by `&&` and `||`. -/
def chain : Nat → Parse Command
  | 0 => unexpected none
  | fuel + 1 => do
    let first ← pipeline fuel
    links first fuel

/-- Reads the links of a chain after its first command. -/
def links (left : Command) : Nat → Parse Command
  | 0 => return left
  | fuel + 1 => do
    skipBlanks ((← get).rest.length + 1)
    if ← accept "&&" then
      skipLines ((← get).rest.length + 1)
      let right ← pipeline fuel
      links (.andThen left right) fuel
    else if ← accept "||" then
      skipLines ((← get).rest.length + 1)
      let right ← pipeline fuel
      links (.orElse left right) fuel
    else return left

/-- Reads commands joined by `|`, perhaps negated. -/
def pipeline : Nat → Parse Command
  | 0 => unexpected none
  | fuel + 1 => do
    skipBlanks ((← get).rest.length + 1)
    if (← nextWord) = "!" then
      skip 1
      return .negate (← pipeline fuel)
    let left ← command fuel
    skipBlanks ((← get).rest.length + 1)
    if (← nextIs "|") && !(← nextIs "||") then
      skip 1
      skipLines ((← get).rest.length + 1)
      return .pipe left (← pipeline fuel)
    else return left

/-- Reads a command: a compound one by its first word, or a simple one. -/
def command : Nat → Parse Command
  | 0 => unexpected none
  | fuel + 1 => do
    skipBlanks ((← get).rest.length + 1)
    let line := (← get).line
    let word ← nextWord
    if (← get).rest.head? = some '(' then
      skip 1
      let body ← commands fuel
      expectToken ")"
      return .group true body (← redirects fuel)
    else if word = "\x7b" then
      skip 1
      let body ← commands fuel
      expectWord "\x7d"
      return .group false body (← redirects fuel)
    else if word = "if" then
      skip 2
      let found ← branches fuel
      return .group false [found] (← redirects fuel)
    else if word = "while" || word = "until" then
      skip 5
      let test ← commands fuel
      let body ← doBody fuel
      return .group false [.loop (word = "until") test body] (← redirects fuel)
    else if word = "for" then
      skip 3
      let found ← eachIn fuel
      return .group false [found] (← redirects fuel)
    else if word = "case" then
      skip 4
      let found ← selection fuel
      return .group false [found] (← redirects fuel)
    else if closers.contains word then unexpected none
    else
      let rest := (← get).rest
      let name := rest.takeWhile isNameChar
      if !name.isEmpty && "()".toList.isPrefixOf (rest.drop name.length) then
        skip (name.length + 2)
        skipLines ((← get).rest.length + 1)
        return .define (String.ofList name) (← command fuel)
      else simple line [] [] [] fuel

/-- Reads the rest of a conditional after `if` or `elif`. -/
def branches : Nat → Parse Command
  | 0 => unexpected (some "fi")
  | fuel + 1 => do
    let test ← commands fuel
    expectWord "then"
    let yes ← commands fuel
    let word ← nextWord
    if word = "elif" then
      skip 4
      let no ← branches fuel
      return .branch test yes [no]
    else if word = "else" then
      skip 4
      let no ← commands fuel
      expectWord "fi"
      return .branch test yes no
    else
      expectWord "fi"
      return .branch test yes []

def doBody : Nat → Parse (List Command)
  | 0 => unexpected (some "do")
  | fuel + 1 => do
    expectWord "do"
    let body ← commands fuel
    expectWord "done"
    return body

/-- Reads the rest of a loop over words. -/
def eachIn : Nat → Parse Command
  | 0 => unexpected (some "do")
  | fuel + 1 => do
    skipBlanks ((← get).rest.length + 1)
    let name ← takeWhile isNameChar
    if name.isEmpty then unexpected none
    skipLines ((← get).rest.length + 1)
    let words ← do
      if (← nextWord) = "in" then
        skip 2
        pure (some (← wordsToEnd fuel))
      else pure none
    discard (accept ";")
    skipLines ((← get).rest.length + 1)
    let body ← doBody fuel
    return .each (String.ofList name) words body

/-- Reads words up to one that no word can begin with. -/
def wordsToEnd : Nat → Parse (List Word)
  | 0 => return []
  | fuel + 1 => do
    skipBlanks ((← get).rest.length + 1)
    let word ← pieces .word fuel
    if word.isEmpty then return [] else return word :: (← wordsToEnd fuel)

/-- Reads the rest of a selection by patterns. -/
def selection : Nat → Parse Command
  | 0 => unexpected (some "esac")
  | fuel + 1 => do
    skipBlanks ((← get).rest.length + 1)
    let word ← pieces .word fuel
    skipLines ((← get).rest.length + 1)
    expectWord "in"
    return .select word (← cases fuel)

def cases : Nat → Parse (List (List Word × List Command))
  | 0 => unexpected (some "esac")
  | fuel + 1 => do
    skipLines ((← get).rest.length + 1)
    if (← nextWord) = "esac" then
      skip 4
      return []
    discard (accept "(")
    let patterns ← patterns fuel
    expectToken ")"
    let body ← commands fuel
    discard (accept ";;")
    return (patterns, body) :: (← cases fuel)

def patterns : Nat → Parse (List Word)
  | 0 => return []
  | fuel + 1 => do
    skipBlanks ((← get).rest.length + 1)
    let pattern ← pieces .word fuel
    skipBlanks ((← get).rest.length + 1)
    if ← accept "|" then return pattern :: (← patterns fuel) else return [pattern]

/-- Reads a simple command, of which some parts have been read, last ones first. -/
def simple (line : Nat) (assignments : List (String × Word)) (words : List Word)
    (others : List Redirect) : Nat → Parse Command
  | 0 => unexpected none
  | fuel + 1 => do
    skipBlanks ((← get).rest.length + 1)
    if let some redirect ← redirect? fuel then
      simple line assignments words (redirect :: others) fuel
    else
      let rest := (← get).rest
      let name := rest.takeWhile isNameChar
      let isAssignment := words.isEmpty && (name.head?.any isNameStart) &&
        (rest.drop name.length).head? = some '='
      if isAssignment then
        skip (name.length + 1)
        let word ← pieces .word fuel
        simple line ((String.ofList name, word) :: assignments) words others fuel
      else
        let word ← pieces .word fuel
        if !word.isEmpty then simple line assignments (word :: words) others fuel
        else if assignments.isEmpty && words.isEmpty && others.isEmpty then unexpected none
        else return .simple line assignments.reverse words.reverse others.reverse

end

/-- Reads commands up to the end of the line; each of them gets `fuel`. -/
def lineFrom (fuel : Nat) : Nat → Parse (List Command)
  | 0 => return []
  | n + 1 => do
    let command ← chain fuel
    skipBlanks ((← get).rest.length + 1)
    let isApart ← accept "&"
    let goesOn ← if isApart then pure true else accept ";"
    skipBlanks ((← get).rest.length + 1)
    let command := if isApart then .group true [command] [] else command
    if (← get).rest.isEmpty || (← nextIs "\n") then return [command]
    else if goesOn then return command :: (← lineFrom fuel n)
    else unexpected none

/-- Reads the commands that begin in the next line that holds one. -/
def line (fuel : Nat) : Parse (List Command) := do
  skipLines ((← get).rest.length + 1)
  if (← get).rest.isEmpty then return []
  lineFrom fuel fuel

end Parse

/-- A script: its lines up to the first fault, and the fault. -/
structure Script where
  lines : List (List Command)
  fault : Option SyntaxFault

/-- Reads lines until the end of the input or the first fault. -/
def Script.ofInput : Nat → Input → Script
  | 0, _ => ⟨[], none⟩
  | fuel + 1, input =>
    match (Parse.line (4 * input.rest.length + 8)).run input with
    | .error fault => ⟨[], some fault⟩
    | .ok (commands, rest) =>
      if commands.isEmpty then ⟨[], none⟩
      else
        let more := ofInput fuel rest
        ⟨commands :: more.lines, more.fault⟩

def Script.ofText (text : String) : Script :=
  Script.ofInput (text.length + 1) { rest := text.toList }

end SizeSweep.Shell
