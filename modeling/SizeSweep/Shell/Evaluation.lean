import SizeSweep.Shell.Reading
import SizeSweep.Shell.Utilities

/-!
Running scripts.  Words are expanded and split into fields, a command is a utility or changes the
state of the script itself, and every step of a script costs fuel, so that a script that never
ends is found out.
-/

namespace SizeSweep.Shell

/-! ### Fields and patterns -/

/-- A part of an expanded word. -/
inductive Fragment where
  /-- Characters, whether they were quoted, and whether they are split at white space. -/
  | chars (text : String) (quoted splits : Bool)
  | boundary

/-- The text of fragments that make one field. -/
def Fragment.joined (fragments : List Fragment) : String :=
  String.join (fragments.map fun
    | .chars text _ _ => text
    | .boundary => " ")

def separates (c : Char) : Bool := c = ' ' || c = '\t' || c = '\n'

/-- Splits characters at white space after the field at hand, if there is one.  Gives the finished
fields and the field at hand. -/
def splitChars (current : Option String) : List Char → List String × Option String
  | [] => ([], current)
  | c :: rest =>
    if separates c then
      let (fields, last) := splitChars none rest
      (current.toList ++ fields, last)
    else splitChars (some (current.getD "" ++ c.toString)) rest

/-- The fields of fragments after the field at hand, if there is one. -/
def fieldsAfter (current : Option String) : List Fragment → List String
  | [] => current.toList
  | .boundary :: rest => current.toList ++ fieldsAfter none rest
  | .chars text _ splits :: rest =>
    if splits then
      let (fields, current) := splitChars current text.toList
      fields ++ fieldsAfter current rest
    else fieldsAfter (some (current.getD "" ++ text)) rest

/-- A character of a pattern. -/
inductive PatternItem where
  | exactly (c : Char)
  | anyChar
  | anyText
  | oneOf (negated : Bool) (ranges : List (Char × Char))

/-- The ranges of characters between brackets, and what follows them. -/
def ranges : Nat → List Char → List (Char × Char) → Option (List (Char × Char) × List Char)
  | 0, _, _ => none
  | _, [], _ => none
  | fuel + 1, c :: rest, found =>
    if c = ']' && !found.isEmpty then some (found.reverse, rest)
    else match rest with
      | '-' :: d :: more =>
        if d = ']' then ranges fuel rest ((c, c) :: found)
        else ranges fuel more ((c, d) :: found)
      | _ => ranges fuel rest ((c, c) :: found)

/-- The pattern that unquoted characters are. -/
def patternOf : Nat → List Char → List PatternItem
  | 0, _ => []
  | _, [] => []
  | fuel + 1, c :: rest =>
    if c = '*' then .anyText :: patternOf fuel rest
    else if c = '?' then .anyChar :: patternOf fuel rest
    else if c = '[' then
      let (negated, inside) := match rest with
        | '!' :: more => (true, more)
        | more => (false, more)
      match ranges (inside.length + 1) inside [] with
      | some (found, after) => .oneOf negated found :: patternOf fuel after
      | none => .exactly c :: patternOf fuel rest
    else .exactly c :: patternOf fuel rest

/-- The pattern that fragments are. -/
def Fragment.pattern (fragments : List Fragment) : List PatternItem :=
  fragments.flatMap fun
    | .chars text true _ => text.toList.map PatternItem.exactly
    | .chars text false _ => patternOf (text.length + 1) text.toList
    | .boundary => [.exactly ' ']

def matchesAll : List PatternItem → List Char → Bool
  | [], cs => cs.isEmpty
  | .anyText :: rest, cs => (List.range (cs.length + 1)).any fun n => matchesAll rest (cs.drop n)
  | .exactly x :: rest, c :: cs => c = x && matchesAll rest cs
  | .anyChar :: rest, _ :: cs => matchesAll rest cs
  | .oneOf negated found :: rest, c :: cs =>
    (found.any fun (low, high) => low ≤ c && c ≤ high) != negated && matchesAll rest cs
  | _ :: _, [] => false

/-- A text with the shortest or longest part that matches a pattern cut off at one of its ends. -/
def cutOff (atEnd longest : Bool) (pattern : List PatternItem) (cs : List Char) : List Char :=
  let lengths := List.range (cs.length + 1)
  let lengths := if longest then lengths.reverse else lengths
  let fits (n : Nat) : Bool :=
    matchesAll pattern (if atEnd then cs.drop (cs.length - n) else cs.take n)
  match lengths.find? fits with
  | some n => if atEnd then cs.take (cs.length - n) else cs.drop n
  | none => cs

/-! ### Parameters -/

def State.parameter? (s : State) (name : String) : Option String :=
  match name with
  | "@" | "*" => if s.args.isEmpty then none else some (" ".intercalate s.args)
  | "#" => some (toString s.args.length)
  | "?" => some (toString s.status)
  | "$" => some processNumber
  | "-" => some ""
  | "!" => none
  | "0" => some s.name
  | _ =>
    match name.toNat? with
    | some n => s.args[n - 1]?
    | none => s.vars.lookup name

def setVariable (name value : String) : Eval Unit :=
  modify fun s => { s with vars := s.vars.set name value }

/-- The fragments of a value that is inserted into a word. -/
def inserted (text : String) (quoted : Bool) : List Fragment := [.chars text quoted (!quoted)]

/-- The fragments of all arguments, each a field of its own. -/
def allArguments (args : List String) (quoted : Bool) : List Fragment :=
  (args.map fun a => Fragment.chars a quoted (!quoted)).intersperse .boundary

def withoutFinalLineFeeds (text : String) : String :=
  String.ofList (text.toList.reverse.dropWhile (· = '\n')).reverse

/-! ### Redirections -/

/-- What a fault of starting a program means in words. -/
def startingProblem (fault : OsFault) : String :=
  match fault with
  | .notFound | .notDirectory => "not found"
  | fault => fault.reason

/-- The exit code of a program that cannot be started: whether it is there or not. -/
def startingCode (fault : OsFault) : Nat :=
  match fault with
  | .notFound | .notDirectory | .nameTooLong => 127
  | _ => 126

def openingProblem (writing : Bool) (fault : OsFault) : String :=
  match fault with
  | .notFound | .notDirectory => if writing then "Directory nonexistent" else "No such file"
  | fault => fault.reason

/-- The sink that writes to a file, which is emptied or kept and created if it is missing. -/
def openSink (append : Bool) (path : String) : Eval (Option Sink) := do
  let s ← get
  let opened := do
    let target ← s.files.resolve s.cwd path
    let files ← s.files.update s.cwd path fun old => if append then old else []
    pure (target, files)
  match opened with
  | .ok (target, files) =>
    set { s with files }
    return some (if target.entry = some .void then .nowhere else .file target.location)
  | .error fault =>
    complainHere s!"cannot create {path}: {openingProblem true fault}"
    return none

/-- The text of a file with commands.  A directory holds none, and a file that cannot be opened is
reported under a heading. -/
def sourceText (heading path : String) : Eval String := do
  let s ← get
  match s.files.read s.cwd path with
  | .ok bytes => return Text.decodeLenient bytes
  | .error .isDirectory => return ""
  | .error fault => abort s!"{heading}cannot open {path}: {openingProblem false fault}"

/-- Connects a channel, and says whether that was possible. -/
def connect (channel : Nat) (direction : Direction) (target : String) : Eval Bool := do
  match direction with
  | .text =>
    modify fun s => { s with input := Text.encode target }
    return true
  | .read =>
    let s ← get
    match s.files.read s.cwd target with
    | .ok bytes =>
      set { s with input := bytes }
      return true
    | .error fault =>
      complainHere s!"cannot open {target}: {openingProblem false fault}"
      return false
  | .write | .append =>
    match ← openSink (direction = .append) target with
    | none => return false
    | some sink =>
      modify fun s => if channel = 2 then { s with stderr := sink } else { s with stdout := sink }
      return true
  | .duplicate =>
    modify fun s =>
      match channel, target with
      | 1, "2" => { s with stdout := s.stderr }
      | 2, "1" => { s with stderr := s.stdout }
      | 1, "-" => { s with stdout := .nowhere }
      | 2, "-" => { s with stderr := .nowhere }
      | _, _ => s
    return true

/-- Runs a part of a script whose changes of variables are lost.  An exit ends only that part. -/
def apart (part : Eval Unit) : Eval Unit := do
  let s ← get
  let status ← tryCatch (do
    part
    return (← get).status) fun
    | .ended (.code n) => pure n
    | .ended (.signal n) => throw (.ended (.signal n))
    | .endless => throw .endless
    | .back n => pure n
    | .leave _ | .again _ => return (← get).status
  modify fun after =>
    { s with
      files := after.files
      slept := after.slept
      output := after.output
      messages := after.messages
      status }

/-- Runs a part of a script and gives what it wrote. -/
def collected (part : Eval Unit) : Eval Bytes := do
  let outer ← get
  let restore : Eval Unit :=
    modify fun s => { s with output := outer.output, stdout := outer.stdout }
  set { outer with output := [], stdout := .output }
  tryCatch (apart part) fun ending => do
    restore
    throw ending
  let bytes := Chunks.bytes (← get).output
  restore
  return bytes

/-- The directory that a name leads to becomes the current one. -/
def changeDirectory (args : List String) : Eval Nat := do
  let s ← get
  let name := args.headD "."
  match s.files.resolve s.cwd name with
  | .ok ⟨location, some .directory, _⟩ =>
    set { s with cwd := location }
    return 0
  | _ =>
    complainHere s!"cd: can't cd to {name}"
    return 2

/-- Reads a line of the input into variables; the last one gets all that is left. -/
def readInto (args : List String) : Eval Nat := do
  let names := args.filter (! ·.startsWith "-")
  match ← readLine with
  | none =>
    for name in names do setVariable name ""
    return 1
  | some (line, ended) =>
    let rec assign : List String → List Char → Eval Unit
      | [], _ => return
      | [name], cs =>
        let trimmed := ((cs.dropWhile separates).reverse.dropWhile separates).reverse
        setVariable name (String.ofList trimmed)
      | name :: names, cs => do
        let cs := cs.dropWhile separates
        let word := cs.takeWhile (! separates ·)
        setVariable name (String.ofList word)
        assign names (cs.drop word.length)
    assign names line.toList
    return codeOf ended

def assignAll (args : List String) : Eval Unit := do
  for a in args do
    match Text.splitAt? ['='] a.toList with
    | some (name, value) => setVariable (String.ofList name) (String.ofList value)
    | none => pure ()

/-- Leaves loops, or begins the next round of one of them.  Outside of loops nothing happens. -/
def leaveLoops (ending : Nat → Ending) (args : List String) : Eval Nat := do
  let loops := (← get).loops
  if loops = 0 then return 0
  throw (ending (min ((args.head?.bind String.toNat?).getD 1) loops))

/-- Turns on or off what a letter of an option stands for. -/
def setOption (on : Bool) (letter : Char) : Eval Unit := do
  match letter with
  | 'e' => modify fun s => { s with stopsOnFailure := on }
  | 'u' => modify fun s => { s with stopsOnUnset := on }
  | 'a' | 'b' | 'c' | 'f' | 'h' | 'm' | 's' | 'v' | 'x' => pure ()
  | _ => abort ("Illegal option " ++ String.ofList [if on then '-' else '+', letter])

/-- Takes the options in front of arguments.  Gives their letters and the arguments after them,
and says whether `--` divides the two. -/
def takeOptions : List String → Eval (List Char × Bool × List String)
  | [] => return ([], false, [])
  | word :: rest => do
    match word.toList with
    | ['-', '-'] => return ([], true, rest)
    | sign :: letter :: letters =>
      if sign = '-' || sign = '+' then
        (letter :: letters).forM (setOption (sign = '-'))
        let (others, divided, rest) ← takeOptions rest
        return (letter :: letters ++ others, divided, rest)
      else return ([], false, word :: rest)
    | _ => return ([], false, word :: rest)

/-- The exit code that an argument of `exit` gives. -/
def exitCode (args : List String) : Eval Nat := do
  match args with
  | [] => return (← get).status
  | raw :: _ =>
    match raw.toNat? with
    | some n => return n
    | none => abort s!"exit: Illegal number: {raw}"

/-! ### Words and commands -/

mutual

def expand : Nat → Word → Eval (List Fragment)
  | 0, _ => throw .endless
  | _, [] => return []
  | fuel + 1, piece :: rest => do
    let first ← expandPiece fuel piece
    return first ++ (← expand fuel rest)

def expandPiece : Nat → Piece → Eval (List Fragment)
  | 0, _ => throw .endless
  | fuel + 1, piece => do
    match piece with
    | .text chars quoted => return [.chars chars quoted false]
    | .output script quoted =>
      let bytes ← collected (runAll fuel script)
      return inserted (withoutFinalLineFeeds (Text.decodeLenient bytes)) quoted
    | .value expression quoted =>
      let text := Fragment.joined (← expand fuel expression)
      let s ← get
      match Arithmetic.evalText text s.vars with
      | .ok (n, vars) =>
        set { s with vars }
        return inserted (toString n) quoted
      | .error problem => abort (problem.message text)
    | .parameter name change quoted => expandParameter fuel name change quoted

def expandParameter : Nat → String → Change → Bool → Eval (List Fragment)
  | 0, _, _, _ => throw .endless
  | fuel + 1, name, change, quoted => do
    let s ← get
    let value := s.parameter? name
    let mayBeUnset := name = "@" || name = "*" || match change with
      | .replace .. => true
      | _ => false
    if s.stopsOnUnset && value.isNone && !mayBeUnset then abort s!"{name}: parameter not set"
    match change with
    | .keep =>
      if name = "@" || (name = "*" && !quoted) then return allArguments s.args quoted
      else return inserted (value.getD "") quoted
    | .length => return inserted (toString (value.getD "").length) quoted
    | .cut atEnd longest pattern =>
      let pattern := Fragment.pattern (← expand fuel pattern)
      let cs := cutOff atEnd longest pattern (value.getD "").toList
      return inserted (String.ofList cs) quoted
    | .replace kind orEmpty word =>
      let isSet := match value with
        | none => false
        | some text => !(orEmpty && text.isEmpty)
      match kind, isSet with
      | .alternate, true => expand fuel word
      | .alternate, false => return []
      | _, true => return inserted (value.getD "") quoted
      | .default, false => expand fuel word
      | .assign, false =>
        let text := Fragment.joined (← expand fuel word)
        setVariable name text
        return inserted text quoted
      | .insist, false =>
        let text := Fragment.joined (← expand fuel word)
        let text := if text.isEmpty then "parameter not set" else text
        abort s!"{name}: {text}"

def expandAll : Nat → List Word → Eval (List String)
  | 0, _ => throw .endless
  | _, [] => return []
  | fuel + 1, word :: rest => do
    let fields := fieldsAfter none (← expand fuel word)
    return fields ++ (← expandAll fuel rest)

/-- Connects the channels of a command, and says whether that was possible. -/
def connectAll : Nat → List Redirect → Eval Bool
  | 0, _ => throw .endless
  | _, [] => return true
  | fuel + 1, .mk channel direction target :: rest => do
    let target := Fragment.joined (← expand fuel target)
    if ← connect channel direction target then connectAll fuel rest else return false

/-- Runs a command with other arguments, as the one that a name stands for. -/
def runNamed : Nat → Command → List String → Eval Nat
  | 0, _, _ => throw .endless
  | fuel + 1, command, args => do
    let outer ← get
    set { outer with args, loops := 0 }
    tryCatch (run fuel command) fun
      | .back code => modify fun s => { s with status := code }
      | ending => throw ending
    modify fun s =>
      { s with args := outer.args, loops := outer.loops, isTested := outer.isTested }
    return (← get).status

def runAll : Nat → List Command → Eval Unit
  | 0, _ => throw .endless
  | _, [] => return
  | fuel + 1, command :: rest => do
    run fuel command
    runAll fuel rest

/-- Runs commands whose exit code is asked for. -/
def runTested : Nat → List Command → Eval Unit
  | 0, _ => throw .endless
  | fuel + 1, commands => do
    let outer ← get
    set { outer with isTested := true }
    runAll fuel commands
    modify fun s => { s with isTested := outer.isTested }

/-- Runs a command with channels connected for its time; otherwise it does not run. -/
def redirected : Nat → List Redirect → Command → Eval Unit
  | 0, _, _ => throw .endless
  | fuel + 1, redirects, body => do
    let outer ← get
    let restore : Eval Unit := modify fun s =>
      { s with
        stdout := outer.stdout
        stderr := outer.stderr
        input := if redirects.isEmpty then s.input else outer.input }
    let possible ← connectAll fuel redirects
    if possible then
      tryCatch (run fuel body) fun ending => do
        restore
        throw ending
    else modify fun s => { s with status := 2 }
    restore

def run : Nat → Command → Eval Unit
  | 0, _ => throw .endless
  | fuel + 1, command => do
    match command with
    | .simple line assigned words redirects =>
      modify fun s => { s with line }
      let isLasting := match words with
        | [[.text "exec" false]] => assigned.isEmpty
        | _ => false
      if isLasting then
        unless ← connectAll fuel redirects do finish 2
      else if redirects.isEmpty then runSimple fuel assigned words
      else redirected fuel redirects (.simple line assigned words [])
      insistOnSuccess
    | .group isApart body redirects =>
      if !redirects.isEmpty then redirected fuel redirects (.group isApart body [])
      else if isApart then
        apart (runAll fuel body)
        insistOnSuccess
      else runAll fuel body
    | .pipe left right =>
      let s ← get
      let bytes ← collected (run fuel left)
      modify fun after => { after with input := bytes }
      apart (run fuel right)
      modify fun after => { after with input := s.input }
      insistOnSuccess
    | .negate command =>
      runTested fuel [command]
      modify fun s => { s with status := if s.status = 0 then 1 else 0 }
    | .andThen left right =>
      runTested fuel [left]
      if (← get).status = 0 then run fuel right
    | .orElse left right =>
      runTested fuel [left]
      if (← get).status ≠ 0 then run fuel right
    | .branch test yes no =>
      runTested fuel test
      let taken := if (← get).status = 0 then yes else no
      modify fun s => { s with status := 0 }
      runAll fuel taken
    | .loop negated test body => rounds fuel negated test body 0
    | .each name words body =>
      let fields ← match words with
        | some words => expandAll fuel words
        | none => pure (← get).args
      modify fun s => { s with status := 0 }
      eachRound fuel name body fields
    | .select word branches =>
      let text := Fragment.joined (← expand fuel word)
      modify fun s => { s with status := 0 }
      select fuel text.toList branches
    | .define name body =>
      modify fun s => { s with functions := (name, body) :: s.functions, status := 0 }

/-- Runs a round of a loop, and says whether the loop goes on. -/
def round : Nat → List Command → Eval Bool
  | 0, _ => throw .endless
  | fuel + 1, body => do
    let outer ← get
    set { outer with loops := outer.loops + 1 }
    let goesOn ← tryCatch (do
      runAll fuel body
      return true) fun
      | .leave n => if n ≤ 1 then pure false else throw (.leave (n - 1))
      | .again n => if n ≤ 1 then pure true else throw (.again (n - 1))
      | ending => throw ending
    modify fun s => { s with loops := outer.loops, isTested := outer.isTested }
    return goesOn

/-- Runs the rounds of a loop; `status` is the exit code of the last one. -/
def rounds : Nat → Bool → List Command → List Command → Nat → Eval Unit
  | 0, _, _, _, _ => throw .endless
  | fuel + 1, negated, test, body, status => do
    runTested fuel test
    if ((← get).status = 0) != negated then
      if ← round fuel body then rounds fuel negated test body (← get).status
    else modify fun s => { s with status }

/-- Runs the body of a loop for every field. -/
def eachRound : Nat → String → List Command → List String → Eval Unit
  | 0, _, _, _ => throw .endless
  | _, _, _, [] => return
  | fuel + 1, name, body, field :: rest => do
    setVariable name field
    if ← round fuel body then eachRound fuel name body rest

/-- Runs the first branch with a pattern that matches. -/
def select : Nat → List Char → List (List Word × List Command) → Eval Unit
  | 0, _, _ => throw .endless
  | _, _, [] => return
  | fuel + 1, cs, (patterns, body) :: rest => do
    if ← anyMatches fuel cs patterns then runAll fuel body else select fuel cs rest

def anyMatches : Nat → List Char → List Word → Eval Bool
  | 0, _, _ => throw .endless
  | _, _, [] => return false
  | fuel + 1, cs, pattern :: rest => do
    if matchesAll (Fragment.pattern (← expand fuel pattern)) cs then return true
    else anyMatches fuel cs rest

def assign : Nat → List (String × Word) → Eval Unit
  | 0, _ => throw .endless
  | _, [] => return
  | fuel + 1, (name, word) :: rest => do
    setVariable name (Fragment.joined (← expand fuel word))
    assign fuel rest

/-- Runs a simple command.  Assignments before a word hold for its time only. -/
def runSimple : Nat → List (String × Word) → List Word → Eval Unit
  | 0, _, _ => throw .endless
  | fuel + 1, assigned, words => do
    let fields ← expandAll fuel words
    match fields with
    | [] =>
      modify fun s => { s with status := 0 }
      assign fuel assigned
    | name :: args =>
      let outer ← get
      assign fuel assigned
      unless assigned.isEmpty do
        modify fun s => { s with exported := assigned.map (·.1) ++ s.exported }
      let status ← call fuel name args
      modify fun s => { s with status }
      unless assigned.isEmpty do
        modify fun s => { s with vars := outer.vars, exported := outer.exported }

/-- Runs a utility, a command of the script itself, or another script. -/
def call : Nat → String → List String → Eval Nat
  | 0, _, _ => throw .endless
  | fuel + 1, name, args => do
    if let some command := (← get).functions.lookup name then return ← runNamed fuel command args
    match name with
    | "return" => throw (.back (← exitCode args))
    | "exit" => finish (← exitCode args)
    | "break" => leaveLoops .leave args
    | "continue" => leaveLoops .again args
    | "cd" => changeDirectory args
    | "read" => readInto args
    | "export" =>
      assignAll args
      let names := args.map fun a => String.ofList (a.toList.takeWhile (· ≠ '='))
      modify fun s => { s with exported := names ++ s.exported }
      return 0
    | "readonly" | "local" =>
      assignAll args
      return 0
    | "unset" =>
      modify fun s => { s with vars := s.vars.filter fun v => !args.contains v.1 }
      return 0
    | "shift" =>
      let n := (args.head?.bind String.toNat?).getD 1
      if (← get).args.length < n then abort "shift: can't shift that many"
      modify fun s => { s with args := s.args.drop n }
      return 0
    | "set" =>
      let (_, divided, args) ← takeOptions args
      if divided || !args.isEmpty then modify fun s => { s with args }
      return 0
    | "." =>
      match args with
      | [] => return 0
      | path :: _ =>
        unless path.toList.contains '/' do abort s!".: {path}: not found"
        runLines fuel (Script.ofText (← sourceText ".: " path))
        return (← get).status
    | "eval" =>
      runLines fuel (Script.ofText (" ".intercalate args))
      return (← get).status
    | "exec" =>
      match args with
      | [] => return 0
      | name :: args =>
        finish (← start fuel "exec: " name args)
    | _ =>
      match builtins.lookup name with
      | some utility => utility args
      | none => start fuel "" name args

/-- Runs a program, or reports under a heading that it cannot be started. -/
def start : Nat → String → String → List String → Eval Nat
  | 0, _, _, _ => throw .endless
  | fuel + 1, heading, name, args => do
    let s ← get
    match findProgram s.files s.cwd s.searchPath name with
    | .error fault =>
      complainHere s!"{heading}{name}: {startingProblem fault}"
      return startingCode fault
    | .ok found =>
      match programs.lookup found with
      | some program => program args
      | none => script fuel name args

/-- Runs another script with the arguments of a call: its text after `-c`, a file, or the input.
Until one of them says otherwise, the script has the name that it is called by. -/
def script : Nat → String → List String → Eval Nat
  | 0, _, _ => throw .endless
  | fuel + 1, name, args => do
    apart do
      modify fun s =>
        { s with
          name
          vars := s.vars.filter fun v => s.exported.contains v.1
          functions := [], status := 0, line := 0, loops := 0
          stopsOnFailure := false, stopsOnUnset := false, isTested := false }
      let (letters, _, args) ← takeOptions args
      let start (name text : String) (args : List String) : Eval Unit := do
        modify fun s => { s with name, args, line := 1 }
        runLines fuel (Script.ofText text)
      if letters.contains 'c' then
        match args with
        | [] => abort "-c requires an argument"
        | text :: rest => start (rest.headD name) text (rest.drop 1)
      else
        match args with
        | [] => start name (Text.decodeLenient (← get).input) []
        | path :: rest => start path (← sourceText "" path) rest
    return (← get).status

/-- Runs the lines of a script.  A fault ends it after the lines before. -/
def runLines : Nat → Script → Eval Unit
  | 0, _ => throw .endless
  | fuel + 1, script => do
    match script.lines with
    | commands :: rest =>
      runAll fuel commands
      runLines fuel ⟨rest, script.fault⟩
    | [] =>
      match script.fault with
      | none => return
      | some fault =>
        modify fun s => { s with line := fault.line }
        abort fault.problem.message

end

/-- How many steps deep a script may go before it counts as endless. -/
def enoughFuel : Nat := 1000000

end SizeSweep.Shell
