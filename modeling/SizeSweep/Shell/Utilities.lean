import SizeSweep.Shell.Format
import SizeSweep.Shell.State

/-!
The utilities that scripts can use.  Each works on the state of a script and gives an exit code.
-/

namespace SizeSweep.Shell

/-- What a utility does with its arguments, and its exit code. -/
abbrev Utility := List String → Eval Nat

def codeOf (b : Bool) : Nat := if b then 0 else 1

/-- Whether an operation succeeds; its fault is reported under the name of a utility. -/
def orComplain (start : String) : Except OsFault Unit → Eval Bool
  | .ok () => return true
  | .error fault => do
    complain s!"{start}: {fault.reason}"
    return false

def withFiles (operation : Files → Location → Except OsFault Unit × Files) :
    Eval (Except OsFault Unit) := do
  let s ← get
  let (result, files) := operation s.files s.cwd
  set { s with files }
  return result

/-! ### Writing -/

/-- Writes its arguments, escapes carried out. -/
def echo : Utility := fun args => do
  let (silent, args) := match args with
    | "-n" :: rest => (true, rest)
    | args => (false, args)
  let text := " ".intercalate args
  let (bytes, stopped) := unescape (text.length + 1) text.toList
  write (bytes ++ if silent || stopped then [] else [0x0A])
  return 0

/-- Writes its arguments as they are, unless it is told to carry out escapes. -/
def plainEcho : Utility := fun args => do
  match args with
  | "-e" :: rest => discard (echo rest)
  | "-n" :: rest => print (" ".intercalate rest)
  | "-E" :: rest => print (" ".intercalate rest ++ "\n")
  | args => print (" ".intercalate args ++ "\n")
  return 0

def printf : Utility := fun args => do
  let args := if args.head? = some "--" then args.drop 1 else args
  match args with
  | [] =>
    complainHere "printf: usage: printf format [arg ...]"
    return 2
  | text :: args =>
    let f := format text args
    write f.bytes
    for raw in f.refused do
      complainHere s!"printf: {raw}: expected numeric value"
    return codeOf f.refused.isEmpty

/-- Writes the numbers from the first to the last in steps. -/
def seq : Utility := fun args => do
  let numbers := args.map fun a => ((Arithmetic.integer? a).getD 0).toInt
  let (first, step, last) := match numbers with
    | [last] => ((1 : Int), (1 : Int), last)
    | [first, last] => (first, 1, last)
    | [first, step, last] => (first, step, last)
    | _ => (1, 1, 0)
  if step = 0 then return 1
  let count := if 0 < step then (last - first) / step + 1 else (first - last) / (-step) + 1
  let lines := (List.range count.toNat).map fun (i : Nat) => toString (first + step * i) ++ "\n"
  print (String.join lines)
  return 0

/-! ### Files -/

/-- The content of a file, or of what is left of the input. -/
def contentOf (start name : String) : Eval (Option Bytes) := do
  let s ← get
  if name = "-" then
    set { s with input := [] }
    return some s.input
  else match s.files.read s.cwd name with
    | .ok bytes => return some bytes
    | .error fault =>
      complain s!"{start}{name}: {fault.reason}"
      return none

def cat : Utility := fun args => do
  let mut code := 0
  for name in if args.isEmpty then ["-"] else args do
    match ← contentOf "cat: " name with
    | some bytes => write bytes
    | none => code := 1
  return code

def ls : Utility := fun args => do
  let mut code := 0
  let names := args.filter (! ·.startsWith "-")
  for name in if names.isEmpty then ["."] else names do
    let s ← get
    match s.files.resolve s.cwd name with
    | .ok ⟨_, some .directory, _⟩ =>
      let found := ((s.files.list? s.cwd name).getD []).filter (! ·.startsWith ".")
      print (String.join ((found.mergeSort (· ≤ ·)).map (· ++ "\n")))
    | .ok ⟨_, some _, _⟩ => print (name ++ "\n")
    | .ok ⟨_, none, _⟩ | .error _ =>
      complain s!"ls: cannot access '{name}': No such file or directory"
      code := 2
  return code

def head : Utility := fun args => do
  let (count, names) := match args with
    | "-n" :: n :: names => ((n.toNat?).getD 10, names)
    | option :: names =>
      match option.toList with
      | '-' :: 'n' :: digits => (decimal digits, names)
      | '-' :: digits => (decimal digits, names)
      | _ => (10, option :: names)
    | [] => (10, [])
  match ← contentOf "head: cannot open " (names.headD "-") with
  | none => return 1
  | some bytes =>
    let lines := (Text.decodeLenient bytes).toList
    let ends := (lines.zipIdx.filter (·.1 = '\n')).map Prod.snd
    let length := if count = 0 then 0 else match ends[count - 1]? with
      | some i => i + 1
      | none => lines.length
    print (String.ofList (lines.take length))
    return 0

def wc : Utility := fun args => do
  let options := args.filter (·.startsWith "-")
  let names := args.filter (! ·.startsWith "-")
  match ← contentOf "wc: " (names.headD "-") with
  | none => return 1
  | some bytes =>
    let lines := bytes.count 0x0A
    let isGap (b : UInt8) : Bool := b = 0x20 || (0x09 ≤ b && b ≤ 0x0D)
    let words := (bytes.foldl (fun (n, inWord) b =>
      if isGap b then (n, false) else (if inWord then n else n + 1, true)) (0, false)).1
    let counts := if options.contains "-l" then [lines]
      else if options.contains "-w" then [words]
      else if options.contains "-c" then [bytes.length]
      else [lines, words, bytes.length]
    print (" ".intercalate (counts.map toString ++ names.take 1) ++ "\n")
    return 0

def rm : Utility := fun args => do
  let options := (args.filter (·.startsWith "-")).flatMap String.toList
  let names := args.filter (! ·.startsWith "-")
  let recursive := options.contains 'r' || options.contains 'R'
  let mut code := 0
  for name in names do
    let done ← withFiles fun files cwd =>
      match files.resolve cwd name with
      | .error fault => (.error fault, files)
      | .ok target => match target.entry with
        | none => (.error .notFound, files)
        | some .directory =>
          if recursive then (.ok (), files.erase target.location) else (.error .isDirectory, files)
        | some _ => (.ok (), files.erase target.location)
    let forgiven := options.contains 'f' && done matches .error .notFound
    unless forgiven do
      unless ← orComplain s!"rm: cannot remove '{name}'" done do code := 1
  return code

def mkdir : Utility := fun args => do
  let withParents := args.contains "-p"
  let mut code := 0
  for name in args.filter (! ·.startsWith "-") do
    let done ← withFiles fun files cwd =>
      if withParents then files.createDirectories cwd name
      else match files.makeDirectory cwd name with
        | .error fault => (.error fault, files)
        | .ok files => (.ok (), files)
    unless ← orComplain s!"mkdir: cannot create directory '{name}'" done do code := 1
  return code

def touch : Utility := fun args => do
  let mut code := 0
  for name in args do
    let done ← withFiles fun files cwd =>
      match files.update cwd name id with
      | .ok files => (.ok (), files)
      | .error .isDirectory => (.ok (), files)
      | .error fault => (.error fault, files)
    unless ← orComplain s!"touch: cannot touch '{name}'" done do code := 1
  return code

/-- Copies or moves a file. -/
def transfer (start : String) (remove : Bool) : Utility := fun args => do
  match args.filter (! ·.startsWith "-") with
  | [source, target] =>
    match ← contentOf s!"{start}: " source with
    | none => return 1
    | some bytes =>
      let done ← withFiles fun files cwd =>
        let base := (Files.names source).getLastD ""
        let place := if (files.list? cwd target).isSome then joinPath target base else target
        match files.write cwd place bytes, files.resolve cwd source with
        | .ok files, .ok old => (.ok (), if remove then files.erase old.location else files)
        | .ok files, .error _ => (.ok (), files)
        | .error fault, _ => (.error fault, files)
      return codeOf (← orComplain s!"{start}: cannot create '{target}'" done)
  | _ =>
    complain s!"{start}: missing operand"
    return 1

/-! ### Time and processes -/

/-- The length of a pause: a number of seconds, or of another unit named by a letter. -/
def pause? (raw : String) : Option Nat :=
  let cs := raw.toList
  let (number, factor) := match cs.getLast? with
    | some 's' => (cs.dropLast, 1)
    | some 'm' => (cs.dropLast, 60)
    | some 'h' => (cs.dropLast, 3600)
    | some 'd' => (cs.dropLast, 86400)
    | _ => (cs, 1)
  match Binary64.ofText? (String.ofList number) with
  | some x =>
    if x.isFinite && !x.negative then
      some (Binary64.units x.magnitude * 1000 * factor / Binary64.unitsPerOne)
    else if x.isInfinite && !x.negative then some UInt64.size
    else none
  | none => none

/-- Pauses for the sum of its arguments. -/
def pauseAll : Utility := fun args => do
  match args.find? fun a => (pause? a).isNone with
  | some bad =>
    complain s!"sleep: invalid time interval '{bad}'"
    complain "Try 'sleep --help' for more information."
    return 1
  | none =>
    if args.isEmpty then
      complain "sleep: missing operand"
      complain "Try 'sleep --help' for more information."
      return 1
    sleep ((args.filterMap pause?).foldl (· + ·) 0)
    return 0

def signalNumber? (raw : String) : Option Nat :=
  match raw.toNat? with
  | some n => some n
  | none =>
    let upper := raw.toUpper
    let name := if upper.startsWith "SIG" then String.ofList (upper.toList.drop 3) else upper
    (signalNames.findIdx? (· = name)).map (· + 1)

/-- The signals that a process does not notice. -/
def ignoredSignals : List Nat := [0, 17, 18, 23, 28]

/-- The signals that stop a process without ending it. -/
def stoppingSignals : List Nat := [19, 20, 21, 22]

/-- Sends a signal to the script itself. -/
def kill : Utility := fun args => do
  let (signal, targets) := match args with
    | "-s" :: name :: rest => (signalNumber? name, rest)
    | option :: rest =>
      match option.toList with
      | '-' :: name => (signalNumber? (String.ofList name), rest)
      | _ => (some 15, option :: rest)
    | [] => (some 15, [])
  match signal with
  | none =>
    complainHere "kill: invalid signal number or name"
    return 2
  | some n =>
    if !targets.contains processNumber then
      complainHere "kill: No such process"
      return 1
    else if ignoredSignals.contains n then return 0
    else if stoppingSignals.contains n then throw .endless
    else throw (.ended (.signal n))

/-! ### Tests -/

/-- The value of a test of one operand. -/
def unaryTest? (s : State) (operator operand : String) : Option Bool :=
  let entry := match s.files.resolve s.cwd operand with
    | .ok target => target.entry
    | .error _ => none
  match operator with
  | "-n" => some (!operand.isEmpty)
  | "-z" => some operand.isEmpty
  | "-e" | "-r" | "-w" => some entry.isSome
  | "-f" => some (entry matches some (.file _) | some .program)
  | "-d" => some (entry matches some .directory)
  | "-c" => some (entry matches some .void)
  | "-x" => some (entry matches some .directory | some .program)
  | "-s" => some (match entry with
    | some (.file bytes) => !bytes.isEmpty
    | some .directory | some .program => true
    | some .void | none => false)
  | "-b" | "-h" | "-L" | "-p" | "-S" | "-t" => some false
  | _ => none

/-- The value of a test of two operands, or the operand that is no number. -/
def binaryTest? (left operator right : String) : Option (Except String Bool) :=
  let compare (f : Int64 → Int64 → Bool) : Option (Except String Bool) := some (
    match Arithmetic.integer? left, Arithmetic.integer? right with
    | some a, some b =>
      if left.isEmpty then .error left else if right.isEmpty then .error right else .ok (f a b)
    | none, _ => .error left
    | _, none => .error right)
  match operator with
  | "=" | "==" => some (.ok (left = right))
  | "!=" => some (.ok (left ≠ right))
  | "<" => some (.ok (left < right))
  | ">" => some (.ok (right < left))
  | "-eq" => compare fun a b => a = b
  | "-ne" => compare fun a b => a ≠ b
  | "-lt" => compare fun a b => a < b
  | "-le" => compare fun a b => a ≤ b
  | "-gt" => compare fun a b => b < a
  | "-ge" => compare fun a b => b ≤ a
  | _ => none

/-- The value of a test, or what is wrong with it. -/
def evalTest (s : State) : Nat → List String → Except String Bool
  | 0, _ => .error "too many arguments"
  | _, [] => .ok false
  | _, [word] => .ok (!word.isEmpty)
  | fuel + 1, words => do
    let illegal (raw : String) : String := s!"Illegal number: {raw}"
    match words with
    | [a, o, b] =>
      match binaryTest? a o b with
      | some (.ok value) => return value
      | some (.error raw) => throw (illegal raw)
      | none =>
        if o = "-a" then return !a.isEmpty && !b.isEmpty
        if o = "-o" then return !a.isEmpty || !b.isEmpty
        if a = "!" then return !(← evalTest s fuel [o, b])
        if a = "(" && b = ")" then return !o.isEmpty
        throw s!"{o}: unexpected operator"
    | ["!", word] => return word.isEmpty
    | [o, word] =>
      match unaryTest? s o word with
      | some value => return value
      | none => throw s!"{o}: unexpected operator"
    | words =>
      match words.findIdx? (· = "-o") with
      | some i =>
        let left ← evalTest s fuel (words.take i)
        return left || (← evalTest s fuel (words.drop (i + 1)))
      | none =>
        match words.findIdx? (· = "-a") with
        | some i =>
          let left ← evalTest s fuel (words.take i)
          return left && (← evalTest s fuel (words.drop (i + 1)))
        | none =>
          match words with
          | "!" :: rest => return !(← evalTest s fuel rest)
          | first :: _ => throw s!"{first}: unexpected operator"
          | [] => return false

def test (name : String) : Utility := fun args => do
  match evalTest (← get) (args.length + 2) args with
  | .ok value => return codeOf value
  | .error text =>
    complainHere s!"{name}: {text}"
    return 2

/-- Tests the arguments up to a closing bracket. -/
def bracket : Utility := fun args => do
  if args.getLast? = some "]" then test "[" args.dropLast
  else
    complainHere "[: missing ]"
    return 2

/-! ### Programs -/

def pwd : Utility := fun _ => do
  print ("/" ++ "/".intercalate (← get).cwd ++ "\n")
  return 0

/-- What the programs of the system do, by name, save the one that runs scripts. -/
def programs : List (String × Utility) :=
  [("true", fun _ => return 0), ("false", fun _ => return 1), ("echo", plainEcho),
   ("printf", printf), ("pwd", pwd), ("cat", cat), ("ls", ls), ("head", head), ("wc", wc),
   ("seq", seq), ("rm", rm), ("mkdir", mkdir), ("touch", touch), ("cp", transfer "cp" false),
   ("mv", transfer "mv" true), ("sleep", pauseAll), ("test", test "test"), ("[", bracket)]

/-- The utilities that scripts have without a program. -/
def builtins : List (String × Utility) :=
  [(":", fun _ => return 0), ("true", fun _ => return 0), ("false", fun _ => return 1),
   ("echo", echo), ("printf", printf), ("pwd", pwd), ("test", test "test"), ("[", bracket),
   ("kill", kill), ("wait", fun _ => return 0), ("trap", fun _ => return 0),
   ("umask", fun _ => return 0)]

/-- The program that a path leads to, by its name. -/
def programAt (files : Files) (cwd : Location) (path : String) : Except OsFault String := do
  let target ← files.resolve cwd path
  match target.entry with
  | some .program => .ok (target.location.getLastD path)
  | some _ => .error .permissionDenied
  | none => .error .notFound

/-- The first program of a name in some directories.  Something else of that name is passed over,
but in the end it, and no longer the absence of everything, is the fault. -/
def firstProgram (files : Files) (cwd : Location) (name : String) (fault : OsFault) :
    List String → Except OsFault String
  | [] => .error fault
  | directory :: rest => match programAt files cwd (joinPath directory name) with
    | .ok found => .ok found
    | .error .permissionDenied => firstProgram files cwd name .permissionDenied rest
    | .error _ => firstProgram files cwd name fault rest

/-- The program that a word stands for: the one that it leads to if it is a path, and otherwise
one of that name in the directories of a search path. -/
def findProgram (files : Files) (cwd : Location) (searchPath word : String) :
    Except OsFault String :=
  if word.isEmpty then .error .notFound
  else if word.toList.contains '/' then programAt files cwd word
  else if Files.maxNameLength < word.utf8ByteSize then .error .nameTooLong
  else firstProgram files cwd word .notFound
    ((Text.pieces ':' searchPath.toList).map String.ofList)

end SizeSweep.Shell
