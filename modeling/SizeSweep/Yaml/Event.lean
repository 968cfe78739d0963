import SizeSweep.Yaml.Scan

/-!
A YAML document as a list of events: nodes begin and end, in the order of the text.  A malformed
text has the events in front of its fault, so that what stands there can be used before the fault
is met.
-/

namespace SizeSweep.Yaml

/-- What happens at a place of a document.  Tags are complete addresses, and an anchor has a
number: how many names were in use when its node began. -/
inductive Event where
  | scalar (text : String) (style : ScalarStyle) (tag : Option Bytes) (anchor : Option Nat)
  | openSequence (tag : Option Bytes) (anchor : Option Nat)
  | openMapping (tag : Option Bytes) (anchor : Option Nat)
  | close
  /-- An alias for a node with an anchor. -/
  | reference (anchor : Nat)
deriving DecidableEq

/-- The number of the anchor of the node that begins. -/
def Event.anchor? : Event → Option Nat
  | scalar _ _ _ anchor | openSequence _ anchor | openMapping _ anchor => anchor
  | close | reference _ => none

/-- What is known in the middle of a document. -/
structure Reader where
  tokens : List Token
  /-- The fault that stands after the tokens. -/
  fault : Option Fault
  handles : List (String × Bytes) := []
  /-- The numbers of the anchors by name, the latest first. -/
  names : List (String × Nat) := []
  /-- The events so far, the last one first. -/
  events : List Event := []

/-- A step of reading a document.  What is known survives a fault. -/
abbrev Parse (α : Type) := ExceptT Fault (StateM Reader) α

namespace Parse

def fail {α : Type} (activity : Option Activity) (problem : Problem) : Parse α :=
  throw ⟨problem, activity⟩

def peek : Parse Token := do
  let r ← get
  match r.tokens, r.fault with
  | token :: _, _ => return token
  | [], none => return .streamEnd
  | [], some fault => throw fault

def skip : Parse Unit := modify fun r => { r with tokens := r.tokens.drop 1 }

/-- Moves over a token if it is the given one, and says whether it was. -/
def accept (token : Token) : Parse Bool := do
  if (← peek) = token then
    skip
    return true
  else return false

def nextIsOneOf (tokens : List Token) : Parse Bool := do return tokens.contains (← peek)

def emit (event : Event) : Parse Unit := modify fun r => { r with events := event :: r.events }

def emitNothing : Parse Unit := emit (.scalar "" .plain none none)

/-! ### Properties -/

/-- The beginnings of addresses that every document knows. -/
def standardHandles : List (String × Bytes) :=
  [("!", Text.encode "!"), ("!!", Text.encode "tag:yaml.org,2002:")]

/-- The complete address of a tag. -/
def address (handle : String) (suffix : Bytes) : Parse Bytes := do
  if handle.isEmpty then return suffix
  match ((← get).handles ++ standardHandles).lookup handle with
  | some start => return start ++ suffix
  | none => fail (some .node) .undefinedHandle

def anchor? : Parse (Option String) := do
  match ← peek with
  | .anchor name =>
    skip
    return some name
  | _ => return none

def tag? : Parse (Option (String × Bytes)) := do
  match ← peek with
  | .tag handle suffix =>
    skip
    return some (handle, suffix)
  | _ => return none

/-- Reads an anchor and a tag, each at most once and in any order, up to what follows them. -/
def properties : Parse (Option String × Option Bytes) := do
  let early ← anchor?
  let tag ← tag?
  let anchor ← if early.isNone && tag.isSome then anchor? else pure early
  discard peek
  return (anchor, ← tag.mapM fun (handle, suffix) => address handle suffix)

/-- Gives an anchor a number. -/
def numberAnchor (name : String) : Parse Nat := do
  let r ← get
  let number := r.names.length
  set { r with names := (name, number) :: r.names.filter (·.1 ≠ name) }
  return number

/-- Adds the event that begins a node with properties. -/
def begin (event : Option Bytes → Option Nat → Event) (anchor : Option String)
    (tag : Option Bytes) : Parse Unit := do
  emit (event tag (← anchor.mapM numberAnchor))

/-! ### Nodes -/

mutual

/-- Reads a node.  Block collections may only stand outside brackets, and the entries of a mapping
may be a sequence at the indentation of the mapping itself. -/
def node (inBlock inMapping : Bool) : Nat → Parse Unit
  | 0 => fail none .noContent
  | fuel + 1 => do
    match ← peek with
    | .reference name =>
      skip
      match (← get).names.lookup name with
      | some number => emit (.reference number)
      | none => fail none .unknownAnchor
    | _ =>
      let (anchor, tag) ← properties
      content inBlock inMapping anchor tag fuel

/-- Reads what stands after the properties of a node. -/
def content (inBlock inMapping : Bool) (anchor : Option String) (tag : Option Bytes) :
    Nat → Parse Unit
  | 0 => fail none .noContent
  | fuel + 1 => do
    match ← peek with
    | .scalar text style =>
      skip
      begin (.scalar text style) anchor tag
    | .flowSequenceStart =>
      skip
      begin .openSequence anchor tag
      flowItems true fuel
    | .flowMappingStart =>
      skip
      begin .openMapping anchor tag
      flowEntries true fuel
    | token =>
      if inMapping && token = .blockEntry then
        begin .openSequence anchor tag
        compactItems fuel
      else if inBlock && token = .blockSequenceStart then
        skip
        begin .openSequence anchor tag
        blockItems fuel
      else if inBlock && token = .blockMappingStart then
        skip
        begin .openMapping anchor tag
        blockEntries fuel
      else if anchor.isSome || tag.isSome then begin (.scalar "" .plain) anchor tag
      else fail (some (if inBlock then .blockNode else .flowNode)) .noContent

/-- Reads a node, or nothing before one of some tokens. -/
def nodeUnless (ends : List Token) (inBlock inMapping : Bool) : Nat → Parse Unit
  | 0 => fail none .noContent
  | fuel + 1 => do
    if ← nextIsOneOf ends then emitNothing else node inBlock inMapping fuel

/-- Reads the items of a block sequence up to its end. -/
def blockItems : Nat → Parse Unit
  | 0 => fail none .noContent
  | fuel + 1 => do
    if ← accept .blockEntry then
      nodeUnless [.blockEntry, .blockEnd] true false fuel
      blockItems fuel
    else if ← accept .blockEnd then emit .close
    else fail (some .blockSequence) .noEntry

/-- Reads the items of a sequence at the indentation of the mapping around it. -/
def compactItems : Nat → Parse Unit
  | 0 => fail none .noContent
  | fuel + 1 => do
    if ← accept .blockEntry then
      nodeUnless [.blockEntry, .key, .value, .blockEnd] true false fuel
      compactItems fuel
    else emit .close

/-- Reads the entries of a block mapping up to its end. -/
def blockEntries : Nat → Parse Unit
  | 0 => fail none .noContent
  | fuel + 1 => do
    if ← accept .key then
      nodeUnless [.key, .value, .blockEnd] true true fuel
      if ← accept .value then nodeUnless [.key, .value, .blockEnd] true true fuel
      else emitNothing
      blockEntries fuel
    else if ← accept .blockEnd then emit .close
    else fail (some .blockMapping) .noKey

/-- Reads the items of a sequence in brackets. -/
def flowItems (first : Bool) : Nat → Parse Unit
  | 0 => fail none .noContent
  | fuel + 1 => do
    if ← accept .flowSequenceEnd then emit .close
    else
      unless first do
        unless ← accept .flowEntry do fail (some .flowSequence) .noSequenceEnd
      if ← accept .key then
        emit (.openMapping none none)
        singlePair fuel
        flowItems false fuel
      else if ← accept .flowSequenceEnd then emit .close
      else
        node false false fuel
        flowItems false fuel

/-- Reads an entry of a sequence that is a mapping of its own.  A key that is left out takes the
token after it along. -/
def singlePair : Nat → Parse Unit
  | 0 => fail none .noContent
  | fuel + 1 => do
    if ← nextIsOneOf [.value, .flowEntry, .flowSequenceEnd] then
      skip
      emitNothing
    else node false false fuel
    if ← accept .value then nodeUnless [.flowEntry, .flowSequenceEnd] false false fuel
    else emitNothing
    discard peek
    emit .close

/-- Reads the entries of a mapping in brackets. -/
def flowEntries (first : Bool) : Nat → Parse Unit
  | 0 => fail none .noContent
  | fuel + 1 => do
    if ← accept .flowMappingEnd then emit .close
    else
      unless first do
        unless ← accept .flowEntry do fail (some .flowMapping) .noMappingEnd
      if ← accept .key then
        nodeUnless [.value, .flowEntry, .flowMappingEnd] false false fuel
        if ← accept .value then nodeUnless [.flowEntry, .flowMappingEnd] false false fuel
        else emitNothing
        flowEntries false fuel
      else if ← accept .flowMappingEnd then emit .close
      else
        node false false fuel
        discard peek
        emitNothing
        flowEntries false fuel

end

/-! ### Documents -/

/-- Reads directives.  The version must be 1.1 or 1.2, and nothing is said twice. -/
def directives : Nat → Option (Nat × Nat) → List (String × Bytes) →
    Parse (Bool × List (String × Bytes))
  | 0, version, handles => return (version.isSome, handles)
  | fuel + 1, version, handles => do
    match ← peek with
    | .version major minor =>
      if version.isSome then fail none .repeatedVersion
      if major ≠ 1 || !(minor = 1 || minor = 2) then fail none .badVersion
      skip
      directives fuel (some (major, minor)) handles
    | .handle name uri =>
      if (handles.lookup name).isSome then fail none .repeatedHandle
      skip
      directives fuel version ((name, uri) :: handles)
    | _ => return (version.isSome || !handles.isEmpty, handles)

/-- Reads the tree of the first document, and says whether the text has a document. -/
def root : Parse Bool := do
  let fuel := 4 * (← get).tokens.length + 4
  if ← nextIsOneOf [.streamEnd] then return false
  let (directed, handles) ← directives fuel none []
  modify fun r => { r with handles }
  if ← accept .documentStart then
    match ← peek with
    | .version .. | .handle .. | .documentStart | .documentEnd | .streamEnd => emitNothing
    | _ => node true false fuel
  else if directed then fail none .noDocumentStart
  else node true false fuel
  return true

def skipEnds : Nat → Parse Unit
  | 0 => return
  | fuel + 1 => do if ← accept .documentEnd then skipEnds fuel

/-- Whether the text ends here.  Whatever else follows, malformed or not, is another document. -/
def isLast : Parse Bool :=
  tryCatch (do
    skipEnds (← get).tokens.length
    nextIsOneOf [.streamEnd]) fun _ => return false

/-- Reads the only document of a text. -/
def document : Parse Unit := do
  if ← root then
    discard (accept .documentEnd)
    unless ← isLast do fail none .severalDocuments

end Parse

/-- The events of the first document of a text, and the fault of the text if it has one. -/
def events (text : String) : List Event × Option Fault :=
  let (tokens, fault) := tokens text
  match Parse.document.run.run { tokens, fault } with
  | (.ok _, r) => (r.events.reverse, none)
  | (.error fault, r) => (r.events.reverse, some fault)

end SizeSweep.Yaml
