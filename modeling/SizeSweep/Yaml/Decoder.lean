import SizeSweep.Yaml.Meaning

/-!
Decoders turn a tree into a value of a type.  They work through the tree in document order and stop
at the first misfit, which is reported with its place, or where the tree is cut.  A record is
decoded entry by entry into a draft; only at the end is it asked whether a required field is
missing.
-/

namespace SizeSweep.Yaml

/-- A step from a node into one of its parts. -/
inductive Step where
  | key (name : String)
  | item (index : Nat)
  /-- To the value under a key that is written as an alias. -/
  | unnamed
deriving DecidableEq

/-- The steps that lead to a node, the last one first. -/
abbrev Place := List Step

def Place.text : Place → String
  | [] => ""
  | step :: around =>
    let start := text around
    let below := if start.isEmpty then "" else start ++ "."
    match step with
    | .key name => below ++ name
    | .item index => s!"{start}[{index}]"
    | .unnamed => below ++ "?"

/-- What stands where something else is wanted. -/
inductive Found where
  | scalar (meaning : Meaning)
  | sequence
  | mapping

def Found.text : Found → String
  | scalar meaning => meaning.description
  | sequence => "sequence"
  | mapping => "map"

inductive Misfit where
  | wrongType (found : Found) (expected : String)
  | wrongValue (found : Meaning) (expected : String)
  | missingField (name : String)
  | duplicateField (name : String)
  | unknownField (name : String) (choices : List String)
  | unknownVariant (name : String) (choices : List String)

def choicesText (choices : List String) : String :=
  match choices.map fun choice => s!"`{choice}`" with
  | [only] => only
  | [first, second] => s!"{first} or {second}"
  | quoted => "one of " ++ ", ".intercalate quoted

def Misfit.message : Misfit → String
  | wrongType found expected => s!"invalid type: {found.text}, expected {expected}"
  | wrongValue found expected => s!"invalid value: {found.description}, expected {expected}"
  | missingField name => s!"missing field `{name}`"
  | duplicateField name => s!"duplicate field `{name}`"
  | unknownField name choices => s!"unknown field `{name}`, expected {choicesText choices}"
  | unknownVariant name choices => s!"unknown variant `{name}`, expected {choicesText choices}"

structure Mismatch where
  place : Place
  misfit : Misfit

def Mismatch.message (mismatch : Mismatch) : String :=
  if mismatch.place.isEmpty then mismatch.misfit.message
  else s!"{mismatch.place.text}: {mismatch.misfit.message}"

/-- Why a text does not stand for a value. -/
inductive ReadFault where
  | malformed (fault : Fault)
  /-- What the text says is not a value of the type. -/
  | misfit (mismatch : Mismatch)

def ReadFault.message : ReadFault → String
  | malformed fault => fault.message
  | misfit mismatch => mismatch.message

/-- What makes a value of a node at a place of a document. -/
abbrev Decoder (α : Type) := Document → Place → Node → Except ReadFault α

/-- Why a node is not what was expected at a place. -/
def Node.refusal (place : Place) (expected : String) : Node → ReadFault
  | .scalar raw style tag => match Meaning.ofScalar raw style tag with
    | .ok meaning => .misfit ⟨place, .wrongType (.scalar meaning) expected⟩
    | .error standard => .misfit ⟨place, .wrongValue (.text raw) standard.description⟩
  | .sequence .. => .misfit ⟨place, .wrongType .sequence expected⟩
  | .mapping .. => .misfit ⟨place, .wrongType .mapping expected⟩
  | .reference _ => .misfit ⟨place, .wrongType (.scalar .null) expected⟩
  | .cut fault => .malformed fault

/-- Whether nothing is written where a node should be. -/
def Node.isNothing : Node → Bool
  | .scalar raw style _ => raw.isEmpty && style = .plain
  | _ => false

namespace Decoder

/-! ### Scalars -/

/-- Any scalar, as its text. -/
def text (expected : String) : Decoder String := fun document place node =>
  match document.deref node with
  | .scalar raw _ _ => .ok raw
  | node => .error (node.refusal place expected)

/-- Whether a scalar can have a standard type: it is unquoted, or a literal block with its tag. -/
def canBe (standard : Meaning.Standard) (style : ScalarStyle) (tag : Option Bytes) : Bool :=
  style = .plain || (style = .literal && tag.bind Meaning.Standard.ofTag? = some standard)

/-- A natural number below `2 ^ 64`. -/
def size (expected : String) : Decoder UInt64 := fun document place node =>
  let node := document.deref node
  let wrong := Except.error (node.refusal place expected)
  match node with
  | .scalar raw style tag =>
    if canBe .integer style tag then
      match Meaning.natural? raw.toList with
      | some n => if n < UInt64.size then .ok (.ofNat n) else wrong
      | none => wrong
    else wrong
  | _ => wrong

/-- A natural number below `2 ^ 32`. -/
def count (expected : String) : Decoder UInt32 := fun document place node => do
  let n ← size expected document place node
  if n.toNat < UInt32.size then .ok (.ofNat n.toNat)
  else .error (.misfit ⟨place, .wrongValue (.integer n.toNat) expected⟩)

def boolean : Decoder Bool := fun document place node =>
  let node := document.deref node
  let wrong := Except.error (node.refusal place "a boolean")
  match node with
  | .scalar raw style tag =>
    if canBe .boolean style tag then
      match Meaning.boolean? raw with
      | some b => .ok b
      | none => wrong
    else wrong
  | _ => wrong

/-- One of some values by its name: the text of a scalar, or a tag of its own on nothing.  A tag
that names none of them is reported at the place around. -/
def variant {α : Type} (variants : List (String × α)) : Decoder α := fun document place node =>
  let choose (place : Place) (name : String) : Except ReadFault α :=
    match variants.lookup name with
    | some value => .ok value
    | none => .error (.misfit ⟨place, .unknownVariant name (variants.map Prod.fst)⟩)
  let node := document.deref node
  let localTag : Option String := match node with
    | .scalar _ _ tag | .sequence _ tag | .mapping _ tag => tag.bind Meaning.localName?
    | .reference _ | .cut _ => none
  match localTag, node with
  | none, .scalar raw _ _ => choose place raw
  | none, node => .error (node.refusal place "a YAML tag starting with '!'")
  | some name, .scalar raw style _ => do
    let value ← choose (place.drop 1) name
    if style = .plain && (raw.isEmpty || Meaning.isNull raw) then .ok value
    else .error (.misfit ⟨place, .wrongValue (.text raw) "null"⟩)
  | some name, node => do
    discard (choose (place.drop 1) name)
    .error (node.refusal place "unit")

/-- A value, or none where nothing or null stands.  Something else under the tag of null is
reported at the place around. -/
def optional {α : Type} (decoder : Decoder α) : Decoder (Option α) := fun document place node =>
  let found := (decoder document place node).map some
  match document.deref node with
  | .scalar raw .plain tag =>
    match tag with
    | none => if raw.isEmpty || Meaning.isNull raw then .ok none else found
    | some tag =>
      if Meaning.Standard.ofTag? tag = some .null then
        if Meaning.isNull raw then .ok none
        else .error (.misfit ⟨place.drop 1, .wrongValue (.text raw) "null"⟩)
      else found
  | _ => found

/-! ### Collections -/

/-- The values of items, the first of which has the number `index`. -/
def items {α : Type} (decoder : Decoder α) (document : Document) (place : Place) :
    Nat → List Node → Except ReadFault (List α)
  | _, [] => .ok []
  | index, node :: rest => do
    let value ← decoder document (.item index :: place) node
    return value :: (← items decoder document place (index + 1) rest)

/-- A list of values, empty where nothing stands. -/
def list {α : Type} (decoder : Decoder α) : Decoder (List α) := fun document place node =>
  match document.deref node with
  | .sequence nodes _ => items decoder document place 0 nodes
  | node => if node.isNothing then .ok [] else .error (node.refusal place "a sequence")

/-- The step from a mapping to the value under a key. -/
def stepTo : Node → Step
  | .scalar name _ _ => .key name
  | _ => .unnamed

/-- The entries of a node that can be a mapping, which has none where nothing stands. -/
def entries (expected : String) : Decoder (List (Node × Node)) := fun document place node =>
  match document.deref node with
  | .mapping entries _ => .ok entries
  | node => if node.isNothing then .ok [] else .error (node.refusal place expected)

/-- Puts a word under a key into a list sorted by keys, in place of the one that is there. -/
def insertSorted (key word : String) : List (String × String) → List (String × String)
  | [] => [(key, word)]
  | entry :: rest =>
    if key < entry.1 then (key, word) :: entry :: rest
    else if key = entry.1 then (key, word) :: rest
    else entry :: insertSorted key word rest

/-- Words under keys, sorted by keys; the last word under a key counts. -/
def dictionary : Decoder (List (String × String)) := fun document place node => do
  (← entries "a map" document place node).foldlM (fun words (keyNode, valueNode) => do
    let key ← text "a string" document place keyNode
    let word ← text "a string" document (stepTo keyNode :: place) valueNode
    return insertSorted key word words) []

end Decoder

/-! ### Records -/

/-- A field of a record that is collected in drafts of type `D`. -/
structure RecordField (D : Type) where
  name : String
  isSet : D → Bool
  /-- How the value of the field changes a draft. -/
  decoder : Decoder (D → D)

namespace RecordField

/-- A field from its decoder, and from how a draft is asked for it and gets it. -/
def of {D α : Type} (name : String) (get : D → Option α) (set : D → α → D) (decoder : Decoder α) :
    RecordField D where
  name
  isSet draft := (get draft).isSome
  decoder document place node :=
    (decoder document place node).map fun value draft => set draft value

/-- Reads one entry of a record into a draft. -/
def fill {D : Type} (fields : List (RecordField D)) (document : Document) (place : Place)
    (draft : D) (entry : Node × Node) : Except ReadFault D :=
  match document.deref entry.1 with
  | .scalar name _ _ =>
    match fields.find? (·.name = name) with
    | none => .error (.misfit ⟨place, .unknownField name (fields.map RecordField.name)⟩)
    | some field =>
      if field.isSet draft then .error (.misfit ⟨place, .duplicateField name⟩)
      else (field.decoder document (Decoder.stepTo entry.1 :: place) entry.2).map (· draft)
  | key => .error (key.refusal place "field identifier")

end RecordField

/-- A record: its entries are read into a draft, and `complete` makes the record of it or names
the required field that is missing. -/
def Decoder.record {D α : Type} (described : String) (fields : List (RecordField D)) (blank : D)
    (complete : D → Except String α) : Decoder α := fun document place node => do
  let entries ← Decoder.entries described document place node
  let draft ← entries.foldlM (RecordField.fill fields document place) blank
  match complete draft with
  | .ok value => .ok value
  | .error name => .error (.misfit ⟨place, .missingField name⟩)

/-- The value that a text stands for.  Where it has no document, nothing stands.  A misfit is met
before a fault of the text that stands behind it. -/
def Decoder.ofText {α : Type} (decoder : Decoder α) (text : String) : Except ReadFault α := do
  let document := Document.ofText text
  let value ← decoder document [] (document.root.getD Node.nothing)
  match document.fault with
  | none => return value
  | some fault => .error (.malformed fault)

end SizeSweep.Yaml
