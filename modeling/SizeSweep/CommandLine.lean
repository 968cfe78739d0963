/-!
Command lines.  Words are read from left to right into a value of type `A`; an option that waits
for its value is settled only when the next option or the end of the line is reached.  The first
misuse ends the reading, and so does a request for help.
-/

namespace SizeSweep.CommandLine

/-- Why a command line is not carried out. -/
inductive Stop where
  | displayHelp
  | displayVersion
  /-- A word is no option and no value of one. -/
  | unknownArgument
  | unreadableValue
  /-- A value is missing, empty where it must not be, or none of a fixed set. -/
  | invalidValue
  | repeatedOption
  | valueForFlag
  | missingRequired
deriving DecidableEq

/-- Whether the user asked for the stop. -/
def Stop.isRequest (stop : Stop) : Bool := stop = .displayHelp || stop = .displayVersion

def Stop.exitCode (stop : Stop) : Nat := if stop.isRequest then 0 else 2

/-- What an option does to the arguments read so far. -/
inductive Action (A : Type) where
  /-- The option takes no value. -/
  | flag (set : A → Except Stop A)
  | setting (set : String → A → Except Stop A)
  /-- The option ends the reading. -/
  | stop (stop : Stop)

/-- An option: its long name, perhaps a letter, and what it does. -/
structure Switch (A : Type) where
  name : String
  letter : Option Char := none
  action : Action A

/-- The options that every command line has. -/
def standardSwitches {A : Type} : List (Switch A) :=
  [⟨"help", some 'h', .stop .displayHelp⟩, ⟨"version", some 'V', .stop .displayVersion⟩]

/-! ### Values -/

def setOnce {A α : Type} (get : A → Option α) (set : A → α → A) (read : String → Except Stop α)
    (raw : String) (a : A) : Except Stop A :=
  if (get a).isSome then .error .repeatedOption else (read raw).map (set a)

def flagOnce {A : Type} (get : A → Bool) (set : A → A) (a : A) : Except Stop A :=
  if get a then .error .repeatedOption else .ok (set a)

/-- A path, which is not empty. -/
def path (raw : String) : Except Stop String :=
  if raw.isEmpty then .error .invalidValue else .ok raw

/-- One of some values by its name. -/
def choice {α : Type} (choices : List (String × α)) (raw : String) : Except Stop α :=
  match choices.lookup raw with
  | some value => .ok value
  | none => .error .invalidValue

/-- A value that a reader accepts. -/
def readable {α : Type} (read : String → Option α) (raw : String) : Except Stop α :=
  match read raw with
  | some value => .ok value
  | none => .error .unreadableValue

/-! ### Reading -/

/-- An option that has been named: its effect, and its value if it has come. -/
structure Pending (A : Type) where
  set : String → A → Except Stop A
  value : Option String := none

/-- What is known in the middle of a command line. -/
structure Progress (A : Type) where
  arguments : A
  pending : Option (Pending A) := none

section Reading

variable {A : Type} (switches : List (Switch A))

/-- The arguments once the pending option is settled. -/
def Progress.settle (p : Progress A) : Except Stop A :=
  match p.pending with
  | none => .ok p.arguments
  | some ⟨_, none⟩ => .error .invalidValue
  | some ⟨set, some value⟩ => set value p.arguments

/-- Carries out an option that comes with a value or without. -/
def Progress.apply (p : Progress A) (action : Action A) (value : Option String) :
    Except Stop (Progress A) :=
  match action, value with
  | .setting set, some value => do return ⟨← set value (← p.settle), none⟩
  | .setting set, none => do return ⟨← p.settle, some ⟨set, none⟩⟩
  | _, some _ => .error .valueForFlag
  | .flag set, none => do return ⟨← set (← p.settle), none⟩
  | .stop stop, none => do
    discard p.settle
    .error stop

/-- Reads an option by its long name; a value may follow an equals sign. -/
def Progress.long (p : Progress A) (word : List Char) : Except Stop (Progress A) :=
  let name := String.ofList (word.takeWhile (· ≠ '='))
  let value := match word.dropWhile (· ≠ '=') with
    | [] => none
    | _ :: value => some (String.ofList value)
  match switches.find? (·.name = name) with
  | none => .error .unknownArgument
  | some switch => p.apply switch.action value

/-- Reads options by their letters; what follows the letter of an option with a value, an equals
sign left out, is its value. -/
def Progress.letters (p : Progress A) : List Char → Except Stop (Progress A)
  | [] => .ok p
  | c :: rest =>
    match switches.find? (·.letter = some c) with
    | none => .error .unknownArgument
    | some switch =>
      match switch.action with
      | .setting _ =>
        let value := match rest with
          | [] => none
          | '=' :: value => some (String.ofList value)
          | value => some (String.ofList value)
        p.apply switch.action value
      | action => do Progress.letters (← p.apply action none) rest

/-- Reads a word that is no option: the value of the pending option, if it waits for one. -/
def Progress.word (p : Progress A) (word : String) : Except Stop (Progress A) :=
  match p.pending with
  | some ⟨set, none⟩ => .ok { p with pending := some ⟨set, some word⟩ }
  | _ => .error .unknownArgument

/-- Reads the rest of a command line.  Nothing may follow a double hyphen. -/
def Progress.finish (p : Progress A) : List String → Except Stop A
  | [] => p.settle
  | word :: rest =>
    match word.toList with
    | ['-', '-'] => if rest.isEmpty then p.settle else .error .unknownArgument
    | '-' :: '-' :: cs => do Progress.finish (← p.long switches cs) rest
    | '-' :: c :: cs => do Progress.finish (← p.letters switches (c :: cs)) rest
    | _ => do Progress.finish (← p.word word) rest

end Reading

def parse {A : Type} (switches : List (Switch A)) (blank : A) (words : List String) :
    Except Stop A :=
  Progress.finish (switches ++ standardSwitches) ⟨blank, none⟩ words

end SizeSweep.CommandLine
