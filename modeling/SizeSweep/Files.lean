import SizeSweep.OsFault
import SizeSweep.Text.Blank
import SizeSweep.Text.Utf8

/-!
A directory tree.  Paths are read name by name, from the root or from a directory, and every
operation either gives the new tree or the fault that the operating system would report.  Around
the files at hand the tree holds the directories and programs of the system.
-/

namespace SizeSweep

/-- What a name in a directory stands for. -/
inductive Entry where
  | directory
  | file (content : Bytes)
  /-- A file that keeps nothing: it is empty whatever is written to it. -/
  | void
  /-- A program of the system, called by its name. -/
  | program
deriving DecidableEq

/-- What can be read in the file of a program: the mark of programs, and no text. -/
def programContent : Bytes := [0x7F, 0x45, 0x4C, 0x46, 0xFF]

def Entry.content : Entry → Except OsFault Bytes
  | directory => .error .isDirectory
  | file bytes => .ok bytes
  | void => .ok []
  | program => .ok programContent

/-- A place in the tree: the names that lead to it from the root. -/
abbrev Location := List String

/-- A directory tree.  The entries of the system are always there; every other entry is listed
once. -/
structure Files where
  entries : List (Location × Entry) := []
deriving DecidableEq

/-- What a path leads to. -/
structure Target where
  location : Location
  entry : Option Entry
  /-- Whether the path asks for a directory by ending in a slash. -/
  asDirectory : Bool
deriving DecidableEq

/-- What a path holds for one that reads and writes a single file there. -/
inductive Spot where
  /-- Nothing yet, but a file can be created. -/
  | missing
  | content (bytes : Bytes)
  /-- No file can be there. -/
  | blocked (fault : OsFault)
deriving DecidableEq

namespace Files

/-- The directory that paths begin in which do not begin at the root. -/
def home : Location := ["tmp", "work"]

def systemDirectories : List Location :=
  [[], ["bin"], ["dev"], ["etc"], ["home"], ["tmp"], home, ["usr"], ["usr", "bin"], ["var"]]

def systemPrograms : List String :=
  ["[", "cat", "cp", "echo", "false", "head", "ls", "mkdir", "mv", "printf", "pwd", "rm", "seq",
   "sh", "sleep", "test", "touch", "true", "wc"]

/-- The entry of the system at a location. -/
def systemAt? (location : Location) : Option Entry :=
  if systemDirectories.contains location then some .directory
  else match location with
    | ["dev", "null"] => some .void
    | ["bin", name] | ["usr", "bin", name] =>
      if systemPrograms.contains name then some .program else none
    | _ => none

def lookup? (files : Files) (location : Location) : Option Entry :=
  (files.entries.lookup location).or (systemAt? location)

def put (files : Files) (location : Location) (entry : Entry) : Files :=
  ⟨(location, entry) :: files.entries.filter (·.1 ≠ location)⟩

/-- The tree without a location and all that lies below it. -/
def erase (files : Files) (location : Location) : Files :=
  ⟨files.entries.filter fun e => !location.isPrefixOf e.1⟩

/-! ### Paths -/

/-- The longest name, in bytes. -/
def maxNameLength : Nat := 255

/-- The longest path, in bytes. -/
def maxPathLength : Nat := 4095

/-- Where names lead from a directory. -/
def walk (files : Files) (base : Location) : List String → Except OsFault Target
  | [] => .ok ⟨base, some .directory, true⟩
  | name :: rest =>
    if name = "" || name = "." then walk files base rest
    else if name = ".." then walk files base.dropLast rest
    else if maxNameLength < name.utf8ByteSize then .error .nameTooLong
    else
      let next := base ++ [name]
      match files.lookup? next with
      | some .directory => walk files next rest
      | some entry => if rest.isEmpty then .ok ⟨next, some entry, false⟩ else .error .notDirectory
      | none =>
        if rest.all (·.isEmpty) then .ok ⟨next, none, !rest.isEmpty⟩ else .error .notFound

def names (path : String) : List String := (Text.pieces '/' path.toList).map String.ofList

/-- Where a path leads from a directory; a path that begins with a slash starts at the root. -/
def resolve (files : Files) (cwd : Location) (path : String) : Except OsFault Target :=
  if path.toList.contains '\x00' then .error .zeroInName
  else if path.isEmpty then .error .notFound
  else if maxPathLength < path.utf8ByteSize then .error .nameTooLong
  else files.walk (if path.startsWith "/" then [] else cwd) (names path)

/-- What a path holds for one that keeps a file there. -/
def spot (files : Files) (cwd : Location) (path : String) : Spot :=
  match files.resolve cwd path with
  | .error fault => .blocked fault
  | .ok target =>
    match target.entry with
    | some entry => match entry.content with
      | .ok bytes => .content bytes
      | .error fault => .blocked fault
    | none => if target.asDirectory then .blocked .isDirectory else .missing

/-! ### Operations -/

def read (files : Files) (cwd : Location) (path : String) : Except OsFault Bytes := do
  match (← files.resolve cwd path).entry with
  | none => .error .notFound
  | some entry => entry.content

def readText (files : Files) (cwd : Location) (path : String) : Except OsFault String := do
  match Text.decode (← files.read cwd path) with
  | .error _ => .error .invalidText
  | .ok text => .ok text

/-- The tree with a file's content replaced by what `change` makes of it, the file created if it
is missing. -/
def update (files : Files) (cwd : Location) (path : String) (change : Bytes → Bytes) :
    Except OsFault Files := do
  let target ← files.resolve cwd path
  match target.entry with
  | some .directory => .error .isDirectory
  | some .void => .ok files
  | some .program => .error .permissionDenied
  | some (.file bytes) => .ok (files.put target.location (.file (change bytes)))
  | none =>
    if target.asDirectory then .error .isDirectory
    else .ok (files.put target.location (.file (change [])))

def write (files : Files) (cwd : Location) (path : String) (bytes : Bytes) :
    Except OsFault Files :=
  files.update cwd path fun _ => bytes

/-- The tree with the content of the file at a spot replaced.  A spot that can hold no file stays
as it is. -/
def setContent (files : Files) (cwd : Location) (path : String) (bytes : Bytes) : Files :=
  (files.write cwd path bytes).toOption.getD files

/-- Makes a directory of the last of some names in the one that the names before lead to. -/
def makeNamed (files : Files) (base : Location) (names : List String) :
    Except OsFault Files := do
  let names := (names.reverse.dropWhile (·.isEmpty)).reverse
  let around ← files.walk base names.dropLast
  match around.entry, names.getLast? with
  | none, _ => .error .notFound
  | some .directory, none => .error .alreadyExists
  | some .directory, some name =>
    if name = "." || name = ".." then .error .alreadyExists
    else if maxNameLength < name.utf8ByteSize then .error .nameTooLong
    else
      let location := around.location ++ [name]
      if (files.lookup? location).isSome then .error .alreadyExists
      else .ok (files.put location .directory)
  | some _, _ => .error .notDirectory

/-- Makes a directory, the ones around it being there. -/
def makeDirectory (files : Files) (cwd : Location) (path : String) : Except OsFault Files :=
  if path.toList.contains '\x00' then .error .zeroInName
  else if path.isEmpty then .error .notFound
  else if maxPathLength < path.utf8ByteSize then .error .nameTooLong
  else files.makeNamed (if path.startsWith "/" then [] else cwd) (names path)

def isDirectory (files : Files) (cwd : Location) (path : String) : Bool :=
  match files.resolve cwd path with
  | .ok target => target.entry = some .directory
  | .error _ => false

/-- Makes a directory, unless it is there. -/
def ensureDirectory (files : Files) (cwd : Location) (path : String) : Except OsFault Files :=
  match files.makeDirectory cwd path with
  | .ok files => .ok files
  | .error fault => if files.isDirectory cwd path then .ok files else .error fault

/-- Makes a directory, unless it is there.  If the one around it is missing, that one is made
first; the paths of those around are given, innermost first. -/
def ensureWithin (files : Files) (cwd : Location) (path : String) :
    List String → Except OsFault Unit × Files
  | [] => match files.ensureDirectory cwd path with
    | .ok files => (.ok (), files)
    | .error fault => (.error fault, files)
  | outer :: rest => match files.ensureDirectory cwd path with
    | .ok files => (.ok (), files)
    | .error .notFound => match files.ensureWithin cwd outer rest with
      | (.error fault, files) => (.error fault, files)
      | (.ok (), files) => match files.ensureDirectory cwd path with
        | .ok files => (.ok (), files)
        | .error fault => (.error fault, files)
    | .error fault => (.error fault, files)

/-- The paths of the directories around a path, innermost first. -/
def pathsAround (path : String) : List String :=
  let steps := (names path).filter fun name => !name.isEmpty && name ≠ "."
  let start := if path.startsWith "/" then "/" else ""
  (List.range steps.length).tail.reverse.map fun n => start ++ "/".intercalate (steps.take n)

/-- Makes a directory and those above it that are missing.  Nothing has to be made for the empty
path. -/
def createDirectories (files : Files) (cwd : Location) (path : String) :
    Except OsFault Unit × Files :=
  if path.isEmpty then (.ok (), files) else files.ensureWithin cwd path (pathsAround path)

/-- The names in a directory, if a path leads to one. -/
def list? (files : Files) (cwd : Location) (path : String) : Option (List String) :=
  match files.resolve cwd path with
  | .ok ⟨location, some .directory, _⟩ =>
    some (files.entries.filterMap fun (at_, _) =>
      if at_.dropLast = location then at_.getLast? else none)
  | _ => none

end Files

/-- A path below another: an absolute path stands for itself. -/
def joinPath (directory name : String) : String :=
  if name.startsWith "/" then name
  else if directory.isEmpty || directory.endsWith "/" then directory ++ name
  else directory ++ "/" ++ name

end SizeSweep
