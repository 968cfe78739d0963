/-!
Shell scripts as trees.  A word is a list of pieces, which remember whether they were quoted: what
an unquoted piece stands for is split into fields at white space, a quoted one stays whole.
-/

namespace SizeSweep.Shell

/-- What a parameter is replaced by in place of its value. -/
inductive Substitute where
  /-- The word, if the parameter is not set. -/
  | default
  /-- The word, if the parameter is not set, which it then is. -/
  | assign
  /-- The word, if the parameter is set. -/
  | alternate
  /-- Nothing: an unset parameter is an error. -/
  | insist
deriving DecidableEq

/-- What is done with a file. -/
inductive Direction where
  | read
  | write
  | append
  | duplicate
  /-- The target is no name but what is read. -/
  | text
deriving DecidableEq

mutual

inductive Piece where
  | text (chars : String) (quoted : Bool)
  | parameter (name : String) (change : Change) (quoted : Bool)
  | output (script : List Command) (quoted : Bool)
  /-- The value of an integer expression. -/
  | value (expression : List Piece) (quoted : Bool)

/-- How the value of a parameter is changed. -/
inductive Change where
  | keep
  | length
  /-- The value is replaced depending on whether the parameter is set, or, with `orEmpty`, whether
  it is set and not empty. -/
  | replace (kind : Substitute) (orEmpty : Bool) (word : List Piece)
  /-- A part that matches a pattern is cut off at the front or at the end. -/
  | cut (atEnd longest : Bool) (pattern : List Piece)

/-- A channel of a command connected to a file or to another channel. -/
inductive Redirect where
  | mk (channel : Nat) (direction : Direction) (target : List Piece)

inductive Command where
  /-- Assignments, words and redirections in some line. -/
  | simple (line : Nat) (assignments : List (String × List Piece)) (words : List (List Piece))
    (redirects : List Redirect)
  /-- Commands in a row; those that run apart leave the variables as they are. -/
  | group (apart : Bool) (body : List Command) (redirects : List Redirect)
  | pipe (left right : Command)
  | negate (command : Command)
  /-- The right command runs if the left one succeeded. -/
  | andThen (left right : Command)
  /-- The right command runs if the left one failed. -/
  | orElse (left right : Command)
  | branch (test yes no : List Command)
  /-- The body runs while the test succeeds, or with `negated` while it fails. -/
  | loop (negated : Bool) (test body : List Command)
  /-- The body runs for every field of some words, or for every argument. -/
  | each (name : String) (words : Option (List (List Piece))) (body : List Command)
  | select (word : List Piece) (branches : List (List (List Piece) × List Command))
  /-- From now on a name stands for a command. -/
  | define (name : String) (body : Command)

end

abbrev Word := List Piece

end SizeSweep.Shell
