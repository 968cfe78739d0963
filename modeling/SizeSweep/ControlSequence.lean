/-!
Terminal control sequences.  A complete sequence is an introducer, the character U+009B or an
escape and `[`, then parameter characters, then intermediate characters, then one final character.
The three classes are disjoint, so at each place of a text at most one complete sequence begins.
-/

namespace SizeSweep.ControlSequence

def isParameter (c : Char) : Bool := '0' ≤ c && c ≤ '?'

def isIntermediate (c : Char) : Bool := ' ' ≤ c && c ≤ '/'

/-- A character that ends a control sequence. -/
def isFinal (c : Char) : Bool := '@' ≤ c && c ≤ '~'

/-- The length of what completes a control sequence after its introducer. -/
def bodyLength? (cs : List Char) : Option Nat :=
  let parameters := cs.takeWhile isParameter
  let afterParameters := cs.dropWhile isParameter
  let intermediates := afterParameters.takeWhile isIntermediate
  match afterParameters.dropWhile isIntermediate with
  | c :: _ => if isFinal c then some (parameters.length + intermediates.length + 1) else none
  | [] => none

/-- The length of the complete sequence that a text begins with. -/
def length? : List Char → Option Nat
  | '\u009b' :: rest => (bodyLength? rest).map (· + 1)
  | '\x1b' :: '[' :: rest => (bodyLength? rest).map (· + 2)
  | _ => none

/-- A text without its complete sequences, from its `skip`-th character on. -/
def stripFrom (skip : Nat) : List Char → List Char
  | [] => []
  | c :: rest =>
    match skip with
    | skip + 1 => stripFrom skip rest
    | 0 => match length? (c :: rest) with
      | some n => stripFrom (n - 1) rest
      | none => c :: stripFrom 0 rest

/-- A text without its complete control sequences; incomplete ones stay. -/
def strip (cs : List Char) : List Char := stripFrom 0 cs

end SizeSweep.ControlSequence
