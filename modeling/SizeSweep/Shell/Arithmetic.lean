/-!
Integer expressions of scripts: 64-bit words, the usual operators and their precedence, and
assignment to variables.
-/

namespace SizeSweep.Shell

/-- The variables of a script with their values, the latest value of a variable first. -/
abbrev Variables := List (String × String)

def Variables.set (vars : Variables) (name value : String) : Variables :=
  (name, value) :: vars.filter (·.1 ≠ name)

namespace Arithmetic

inductive Expression where
  | number (value : Int64)
  | variable (name : String)
  | prefixed (operator : String) (operand : Expression)
  | binary (operator : String) (left right : Expression)
  | choice (test yes no : Expression)
  /-- Sets a variable, to the value itself or to what an operator makes of both. -/
  | assign (name : String) (operator : Option String) (value : Expression)

/-- Why an expression has no value. -/
inductive Problem where
  | expectingPrimary
  | expectingEnd
  | divisionByZero
  | illegalNumber (text : String)

def Problem.message (expression : String) : Problem → String
  | expectingPrimary => s!"arithmetic expression: expecting primary: \"{expression}\""
  | expectingEnd => s!"arithmetic expression: expecting EOF: \"{expression}\""
  | divisionByZero => s!"arithmetic expression: division by zero: \"{expression}\""
  | illegalNumber text => s!"Illegal number: {text}"

/-! ### Reading -/

inductive Token where
  | number (value : Int64)
  | name (text : String)
  | operator (text : String)
deriving DecidableEq

/-- The word nearest to an integer. -/
def clamp (n : Int) : Int64 :=
  if n < Int64.minValue.toInt then Int64.minValue
  else if Int64.maxValue.toInt < n then Int64.maxValue
  else Int64.ofInt n

def digitValue (c : Char) : Nat := if c.isDigit then c.toNat - 48 else c.toLower.toNat - 87

def isDigitIn (base : Nat) (c : Char) : Bool :=
  (c.isDigit || ('a' ≤ c.toLower && c.toLower ≤ 'f')) && digitValue c < base

/-- The base that digits are written in, and the digits. -/
def baseOf : List Char → Nat × List Char
  | '0' :: 'x' :: c :: rest =>
    if isDigitIn 16 c then (16, c :: rest) else (8, '0' :: 'x' :: c :: rest)
  | '0' :: rest => (8, '0' :: rest)
  | cs => (10, cs)

/-- The number that the characters begin with, and what follows it. -/
def leadingNumber (cs : List Char) : Nat × List Char :=
  let (base, cs) := baseOf cs
  let digits := cs.takeWhile (isDigitIn base)
  (digits.foldl (fun n c => base * n + digitValue c) 0, cs.drop digits.length)

/-- The integer that a text is, perhaps with a sign and with blanks around; nothing counts as
zero. -/
def integer? (text : String) : Option Int64 :=
  let isBlank (c : Char) : Bool := c = ' ' || c = '\t' || c = '\n'
  let cs := text.toList.dropWhile isBlank
  let (negative, digits) := match cs with
    | '-' :: rest => (true, rest)
    | '+' :: rest => (false, rest)
    | cs => (false, cs)
  if cs.isEmpty then some 0
  else if !digits.head?.any Char.isDigit then none
  else
    let (n, rest) := leadingNumber digits
    if rest.all isBlank then some (clamp (if negative then -n else n)) else none

/-- The operators, longer ones before those that they begin with. -/
def operators : List String :=
  ["<<=", ">>=", "||", "&&", "==", "!=", "<=", ">=", "<<", ">>", "+=", "-=", "*=", "/=", "%=",
   "&=", "|=", "^=", "+", "-", "*", "/", "%", "<", ">", "&", "|", "^", "!", "~", "(", ")", "?",
   ":", "="]

/-- The tokens of an expression, unless a character belongs to none. -/
def tokens : Nat → List Char → Option (List Token)
  | 0, _ => some []
  | _, [] => some []
  | fuel + 1, c :: rest =>
    if c = ' ' || c = '\t' || c = '\n' then tokens fuel rest
    else if c.isDigit then
      let (n, rest) := leadingNumber (c :: rest)
      (tokens fuel rest).map (.number (clamp n) :: ·)
    else if c.isAlpha || c = '_' then
      let name := (c :: rest).takeWhile fun c => c.isAlphanum || c = '_'
      (tokens fuel ((c :: rest).drop name.length)).map (.name (String.ofList name) :: ·)
    else
      match operators.find? fun o => o.toList.isPrefixOf (c :: rest) with
      | some o => (tokens fuel ((c :: rest).drop o.length)).map (.operator o :: ·)
      | none => none

/-- The operators between two operands, those that bind least first. -/
def levels : List (List String) :=
  [["||"], ["&&"], ["|"], ["^"], ["&"], ["==", "!="], ["<=", ">=", "<", ">"], ["<<", ">>"],
   ["+", "-"], ["*", "/", "%"]]

/-- The operators that set a variable, with the operator on values that they stand for. -/
def assignments : List (String × Option String) :=
  [("=", none), ("+=", some "+"), ("-=", some "-"), ("*=", some "*"), ("/=", some "/"),
   ("%=", some "%"), ("&=", some "&"), ("|=", some "|"), ("^=", some "^"), ("<<=", some "<<"),
   (">>=", some ">>")]

mutual

/-- Reads an assignment or a choice. -/
def assignment : Nat → List Token → Except Problem (Expression × List Token)
  | 0, _ => .error .expectingPrimary
  | fuel + 1, ts =>
    match ts with
    | .name name :: .operator o :: rest =>
      match assignments.lookup o with
      | some operator => do
        let (value, rest) ← assignment fuel rest
        .ok (.assign name operator value, rest)
      | none => choice fuel ts
    | _ => choice fuel ts

/-- Reads a choice between two expressions, or one expression. -/
def choice : Nat → List Token → Except Problem (Expression × List Token)
  | 0, _ => .error .expectingPrimary
  | fuel + 1, ts => do
    let (test, rest) ← operands levels fuel ts
    match rest with
    | .operator "?" :: rest =>
      let (yes, rest) ← assignment fuel rest
      match rest with
      | .operator ":" :: rest =>
        let (no, rest) ← choice fuel rest
        .ok (.choice test yes no, rest)
      | _ => .error .expectingPrimary
    | _ => .ok (test, rest)

/-- Reads operands joined by the operators of some levels. -/
def operands (levels : List (List String)) :
    Nat → List Token → Except Problem (Expression × List Token)
  | 0, _ => .error .expectingPrimary
  | fuel + 1, ts =>
    match levels with
    | [] => primary fuel ts
    | level :: higher => do
      let (left, rest) ← operands higher fuel ts
      more level higher left fuel rest

/-- Reads the operands of one level after the first one. -/
def more (level : List String) (higher : List (List String)) (left : Expression) :
    Nat → List Token → Except Problem (Expression × List Token)
  | 0, ts => .ok (left, ts)
  | fuel + 1, ts =>
    match ts with
    | .operator o :: rest =>
      if level.contains o then do
        let (right, rest) ← operands higher fuel rest
        more level higher (.binary o left right) fuel rest
      else .ok (left, ts)
    | _ => .ok (left, ts)

/-- Reads a number, a variable, an expression in brackets, or one after a sign. -/
def primary : Nat → List Token → Except Problem (Expression × List Token)
  | 0, _ => .error .expectingPrimary
  | fuel + 1, ts =>
    match ts with
    | .number n :: rest => .ok (.number n, rest)
    | .name name :: rest => .ok (.variable name, rest)
    | .operator "(" :: rest => do
      let (inside, rest) ← assignment fuel rest
      match rest with
      | .operator ")" :: rest => .ok (inside, rest)
      | _ => .error .expectingPrimary
    | .operator o :: rest =>
      if ["+", "-", "!", "~"].contains o then do
        let (operand, rest) ← primary fuel rest
        .ok (.prefixed o operand, rest)
      else .error .expectingPrimary
    | [] => .error .expectingPrimary

end

def read (text : String) : Except Problem Expression := do
  match tokens (text.length + 1) text.toList with
  | none => .error .expectingEnd
  | some ts =>
    let (expression, rest) ← assignment (16 * ts.length + 16) ts
    if rest.isEmpty then .ok expression else .error .expectingEnd

/-! ### Values -/

/-- The word for a truth value. -/
def truth (b : Bool) : Int64 := if b then 1 else 0

/-- The value of an operator between two words. -/
def apply (operator : String) (a b : Int64) : Except Problem Int64 :=
  match operator with
  | "+" => .ok (a + b)
  | "-" => .ok (a - b)
  | "*" => .ok (a * b)
  | "/" => if b = 0 then .error .divisionByZero else .ok (a / b)
  | "%" => if b = 0 then .error .divisionByZero else .ok (a % b)
  | "<<" => .ok (a <<< b)
  | ">>" => .ok (a >>> b)
  | "&" => .ok (a &&& b)
  | "|" => .ok (a ||| b)
  | "^" => .ok (a ^^^ b)
  | "==" => .ok (truth (a = b))
  | "!=" => .ok (truth (a ≠ b))
  | "<" => .ok (truth (a < b))
  | ">" => .ok (truth (b < a))
  | "<=" => .ok (truth (a ≤ b))
  | ">=" => .ok (truth (b ≤ a))
  | _ => .error .expectingPrimary

/-- The value of a variable; one that is not set counts as zero. -/
def valueOf (vars : Variables) (name : String) : Except Problem Int64 :=
  let text := (vars.lookup name).getD ""
  match integer? text with
  | some n => .ok n
  | none => .error (.illegalNumber text)

/-- The value of an expression, and the variables after it. -/
def eval : Expression → Variables → Except Problem (Int64 × Variables)
  | .number n, vs => .ok (n, vs)
  | .variable name, vs => (valueOf vs name).map fun n => (n, vs)
  | .prefixed o e, vs => do
    let (n, vs) ← eval e vs
    .ok (if o = "-" then -n else if o = "!" then truth (n = 0) else if o = "~" then ~~~n else n, vs)
  | .binary "&&" a b, vs => do
    let (m, vs) ← eval a vs
    if m = 0 then .ok (0, vs)
    else
      let (n, vs) ← eval b vs
      .ok (truth (n ≠ 0), vs)
  | .binary "||" a b, vs => do
    let (m, vs) ← eval a vs
    if m ≠ 0 then .ok (1, vs)
    else
      let (n, vs) ← eval b vs
      .ok (truth (n ≠ 0), vs)
  | .binary o a b, vs => do
    let (m, vs) ← eval a vs
    let (n, vs) ← eval b vs
    .ok (← apply o m n, vs)
  | .choice c a b, vs => do
    let (n, vs) ← eval c vs
    if n ≠ 0 then eval a vs else eval b vs
  | .assign name operator e, vs => do
    let (n, vs) ← eval e vs
    let n ← match operator with
      | none => .ok n
      | some o => apply o (← valueOf vs name) n
    .ok (n, Variables.set vs name (toString n))

/-- The value of an expression given as text; one that says nothing has the value zero. -/
def evalText (text : String) (vars : Variables) : Except Problem (Int64 × Variables) :=
  if text.toList.all fun c => c = ' ' || c = '\t' || c = '\n' then .ok (0, vars)
  else do eval (← read text) vars

end Arithmetic

end SizeSweep.Shell
