import BuildDiagnostics.Shell.Numeral

/-!
# Arithmetic

The expressions of a shell: integers of 64 bits that wrap around, variables, the operators of C
without steps up and down, choices and assignments. `Expression.parse` reads one, `Expression.eval`
gives its value and the variables that it sets.
-/

namespace BuildDiagnostics.Shell

/-- Why an expression has no value. -/
inductive ArithmeticFault
  /-- Something else is due at a place. -/
  | expecting (what : String)
  | divisionByZero
  /-- The value of a variable is no number. -/
  | illegalNumber (text : String)
  deriving DecidableEq, Repr

/-- An operator on two numbers. -/
inductive Operator
  | mul | div | mod | add | sub | shiftLeft | shiftRight
  | lt | le | gt | ge | eq | ne | bitAnd | bitXor | bitOr
  deriving DecidableEq, Repr

/-- An expression. -/
inductive Expression
  | number (n : Int)
  | named (name : String)
  | negate (e : Expression)
  | complement (e : Expression)
  | not (e : Expression)
  | binary (o : Operator) (a b : Expression)
  | and (a b : Expression)
  | or (a b : Expression)
  | choice (test yes no : Expression)
  | assign (name : String) (e : Expression)

/-- The smallest unit of an expression. -/
inductive Lexeme
  | number (n : Int)
  | name (s : String)
  | sign (s : String)
  deriving DecidableEq, Repr

namespace Operator

/-- The number in 64 bits, the first of which counts below zero. -/
def wrap (n : Int) : Int := n.bmod (Nat.pow 2 64)

/-- The number that tells whether something is true. -/
def truth (b : Bool) : Int := if b then 1 else 0

/-- The bits of a number as a number that is not below zero. -/
def bits (n : Int) : Nat := (n % Int.pow 2 64).toNat

/-- The value of an operator. Division rounds towards zero. -/
def apply (o : Operator) (a b : Int) : Except ArithmeticFault Int :=
  match o with
  | mul => .ok (wrap (a * b))
  | div => if b = 0 then .error .divisionByZero else .ok (wrap (a.tdiv b))
  | mod => if b = 0 then .error .divisionByZero else .ok (wrap (a.tmod b))
  | add => .ok (wrap (a + b))
  | sub => .ok (wrap (a - b))
  | shiftLeft => .ok (wrap (a * Int.pow 2 (b % 64).toNat))
  | shiftRight => .ok (a / Int.pow 2 (b % 64).toNat)
  | lt => .ok (truth (a < b))
  | le => .ok (truth (a ≤ b))
  | gt => .ok (truth (b < a))
  | ge => .ok (truth (b ≤ a))
  | eq => .ok (truth (a = b))
  | ne => .ok (truth (a ≠ b))
  | bitAnd => .ok (wrap (bits a &&& bits b : Nat))
  | bitXor => .ok (wrap (bits a ^^^ bits b : Nat))
  | bitOr => .ok (wrap (bits a ||| bits b : Nat))

/-- The operators with their signs, and how strongly each binds. -/
def table : List (String × Nat × Operator) :=
  [("*", 10, mul), ("/", 10, div), ("%", 10, mod), ("+", 9, add), ("-", 9, sub),
    ("<<", 8, shiftLeft), (">>", 8, shiftRight), ("<", 7, lt), ("<=", 7, le), (">", 7, gt),
    (">=", 7, ge), ("==", 6, eq), ("!=", 6, ne), ("&", 5, bitAnd), ("^", 4, bitXor),
    ("|", 3, bitOr)]

/-- The operator of a sign that also assigns. -/
def ofAssignment? (sign : String) : Option Operator :=
  ((table.find? fun x => x.1 ++ "=" == sign).filter fun x => x.2.1 != 7 && x.2.1 != 6).map
    fun x => x.2.2

end Operator

namespace Lexeme

/-- The signs, those first that others start with. -/
def signs : List String :=
  ["<<=", ">>=", "<<", ">>", "<=", ">=", "==", "!=", "&&", "||", "+=", "-=", "*=", "/=", "%=", "&=",
    "^=", "|=", "+", "-", "*", "/", "%", "<", ">", "=", "!", "~", "&", "|", "^", "?", ":", "(", ")"]

/-- Whether a character may stand in the name of a variable. -/
def isNameChar (c : Char) : Bool := Text.isLetterAscii c || Text.isDigitAscii c || c == '_'

/-- The first lexeme of a text, and what follows it. -/
def first? (s : List Char) : Option (Lexeme × List Char) :=
  match s with
  | [] => none
  | c :: _ =>
    if Text.isDigitAscii c then
      (Numeral.of? s).map fun n => (.number (min n.magnitude (Nat.pow 2 63 - 1) : Nat), n.rest)
    else if isNameChar c then
      let name := s.takeWhile isNameChar
      some (.name (String.ofList name), s.drop name.length)
    else
      (signs.find? fun t => t.toList.isPrefixOf s).map fun t => (.sign t, s.drop t.length)

/-- The lexemes of a text. Each step takes at least one character, and their number bounds the
steps. -/
def ofTextWithin : Nat → List Char → Option (List Lexeme)
  | 0, s => if s.isEmpty then some [] else none
  | n + 1, s =>
    match s.dropWhile isBlankBefore with
    | [] => some []
    | s => (first? s).bind fun (u, rest) => (ofTextWithin n rest).map (u :: ·)

/-- The lexemes of a text. -/
def ofText (s : List Char) : Option (List Lexeme) := ofTextWithin s.length s

end Lexeme

namespace Expression

/-- What is left of an expression after a part of it. -/
abbrev Parsed := Except ArithmeticFault (Expression × List Lexeme)

/-- What an expression is read for. -/
inductive Level
  /-- A whole expression, with choices and assignments. -/
  | whole
  /-- Operators, and a choice that they decide. -/
  | choice
  /-- Operators that bind at least so strongly. -/
  | operators (strength : Nat)
  | operand
  /-- More operators of at least such a strength behind an expression. -/
  | more (strength : Nat) (left : Expression)

/-- The operator at the start of lexemes, how strongly it binds, and what it makes of two
expressions. -/
def operatorAt? (us : List Lexeme) :
    Option (Nat × (Expression → Expression → Expression) × List Lexeme) :=
  match us with
  | .sign "&&" :: rest => some (2, .and, rest)
  | .sign "||" :: rest => some (1, .or, rest)
  | .sign s :: rest => (Operator.table.lookup s).map fun (n, o) => (n, .binary o, rest)
  | _ => none

/-- Reads a part of an expression; parts of it go as deep as the number says. -/
def parseWithin : Nat → Level → List Lexeme → Parsed
  | 0, _, _ => .error (.expecting "primary")
  | n + 1, .operand, us =>
    match us with
    | .number k :: rest => .ok (.number k, rest)
    | .name s :: rest => .ok (.named s, rest)
    | .sign "(" :: rest => do
      let (e, rest) ← parseWithin n .whole rest
      match rest with
      | .sign ")" :: rest => return (e, rest)
      | _ => throw (.expecting "')'")
    | .sign "-" :: rest => do
      let (e, rest) ← parseWithin n .operand rest
      return (.negate e, rest)
    | .sign "+" :: rest => parseWithin n .operand rest
    | .sign "!" :: rest => do
      let (e, rest) ← parseWithin n .operand rest
      return (.not e, rest)
    | .sign "~" :: rest => do
      let (e, rest) ← parseWithin n .operand rest
      return (.complement e, rest)
    | _ => .error (.expecting "primary")
  | n + 1, .operators k, us => do
    let (e, rest) ← parseWithin n .operand us
    parseWithin n (.more k e) rest
  | n + 1, .more k left, us =>
    match operatorAt? us with
    | some (strength, join, rest) =>
      if strength < k then .ok (left, us)
      else do
        let (right, rest) ← parseWithin n (.operators (strength + 1)) rest
        parseWithin n (.more k (join left right)) rest
    | none => .ok (left, us)
  | n + 1, .whole, us =>
    match us with
    | .name s :: .sign "=" :: rest => do
      let (e, rest) ← parseWithin n .whole rest
      return (.assign s e, rest)
    | .name s :: .sign t :: rest =>
      match Operator.ofAssignment? t with
      | some o => do
        let (e, rest) ← parseWithin n .whole rest
        return (.assign s (.binary o (.named s) e), rest)
      | none => parseWithin n .choice us
    | _ => parseWithin n .choice us
  | n + 1, .choice, us => do
    let (test, rest) ← parseWithin n (.operators 1) us
    match rest with
    | .sign "?" :: rest =>
      let (yes, rest) ← parseWithin n .whole rest
      match rest with
      | .sign ":" :: rest =>
        let (no, rest) ← parseWithin n .whole rest
        return (.choice test yes no, rest)
      | _ => throw (.expecting "':'")
    | _ => return (test, rest)

/-- Reads an expression. No text at all has the value zero. -/
def parse (s : List Char) : Except ArithmeticFault Expression :=
  match Lexeme.ofText s with
  | none => .error (.expecting "primary")
  | some [] => .ok (.number 0)
  | some us => do
    let (e, rest) ← parseWithin (8 * us.length + 16) .whole us
    if rest.isEmpty then return e else throw (.expecting "EOF")

/-- Variables as numbers that were set in an expression, the latest first. -/
abbrev Settings := List (String × Int)

/-- The number that the text of a variable spells; a variable without text counts as zero. -/
def numberOf (text : Option String) : Except ArithmeticFault Int :=
  match text with
  | none => .ok 0
  | some t =>
    match Numeral.of? t.toList with
    | some n => if n.rest.isEmpty then .ok n.value else .error (.illegalNumber t)
    | none => if t.isEmpty then .ok 0 else .error (.illegalNumber t)

/-- The value of an expression, where `look` gives the texts of variables that it does not set. -/
def eval (look : String → Option String) : Expression → StateT Settings (Except ArithmeticFault) Int
  | number n => return n
  | named name => do
    match (← get).lookup name with
    | some n => return n
    | none => numberOf (look name)
  | negate e => return Operator.wrap (-(← eval look e))
  | complement e => return -(← eval look e) - 1
  | not e => return Operator.truth ((← eval look e) == 0)
  | binary o a b => do
    let x ← eval look a
    let y ← eval look b
    o.apply x y
  | and a b => do
    if (← eval look a) == 0 then return 0 else return Operator.truth ((← eval look b) != 0)
  | or a b => do
    if (← eval look a) != 0 then return 1 else return Operator.truth ((← eval look b) != 0)
  | choice test yes no => do
    if (← eval look test) != 0 then eval look yes else eval look no
  | assign name e => do
    let n ← eval look e
    modify ((name, n) :: ·)
    return n

end Expression

end BuildDiagnostics.Shell
