import BuildDiagnostics.Disk
import BuildDiagnostics.Shell.Numeral

/-!
# Conditions

The command `test` decides a condition on texts, numbers and files that its arguments spell.
`Condition.decide` reads an argument list from left to right: `-o` binds least, then `-a`, then `!`.
-/

namespace BuildDiagnostics.Shell.Condition

/-- Why arguments are no condition. -/
inductive Fault
  | unexpectedOperator (s : String)
  | argumentExpected (s : String)
  | closingExpected
  | illegalNumber (s : String)
  deriving DecidableEq, Repr

/-- The answer for the arguments read, and the arguments left. -/
abbrev Answer := Except Fault (Bool × List String)

/-- The operators on one argument. -/
def unaryOperators : List String :=
  ["-z", "-n", "-r", "-w", "-x", "-e", "-f", "-d", "-s", "-h", "-L", "-c", "-b", "-p", "-S", "-u",
    "-g", "-k", "-O", "-G", "-t"]

/-- The operators between two arguments. -/
def binaryOperators : List String :=
  ["=", "!=", "<", ">", "-eq", "-ne", "-gt", "-ge", "-lt", "-le", "-nt", "-ot", "-ef"]

/-- The number that an argument spells in decimal. Blanks may stand around it. -/
def number (s : String) : Except Fault Int :=
  let (negative, rest) := signOf (s.toList.dropWhile isBlankBefore)
  let digits := rest.takeWhile Text.isDigitAscii
  if digits.isEmpty || !(rest.drop digits.length).all isBlankBefore then .error (.illegalNumber s)
  else
    let n : Int := valueIn 10 digits
    .ok (if negative then -n else n)

/-- Whether something at a path is of the kind that an operator asks for. -/
def holdsOfFile (d : Disk) (op path : String) : Bool :=
  match d.stat ⟨path⟩ with
  | .error _ => false
  | .ok .directory => ["-e", "-d", "-r", "-w", "-x", "-s", "-O", "-G"].contains op
  | .ok (.file content) =>
    ["-e", "-f", "-r", "-w", "-O", "-G"].contains op || (op == "-s" && !content.isEmpty)

/-- The answer of an operator on one argument. -/
def unary (d : Disk) (op a : String) : Bool :=
  if op = "-z" then a.isEmpty
  else if op = "-n" then !a.isEmpty
  else holdsOfFile d op a

/-- The answer of an operator between two arguments. -/
def binary (d : Disk) (op a b : String) : Except Fault Bool :=
  let compare (f : Int → Int → Bool) : Except Fault Bool := do return f (← number a) (← number b)
  match op with
  | "=" => .ok (a == b)
  | "!=" => .ok (a != b)
  | "<" => .ok (a < b)
  | ">" => .ok (b < a)
  | "-eq" => compare fun x y => x == y
  | "-ne" => compare fun x y => x != y
  | "-gt" => compare fun x y => y < x
  | "-ge" => compare fun x y => y ≤ x
  | "-lt" => compare fun x y => x < y
  | "-le" => compare fun x y => x ≤ y
  | "-nt" => .ok (d.pathExists ⟨a⟩ && !d.pathExists ⟨b⟩)
  | "-ot" => .ok (d.pathExists ⟨b⟩ && !d.pathExists ⟨a⟩)
  | _ =>
    match d.locate ⟨a⟩, d.locate ⟨b⟩ with
    | .ok x, .ok y => .ok (x == y && d.pathExists ⟨a⟩)
    | _, _ => .ok false

/-- Whether an argument that looks like an operator on one argument is a text: nothing follows it,
or an operator between two arguments does. -/
def isText : List String → Bool
  | [] => true
  | [_] => false
  | op :: _ :: _ => binaryOperators.contains op

/-- Part of a condition. -/
inductive Level
  | any | all | not | single
  deriving DecidableEq, Repr

/-- Decides a part of a condition at the start of arguments; parts of it go as deep as the number
says. -/
def decideWithin (d : Disk) : Nat → Level → List String → Answer
  | 0, _, args => .ok (false, args)
  | n + 1, .any, args => do
    let (x, rest) ← decideWithin d n .all args
    match rest with
    | "-o" :: rest =>
      let (y, rest) ← decideWithin d n .any rest
      return (x || y, rest)
    | _ => return (x, rest)
  | n + 1, .all, args => do
    let (x, rest) ← decideWithin d n .not args
    match rest with
    | "-a" :: rest =>
      let (y, rest) ← decideWithin d n .all rest
      return (x && y, rest)
    | _ => return (x, rest)
  | n + 1, .not, args =>
    match args with
    | "!" :: rest => do
      let (x, rest) ← decideWithin d n .not rest
      return (!x, rest)
    | _ => decideWithin d n .single args
  | n + 1, .single, args =>
    match args with
    | [] => .ok (false, [])
    | a :: rest =>
      if a = "(" && !rest.isEmpty then do
        let (x, rest) ← decideWithin d n .any rest
        match rest with
        | ")" :: rest => return (x, rest)
        | _ => throw .closingExpected
      else if unaryOperators.contains a && !isText rest then
        match rest with
        | b :: rest => .ok (unary d a b, rest)
        | [] => .error (.argumentExpected a)
      else
        match rest with
        | op :: rest' =>
          if binaryOperators.contains op then
            match rest' with
            | b :: rest => do return (← binary d op a b, rest)
            | [] => .error (.argumentExpected op)
          else .ok (!a.isEmpty, rest)
        | [] => .ok (!a.isEmpty, rest)

/-- Decides a condition that takes all arguments. -/
def decideAll (d : Disk) (args : List String) : Except Fault Bool := do
  let (x, rest) ← decideWithin d (4 * args.length + 8) .any args
  match rest with
  | [] => return x
  | _ => throw (.unexpectedOperator ((args.take (args.length - rest.length)).getLastD ""))

/-- Decides a condition. Few arguments have a meaning of their own: three with an operator in the
midst are that operator's, and parentheses around all of them do not count. -/
def decide (d : Disk) (args : List String) : Except Fault Bool :=
  match args with
  | [] => .ok false
  | [a, op, b] =>
    if binaryOperators.contains op then binary d op a b
    else if a = "(" && b = ")" then decideAll d [op]
    else decideAll d args
  | ["(", a, b, ")"] => decideAll d [a, b]
  | _ => decideAll d args

end BuildDiagnostics.Shell.Condition
