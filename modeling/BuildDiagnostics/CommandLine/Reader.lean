import BuildDiagnostics.CommandLine.Basic
import BuildDiagnostics.Text.Line

/-!
# Reading the arguments

The value of a parameter is the next argument or follows an equals sign. As the next argument it may
not start with a hyphen, unless it is nothing else. A parameter and its value from the next argument
are taken up only with the next parameter or flag or at the end, so an argument after them that
stands for nothing is told first.
-/

namespace BuildDiagnostics.CommandLine

/-- An argument as it is written. -/
inductive Argument
  /-- Two hyphens: what follows is the command. -/
  | terminator
  /-- A name after two hyphens, and what follows an equals sign. -/
  | long (name : String) (value : Option String)
  /-- Letters after one hyphen. -/
  | letters (cs : List Char)
  /-- Any other text. -/
  | plain (text : String)
  deriving DecidableEq, Repr

namespace Argument

/-- A name with what follows the first equals sign. -/
def ofLong (cs : List Char) : Argument :=
  let name := String.ofList (cs.takeWhile (· != '='))
  match cs.dropWhile (· != '=') with
  | [] => long name none
  | _ :: value => long name (some (String.ofList value))

/-- How an argument is written. -/
def ofText (text : String) : Argument :=
  match text.toList with
  | ['-'] => plain text
  | ['-', '-'] => terminator
  | '-' :: '-' :: cs => ofLong cs
  | '-' :: cs => letters cs
  | _ => plain text

end Argument

/-- What has been read, and a parameter that is not yet taken up, with its value if that has come.
-/
structure Reader where
  line : CommandLine := {}
  pending : Option (Parameter × Option String) := none
  deriving DecidableEq, Repr

namespace Reader

/-- The command line with a parameter taken up. -/
def accept (c : CommandLine) (p : Parameter) (value : String) : Except Stop CommandLine :=
  if p.isGiven c && !p.isRepeatable then .error (.repeatedParameter p)
  else if p.isPath && value.isEmpty then .error (.emptyPath p)
  else .ok (p.give c value)

/-- What has been read, with all parameters taken up. -/
def settle (r : Reader) : Except Stop CommandLine :=
  match r.pending with
  | none => .ok r.line
  | some (p, none) => .error (.missingValue p)
  | some (p, some value) => accept r.line p value

/-- The reader after a name without a value. -/
def readPlain (r : Reader) (m : Meaning) : Except Stop Reader :=
  match r.settle with
  | .error s => .error s
  | .ok c =>
    match m with
    | .parameter p => .ok ⟨c, some (p, none)⟩
    | .flag f => if f.isGiven c then .error (.repeatedFlag f) else .ok ⟨f.give c, none⟩
    | .help => .error .help
    | .version => .error .version

/-- The reader after a name with a value. -/
def readValued (r : Reader) (name value : String) : Meaning → Except Stop Reader
  | .parameter p =>
    match r.settle with
    | .error s => .error s
    | .ok c => (accept c p value).map (⟨·, none⟩)
  | _ => .error (.unwantedValue name value)

/-- The reader after letters. -/
def readLetters (r : Reader) : List Char → Except Stop Reader
  | [] => .ok r
  | c :: cs =>
    match Meaning.ofLetter? c with
    | none => .error (.unknownArgument (String.ofList ['-', c]))
    | some m =>
      match r.readPlain m with
      | .error s => .error s
      | .ok r' => readLetters r' cs

/-- The reader after an argument before the command. -/
def readArgument (r : Reader) : Argument → Except Stop Reader
  | .terminator => .ok r
  | .long name value =>
    match Meaning.ofName? name, value with
    | none, _ => .error (.unknownArgument ("--" ++ name))
    | some m, none => r.readPlain m
    | some m, some v => r.readValued name v m
  | .letters cs => r.readLetters cs
  | .plain text =>
    match r.pending with
    | some (p, none) => .ok { r with pending := some (p, some text) }
    | _ => .error (.unknownArgument text)

/-- The command line that the rest of the arguments completes. -/
def readAll (r : Reader) : List String → Except Stop CommandLine
  | [] => r.settle
  | text :: rest =>
    match Argument.ofText text with
    | .terminator => r.settle.map fun c => { c with command := rest }
    | a =>
      match r.readArgument a with
      | .error s => .error s
      | .ok r' => readAll r' rest

end Reader

/-- The command line that the arguments are. -/
def ofArguments (args : List String) : Except Stop CommandLine := ({} : Reader).readAll args

end BuildDiagnostics.CommandLine
