import BuildDiagnostics.Shell.Engine
import BuildDiagnostics.Shell.Tool

/-!
# The commands of a shell

What a shell does itself rather than by a program, because it changes the shell, or to save a
program. `builtin?` finds a command by its name. A fault in a special command ends the shell, and so
does `State.abort`; a fault in another one is only its failure.
-/

namespace BuildDiagnostics.Shell

/-- The number that an argument spells in decimal. -/
def numberOf? (text : String) : Option Nat :=
  if !text.isEmpty && text.toList.all Text.isDigitAscii then some (valueIn 10 text.toList) else none

/-- The name before an equals sign, and the value behind it if there is one. -/
def splitAssignment (text : String) : String × Option String :=
  let name := text.toList.takeWhile (· != '=')
  (String.ofList name,
    match text.toList.drop name.length with
    | _ :: value => some (String.ofList value)
    | [] => none)

namespace Builtin

/-! ## Flow -/

/-- Reads the number of a command that takes one at most. -/
def withNumber (default : State → Nat) (args : List String) (s : State)
    (f : Nat → State) : State :=
  match args with
  | [] => f (default s)
  | text :: _ =>
    match numberOf? text with
    | some n => f n
    | none => s.abort ("Illegal number: " ++ text)

/-- Ends the shell. -/
def exit : Tool := fun args s =>
  withNumber State.status args s fun n => { s with status := n % 256, flow := .exit }

/-- Ends a function. -/
def «return» : Tool := fun args s =>
  withNumber State.status args s fun n => { s with status := n, flow := .leave }

/-- Ends loops, or their rounds; as many as there are at most. -/
def skipLoops (flow : Nat → Flow) : Tool := fun args s =>
  withNumber (fun _ => 1) args s fun n =>
    if n = 0 then s.abort "Illegal number: 0"
    else if s.loops = 0 then s.withStatus 0
    else { s.withStatus 0 with flow := flow (min n s.loops) }

/-- Sends a signal. Only the shell itself is there to receive it. -/
def kill (run : Engine) : Tool := fun args s =>
  let (signal, targets) :=
    match args with
    | "-s" :: name :: rest => (signalNumber? name, rest)
    | a :: rest =>
      match a.toList with
      | '-' :: name =>
        if name = ['-'] then (some 15, rest) else (signalNumber? (String.ofList name), rest)
      | _ => (some 15, args)
    | [] => (some 15, [])
  match signal, targets with
  | none, _ => s.fail ("Illegal option " ++ String.ofList ((args.headD "").toList.take 2))
  | _, [] =>
    s.fail ("Usage: kill [-s sigspec | -signum | -sigspec] [pid | job]... or\n" ++
      "kill -l [exitstatus]")
  | some n, t :: _ =>
    if t = processNumber then Engine.receive run n (s.withStatus 0)
    else (s.complain "No such process").withStatus 1

/-- Sets what is run when signals come, or takes it back for a hyphen. -/
def trap : Tool := fun args s =>
  let args := if args.head? = some "--" then args.drop 1 else args
  match args with
  | [] =>
    (s.traps.foldl (fun s t =>
      s.print 1 ("trap -- " ++ String.ofList (quoted t.2.toList) ++ " " ++ t.1 ++ "\n")) s).withStatus
      0
  | [one] => setAll none [one] s
  | action :: names =>
    if (numberOf? action).isSome then setAll none (action :: names) s
    else setAll (if action = "-" then none else some action) names s
where
  /-- A text in single quotes. -/
  quoted (t : List Char) : List Char :=
    '\'' :: t.flatMap (fun c => if c = '\'' then "'\"'\"'".toList else [c]) ++ ['\'']
  /-- Sets or takes back an action for signals. -/
  setAll (action : Option String) (names : List String) (s : State) : State :=
    names.foldl (fun s name =>
      match signalNumber? name with
      | none => (s.print 2 ("trap: " ++ name ++ ": bad trap\n")).withStatus 1
      | some n =>
        let others := s.traps.filter fun t => t.1 != signalName n
        { s with traps := others ++ (action.map fun a => (signalName n, a)).toList })
    (s.withStatus 0)

/-! ## Variables -/

/-- Changes the variables that arguments name, after setting those with a value. -/
def declare (change : Binding → Binding) : Tool := fun args s =>
  (args.filter fun a => a != "-p").foldl (fun s a =>
    if !s.goesOn then s
    else
      let (n, value) := splitAssignment a
      if !isName n.toList then s.abort (n ++ ": bad variable name")
      else
        let s := match value with
          | some v => s.assign n v
          | none => s
        if s.goesOn then s.bind n (change ((s.binding? n).getD {})) else s) (s.withStatus 0)

/-- Makes variables that end with the function. -/
def «local» : Tool := fun args s =>
  match s.scopes with
  | [] => s.abort "not in a function"
  | scope :: outer =>
    args.foldl (fun s a =>
      let (n, value) := splitAssignment a
      let scope := s.scopes.headD []
      let saved := if (scope.lookup n).isSome then scope else (n, s.binding? n) :: scope
      let s := { s with scopes := saved :: outer }
      match value with
      | some v => s.assign n v
      | none => s) { s.withStatus 0 with scopes := scope :: outer }

/-- Takes variables or functions away. -/
def unset : Tool := fun args s =>
  match args with
  | "-f" :: names =>
    { s.withStatus 0 with functions := s.functions.filter fun f => !names.contains f.1 }
  | _ =>
    (args.filter (· != "-v")).foldl (fun s n =>
      if !isName n.toList then s.abort (n ++ ": bad variable name")
      else if ((s.binding? n).getD {}).readOnly then s.abort (n ++ ": is read only")
      else s.restore n none) (s.withStatus 0)

/-- The letters of the flags of a shell. -/
def knownFlags : List Char := "abefmnuvxCEIV".toList

/-- The letters of flags that have a name. -/
def flagNames : List (String × Char) :=
  [("errexit", 'e'), ("noglob", 'f'), ("nounset", 'u'), ("xtrace", 'x'), ("noexec", 'n'),
    ("verbose", 'v'), ("allexport", 'a'), ("noclobber", 'C')]

/-- The flags with some of them set or taken back. -/
def setFlags (on : Bool) (letters flags : List Char) : List Char :=
  let others := flags.filter fun f => !letters.contains f
  if on then others ++ letters else others

/-- Sets flags and arguments. -/
def set (s : State) : List String → State
  | [] => s.withStatus 0
  | "--" :: args => { s with arguments := args }
  | "-o" :: name :: rest => set (named true name s) rest
  | "+o" :: name :: rest => set (named false name s) rest
  | a :: rest =>
    match a.toList with
    | '-' :: c :: cs => set (lettered true (c :: cs) s) rest
    | '+' :: c :: cs => set (lettered false (c :: cs) s) rest
    | _ => { s with arguments := a :: rest }
where
  /-- Sets or takes back flags by their letters. -/
  lettered (on : Bool) (letters : List Char) (s : State) : State :=
    match letters.find? fun c => !knownFlags.contains c with
    | some c => s.abort ("Illegal option -" ++ c.toString)
    | none => { s with flags := setFlags on letters s.flags }
  /-- Sets or takes back a flag by its name. -/
  named (on : Bool) (name : String) (s : State) : State :=
    match flagNames.lookup name with
    | some c => { s with flags := setFlags on [c] s.flags }
    | none => s.abort ("Illegal option -o " ++ name)

/-- Takes arguments away from the front. -/
def shift : Tool := fun args s =>
  withNumber (fun _ => 1) args s fun n =>
    if s.arguments.length < n then s.abort "can't shift that many"
    else { s.withStatus 0 with arguments := s.arguments.drop n }

/-! ## Input -/

/-- The signs of a line that is read, whether it has an end, and what is left to read. A backslash
takes the meaning from a character, unless lines are raw. -/
def lineSigns (raw : Bool) : List Char → List Sign × Bool × List Char
  | [] => ([], false, [])
  | '\n' :: s => ([], true, s)
  | '\\' :: c :: s =>
    if raw then
      let (signs, ended, rest) := lineSigns raw (c :: s)
      (.expanded '\\' :: signs, ended, rest)
    else
      let (signs, ended, rest) := lineSigns raw s
      (if c = '\n' then signs else .quoted c :: signs, ended, rest)
  | c :: s =>
    let (signs, ended, rest) := lineSigns raw s
    (.expanded c :: signs, ended, rest)

/-- Whether a sign is a blank separator. -/
def isBlank (seps : List Char) : Sign → Bool
  | .expanded c => seps.contains c && Cutting.isBlankSeparator c
  | _ => false

/-- Whether a sign is a separator. -/
def isSeparator (seps : List Char) : Sign → Bool
  | .expanded c => seps.contains c
  | _ => false

/-- The values of so many variables that a line is cut into; the last one takes the rest. -/
def valuesOf (seps : List Char) : Nat → List Sign → List (List Sign)
  | 0, _ => []
  | 1, signs => [(signs.reverse.dropWhile (isBlank seps)).reverse]
  | n + 1, signs =>
    let word := signs.takeWhile fun x => !isSeparator seps x
    let rest := (signs.drop word.length).dropWhile (isBlank seps)
    let rest :=
      match rest with
      | x :: after =>
        if isSeparator seps x then after.dropWhile (isBlank seps) else rest
      | [] => []
    word :: valuesOf seps n rest

/-- Reads a line into variables. -/
def read : Tool := fun args s =>
  let raw := args.head? == some "-r"
  let names := if raw then args.drop 1 else args
  if names.isEmpty then s.fail "arg count" else
  let (signs, ended, rest) := lineSigns raw (textOfBytes (s.unread 0))
  let seps := s.separators
  let values := valuesOf seps names.length (signs.dropWhile (isBlank seps))
  let s := s.setUnread 0 (Utf8.encode (String.ofList rest))
  let s := (names.zip values).foldl (fun s (n, v) => s.assign n (Sign.text v)) (s.withStatus 0)
  s.answer ended

/-! ## Output -/

/-- Writes words in which escapes stand for characters. -/
def echo : Tool := fun args s =>
  let bare := args.head? == some "-n"
  let p := unescape .shell (" ".intercalate (if bare then args.drop 1 else args)).toList
  match s.write? 1 (p.output ++ if p.stopped || bare then [] else [10]) with
  | some s => s.withStatus 0
  | none => (s.complain "echo: I/O error").withStatus 1

/-- What is told about a format in the words of a shell. -/
def formatMessage : FormatFault → String
  | .noNumber t => t ++ ": expected numeric value"
  | .partNumber t => t ++ ": not completely converted"
  | .outOfRange t => t ++ ": Numerical result out of range"
  | .noConversion t =>
    if (t.toList.getLast?.map fun c => c == '%' || Text.isDigitAscii c || c == '.').getD true then
      "missing format character"
    else t ++ ": invalid directive"
  | _ => ""

/-- The status of a fault of a format. -/
def formatStatus : FormatFault → Nat
  | .noConversion _ => 2
  | _ => 1

/-- Writes a format with its arguments. -/
def printf : Tool := fun args s =>
  match if args.head? = some "--" then args.drop 1 else args with
  | [] => s.fail "usage: printf format [arg ...]"
  | text :: rest =>
    match text.toList, args.head? == some text with
    | '-' :: c :: _, true => s.fail ("Illegal option -" ++ c.toString)
    | _, _ =>
      let p := format .shell text rest
      let s := p.faults.foldl (fun s f => s.complain (formatMessage f)) (s.write 1 p.output)
      s.withStatus ((p.faults.map formatStatus).foldl max 0)

/-! ## Directories -/

/-- Goes to another directory. -/
def cd : Tool := fun args s =>
  let args := args.filter fun a => a != "-P" && a != "-L" && a != "--"
  let target := match args with
    | [] => s.value? "HOME"
    | "-" :: _ => s.value? "OLDPWD"
    | a :: _ => some a
  match target with
  | none => s.fail "HOME not set"
  | some t =>
    match s.disk.locate ⟨if t.isEmpty then "." else t⟩ with
    | .ok loc =>
      if s.disk.node? loc = some .directory then
        let old := s.disk.workingDirectory.text
        let s := { s with disk := { s.disk with cwd := loc } }
        let now := s.disk.workingDirectory.text
        let s := (s.assign "OLDPWD" old).assign "PWD" now
        (if args.head? = some "-" then s.print 1 (now ++ "\n") else s).withStatus 0
      else s.fail ("can't cd to " ++ t)
    | .error _ => s.fail ("can't cd to " ++ t)

end Builtin

/-- The commands that need nothing but the state. -/
def plainBuiltins : List (String × Tool) :=
  [(":", fun _ s => s.withStatus 0), ("true", fun _ s => s.withStatus 0),
    ("false", fun _ s => s.withStatus 1), ("exit", Builtin.exit), ("return", Builtin.return),
    ("break", Builtin.skipLoops .leaveLoops),
    ("continue", Builtin.skipLoops .nextRound), ("trap", Builtin.trap),
    ("export", Builtin.declare fun b => { b with exported := true }),
    ("readonly", Builtin.declare fun b => { b with readOnly := true }),
    ("local", Builtin.local), ("unset", Builtin.unset),
    ("set", fun args s => Builtin.set (s.withStatus 0) args), ("shift", Builtin.shift),
    ("read", Builtin.read), ("echo", Builtin.echo), ("printf", Builtin.printf),
    ("cd", Builtin.cd), ("chdir", Builtin.cd), ("pwd", Tool.pwd),
    ("test", Tool.decideWith State.fail false), ("[", Tool.decideWith State.fail true),
    ("wait", fun args s => s.withStatus (if args.isEmpty then 0 else s.jobStatus.getD 127)),
    ("umask", fun args s => (if args.isEmpty then s.print 1 "0022\n" else s).withStatus 0),
    ("times", fun _ s => (s.print 1 "0m0.00s 0m0.00s\n0m0.00s 0m0.00s\n").withStatus 0),
    ("hash", fun _ s => s.withStatus 0), ("alias", fun _ s => s.withStatus 0),
    ("unalias", fun _ s => s.withStatus 0), ("jobs", fun _ s => s.withStatus 0),
    ("ulimit", fun _ s => (s.print 1 "unlimited\n").withStatus 0)]

end BuildDiagnostics.Shell
