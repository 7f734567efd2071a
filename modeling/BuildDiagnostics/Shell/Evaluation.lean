import BuildDiagnostics.Shell.Builtin

/-!
# Evaluation

`evaluate` runs a command in a state. A command runs others in it by way of an engine, and a number
bounds how deep that goes; so evaluation is a step (`evaluateWith`) that is repeated.

A name stands for a special command of the shell, a function, another command of the shell, or a
program, in this order. Programs are few (`tool?`), and `sh`, which runs a shell within the shell.
-/

namespace BuildDiagnostics.Shell

/-! ## Shells -/

/-- What a shell is started with. -/
structure Invocation where
  flags : List Char := []
  /-- The script is the first argument. -/
  inline : Bool := false
  arguments : List String := []
  deriving DecidableEq, Repr

namespace Invocation

/-- The invocation with the flags of letters. -/
def withLetters (i : Invocation) : List Char → Except Char Invocation
  | [] => .ok i
  | c :: cs =>
    if c = 'c' then withLetters { i with inline := true } cs
    else if c = 's' || c = 'i' then withLetters i cs
    else if Builtin.knownFlags.contains c then withLetters { i with flags := i.flags ++ [c] } cs
    else .error c

/-- Reads the arguments of a shell. -/
def read (i : Invocation) : List String → Except Char Invocation
  | [] => .ok i
  | "-" :: rest => .ok { i with arguments := rest }
  | "--" :: rest => .ok { i with arguments := rest }
  | a :: rest =>
    match a.toList with
    | '-' :: cs =>
      match i.withLetters cs with
      | .ok i => read i rest
      | .error c => .error c
    | _ => .ok { i with arguments := a :: rest }

end Invocation

/-- The variables of a shell that is given an environment. -/
def initialBindings (d : Disk) (e : Environment) : List (String × Binding) :=
  let given := e.bindings.reverse.map fun (n, v) => (n, { value := some v, exported := true })
  let own : List (String × Binding) :=
    [("IFS", { value := some defaultSeparators }), ("OPTIND", { value := some "1" }),
      ("PPID", { value := some processNumber }), ("PS1", { value := some "$ " }),
      ("PS2", { value := some "> " }), ("PS4", { value := some "+ " }),
      ("PWD", { value := some d.workingDirectory.text })]
  own ++ given.filter fun x => (own.lookup x.1).isNone

/-- A shell that is started in a state: it shares the disk and the streams. -/
def State.child (s : State) : State where
  disk := s.disk
  outputs := s.outputs
  inputs := s.inputs
  handles := s.handles
  bindings := initialBindings s.disk s.environment

/-- The state of a shell that cannot start. -/
def State.cannotStart (s : State) (text : String) : State :=
  { (s.print 2 ("sh: 0: " ++ text ++ "\n")).withStatus 2 with flow := .exit }

/-- Runs a shell from its arguments to its end. -/
def runShell (run : Engine) (args : List String) (s : State) : State :=
  match ({} : Invocation).read args with
  | .error c => s.cannotStart ("Illegal option -" ++ c.toString)
  | .ok i =>
    let s := { s with flags := i.flags }
    if i.inline then
      match i.arguments with
      | [] => s.cannotStart "-c requires an argument"
      | text :: rest =>
        let s := { s with title := rest.headD "sh", arguments := rest.drop 1 }
        run.finish (run.runText false text.toList s)
    else
      match i.arguments with
      | [] =>
        let text := textOfBytes (s.unread 0)
        run.finish (run.runText false text (s.setUnread 0 []))
      | file :: rest =>
        match s.disk.read ⟨file⟩ with
        | .error _ => s.cannotStart ("cannot open " ++ file ++ ": No such file")
        | .ok bytes =>
          let s := { s with title := file, arguments := rest }
          run.finish (run.runText false (textOfBytes bytes) s)

/-- The state after a program that ran as a shell of its own. -/
def State.afterProgram (s t : State) : State :=
  let u := s.after { t with flow := .next }
  match t.flow with
  | .killed n =>
    let u := u.withStatus (128 + n)
    if (signalMessage n).isEmpty then u else u.print 2 (signalMessage n ++ "\n")
  | _ => u.withStatus (t.status % 256)

/-! ## Simple commands -/

/-- The names of the shell among programs. -/
def isShell (name : String) : Bool := bareName name == "sh" || bareName name == "dash"

/-- Runs a program. -/
def runProgram (run : Engine) (name : String) (args : List String) (s : State) : State :=
  if isShell name then s.afterProgram (runShell run args s.child)
  else
    match tool? name with
    | some t => t args s
    | none =>
      if name.toList.contains '/' && s.disk.pathExists ⟨name⟩ then
        (s.complain (name ++ ": Permission denied")).withStatus 126
      else (s.complain (name ++ ": not found")).withStatus 127

/-- Runs a function: its arguments are its own, and so are the variables that it makes so. -/
def callFunction (run : Engine) (tested : Bool) (body : Command) (args : List String) (s : State) :
    State :=
  let t := run tested body { s with arguments := args, scopes := [] :: s.scopes, loops := 0 }
  let u := (t.scopes.headD []).foldl (fun u (n, b) => u.restore n b) t
  { u with
    arguments := s.arguments
    scopes := s.scopes
    loops := s.loops
    flow := match t.flow with
      | .leave => .next
      | f => f }

/-- Runs the script of a file in the shell itself. -/
def source (run : Engine) : Tool := fun args s =>
  match args with
  | [] => s.withStatus 0
  | file :: _ =>
    match s.disk.read ⟨file⟩ with
    | .ok bytes =>
      let t := run.runText false (textOfBytes bytes) { s.withStatus 0 with command := some file }
      { t with flow := match t.flow with
          | .leave => .next
          | f => f }
    | .error _ =>
      if file.toList.contains '/' then s.abort ("cannot open " ++ file ++ ": No such file")
      else s.abort (file ++ ": not found")

/-- The commands of the shell. -/
def builtin? (run : Engine) (tested : Bool) (name : String) : Option Tool :=
  match name with
  | "eval" => some fun args s =>
    run.runText tested (" ".intercalate args).toList (s.withStatus 0)
  | "." => some (source run)
  | "kill" => some (Builtin.kill run)
  | _ => plainBuiltins.lookup name

/-- The names of the commands that need an engine. -/
def engineBuiltins : List String := ["eval", ".", "kill", "exec", "command", "type"]

/-- What a name stands for, in a sentence and in short. -/
def describe? (s : State) (name : String) : Option (String × String) :=
  if reservedWords.contains name then some (name ++ " is a shell keyword", name)
  else if (s.functions.lookup name).isSome then some (name ++ " is a shell function", name)
  else if specialCommands.contains name then some (name ++ " is a special shell builtin", name)
  else if (plainBuiltins.lookup name).isSome || engineBuiltins.contains name then
    some (name ++ " is a shell builtin", name)
  else if (tool? name).isSome || isShell name then
    some (name ++ " is /usr/bin/" ++ bareName name, "/usr/bin/" ++ bareName name)
  else none

/-- Tells what names stand for. -/
def typeOf : Tool := fun args s =>
  args.foldl (fun s name =>
    match describe? s name with
    | some (text, _) => s.print 1 (text ++ "\n")
    | none => (s.print 1 (name ++ ": not found\n")).withStatus 127) (s.withStatus 0)

/-- Tells in short what a name stands for. -/
def shortType (args : List String) (s : State) : State :=
  match args with
  | [] => s.withStatus 0
  | name :: _ =>
    match describe? s name with
    | some (_, text) => (s.print 1 (text ++ "\n")).withStatus 0
    | none => s.withStatus 127

/-- Runs a command of the shell or a program. -/
def runBuiltin (run : Engine) (tested : Bool) (name : String) (args : List String) (s : State) :
    State :=
  match builtin? run tested name with
  | some t => { t args { s with command := some name } with command := s.command }
  | none => runProgram run name args s

/-- Runs a command by its name, but no function. What would end the shell because its name is
special is only a failure. -/
def runNamed (run : Engine) (tested : Bool) (args : List String) (s : State) : State :=
  match args with
  | [] => s.withStatus 0
  | "-v" :: rest => shortType rest s
  | "-V" :: rest => typeOf rest s
  | "-p" :: name :: rest => runBuiltin run tested name rest s
  | "--" :: name :: rest => runBuiltin run tested name rest s
  | name :: rest => runBuiltin run tested name rest s

/-- Runs a program in place of the shell. -/
def replaceShell (run : Engine) (args : List String) (s : State) : State :=
  match if args.head? = some "--" then args.drop 1 else args with
  | [] => s.withStatus 0
  | name :: rest =>
    if (tool? name).isSome || isShell name || name.toList.contains '/' then
      { runProgram run name rest s with flow := .exit, traps := [] }
    else
      let s := { s with command := some "exec" }
      { (s.complain (name ++ ": not found")).withStatus 127 with flow := .exit }

/-- Runs words as a command. -/
def runWords (run : Engine) (tested : Bool) (name : String) (args : List String) (s : State) :
    State :=
  if name = "exec" then replaceShell run args s
  else if specialCommands.contains name then runBuiltin run tested name args s
  else
    match s.functions.lookup name with
    | some body => callFunction run tested body args s
    | none =>
      match name with
      | "command" => runNamed run tested args s
      | "type" => typeOf args s
      | _ => runBuiltin run tested name args s

/-- Sets variables to the texts of words. -/
def assignAll (run : Engine) (change : Binding → Binding) :
    List (String × Word) → State → State
  | [], s => s
  | (name, w) :: rest, s =>
    let (text, s) := (expandText run.expander w).run s
    if !s.goesOn then s
    else
      let s := s.assign name text
      if !s.goesOn then s
      else assignAll run change rest (s.bind name (change ((s.binding? name).getD {})))

/-- The state in which variables are as they were in another. -/
def restoreAll (assignments : List (String × Word)) (s t : State) : State :=
  assignments.foldl (fun t (name, _) => t.restore name (s.binding? name)) t

/-- Tells of a command before it runs, where that is asked for. -/
def trace (assignments : List (String × Word)) (words : List String) (s : State) : State :=
  if s.flags.contains 'x' then
    let set := assignments.map fun (n, _) => n ++ "=" ++ ((s.value? n).getD "")
    s.print 2 ("+ " ++ " ".intercalate (set ++ words) ++ "\n")
  else s

/-- Ends a shell that ends at failures, if the status is one and is not tested. -/
def endOnFailure (tested : Bool) (s : State) : State :=
  if s.goesOn && s.flags.contains 'e' && !tested && s.status != 0 then { s with flow := .exit }
  else s

/-- Runs a command that is assignments and redirections only. -/
def runAssignments (run : Engine) (assignments : List (String × Word)) (rs : List Redirect)
    (s : State) : State :=
  run.redirected rs (fun s =>
    let t := assignAll run id assignments s
    if t.goesOn then trace assignments [] (t.withStatus t.partStatus) else t) s

/-- Runs a command that is a word at least. Variables that are set before a command are its own,
save for a special one, and the descriptors that `exec` changes stay so. -/
def runCall (run : Engine) (tested : Bool) (assignments : List (String × Word)) (name : String)
    (args : List String) (rs : List Redirect) (s : State) : State :=
  let special := specialCommands.contains name
  let (ok, t) := (run.redirectAll rs).run s
  if !ok then { t with handles := s.handles, flow := if special then .exit else t.flow }
  else
    let u := assignAll run (fun b => { b with exported := true }) assignments t
    let v :=
      if u.goesOn then runWords run tested name args (trace assignments (name :: args) u) else u
    let w := if special then v else restoreAll assignments s v
    if name = "exec" && w.goesOn then w else { w with handles := s.handles }

/-- Runs a simple command. -/
def runSimple (run : Engine) (tested : Bool) (line : Nat) (assignments : List (String × Word))
    (words : List Word) (rs : List Redirect) (s : State) : State :=
  let (fields, t) := (expandWords run.expander words).run { s with line := line, partStatus := 0 }
  if !t.goesOn then t
  else
    endOnFailure tested (match fields with
      | [] => runAssignments run assignments rs t
      | name :: args => runCall run tested assignments name args rs t)

/-! ## Commands -/

/-- Runs a command, with an engine for the commands in it. -/
def evaluateWith (run : Engine) : Engine := fun tested c s =>
  match c with
  | .skip => s
  | .simple line assignments words rs => runSimple run tested line assignments words rs s
  | .negate c =>
    let t := run true c s
    if t.goesOn then t.answer (t.status != 0) else t
  | .pipe cs => endOnFailure tested (run.runPipe tested cs s)
  | .both c d =>
    let t := run true c s
    if t.goesOn && t.status == 0 then run tested d t else t
  | .either c d =>
    let t := run true c s
    if t.goesOn && t.status != 0 then run tested d t else t
  | .sequence c d =>
    let t := run tested c s
    if t.goesOn then run tested d t else t
  | .background c =>
    let t := run.runInner false c (s.setHandle 0 .nothing)
    { t.withStatus 0 with handles := s.handles, jobStatus := some t.status }
  | .subshell c rs =>
    endOnFailure tested (s.after (run.redirected rs (fun s =>
      run.finish (run tested c s)) s.inner))
  | .redirected c rs => run.redirected rs (run tested c) s
  | .choose test yes no =>
    let t := run true test s
    if !t.goesOn then t
    else if t.status = 0 then run tested yes t
    else
      match no with
      | .skip => t.withStatus 0
      | no => run tested no t
  | .loop wrong test body =>
    Engine.asLoop (run.runLoop tested wrong test body Engine.maxRounds 0) s
  | .forEach name words body =>
    let (texts, t) := (expandWords run.expander words).run s
    if !t.goesOn then t
    else if texts.isEmpty then t.withStatus 0
    else Engine.asLoop (run.runFor tested name body texts) t
  | .select w arms =>
    let (text, t) := (expandText run.expander w).run s
    if t.goesOn then run.runArms tested text arms (t.withStatus 0) else t
  | .define name body =>
    { s.withStatus 0 with
      functions := (name, body) :: s.functions.filter fun f => f.1 != name }

/-- How deep commands within commands can go. -/
def maxDepth : Nat := 4000

/-- Runs a command; commands within it go as deep as the number says. -/
def evaluateWithin : Nat → Engine
  | 0 => fun _ _ s => s.abort "Maximum function recursion depth (1000) reached"
  | n + 1 => fun tested c s => evaluateWith (evaluateWithin n) tested c s

/-- Runs a command. -/
def evaluate : Engine := evaluateWithin maxDepth

end BuildDiagnostics.Shell
