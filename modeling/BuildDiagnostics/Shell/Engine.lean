import BuildDiagnostics.Shell.Expansion
import BuildDiagnostics.Shell.Reader
import BuildDiagnostics.Shell.Signal

/-!
# Running commands within commands

An `Engine` runs a command in a state. What can be said without knowing how it does that stands
here: running scripts (`runText`), shells within shells (`runInner`), pipelines, loops, redirections
and traps. `tested` tells whether the status of a command decides what comes next, so that its
failure does not end a shell that ends at failures.
-/

namespace BuildDiagnostics.Shell

/-- Runs a command, whose status may be tested. -/
abbrev Engine := Bool → Command → State → State

namespace Engine

/-! ## Scripts -/

/-- Runs the lines of a script; at most so many. `total` is the number of lines of all of it. -/
def runLines (run : Engine) (tested : Bool) (total : Nat) : Nat → List Char → State → State
  | 0, _, s => s
  | n + 1, text, s =>
    if text.isEmpty || !s.goesOn then s
    else
      match readLine (total + 1 - text.count '\n') text with
      | .error c => State.abort { s with line := c.line } c.text
      | .ok (c, rest) => runLines run tested total n rest (run tested c s)

/-- Runs a script. -/
def runText (run : Engine) (tested : Bool) (text : List Char) (s : State) : State :=
  runLines run tested (text.count '\n') (text.length + 1) text s

/-- Runs the commands of a trap, which leave the status as it is. -/
def runTrap (run : Engine) (action : String) (s : State) : State :=
  let t := runText run false action.toList s
  if t.goesOn then t.withStatus s.status else t

/-- The end of a shell, where the trap for it runs. -/
def finish (run : Engine) (s : State) : State :=
  match s.flow, s.traps.lookup "EXIT" with
  | .killed _, _ | _, none => s
  | _, some action =>
    let t := runText run false action.toList
      { s with flow := .next, traps := s.traps.filter fun t => t.1 != "EXIT" }
    if t.goesOn then t.withStatus s.status else t

/-- Runs a command in a shell of its own within the shell. -/
def runInner (run : Engine) (tested : Bool) (c : Command) (s : State) : State :=
  s.after (finish run (run tested c s.inner))

/-- Runs commands whose output becomes part of a word. -/
def expander (run : Engine) : Expander := fun c s => finish run (run false c s)

/-- A signal comes: its trap runs, it is ignored, or it ends the shell. -/
def receive (run : Engine) (signal : Nat) (s : State) : State :=
  match s.traps.lookup (signalName signal) with
  | some action => if signal = 9 || signal = 19 then { s with flow := .killed signal }
    else if action.isEmpty then s
    else runTrap run action s
  | none => if isHarmless signal then s else { s with flow := .killed signal }

/-! ## Redirections -/

/-- Why a descriptor cannot point somewhere. -/
def redirectMessage (f : Fault) (read : Bool) (path : String) : String :=
  match f, read with
  | .notFound, true => "cannot open " ++ path ++ ": No such file"
  | .notFound, false => "cannot create " ++ path ++ ": Directory nonexistent"
  | f, _ =>
    (if read then "cannot open " else "cannot create ") ++ path ++ ": " ++
      String.ofList (Text.trimEnd (f.message.toList.takeWhile (· != '(')))

/-- Points a descriptor to what a file holds. -/
def openFile (s : State) (d : Nat) (path : String) : Except String State :=
  match s.disk.read ⟨path⟩ with
  | .ok content => .ok (s.feed d content)
  | .error f => .error (redirectMessage f true path)

/-- Points a descriptor to the end of a file, which is emptied unless it is to be kept. -/
def createFile (s : State) (d : Nat) (keep : Bool) (path : String) : Except String State :=
  let old := if keep then ((s.disk.read ⟨path⟩).toOption).getD [] else []
  match s.disk.write ⟨path⟩ old with
  | .error f => .error (redirectMessage f false path)
  | .ok disk =>
    match disk.locate ⟨path⟩ with
    | .ok loc => .ok ({ s with disk := disk }.setHandle d (.file loc))
    | .error f => .error (redirectMessage f false path)

/-- Points a descriptor to where another one points, or nowhere for a hyphen. -/
def copyHandle (s : State) (d : Nat) (text : String) : Except String State :=
  if text = "-" then .ok (s.closeHandle d)
  else
    match text.toNat?.bind s.handle? with
    | some p => .ok (s.setHandle d p)
    | none => .error (text ++ ": Bad file descriptor")

/-- The descriptor that a file of the system stands for. -/
def systemDescriptor? (path : String) : Option Nat :=
  [("/dev/stdin", 0), ("/dev/stdout", 1), ("/dev/stderr", 2)].lookup path

/-- Points a descriptor to where the text of its redirection tells. -/
def point (s : State) (d : Nat) (kind : Redirection) (text : String) : Except String State :=
  if kind = .document then .ok (s.feed d (Utf8.encode text))
  else if kind = .copy then copyHandle s d text
  else if text = "/dev/null" then .ok (s.setHandle d .nothing)
  else
    match systemDescriptor? text with
    | some n => copyHandle s d (toString n)
    | none =>
      match kind with
      | .read => openFile s d text
      | kind => createFile s d (kind = .append) text

/-- Points descriptors as redirections tell. The answer is whether all of them could be followed. -/
def redirectAll (run : Engine) : List Redirect → Expanding Bool
  | [] => return true
  | .mk d kind target :: rest => do
    let text ← expandText run.expander target
    let s ← get
    if !s.goesOn then return false
    else
      match point s d kind text with
      | .ok s =>
        set s
        redirectAll run rest
      | .error message =>
        set (s.fail message)
        return false

/-- Runs something with redirections, after which the descriptors point where they did. -/
def redirected (run : Engine) (rs : List Redirect) (f : State → State) (s : State) : State :=
  let (ok, t) := (redirectAll run rs).run s
  { (if ok then f t else t) with handles := s.handles }

/-! ## Pipelines -/

/-- Runs commands of which each reads what the one before it prints, each in a shell of its own. -/
def runPipe (run : Engine) (tested : Bool) : List Command → State → State
  | [], s => s
  | [c], s => runInner run tested c s
  | c :: cs, s =>
    let n := s.outputs.length
    let t := runInner run tested c ({ s with outputs := s.outputs ++ [[]] }.setHandle 1 (.output n))
    if !t.goesOn then { t with handles := s.handles }
    else
      let u := runPipe run tested cs ({ t with handles := s.handles }.feed 0 (t.collected n))
      { u with handles := s.handles }

/-! ## Loops -/

/-- Whether a loop goes on after a part of a round, and the state then. -/
def afterRound (s : State) : Bool × State :=
  match s.flow with
  | .next => (true, s)
  | .leaveLoops n =>
    (false, { s with flow := if n ≤ 1 then .next else .leaveLoops (n - 1) })
  | .nextRound n =>
    if n ≤ 1 then (true, { s with flow := .next })
    else (false, { s with flow := .nextRound (n - 1) })
  | _ => (false, s)

/-- The greatest number of rounds of a loop. -/
def maxRounds : Nat := 1000000

/-- Runs a loop for at most so many rounds. `status` is that of the last round. -/
def runLoop (run : Engine) (tested wrong : Bool) (test body : Command) :
    Nat → Nat → State → State
  | 0, _, s => { s with flow := .exit }
  | n + 1, status, s =>
    let t := run true test s
    match t.flow with
    | .next =>
      if (t.status == 0) == wrong then t.withStatus status
      else
        match afterRound (run tested body t) with
        | (true, u) => runLoop run tested wrong test body n u.status u
        | (false, u) => u
    | .nextRound _ =>
      match afterRound t with
      | (true, u) => runLoop run tested wrong test body n status u
      | (false, u) => u
    | _ =>
      let u := (afterRound t).2
      if u.goesOn then u.withStatus status else u

/-- Runs a body for each of the words. -/
def runFor (run : Engine) (tested : Bool) (name : String) (body : Command) :
    List String → State → State
  | [], s => s
  | w :: ws, s =>
    let s := s.assign name w
    if !s.goesOn then s
    else
      match afterRound (run tested body s) with
      | (true, t) => runFor run tested name body ws t
      | (false, t) => t

/-- Does something as a round of a loop. -/
def asLoop (f : State → State) (s : State) : State :=
  { f { s with loops := s.loops + 1 } with loops := s.loops }

/-! ## Selections -/

/-- Whether one of the patterns matches a text. -/
def anyMatches (run : Engine) (text : String) : List Word → Expanding Bool
  | [] => return false
  | w :: ws => do
    let signs ← expandWord run.expander w
    if Wildcard.accepts (Sign.pattern signs) text.toList then return true
    else anyMatches run text ws

/-- Runs the first arm that has a pattern that matches. -/
def runArms (run : Engine) (tested : Bool) (text : String) :
    List (List Word × Command) → State → State
  | [], s => s
  | (ws, c) :: rest, s =>
    let (found, t) := (anyMatches run text ws).run s
    if !t.goesOn then t
    else if found then run tested c t
    else runArms run tested text rest t

end Engine

end BuildDiagnostics.Shell
