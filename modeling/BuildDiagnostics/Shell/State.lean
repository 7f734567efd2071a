import BuildDiagnostics.Disk
import BuildDiagnostics.Encoding.Utf8
import BuildDiagnostics.Environment
import BuildDiagnostics.Shell.Syntax

/-!
# The state of a shell

A shell runs on a disk that is a value, so what its commands print and how they end follow from the
state alone. Descriptors point to handles: outputs that collect bytes, inputs that run out, and
files. Two outputs are those of the whole run; others are made for pipelines and for the output of
commands that becomes part of a word.

`State.flow` tells whether commands go on one after the other, or which of them are passed over.
-/

namespace BuildDiagnostics.Shell

/-- Where a descriptor points. -/
inductive Handle
  /-- Bytes that are collected. -/
  | output (n : Nat)
  /-- Bytes that can be read. -/
  | input (n : Nat)
  /-- The end of a file. -/
  | file (loc : Location)
  /-- Nothing is read from there, and nothing that is written there is kept. -/
  | nothing
  deriving DecidableEq, Repr

/-- A variable. One that is declared may have no value. -/
structure Binding where
  value : Option String := none
  exported : Bool := false
  readOnly : Bool := false
  deriving DecidableEq, Repr

/-- What happens after a command. -/
inductive Flow
  | next
  /-- The shell ends. -/
  | exit
  /-- A signal ends the shell. -/
  | killed (signal : Nat)
  /-- The function ends. -/
  | leave
  /-- So many loops end. -/
  | leaveLoops (n : Nat)
  /-- All but the last of so many loops end, and that one goes on. -/
  | nextRound (n : Nat)
  deriving DecidableEq, Repr

/-- A shell at work. -/
structure State where
  disk : Disk
  /-- The bytes of each output, the latest first. -/
  outputs : List (List UInt8) := [[], []]
  /-- The bytes that are left of each input. -/
  inputs : List (List UInt8) := [[]]
  handles : List (Nat × Handle) := [(0, .input 0), (1, .output 0), (2, .output 1)]
  bindings : List (String × Binding) := []
  /-- The name of the script. -/
  title : String := "sh"
  arguments : List String := []
  functions : List (String × Command) := []
  flags : List Char := []
  /-- The commands to run when a signal comes, or at the end. -/
  traps : List (String × String) := []
  status : Nat := 0
  /-- The status of the last commands whose output became part of a word. -/
  partStatus : Nat := 0
  /-- The status of the last command in the background, if there was one. -/
  jobStatus : Option Nat := none
  flow : Flow := .next
  line : Nat := 1
  /-- The command of the shell that is at work. -/
  command : Option String := none
  /-- The number of loops around the command. -/
  loops : Nat := 0
  /-- For each function at work, the variables that were there before its own. -/
  scopes : List (List (String × Option Binding)) := []

/-- The number of the process. Scripts can only use it to name themselves. -/
def processNumber : String := "4242"

/-- The characters between words that come of variables, unless others are set. -/
def defaultSeparators : String := " \t\n"

namespace State

/-! ## Streams -/

/-- Where a descriptor points. -/
def handle? (s : State) (d : Nat) : Option Handle := s.handles.lookup d

/-- The state with a descriptor pointing somewhere. -/
def setHandle (s : State) (d : Nat) (p : Handle) : State :=
  { s with handles := (d, p) :: s.handles.filter fun x => x.1 != d }

/-- The state with a descriptor pointing nowhere. -/
def closeHandle (s : State) (d : Nat) : State :=
  { s with handles := s.handles.filter fun x => x.1 != d }

/-- The disk with bytes at the end of a file. -/
def appendFile (d : Disk) (loc : Location) (bytes : List UInt8) : Disk :=
  match d.node? loc with
  | some (.file content) => d.put loc (.file (content ++ bytes))
  | _ => d

/-- The state with bytes written to a descriptor, if that can be written to. -/
def write? (s : State) (d : Nat) (bytes : List UInt8) : Option State :=
  match s.handle? d with
  | some (.output n) => some { s with outputs := s.outputs.modify n (bytes.reverse ++ ·) }
  | some (.file loc) => some { s with disk := appendFile s.disk loc bytes }
  | some .nothing => some s
  | _ => none

/-- The state with bytes written to a descriptor. -/
def write (s : State) (d : Nat) (bytes : List UInt8) : State := (s.write? d bytes).getD s

/-- The state with a text written to a descriptor. -/
def print (s : State) (d : Nat) (text : String) : State := s.write d (Utf8.encode text)

/-- The bytes that an output has collected. -/
def collected (s : State) (n : Nat) : List UInt8 := (s.outputs.getD n []).reverse

/-- The bytes that a descriptor has left to read. -/
def unread (s : State) (d : Nat) : List UInt8 :=
  match s.handle? d with
  | some (.input n) => s.inputs.getD n []
  | _ => []

/-- The state with other bytes left to read from a descriptor. -/
def setUnread (s : State) (d : Nat) (bytes : List UInt8) : State :=
  match s.handle? d with
  | some (.input n) => { s with inputs := s.inputs.set n bytes }
  | _ => s

/-- The state with a descriptor that reads the given bytes. -/
def feed (s : State) (d : Nat) (bytes : List UInt8) : State :=
  setHandle { s with inputs := s.inputs ++ [bytes] } d (.input s.inputs.length)

/-! ## Statuses -/

/-- The state with a status. -/
def withStatus (s : State) (n : Nat) : State := { s with status := n }

/-- The state with the status that tells whether something holds. -/
def answer (s : State) (b : Bool) : State := s.withStatus (if b then 0 else 1)

/-- Whether commands go on one after the other. -/
def goesOn (s : State) : Bool := s.flow = .next

/-- The state with a message that names the script, the line and the command of the shell. -/
def complain (s : State) (text : String) : State :=
  let command := match s.command with
    | some c => c ++ ": "
    | none => ""
  s.print 2 (s.title ++ ": " ++ toString s.line ++ ": " ++ command ++ text ++ "\n")

/-- The state of a command that fails with a message. -/
def fail (s : State) (text : String) : State := (s.complain text).withStatus 2

/-- The state of a shell that ends with a message. -/
def abort (s : State) (text : String) : State := { s.fail text with flow := .exit }

/-! ## Variables -/

/-- A variable. -/
def binding? (s : State) (name : String) : Option Binding := s.bindings.lookup name

/-- The state with a variable. -/
def bind (s : State) (name : String) (b : Binding) : State :=
  { s with bindings := (name, b) :: s.bindings.filter fun x => x.1 != name }

/-- The state with a variable as it was. -/
def restore (s : State) (name : String) (b : Option Binding) : State :=
  match b with
  | some b => s.bind name b
  | none => { s with bindings := s.bindings.filter fun x => x.1 != name }

/-- The value of a variable. -/
def value? (s : State) (name : String) : Option String :=
  if name = "LINENO" then some (toString s.line) else (s.binding? name).bind Binding.value

/-- The state with a value for a variable, which ends the shell if the variable cannot be changed.
-/
def assign (s : State) (name value : String) : State :=
  let b := (s.binding? name).getD {}
  if b.readOnly then s.abort (name ++ ": is read only")
  else s.bind name { b with value := some value, exported := b.exported || s.flags.contains 'a' }

/-- The characters between words that come of variables. -/
def separators (s : State) : List Char := ((s.value? "IFS").getD defaultSeparators).toList

/-- The variables that programs are given. -/
def environment (s : State) : Environment where
  bindings := s.bindings.filterMap fun (name, b) =>
    match b.exported, b.value with
    | true, some v => some (name, v)
    | _, _ => none

/-- The value of a parameter that is one text. -/
def parameter? (s : State) (name : String) : Option String :=
  match name with
  | "?" => some (toString s.status)
  | "$" => some processNumber
  | "#" => some (toString s.arguments.length)
  | "!" => s.jobStatus.map fun _ => processNumber
  | "-" => some (String.ofList s.flags)
  | "0" => some s.title
  | _ =>
    if name.toList.all Text.isDigitAscii then
      s.arguments[(name.toNat?.getD 0) - 1]?
    else s.value? name

/-! ## Parts of a shell -/

/-- The state after commands that ran in a shell of their own, which leaves its marks on the disk
and in the streams only. -/
def after (s t : State) : State :=
  { s with
    disk := { t.disk with cwd := s.disk.cwd }
    outputs := t.outputs
    inputs := t.inputs
    status := t.status
    flow := match t.flow with
      | .killed n => .killed n
      | _ => s.flow }

/-- The state in which commands run in a shell of their own. Traps that are set are forgotten, and
signals that are ignored stay so. -/
def inner (s : State) : State :=
  { s with traps := s.traps.filter fun t => t.2.isEmpty, loops := 0 }

end State

end BuildDiagnostics.Shell
