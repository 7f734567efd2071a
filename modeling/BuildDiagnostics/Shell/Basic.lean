import BuildDiagnostics.Shell.Evaluation
import BuildDiagnostics.Text.Quoted

/-!
# Starting a program

`start` runs a program on a disk with an empty input. What it prints and how it ends follow from its
arguments, the disk and the environment alone.
-/

namespace BuildDiagnostics.Shell

/-- How a program ends. -/
inductive Ending
  | code (n : UInt8)
  /-- A signal ended it. -/
  | killed
  deriving DecidableEq, Repr

/-- What a program prints and how it ends. -/
structure Outcome where
  output : List UInt8 := []
  error : List UInt8 := []
  ending : Ending := .code 0
  deriving DecidableEq, Repr

namespace State

/-- The state before a program is started. -/
def initial (d : Disk) (e : Environment) : State where
  disk := d
  bindings := initialBindings d e

/-- What a program has printed, and how it ends. -/
def outcome (s : State) : Outcome where
  output := s.collected 0
  error := s.collected 1
  ending := match s.flow with
    | .killed _ => .killed
    | _ => .code s.status.toUInt8

end State

/-- Why a name that is no program cannot be started. What is there can be read but not run. -/
def refusal (d : Disk) (program : String) : Fault :=
  if program.toList.contains '\x00' then .invalidPath
  else if program.toList.contains '/' then
    match d.stat ⟨program⟩ with
    | .ok _ => .permissionDenied
    | .error f => f
  else if program = "." || program = ".." then .permissionDenied
  else .notFound

/-- Why a program cannot be started. -/
def cannotStart (program : String) (f : Fault) : Failure :=
  .during ("failed to spawn " ++ Text.quote program) f

/-- What a program prints and how it ends, and the disk after it. -/
def start (d : Disk) (e : Environment) (program : String) (args : List String) :
    Except Failure (Outcome × Disk) :=
  let ran (s : State) : Outcome × Disk := (s.outcome, { s.disk with cwd := d.cwd })
  if args.any fun a => a.toList.contains '\x00' then .error (cannotStart program .invalidPath)
  else if isShell program then .ok (ran (runShell evaluate args (.initial d e)))
  else
    match tool? program with
    | some t => .ok (ran (t args (.initial d e)))
    | none => .error (cannotStart program (refusal d program))

end BuildDiagnostics.Shell
