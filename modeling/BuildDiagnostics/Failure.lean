import BuildDiagnostics.Disk

/-!
# Failures

A failure ends a run. It has a cause, and says what was being done when it came.
-/

namespace BuildDiagnostics

/-- What ends a run. -/
inductive Cause
  /-- The disk or the system refused. -/
  | fault (f : Fault)
  /-- The settings are no valid document or not valid settings. -/
  | malformedSettings
  /-- There is neither a log nor a command. -/
  | nothingToDo
  deriving DecidableEq, Repr

namespace Cause

/-- The cause in words. -/
def message : Cause → String
  | fault f => f.message
  | malformedSettings => "TOML parse error"
  | nothingToDo => "nothing to do: pass --log <FILE> or a build command after \x60--\x60"

end Cause

/-- A cause, and what was being done when it came, the widest task first. -/
structure Failure where
  tasks : List String
  cause : Cause
  deriving DecidableEq, Repr

namespace Failure

/-- The fault that came during a task. -/
def during (task : String) (f : Fault) : Failure := ⟨[task], .fault f⟩

/-- The failure as part of a wider task. -/
def within (task : String) (e : Failure) : Failure := { e with tasks := task :: e.tasks }

/-- What happened, the widest task first and the cause last. -/
def chain (e : Failure) : List String := e.tasks ++ [e.cause.message]

/-- The causes as indented lines, numbered if there is more than one. -/
def causeLines (causes : List String) : List String :=
  if causes.length ≤ 1 then causes.map ("    " ++ ·)
  else causes.zipIdx.map fun (text, i) => "    " ++ toString i ++ ": " ++ text

/-- The failure as it is told to the user. -/
def render (e : Failure) : String :=
  match e.chain with
  | [] => ""
  | [head] => "Error: " ++ head ++ "\n"
  | head :: causes =>
    "Error: " ++ head ++ "\n\nCaused by:\n" ++ String.join ((causeLines causes).map (· ++ "\n"))

end Failure

end BuildDiagnostics
