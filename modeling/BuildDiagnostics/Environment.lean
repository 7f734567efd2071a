import BuildDiagnostics.Path

/-!
# The environment

A run is given variables by name. The last one of a name counts.
-/

namespace BuildDiagnostics

/-- The variables that a run is given. -/
structure Environment where
  bindings : List (String × String) := []
  deriving DecidableEq, Repr

namespace Environment

/-- The value of a variable. -/
def get? (e : Environment) (name : String) : Option String := e.bindings.reverse.lookup name

/-- The environment with a variable set. -/
def set (e : Environment) (name value : String) : Environment :=
  { bindings := e.bindings ++ [(name, value)] }

/-- The directory for files that need not last. -/
def temporaryDirectory (e : Environment) : Path := ⟨(e.get? "TMPDIR").getD "/tmp"⟩

end Environment

end BuildDiagnostics
