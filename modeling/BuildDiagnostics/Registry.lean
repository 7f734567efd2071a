import BuildDiagnostics.Grammar.Basic
import BuildDiagnostics.Text.Case
import BuildDiagnostics.Warning

/-!
# The registry of grammars

A registry lists grammars by name, in the order in which they are asked, and may restrict them to
the names on an allow list. Names are in lower case; a name is registered once, and registering it
again replaces its grammar. A registry never looks at what is registered, so it may also be of other
things than the grammars of this library, as long as matchers are made of them.
-/

namespace BuildDiagnostics

/-- The names that a run can use, and the grammars or whatever else is registered under them. -/
structure Registry (α : Type := Grammar) where
  /-- Each name and its grammar. -/
  entries : List (String × α)
  /-- The names that are allowed; none means all. -/
  allowed : Option (List String) := none
  deriving DecidableEq, Repr

namespace Registry

variable {α μ : Type}

/-- A name as the registry spells it. -/
def key (name : String) : String := String.ofList (Text.lower name.toList)

/-- A registry without grammars. -/
def empty : Registry α := ⟨[], none⟩

/-- The list of entries with the grammar of a name set: in its old place, or else at the end. -/
def put (name : String) (g : α) : List (String × α) → List (String × α)
  | [] => [(name, g)]
  | (n, h) :: rest => if n = name then (n, g) :: rest else (n, h) :: put name g rest

/-- The registry with a grammar under a name. -/
def register (r : Registry α) (name : String) (g : α) : Registry α :=
  { r with entries := put (key name) g r.entries }

/-- The registry of all grammars under their own names. -/
def builtin : Registry := Grammar.all.foldl (fun r g => r.register g.name g) empty

/-- All names, in order. -/
def names (r : Registry α) : List String := r.entries.map Prod.fst

/-- The names on a list, as the registry spells them, blank ones left out. -/
def wanted (allow : List String) : List String :=
  (allow.map fun n => String.ofList (Text.lower (Text.trim n.toList))).filter (· != "")

/-- The registry restricted to the names on the list that it knows; no list allows all. -/
def allow (r : Registry α) (list : Option (List String)) : Registry α :=
  { r with allowed := list.map fun l => (wanted l).filter r.names.contains }

/-- A warning for each name on the list that the registry does not know. -/
def allowWarnings (r : Registry α) (list : Option (List String)) : List Warning :=
  match list with
  | none => []
  | some l => ((wanted l).filter fun n => !r.names.contains n).map .unknownGrammar

/-- Whether a name is registered and allowed. -/
def isEnabled (r : Registry α) (name : String) : Bool :=
  match r.allowed with
  | none => r.names.contains (key name)
  | some l => l.contains (key name)

/-- The names that are registered and allowed, in order. -/
def enabledNames (r : Registry α) : List String := r.names.filter r.isEnabled

/-- What is made of the grammar of each name that is registered and allowed, in order. -/
def instantiateWith (make : α → μ) (r : Registry α) : List μ :=
  (r.entries.filter fun e => r.isEnabled e.1).map fun e => make e.2

/-- A fresh matcher for each grammar that is registered and allowed, in order. -/
def instantiate (r : Registry) : List Matcher := r.instantiateWith .fresh

end Registry

end BuildDiagnostics
