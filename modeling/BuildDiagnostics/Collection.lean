import BuildDiagnostics.Resolver

/-!
# Collections

A collection keeps the resolved diagnostics of each file. A new batch replaces what it kept for the
files of the batch and leaves the others alone. Paths with the same components are one file, which
goes by the text that came first.

A snapshot is a sorted copy: files with errors first, then by path.
-/

namespace BuildDiagnostics

/-- The diagnostics of a file. -/
abbrev FileGroup := Path × List Resolved

/-- The diagnostics of each file. -/
structure Collection where
  name : String
  files : List FileGroup := []
  deriving DecidableEq, Repr

namespace Collection

/-- The group of a file, if the list has one. -/
def find? (p : Path) (groups : List FileGroup) : Option FileGroup :=
  groups.find? fun g => g.1.same p

/-- The list with one more diagnostic in the group of its file. -/
def add (r : Resolved) : List FileGroup → List FileGroup
  | [] => [(r.path, [r])]
  | (p, items) :: rest =>
    if p.same r.path then (p, items ++ [r]) :: rest else (p, items) :: add r rest

/-- The diagnostics of a batch by file. -/
def group (batch : List Resolved) : List FileGroup := batch.foldl (fun gs r => add r gs) []

/-- The list with the group of a file put in the place of an older one, or else at the end. -/
def put (g : FileGroup) : List FileGroup → List FileGroup
  | [] => [g]
  | (p, items) :: rest =>
    if p.same g.1 then (p, g.2) :: rest else (p, items) :: put g rest

/-- The collection without diagnostics. -/
def clear (c : Collection) : Collection := { c with files := [] }

/-- The collection after a batch. -/
def populate (c : Collection) (batch : List Resolved) : Collection :=
  { c with files := (group batch).foldl (fun fs g => put g fs) c.files }

/-- The diagnostics of a file. -/
def get (c : Collection) (p : Path) : List Resolved :=
  match find? p c.files with
  | some g => g.2
  | none => []

/-- The number of files with diagnostics. -/
def fileCount (c : Collection) : Nat := c.files.length

/-- Whether there are no diagnostics. -/
def isEmpty (c : Collection) : Bool := c.files.isEmpty

end Collection

/-- A sorted copy of a collection. -/
structure Snapshot where
  files : List FileGroup
  deriving DecidableEq, Repr

namespace Snapshot

/-- Whether the diagnostics of a file include an error. -/
def hasErrors (g : FileGroup) : Bool :=
  g.2.any fun r => r.diagnostic.classification == some .error

/-- Whether a file comes before another or with it: errors first, then by path. -/
def precedes (a b : FileGroup) : Bool :=
  match hasErrors a, hasErrors b with
  | true, false => true
  | false, true => false
  | _, _ => (a.1.order b.1).isLE

/-- The sorted copy of a collection. -/
def ofCollection (c : Collection) : Snapshot := ⟨c.files.mergeSort precedes⟩

/-- Whether there are no files. -/
def isEmpty (s : Snapshot) : Bool := s.files.isEmpty

/-- The number of diagnostics with a level. -/
def countIn (level : Severity) (items : List Resolved) : Nat :=
  items.countP fun r => r.diagnostic.classification == some level

/-- All diagnostics, file by file. -/
def items (s : Snapshot) : List Resolved := s.files.flatMap Prod.snd

/-- The number of diagnostics with a level in all files. -/
def count (s : Snapshot) (level : Severity) : Nat := countIn level s.items

/-- The number of diagnostics in all files. -/
def total (s : Snapshot) : Nat := s.items.length

end Snapshot

namespace Collection

/-- The sorted copy of the collection. -/
def snapshot (c : Collection) : Snapshot := .ofCollection c

end Collection

end BuildDiagnostics
