import BuildDiagnostics.Text.Line

/-!
# Paths

A path is a text in which slashes separate names. Two texts with the same components name the same
path: repeated slashes, a slash at the end and a `.` inside do not count, a `.` at the start of a
relative path does, and `..` is kept. `normalize` goes further and takes out `.` and `..` without
looking at a disk.
-/

namespace BuildDiagnostics

/-- A path as written. -/
structure Path where
  text : String
  deriving DecidableEq, Repr

namespace Path

/-- A part of a path. -/
inductive Component
  | root
  /-- A `.` at the start of a relative path. -/
  | here
  /-- A `..`. -/
  | up
  | name (s : String)
  deriving DecidableEq, Repr

namespace Component

/-- The place of a kind of component in the order of paths. -/
def rank : Component → Nat
  | root => 0
  | here => 1
  | up => 2
  | name _ => 3

/-- Components are ordered by kind, and names among themselves by their characters. -/
def order : Component → Component → Ordering
  | name s, name t => compare s t
  | a, b => compare a.rank b.rank

instance : Ord Component := ⟨order⟩

/-- The component as it is written. -/
def text : Component → String
  | root => "/"
  | here => "."
  | up => ".."
  | name s => s

/-- The component that a piece between slashes stands for, if any. -/
def ofPiece? (piece : List Char) : Option Component :=
  if piece = [] || piece = ['.'] then none
  else if piece = ['.', '.'] then some up
  else some (name (String.ofList piece))

end Component

/-- Whether the text starts at the root. -/
def startsAtRoot : List Char → Bool
  | '/' :: _ => true
  | _ => false

/-- Whether the path starts at the root. -/
def isAbsolute (p : Path) : Bool := startsAtRoot p.text.toList

/-- The components of a path. -/
def components (p : Path) : List Component :=
  let pieces := Text.pieces '/' p.text.toList
  let rest := pieces.filterMap Component.ofPiece?
  if p.isAbsolute then .root :: rest
  else if pieces.head? = some ['.'] then .here :: rest
  else rest

/-- The path with the given components. -/
def ofComponents (cs : List Component) : Path :=
  match cs with
  | .root :: rest => ⟨"/" ++ "/".intercalate (rest.map Component.text)⟩
  | cs => ⟨"/".intercalate (cs.map Component.text)⟩

/-- Whether two texts are the same path. -/
def same (p q : Path) : Bool := p.components == q.components

/-- The order of paths, by their components. -/
def order (p q : Path) : Ordering := compare p.components q.components

/-- The file inside a directory; an absolute file stays as it is. -/
def join (p : Path) (file : String) : Path :=
  if startsAtRoot file.toList then ⟨file⟩
  else if p.text.isEmpty || p.text.toList.getLast? = some '/' then ⟨p.text ++ file⟩
  else ⟨p.text ++ "/" ++ file⟩

/-- The path without its last component, if it has one to lose. -/
def parent? (p : Path) : Option Path :=
  match p.components with
  | [] => none
  | [.root] => none
  | cs => some (ofComponents cs.dropLast)

/-- The path and all that it lies in, the path first. -/
def ancestors (p : Path) : List Path :=
  let cs := p.components
  p :: (List.range cs.length).reverse.map fun n => ofComponents (cs.take n)

/-- The part of a file name after its last dot; a dot at the start does not count. -/
def extensionOf? (name : List Char) : Option (List Char) :=
  let ending := name.reverse.takeWhile (· != '.')
  if ending.length + 1 < name.length then some ending.reverse else none

/-- The part of the file name after its last dot, if the path ends in a name that has one. -/
def extension? (p : Path) : Option (List Char) :=
  match p.components.getLast? with
  | some (.name s) => extensionOf? s.toList
  | _ => none

/-- Puts a component on top of a normalized path, whose last component comes first. A `..` takes the
component before it away; at the root or at the start it stays. -/
def push (stack : List Component) : Component → List Component
  | .here => stack
  | .up =>
    match stack with
    | [] => [.up]
    | [.root] => [.up, .root]
    | _ :: rest => rest
  | c => c :: stack

/-- The path without `.`, and without `..` as far as there is something before it. -/
def normalize (p : Path) : Path := ofComponents (p.components.foldl push []).reverse

end Path

end BuildDiagnostics
