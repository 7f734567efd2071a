import BuildDiagnostics.Text.Line

/-!
# Patterns

The formats of diagnostics are described by patterns over single characters. A pattern is tried at
the start of a text; where it allows several readings they are tried in a fixed order and the first
one that lets the rest of the pattern succeed wins:

* `most` takes as many characters as it can first, `least` as few;
* `opt` prefers to be present, `alt` its left side;
* `capture` remembers what its pattern has read.

`run` says what a pattern means: it hands every reading to what follows and stops at the first
success.
-/

namespace BuildDiagnostics

/-- What a captured piece of a line stands for. -/
inductive Field
  | file | line | column | location | severity | lead | tail | code | message
  | object | tool | level | command | section | key | quotedKey | kind | value | first | last
  deriving DecidableEq, Repr

/-- A place where the capture of a field begins or ends, with the text from there on. -/
inductive Mark
  | opened (f : Field) (s : List Char)
  | closed (f : Field) (s : List Char)
  deriving DecidableEq, Repr

/-- The marks of one reading, in the order of the text. -/
abbrev Captures := List Mark

namespace Captures

/-- The text left where the first capture of a field ends. -/
def restOf? (f : Field) : Captures → Option (List Char)
  | [] => none
  | .closed g s :: ms => if g = f then some s else restOf? f ms
  | .opened _ _ :: ms => restOf? f ms

/-- What was captured under a field, if its part of the pattern took part in the reading. -/
def get? (ms : Captures) (f : Field) : Option (List Char) :=
  match ms with
  | [] => none
  | .opened g s :: ms =>
    if g = f then (restOf? f ms).map fun r => s.take (s.length - r.length) else get? ms f
  | .closed _ _ :: ms => get? ms f

/-- What was captured under a field; empty when nothing was. -/
def get (ms : Captures) (f : Field) : List Char := (get? ms f).getD []

end Captures

/-- What a pattern has captured, and the text that it has left. -/
structure Reading where
  captures : Captures
  rest : List Char
  deriving DecidableEq, Repr

namespace Reading

/-- The reading that has read nothing. -/
def start (s : List Char) : Reading := ⟨[], s⟩

/-- The reading with a mark before those it has. -/
def mark (m : Mark) (r : Reading) : Reading := { r with captures := m :: r.captures }

end Reading

/-- A pattern for the beginning of a text. -/
inductive Pattern
  /-- Reads nothing. -/
  | empty
  /-- Reads one character of the class. -/
  | one (p : Char → Bool)
  /-- Reads exactly this text. -/
  | text (t : List Char)
  /-- Reads characters of the class, as many as possible first. -/
  | most (p : Char → Bool)
  /-- Reads characters of the class, as few as possible first. -/
  | least (p : Char → Bool)
  /-- Reads the pattern, or else nothing. -/
  | opt (p : Pattern)
  /-- Reads the left pattern, or else the right one. -/
  | alt (p q : Pattern)
  /-- Reads the first pattern and then the second. -/
  | seq (p q : Pattern)
  /-- Reads the pattern and remembers what it read. -/
  | capture (f : Field) (p : Pattern)
  /-- Reads nothing, at the end of the text only. -/
  | stop
  /-- Reads nothing, where no character of the class follows. -/
  | notBefore (p : Char → Bool)

namespace Pattern

instance : Append Pattern := ⟨seq⟩

instance : Coe String Pattern := ⟨fun s => text s.toList⟩

/-- Reads one or more characters of the class, as many as possible first. -/
def most1 (p : Char → Bool) : Pattern := seq (one p) (most p)

/-- Reads one or more characters of the class, as few as possible first. -/
def least1 (p : Char → Bool) : Pattern := seq (one p) (least p)

/-- Reads the first of the patterns that lets the rest succeed. -/
def oneOf : List Pattern → Pattern
  | [] => one fun _ => false
  | [p] => p
  | p :: q :: ps => alt p (oneOf (q :: ps))

/-- What follows a pattern: it reads a text, if it can. -/
abbrev Continuation := List Char → Option Reading

/-- Offers the ends of the longest run of the class first. -/
def longest (p : Char → Bool) (k : Continuation) : Continuation
  | [] => k []
  | c :: s => if p c then (longest p k s).or (k (c :: s)) else k (c :: s)

/-- Offers the ends of the shortest run of the class first. -/
def shortest (p : Char → Bool) (k : Continuation) : Continuation
  | [] => k []
  | c :: s => (k (c :: s)).or (if p c then shortest p k s else none)

/-- Reads one character of the class before what follows. -/
def first (p : Char → Bool) (k : Continuation) : Continuation
  | [] => none
  | c :: s => if p c then k s else none

/-- Whether the text is empty or starts with a character outside the class. -/
def startsOutside (p : Char → Bool) : List Char → Bool
  | [] => true
  | c :: _ => !p c

/-- Hands the readings of the pattern to what follows and returns its first success. -/
def run : Pattern → Continuation → Continuation
  | empty, k, s => k s
  | one p, k, s => first p k s
  | text t, k, s => if t.isPrefixOf s then k (s.drop t.length) else none
  | most p, k, s => longest p k s
  | least p, k, s => shortest p k s
  | opt p, k, s => (p.run k s).or (k s)
  | alt p q, k, s => (p.run k s).or (q.run k s)
  | seq p q, k, s => p.run (q.run k) s
  | capture f p, k, s =>
    (p.run (fun r => (k r).map (.mark (.closed f r))) s).map (.mark (.opened f s))
  | stop, k, s => if s.isEmpty then k s else none
  | notBefore p, k, s => if startsOutside p s then k s else none

end Pattern

end BuildDiagnostics
