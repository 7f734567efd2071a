import BuildDiagnostics.Text.Class

/-!
# Wildcards

A pattern of a shell is matched by a whole text: `?` is any character, `*` any text, and brackets
hold a set of characters. A character in quotes stands for itself.

`trimStart` and `trimEnd` take away the part at one end of a text that a pattern matches.
-/

namespace BuildDiagnostics.Shell

/-- A character of a pattern, and whether quotes make it plain text. -/
abbrev PatternChar := Bool × Char

/-- A part of a set of characters. -/
inductive Member
  | range (first last : Char)
  | ofClass (name : String)
  deriving DecidableEq, Repr

/-- A part of a pattern. -/
inductive Wildcard
  | char (c : Char)
  | anyChar
  | anyText
  | oneOf (negated : Bool) (ms : List Member)
  deriving DecidableEq, Repr

namespace Member

/-- Whether a character is in a class that has a name. -/
def inClass (name : String) (c : Char) : Bool :=
  match name with
  | "alpha" => Text.isLetterAscii c
  | "digit" => Text.isDigitAscii c
  | "alnum" => Text.isLetterAscii c || Text.isDigitAscii c
  | "upper" => Text.isUpperAscii c
  | "lower" => 'a' ≤ c && c ≤ 'z'
  | "space" => c == ' ' || ('\t' ≤ c && c ≤ '\r')
  | "blank" => c == ' ' || c == '\t'
  | "punct" =>
    '!' ≤ c && c ≤ '~' && !Text.isLetterAscii c && !Text.isDigitAscii c
  | "print" => ' ' ≤ c && c ≤ '~'
  | "graph" => '!' ≤ c && c ≤ '~'
  | "cntrl" => c < ' ' || c == '\x7f'
  | "xdigit" => Text.isDigitAscii c || ('a' ≤ c && c ≤ 'f') || ('A' ≤ c && c ≤ 'F')
  | _ => false

/-- Whether a character is in the part. -/
def contains (m : Member) (c : Char) : Bool :=
  match m with
  | range first last => first ≤ c && c ≤ last
  | ofClass name => inClass name c

end Member

namespace Wildcard

/-- The name of a class at the start of a pattern, and what follows it. -/
def className? (s : List PatternChar) : Option (String × List PatternChar) :=
  match s with
  | (false, '[') :: (false, ':') :: rest =>
    let name := rest.takeWhile fun x => x.2 != ':'
    match rest.drop name.length with
    | (_, ':') :: (_, ']') :: after => some (String.ofList (name.map Prod.snd), after)
    | _ => none
  | _ => none

/-- The parts of a set up to its closing bracket, and what follows; none when it is not closed. A
bracket that comes first is a member. Each step takes at least one character, and their number
bounds the steps. -/
def members : Nat → Bool → List PatternChar → Option (List Member × List PatternChar)
  | 0, _, _ => none
  | n + 1, isFirst, s =>
    match className? s, s with
    | some (name, rest), _ => (members n false rest).map fun (ms, r) => (.ofClass name :: ms, r)
    | none, [] => none
    | none, (false, ']') :: rest =>
      if isFirst then (members n false rest).map fun (ms, r) => (.range ']' ']' :: ms, r)
      else some ([], rest)
    | none, (_, a) :: (false, '-') :: (q, b) :: rest =>
      if !q && b = ']' then
        (members n false ((false, '-') :: (q, b) :: rest)).map fun (ms, r) => (.range a a :: ms, r)
      else (members n false rest).map fun (ms, r) => (.range a b :: ms, r)
    | none, (_, a) :: rest => (members n false rest).map fun (ms, r) => (.range a a :: ms, r)

/-- The set behind an opening bracket, and what follows it. -/
def set? (s : List PatternChar) : Option (Wildcard × List PatternChar) :=
  let (negated, body) :=
    match s with
    | (false, '!') :: rest | (false, '^') :: rest => (true, rest)
    | _ => (false, s)
  (members (body.length + 1) true body).map fun (ms, rest) => (.oneOf negated ms, rest)

/-- The parts of a pattern. Each step takes at least one character, and their number bounds the
steps. -/
def parseWithin : Nat → List PatternChar → List Wildcard
  | 0, _ => []
  | _, [] => []
  | n + 1, (true, c) :: s => .char c :: parseWithin n s
  | n + 1, (false, c) :: s =>
    if c = '?' then .anyChar :: parseWithin n s
    else if c = '*' then .anyText :: parseWithin n s
    else if c = '[' then
      match set? s with
      | some (w, rest) => w :: parseWithin n rest
      | none => .char c :: parseWithin n s
    else .char c :: parseWithin n s

/-- The parts of a pattern. -/
def parse (s : List PatternChar) : List Wildcard := parseWithin s.length s

/-- Whether a part that stands for one character stands for the given one. -/
def admits (w : Wildcard) (c : Char) : Bool :=
  match w with
  | char d => c == d
  | anyChar | anyText => true
  | oneOf negated ms => ms.any (·.contains c) != negated

/-- Whether a pattern matches a whole text. -/
def accepts : List Wildcard → List Char → Bool
  | [], s => s.isEmpty
  | .anyText :: ws, s => (List.range (s.length + 1)).any fun n => accepts ws (s.drop n)
  | w :: ws, s =>
    match s with
    | [] => false
    | c :: s => w.admits c && accepts ws s

/-- The numbers from zero up to one number, or down to zero from it. -/
def lengths (longest : Bool) (n : Nat) : List Nat :=
  if longest then (List.range (n + 1)).reverse else List.range (n + 1)

/-- The text without the shortest or the longest part at its start that a pattern matches. -/
def trimStart (longest : Bool) (ws : List Wildcard) (s : List Char) : List Char :=
  match (lengths longest s.length).find? fun n => accepts ws (s.take n) with
  | some n => s.drop n
  | none => s

/-- The text without the shortest or the longest part at its end that a pattern matches. -/
def trimEnd (longest : Bool) (ws : List Wildcard) (s : List Char) : List Char :=
  match (lengths longest s.length).find? fun n => accepts ws (s.drop (s.length - n)) with
  | some n => s.take (s.length - n)
  | none => s

/-- Whether a pattern is more than plain text. -/
def isSpecial (ws : List Wildcard) : Bool :=
  ws.any fun
    | .char _ => false
    | _ => true

end Wildcard

end BuildDiagnostics.Shell
