/-!
# Commands

The commands of a shell as a tree. A word is a list of pieces, each of which stands for text: as it
is written, or as parameters, the output of commands, and arithmetic give it. Quotes are gone from
the tree; each piece says whether it stood in them, and `Piece.quotes` says that there were some, so
that an empty pair makes a word.
-/

namespace BuildDiagnostics.Shell

/-- What is taken instead of a parameter that has no value. -/
inductive Fallback
  | use | assign | fail
  /-- Taken instead of one that has a value. -/
  | replace
  deriving DecidableEq, Repr

/-- What a redirection does to its descriptor. -/
inductive Redirection
  | read | write | append
  /-- Makes it the same as another. -/
  | copy
  /-- Gives it a text to read. -/
  | document
  deriving DecidableEq, Repr

mutual

/-- A part of a word. -/
inductive Piece
  /-- A character as it is written. -/
  | plain (c : Char)
  /-- A character that quotes or a backslash make plain text. -/
  | quoted (c : Char)
  /-- A pair of quotes. -/
  | quotes
  | parameter (inQuotes : Bool) (name : String) (u : Use)
  /-- The output of commands. -/
  | output (inQuotes : Bool) (c : Command)
  /-- The value of an arithmetic expression. -/
  | value (inQuotes : Bool) (expression : List Piece)

/-- What is made of the value of a parameter. -/
inductive Use
  | value
  /-- Its number of bytes. -/
  | length
  /-- A fallback, where the parameter is unset, or also where it is empty. -/
  | fallback (f : Fallback) (orEmpty : Bool) (w : List Piece)
  /-- The value without what a pattern matches at one end. -/
  | trim (atEnd longest : Bool) (w : List Piece)
  /-- What no shell understands. -/
  | bad

/-- Where a descriptor is to point. -/
inductive Redirect
  | mk (descriptor : Nat) (kind : Redirection) (target : List Piece)

/-- A command. -/
inductive Command
  | skip
  /-- Assignments, words and redirections, on a line of the text. -/
  | simple (line : Nat) (assignments : List (String × List Piece)) (words : List (List Piece))
      (redirects : List Redirect)
  | negate (c : Command)
  /-- Commands of which each reads what the one before it prints. -/
  | pipe (cs : List Command)
  /-- The second command runs if the first one goes well. -/
  | both (c d : Command)
  /-- The second command runs if the first one goes wrong. -/
  | either (c d : Command)
  | sequence (c d : Command)
  | background (c : Command)
  | subshell (c : Command) (redirects : List Redirect)
  | redirected (c : Command) (redirects : List Redirect)
  | choose (test yes no : Command)
  /-- Runs the body as long as the test goes well, or wrong if `until` is meant. -/
  | loop (wrong : Bool) (test body : Command)
  | forEach (name : String) (words : List (List Piece)) (body : Command)
  | select (w : List Piece) (arms : List (List (List Piece) × Command))
  | define (name : String) (body : Command)

end

/-- A word. -/
abbrev Word := List Piece

instance : Inhabited Command := ⟨.skip⟩

end BuildDiagnostics.Shell
