import BuildDiagnostics.Grammar.Verdict

/-!
# Blocks of a heading and indented lines

Two compilers print a heading and then indented lines that belong to it. The diagnostic is held
until a line comes that is neither blank nor indented, a blank line, or the next heading.
-/

namespace BuildDiagnostics.Block

/-- The diagnostic whose block is open, if one is. -/
abbrev State := Option Diagnostic

/-- Whether the line starts with a space or a tab. -/
def isIndented : Line → Bool
  | c :: _ => c == ' ' || c == '\t'
  | [] => false

/-- The diagnostic with one more line in its message. -/
def addLine (d : Diagnostic) (line : List Char) : Diagnostic :=
  { d with message := d.message ++ "\n" ++ String.ofList line }

/-- The answer to a line, and what is held after it. `heading` is the diagnostic that the line
opens, if it is a heading; `body` is what the message takes of an indented line. -/
def step (heading : Option Diagnostic) (body : Line → List Char) (held : State) (line : Line) :
    Verdict × State :=
  match heading with
  | some d => (.claim held, some d)
  | none =>
    if Text.isBlankLine line then (.leave held, none)
    else
      match held with
      | some d => if isIndented line then (.claim none, some (addLine d (body line)))
        else (.leave held, none)
      | none => (.leave none, none)

/-- The end of the output: what is held is done. -/
def flush (held : State) : Option Diagnostic × State := (held, none)

end BuildDiagnostics.Block
