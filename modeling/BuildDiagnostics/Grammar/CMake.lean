import BuildDiagnostics.Grammar.Verdict

/-!
# CMake

A message of CMake is a block: a heading that names the file, line and command, the indented text,
and perhaps a call stack whose frames become related places. Single blank lines separate paragraphs.
The block ends at the second blank line in a row, at a status line that starts with `--`, or at the
next heading.
-/

namespace BuildDiagnostics.CMake

open Text Pattern

/-- The heading of a block. -/
def headingPattern : Pattern :=
  "CMake " ++ capture .level (least isInline) ++ opt " (dev)" ++ " at " ++
    capture .file (least isInline) ++ ":" ++ capture .line (most1 isDigit) ++ opt " " ++ "(" ++
    capture .command (least isInline) ++ ")" ++ opt ":"

/-- A frame of a call stack. -/
def framePattern : Pattern :=
  "  " ++ capture .file (most isInline) ++ ":" ++ capture .line (most1 isDigit) ++ " (" ++
    capture .command (most1 isWord) ++ ")" ++ stop

/-- The line over the frames. -/
def stackTitle : String := "Call Stack (most recent call first):"

/-- The part of a block that is being read. -/
inductive Phase
  | text | stack
  deriving DecidableEq, Repr

/-- An open block. -/
structure Block where
  phase : Phase := .text
  /-- Whether the last line was blank. -/
  afterBlank : Bool := false
  diagnostic : Diagnostic
  deriving DecidableEq, Repr

/-- The open block, if one is. -/
abbrev State := Option Block

/-- The severity of a level: every kind of error is an error, all else a warning. -/
def severityOf (level : List Char) : String :=
  if occursIn "Error".toList level then "error" else "warning"

/-- The diagnostic that was captured, with no message yet. -/
def ofCaptures (cs : Captures) : Diagnostic where
  source := "CMake (" ++ String.ofList (cs.get .command) ++ ")"
  file := String.ofList (cs.get .file)
  range := .restOfLine (zeroBased (cs.get .line)) 0
  severity := severityOf (cs.get .level)
  message := ""

namespace Block

/-- The diagnostic of a block that ends. -/
def done (b : Block) : Diagnostic :=
  { b.diagnostic with message := String.ofList (trim b.diagnostic.message.toList) }

/-- The block with more text in its message. -/
def addText (b : Block) (text : List Char) : Block :=
  { b with diagnostic :=
      { b.diagnostic with message := b.diagnostic.message ++ String.ofList (text ++ ['\n']) } }

/-- The block with one more frame. -/
def addFrame (b : Block) (cs : Captures) : Block :=
  let frame : Related :=
    ⟨String.ofList (cs.get .file), .restOfLine (zeroBased (cs.get .line)) 0,
      "In call to '" ++ String.ofList (cs.get .command) ++ "' here"⟩
  { b with diagnostic := { b.diagnostic with related := b.diagnostic.related ++ [frame] } }

/-- The block after its first blank line in a row. -/
def blank (b : Block) : Block :=
  let b := { b with afterBlank := true }
  match b.phase with
  | .text => b.addText []
  | .stack => b

/-- The block after a line that is not blank. -/
def line (b : Block) (line : Line) : Block :=
  let b := { b with afterBlank := false }
  match b.phase with
  | .text =>
    if stackTitle.toList.isPrefixOf line then { b with phase := .stack }
    else b.addText ((dropPrefix? [' ', ' '] line).getD line)
  | .stack =>
    match framePattern.match? line with
    | some cs => b.addFrame cs
    | none => b

end Block

/-- The answer to a line, and the block that is open after it. -/
def step (s : State) (line : Line) : Verdict × State :=
  match headingPattern.match? line with
  | some cs => (.claim (s.map Block.done), some { diagnostic := ofCaptures cs })
  | none =>
    match s with
    | none => (.ignored, none)
    | some b =>
      if "--".toList.isPrefixOf line then (.leave (some b.done), none)
      else if isBlankLine line then
        if b.afterBlank then (.leave (some b.done), none) else (.ignored, some b.blank)
      else (.claim none, some (b.line line))

/-- The end of the output: the open block ends. -/
def flush (s : State) : Option Diagnostic × State := (s.map Block.done, none)

end BuildDiagnostics.CMake
