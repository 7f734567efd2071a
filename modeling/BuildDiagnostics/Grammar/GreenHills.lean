import BuildDiagnostics.Grammar.Block

/-!
# Green Hills

A heading `"main.c", line 12 (col. 5): error #20: identifier "x" is undefined`, or the same with
`At end of source` in place of the position, and the indented lines after it. The word `fatal`
before the severity is dropped.
-/

namespace BuildDiagnostics.GreenHills

open Text Pattern

/-- The source that these diagnostics name. -/
def source : String := "GHS"

/-- A heading. -/
def headingPattern : Pattern :=
  "\"" ++ capture .file (most isInline) ++ "\"," ++ most1 isBlank ++
    alt
      ("line" ++ most1 isBlank ++ capture .line (most1 isDigit) ++ most1 isBlank ++ "(col." ++
        most1 isBlank ++ capture .column (most1 isDigit) ++ ")")
      "At end of source" ++
    ":" ++ most1 isBlank ++ opt "fatal " ++
    capture .severity (oneOf ["remark", "warning", "error"]) ++ most1 isBlank ++
    capture .message (most isInline) ++ stop

/-- The number of a message, a colon and the rest. -/
def codePattern : Pattern :=
  "#" ++ capture .code (most1 fun c => isWord c || c == '-') ++ ":" ++ most isBlank ++
    capture .message (most isInline) ++ stop

/-- The code and the text of a message. -/
def splitCode (message : List Char) : Option String × List Char :=
  match codePattern.match? message with
  | some cs => (Diagnostic.nonEmptyCode (cs.get .code), cs.get .message)
  | none => (none, message)

/-- The diagnostic that was captured; without a position it is at the start of the file. -/
def ofCaptures (cs : Captures) : Diagnostic where
  source := source
  file := String.ofList (cs.get .file)
  range := .point (zeroBased (cs.get .line)) (zeroBased (cs.get .column))
  severity := String.ofList (cs.get .severity)
  message := String.ofList (splitCode (cs.get .message)).2
  code := (splitCode (cs.get .message)).1

/-- The diagnostic that the line opens, if it is a heading. -/
def heading? (line : Line) : Option Diagnostic :=
  (headingPattern.match? line).map ofCaptures

/-- The answer to a line, and what is held after it. A line of the block keeps its indentation. -/
def step (held : Block.State) (line : Line) : Verdict × Block.State :=
  Block.step (heading? line) trimEnd held line

end BuildDiagnostics.GreenHills
