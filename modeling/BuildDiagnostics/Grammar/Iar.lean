import BuildDiagnostics.Grammar.Block

/-!
# IAR Embedded Workbench

A heading `"C:\proj\main.c",12  Error[Pe020]: identifier "x" is undefined`, or the same without a
place, and the indented lines after it. The line `Fatal error detected, aborting.` closes the block.
-/

namespace BuildDiagnostics.Iar

open Text Pattern

/-- The source that these diagnostics name. -/
def source : String := "IAR"

/-- The compiler's own name, which stands for the file where none is given. -/
def compiler : String := "iccarm"

/-- The line after a fatal error. -/
def abortLine : String := "Fatal error detected, aborting."

/-- From the severity to the end of the line. -/
def tailPattern : Pattern :=
  capture .severity (oneOf ["Fatal error", "Error", "Warning", "Remark"]) ++ "[" ++
    capture .code (most1 isWord) ++ "]:" ++ most isBlank ++ capture .message (most isInline) ++ stop

/-- A heading with a place. -/
def locatedPattern : Pattern :=
  "\"" ++ capture .file (most isInline) ++ "\"," ++ capture .line (most1 isDigit) ++
    most1 isBlank ++ tailPattern

/-- The diagnostic that was captured. -/
def ofCaptures (cs : Captures) (file : String) : Diagnostic where
  source := source
  file := file
  range := .restOfLine (zeroBased (cs.get .line)) 0
  severity := String.ofList (lower (cs.get .severity))
  message := String.ofList (trimEnd (cs.get .message))
  code := Diagnostic.nonEmptyCode (cs.get .code)

/-- The diagnostic that the line opens, if it is a heading. -/
def heading? (line : Line) : Option Diagnostic :=
  match locatedPattern.match? line with
  | some cs => some (ofCaptures cs (String.ofList (cs.get .file)))
  | none => (tailPattern.match? line).map fun cs => ofCaptures cs compiler

/-- The answer to a line, and what is held after it. A line of the block loses the blanks at both
ends. -/
def step (held : Block.State) (line : Line) : Verdict × Block.State :=
  if trim line == abortLine.toList then (.claim held, none)
  else Block.step (heading? line) trim held line

end BuildDiagnostics.Iar
