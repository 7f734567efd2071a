import BuildDiagnostics.Grammar.Verdict

/-!
# Wind River Diab

One line for each diagnostic: `"main.c", line 5: error (dcc:1525): identifier x not declared`, or
the same without a line.
-/

namespace BuildDiagnostics.Diab

open Text Pattern

/-- The source that these diagnostics name. -/
def source : String := "DIAB"

/-- A diagnostic. -/
def pattern : Pattern :=
  "\"" ++ capture .file (most isInline) ++ "\"," ++ most1 isBlank ++
    opt ("line" ++ most1 isBlank ++ capture .line (most1 isDigit) ++ ":" ++ most1 isBlank) ++
    capture .severity
      (oneOf ["info", "warning", opt (alt "fatal " "catastrophic ") ++ "error"]) ++
    most1 isBlank ++ "(" ++ capture .code (most isInline) ++ "):" ++ most1 isBlank ++
    capture .message (most isInline) ++ stop

/-- The diagnostic that was captured. -/
def ofCaptures (cs : Captures) : Diagnostic where
  source := source
  file := String.ofList (cs.get .file)
  range := .restOfLine (zeroBased (cs.get .line)) 0
  severity := String.ofList (cs.get .severity)
  message := String.ofList (cs.get .message)
  code := Diagnostic.nonEmptyCode (cs.get .code)

/-- The answer to a line. No state is kept. -/
def read (line : Line) : Verdict :=
  match pattern.match? line with
  | some cs => .claim (some (ofCaptures cs))
  | none => .ignored

end BuildDiagnostics.Diab
