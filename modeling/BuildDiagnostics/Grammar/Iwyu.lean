import BuildDiagnostics.Grammar.Verdict

/-!
# Include what you use

The tool prints up to three sections for a file, each under a heading:

* the lines to add become one warning;
* each line to remove becomes a warning of its own, on the lines that are cited;
* the full list of includes becomes one note.

A section ends at a blank line, at `---`, or at the next heading. An empty one gives nothing.
-/

namespace BuildDiagnostics.Iwyu

open Text Pattern

/-- The source that these diagnostics name. -/
def source : String := "iwyu"

/-- A section that gathers its lines for one report. -/
inductive Gathering
  /-- The lines to add. -/
  | add
  /-- The full list. -/
  | full
  deriving DecidableEq, Repr

namespace Gathering

/-- The severity of the report. -/
def severity : Gathering → String
  | add => "warning"
  | full => "note"

/-- What the report says before the lines. -/
def title : Gathering → String
  | add => "Add these lines:"
  | full => "The full include-list:"

end Gathering

/-- The section that is open. -/
inductive State
  /-- No section is open. -/
  | idle
  /-- The lines that are gathered, as far as they have come. -/
  | gather (g : Gathering) (file : String) (lines : List (List Char))
  /-- The lines to remove. -/
  | remove (file : String)
  deriving DecidableEq, Repr

/-- The heading of the lines to add. -/
def addPattern : Pattern :=
  capture .file (most isInline) ++ " should add these lines:" ++ stop

/-- The heading of the lines to remove. -/
def removePattern : Pattern :=
  capture .file (most isInline) ++ " should remove these lines:" ++ stop

/-- The heading of the full list. -/
def fullPattern : Pattern :=
  "The full include-list for " ++ capture .file (most isInline) ++ ":" ++ stop

/-- A line to remove and where it stands. -/
def removalPattern : Pattern :=
  "- " ++ capture .message (least isInline) ++ most1 isBlank ++ "// lines " ++
    capture .first (most1 isDigit) ++ "-" ++ capture .last (most1 isDigit) ++ stop

/-- A report on the first line of a file: a title and lines under it. -/
def listing (file severity title : String) (lines : List (List Char)) : Diagnostic where
  source := source
  file := file
  range := .restOfLine 0 0
  severity := severity
  message := title ++ "\n" ++ String.ofList (['\n'].intercalate lines)

/-- The warning about a line to remove. -/
def removal (file : String) (cs : Captures) : Diagnostic where
  source := source
  file := file
  range := .ofEnds (zeroBased (cs.get .first)) 0 (zeroBased (cs.get .last)) Position.restOfLine
  severity := "warning"
  message := "Remove this line: " ++ String.ofList (cs.get .message)

/-- The section that the line opens, if it is a heading. -/
def section? (line : Line) : Option State :=
  match addPattern.match? line with
  | some cs => some (.gather .add (String.ofList (cs.get .file)) [])
  | none =>
    match removePattern.match? line with
    | some cs => some (.remove (String.ofList (cs.get .file)))
    | none =>
      (fullPattern.match? line).map fun cs => .gather .full (String.ofList (cs.get .file)) []

namespace State

/-- The diagnostic of a section that ends; none when it has no lines. -/
def report : State → Option Diagnostic
  | gather g file (l :: ls) => some (listing file g.severity g.title (l :: ls))
  | _ => none

/-- The answer to a line in an open section. -/
def body (s : State) (line : Line) : Verdict × State :=
  match s with
  | idle => (.ignored, idle)
  | gather g file lines => (.claim none, gather g file (lines ++ [trimEnd line]))
  | remove file =>
    match removalPattern.match? line with
    | some cs => (.claim (some (removal file cs)), remove file)
    | none => (.claim none, remove file)

/-- The answer to a line, and the section that is open after it. -/
def step (s : State) (line : Line) : Verdict × State :=
  match section? line with
  | some opened => (.claim s.report, opened)
  | none =>
    if isBlankLine line then (.leave s.report, idle)
    else if trim line == "---".toList then
      match s with
      | idle => (.ignored, idle)
      | _ => (.claim s.report, idle)
    else s.body line

/-- The end of the output: the open section ends. -/
def flush (s : State) : Option Diagnostic × State := (s.report, idle)

end State

end BuildDiagnostics.Iwyu
