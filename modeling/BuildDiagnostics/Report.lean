import BuildDiagnostics.Collection
import BuildDiagnostics.Table.Basic

/-!
# Reports

A diagnostic is reported as `path:line:column: severity code: [source] message` with a line for each
related place, as a row of a table, or as one of the counts of its file.
-/

namespace BuildDiagnostics.Report

/-- A way to make text stand out, as the numbers of a terminal's control sequence. -/
structure Style where
  codes : String
  deriving DecidableEq, Repr

namespace Style

/-- The style of a place. -/
def place : Style := ⟨"1"⟩

/-- The style of the word that introduces a related place. -/
def note : Style := ⟨"34"⟩

/-- The style of a severity. -/
def ofSeverity : Option Severity → Style
  | some .error => ⟨"1;31"⟩
  | some .warning => ⟨"1;33"⟩
  | some .information => ⟨"34"⟩
  | none => ⟨"35"⟩

end Style

/-- The text in a style, or as it is. -/
def paint (colored : Bool) (s : Style) (text : String) : String :=
  if colored then "\x1b[" ++ s.codes ++ "m" ++ text ++ "\x1b[0m" else text

/-- A place in a file, with one-based numbers. -/
def placeText (p : Path) (r : Range) : String :=
  s!"{p.text}:{r.start.line.toNat + 1}:{r.start.column.toNat + 1}"

/-- The severity and code of a diagnostic. -/
def levelText (d : Diagnostic) : String :=
  match d.code with
  | some c => d.severity ++ " " ++ c
  | none => d.severity

/-- The line of a related place. -/
def relatedLine (colored : Bool) (r : ResolvedRelated) : String :=
  "    " ++ paint colored .note "note" ++ ": " ++ placeText r.path r.range ++ ": " ++ r.message

/-- A diagnostic with its related places. -/
def format (colored : Bool) (r : Resolved) : String :=
  let d := r.diagnostic
  let head := paint colored .place (placeText r.path r.range) ++ ": " ++
    paint colored (.ofSeverity d.classification) (levelText d) ++ ": [" ++ d.source ++ "] " ++
    d.message
  "\n".intercalate (head :: r.related.map (relatedLine colored))

/-- The width of the tables. -/
def tableWidth : Nat := 100

/-- The first line of a message. -/
def firstLine (message : String) : String :=
  String.ofList ((Text.lines message.toList).headD [])

/-- The row of a diagnostic. -/
def diagnosticRow (r : Resolved) : List String :=
  let d := r.diagnostic
  [d.severity, s!"{r.path.text}:{r.range.start.line.toNat + 1}", d.code.getD "-", d.source,
    firstLine d.message]

/-- A table with a row for each diagnostic. -/
def diagnosticsTable (rs : List Resolved) : Table where
  header := ["Level", "Lineref", "Code", "Source", "Message"]
  rows := rs.map diagnosticRow

/-- The counts of diagnostics: errors, warnings, remarks, and all. -/
def counts (rs : List Resolved) : List Nat :=
  [Snapshot.countIn .error rs, Snapshot.countIn .warning rs, Snapshot.countIn .information rs,
    rs.length]

/-- A row of the table of counts. -/
def countRow (title : String) (rs : List Resolved) : List String :=
  title :: (counts rs).map toString

/-- A table with the counts of each file and of all files. -/
def summaryTable (s : Snapshot) : Table where
  header := ["File", "Errors", "Warnings", "Info", "Total"]
  rows := (s.files.map fun g => countRow g.1.text g.2) ++ [countRow "Total" s.items]

/-- The diagnostics as a table. -/
def diagnostics (rs : List Resolved) : String := (diagnosticsTable rs).render tableWidth

/-- The counts as a table. -/
def summary (s : Snapshot) : String := (summaryTable s).render tableWidth

end BuildDiagnostics.Report
