import BuildDiagnostics.Severity

/-!
# Diagnostics

A diagnostic is one problem as a toolchain reported it: the file as printed, a zero-based range, the
severity as printed, a message, and the places it refers to. Nothing here looks at a disk.
-/

namespace BuildDiagnostics

/-- A zero-based line and column. -/
structure Position where
  line : UInt32
  column : UInt32
  deriving DecidableEq, Repr, Hashable

/-- The column that stands for the end of the line. -/
def Position.restOfLine : UInt32 := 4294967295

/-- A stretch of text from one position to another. -/
structure Range where
  start : Position
  stop : Position
  deriving DecidableEq, Repr, Hashable

namespace Range

/-- The range with the given ends. -/
def ofEnds (startLine startColumn stopLine stopColumn : UInt32) : Range :=
  ⟨⟨startLine, startColumn⟩, ⟨stopLine, stopColumn⟩⟩

/-- From a position to the end of its line. -/
def restOfLine (line column : UInt32) : Range :=
  ofEnds line column line Position.restOfLine

/-- A single position. -/
def point (line column : UInt32) : Range := ofEnds line column line column

end Range

/-- The value of a run of ASCII digits. -/
def decimalValue (digits : List Char) : Nat :=
  digits.foldl (fun n c => 10 * n + (c.toNat - '0'.toNat)) 0

/-- The number that a text spells in ASCII digits, after an optional plus sign, if it is below
`2 ^ 32`. -/
def parseUInt32? (text : List Char) : Option UInt32 :=
  let digits := (Text.dropPrefix? ['+'] text).getD text
  if !digits.isEmpty && digits.all Text.isDigitAscii && decimalValue digits < 4294967296 then
    some (decimalValue digits).toUInt32
  else none

/-- The zero-based index for a one-based number as printed. A text that is no number counts as
zero, and zero stays zero. -/
def zeroBased (text : List Char) : UInt32 :=
  let n := (parseUInt32? (Text.trim text)).getD 0
  if n = 0 then 0 else n - 1

/-- A place that a diagnostic refers to: a note, a frame of a call stack, a step of a template
instantiation. -/
structure Related where
  file : String
  range : Range
  message : String
  deriving DecidableEq, Repr

/-- A problem as a toolchain reported it. -/
structure Diagnostic where
  file : String
  range : Range
  severity : String
  message : String
  code : Option String := none
  source : String
  related : List Related := []
  deriving DecidableEq, Repr

/-- What two diagnostics share when they are the same report. -/
structure Identity where
  source : String
  file : String
  range : Range
  message : String
  deriving DecidableEq, Repr, Hashable

namespace Diagnostic

/-- The code, unless it is empty. -/
def nonEmptyCode (code : List Char) : Option String :=
  if code.isEmpty then none else some (String.ofList code)

/-- The level of the severity text. -/
def classification (d : Diagnostic) : Option Severity := Severity.classify? d.severity.toList

/-- What makes the diagnostic the report that it is. -/
def identity (d : Diagnostic) : Identity := ⟨d.source, d.file, d.range, d.message⟩

/-- The diagnostic on one line, with one-based numbers. -/
def render (d : Diagnostic) : String :=
  let code := match d.code with
    | some c => " " ++ c
    | none => ""
  s!"{d.file}:{d.range.start.line.toNat + 1}:{d.range.start.column.toNat + 1}: " ++
    s!"{d.severity}{code}: [{d.source}] {d.message}"

end Diagnostic

end BuildDiagnostics
