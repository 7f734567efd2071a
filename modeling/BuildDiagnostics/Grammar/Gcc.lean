import BuildDiagnostics.Grammar.GnuLd

/-!
# GCC and Clang

A diagnostic of these compilers is a heading and the lines around it:

* `main.cpp:4:26: fatal error: x.h: No such file or directory` is a heading; without a column, or
  with a tool in place of the file, it must name a known severity;
* a `note:` heading that follows is added to the diagnostic as a related place;
* `In instantiation of` and `required from` lines come before the heading that they belong to;
* echoed source lines, `In file included from` and `In function` lines are claimed.

The diagnostic is held until the next heading, a blank line, or a line that is not the compiler's.
-/

namespace BuildDiagnostics.Gcc

open Text Pattern

/-- The source that these diagnostics name. -/
def source : String := "GCC"

/-- From the severity to the end of the line. -/
def tailPattern : Pattern :=
  most1 isBlank ++ opt (capture .lead (oneOf ["fatal", "catastrophic"]) ++ most1 isBlank) ++
    capture .severity (most1 isWord) ++ opt (most1 isBlank ++ capture .tail "fatale") ++
    opt (one isBlank) ++ ":" ++ most1 isBlank ++ capture .message (most isInline) ++ stop

/-- A heading with file, line and column. -/
def locatedPattern : Pattern :=
  capture .file (least isInline) ++ ":" ++ capture .line (most1 isDigit) ++ ":" ++
    capture .column (most1 isDigit) ++ ":" ++ tailPattern

/-- A heading with file and line. -/
def lineOnlyPattern : Pattern :=
  capture .file (least isInline) ++ ":" ++ capture .line (most1 isDigit) ++ ":" ++ tailPattern

/-- A heading with the name of a tool. -/
def toolPattern : Pattern :=
  capture .file (most1 fun c => !isBlank c && c != ':') ++ ":" ++ tailPattern

/-- The first line of a template backtrace. -/
def instantiationPattern : Pattern :=
  capture .file (least isInline) ++ ": " ++
    capture .message ("In instantiation of " ++ most1 isInline) ++ stop

/-- A further line of a template backtrace. -/
def requiredPattern : Pattern :=
  capture .file (least isInline) ++ ":" ++ capture .line (most1 isDigit) ++ ":" ++
    capture .column (most1 isDigit) ++ ":" ++ most1 isBlank ++
    capture .message ("required from " ++ most1 isInline) ++ stop

/-- The remark that a backtrace was cut short; it may stand anywhere in a line. -/
def limitPattern : Pattern :=
  "note:" ++ most1 isBlank ++ "(" ++
    capture .message (most isInline ++ "backtrace-limit" ++ most isInline) ++ ")"

/-- A line that says where the next heading comes from. -/
def contextPattern : Pattern :=
  alt
      (alt "In file included" (most1 isBlank) ++ " from " ++ most isInline ++
        one (fun c => c == ':' || c == ','))
      (least isInline ++ ": " ++ alt "In" "At" ++ " " ++ most isInline ++ ":") ++
    stop

/-- A source line with its number, or the line of marks under it. -/
def echoPattern : Pattern :=
  alt
    (most isBlank ++ most isDigit ++ most1 isBlank ++ "|" ++ alt (one isBlank) stop)
    (most isBlank ++ "^" ++ most (fun c => c == '~' || c == '^') ++ most isBlank ++ stop)

/-- The first line of a diagnostic. -/
structure Heading where
  file : List Char
  line : List Char
  column : List Char
  severity : List Char
  message : List Char

/-- The severity as captured: a word, with `fatal` or `catastrophic` before or `fatale` after it. -/
def severityOf (cs : Captures) : List Char :=
  let lead := match cs.get? .lead with
    | some p => p ++ [' ']
    | none => []
  let tail := match cs.get? .tail with
    | some s => ' ' :: s
    | none => []
  lead ++ cs.get .severity ++ tail

/-- The heading of a line with file, line and column. -/
def located? (line : Line) : Option Heading :=
  (locatedPattern.match? line).map fun cs =>
    ⟨cs.get .file, cs.get .line, cs.get .column, severityOf cs, cs.get .message⟩

/-- The heading of a line with file and line, if its severity is a known word. -/
def lineOnly? (line : Line) : Option Heading :=
  match lineOnlyPattern.match? line with
  | some cs =>
    if Severity.isKnownWord (severityOf cs) then
      some ⟨cs.get .file, cs.get .line, ['1'], severityOf cs, cs.get .message⟩
    else none
  | none => none

/-- The heading of a line with a tool, if its severity is a known word and the tool is no linker. -/
def tool? (line : Line) : Option Heading :=
  match toolPattern.match? line with
  | some cs =>
    if Severity.isKnownWord (severityOf cs) && !GnuLd.isLinkerTool (cs.get .file) then
      some ⟨cs.get .file, ['1'], ['1'], severityOf cs, cs.get .message⟩
    else none
  | none => none

/-- The heading that a line is, if it is one. -/
def heading? (line : Line) : Option Heading :=
  (located? line).or ((lineOnly? line).or (tool? line))

/-- A template backtrace that waits for its heading. -/
structure Backtrace where
  file : String
  root : String
  steps : List Related := []
  deriving DecidableEq, Repr

/-- What is held between lines. -/
structure State where
  held : Option Diagnostic := none
  backtrace : Option Backtrace := none
  deriving DecidableEq, Repr

namespace Heading

/-- Where the heading points. -/
def range (h : Heading) : Range := .restOfLine (zeroBased h.line) (zeroBased h.column)

/-- The heading as a related place. -/
def toRelated (h : Heading) : Related :=
  ⟨String.ofList h.file, h.range, String.ofList h.message⟩

/-- The heading as a diagnostic, with the places of the backtrace that waited for it. -/
def toDiagnostic (h : Heading) (backtrace : Option Backtrace) : Diagnostic where
  source := source
  file := String.ofList h.file
  range := h.range
  severity := String.ofList h.severity
  message := String.ofList h.message
  related := match backtrace with
    | some b => ⟨b.file, h.range, b.root⟩ :: b.steps
    | none => []

/-- Whether the heading is a note. -/
def isNote (h : Heading) : Bool := h.severity == "note".toList

end Heading

/-- The diagnostic with one more related place. -/
def addRelated (d : Diagnostic) (r : Related) : Diagnostic := { d with related := d.related ++ [r] }

namespace State

/-- The line is left to others, and what was held is done. -/
def leave (s : State) : Verdict × State := (.leave s.held, { s with held := none })

/-- The line is claimed, and what was held is done. -/
def finish (s : State) : Verdict × State := (.claim s.held, { s with held := none })

/-- The answer to the first line of a template backtrace. -/
def instantiation? (s : State) (line : Line) : Option (Verdict × State) :=
  (instantiationPattern.match? line).map fun cs =>
    (.claim s.held,
      { held := none
        backtrace := some ⟨String.ofList (cs.get .file), String.ofList (cs.get .message), []⟩ })

/-- The answer to a further line of a template backtrace. -/
def required? (s : State) (line : Line) : Option (Verdict × State) :=
  match s.backtrace, requiredPattern.match? line with
  | some b, some cs =>
    let step : Related :=
      ⟨String.ofList (cs.get .file),
        .restOfLine (zeroBased (cs.get .line)) (zeroBased (cs.get .column)),
        String.ofList (cs.get .message)⟩
    some (.claim none, { s with backtrace := some { b with steps := b.steps ++ [step] } })
  | _, _ => none

/-- The answer to the remark that a backtrace was cut short: it repeats the first related place. -/
def limit? (s : State) (line : Line) : Option (Verdict × State) :=
  match limitPattern.find? line, s.held with
  | some (_, remark), some d =>
    match d.related with
    | [] => none
    | r :: _ =>
      let message := String.ofList (remark.captures.get .message)
      some (.claim none, { s with held := some (addRelated d { r with message := message }) })
  | _, _ => none

/-- The answer to a heading. -/
def heading (s : State) (h : Heading) : Verdict × State :=
  match h.isNote, s.held with
  | true, some d => (.claim none, { s with held := some (addRelated d h.toRelated) })
  | _, _ => (.claim s.held, { held := some (h.toDiagnostic s.backtrace), backtrace := none })

/-- The answer to a line that is neither a heading nor part of a backtrace. -/
def other (s : State) (line : Line) : Verdict × State :=
  if contextPattern.accepts line then s.finish
  else if s.held.isSome && echoPattern.accepts line then (.claim none, s)
  else if trim line == "compilation terminated.".toList then s.finish
  else s.leave

/-- The answer to a line, and what is held after it. -/
def step (s : State) (line : Line) : Verdict × State :=
  if isBlankLine line || GnuLd.isMakeLine line || GnuLd.isLinkerPrefixed line then s.leave
  else
    match s.instantiation? line with
    | some r => r
    | none =>
      match s.required? line with
      | some r => r
      | none =>
        match s.limit? line with
        | some r => r
        | none =>
          match heading? line with
          | some h => s.heading h
          | none => s.other line

/-- The end of the output: what is held is done, and a backtrace without heading is dropped. -/
def flush (s : State) : Option Diagnostic × State := (s.held, {})

end State

end BuildDiagnostics.Gcc
