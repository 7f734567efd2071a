import BuildDiagnostics.Grammar.Verdict

/-!
# Microsoft Visual C++

The compiler and linker of Visual C++ report each problem on one line:

* `12>C:\src\main.cpp(42,7): error C2065: 'x': undeclared identifier [C:\build\app.vcxproj]`;
* `main.obj : error LNK2019: unresolved external symbol _foo`.

The number of the build before the file and the name of the project at the end are no part of the
diagnostic.
-/

namespace BuildDiagnostics.Msvc

open Text Pattern

/-- The source that these diagnostics name. -/
def source : String := "MSVC"

/-- The number of the build that a line starts with, and blanks. -/
def buildNumber : Pattern := most isBlank ++ opt (most1 isDigit ++ ">") ++ most isBlank

/-- An error, fatal or not. -/
def errorWord : Pattern := opt "fatal " ++ "error"

/-- From the code to the end of the line. -/
def tailPattern (code : Pattern) : Pattern :=
  most1 isBlank ++ capture .code (code ++ most1 isDigit) ++ most isBlank ++ ":" ++ most isBlank ++
    capture .message (most isInline) ++ stop

/-- A comma and a number. -/
def commaNumber : Pattern := "," ++ most1 isDigit

/-- One, two or four numbers. -/
def locationPattern : Pattern :=
  oneOf [most1 isDigit, most1 isDigit ++ commaNumber,
    most1 isDigit ++ commaNumber ++ commaNumber ++ commaNumber]

/-- A diagnostic with a location. -/
def compilePattern : Pattern :=
  buildNumber ++ capture .file (one (fun c => !isBlank c && c != '>') ++ least isInline) ++ "(" ++
    capture .location locationPattern ++ ")" ++ most isBlank ++ ":" ++ most1 isBlank ++
    capture .severity (oneOf [errorWord, "warning", "info"]) ++
    tailPattern (one isWord ++ opt (one isWord))

/-- A diagnostic of a tool or about an object file. -/
def toolPattern : Pattern :=
  buildNumber ++
    capture .file
      (opt (one isLetterAscii ++ ":") ++ one (fun c => !isBlank c && c != '>' && c != ':') ++
        least fun c => c != ':') ++
    most isBlank ++ ":" ++ most1 isBlank ++ opt "Command line " ++
    capture .severity (alt errorWord "warning") ++
    tailPattern (one isUpperAscii ++ opt (one isUpperAscii ++ opt (one isUpperAscii)))

/-- The name of the project at the end of a line. -/
def projectPattern : Pattern :=
  most1 isBlank ++ "[" ++ most1 (fun c => c != '[' && c != ']') ++ "." ++
    oneOf ["vcxproj", "csproj", "vbproj", "proj", "targets"] ++ "]" ++ stop

/-- The line without the name of its project. -/
def dropProject (line : Line) : Line :=
  match projectPattern.find? line with
  | some (before, project) => before ++ project.rest
  | none => line

/-- The range that the numbers of a location stand for: one names a line, two a point, four the two
ends. -/
def rangeOf (location : List Char) : Range :=
  match (pieces ',' location).map zeroBased with
  | [line, column] => .point line column
  | [line₀, column₀, line₁, column₁] => .ofEnds line₀ column₀ line₁ column₁
  | line :: _ => .restOfLine line 0
  | [] => .restOfLine 0 0

/-- The diagnostic that was captured. -/
def ofCaptures (cs : Captures) (range : Range) : Diagnostic where
  source := source
  file := String.ofList (trim (cs.get .file))
  range := range
  severity := String.ofList (cs.get .severity)
  message := String.ofList (cs.get .message)
  code := Diagnostic.nonEmptyCode (cs.get .code)

/-- The diagnostic in a line without project, if there is one. -/
def diagnostic? (line : Line) : Option Diagnostic :=
  match compilePattern.match? line with
  | some cs => some (ofCaptures cs (rangeOf (cs.get .location)))
  | none =>
    match toolPattern.match? line with
    | some cs => some (ofCaptures cs (.restOfLine 0 0))
    | none => none

/-- The answer to a line. No state is kept. -/
def read (line : Line) : Verdict :=
  match diagnostic? (dropProject line) with
  | some d => .claim (some d)
  | none => .ignored

end BuildDiagnostics.Msvc
