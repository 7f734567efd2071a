import BuildDiagnostics.Grammar.Verdict

/-!
# GNU linkers

The linkers of the GNU family (`ld`, `gold`, `lld`, `mold`, and `collect2` in front of them) report
each problem on one line, in one of these shapes:

* `/usr/bin/ld: main.o:main.c:5: undefined reference to 'f'`: a source line, with or without the
  tool and the object file before it;
* `main.c:(.text+0x1e): undefined reference to 'g'`: a section of an object file;
* `ld: cannot find -lfoo`: the tool alone.

A line without tool or object file is left to the compiler when its message starts as a compiler's
does. Output of `make` is never claimed.
-/

namespace BuildDiagnostics.GnuLd

open Text Pattern

/-- The source that these diagnostics name. -/
def source : String := "Link"

/-- An optional drive letter. -/
def drive : Pattern := opt (one isLetterAscii ++ ":")

/-- The name of a linker, with the triple of its target before it. -/
def linkerName : Pattern :=
  opt (most (fun c => isWord c || c == '.' || c == '+' || c == '-') ++ "-") ++
    oneOf ["ld" ++ opt ("." ++ oneOf ["bfd", "gold", "lld", "mold"]),
      "ld64.lld", "lld", "lld-link", "mold", "collect2"]

/-- The whole of a linker's name, with any directory. -/
def toolPattern : Pattern :=
  drive ++ opt (most isInline ++ one isSlash) ++ linkerName ++ opt ".exe" ++ stop

/-- A linker, a colon and what it says. -/
def tooledPattern : Pattern :=
  capture .tool
      (drive ++ opt (most (fun c => !isBlank c && c != ':') ++ one isSlash) ++ linkerName ++
        opt ".exe") ++
    ":" ++ most1 isBlank ++ capture .message (most isInline) ++ stop

/-- The beginning of a line that `make` wrote. -/
def makePattern : Pattern :=
  most isBlank ++ opt (most (fun c => !isBlank c && c != ':') ++ one isSlash) ++
    opt (oneOf ["g", "mingw32-"]) ++ "make" ++ opt ".exe" ++
    opt ("[" ++ most1 isDigit ++ "]") ++ ":"

/-- Whether the text names a linker: `ld`, `/usr/bin/ld`, `x86_64-linux-gnu-ld.bfd`, `ld.exe`. -/
def isLinkerTool (name : List Char) : Bool := toolPattern.accepts name

/-- Whether the line starts with a linker, a colon and a blank. -/
def isLinkerPrefixed (line : Line) : Bool := tooledPattern.accepts line

/-- Whether `make` wrote the line. -/
def isMakeLine (line : Line) : Bool := makePattern.accepts line

/-- One of the two quotes around a function's name. -/
def isQuote (c : Char) : Bool := c == '\x60' || c == '\''

/-- The line that names the function the next messages are about. -/
def inFunctionPattern : Pattern :=
  opt (least1 isInline ++ ":" ++ most1 isBlank) ++ "in function " ++ one isQuote ++
    most isInline ++ one isQuote ++ ":" ++ stop

/-- The characters of an object file's name before its ending. -/
def objectStem : Pattern := most1 fun c => !isBlank c && c != ':'

/-- Something in parentheses. -/
def bracketed : Pattern := "(" ++ most (fun c => c != ')') ++ ")"

/-- A place given by section and offset. -/
def sectionPattern : Pattern :=
  opt (capture .object (objectStem ++ "." ++ oneOf ["o", "obj"]) ++ ":") ++
    capture .file (drive ++ most1 (fun c => c != ':' && c != '(' && c != ')')) ++
    opt bracketed ++ ":" ++ bracketed ++ ":" ++ most isBlank ++
    capture .message (most1 isInline) ++ stop

/-- A severity word, which must end where it ends, and the colon and blanks after it. -/
def severityPattern (words : List Pattern) : Pattern :=
  opt (capture .severity (oneOf words) ++ notBefore isWord ++ most isBlank ++ opt ":" ++
    most1 isBlank)

/-- A place given by file and line. -/
def locatedPattern : Pattern :=
  opt (capture .object
      (objectStem ++ "." ++ oneOf ["o", "obj", "a", "lib"] ++ opt bracketed) ++ ":") ++
    capture .file (drive ++ most1 (fun c => c != ':')) ++ ":" ++ capture .line (most1 isDigit) ++
    opt (one isBlank) ++ ":" ++ most1 isBlank ++ severityPattern ["error", "warning"] ++
    capture .message (most isInline ++ one (fun c => c != ']')) ++ stop

/-- A message that names no place. -/
def toolMessagePattern : Pattern :=
  severityPattern ["fatal error", "error", "warning"] ++ capture .message (most1 isInline) ++ stop

/-- The beginning of a message as compilers write it. -/
def compilerHeadPattern : Pattern :=
  oneOf ["fatal error", "catastrophic error", "error", "warning", "note", "remark", "erreur",
      "avertissement", "remarque"] ++
    opt (one isBlank) ++ ":"

/-- The file name of a path, whichever slashes it uses. -/
def baseName (path : List Char) : List Char :=
  (path.reverse.takeWhile fun c => !isSlash c).reverse

/-- The severity that was captured; a linker that names none means an error. -/
def severityOf (cs : Captures) : String :=
  match cs.get? .severity with
  | some s => String.ofList s
  | none => "error"

/-- The diagnostic in the text after the tool, if there is one. -/
def body? (tool : Option (List Char)) (body : List Char) : Option Diagnostic :=
  match sectionPattern.match? body with
  | some cs => some
      { source, file := String.ofList (trim (cs.get .file)), range := .restOfLine 0 0
        severity := "error", message := String.ofList (cs.get .message) }
  | none =>
    match locatedPattern.match? body with
    | some cs =>
      let owned := tool.isSome || (cs.get? .object).isSome
      if !owned && ((cs.get? .severity).isSome || compilerHeadPattern.accepts (cs.get .message))
      then none
      else some
        { source, file := String.ofList (trim (cs.get .file))
          range := .restOfLine (zeroBased (cs.get .line)) 0
          severity := severityOf cs, message := String.ofList (cs.get .message) }
    | none =>
      match tool, toolMessagePattern.match? body with
      | some tool, some cs => some
        { source, file := String.ofList (baseName tool), range := .restOfLine 0 0
          severity := severityOf cs, message := String.ofList (cs.get .message) }
      | _, _ => none

/-- The tool that a line starts with, if any, and what follows it. -/
def split (line : Line) : Option (List Char) × List Char :=
  match tooledPattern.match? line with
  | some cs => (some (cs.get .tool), cs.get .message)
  | none => (none, line)

/-- The answer to a line. No state is kept. -/
def read (line : Line) : Verdict :=
  if isMakeLine line then .ignored
  else
    let (tool, body) := split line
    if inFunctionPattern.accepts body then
      if tool.isSome then .claim none else .ignored
    else
      match body? tool body with
      | some d => .claim (some d)
      | none => .ignored

end BuildDiagnostics.GnuLd
