import BuildDiagnostics.CommandLine.Basic

/-!
# Help on the command line

The text that explains the arguments, and the words for arguments that are refused.
-/

namespace BuildDiagnostics.CommandLine

/-- The name and version of the program. -/
def versionText : String := "cmake-e 0.1.0\n"

/-- How the program is called. -/
def usageLine : String := "Usage: cmake-e [OPTIONS] [-- <COMMAND>...]"

namespace Parameter

/-- The kind of value. -/
def valueName : Parameter → String
  | settings => "FILE"
  | grammars => "LIST"
  | encoding => "LABEL"
  | log => "FILE"
  | _ => "DIR"

/-- What the parameter is for. -/
def help : Parameter → String
  | settings => "Configuration file (default: ./cmake-e.toml if present)."
  | grammars =>
    "Comma separated output parsers to enable, e.g. gcc,gnuld,cmake (default: all)."
  | encoding => "Encoding of the build output, e.g. windows-1252."
  | sourceDirectory => "Source directory used to resolve relative paths."
  | binaryDirectory => "Binary (build) directory; tried first when resolving paths."
  | searchDirectory => "Additional directory to resolve paths against. Repeatable."
  | orphans => "Where to write linkerrors.txt."
  | log => "Replay a captured build log instead of running a command."

/-- The parameter with the kind of its value. -/
def form (p : Parameter) : String := "--" ++ p.name ++ " <" ++ p.valueName ++ ">"

end Parameter

namespace Flag

/-- What the flag is for. -/
def help : Flag → String
  | summary => "Print a per-file summary table."
  | table => "Print diagnostics as a table instead of one per line."
  | echo => "Echo the build output while it runs."
  | live => "Print each diagnostic to stderr the moment it is found."
  | plain => "Disable colored output."
  | listGrammars => "List the available output parsers and exit."

/-- The flag as it is given. -/
def form (f : Flag) : String := "--" ++ f.name

/-- The short form of the flag, if it has one. -/
def letter? : Flag → Option Char
  | summary => some 's'
  | _ => none

end Flag

/-- The lines of the help text on options: a letter, the form, and the help. -/
def optionRows : List (Option Char × String × String) :=
  (Parameter.all.map fun p => (none, p.form, p.help)) ++
    (Flag.all.map fun f => (f.letter?, f.form, f.help)) ++
    [(some 'h', "--help", "Print help"), (some 'V', "--version", "Print version")]

/-- A line of the help text on options. -/
def optionLine (row : Option Char × String × String) : String :=
  let (letter, form, help) := row
  let short := match letter with
    | some c => "  -" ++ c.toString ++ ", "
    | none => "      "
  let width := (optionRows.map fun r => r.2.1.length).foldl max 0
  short ++ form ++ String.ofList (List.replicate (width - form.length + 2) ' ') ++ help

/-- The help text. -/
def helpText : String :=
  "cmake-e is for Errors.\n\n" ++ usageLine ++
    "\n\nArguments:\n" ++
    "  [COMMAND]...  Build command to run, e.g. -- cmake --build build\n\nOptions:\n" ++
    String.join (optionRows.map fun r => optionLine r ++ "\n")

namespace Stop

/-- What is wrong with the arguments. -/
def complaint : Stop → String
  | unknownArgument text => "unexpected argument '" ++ text ++ "' found\n\n" ++ usageLine
  | missingValue p => "a value is required for '" ++ p.form ++ "' but none was supplied"
  | emptyPath p => "a value is required for '" ++ p.form ++ "' but none was supplied"
  | repeatedParameter p =>
    "the argument '" ++ p.form ++ "' cannot be used multiple times\n\n" ++ usageLine
  | repeatedFlag f =>
    "the argument '" ++ f.form ++ "' cannot be used multiple times\n\n" ++ usageLine
  | unwantedValue name value =>
    "unexpected value '" ++ value ++ "' for '--" ++ name ++
      "' found; no more were expected\n\n" ++ usageLine
  | help => ""
  | version => ""

/-- What is printed for a refused argument. -/
def message (s : Stop) : String :=
  "error: " ++ s.complaint ++ "\n\nFor more information, try '--help'.\n"

end Stop

end BuildDiagnostics.CommandLine
