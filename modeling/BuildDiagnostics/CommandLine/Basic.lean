import BuildDiagnostics.Path

/-!
# The command line

Arguments are parameters with a value, flags, and after `--` the build command. This module holds
what can be asked for; `CommandLine.Reader` reads it from the arguments.
-/

namespace BuildDiagnostics

/-- What the user asked for. -/
structure CommandLine where
  /-- The settings file. -/
  settings : Option Path := none
  /-- The grammars to use, as a list with commas. -/
  grammars : Option String := none
  encoding : Option String := none
  sourceDirectory : Option Path := none
  binaryDirectory : Option Path := none
  searchDirectories : List Path := []
  /-- The directory for the file of orphans. -/
  orphans : Option Path := none
  /-- The log to read instead of running a command. -/
  log : Option Path := none
  /-- Whether to print the table of counts. -/
  summary : Bool := false
  /-- Whether to print the diagnostics as a table. -/
  table : Bool := false
  /-- Whether to print the output of the command as it comes. -/
  echo : Bool := false
  /-- Whether to tell of each diagnostic as it comes. -/
  live : Bool := false
  /-- Whether to print without colors. -/
  plain : Bool := false
  /-- Whether to print the names of the grammars and do nothing else. -/
  listGrammars : Bool := false
  /-- The command to run, its program first. -/
  command : List String := []
  deriving DecidableEq, Repr

namespace CommandLine

/-- What is given with a value. -/
inductive Parameter
  | settings | grammars | encoding | sourceDirectory | binaryDirectory | searchDirectory | orphans
  | log
  deriving DecidableEq, Repr

namespace Parameter

/-- All parameters, in the order of the help text. -/
def all : List Parameter :=
  [settings, grammars, encoding, sourceDirectory, binaryDirectory, searchDirectory, orphans, log]

/-- The name of the parameter. -/
def name : Parameter → String
  | settings => "config"
  | grammars => "parsers"
  | encoding => "encoding"
  | sourceDirectory => "source-dir"
  | binaryDirectory => "binary-dir"
  | searchDirectory => "search-dir"
  | orphans => "linker-errors-dir"
  | log => "log"

/-- Whether the parameter may be given more than once. -/
def isRepeatable (p : Parameter) : Bool := p == searchDirectory

/-- Whether the value is a path, which may not be empty. -/
def isPath : Parameter → Bool
  | grammars => false
  | encoding => false
  | _ => true

/-- Whether the parameter has been given. -/
def isGiven (c : CommandLine) : Parameter → Bool
  | settings => c.settings.isSome
  | grammars => c.grammars.isSome
  | encoding => c.encoding.isSome
  | sourceDirectory => c.sourceDirectory.isSome
  | binaryDirectory => c.binaryDirectory.isSome
  | searchDirectory => !c.searchDirectories.isEmpty
  | orphans => c.orphans.isSome
  | log => c.log.isSome

/-- The command line with the parameter given. -/
def give (c : CommandLine) (value : String) : Parameter → CommandLine
  | settings => { c with settings := some ⟨value⟩ }
  | grammars => { c with grammars := some value }
  | encoding => { c with encoding := some value }
  | sourceDirectory => { c with sourceDirectory := some ⟨value⟩ }
  | binaryDirectory => { c with binaryDirectory := some ⟨value⟩ }
  | searchDirectory => { c with searchDirectories := c.searchDirectories ++ [⟨value⟩] }
  | orphans => { c with orphans := some ⟨value⟩ }
  | log => { c with log := some ⟨value⟩ }

end Parameter

/-- What is given without a value. -/
inductive Flag
  | summary | table | echo | live | plain | listGrammars
  deriving DecidableEq, Repr

namespace Flag

/-- All flags, in the order of the help text. -/
def all : List Flag := [summary, table, echo, live, plain, listGrammars]

/-- The name of the flag. -/
def name : Flag → String
  | summary => "summary"
  | table => "table"
  | echo => "echo"
  | live => "live"
  | plain => "no-color"
  | listGrammars => "list-parsers"

/-- Whether the flag has been given. -/
def isGiven (c : CommandLine) : Flag → Bool
  | summary => c.summary
  | table => c.table
  | echo => c.echo
  | live => c.live
  | plain => c.plain
  | listGrammars => c.listGrammars

/-- The command line with the flag given. -/
def give (c : CommandLine) : Flag → CommandLine
  | summary => { c with summary := true }
  | table => { c with table := true }
  | echo => { c with echo := true }
  | live => { c with live := true }
  | plain => { c with plain := true }
  | listGrammars => { c with listGrammars := true }

end Flag

/-- What a name on the command line stands for. -/
inductive Meaning
  | parameter (p : Parameter)
  | flag (f : Flag)
  | help
  | version
  deriving DecidableEq, Repr

namespace Meaning

/-- What a name after two hyphens stands for. -/
def ofName? (name : String) : Option Meaning :=
  match Parameter.all.find? (·.name == name), Flag.all.find? (·.name == name) with
  | some p, _ => some (parameter p)
  | none, some f => some (flag f)
  | none, none =>
    if name = "help" then some help else if name = "version" then some version else none

/-- What a letter after one hyphen stands for. -/
def ofLetter? : Char → Option Meaning
  | 's' => some (flag .summary)
  | 'h' => some help
  | 'V' => some version
  | _ => none

end Meaning

/-- Why reading the arguments ends before they are all read. -/
inductive Stop
  /-- An argument stands for nothing. -/
  | unknownArgument (text : String)
  /-- A parameter has no value. -/
  | missingValue (p : Parameter)
  /-- A parameter that wants a path has an empty value. -/
  | emptyPath (p : Parameter)
  /-- A parameter is given twice. -/
  | repeatedParameter (p : Parameter)
  /-- A flag is given twice. -/
  | repeatedFlag (f : Flag)
  /-- A value is given with what takes none. -/
  | unwantedValue (name value : String)
  /-- The help text is asked for. -/
  | help
  /-- The version is asked for. -/
  | version
  deriving DecidableEq, Repr

end CommandLine

end BuildDiagnostics
