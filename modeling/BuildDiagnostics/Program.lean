import BuildDiagnostics.CommandLine.Effect
import BuildDiagnostics.CommandLine.Reader
import BuildDiagnostics.CommandLine.Usage
import BuildDiagnostics.Report
import BuildDiagnostics.Run

/-!
# The program

`Program.run` is the whole program as a function: from a disk, an environment, arguments and the
tables of the encodings to what is printed, the exit code, and the disk afterwards.

The exit code is that of the command, or for a log whether there are errors. A failure prints its
causes and ends with code 1, refused arguments with code 2.
-/

namespace BuildDiagnostics

/-- How the program ends. -/
structure Result where
  transcript : Transcript
  code : Nat
  disk : Disk

namespace Program

open EastAsian (Indexes)

/-- The end after a failure. -/
def failed (t : Transcript) (d : Disk) (e : Failure) : Result :=
  ⟨{ t with error := t.error ++ e.render }, 1, d⟩

/-- The end when the arguments are not read to their end. -/
def stopped (d : Disk) : CommandLine.Stop → Result
  | .help => ⟨{ output := CommandLine.helpText }, 0, d⟩
  | .version => ⟨{ output := CommandLine.versionText }, 0, d⟩
  | s => ⟨{ error := s.message }, 2, d⟩

/-- Prints the names of the grammars. -/
def listGrammars (d : Disk) : Result :=
  ⟨Registry.builtin.names.foldl (fun t name => t.print name .output) {}, 0, d⟩

/-- What there is to hear: the events, the ending of the command if one has run, and the disk
afterwards. -/
def events (d : Disk) (env : Environment) (c : CommandLine) :
    Except Failure (List Event × Option Shell.Ending × Disk) :=
  match c.log, c.command with
  | some p, _ => (readLog d p).map fun bytes => (replayEvents bytes, none, d)
  | none, program :: args =>
    (Shell.start d env program args).map fun (o, d') => (o.events, some o.ending, d')
  | none, [] => .error ⟨[], .nothingToDo⟩

/-- Whom the events are told to. Only the output of a command is printed. -/
def audience (c : CommandLine) : Audience where
  echo := c.echo && c.log.isNone
  live := c.live

/-- The lines that tell of the diagnostics. -/
def diagnosticLines (c : CommandLine) (rs : List Resolved) : List String :=
  if c.table then (if rs.isEmpty then [] else [Report.diagnostics rs])
  else rs.map (Report.format (!c.plain))

/-- The exit code of the program. -/
def exitCode (ending : Option Shell.Ending) (s : Snapshot) : Nat :=
  match ending with
  | some (.code n) => n.toNat
  | some .killed => 1
  | none => if 0 < s.count .error then 1 else 0

/-- Prints the resolved diagnostics. -/
def conclude (c : CommandLine) (t : Transcript) (d : Disk) (ending : Option Shell.Ending)
    (rs : List Resolved) : Result :=
  let s := (({ name := "build" } : Collection).populate rs).snapshot
  let lines := diagnosticLines c rs ++ if c.summary then [Report.summary s] else []
  ⟨lines.foldl (fun t line => t.print line .output) t, exitCode ending s, d⟩

/-- Runs with the settings and the command line at hand. -/
def runWith (d : Disk) (env : Environment) (s : Settings) (c : CommandLine) (tables : Indexes) :
    Result :=
  match events d env c with
  | .error e => failed {} d e
  | .ok (es, ending, d') =>
    let session := es.foldl (Session.hear (audience c)) ⟨s.consumer tables, {}⟩
    let bases := c.baseDirectories d.workingDirectory
    match (s.resolver env).resolve d' bases session.consumer.recorded with
    | (.error e, d'') => failed session.transcript d'' e
    | (.ok rs, d'') => conclude c session.transcript d'' ending rs

/-- Runs with the command line at hand. -/
def runLine (d : Disk) (env : Environment) (c : CommandLine) (tables : Indexes) : Result :=
  if c.listGrammars then listGrammars d
  else
    match Settings.load d env c.settings with
    | .error e => failed {} d e
    | .ok s =>
      match c.inferSource d with
      | .error e => failed {} d e
      | .ok (c', _) => runWith d env (c.apply s) c' tables

/-- Runs the program. -/
def run (d : Disk) (env : Environment) (args : List String) (tables : Indexes := {}) : Result :=
  match CommandLine.ofArguments args with
  | .error s => stopped d s
  | .ok c => runLine d env c tables

end Program

end BuildDiagnostics
