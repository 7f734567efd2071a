import BuildDiagnostics.Consumer
import BuildDiagnostics.Shell.Basic

/-!
# Runs

A run is a sequence of events: lines of the two streams of a command, and their ends. A command that
has run gives its events (`Shell.Outcome.events`), and so does a log, whose lines count as lines of
the error stream (`replayEvents`). The consumer reads either in the same way.

`Session.hear` also keeps what the user is told while the run goes on.
-/

namespace BuildDiagnostics

/-- Something that happens during a run. -/
inductive Event
  /-- A line comes, with its line end if it has one. -/
  | line (s : Stream) (bytes : List UInt8)
  /-- A stream ends. -/
  | closed (s : Stream)
  deriving DecidableEq, Repr

/-- The events of a stream that brings the given bytes and ends. -/
def Stream.events (s : Stream) (bytes : List UInt8) : List Event :=
  (Text.endedRecords 10 bytes).map (.line s) ++ [.closed s]

/-- The events at the end of every run. -/
def endEvents : List Event := [.closed .output, .closed .error]

/-- The events of a command that has run. -/
def Shell.Outcome.events (o : Shell.Outcome) : List Event :=
  Stream.output.events o.output ++ Stream.error.events o.error ++ endEvents

/-- The lines of a log. -/
def logLines (bytes : List UInt8) : List (List UInt8) := Text.records 10 bytes

/-- The events of a log. -/
def replayEvents (bytes : List UInt8) : List Event :=
  (logLines bytes).map (.line .error) ++ endEvents

namespace Consumer

/-- Reads an event. -/
def observe (c : Consumer) : Event → Consumer
  | .line s bytes => c.feedBytes s bytes
  | .closed s => c.close s

/-- Reads events in order. -/
def observeAll (c : Consumer) (es : List Event) : Consumer := es.foldl observe c

end Consumer

/-- The bytes of a log. -/
def readLog (d : Disk) (p : Path) : Except Failure (List UInt8) :=
  match d.read p with
  | .ok bytes => .ok bytes
  | .error f => .error (.during ("reading build log " ++ p.text) f)

/-- Reads a log. The number is that of its lines. -/
def Consumer.replay (c : Consumer) (d : Disk) (p : Path) : Except Failure (Nat × Consumer) :=
  match readLog d p with
  | .error e => .error e
  | .ok bytes => .ok ((logLines bytes).length, c.observeAll (replayEvents bytes))

/-- Runs a command and reads what it prints. -/
def Consumer.runCommand (c : Consumer) (d : Disk) (env : Environment) (program : String)
    (args : List String) : Except Failure (Shell.Ending × Consumer) :=
  match Shell.start d env program args with
  | .error e => .error e
  | .ok (o, _) => .ok (o.ending, c.observeAll o.events)

/-- What has been printed. -/
structure Transcript where
  output : String := ""
  error : String := ""
  deriving DecidableEq, Repr

namespace Transcript

/-- The transcript with a line printed to a stream. -/
def print (t : Transcript) (line : String) : Stream → Transcript
  | .output => { t with output := t.output ++ line ++ "\n" }
  | .error => { t with error := t.error ++ line ++ "\n" }

end Transcript

/-- What the user is told while a run goes on. -/
structure Audience where
  /-- Every line is printed. -/
  echo : Bool := false
  /-- Every diagnostic is told as it is recorded. -/
  live : Bool := false
  deriving DecidableEq, Repr

/-- A consumer and what has been printed. -/
structure Session where
  consumer : Consumer
  transcript : Transcript := {}

namespace Session

/-- The transcript with the line of an event printed. -/
def echoed (s : Session) (a : Audience) : Event → Transcript
  | .line stream bytes =>
    if a.echo then
      s.transcript.print (String.ofList (s.consumer.encoding.decodeLine bytes).1) stream
    else s.transcript
  | .closed _ => s.transcript

/-- How a diagnostic is told while the run goes on. -/
def announcement (d : Diagnostic) : String := "cmake-e: " ++ d.render

/-- The session after an event. -/
def hear (a : Audience) (s : Session) (e : Event) : Session :=
  let c := s.consumer.observe e
  let t := s.echoed a e
  let news := if a.live then c.recorded.drop s.consumer.recorded.length else []
  ⟨c, news.foldl (fun t d => t.print (announcement d) .error) t⟩

end Session

end BuildDiagnostics
