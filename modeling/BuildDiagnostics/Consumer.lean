import BuildDiagnostics.Channel
import BuildDiagnostics.Registry
import Std.Data.HashSet

/-!
# The consumer of build output

A consumer takes the lines of both streams as they come and keeps the diagnostics that they finish.
A report that was recorded before (`Diagnostic.identity`) is dropped. Subscribers are told of each
recorded diagnostic at once.

The diagnostics of a line are candidates; `record` is the only place where they enter the record.
-/

namespace BuildDiagnostics

/-- One of the two streams of a command. -/
inductive Stream
  | output | error
  deriving DecidableEq, Repr

/-- What has been read, and what was found in it. -/
structure Consumer where
  output : Channel
  error : Channel
  /-- Whether lines are looked at. -/
  enabled : Bool
  encoding : Encoding := .utf8
  /-- The recorded diagnostics, in order. -/
  recorded : List Diagnostic := []
  /-- The identities of the recorded diagnostics. -/
  seen : Std.HashSet Identity := {}
  /-- What each subscriber has been told. -/
  subscribers : List (List Diagnostic) := []
  /-- What there was to warn about. -/
  warnings : List Warning := []

namespace Consumer

/-- A consumer with the grammars of a registry. -/
def ofRegistry (r : Registry) : Consumer where
  output := ⟨r.instantiate, none⟩
  error := ⟨r.instantiate, none⟩
  enabled := true

/-- A consumer that looks at nothing. -/
def disabled : Consumer where
  output := ⟨[], none⟩
  error := ⟨[], none⟩
  enabled := false

/-- The channel of a stream. -/
def channel (c : Consumer) : Stream → Channel
  | .output => c.output
  | .error => c.error

/-- The consumer with the channel of a stream replaced. -/
def setChannel (c : Consumer) (s : Stream) (ch : Channel) : Consumer :=
  match s with
  | .output => { c with output := ch }
  | .error => { c with error := ch }

/-- The consumer with one more subscriber, who has been told nothing yet. -/
def subscribe (c : Consumer) : Consumer := { c with subscribers := c.subscribers ++ [[]] }

/-- Records a candidate and tells the subscribers, unless the same report was recorded before. -/
def record (c : Consumer) (d : Diagnostic) : Consumer :=
  if c.seen.contains d.identity then c
  else
    { c with
      seen := c.seen.insert d.identity
      recorded := c.recorded ++ [d]
      subscribers := c.subscribers.map (· ++ [d]) }

/-- Records candidates in order. -/
def recordAll (c : Consumer) (ds : List Diagnostic) : Consumer := ds.foldl record c

/-- Reads one line of a stream. -/
def dispatch (c : Consumer) (s : Stream) (line : Line) : Consumer :=
  let (found, ch) := (c.channel s).dispatch line
  (c.setChannel s ch).recordAll found

/-- Reads text of a stream line by line. An empty text is one empty line. -/
def feed (c : Consumer) (s : Stream) (text : List Char) : Consumer :=
  if !c.enabled then c
  else if text.isEmpty then c.dispatch s []
  else (Text.lines text).foldl (fun c line => c.dispatch s line) c

/-- Reads one line of a stream as bytes. -/
def feedBytes (c : Consumer) (s : Stream) (bytes : List UInt8) : Consumer :=
  let (text, repair) := c.encoding.decodeLine bytes
  { c with warnings := c.warnings ++ c.encoding.warnings repair }.feed s text

/-- The end of a stream: what its matchers hold is done. -/
def close (c : Consumer) (s : Stream) : Consumer :=
  let (found, ch) := (c.channel s).close
  (c.setChannel s ch).recordAll found

/-- The end of the run: both streams end. -/
def finish (c : Consumer) : Consumer := (c.close .output).close .error

end Consumer

end BuildDiagnostics
