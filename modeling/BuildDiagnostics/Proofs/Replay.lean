import BuildDiagnostics.Proofs.Reset
import BuildDiagnostics.Proofs.Text
import BuildDiagnostics.Run

/-!
# Replaying a log

A log is read as the lines of the error stream of a command. A log is cut into lines without their
ends, the stream of a command into lines with them; a line is decoded without its end in any case,
so it does not matter which way it came, nor how it was ended (`Writes`). The output stream of a
command that prints nothing there only ends, which leaves no trace.

* `dropLineEnd_endedRecords`: the lines of a stream are those of a log with the same bytes.
* `dropLineEnd_logLines`: the records that a log was written from are read back.
* `observeAll_of_silent`: a stream that only ends leaves no trace.
* `replay_agrees`: replaying a log does what a command does that writes the same bytes to its error
  stream, and the line ends of the log do not matter.
-/

namespace BuildDiagnostics

open Encoding (dropLineEnd)

/-! ## Lines and their ends -/

/-- Writing the records one after the other can give the bytes. Each record is ended by a line feed,
or by a carriage return and a line feed; the last one needs no end unless it is empty. -/
inductive Writes : List (List UInt8) → List UInt8 → Prop
  | nil : Writes [] []
  | last (r : List UInt8) : r ≠ [] → Writes [r] r
  | line (r : List UInt8) {e rest : List UInt8} {rs : List (List UInt8)} :
      e = [10] ∨ e = [13, 10] → Writes rs rest → Writes (r :: rs) (r ++ e ++ rest)

/-- A record that can be told from its line end. -/
def Separable (r : List UInt8) : Prop := 10 ∉ r ∧ r.getLast? ≠ some 13

theorem dropLineEnd_concat (r : List UInt8) : dropLineEnd (r ++ [10]) = Text.dropLastIf 13 r := by
  unfold Encoding.dropLineEnd
  rw [Text.dropLastIf_concat]

theorem dropLineEnd_of_not_mem {r : List UInt8} (h : 10 ∉ r) :
    dropLineEnd r = Text.dropLastIf 13 r := by
  unfold Encoding.dropLineEnd
  rw [Text.dropLastIf_of_not_mem h]

theorem dropLineEnd_of_separable {r : List UInt8} (h : Separable r) : dropLineEnd r = r := by
  rw [dropLineEnd_of_not_mem h.1, Text.dropLastIf_of_ne h.2]

/-- **With and without their ends, the lines are the same.** -/
theorem dropLineEnd_endedRecords (bytes : List UInt8) :
    (Text.endedRecords 10 bytes).map dropLineEnd = (logLines bytes).map dropLineEnd := by
  unfold logLines
  refine Text.cut_induction 10 (fun p hp => ?_) (fun p s hp ih => ?_) bytes
  · by_cases hne : p = []
    · rw [hne]; rfl
    · rw [Text.endedRecords_of_not_mem hp hne, Text.records_of_not_mem hp hne]
  · rw [Text.endedRecords_append hp, Text.records_append hp, List.map_cons, List.map_cons, ih,
      dropLineEnd_concat, dropLineEnd_of_not_mem hp]

/-- **The records that a log was written from are its lines**, whatever the line ends. -/
theorem dropLineEnd_logLines {rs : List (List UInt8)} {bytes : List UInt8} (h : Writes rs bytes)
    (hrs : ∀ r ∈ rs, Separable r) : (logLines bytes).map dropLineEnd = rs := by
  induction h with
  | nil => rfl
  | last r hne =>
    have hr := hrs r List.mem_cons_self
    unfold logLines
    rw [Text.records_of_not_mem hr.1 hne, List.map_singleton, dropLineEnd_of_separable hr]
  | @line r e rest rs he _ ih =>
    have hr := hrs r List.mem_cons_self
    have hrest := ih fun q hq => hrs q (List.mem_cons_of_mem _ hq)
    unfold logLines at hrest ⊢
    rcases he with rfl | rfl
    · rw [List.append_assoc, List.singleton_append, Text.records_append hr.1, List.map_cons, hrest,
        dropLineEnd_of_separable hr]
    · -- the carriage return stays with the record until it is decoded
      have hcr : (10 : UInt8) ∉ r ++ [13] := by simp [hr.1]
      have hsplit : r ++ [13, 10] ++ rest = (r ++ [13]) ++ 10 :: rest := by simp
      rw [hsplit, Text.records_append hcr, List.map_cons, hrest, dropLineEnd_of_not_mem hcr,
        Text.dropLastIf_concat]

/-! ## Events -/

/-- The stream of an event. -/
def Event.stream : Event → Stream
  | .line s _ => s
  | .closed s => s

/-- What an event does to its stream. -/
def Event.action : Event → Stream × Consumer.Action
  | .line s bytes => (s, .feedBytes bytes)
  | .closed s => (s, .close)

/-- The events of two streams that bring the given bytes, in any order between the streams. -/
structure Interleaves (output error : List UInt8) (es : List Event) : Prop where
  output : es.filter (fun e => e.stream = .output) = Stream.output.events output
  error : es.filter (fun e => e.stream = .error) = Stream.error.events error

theorem filter_lines (s t : Stream) (bs : List (List UInt8)) :
    (bs.map (Event.line s)).filter (fun e => e.stream = t) =
      if s = t then bs.map (.line s) else [] := by
  rw [List.filter_map]
  by_cases h : s = t <;> simp [h, Function.comp_def, Event.stream]

theorem filter_events (s t : Stream) (bytes : List UInt8) :
    (s.events bytes).filter (fun e => e.stream = t) = if s = t then s.events bytes else [] := by
  unfold Stream.events
  rw [List.filter_append, filter_lines]
  by_cases h : s = t <;> simp [h, Event.stream]

/-- The output of a command first and its errors second is one of the orders. -/
theorem interleaves_events (output error : List UInt8) :
    Interleaves output error (Stream.output.events output ++ Stream.error.events error) := by
  constructor <;> simp [filter_events]

namespace Consumer

variable {c : Consumer} {gs : List Grammar} {es : List Event} {s : Stream}

/-- Reads one line of a stream, as bytes without a line end. -/
def feedRecord (s : Stream) (c : Consumer) (record : List UInt8) : Consumer :=
  let (text, repair) := c.encoding.decode record
  { c with warnings := c.warnings ++ c.encoding.warnings repair }.feed s text

theorem observeAll_append (c : Consumer) (es fs : List Event) :
    c.observeAll (es ++ fs) = (c.observeAll es).observeAll fs := List.foldl_append

/-- Lines count without their ends. -/
theorem observeAll_lines (c : Consumer) (s : Stream) (bs : List (List UInt8)) :
    c.observeAll (bs.map (.line s)) = (bs.map dropLineEnd).foldl (feedRecord s) c := by
  unfold observeAll
  rw [List.foldl_map, List.foldl_map]
  rfl

theorem observe_eq_perform (c : Consumer) (e : Event) :
    c.observe e = c.perform e.action.1 e.action.2 := by
  cases e <;> rfl

theorem observeAll_eq_performAll (c : Consumer) (es : List Event) :
    c.observeAll es = c.performAll (es.map Event.action) := by
  unfold observeAll performAll
  rw [List.foldl_map]
  exact List.foldl_ext _ _ _ fun c e _ => observe_eq_perform c e

/-- An event leaves the channel of the other stream alone. -/
theorem channel_observe (c : Consumer) {e : Event} (h : e.stream ≠ s) :
    (c.observe e).channel s = c.channel s := by
  have hs : e.action.1 = e.stream := by cases e <;> rfl
  rw [observe_eq_perform, channel_perform, if_neg fun hc => h (hs ▸ hc.symm)]

/-- **A silent output stream leaves no trace**: ending it does nothing if nothing is held for it. -/
theorem observeAll_of_silent (h : c.channel .output = .ofGrammars gs) {n : Nat}
    (hes : es.filter (fun e => e.stream = .output) = List.replicate n (.closed .output)) :
    c.observeAll es = c.observeAll (es.filter fun e => e.stream = .error) := by
  have hclosed : ∀ e ∈ es, e.stream = .output → e = .closed .output := by
    intro e he hs
    have hmem : e ∈ es.filter fun e => e.stream = .output :=
      List.mem_filter.2 ⟨he, by simpa using hs⟩
    exact List.eq_of_mem_replicate (hes ▸ hmem)
  clear hes
  induction es generalizing c with
  | nil => rfl
  | cons e es ih =>
    have hrest : ∀ e' ∈ es, e'.stream = .output → e' = .closed .output := fun e' he' =>
      hclosed e' (List.mem_cons_of_mem _ he')
    cases he : e.stream with
    | output =>
      obtain rfl := hclosed e List.mem_cons_self he
      rw [List.filter_cons_of_neg (by decide), ← ih h hrest]
      exact congrArg (fun c => observeAll c es) (close_of_new h)
    | error =>
      rw [List.filter_cons_of_pos (by simpa using he)]
      have hother : e.stream ≠ .output := by rw [he]; decide
      exact ih ((channel_observe c hother).trans h) hrest

/-- Closing a stream a second time changes nothing. -/
theorem close_close (h : Channel.WorksOn gs (c.channel s)) : (c.close s).close s = c.close s := by
  have hnew : (c.close s).channel s = .ofGrammars gs := by
    rw [channel_close, if_pos rfl]
    exact Channel.close_of_worksOn h
  exact close_of_new hnew

/-- **A run that prints errors only** reads the lines of the error stream and closes it. -/
theorem observeAll_of_interleaves (h : ∀ s, c.channel s = .ofGrammars gs) {bytes : List UInt8}
    (hes : Interleaves [] bytes es) :
    c.observeAll (es ++ endEvents) =
      (((logLines bytes).map dropLineEnd).foldl (feedRecord .error) c).close .error := by
  let lines := (Text.endedRecords 10 bytes).map (Event.line .error)
  have hsilent : (es ++ endEvents).filter (fun e => e.stream = .output) =
      List.replicate 2 (.closed .output) := by
    rw [List.filter_append, hes.output]
    rfl
  have herrors : (es ++ endEvents).filter (fun e => e.stream = .error) =
      lines ++ [.closed .error, .closed .error] := by
    rw [List.filter_append, hes.error, Stream.events, List.append_assoc]
    rfl
  have hworks : Channel.WorksOn gs ((c.observeAll lines).channel .error) := by
    rw [observeAll_eq_performAll]
    exact worksOn_performAll (fun t => h t ▸ Channel.worksOn_ofGrammars gs) _ _
  -- the stream has ended before the run ends, which makes no difference
  have htwice : (c.observeAll lines).observeAll [.closed .error, .closed .error] =
      (c.observeAll lines).close .error := close_close hworks
  rw [observeAll_of_silent (h .output) hsilent, herrors, observeAll_append, htwice,
    observeAll_lines, dropLineEnd_endedRecords]

/-- A log is read like lines of the error stream, which is then closed. -/
theorem observeAll_lines_end (h : c.channel .output = .ofGrammars gs) (bs : List (List UInt8)) :
    c.observeAll (bs.map (.line .error) ++ endEvents) =
      ((bs.map dropLineEnd).foldl (feedRecord .error) c).close .error := by
  have hsilent : (bs.map (Event.line .error) ++ endEvents).filter (fun e => e.stream = .output) =
      List.replicate 1 (.closed .output) := by
    rw [List.filter_append, filter_lines]
    rfl
  have herrors : (bs.map (Event.line .error) ++ endEvents).filter (fun e => e.stream = .error) =
      bs.map (.line .error) ++ [.closed .error] := by
    rw [List.filter_append, filter_lines]
    rfl
  rw [observeAll_of_silent h hsilent, herrors, observeAll_append, observeAll_lines]
  rfl

theorem replay_of_read (c : Consumer) {d : Disk} {p : Path} {bytes : List UInt8}
    (h : d.read p = .ok bytes) :
    c.replay d p = .ok ((logLines bytes).length, c.observeAll (replayEvents bytes)) := by
  unfold replay readLog
  rw [h]

/-- **Replaying a log agrees with a live run**, and line ends do not matter. A consumer that reads
the log is as it is after any run whose error stream brings the bytes of the log and whose output
stream brings nothing, and so after a command that prints that. A log that was written from records,
with any line ends, has as many lines as there are records, and is read as these records. -/
theorem replay_agrees (gs : List Grammar) (enabled : Bool) (encoding : Encoding)
    (warnings : List Warning) {d : Disk} {p : Path} {bytes : List UInt8}
    (hread : d.read p = .ok bytes) :
    let c := fresh gs enabled encoding warnings
    (∀ es, Interleaves [] bytes es →
      c.replay d p = .ok ((logLines bytes).length, c.observeAll (es ++ endEvents))) ∧
    (∀ disk env program args o disk',
      Shell.start disk env program args = .ok (o, disk') → o.output = [] → o.error = bytes →
      ∃ count after, c.replay d p = .ok (count, after) ∧
        c.runCommand disk env program args = .ok (o.ending, after)) ∧
    (∀ rs, (∀ r ∈ rs, Separable r) → Writes rs bytes →
      c.replay d p = .ok (rs.length, c.observeAll (rs.map (.line .error) ++ endEvents))) := by
  intro c
  have hnew : ∀ s, c.channel s = .ofGrammars gs := by intro s; cases s <;> rfl
  have hlive : ∀ es, Interleaves [] bytes es →
      c.observeAll (replayEvents bytes) = c.observeAll (es ++ endEvents) := by
    intro es hes
    rw [observeAll_of_interleaves hnew hes, replayEvents, observeAll_lines_end (hnew .output)]
  rw [replay_of_read c hread]
  refine ⟨fun es hes => by rw [hlive es hes], ?_, ?_⟩
  · rintro disk env program args o disk' hstart hout rfl
    have hes : Interleaves [] o.error (Stream.output.events o.output ++
        Stream.error.events o.error) := by
      have := interleaves_events o.output o.error
      rwa [hout] at this ⊢
    refine ⟨_, _, rfl, ?_⟩
    unfold runCommand
    rw [hstart, hlive _ hes]
    rfl
  · intro rs hrs hw
    have hlines := dropLineEnd_logLines hw hrs
    have hrecords : rs.map dropLineEnd = rs :=
      (List.map_congr_left fun r hr => dropLineEnd_of_separable (hrs r hr)).trans (List.map_id _)
    have hcount : (logLines bytes).length = rs.length := by rw [← hlines, List.length_map]
    rw [hcount, replayEvents, observeAll_lines_end (hnew .output),
      observeAll_lines_end (hnew .output), hlines, hrecords]

/-- A command whose only line on the error stream is a diagnostic, and a log with that line. -/
theorem replay_agrees_missing_file :
    let record := Utf8.encode "cat: a.c:1:1: error: x: No such file or directory"
    let d : Disk := ⟨[(["log"], .file (record ++ [10]))], []⟩
    let c := fresh [.gcc] true .utf8 []
    d.read ⟨"/log"⟩ = .ok (record ++ [10]) ∧ Separable record ∧ Writes [record] (record ++ [10]) ∧
      ∃ after, c.replay d ⟨"/log"⟩ = .ok (1, after) ∧
        c.runCommand d {} "cat" ["a.c:1:1: error: x"] = .ok (.code 1, after) ∧
        after = c.observeAll (.line .error record :: endEvents) := by
  intro record d c
  have hread : d.read ⟨"/log"⟩ = .ok (record ++ [10]) := by decide +kernel
  have hstart : Shell.start d {} "cat" ["a.c:1:1: error: x"] =
      .ok ({ error := record ++ [10], ending := .code 1 }, d) := by decide +kernel
  have hrecord : Separable record := ⟨by decide +kernel, by decide +kernel⟩
  have hwrites : Writes [record] (record ++ [10]) := by
    have := Writes.line record (.inl rfl) .nil
    rwa [List.append_nil] at this
  obtain ⟨-, hlive, hlines⟩ := replay_agrees [.gcc] true .utf8 [] hread
  obtain ⟨count, after, hreplay, hrun⟩ := hlive d {} "cat" _ _ d hstart rfl rfl
  have hsame := hlines [record] (by simpa using hrecord) hwrites
  rw [hreplay] at hsame
  cases hsame
  exact ⟨hread, hrecord, hwrites, _, hreplay, hrun, rfl⟩

end Consumer

end BuildDiagnostics
