import BuildDiagnostics.Program
import BuildDiagnostics.Proofs.Grouping
import BuildDiagnostics.Proofs.Replay
import BuildDiagnostics.Proofs.Resolution

/-!
# Runs over a log

A run over a log records diagnostics, resolves them, groups them by file and sorts the groups. The
exit code is read off the sorted groups. A run that comes to its end (`LogRun`) has lost nothing on
this way, so its exit code tells whether an error was recorded.

* `nodup_recorded`: no diagnostic is recorded twice.
* `recordOf_eq`: what is recorded of a log is what its one stream finishes, first reports only.
* `map_diagnostic_of_resolve`: the results of a batch are about the batch, one for one.
* `failed_or_logRun`: a run over a log fails or comes to its end.
* `nothing_is_lost`: what a run that came to its end has recorded, resolved, grouped and counted.
-/

namespace BuildDiagnostics

open EastAsian (Indexes)

/-- Whoever is told of a run, the consumer reads its events. -/
theorem Session.consumer_foldl_hear (a : Audience) (s : Session) (es : List Event) :
    (es.foldl (hear a) s).consumer = s.consumer.observeAll es := by
  induction es generalizing s with
  | nil => rfl
  | cons e es ih => exact ih (s.hear a e)

/-- **No diagnostic is recorded twice.** -/
theorem Consumer.nodup_recorded (gs : List Grammar) (enabled : Bool) (encoding : Encoding)
    (warnings : List Warning) (es : List Event) :
    ((fresh gs enabled encoding warnings).observeAll es).recorded.Nodup := by
  have hcalls : (fresh gs enabled encoding warnings).observeAll es =
      (fresh gs enabled encoding warnings).afterAll
        (es.map fun e => .act e.action.1 e.action.2) := by
    rw [observeAll_eq_performAll, performAll, afterAll, List.foldl_map, List.foldl_map]
    rfl
  rw [hcalls, recorded_fresh]
  exact List.Nodup.of_map _ (nodup_firstReports _)

theorem Resolver.map_diagnostic_of_shows {d : Disk} {bases : List Path} {batch : List Diagnostic}
    {results : List Resolved} (h : List.Forall₂ (Shows d bases) batch results) :
    results.map Resolved.diagnostic = batch := by
  induction h with
  | nil => rfl
  | cons hx _ ih => rw [List.map_cons, hx.diagnostic, ih]

/-- **The results of a batch are about the batch**, one for one and in order. -/
theorem Resolver.map_diagnostic_of_resolve {r : Resolver} {d d' : Disk} {bases : List Path}
    {batch : List Diagnostic} {results : List Resolved}
    (h : r.resolve d bases batch = (.ok results, d')) :
    results.map Resolved.diagnostic = batch := by
  obtain ⟨as, has, rfl, -⟩ := resolve_spec h
  exact map_diagnostic_of_shows (layOut_shows has r.orphansPath 0 0)

/-- What a consumer with the settings records of a log. -/
def Settings.recordOf (s : Settings) (tables : Indexes) (bytes : List UInt8) : List Diagnostic :=
  ((s.consumer tables).observeAll (replayEvents bytes)).recorded

/-- **The record of a log** is the first reports among what one stream alone finishes: the output
stream brings no line. -/
theorem Settings.recordOf_eq (s : Settings) (tables : Indexes) (bytes : List UInt8) :
    s.recordOf tables bytes = Consumer.firstReports (((s.consumer tables).channel .error).run
      (((logLines bytes).map Consumer.Action.feedBytes ++ [Consumer.Action.close]).flatMap
        (s.consumer tables).inputs)).1 := by
  obtain ⟨gs, enabled, encoding, warnings, h⟩ := Consumer.consumer_eq_fresh s tables
  unfold recordOf
  rw [h]
  let c := Consumer.fresh gs enabled encoding warnings
  let as := (replayEvents bytes).map Event.action
  have has : as = (logLines bytes).map (fun b => (Stream.error, Consumer.Action.feedBytes b)) ++
      Consumer.ending := by
    simp only [as, replayEvents, List.map_append, List.map_map]
    rfl
  have houtput : Consumer.onStream .output as = [.close] := by
    rw [has, Consumer.onStream_append]
    simp [Consumer.onStream, Consumer.ending, List.filter_map, Function.comp_def]
  have herror : Consumer.onStream .error as =
      (logLines bytes).map Consumer.Action.feedBytes ++ [.close] := by
    rw [has, Consumer.onStream_append]
    simp [Consumer.onStream, Consumer.ending, List.filter_map, Function.comp_def]
  have hsilent : ∀ t, t ≠ .error → c.candidatesOn t as = [] := by
    intro t ht
    cases t with
    | error => exact absurd rfl ht
    | output =>
      rw [Consumer.candidatesOn_eq, houtput]
      exact congrArg (fun r => r.1 ++ []) (Channel.close_ofGrammars gs)
  have hrecords := Consumer.records_recordAll (c := c) (Consumer.records_fresh ..)
    ((c.candidates as).map Prod.snd)
  rw [Consumer.observeAll_eq_performAll]
  rw [(Consumer.records_congr (Consumer.ledger_performAll c as).symm hrecords).recorded,
    List.nil_append, Consumer.map_snd_candidates hsilent, Consumer.candidatesOn_eq, herror]

/-- A run over a log that comes to its end: the arguments ask for the log, nothing of what it needs
is missing or broken, and what it records is resolved. -/
structure LogRun (d : Disk) (env : Environment) (args : List String) (tables : Indexes) where
  /-- The command line as given. -/
  asked : CommandLine
  /-- The command line with the source directory, if the cache tells it. -/
  line : CommandLine
  notices : List Warning
  /-- The settings of the file and the environment. -/
  settings : Settings
  log : Path
  bytes : List UInt8
  results : List Resolved
  after : Disk
  args_read : CommandLine.ofArguments args = .ok asked
  not_listing : asked.listGrammars = false
  settings_read : Settings.load d env asked.settings = .ok settings
  source_inferred : asked.inferSource d = .ok (line, notices)
  log_given : line.log = some log
  log_read : readLog d log = .ok bytes
  resolved : ((asked.apply settings).resolver env).resolve d
    (line.baseDirectories d.workingDirectory) ((asked.apply settings).recordOf tables bytes) =
      (.ok results, after)

namespace LogRun

variable {d : Disk} {env : Environment} {args : List String} {tables : Indexes}

/-- What the run records. -/
def record (r : LogRun d env args tables) : List Diagnostic :=
  (r.asked.apply r.settings).recordOf tables r.bytes

/-- Looking for the source directory leaves the log as it is named. -/
theorem log_of_inferSource {c line : CommandLine} {notices : List Warning}
    (h : c.inferSource d = .ok (line, notices)) : line.log = c.log := by
  unfold CommandLine.inferSource at h
  split at h
  · dsimp only at h
    split at h
    · split at h
      · cases h
      · cases h
        rfl
    · cases h
      rfl
  · cases h
    rfl

/-- What the exit code is read off. -/
def snapshot (r : LogRun d env args tables) : Snapshot :=
  (({ name := "build" } : Collection).populate r.results).snapshot

/-- The run prints its results after what it has told, and ends by what the snapshot counts. -/
theorem run_eq (r : LogRun d env args tables) : ∃ t, Program.run d env args tables =
    ⟨t, if 0 < r.snapshot.count .error then 1 else 0, r.after⟩ := by
  have hevents : Program.events d env r.line = .ok (replayEvents r.bytes, none, d) := by
    unfold Program.events
    rw [r.log_given]
    dsimp only
    rw [r.log_read]
    rfl
  have hresolved := r.resolved
  unfold Program.run
  rw [r.args_read]
  dsimp only
  unfold Program.runLine
  rw [r.not_listing, r.settings_read, r.source_inferred]
  simp only [Bool.false_eq_true, if_false]
  unfold Program.runWith
  rw [hevents]
  dsimp only
  rw [Session.consumer_foldl_hear]
  unfold Settings.recordOf at hresolved
  rw [hresolved]
  exact ⟨_, rfl⟩

/-- **A run over a log fails or comes to its end.** -/
theorem failed_or_logRun {c : CommandLine} (hargs : CommandLine.ofArguments args = .ok c)
    (hlist : c.listGrammars = false) (hlog : c.log.isSome = true) :
    (∃ t d' e, Program.run d env args tables = Program.failed t d' e) ∨
      Nonempty (LogRun d env args tables) := by
  obtain ⟨log, hlog⟩ := Option.isSome_iff_exists.1 hlog
  unfold Program.run
  rw [hargs]
  dsimp only
  unfold Program.runLine
  rw [hlist]
  simp only [Bool.false_eq_true, if_false]
  cases hload : Settings.load d env c.settings with
  | error e => exact .inl ⟨_, _, _, rfl⟩
  | ok s =>
    cases hinfer : c.inferSource d with
    | error e => exact .inl ⟨_, _, _, rfl⟩
    | ok inferred =>
      obtain ⟨line, notices⟩ := inferred
      have hline : line.log = some log := by rw [log_of_inferSource hinfer, hlog]
      dsimp only
      unfold Program.runWith Program.events
      rw [hline]
      dsimp only
      cases hread : readLog d log with
      | error e => exact .inl ⟨_, _, _, rfl⟩
      | ok bytes =>
        dsimp only [Except.map]
        rw [Session.consumer_foldl_hear]
        cases hresolve : ((c.apply s).resolver env).resolve d
            (line.baseDirectories d.workingDirectory) ((c.apply s).recordOf tables bytes) with
        | mk outcome after =>
          cases outcome with
          | error e =>
            unfold Settings.recordOf at hresolve
            rw [hresolve]
            exact .inl ⟨_, _, _, rfl⟩
          | ok results =>
            exact .inr ⟨{
              asked := c, line := line, notices := notices, settings := s, log := log,
              bytes := bytes, results := results, after := after, args_read := hargs,
              not_listing := hlist, settings_read := hload, source_inferred := hinfer,
              log_given := hline, log_read := hread, resolved := hresolve }⟩

/-- The snapshot has the results, in an order of its own. -/
theorem perm_items (r : LogRun d env args tables) :
    (r.snapshot.items.map Resolved.diagnostic).Perm r.record := by
  have h : r.results.map Resolved.diagnostic = r.record :=
    Resolver.map_diagnostic_of_resolve r.resolved
  rw [← h]
  exact (Collection.perm_items_snapshot rfl r.results).map Resolved.diagnostic

theorem nodup_record (r : LogRun d env args tables) : r.record.Nodup := by
  obtain ⟨gs, enabled, encoding, warnings, h⟩ :=
    Consumer.consumer_eq_fresh (r.asked.apply r.settings) tables
  unfold record Settings.recordOf
  rw [h]
  exact Consumer.nodup_recorded gs enabled encoding warnings _

/-- **Nothing is lost between the record and the exit code.** In a run over a log that comes to its
end, the results are about the recorded diagnostics, one for one; the snapshot has as many, has each
in the group of exactly one file, and counts as many of each level as were recorded; and the run
ends with code 1 if an error was recorded, and with 0 otherwise. -/
theorem nothing_is_lost (r : LogRun d env args tables) :
    r.results.map Resolved.diagnostic = r.record ∧
      r.results.length = r.record.length ∧
      r.snapshot.total = r.record.length ∧
      (∀ x ∈ r.record, r.snapshot.files.countP (fun g => x ∈ g.2.map Resolved.diagnostic) = 1) ∧
      (∀ level, r.snapshot.count level =
        r.record.countP fun x => x.classification = some level) ∧
      ∃ t, Program.run d env args tables =
        ⟨t, if ∃ x ∈ r.record, x.classification = some .error then 1 else 0, r.after⟩ := by
  have hresults : r.results.map Resolved.diagnostic = r.record :=
    Resolver.map_diagnostic_of_resolve r.resolved
  have hperm := r.perm_items
  have hcount : ∀ level, r.snapshot.count level =
      r.record.countP fun x => x.classification = some level := by
    intro level
    rw [← hperm.countP_eq, List.countP_map]
    exact List.countP_congr fun x _ => by simp
  refine ⟨hresults, ?_, ?_, ?_, hcount, ?_⟩
  · rw [← hresults, List.length_map]
  · rw [← hperm.length_eq, List.length_map]
    rfl
  · intro x hx
    have hitems : r.snapshot.files.flatMap (fun g => g.2.map Resolved.diagnostic) =
        r.snapshot.items.map Resolved.diagnostic := List.map_flatMap.symm
    refine countP_mem_of_nodup ?_ ?_ <;> rw [hitems]
    · exact hperm.nodup_iff.2 r.nodup_record
    · exact hperm.mem_iff.2 hx
  · obtain ⟨t, ht⟩ := r.run_eq
    have herror : 0 < r.snapshot.count .error ↔
        ∃ x ∈ r.record, x.classification = some .error := by
      rw [hcount, List.countP_pos_iff]
      simp
    exact ⟨t, by rw [ht, if_congr herror rfl rfl]⟩

/-- A linker's error before a compiler's warning: one is shown in the file of orphans, the other in
its own. -/
theorem nothing_is_lost_two_files :
    let d : Disk :=
      ⟨[(["b.log"], .file (Utf8.encode "ld: cannot find -lfoo\n/a.c:3:1: warning: x\n"))], []⟩
    let args := ["--linker-errors-dir", "/t", "--log", "/b.log"]
    ∃ r : LogRun d {} args {}, r.record.length = 2 ∧ r.snapshot.total = 2 ∧
      r.snapshot.count .error = 1 ∧ r.snapshot.count .warning = 1 ∧
      ∃ t, Program.run d {} args {} = ⟨t, 1, r.after⟩ := by
  intro d args
  let c := (CommandLine.ofArguments args).toOption.getD {}
  let bytes := (readLog d ⟨"/b.log"⟩).toOption.getD []
  let ds : List Diagnostic := [
    { file := "ld", range := .restOfLine 0 0, severity := "error", message := "cannot find -lfoo",
      source := "Link" },
    { file := "/a.c", range := .restOfLine 2 0, severity := "warning", message := "x",
      source := "GCC" }]
  let outcome := ((c.apply {}).resolver {}).resolve d (c.baseDirectories d.workingDirectory) ds
  have hrecord : (c.apply {}).recordOf {} bytes = ds := by
    rw [Settings.recordOf_eq]
    decide +kernel
  have hresolved : outcome = (.ok (outcome.1.toOption.getD []), outcome.2) := by decide +kernel
  let r : LogRun d {} args {} := {
    asked := c, line := c, notices := [], settings := {}, log := ⟨"/b.log"⟩, bytes := bytes
    results := outcome.1.toOption.getD [], after := outcome.2
    args_read := by decide +kernel
    not_listing := by decide +kernel
    settings_read := by decide +kernel
    source_inferred := by decide +kernel
    log_given := by decide +kernel
    log_read := by decide +kernel
    resolved := hrecord ▸ hresolved }
  have hr : r.record = ds := hrecord
  obtain ⟨-, -, htotal, -, hcount, t, ht⟩ := nothing_is_lost r
  rw [hr] at htotal ht
  refine ⟨r, by rw [hr]; rfl, by rw [htotal]; rfl, ?_, ?_, t, ?_⟩
  · rw [hcount, hr]
    decide +kernel
  · rw [hcount, hr]
    decide +kernel
  · rw [ht, if_pos (by decide +kernel)]

end LogRun

end BuildDiagnostics
