import BuildDiagnostics.Proofs.Record
import BuildDiagnostics.Proofs.SingleGrammar

/-!
# Closing a stream

Closing a stream flushes all its matchers and forgets which one claimed last, so the channel is
again as it was before its first line. What a consumer keeps beyond that is its record. So runs that
follow one another, each ended by `finish`, bring the same candidates as if each had a consumer of
its own.

* `Channel.close_of_worksOn`: in every state that a channel can reach, closing it makes it new.
* `passed_of_agree`: candidates depend on the channels and on how texts are read, not on the record.
* `close_resets`: after a close the channel is new; runs one after the other do not mix.
-/

namespace BuildDiagnostics

namespace Channel

variable {gs : List Grammar} {ch : Channel}

/-- The channel is in a state that one over the grammars can be in. -/
def WorksOn (gs : List Grammar) (ch : Channel) : Prop :=
  ∃ m : Solo, m.Valid ∧ m.grammars = gs ∧ m.channel = ch

theorem worksOn_ofGrammars (gs : List Grammar) : WorksOn gs (ofGrammars gs) :=
  ⟨Solo.ofGrammars gs, Solo.valid_none rfl, rfl, rfl⟩

theorem worksOn_run (h : WorksOn gs ch) (xs : List Input) : WorksOn gs (ch.run xs).2 := by
  obtain ⟨m, hm, rfl, rfl⟩ := h
  exact ⟨(m.run xs).2, Solo.valid_run hm xs, Solo.grammars_run m xs, by rw [Solo.run_channel hm]⟩

/-- **Closing makes a channel new**, whatever its matchers hold. -/
theorem close_of_worksOn (h : WorksOn gs ch) : ch.close.2 = ofGrammars gs := by
  obtain ⟨m, hm, rfl, rfl⟩ := h
  rw [Solo.close_channel hm]
  rfl

theorem close_ofGrammars (gs : List Grammar) : (ofGrammars gs).close = ([], ofGrammars gs) :=
  Solo.close_channel (s := Solo.ofGrammars gs) (Solo.valid_none rfl)

end Channel

namespace Consumer

variable {c d : Consumer} {gs : List Grammar}

/-! ## Channels after calls -/

theorem worksOn_performAll (h : ∀ s, Channel.WorksOn gs (c.channel s))
    (as : List (Stream × Action)) (s : Stream) :
    Channel.WorksOn gs ((c.performAll as).channel s) := by
  induction as generalizing c with
  | nil => exact h s
  | cons a as ih =>
    apply ih
    intro t
    rw [channel_perform]
    split
    · exact Channel.worksOn_run (h a.1) _
    · exact h t

theorem worksOn_afterAll (h : ∀ s, Channel.WorksOn gs (c.channel s)) (xs : List Call)
    (s : Stream) : Channel.WorksOn gs ((c.afterAll xs).channel s) := by
  induction xs generalizing c with
  | nil => exact h s
  | cons x xs ih =>
    apply ih
    cases x with
    | act t a => exact worksOn_performAll h [(t, a)]
    | finish => exact worksOn_performAll h ending
    | subscribe => exact h

theorem channel_close (c : Consumer) (s t : Stream) :
    (c.close s).channel t = if t = s then (c.channel s).close.2 else c.channel t :=
  channel_perform c s t .close

theorem channel_finish (h : ∀ s, Channel.WorksOn gs (c.channel s)) (s : Stream) :
    c.finish.channel s = .ofGrammars gs := by
  unfold finish
  rw [channel_close]
  cases s with
  | output =>
    rw [if_neg (by decide), channel_close, if_pos rfl, Channel.close_of_worksOn (h .output)]
  | error =>
    rw [if_pos rfl, channel_close, if_neg (by decide), Channel.close_of_worksOn (h .error)]

/-- Closing a stream whose channel is new changes nothing. -/
theorem close_of_new {s : Stream} (h : c.channel s = .ofGrammars gs) : c.close s = c := by
  unfold close
  rw [h, Channel.close_ofGrammars]
  dsimp only
  rw [← h, setChannel_self]
  rfl

/-! ## Candidates -/

/-- The consumers read alike: their channels are in the same state, and they make the same inputs of
what they are given. -/
structure Agree (c d : Consumer) : Prop where
  channel : ∀ s, c.channel s = d.channel s
  inputs : c.inputs = d.inputs

theorem Agree.handed (h : Agree c d) (s : Stream) (a : Action) : c.handed s a = d.handed s a := by
  unfold Consumer.handed
  rw [h.channel, h.inputs]

theorem Agree.perform (h : Agree c d) (s : Stream) (a : Action) :
    Agree (c.perform s a) (d.perform s a) := by
  constructor
  · intro t
    rw [channel_perform, channel_perform, h.channel, h.channel, h.inputs]
  · rw [inputs_perform, inputs_perform, h.inputs]

theorem Agree.performAll (h : Agree c d) (as : List (Stream × Action)) :
    c.candidates as = d.candidates as ∧ Agree (c.performAll as) (d.performAll as) := by
  induction as generalizing c d with
  | nil => exact ⟨rfl, h⟩
  | cons x as ih =>
    obtain ⟨s, a⟩ := x
    obtain ⟨hc, hp⟩ := ih (h.perform s a)
    exact ⟨by rw [candidates, candidates, h.handed, hc], hp⟩

theorem Agree.after (h : Agree c d) (x : Call) : Agree (c.after x) (d.after x) := by
  cases x with
  | act s a => exact h.perform s a
  | finish => exact (h.performAll ending).2
  | subscribe => exact ⟨h.channel, h.inputs⟩

/-- **Consumers that read alike have the same candidates** in all further calls. -/
theorem passed_of_agree (h : Agree c d) (xs : List Call) : c.passed xs = d.passed xs := by
  induction xs generalizing c d with
  | nil => rfl
  | cons x xs ih => rw [passed, passed, (h.performAll x.actions).1, ih (h.after x)]

theorem inputs_afterAll (c : Consumer) (xs : List Call) : (c.afterAll xs).inputs = c.inputs := by
  induction xs generalizing c with
  | nil => rfl
  | cons x xs ih =>
    refine (ih (c.after x)).trans ?_
    cases x with
    | act s a => exact inputs_perform c s a
    | finish => exact (inputs_perform _ .error .close).trans (inputs_perform c .output .close)
    | subscribe => rfl

/-- **Closing a stream is a complete reset.** After any calls, closing a stream makes its channel
new and leaves the other one alone, and finishing a second time changes nothing. Two runs, each
ended by `finish`, record the first reports of the candidates of the one alone followed by those of
the other alone. -/
theorem close_resets (gs : List Grammar) (enabled : Bool) (encoding : Encoding)
    (warnings : List Warning) (xs : List Call) (s : Stream) (as bs : List Call) :
    let c := fresh gs enabled encoding warnings
    let now := c.afterAll xs
    (now.close s).channel s = .ofGrammars gs ∧
      (∀ t, t ≠ s → (now.close s).channel t = now.channel t) ∧
      now.finish.finish = now.finish ∧
      (c.afterAll (as ++ .finish :: (bs ++ [.finish]))).recorded =
        firstReports (c.passed (as ++ [.finish]) ++ c.passed (bs ++ [.finish])) := by
  intro c now
  have hfresh : ∀ t, c.channel t = .ofGrammars gs := by
    intro t; cases t <;> rfl
  have hworks : ∀ ys t, Channel.WorksOn gs ((c.afterAll ys).channel t) := by
    intro ys
    exact worksOn_afterAll (fun t => hfresh t ▸ Channel.worksOn_ofGrammars gs) ys
  refine ⟨?_, fun t ht => ?_, ?_, ?_⟩
  · rw [channel_close, if_pos rfl]
    exact Channel.close_of_worksOn (hworks xs s)
  · rw [channel_close, if_neg ht]
  · have hnew := channel_finish (hworks xs)
    rw [finish, close_of_new (hnew .output), close_of_new (hnew .error)]
  · -- after the first run the consumer reads as it did at the start
    have hagree : Agree (c.afterAll (as ++ [.finish])) c := by
      refine ⟨fun t => ?_, inputs_afterAll c _⟩
      rw [afterAll_append, hfresh]
      exact channel_finish (hworks as) t
    have hsplit : as ++ .finish :: (bs ++ [.finish]) = (as ++ [.finish]) ++ (bs ++ [.finish]) := by
      simp
    have hrec := (records_afterAll (c := c) (records_fresh ..) ((as ++ [.finish]) ++
      (bs ++ [.finish]))).recorded
    rw [hsplit, hrec, List.nil_append, passed_append, passed_of_agree hagree]

end Consumer

end BuildDiagnostics
