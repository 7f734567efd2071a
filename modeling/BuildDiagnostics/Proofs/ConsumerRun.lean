import BuildDiagnostics.Consumer
import BuildDiagnostics.Proofs.ChannelRun

/-!
# Runs of a consumer

What is done to the two streams of a consumer comes as a list of actions in the order in which they
happen. Each action hands diagnostics to `record` (`Consumer.handed`); these are the candidates, and
what is recorded depends on a run through them only.

* `perform_eq`: an action runs its lines through the channel of its stream and records what they
  finish.
* `candidatesOn_eq`: the candidates of a stream are what its channel gives when it runs alone.
* `ledger_performAll`: what a run records is what recording its candidates records.
-/

namespace BuildDiagnostics

/-- The lines that a text is read as. -/
def fedLines (text : List Char) : List Line := if text.isEmpty then [[]] else Text.lines text

namespace Consumer

open Channel (Input)

/-- What is done to a stream. -/
inductive Action
  | feed (text : List Char)
  | feedBytes (bytes : List UInt8)
  | close
  deriving DecidableEq, Repr

/-- The consumer after an action on a stream. -/
def perform (c : Consumer) (s : Stream) : Action → Consumer
  | .feed text => c.feed s text
  | .feedBytes bytes => c.feedBytes s bytes
  | .close => c.close s

/-- The consumer after actions in the order of the list. -/
def performAll (c : Consumer) (as : List (Stream × Action)) : Consumer :=
  as.foldl (fun c a => c.perform a.1 a.2) c

/-- The actions on one stream. -/
def onStream (s : Stream) (as : List (Stream × Action)) : List Action :=
  (as.filter fun a => a.1 = s).map Prod.snd

/-- The actions at the end of a run. -/
def ending : List (Stream × Action) := [(.output, .close), (.error, .close)]

theorem finish_eq (c : Consumer) : c.finish = c.performAll ending := rfl

/-- What an action brings to the channel of its stream. -/
def inputs (c : Consumer) : Action → List Input
  | .feed text => if c.enabled then (fedLines text).map .line else []
  | .feedBytes bytes =>
    if c.enabled then (fedLines (c.encoding.decodeLine bytes).1).map .line else []
  | .close => [.close]

/-- What an action hands to `record`, in order. -/
def handed (c : Consumer) (s : Stream) (a : Action) : List Diagnostic :=
  ((c.channel s).run (c.inputs a)).1

/-- What a run hands to `record`, in order, each diagnostic with its stream. -/
def candidates (c : Consumer) : List (Stream × Action) → List (Stream × Diagnostic)
  | [] => []
  | (s, a) :: rest => (c.handed s a).map (s, ·) ++ (c.perform s a).candidates rest

/-- What the channel of a stream hands to `record` in a run, in order. -/
def candidatesOn (c : Consumer) (s : Stream) (as : List (Stream × Action)) : List Diagnostic :=
  ((c.candidates as).filter fun x => x.1 = s).map Prod.snd

/-! ## Recording and channels -/

/-- What has been recorded, the identities that were seen, and what subscribers were told. -/
def ledger (c : Consumer) : List Diagnostic × Std.HashSet Identity × List (List Diagnostic) :=
  (c.recorded, c.seen, c.subscribers)

variable {c d : Consumer}

theorem ledger_record (h : c.ledger = d.ledger) (x : Diagnostic) :
    (c.record x).ledger = (d.record x).ledger := by
  simp only [ledger, Prod.mk.injEq] at h
  obtain ⟨hr, hs, ht⟩ := h
  unfold record
  rw [hs]
  split
  · simp only [ledger, hr, hs, ht]
  · simp only [ledger, hr, ht]

/-- What is recorded depends on what was recorded before only. -/
theorem ledger_recordAll (h : c.ledger = d.ledger) (ds : List Diagnostic) :
    (c.recordAll ds).ledger = (d.recordAll ds).ledger := by
  induction ds generalizing c d with
  | nil => exact h
  | cons x xs ih => exact ih (ledger_record h x)

theorem recordAll_append (c : Consumer) (ds es : List Diagnostic) :
    c.recordAll (ds ++ es) = (c.recordAll ds).recordAll es := by
  simp [recordAll]

@[simp]
theorem ledger_setChannel (c : Consumer) (s : Stream) (ch : Channel) :
    (c.setChannel s ch).ledger = c.ledger := by
  cases s <;> rfl

theorem channel_setChannel (c : Consumer) (s t : Stream) (ch : Channel) :
    (c.setChannel s ch).channel t = if t = s then ch else c.channel t := by
  cases s <;> cases t <;> rfl

theorem setChannel_setChannel (c : Consumer) (s : Stream) (ch ch' : Channel) :
    (c.setChannel s ch).setChannel s ch' = c.setChannel s ch' := by
  cases s <;> rfl

theorem setChannel_self (c : Consumer) (s : Stream) : c.setChannel s (c.channel s) = c := by
  cases s <;> rfl

theorem setChannel_record (c : Consumer) (s : Stream) (ch : Channel) (x : Diagnostic) :
    (c.record x).setChannel s ch = (c.setChannel s ch).record x := by
  have hs : (c.setChannel s ch).seen = c.seen := by cases s <;> rfl
  unfold record
  rw [hs]
  by_cases h : c.seen.contains x.identity
  · rw [if_pos h, if_pos h]
  · rw [if_neg h, if_neg h]; cases s <;> rfl

/-- Recording and setting a channel do not get in each other's way. -/
theorem setChannel_recordAll (c : Consumer) (s : Stream) (ch : Channel) (ds : List Diagnostic) :
    (c.recordAll ds).setChannel s ch = (c.setChannel s ch).recordAll ds := by
  induction ds generalizing c with
  | nil => rfl
  | cons x xs ih =>
    have h := ih (c.record x)
    rwa [setChannel_record] at h

theorem recordAll_fields (c : Consumer) (ds : List Diagnostic) :
    (∀ s, (c.recordAll ds).channel s = c.channel s) ∧ (c.recordAll ds).enabled = c.enabled ∧
      (c.recordAll ds).encoding = c.encoding := by
  induction ds generalizing c with
  | nil => exact ⟨fun _ => rfl, rfl, rfl⟩
  | cons x xs ih =>
    obtain ⟨h1, h2, h3⟩ := ih (c.record x)
    have hx : (∀ s, (c.record x).channel s = c.channel s) ∧ (c.record x).enabled = c.enabled ∧
        (c.record x).encoding = c.encoding := by
      unfold record
      split
      · exact ⟨fun _ => rfl, rfl, rfl⟩
      · exact ⟨fun s => by cases s <;> rfl, rfl, rfl⟩
    exact ⟨fun s => (h1 s).trans (hx.1 s), h2.trans hx.2.1, h3.trans hx.2.2⟩

/-! ## An action -/

/-- The consumer after an input to a channel. -/
def react (c : Consumer) (s : Stream) (x : Input) : Consumer :=
  (c.setChannel s ((c.channel s).react x).2).recordAll ((c.channel s).react x).1

/-- **Inputs one by one are a run of the channel**, whose diagnostics are recorded. -/
theorem foldl_react (c : Consumer) (s : Stream) (xs : List Input) :
    xs.foldl (fun c x => c.react s x) c =
      (c.setChannel s ((c.channel s).run xs).2).recordAll ((c.channel s).run xs).1 := by
  induction xs generalizing c with
  | nil => simp only [List.foldl_nil, Channel.run, setChannel_self]; rfl
  | cons x xs ih =>
    -- recording does not touch the channel, so the next input meets it as the last one left it
    have hch : (c.react s x).channel s = ((c.channel s).react x).2 := by
      unfold react
      rw [(recordAll_fields _ _).1, channel_setChannel, if_pos rfl]
    rw [List.foldl_cons, ih, hch]
    unfold react
    rw [setChannel_recordAll, setChannel_setChannel, ← recordAll_append]
    rfl

theorem feed_eq (c : Consumer) (s : Stream) (text : List Char) :
    c.feed s text = (c.inputs (.feed text)).foldl (fun c x => c.react s x) c := by
  unfold feed inputs fedLines
  cases c.enabled with
  | false => rfl
  | true =>
    simp only [Bool.not_true, Bool.false_eq_true, if_false, if_true]
    by_cases ht : text.isEmpty
    · rw [if_pos ht, if_pos ht]; rfl
    · rw [if_neg ht, if_neg ht, List.foldl_map]; rfl

/-- **An action runs its lines through its channel** and records what they finish. Besides, it can
only add warnings. -/
theorem perform_eq (c : Consumer) (s : Stream) (a : Action) :
    ∃ ws, c.perform s a =
      (({ c with warnings := ws } : Consumer).setChannel s
        ((c.channel s).run (c.inputs a)).2).recordAll (c.handed s a) := by
  cases a with
  | feed text =>
    refine ⟨c.warnings, ?_⟩
    rw [perform, feed_eq, foldl_react]
    rfl
  | feedBytes bytes =>
    refine ⟨c.warnings ++ c.encoding.warnings (c.encoding.decodeLine bytes).2, ?_⟩
    rw [perform, feedBytes]
    dsimp only
    rw [feed_eq, foldl_react]
    cases s <;> rfl
  | close =>
    refine ⟨c.warnings, ?_⟩
    have h : c.perform s .close = (c.inputs .close).foldl (fun c x => c.react s x) c := rfl
    rw [h, foldl_react]
    rfl

theorem channel_perform (c : Consumer) (s t : Stream) (a : Action) :
    (c.perform s a).channel t =
      if t = s then ((c.channel s).run (c.inputs a)).2 else c.channel t := by
  obtain ⟨ws, h⟩ := perform_eq c s a
  rw [h, (recordAll_fields _ _).1, channel_setChannel]
  cases t <;> rfl

/-- No action changes how later ones are read. -/
theorem inputs_perform (c : Consumer) (s : Stream) (a : Action) :
    (c.perform s a).inputs = c.inputs := by
  obtain ⟨ws, h⟩ := perform_eq c s a
  obtain ⟨-, he, hc⟩ := recordAll_fields
    (({ c with warnings := ws } : Consumer).setChannel s ((c.channel s).run (c.inputs a)).2)
    (c.handed s a)
  rw [← h] at he hc
  have he' : (c.perform s a).enabled = c.enabled := by rw [he]; cases s <;> rfl
  have hc' : (c.perform s a).encoding = c.encoding := by rw [hc]; cases s <;> rfl
  funext b
  cases b <;> simp only [inputs, he', hc']

theorem ledger_perform (c : Consumer) (s : Stream) (a : Action) :
    (c.perform s a).ledger = (c.recordAll (c.handed s a)).ledger := by
  obtain ⟨ws, h⟩ := perform_eq c s a
  rw [h]
  exact ledger_recordAll (by rw [ledger_setChannel]; rfl) _

/-! ## A run -/

/-- **The candidates of a stream are what its channel gives when it runs alone.** -/
theorem candidatesOn_eq (c : Consumer) (s : Stream) (as : List (Stream × Action)) :
    c.candidatesOn s as = ((c.channel s).run ((onStream s as).flatMap c.inputs)).1 := by
  induction as generalizing c with
  | nil => rfl
  | cons x rest ih =>
    obtain ⟨t, a⟩ := x
    have hrest := ih (c.perform t a)
    rw [inputs_perform, channel_perform] at hrest
    unfold candidatesOn at hrest ⊢
    rw [candidates, List.filter_append, List.map_append, hrest]
    by_cases hs : t = s
    · -- the action is on this stream, and its candidates come first
      subst hs
      have hon : onStream t ((t, a) :: rest) = a :: onStream t rest := by simp [onStream]
      have hall : (((c.handed t a).map (t, ·)).filter fun x => x.1 = t).map Prod.snd =
          c.handed t a := by
        simp [List.filter_map, Function.comp_def]
      rw [hall, hon, List.flatMap_cons, Channel.run_append, if_pos rfl]
      rfl
    · -- the action is on the other stream, and leaves this one's channel alone
      have hon : onStream s ((t, a) :: rest) = onStream s rest := by simp [onStream, hs]
      have hnone : (((c.handed t a).map (t, ·)).filter fun x => x.1 = s).map Prod.snd = [] := by
        simp [List.filter_map, Function.comp_def, hs]
      rw [hnone, hon, List.nil_append, if_neg (fun e => hs e.symm)]

/-- What is handed over on one stream only is all that is handed over. -/
theorem map_snd_candidates {c : Consumer} {s : Stream} {as : List (Stream × Action)}
    (h : ∀ t, t ≠ s → c.candidatesOn t as = []) :
    (c.candidates as).map Prod.snd = c.candidatesOn s as := by
  have hall : ∀ x ∈ c.candidates as, decide (x.1 = s) = true := by
    intro x hx
    by_cases hs : x.1 = s
    · exact decide_eq_true hs
    · have hmem : x.2 ∈ c.candidatesOn x.1 as :=
        List.mem_map.2 ⟨x, List.mem_filter.2 ⟨hx, decide_eq_true rfl⟩, rfl⟩
      rw [h x.1 hs] at hmem
      exact absurd hmem List.not_mem_nil
  rw [candidatesOn, List.filter_eq_self.2 hall]

/-- **What a run records is what recording its candidates records.** -/
theorem ledger_performAll (c : Consumer) (as : List (Stream × Action)) :
    (c.performAll as).ledger = (c.recordAll ((c.candidates as).map Prod.snd)).ledger := by
  induction as generalizing c with
  | nil => rfl
  | cons x rest ih =>
    obtain ⟨s, a⟩ := x
    have hmap : ((c.handed s a).map fun d => (s, d)).map Prod.snd = c.handed s a := by
      simp [Function.comp_def]
    have hrest : (c.performAll ((s, a) :: rest)).ledger = _ := ih (c.perform s a)
    rw [hrest, candidates, List.map_append, hmap, recordAll_append]
    exact ledger_recordAll (ledger_perform c s a) _

end Consumer

end BuildDiagnostics
