import BuildDiagnostics.Proofs.ConsumerRun
import BuildDiagnostics.Proofs.Openings
import BuildDiagnostics.Proofs.SingleGrammar

/-!
# Emission

A consumer hands a diagnostic to `record` long after the line that opened it: when the next heading
comes, when another grammar claims a line, when a boundary line is left to others, or when the
stream ends. None of this loses a diagnostic, hands one over twice or changes their order.

The invariant is on the machine with one grammar at work (`Solo`), which makes the same steps as a
channel: what that grammar holds comes before all that later lines open.

* `Solo.dispatch_conserves`: what is held and what a line opens is what the line finishes and what
  is held then.
* `Solo.emitted_extends`: by the time the stream ends, each opening line has given one diagnostic.
* `channel_ofRegistry`: the channels of a consumer are those of the enabled grammars.
* `flatMap_inputs_feed`: what texts and the end of a stream bring to its channel.
* `each_opening_emitted_once`: one diagnostic for each opening line, in the order of these lines.
-/

namespace BuildDiagnostics

/-! ## One grammar at work conserves diagnostics -/

namespace Solo

/-- The matcher that claims a line, as it is before the line. -/
def claimant? (s : Solo) (line : Line) : Option Matcher :=
  let newcomer := (tryNew line s.others).map fun x => Matcher.fresh x.2.2.grammar
  match s.active with
  | none => newcomer
  | some (_, m) => if (m.step line).1.claimed then some m else newcomer

/-- What the grammar at work holds, as `Matcher.pending`. -/
def pending (s : Solo) (rest : List Line) : Option Diagnostic :=
  s.active.bind fun x => x.2.pending rest

/-- The claimant among new matchers is a fresh one. -/
theorem claim_offerOf {s : Solo} {line : Line} (ms ns : List Matcher)
    (hns : ∀ x ∈ s.others, ns[x.2]? = some (.fresh x.1)) :
    ((offerOf ms (tryNew line s.others)).claim.bind fun x => ns[x.1]?) =
      (tryNew line s.others).map fun x => Matcher.fresh x.2.2.grammar := by
  cases ht : tryNew line s.others with
  | none => rfl
  | some x =>
    simp only [offerOf, Option.bind_some, Option.map_some, hns _ (tryNew_spec ht).1]

theorem claimant?_channel {s : Solo} (hs : s.Valid) (line : Line) :
    s.channel.claimant? line = s.claimant? line := by
  unfold Channel.claimant? claimant?
  cases ha : s.active with
  | none =>
    have ho : Channel.offer line s.channel.order s.channel.matchers = _ := offer_idle ha line
    rw [ho]
    apply claim_offerOf
    intro x hx
    have hm : s.channel.matchers = s.grammars.map .fresh := by unfold channel matchers; rw [ha]
    rw [hm, List.getElem?_map, (mem_others hx).1]; rfl
  | some x =>
    obtain ⟨i, m⟩ := x
    have hlt := (List.getElem?_eq_some_iff.1 (hs i m ha)).1
    have ho : Channel.offer line s.channel.order s.channel.matchers = _ := offer_active ha hlt line
    have hm : s.channel.matchers = (s.grammars.map .fresh).set i m := by
      unfold channel matchers; rw [ha]
    rw [ho]
    by_cases hc : (m.step line).1.claimed
    · simp only [hc, if_true, Option.bind_some, hm]
      exact List.getElem?_set_self (by simpa using hlt)
    · simp only [hc]
      apply claim_offerOf
      intro x hx
      obtain ⟨hg, hne⟩ := mem_others hx
      rw [ha] at hne
      rw [hm, List.getElem?_set_ne (fun e => hne (by rw [e]; rfl)), List.getElem?_map, hg]; rfl

/-- A new matcher that claims holds or finishes what the line opens. -/
theorem newcomer_conserves {line : Line} {xs : List (Grammar × Nat)} {j : Nat}
    {finished : Option Diagnostic} {n : Matcher} (h : tryNew line xs = some (j, finished, n))
    (rest : List Line) :
    AllExtend ((Matcher.fresh n.grammar).opening? line rest).toList
      (finished.toList ++ (n.pending rest).toList) := by
  have := Matcher.step_conserves (.fresh n.grammar) line rest
  rwa [Matcher.pending_fresh, (tryNew_spec h).2, Option.toList_none, List.nil_append] at this

/-- **A line loses, repeats and reorders nothing**, whichever grammar claims it. -/
theorem dispatch_conserves (s : Solo) (line : Line) (rest : List Line) :
    AllExtend ((s.pending (line :: rest)).toList ++
        ((s.claimant? line).bind fun m => m.opening? line rest).toList)
      ((s.dispatch line).1 ++ ((s.dispatch line).2.pending rest).toList) := by
  unfold dispatch claimant? pending
  cases ha : s.active with
  | none =>
    cases ht : tryNew line s.others with
    | none => simp only [ha]; exact AllExtend.refl _
    | some x =>
      obtain ⟨j, finished, n⟩ := x
      exact newcomer_conserves ht rest
  | some x =>
    obtain ⟨i, m⟩ := x
    have hm := Matcher.step_conserves m line rest
    by_cases hc : (m.step line).1.claimed
    · simp only [hc, if_true, Option.bind_some]
      exact hm
    -- the old grammar opens nothing, and gives what it holds to the new one's claim
    have hc' : (m.step line).1.claimed = false := by simpa using hc
    rw [Matcher.opening?_of_not_claimed hc', Option.toList_none, List.append_nil] at hm
    cases ht : tryNew line s.others with
    | none =>
      simp only [hc, Bool.false_eq_true, if_false, Option.bind_some, Option.map_none,
        Option.bind_none, Option.toList_none, List.append_nil]
      exact hm
    | some x =>
      obtain ⟨j, finished, n⟩ := x
      rw [Matcher.pending_of_not_claimed hc'] at hm
      simp only [hc, Bool.false_eq_true, if_false, Option.bind_some, Option.map_some]
      rw [List.append_assoc]
      exact hm.append (newcomer_conserves ht rest)

/-- **By the end of the stream each opening line has given one diagnostic**, in order. -/
theorem emitted_extends {s : Solo} (hs : s.Valid) (lines : List Line) :
    AllExtend ((s.pending lines).toList ++ s.channel.openings lines)
      (s.run (lines.map .line ++ [.close])).1 := by
  induction lines generalizing s with
  | nil =>
    simp only [Channel.openings, List.map_nil, List.nil_append, run, react, close, pending,
      List.append_nil, Matcher.pending_nil]
    exact AllExtend.refl _
  | cons line rest ih =>
    -- what is held after the line comes before all that the rest opens
    have hstep := dispatch_conserves s line rest
    have hrest := ih (valid_dispatch hs line)
    simp only [Channel.openings, Channel.opening?, claimant?_channel hs, dispatch_channel hs,
      List.map_cons, List.cons_append, run, react]
    rw [← List.append_assoc]
    refine (hstep.append (AllExtend.refl _)).trans ?_
    rw [List.append_assoc]
    exact (AllExtend.refl _).append hrest

end Solo

/-! ## A stream of a consumer -/

/-- The grammars that are registered and allowed, in order. -/
def Registry.enabledGrammars (r : Registry) : List Grammar :=
  (r.entries.filter fun e => r.isEnabled e.1).map Prod.snd

namespace Consumer

open Channel (Input)

theorem channel_ofRegistry (r : Registry) (s : Stream) :
    (ofRegistry r).channel s = .ofGrammars r.enabledGrammars := by
  have h : r.instantiate = r.enabledGrammars.map .fresh := by
    unfold Registry.instantiate Registry.enabledGrammars
    rw [List.map_map]; rfl
  cases s <;> (unfold ofRegistry channel Channel.ofGrammars; rw [h])

/-- Texts bring their lines, and the end of the stream comes last. -/
theorem flatMap_inputs_feed {c : Consumer} (hc : c.enabled = true) (texts : List (List Char)) :
    (texts.map Action.feed ++ [Action.close]).flatMap c.inputs =
      (texts.flatMap fedLines).map Input.line ++ [.close] := by
  rw [List.flatMap_append, List.flatMap_map, List.map_flatMap]
  simp only [inputs, hc, if_true, List.flatMap_singleton]

theorem onStream_map (s : Stream) (as : List Action) :
    onStream s (as.map fun a => (s, a)) = as := by
  simp [onStream, List.filter_map, Function.comp_def]

/-- **Each opening line gives one diagnostic, in order.** When texts are fed to a stream and the
stream is closed, its channel hands over one diagnostic for each opening line, in the order of these
lines, and each is the opened one with more text and more related places at the end. -/
theorem each_opening_emitted_once (r : Registry) (s : Stream) (texts : List (List Char)) :
    AllExtend (((ofRegistry r).channel s).openings (texts.flatMap fedLines))
      ((ofRegistry r).candidatesOn s
        ((texts.map Action.feed ++ [Action.close]).map fun a => (s, a))) := by
  have hs : (Solo.ofGrammars r.enabledGrammars).Valid := Solo.valid_none rfl
  have hch : (ofRegistry r).channel s = (Solo.ofGrammars r.enabledGrammars).channel :=
    channel_ofRegistry r s
  rw [candidatesOn_eq, onStream_map, flatMap_inputs_feed rfl, hch, Solo.run_channel hs]
  exact Solo.emitted_extends hs (texts.flatMap fedLines)

end Consumer

end BuildDiagnostics
