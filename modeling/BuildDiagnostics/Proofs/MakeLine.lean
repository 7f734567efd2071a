import BuildDiagnostics.Proofs.BlankLine
import BuildDiagnostics.Proofs.Emission
import BuildDiagnostics.Proofs.Reset

/-!
# Lines of `make`

`make` announces what it does in lines that look like diagnostics. The grammars of the GNU tools
ask for its name before anything else, so to them such a line is the same boundary as an empty one,
whatever they hold.

* `Matcher.step_silence`: a matcher of these grammars takes a line of `make` as an empty one.
* `Solo.dispatch_of_make`: such a line finishes what is held, and nothing is held then.
* `Channel.run_silence`: emptying the lines of `make` changes nothing in the run of a channel.
* `fedLines_quiet`: any text can be written with these lines emptied.
* `Consumer.make_is_silent`: nor does it in what a consumer records and tells.
-/

namespace BuildDiagnostics

open Text GnuLd

variable {line : Line} {gs : List Grammar}

/-- The line, emptied if `make` wrote it. -/
def GnuLd.silence (line : Line) : Line := if isMakeLine line then [] else line

theorem GnuLd.silence_of_make (h : isMakeLine line = true) : silence line = [] := if_pos h

/-- The grammars of the GNU tools. -/
def Grammar.IsGnu (g : Grammar) : Prop := g = .gcc ∨ g = .gnuld

/-! ## One grammar -/

theorem Gcc.State.step_of_make (s : Gcc.State) (h : isMakeLine line = true) :
    s.step line = s.leave := by
  rw [step, h, Bool.or_true, Bool.true_or, if_pos rfl]

theorem GnuLd.read_of_make (h : isMakeLine line = true) : GnuLd.read line = .ignored := by
  rw [read, if_pos h]

namespace Matcher

/-- **A line of `make` is a boundary**: it finishes what is held, and nothing is held then. -/
theorem step_of_make {m : Matcher} (hm : m.grammar.IsGnu) (h : isMakeLine line = true) :
    (m.step line).1 = .leave m.flush.1 ∧ (m.step line).2.flush.1 = none := by
  cases m with
  | gcc s => simp only [step, s.step_of_make h]; exact ⟨rfl, rfl⟩
  | gnuld => simp only [step, read_of_make h]; exact ⟨rfl, rfl⟩
  | _ => rcases hm with hm | hm <;> cases hm

/-- **A line of `make` is taken as an empty one.** -/
theorem step_silence {m : Matcher} (hm : m.grammar.IsGnu) (line : Line) :
    m.step (silence line) = m.step line := by
  cases h : isMakeLine line with
  | false => simp only [silence, h, Bool.false_eq_true, if_false]
  | true =>
    have hempty : isBlankLine [] = true := rfl
    rw [silence_of_make h]
    cases m with
    | gcc s => simp only [step, s.step_of_make h, s.step_of_blank hempty]
    | gnuld => simp only [step, read_of_make h, read_of_blank hempty]
    | _ => rcases hm with hm | hm <;> cases hm

end Matcher

/-! ## One grammar at work -/

namespace Solo

theorem tryNew_of_make {xs : List (Grammar × Nat)} (hxs : ∀ x ∈ xs, x.1.IsGnu)
    (h : isMakeLine line = true) : tryNew line xs = none := by
  induction xs with
  | nil => rfl
  | cons x xs ih =>
    have hg := hxs x List.mem_cons_self
    have hrest := ih fun y hy => hxs y (List.mem_cons_of_mem _ hy)
    rw [← Matcher.grammar_fresh x.1] at hg
    simp only [tryNew, (Matcher.step_of_make hg h).1, hrest]
    rfl

section Gnu

variable {s : Solo} (hgs : ∀ g ∈ s.grammars, g.IsGnu)

include hgs

theorem isGnu_others : ∀ x ∈ s.others, x.1.IsGnu := fun _ hx =>
  hgs _ (List.mem_of_getElem? (mem_others hx).1)

theorem isGnu_active (hs : s.Valid) {i : Nat} {m : Matcher} (ha : s.active = some (i, m)) :
    m.grammar.IsGnu := hgs _ (List.mem_of_getElem? (hs i m ha))

/-- A line of `make` goes to the grammar at work alone, which gives what it holds. -/
theorem dispatch_of_make (hs : s.Valid) (h : isMakeLine line = true) :
    s.dispatch line =
      (s.close.1, { s with active := s.active.map fun x => (x.1, (x.2.step line).2) }) := by
  unfold dispatch close
  rw [tryNew_of_make (isGnu_others hgs) h]
  obtain ⟨grammars, active⟩ := s
  cases active with
  | none => rfl
  | some x =>
    obtain ⟨i, m⟩ := x
    simp only [(Matcher.step_of_make (isGnu_active hgs hs rfl) h).1]
    rfl

/-- **A line of `make` is taken as an empty one**, whatever is held. -/
theorem dispatch_silence (hs : s.Valid) (line : Line) :
    s.dispatch (silence line) = s.dispatch line := by
  cases h : isMakeLine line with
  | false => simp only [silence, h, Bool.false_eq_true, if_false]
  | true =>
    rw [dispatch_of_make hgs hs h, silence_of_make h, dispatch_of_blank s rfl, close]
    obtain ⟨grammars, active⟩ := s
    cases active with
    | none => rfl
    | some x =>
      obtain ⟨i, m⟩ := x
      have hm := isGnu_active hgs hs rfl
      have hsame := Matcher.step_silence hm line
      rw [silence_of_make h] at hsame
      simp only [hsame, (Matcher.step_of_make hm h).1]
      rfl

/-- No grammar claims a line of `make`. -/
theorem claimant?_of_make (hs : s.Valid) (h : isMakeLine line = true) :
    s.claimant? line = none := by
  unfold claimant?
  rw [tryNew_of_make (isGnu_others hgs) h]
  cases ha : s.active with
  | none => rfl
  | some x =>
    obtain ⟨i, m⟩ := x
    simp only [(Matcher.step_of_make (isGnu_active hgs hs ha) h).1]
    rfl

end Gnu

end Solo

/-! ## Channels -/

namespace Channel

/-- The input with its line emptied if `make` wrote it. -/
def Input.silence : Input → Input
  | .line l => .line (GnuLd.silence l)
  | .close => .close

variable {ch : Channel}

theorem react_silence (hgs : ∀ g ∈ gs, g.IsGnu) (h : WorksOn gs ch) (x : Input) :
    ch.react x.silence = ch.react x := by
  obtain ⟨m, hm, rfl, rfl⟩ := h
  cases x with
  | close => rfl
  | line l =>
    simp only [Input.silence, react, Solo.dispatch_channel hm, Solo.dispatch_silence hgs hm]

/-- **Emptying the lines of `make` changes nothing** in the run of a channel. -/
theorem run_silence (hgs : ∀ g ∈ gs, g.IsGnu) (h : WorksOn gs ch) (xs : List Input) :
    ch.run (xs.map Input.silence) = ch.run xs := by
  induction xs generalizing ch with
  | nil => rfl
  | cons x xs ih =>
    have hnext : WorksOn gs (ch.react x).2 := worksOn_run h [x]
    rw [List.map_cons, run, run, react_silence hgs h, ih hnext]

/-- **A line of `make` opens nothing.** It hands over what the channel holds, as the end of the
stream would, and the channel holds nothing after it. -/
theorem dispatch_of_make (hgs : ∀ g ∈ gs, g.IsGnu) (h : WorksOn gs ch)
    (hmake : isMakeLine line = true) (rest : List Line) :
    ch.opening? line rest = none ∧ (ch.dispatch line).1 = ch.close.1 ∧
      (ch.dispatch line).2.close.1 = [] := by
  obtain ⟨m, hm, rfl, rfl⟩ := h
  have hnext := Solo.valid_dispatch hm line
  rw [opening?, Solo.claimant?_channel hm, Solo.claimant?_of_make hgs hm hmake,
    Solo.dispatch_channel hm, Solo.close_channel hm, Solo.close_channel hnext,
    Solo.dispatch_of_make hgs hm hmake]
  refine ⟨rfl, rfl, ?_⟩
  unfold Solo.close
  cases ha : m.active with
  | none => rfl
  | some x =>
    simp only [Option.map_some, Option.bind_some,
      (Matcher.step_of_make (Solo.isGnu_active hgs hm ha) hmake).2]
    rfl

end Channel

/-! ## Texts -/

/-- The text with the lines of `make` emptied. A carriage return and a line feed end each line, so
that a carriage return that belongs to it stays. -/
def quiet (text : List Char) : List Char :=
  ((fedLines text).map fun l => silence l ++ ['\r']).flatMap (· ++ ['\n'])

theorem fedLines_ne_nil (text : List Char) : fedLines text ≠ [] := by
  unfold fedLines
  split
  · simp
  · rename_i h
    exact lines_ne_nil (by simpa using h)

theorem not_mem_of_mem_fedLines {text l : List Char} (h : l ∈ fedLines text) : '\n' ∉ l := by
  unfold fedLines at h
  split at h
  · simp [List.mem_singleton.1 h]
  · exact not_mem_of_mem_lines h

/-- **A text can be written with the lines of `make` emptied.** -/
theorem fedLines_quiet (text : List Char) :
    fedLines (quiet text) = (fedLines text).map silence := by
  have hended : ∀ p ∈ (fedLines text).map fun l => silence l ++ ['\r'], '\n' ∉ p := by
    intro p hp
    obtain ⟨l, hl, rfl⟩ := List.mem_map.1 hp
    unfold silence
    split
    · decide
    · simpa using not_mem_of_mem_fedLines hl
  have hpieces := pieces_ended _ hended
  obtain ⟨l, ls, hls⟩ := List.exists_cons_of_ne_nil (fedLines_ne_nil text)
  have hne : (quiet text).isEmpty = false := by
    unfold quiet
    rw [hls]
    simp
  rw [fedLines, hne, if_neg Bool.false_ne_true]
  unfold lines quiet
  rw [hpieces]
  simp [dropLastIf_concat, Function.comp_def]

namespace Consumer

open Channel (Input)

variable {c d : Consumer}

/-- Whatever an action brings to its channel, another brings the same with the lines of `make`
emptied. -/
theorem exists_silence (c : Consumer) (a : Action) :
    ∃ b, c.inputs b = (c.inputs a).map Input.silence := by
  have htext : ∀ text, c.inputs (.feed (quiet text)) =
      (c.inputs (.feed text)).map Input.silence := by
    intro text
    simp only [inputs, fedLines_quiet]
    split
    · simp only [List.map_map]; rfl
    · rfl
  cases a with
  | feed text => exact ⟨_, htext text⟩
  | feedBytes bytes => exact ⟨_, htext (c.encoding.decodeLine bytes).1⟩
  | close => exact ⟨.close, rfl⟩

/-- The second call is the first one, or brings what the first one does with the lines of `make`
emptied. -/
inductive Silences (c : Consumer) : Call → Call → Prop
  | same (x : Call) : Silences c x x
  | act (s : Stream) {a b : Action} :
      c.inputs b = (c.inputs a).map Input.silence → Silences c (.act s a) (.act s b)

/-- The consumers read alike and have the same record. -/
structure Twins (c d : Consumer) : Prop extends Agree c d where
  ledger : c.ledger = d.ledger

theorem Twins.after (h : Twins c d) (x : Call) : Twins (c.after x) (d.after x) := by
  refine ⟨h.toAgree.after x, ?_⟩
  have hrun : ∀ as, (c.performAll as).ledger = (d.performAll as).ledger := by
    intro as
    rw [ledger_performAll, ledger_performAll, (h.toAgree.performAll as).1]
    exact ledger_recordAll h.ledger _
  cases x with
  | act s a => exact hrun [(s, a)]
  | finish => exact hrun ending
  | subscribe =>
    have hledger := h.ledger
    simp only [Consumer.ledger, Prod.mk.injEq] at hledger
    obtain ⟨hrecorded, hseen, htold⟩ := hledger
    simp only [Consumer.after, subscribe, Consumer.ledger, hrecorded, hseen, htold]

/-- Emptying the lines of `make` in one action changes nothing. -/
theorem Twins.silence (h : Twins c d) (hgs : ∀ g ∈ gs, g.IsGnu)
    (hc : ∀ s, Channel.WorksOn gs (c.channel s)) {s : Stream} {a b : Action}
    (hb : c.inputs b = (c.inputs a).map Input.silence) :
    Twins (c.after (.act s a)) (d.after (.act s b)) := by
  have hrun : (d.channel s).run (d.inputs b) = (c.channel s).run (c.inputs a) := by
    rw [← h.inputs, ← h.channel, hb, Channel.run_silence hgs (hc s)]
  refine ⟨⟨fun t => ?_, ?_⟩, ?_⟩
  · simp only [Consumer.after, channel_perform, hrun, h.channel]
  · simp only [Consumer.after, inputs_perform, h.inputs]
  · have hhanded : d.handed s b = c.handed s a := congrArg Prod.fst hrun
    simp only [Consumer.after, ledger_perform, hhanded]
    exact ledger_recordAll h.ledger _

theorem twins_afterAll {c₀ : Consumer} {xs ys : List Call} (hxs : List.Forall₂ c₀.Silences xs ys)
    (hgs : ∀ g ∈ gs, g.IsGnu) (h : Twins c d) (hinputs : c.inputs = c₀.inputs)
    (hc : ∀ s, Channel.WorksOn gs (c.channel s)) : Twins (c.afterAll xs) (d.afterAll ys) := by
  induction hxs generalizing c d with
  | nil => exact h
  | @cons x y xs ys hxy _ ih =>
    have hx := worksOn_afterAll hc [x]
    have hin : (c.after x).inputs = c₀.inputs := (inputs_afterAll c [x]).trans hinputs
    cases hxy with
    | same => exact ih (h.after x) hin hx
    | act s hb => exact ih (h.silence hgs hc (hinputs ▸ hb)) hin hx

/-- **`make` is silent.** To a consumer with no other grammars than those of the GNU tools, a line
of `make` is an empty line: emptying any of them, whatever the calls that bring them, leaves the
record and what each subscriber was told as they are, and every action can be so emptied. Such a
line opens no diagnostic; it hands over what its channel holds, as the end of the stream would, and
the channel holds nothing after it. -/
theorem make_is_silent (gs : List Grammar) (hgs : ∀ g ∈ gs, g = .gcc ∨ g = .gnuld)
    (enabled : Bool) (encoding : Encoding) (warnings : List Warning) :
    let c := fresh gs enabled encoding warnings
    (∀ a, ∃ b, c.inputs b = (c.inputs a).map Input.silence) ∧
      (∀ xs ys, List.Forall₂ c.Silences xs ys →
        (c.afterAll ys).recorded = (c.afterAll xs).recorded ∧
          (c.afterAll ys).subscribers = (c.afterAll xs).subscribers) ∧
      ∀ xs s line rest, isMakeLine line = true →
        let ch := (c.afterAll xs).channel s
        ch.opening? line rest = none ∧ (ch.dispatch line).1 = ch.close.1 ∧
          (ch.dispatch line).2.close.1 = [] := by
  intro c
  have hfresh : ∀ s, Channel.WorksOn gs (c.channel s) := by
    intro s
    cases s <;> exact Channel.worksOn_ofGrammars gs
  refine ⟨exists_silence c, fun xs ys hxs => ?_, fun xs s line rest hmake => ?_⟩
  · have htwins := twins_afterAll hxs hgs ⟨⟨fun _ => rfl, rfl⟩, rfl⟩ rfl hfresh
    have hledger := htwins.ledger
    simp only [ledger, Prod.mk.injEq] at hledger
    exact ⟨hledger.1.symm, hledger.2.2.symm⟩
  · exact Channel.dispatch_of_make hgs (worksOn_afterAll hfresh xs s) hmake rest

/-- A line of `make` that would be a note to the diagnostic before it. -/
theorem make_is_silent_note :
    let c := fresh [.gcc, .gnuld] true .utf8 []
    let line := "make[1]: a.c:7: note: y".toList
    let first : Call := .act .output (.feed "a.c:3:1: error: x".toList)
    let xs := [.subscribe, first, .act .output (.feed line), .finish]
    let ys := [.subscribe, first, .act .output (.feed []), .finish]
    (∀ g ∈ [Grammar.gcc, Grammar.gnuld], g = .gcc ∨ g = .gnuld) ∧ isMakeLine line = true ∧
      List.Forall₂ c.Silences xs ys ∧
      (c.afterAll ys).recorded = (c.afterAll xs).recorded ∧
      (c.afterAll ys).subscribers = (c.afterAll xs).subscribers ∧
      let ch := (c.afterAll [first]).channel .output
      ch.opening? line [] = none ∧ (ch.dispatch line).1 = ch.close.1 ∧
        (ch.dispatch line).2.close.1 = [] := by
  intro c line first xs ys
  have hgs : ∀ g ∈ [Grammar.gcc, Grammar.gnuld], g = .gcc ∨ g = .gnuld := by decide
  have hmake : isMakeLine line = true := by decide +kernel
  have hsilent : List.Forall₂ c.Silences xs ys :=
    .cons (.same _) (.cons (.same _) (.cons (.act _ (by decide +kernel)) (.cons (.same _) .nil)))
  obtain ⟨-, hrecord, hline⟩ := make_is_silent [.gcc, .gnuld] hgs true .utf8 []
  obtain ⟨hrecorded, htold⟩ := hrecord xs ys hsilent
  exact ⟨hgs, hmake, hsilent, hrecorded, htold, hline [first] .output line [] hmake⟩

end Consumer

end BuildDiagnostics
