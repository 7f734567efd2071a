import BuildDiagnostics.Proofs.MakeLine
import BuildDiagnostics.Proofs.Reset
import BuildDiagnostics.Proofs.Resolution
import BuildDiagnostics.Proofs.SoundMatcher

/-!
# What is recorded is well formed

Texts are cut at their line feeds before a matcher sees them. So in a run every matcher keeps what
it holds well formed, and all that is handed over is well formed as a diagnostic of some grammar of
the consumer.

* `Solo.sound_run`: a run of one grammar at a time.
* `Consumer.sound_performAll`, `Consumer.sound_passed`: actions and calls on a consumer.
* `Resolver.printable_of_resolve`: what can be printed of a diagnostic can be printed of its result.
* `recorded_wellFormed`: what is recorded is well formed and can be printed, also when it is
  resolved.
-/

namespace BuildDiagnostics

open Diagnostic (WellFormed)

variable {fed : Line → Prop} {line : Line}

/-! ## Runs -/

/-- The diagnostic is well formed as one of some grammar of the list. -/
def Diagnostic.WellFormedIn (gs : List Grammar) (fed : Line → Prop) (d : Diagnostic) : Prop :=
  ∃ g ∈ gs, d.WellFormed g fed

open Diagnostic (WellFormedIn)

namespace Solo

open Channel (Input)

/-- What the grammar at work holds is well formed. -/
def Sound (fed : Line → Prop) (s : Solo) : Prop := ∀ i m, s.active = some (i, m) → m.Sound fed

variable {s : Solo}

/-- A new matcher that claims a line finishes and holds what is well formed. -/
theorem sound_tryNew {xs : List (Grammar × Nat)} {j : Nat} {finished : Option Diagnostic}
    {n : Matcher} (h : tryNew line xs = some (j, finished, n)) (hl : '\n' ∉ line)
    (hfed : fed line) : (∀ d ∈ finished, WellFormed n.grammar fed d) ∧ n.Sound fed := by
  have hstep := Matcher.sound_step (Matcher.sound_fresh n.grammar) hl hfed
  rw [(tryNew_spec h).2, Matcher.grammar_fresh] at hstep
  exact hstep

theorem sound_dispatch (hs : s.Valid) (h : s.Sound fed) (hl : '\n' ∉ line) (hfed : fed line) :
    (∀ d ∈ (s.dispatch line).1, WellFormedIn s.grammars fed d) ∧ (s.dispatch line).2.Sound fed := by
  -- what is well formed for the grammar at some place is so for one of the list
  have hin : ∀ {g : Grammar} {i : Nat} {found : Option Diagnostic}, s.grammars[i]? = some g →
      (∀ d ∈ found, WellFormed g fed d) → ∀ d ∈ found.toList, WellFormedIn s.grammars fed d := by
    intro g i found hg hfound d hd
    exact ⟨g, List.mem_of_getElem? hg, hfound d (Option.mem_toList.1 hd)⟩
  unfold dispatch
  cases ha : s.active with
  | none =>
    cases ht : tryNew line s.others with
    | none => exact ⟨fun _ hd => absurd hd List.not_mem_nil, h⟩
    | some x =>
      obtain ⟨j, finished, n⟩ := x
      obtain ⟨hfinished, hn⟩ := sound_tryNew ht hl hfed
      refine ⟨hin (tryNew_others ht).1 hfinished, ?_⟩
      rintro _ _ ⟨⟩
      exact hn
  | some x =>
    obtain ⟨i, m⟩ := x
    have hi := hs i m ha
    obtain ⟨hfinished, hm⟩ := Matcher.sound_step (h i m ha) hl hfed
    have hkept : ∀ k l, some (i, (m.step line).2) = some (k, l) → l.Sound fed := by
      rintro _ _ ⟨⟩
      exact hm
    by_cases hc : (m.step line).1.claimed
    · simp only [hc, if_true]
      exact ⟨hin hi hfinished, hkept⟩
    simp only [hc]
    cases ht : tryNew line s.others with
    | none => exact ⟨hin hi hfinished, hkept⟩
    | some x =>
      obtain ⟨j, finished, n⟩ := x
      obtain ⟨hnew, hn⟩ := sound_tryNew ht hl hfed
      have hflush := Matcher.wellFormed_flush hm
      rw [Matcher.grammar_step] at hflush
      constructor
      · intro d hd
        rcases List.mem_append.1 hd with hd | hd
        · rcases List.mem_append.1 hd with hd | hd
          · exact hin hi hfinished d hd
          · exact hin hi hflush d hd
        · exact hin (tryNew_others ht).1 hnew d hd
      · rintro _ _ ⟨⟩
        exact hn

theorem sound_close (hs : s.Valid) (h : s.Sound fed) :
    (∀ d ∈ s.close.1, WellFormedIn s.grammars fed d) ∧ s.close.2.Sound fed := by
  refine ⟨fun d hd => ?_, fun _ _ ha => absurd ha (by simp [close])⟩
  obtain ⟨⟨i, m⟩, ha, hflush⟩ := Option.bind_eq_some_iff.1 (Option.mem_toList.1 hd)
  exact ⟨m.grammar, List.mem_of_getElem? (hs i m ha), Matcher.wellFormed_flush (h i m ha) d hflush⟩

/-- **A run of lines without line feeds finishes what is well formed only.** -/
theorem sound_run (hs : s.Valid) (h : s.Sound fed) {xs : List Input}
    (hxs : ∀ l, .line l ∈ xs → '\n' ∉ l ∧ fed l) :
    (∀ d ∈ (s.run xs).1, WellFormedIn s.grammars fed d) ∧ (s.run xs).2.Sound fed := by
  induction xs generalizing s with
  | nil => exact ⟨fun _ hd => absurd hd List.not_mem_nil, h⟩
  | cons x xs ih =>
    have hx : (∀ d ∈ (s.react x).1, WellFormedIn s.grammars fed d) ∧ (s.react x).2.Sound fed := by
      cases x with
      | line l =>
        obtain ⟨hl, hfed⟩ := hxs l List.mem_cons_self
        exact sound_dispatch hs h hl hfed
      | close => exact sound_close hs h
    obtain ⟨hrest, hsound⟩ := ih (valid_react hs x) hx.2 fun l hl =>
      hxs l (List.mem_cons_of_mem _ hl)
    rw [grammars_react] at hrest
    exact ⟨fun d hd => (List.mem_append.1 hd).elim (hx.1 d) (hrest d), hsound⟩

end Solo

/-- The channel is in a state that one over the grammars can be in, and what it holds is well
formed. -/
def Channel.SoundOn (gs : List Grammar) (fed : Line → Prop) (ch : Channel) : Prop :=
  ∃ s : Solo, s.Valid ∧ s.grammars = gs ∧ s.channel = ch ∧ s.Sound fed

theorem Channel.soundOn_ofGrammars (gs : List Grammar) : SoundOn gs fed (ofGrammars gs) :=
  ⟨.ofGrammars gs, Solo.valid_none rfl, rfl, rfl, fun _ _ h => absurd h (by simp [Solo.ofGrammars])⟩

theorem Channel.soundOn_run {gs : List Grammar} {ch : Channel} (h : SoundOn gs fed ch)
    {xs : List Input} (hxs : ∀ l, .line l ∈ xs → '\n' ∉ l ∧ fed l) :
    (∀ d ∈ (ch.run xs).1, WellFormedIn gs fed d) ∧ SoundOn gs fed (ch.run xs).2 := by
  obtain ⟨s, hs, rfl, rfl, hsound⟩ := h
  obtain ⟨hfound, hkept⟩ := Solo.sound_run hs hsound hxs
  rw [Solo.run_channel hs]
  exact ⟨hfound, _, Solo.valid_run hs xs, Solo.grammars_run s xs, rfl, hkept⟩

namespace Consumer

open Channel (Input)

variable {c : Consumer} {gs : List Grammar}

/-- What both channels hold is well formed. -/
def Sound (gs : List Grammar) (fed : Line → Prop) (c : Consumer) : Prop :=
  ∀ s, (c.channel s).SoundOn gs fed

/-- What an action brings to a channel are lines without line feeds. -/
theorem not_mem_of_mem_inputs {a : Action} {l : Line} (h : .line l ∈ c.inputs a) : '\n' ∉ l := by
  have hfed : ∀ text, .line l ∈ (if c.enabled then (fedLines text).map Input.line else []) →
      '\n' ∉ l := by
    intro text hl
    split at hl
    · obtain ⟨l', hl', heq⟩ := List.mem_map.1 hl
      cases heq
      exact not_mem_of_mem_fedLines hl'
    · cases hl
  cases a with
  | feed text => exact hfed text h
  | feedBytes bytes => exact hfed _ h
  | close => simp [inputs] at h

theorem sound_performAll (h : c.Sound gs fed) {as : List (Stream × Action)}
    (has : ∀ a ∈ as, ∀ l, .line l ∈ c.inputs a.2 → fed l) :
    (∀ x ∈ c.candidates as, WellFormedIn gs fed x.2) ∧ (c.performAll as).Sound gs fed := by
  induction as generalizing c with
  | nil => exact ⟨fun _ hx => absurd hx List.not_mem_nil, h⟩
  | cons a as ih =>
    obtain ⟨s, a⟩ := a
    obtain ⟨hfound, hkept⟩ := Channel.soundOn_run (h s) fun l hl =>
      ⟨not_mem_of_mem_inputs hl, has (s, a) List.mem_cons_self l hl⟩
    have hnext : (c.perform s a).Sound gs fed := by
      intro t
      rw [channel_perform]
      split
      · exact hkept
      · exact h t
    obtain ⟨hrest, hend⟩ := ih hnext fun b hb l hl =>
      has b (List.mem_cons_of_mem _ hb) l (by rwa [inputs_perform] at hl)
    refine ⟨fun x hx => ?_, hend⟩
    rcases List.mem_append.1 hx with hx | hx
    · obtain ⟨d, hd, rfl⟩ := List.mem_map.1 hx
      exact hfound d hd
    · exact hrest x hx

/-- The line is one of those that the calls bring to a channel. -/
def Feeds (c : Consumer) (xs : List Call) (l : Line) : Prop :=
  ∃ s a, .act s a ∈ xs ∧ .line l ∈ c.inputs a

/-- **Calls pass on what is well formed only.** -/
theorem sound_passed (h : c.Sound gs fed) {xs : List Call} (hxs : ∀ l, c.Feeds xs l → fed l) :
    ∀ d ∈ c.passed xs, WellFormedIn gs fed d := by
  induction xs generalizing c with
  | nil => exact fun _ hd => absurd hd List.not_mem_nil
  | cons x xs ih =>
    have hx : ∀ a ∈ x.actions, ∀ l, .line l ∈ c.inputs a.2 → fed l := by
      intro a ha l hl
      cases x with
      | act s b =>
        rw [List.mem_singleton.1 ha] at hl
        exact hxs l ⟨s, b, List.mem_cons_self, hl⟩
      | finish =>
        -- the end of a stream brings no line
        have hclose : a.2 = .close := by
          rcases List.mem_cons.1 ha with rfl | ha
          · rfl
          · rw [List.mem_singleton.1 ha]
        rw [hclose] at hl
        simp [inputs] at hl
      | subscribe => cases ha
    obtain ⟨hfound, hnext⟩ := sound_performAll h hx
    have hafter : (c.after x).Sound gs fed ∧ (c.after x).inputs = c.inputs := by
      refine ⟨?_, inputs_afterAll c [x]⟩
      cases x with
      | act s a => exact hnext
      | finish => exact hnext
      | subscribe => exact h
    have hrest := ih hafter.1 fun l hl => by
      obtain ⟨s, a, hmem, hin⟩ := hl
      rw [hafter.2] at hin
      exact hxs l ⟨s, a, List.mem_cons_of_mem _ hmem, hin⟩
    intro d hd
    rcases List.mem_append.1 hd with hd | hd
    · obtain ⟨y, hy, rfl⟩ := List.mem_map.1 hd
      exact hfound y hy
    · exact hrest d hd

end Consumer

/-! ## What is printed -/

/-- The position is printed with the numbers that come after its own: neither sum overflows. -/
def Position.CountsFromOne (p : Position) : Prop :=
  (p.line + 1).toNat = p.line.toNat + 1 ∧ (p.column + 1).toNat = p.column.toNat + 1

theorem Position.Printable.countsFromOne {p : Position} (h : p.Printable) : p.CountsFromOne :=
  ⟨toNat_add_one h.line, toNat_add_one h.column⟩

/-- The positions of a diagnostic that are printed. -/
def Diagnostic.starts (d : Diagnostic) : List Position :=
  d.range.start :: d.related.map fun r => r.range.start

/-- The positions of a result that are printed. -/
def Resolved.starts (x : Resolved) : List Position :=
  x.range.start :: x.related.map fun r => r.range.start

theorem Diagnostic.WellFormed.printable {g : Grammar} {d : Diagnostic} (h : WellFormed g fed d) :
    ∀ p ∈ d.starts, p.Printable := by
  intro p hp
  rcases List.mem_cons.1 hp with rfl | hp
  · exact h.start
  · obtain ⟨r, hr, rfl⟩ := List.mem_map.1 hp
    exact h.related r hr

namespace Resolver

/-- A range that covers a block starts at a position that can be printed. -/
theorem Covers.printable {lines : List String} {number : Nat} {diag : Diagnostic} {range : Range}
    (h : Covers lines number diag range) : range.start.Printable := by
  constructor
  · have hmax : Position.restOfLine.toNat = 4294967295 := rfl
    have horder := h.order
    have hstop := range.stop.line.toNat_lt
    rw [UInt32.lt_iff_toNat_lt]
    omega
  · rw [h.startColumn]
    decide

/-- **Results are printed like their diagnostics**: a result shows the positions of its diagnostic,
or it is an orphan in a file that is not too long. -/
theorem printable_of_resolve {r : Resolver} {d d' : Disk} {bases : List Path}
    {batch : List Diagnostic} {results : List Resolved}
    (hbatch : ∀ diag ∈ batch, ∀ p ∈ diag.starts, p.Printable)
    (h : r.resolve d bases batch = (.ok results, d')) {x : Resolved} (hx : x ∈ results)
    (hshort : x.synthetic = true → (orphanLines results).length < UInt32.size) :
    ∀ p ∈ x.starts, p.Printable := by
  obtain ⟨as, has, hresults, -⟩ := resolve_spec h
  have hshows : List.Forall₂ (Shows d bases) batch results := by
    rw [hresults]
    exact layOut_shows has _ _ _
  obtain ⟨diag, hdiag, hs⟩ : ∃ diag ∈ batch, Shows d bases diag x := by
    obtain ⟨i, hi, rfl⟩ := List.getElem_of_mem hx
    have hlen := hshows.length_eq
    exact ⟨batch[i], List.getElem_mem _, hshows.get (by omega) hi⟩
  intro p hp
  rcases List.mem_cons.1 hp with rfl | hp
  · cases hsynthetic : x.synthetic with
    | false =>
      rw [(hs.found hsynthetic).2]
      exact hbatch diag hdiag _ List.mem_cons_self
    | true =>
      -- the orphan is at its block in the file
      have hlayout := layOut_covers as r.orphansPath [] 0
      rw [List.length_nil, ← hresults] at hlayout
      obtain ⟨hcovers, -⟩ := hlayout (hshort hsynthetic)
      have horphan : x ∈ orphans results := List.mem_filter.2 ⟨hx, hsynthetic⟩
      obtain ⟨k, hk⟩ := List.mem_iff_getElem?.1 horphan
      exact (hcovers k x hk).2.2.printable
  · obtain ⟨y, hy, rfl⟩ := List.mem_map.1 hp
    obtain ⟨i, hi, rfl⟩ := List.getElem_of_mem hy
    have hlen := hs.related.length_eq
    obtain ⟨-, hrange, -⟩ := hs.related.get (by omega) hi
    have hstart : diag.related[i].range.start ∈ diag.starts :=
      List.mem_cons_of_mem _ (List.mem_map.2 ⟨_, List.getElem_mem _, rfl⟩)
    exact congrArg Range.start hrange ▸ hbatch diag hdiag _ hstart

end Resolver

namespace Consumer

/-- **What is recorded is well formed.** Whatever lines, bytes and ends of streams a consumer over
any grammars has been given, each diagnostic that it has recorded is well formed as one of some
grammar of its own. So no number that is printed of it overflows when it is counted from one, and
neither does one of its result when the record is resolved; only the file of orphans must not have
more lines than can be counted. -/
theorem recorded_wellFormed (gs : List Grammar) (enabled : Bool) (encoding : Encoding)
    (warnings : List Warning) (xs : List Call) :
    let c := fresh gs enabled encoding warnings
    let record := (c.afterAll xs).recorded
    (∀ d ∈ record, ∃ g ∈ gs, d.WellFormed g (c.Feeds xs)) ∧
      (∀ d ∈ record, ∀ p ∈ d.starts, p.CountsFromOne) ∧
      ∀ (r : Resolver) (disk disk' : Disk) (bases : List Path) (results : List Resolved),
        r.resolve disk bases record = (.ok results, disk') → ∀ x ∈ results,
          (x.synthetic = true → (Resolver.orphanLines results).length < UInt32.size) →
          ∀ p ∈ x.starts, p.CountsFromOne := by
  intro c record
  have hfresh : c.Sound gs (c.Feeds xs) := by
    intro s
    cases s <;> exact Channel.soundOn_ofGrammars gs
  have hrecord : ∀ d ∈ record, WellFormedIn gs (c.Feeds xs) d := by
    intro d hd
    rw [show record = _ from recorded_fresh ..] at hd
    exact sound_passed hfresh (fun _ hl => hl) d (mem_of_mem_firstReports hd)
  have hprintable : ∀ d ∈ record, ∀ p ∈ d.starts, p.Printable := by
    intro d hd
    obtain ⟨g, -, hwell⟩ := hrecord d hd
    exact hwell.printable
  refine ⟨hrecord, fun d hd p hp => (hprintable d hd p hp).countsFromOne, ?_⟩
  intro r disk disk' bases results h x hx hshort p hp
  exact (Resolver.printable_of_resolve hprintable h hx hshort p hp).countsFromOne

/-- A heading with a line that is too large to be read, the largest column that can be read, and a
severity without level. -/
theorem recorded_wellFormed_odd_heading :
    let line := "/a.c:4294967296:4294967295: odd: x".toList
    let c := fresh [.gcc, .cmake] true .utf8 []
    let xs : List Call := [.act .error (.feed line), .finish]
    let d : Diagnostic :=
      { file := "/a.c", range := .restOfLine 0 4294967294, severity := "odd", message := "x",
        source := "GCC" }
    let r : Resolver := ⟨⟨"/t"⟩⟩
    let x : Resolved := ⟨d, ⟨"/a.c"⟩, d.range, [], false⟩
    (c.afterAll xs).recorded = [d] ∧ d.classification = none ∧
      (∃ g ∈ [Grammar.gcc, .cmake], d.WellFormed g (c.Feeds xs)) ∧
      (∀ p ∈ d.starts, p.CountsFromOne) ∧
      r.resolve ⟨[], []⟩ [] [d] = (.ok [x], ⟨[], []⟩) ∧ ∀ p ∈ x.starts, p.CountsFromOne := by
  intro line c xs d r x
  have hrecord : (c.afterAll xs).recorded = [d] := by
    rw [show (c.afterAll xs).recorded = _ from recorded_fresh ..]
    decide +kernel
  have hmem : d ∈ (c.afterAll xs).recorded := by
    rw [hrecord]
    exact List.mem_cons_self
  have hresolve : r.resolve ⟨[], []⟩ [] [d] = (.ok [x], ⟨[], []⟩) := by decide +kernel
  have hagain : r.resolve ⟨[], []⟩ [] (c.afterAll xs).recorded = (.ok [x], ⟨[], []⟩) := by
    rw [hrecord]
    exact hresolve
  obtain ⟨hwell, hstarts, hresults⟩ := recorded_wellFormed [.gcc, .cmake] true .utf8 [] xs
  exact ⟨hrecord, by decide +kernel, hwell d hmem, hstarts d hmem, hresolve,
    hresults r _ _ _ _ hagain x List.mem_cons_self fun h => absurd h (by decide)⟩

end Consumer

end BuildDiagnostics
