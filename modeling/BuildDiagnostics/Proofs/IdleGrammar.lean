import BuildDiagnostics.Proofs.Reset

/-!
# Grammars that claim nothing

A grammar that claims none of the lines of a channel stays as it was at the start, wherever it
stands among the others. It is asked in vain, has nothing to flush, and never claims last; all that
it changes are the places of the grammars behind it.

* `Solo.widen`: the machine with one more grammar at a place.
* `Solo.tryNew_widen`: who claims a line, with the place that the winner has then.
* `Solo.dispatch_widen`, `Solo.run_widen`: the steps and the runs of both machines agree.
* `Consumer.Widens`: two consumers of which one has one more grammar on both streams.
* `Consumer.idle_grammar_changes_nothing`: candidates, record and reports are the same.
-/

namespace BuildDiagnostics

open Channel (Input)

/-- A new matcher of the grammar claims none of the lines. -/
def Grammar.IdleOn (g : Grammar) (xs : List Input) : Prop :=
  ∀ l, Input.line l ∈ xs → ((Matcher.fresh g).step l).1.claimed = false

/-! ## One more grammar -/

namespace Solo

variable {s : Solo} {n : Nat} {g : Grammar} {line : Line}

/-- The place of a grammar when another one has been put in at place `n`. -/
def shift (n i : Nat) : Nat := if i < n then i else i + 1

theorem shift_of_lt {i : Nat} (h : i < n) : shift n i = i := if_pos h

theorem shift_of_le {i : Nat} (h : n ≤ i) : shift n i = i + 1 := if_neg (by omega)

theorem shift_injective (n : Nat) : Function.Injective (shift n) := by
  intro i j h
  unfold shift at h
  split at h <;> split at h <;> omega

theorem shift_ne (n i : Nat) : shift n i ≠ n := by
  unfold shift
  split <;> omega

/-- The machine with one more grammar at place `n`. -/
def widen (n : Nat) (g : Grammar) (s : Solo) : Solo where
  grammars := s.grammars.take n ++ g :: s.grammars.drop n
  active := s.active.map fun x => (shift n x.1, x.2)

theorem places_widen (s : Solo) : (s.widen n g).active.map Prod.fst =
    (s.active.map Prod.fst).map (shift n) := by
  simp only [widen, Option.map_map, Function.comp_def]

theorem getElem?_widen (hn : n ≤ s.grammars.length) (i : Nat) :
    (s.widen n g).grammars[shift n i]? = s.grammars[i]? := by
  have hlength : (s.grammars.take n).length = n := List.length_take_of_le hn
  unfold widen shift
  split
  · rename_i hi
    rw [List.getElem?_append_left (by omega), List.getElem?_take_of_lt hi]
  · rename_i hi
    have hplace : i + 1 - n = (i - n) + 1 := by omega
    rw [List.getElem?_append_right (by omega), hlength, hplace, List.getElem?_cons_succ,
      List.getElem?_drop]
    congr 1
    omega

theorem valid_widen (hs : s.Valid) (hn : n ≤ s.grammars.length) : (s.widen n g).Valid := by
  intro i m h
  obtain ⟨x, hx, hi⟩ := Option.map_eq_some_iff.1 h
  cases hi
  rw [getElem?_widen hn]
  exact hs x.1 x.2 hx

/-! ## Asking new matchers -/

/-- Who claims does not depend on the places. -/
theorem tryNew_map (line : Line) (f : Nat → Nat) (xs : List (Grammar × Nat)) :
    tryNew line (xs.map fun x => (x.1, f x.2)) =
      (tryNew line xs).map fun r => (f r.1, r.2) := by
  induction xs with
  | nil => rfl
  | cons x xs ih =>
    simp only [List.map_cons, tryNew, ih]
    split <;> rfl

/-- A grammar that does not claim is asked in vain. -/
theorem tryNew_skip (hg : ((Matcher.fresh g).step line).1.claimed = false)
    (xs ys : List (Grammar × Nat)) (i : Nat) :
    tryNew line (xs ++ (g, i) :: ys) = tryNew line (xs ++ ys) := by
  induction xs with
  | nil => simp only [List.nil_append, tryNew, hg, Bool.false_eq_true, if_false]
  | cons x xs ih => simp only [List.cons_append, tryNew, ih]

/-- The grammars with their places, after one more has been put in. -/
theorem zipIdx_widen (hn : n ≤ s.grammars.length) : (s.widen n g).grammars.zipIdx =
    ((s.grammars.take n).zipIdx.map fun x => (x.1, shift n x.2)) ++
      (g, n) :: ((s.grammars.drop n).zipIdx n).map fun x => (x.1, shift n x.2) := by
  have hlength : (s.grammars.take n).length = n := List.length_take_of_le hn
  have hfront : (s.grammars.take n).zipIdx.map (fun x => (x.1, shift n x.2)) =
      (s.grammars.take n).zipIdx := by
    refine (List.map_congr_left fun x hx => ?_).trans (List.map_id _)
    have hplace := (List.mem_zipIdx hx).2.1
    rw [hlength, Nat.zero_add] at hplace
    rw [shift_of_lt hplace]
    rfl
  have hback : ((s.grammars.drop n).zipIdx n).map (fun x => (x.1, shift n x.2)) =
      (s.grammars.drop n).zipIdx (n + 1) := by
    rw [List.zipIdx_succ]
    refine List.map_congr_left fun x hx => ?_
    rw [shift_of_le (List.mem_zipIdx hx).1]
  rw [hfront, hback, widen, List.zipIdx_append, hlength, Nat.zero_add, List.zipIdx_cons]

/-- The grammars that are not at work are those from before, at the places that they have now, and
the new one among them. -/
theorem others_widen (hn : n ≤ s.grammars.length) : ∃ xs ys, s.others = xs ++ ys ∧
    (s.widen n g).others =
      (xs.map fun x => (x.1, shift n x.2)) ++ (g, n) :: ys.map fun x => (x.1, shift n x.2) := by
  have hlength : (s.grammars.take n).length = n := List.length_take_of_le hn
  have hold : s.grammars.zipIdx = (s.grammars.take n).zipIdx ++ (s.grammars.drop n).zipIdx n := by
    conv_lhs => rw [← List.take_append_drop n s.grammars, List.zipIdx_append, hlength, Nat.zero_add]
  -- who is at work does not depend on the places
  have hplace : ∀ i, (some (shift n i) != (s.widen n g).active.map Prod.fst) =
      (some i != s.active.map Prod.fst) := by
    intro i
    rw [places_widen]
    cases s.active.map Prod.fst with
    | none => rfl
    | some j => simp [bne, (shift_injective n).eq_iff]
  have hnew : (some n != (s.widen n g).active.map Prod.fst) = true := by
    rw [places_widen]
    cases s.active.map Prod.fst with
    | none => rfl
    | some j => simpa using (shift_ne n j).symm
  refine ⟨_, _, by rw [others, hold, List.filter_append], ?_⟩
  rw [others, zipIdx_widen hn, List.filter_append, List.filter_cons, List.filter_map,
    List.filter_map]
  simp only [Function.comp_def, hplace, hnew, if_true]

/-- **The new grammar leaves the line to the one that would have claimed it without it.** -/
theorem tryNew_widen (hn : n ≤ s.grammars.length)
    (hg : ((Matcher.fresh g).step line).1.claimed = false) :
    tryNew line (s.widen n g).others = (tryNew line s.others).map fun r => (shift n r.1, r.2) := by
  obtain ⟨xs, ys, hold, hnew⟩ := others_widen (s := s) (g := g) hn
  rw [hold, hnew, tryNew_skip hg, ← List.map_append, tryNew_map]

/-! ## Steps and runs -/

/-- **A line that the new grammar does not claim is the same step with it and without it.** -/
theorem dispatch_widen (hn : n ≤ s.grammars.length)
    (hg : ((Matcher.fresh g).step line).1.claimed = false) :
    (s.widen n g).dispatch line = ((s.dispatch line).1, (s.dispatch line).2.widen n g) := by
  have htry := tryNew_widen hn hg
  unfold dispatch
  rw [htry]
  cases ha : s.active with
  | none =>
    have hw : (s.widen n g).active = none := by rw [widen, ha]; rfl
    rw [hw]
    cases tryNew line s.others with
    | none => rfl
    | some r => rfl
  | some x =>
    obtain ⟨i, m⟩ := x
    have hw : (s.widen n g).active = some (shift n i, m) := by rw [widen, ha]; rfl
    rw [hw]
    dsimp only
    split
    · rfl
    · cases tryNew line s.others with
      | none => rfl
      | some r => rfl

/-- The end of the stream is the same step, as the new grammar holds nothing. -/
theorem close_widen (s : Solo) : (s.widen n g).close = (s.close.1, s.close.2.widen n g) := by
  obtain ⟨grammars, active⟩ := s
  cases active <;> rfl

/-- **Runs do not depend on a grammar that claims nothing.** -/
theorem run_widen {xs : List Input} (hn : n ≤ s.grammars.length) (hg : g.IdleOn xs) :
    (s.widen n g).run xs = ((s.run xs).1, (s.run xs).2.widen n g) := by
  induction xs generalizing s with
  | nil => rfl
  | cons x xs ih =>
    have hstep : (s.widen n g).react x = ((s.react x).1, (s.react x).2.widen n g) := by
      cases x with
      | line l => exact dispatch_widen hn (hg l List.mem_cons_self)
      | close => exact close_widen s
    have hn' : n ≤ (s.react x).2.grammars.length := by rw [grammars_react]; exact hn
    have hrest := ih hn' fun l hl => hg l (List.mem_cons_of_mem _ hl)
    simp only [run, hstep, hrest]

end Solo

/-- The second channel is the first one with one more grammar at place `n`, which has nothing in
it. -/
def Channel.Widens (n : Nat) (g : Grammar) (ch wide : Channel) : Prop :=
  ∃ m : Solo, m.Valid ∧ n ≤ m.grammars.length ∧ ch = m.channel ∧ wide = (m.widen n g).channel

theorem Channel.Widens.run {n : Nat} {g : Grammar} {ch wide : Channel} (h : Widens n g ch wide)
    {xs : List Input} (hg : g.IdleOn xs) :
    (wide.run xs).1 = (ch.run xs).1 ∧ Widens n g (ch.run xs).2 (wide.run xs).2 := by
  obtain ⟨m, hm, hn, rfl, rfl⟩ := h
  rw [Solo.run_channel (Solo.valid_widen hm hn), Solo.run_widen hn hg, Solo.run_channel hm]
  have hlength : n ≤ (m.run xs).2.grammars.length := by rwa [Solo.grammars_run]
  exact ⟨rfl, (m.run xs).2, Solo.valid_run hm xs, hlength, rfl, rfl⟩

namespace Consumer

variable {c d : Consumer} {n : Nat} {g : Grammar}

/-- The second consumer is the first one with one more grammar on both streams. -/
structure Widens (n : Nat) (g : Grammar) (c d : Consumer) : Prop where
  channel : ∀ s, Channel.Widens n g (c.channel s) (d.channel s)
  inputs : d.inputs = c.inputs
  ledger : d.ledger = c.ledger

theorem widens_fresh (before behind : List Grammar) (g : Grammar) (enabled : Bool)
    (encoding : Encoding) (warnings : List Warning) :
    Widens before.length g (fresh (before ++ behind) enabled encoding warnings)
      (fresh (before ++ g :: behind) enabled encoding warnings) := by
  have hwide : (Solo.ofGrammars (before ++ behind)).widen before.length g =
      .ofGrammars (before ++ g :: behind) := by
    simp [Solo.widen, Solo.ofGrammars]
  have hchannel : Channel.Widens before.length g (.ofGrammars (before ++ behind))
      (.ofGrammars (before ++ g :: behind)) :=
    ⟨.ofGrammars (before ++ behind), Solo.valid_none rfl, by simp [Solo.ofGrammars], rfl,
      congrArg Solo.channel hwide.symm⟩
  exact ⟨fun s => by cases s <;> exact hchannel, rfl, rfl⟩

/-- **An action is the same with the new grammar and without it.** -/
theorem Widens.perform (h : Widens n g c d) {s : Stream} {a : Action}
    (hg : g.IdleOn (c.inputs a)) :
    d.handed s a = c.handed s a ∧ Widens n g (c.perform s a) (d.perform s a) := by
  obtain ⟨hhanded, hafter⟩ := (h.channel s).run hg
  have hsame : d.handed s a = c.handed s a := by
    unfold handed
    rw [h.inputs, hhanded]
  refine ⟨hsame, fun t => ?_, ?_, ?_⟩
  · rw [channel_perform, channel_perform, h.inputs]
    split
    · exact hafter
    · exact h.channel t
  · rw [inputs_perform, inputs_perform, h.inputs]
  · rw [ledger_perform, ledger_perform, hsame]
    exact ledger_recordAll h.ledger _

theorem Widens.performAll (h : Widens n g c d) {as : List (Stream × Action)}
    (hg : ∀ x ∈ as, g.IdleOn (c.inputs x.2)) :
    d.candidates as = c.candidates as ∧ Widens n g (c.performAll as) (d.performAll as) := by
  induction as generalizing c d with
  | nil => exact ⟨rfl, h⟩
  | cons x as ih =>
    obtain ⟨s, a⟩ := x
    obtain ⟨hhanded, hnext⟩ := h.perform (s := s) (hg (s, a) List.mem_cons_self)
    obtain ⟨hrest, hafter⟩ := ih hnext fun y hy => by
      rw [inputs_perform]
      exact hg y (List.mem_cons_of_mem _ hy)
    exact ⟨by rw [candidates, candidates, hhanded, hrest], hafter⟩

theorem Widens.after (h : Widens n g c d) {x : Call}
    (hg : ∀ y ∈ x.actions, g.IdleOn (c.inputs y.2)) : Widens n g (c.after x) (d.after x) := by
  cases x with
  | act s a => exact (h.performAll hg).2
  | finish => exact (h.performAll hg).2
  | subscribe =>
    have hledger := h.ledger
    simp only [Consumer.ledger, Prod.mk.injEq] at hledger
    obtain ⟨hrecorded, hseen, htold⟩ := hledger
    refine ⟨h.channel, h.inputs, ?_⟩
    simp only [Consumer.after, subscribe, Consumer.ledger, hrecorded, hseen, htold]

theorem Widens.afterAll (h : Widens n g c d) {xs : List Call}
    (hg : ∀ x ∈ xs, ∀ y ∈ x.actions, g.IdleOn (c.inputs y.2)) :
    d.passed xs = c.passed xs ∧ Widens n g (c.afterAll xs) (d.afterAll xs) := by
  induction xs generalizing c d with
  | nil => exact ⟨rfl, h⟩
  | cons x xs ih =>
    have hx := hg x List.mem_cons_self
    have hin : (c.after x).inputs = c.inputs := inputs_afterAll c [x]
    obtain ⟨hrest, hafter⟩ := ih (h.after hx) fun y hy => by
      rw [hin]
      exact hg y (List.mem_cons_of_mem _ hy)
    exact ⟨by rw [passed, passed, (h.performAll hx).1, hrest], hafter⟩

/-- **A grammar that claims nothing changes nothing**, wherever it stands. When a new matcher of it
claims none of the lines that calls bring, a consumer with it and one without it have the same
candidates in the same order, so they record the same diagnostics and tell their subscribers the
same. -/
theorem idle_grammar_changes_nothing (before behind : List Grammar) (g : Grammar) (enabled : Bool)
    (encoding : Encoding) (warnings : List Warning) {xs : List Call}
    (hidle : ∀ s a, .act s a ∈ xs → ∀ l,
      .line l ∈ (fresh (before ++ behind) enabled encoding warnings).inputs a →
        ((Matcher.fresh g).step l).1.claimed = false) :
    let c := fresh (before ++ behind) enabled encoding warnings
    let d := fresh (before ++ g :: behind) enabled encoding warnings
    d.passed xs = c.passed xs ∧
      (d.afterAll xs).recorded = (c.afterAll xs).recorded ∧
      (d.afterAll xs).subscribers = (c.afterAll xs).subscribers := by
  intro c d
  have hlines : ∀ x ∈ xs, ∀ y ∈ x.actions, g.IdleOn (c.inputs y.2) := by
    intro x hx y hy l hl
    cases x with
    | act s a =>
      rw [List.mem_singleton.1 hy] at hl
      exact hidle s a hx l hl
    | finish =>
      have hclose : c.inputs y.2 = [.close] := by
        rcases List.mem_pair.1 hy with rfl | rfl <;> rfl
      rw [hclose] at hl
      cases hl with
      | tail _ h => cases h
    | subscribe => cases hy
  have hstart := widens_fresh before behind g enabled encoding warnings
  obtain ⟨hpassed, hafter⟩ := hstart.afterAll hlines
  have hledger := hafter.ledger
  simp only [ledger, Prod.mk.injEq] at hledger
  exact ⟨hpassed, hledger.1, hledger.2.2⟩

/-- A linker grammar between the two that claim the lines. -/
theorem idle_grammar_changes_nothing_linker :
    let error : Line := "a.c:3:1: error: x".toList
    let heading : Line := "CMake Warning at CMakeLists.txt:14 (message):".toList
    let xs : List Call :=
      [.subscribe, .act .error (.feed error), .act .output (.feed heading), .finish]
    let c := fresh [.gcc, .cmake] true .utf8 []
    let d := fresh [.gcc, .gnuld, .cmake] true .utf8 []
    (∀ s a, .act s a ∈ xs → ∀ l, .line l ∈ c.inputs a →
      ((Matcher.fresh .gnuld).step l).1.claimed = false) ∧
      d.passed xs = c.passed xs ∧
      (d.afterAll xs).recorded = (c.afterAll xs).recorded ∧
      (d.afterAll xs).subscribers = (c.afterAll xs).subscribers := by
  intro error heading xs c d
  have hidle : ∀ s a, .act s a ∈ xs → ∀ l, .line l ∈ c.inputs a →
      ((Matcher.fresh .gnuld).step l).1.claimed = false := by
    intro s a ha l hl
    have hbrought : c.inputs a = [.line error] ∨ c.inputs a = [.line heading] := by
      simp only [xs, List.mem_cons, List.not_mem_nil, or_false, reduceCtorEq, false_or,
        Call.act.injEq] at ha
      rcases ha with ⟨-, rfl⟩ | ⟨-, rfl⟩
      · exact .inl (by decide +kernel)
      · exact .inr (by decide +kernel)
    rcases hbrought with h | h <;> rw [h] at hl <;> cases List.mem_singleton.1 hl <;>
      decide +kernel
  exact ⟨hidle, idle_grammar_changes_nothing [.gcc] [.cmake] .gnuld true .utf8 [] hidle⟩

end Consumer

end BuildDiagnostics
