import BuildDiagnostics.Proofs.ChannelRun
import BuildDiagnostics.Proofs.Fresh
import Mathlib.Data.List.InsertIdx

/-!
# One grammar at a time

A channel keeps a matcher for each of its grammars, but at most one of them has anything in it: the
one that claimed last. `Solo` is the machine that stores nothing else. When its grammar leaves a
line, it tries a new matcher of each other grammar, and when one of them claims, the old one is
flushed and forgotten.

* `Solo.channel`: the channel that a solo machine stands for, all other matchers fresh.
* `Solo.dispatch_channel`, `Solo.close_channel`: the two make the same step.
* `Solo.run_channel`: they hand over the same diagnostics on every run.
* `Channel.one_grammar_at_work`: in every state that a channel can reach, all matchers are fresh but
  the one that claimed last.
-/

namespace BuildDiagnostics

open Channel (Input)

/-- The grammars of a channel, and the one that claimed last: its place and its matcher. -/
structure Solo where
  grammars : List Grammar
  active : Option (Nat × Matcher) := none

namespace Solo

/-- The machine before its first line. -/
def ofGrammars (gs : List Grammar) : Solo := { grammars := gs }

/-- Offers a line to new matchers of grammars, each with its place, until one claims it: the place,
what the line finished, and the matcher. -/
def tryNew (line : Line) : List (Grammar × Nat) → Option (Nat × Option Diagnostic × Matcher)
  | [] => none
  | (g, i) :: rest =>
    let (v, m) := (Matcher.fresh g).step line
    if v.claimed then some (i, v.finished, m) else tryNew line rest

/-- The grammars that are not at work, with their places, in order. -/
def others (s : Solo) : List (Grammar × Nat) :=
  s.grammars.zipIdx.filter fun x => some x.2 != s.active.map Prod.fst

/-- The diagnostics that a line finishes, and the machine after it. -/
def dispatch (s : Solo) (line : Line) : List Diagnostic × Solo :=
  match s.active with
  | none =>
    match tryNew line s.others with
    | none => ([], s)
    | some (i, finished, m) => (finished.toList, { s with active := some (i, m) })
  | some (i, m) =>
    let (v, m') := m.step line
    if v.claimed then (v.finished.toList, { s with active := some (i, m') })
    else
      match tryNew line s.others with
      | none => (v.finished.toList, { s with active := some (i, m') })
      | some (j, finished, n) =>
        (v.finished.toList ++ m'.flush.1.toList ++ finished.toList,
          { s with active := some (j, n) })

/-- The diagnostics that the end of the stream finishes, and the machine after it. -/
def close (s : Solo) : List Diagnostic × Solo :=
  ((s.active.bind fun x => x.2.flush.1).toList, { s with active := none })

/-- The diagnostics that an input finishes, and the machine after it. -/
def react (s : Solo) : Input → List Diagnostic × Solo
  | .line l => s.dispatch l
  | .close => s.close

/-- The diagnostics that a sequence of inputs finishes, in order, and the machine after it. -/
def run (s : Solo) : List Input → List Diagnostic × Solo
  | [] => ([], s)
  | x :: xs => ((s.react x).1 ++ ((s.react x).2.run xs).1, ((s.react x).2.run xs).2)

theorem run_append (s : Solo) (xs ys : List Input) :
    s.run (xs ++ ys) = ((s.run xs).1 ++ ((s.run xs).2.run ys).1, ((s.run xs).2.run ys).2) := by
  induction xs generalizing s with
  | nil => rfl
  | cons x xs ih => simp only [List.cons_append, run, ih, List.append_assoc]

/-- Inputs that finish nothing only change the machine. -/
theorem run_append_of_silent {s s' : Solo} {xs : List Input} (h : s.run xs = ([], s'))
    (ys : List Input) : s.run (xs ++ ys) = s'.run ys := by
  rw [run_append, h]
  rfl

/-- The matchers of the channel: all fresh but the active one. -/
def matchers (s : Solo) : List Matcher :=
  match s.active with
  | none => s.grammars.map .fresh
  | some (i, m) => (s.grammars.map .fresh).set i m

/-- The channel that the machine stands for. -/
def channel (s : Solo) : Channel := ⟨s.matchers, s.active.map Prod.fst⟩

/-- The active matcher is of the grammar at its place. -/
def Valid (s : Solo) : Prop := ∀ i m, s.active = some (i, m) → s.grammars[i]? = some m.grammar

theorem valid_none {s : Solo} (h : s.active = none) : s.Valid := by
  intro i m hm; rw [h] at hm; exact absurd hm (by simp)

/-! ## Fresh matchers in a channel -/

theorem set_of_getElem? {ms : List Matcher} {i : Nat} {m : Matcher} (h : ms[i]? = some m) :
    ms.set i m = ms := by
  obtain ⟨hi, rfl⟩ := List.getElem?_eq_some_iff.1 h
  exact List.set_getElem_self hi

/-- What is held besides one place, the matcher at that place taken out. -/
theorem heldBesides_eq (i : Nat) (ms : List Matcher) :
    Channel.heldBesides i ms = (ms.eraseIdx i).filterMap fun m => m.flush.1 := by
  -- behind the place nothing is left out
  have behind : ∀ (ms : List Matcher) (i n : Nat), i < n → ((ms.zipIdx n).flatMap
      fun x => if x.2 = i then [] else x.1.flush.1.toList) =
        ms.filterMap fun m => m.flush.1 := by
    intro ms
    induction ms with
    | nil => intro i n _; rfl
    | cons m ms ih =>
      intro i n hn
      rw [List.zipIdx_cons, List.flatMap_cons, ih i (n + 1) (by omega), if_neg (by omega)]
      cases hm : m.flush.1 <;> simp [hm]
  -- the places count from `n`, so that the induction can pass the first matcher
  have key : ∀ (ms : List Matcher) (i n : Nat), ((ms.zipIdx n).flatMap
      fun x => if x.2 = n + i then [] else x.1.flush.1.toList) =
        (ms.eraseIdx i).filterMap fun m => m.flush.1 := by
    intro ms
    induction ms with
    | nil => intro i n; rfl
    | cons m ms ih =>
      intro i n
      rw [List.zipIdx_cons, List.flatMap_cons]
      cases i with
      | zero =>
        rw [if_pos (by simp), List.eraseIdx_zero, List.nil_append, behind ms _ _ (by omega)]; rfl
      | succ i =>
        rw [show n + (i + 1) = n + 1 + i by omega, ih, List.eraseIdx_cons_succ,
          if_neg (by omega)]
        cases hm : m.flush.1 <;> simp [hm]
  simpa [Channel.heldBesides] using key ms i 0

theorem filterMap_flush_fresh (gs : List Grammar) :
    ((gs.map Matcher.fresh).filterMap fun m => m.flush.1) = [] := by
  rw [List.filterMap_eq_nil_iff]
  intro x hx
  obtain ⟨g, -, rfl⟩ := List.mem_map.1 hx
  rw [Matcher.flush_fresh]

/-- Among fresh matchers only one that was put there can hold something. -/
theorem filterMap_flush_set {gs : List Grammar} {i : Nat} (hi : i < gs.length) (m : Matcher) :
    (((gs.map .fresh).set i m).filterMap fun m => m.flush.1) = m.flush.1.toList := by
  rw [List.set_eq_take_append_cons_drop, if_pos (by simpa using hi), ← List.map_take,
    ← List.map_drop, List.filterMap_append, List.filterMap_cons, filterMap_flush_fresh,
    filterMap_flush_fresh]
  cases m.flush.1 <;> rfl

/-- Besides the winner only the matcher that was at work before can hold something. -/
theorem heldBesides_set {gs : List Grammar} {i j : Nat} (hi : i < gs.length) (hj : j < gs.length)
    (hij : i ≠ j) (m n : Matcher) :
    Channel.heldBesides j (((gs.map .fresh).set i m).set j n) = m.flush.1.toList := by
  rw [heldBesides_eq, List.eraseIdx_set_eq]
  have hlen := List.length_eraseIdx_of_lt hj
  -- taking the winner out moves the old matcher only if it stood behind
  rcases Nat.lt_or_gt_of_ne hij with h | h
  · rw [List.eraseIdx_set_gt h, List.eraseIdx_map, filterMap_flush_set (by omega)]
  · rw [List.eraseIdx_set_lt h, List.eraseIdx_map, filterMap_flush_set (by omega)]

theorem heldBesides_set_self (gs : List Grammar) (i : Nat) (m : Matcher) :
    Channel.heldBesides i ((gs.map .fresh).set i m) = [] := by
  rw [heldBesides_eq, List.eraseIdx_set_eq, List.eraseIdx_map, filterMap_flush_fresh]

/-- Flushing all but one leaves fresh matchers of the same grammars around it. -/
theorem flushBesides_eq {i : Nat} {ms : List Matcher} {m : Matcher} (h : ms[i]? = some m) :
    Channel.flushBesides i ms = ((ms.map Matcher.grammar).map .fresh).set i m := by
  apply List.ext_getElem?
  intro k
  simp only [Channel.flushBesides, List.getElem?_map, List.getElem?_zipIdx, List.getElem?_set,
    List.length_map]
  obtain ⟨hi, rfl⟩ := List.getElem?_eq_some_iff.1 h
  by_cases hk : i = k
  · subst hk; simp [hi]
  · have hk' : ¬ k = i := fun e => hk e.symm
    cases hm : ms[k]? with
    | none => simp [hk]
    | some x => simp [hk, hk', Matcher.flush_snd]

/-! ## Offering a line to fresh matchers -/

/-- What trying new matchers has come to, in the terms of a channel. -/
def offerOf (ms : List Matcher) : Option (Nat × Option Diagnostic × Matcher) → Channel.Offer
  | none => ⟨[], none, ms⟩
  | some (i, finished, m) => ⟨[], some (i, finished), ms.set i m⟩

/-- **Fresh matchers stay as they are** while they leave a line to others. -/
theorem offer_fresh (line : Line) (ms : List Matcher) (xs : List (Grammar × Nat))
    (hxs : ∀ x ∈ xs, ms[x.2]? = some (.fresh x.1)) :
    Channel.offer line (xs.map Prod.snd) ms = offerOf ms (tryNew line xs) := by
  induction xs with
  | nil => rfl
  | cons x xs ih =>
    obtain ⟨g, i⟩ := x
    have hi : ms[i]? = some (.fresh g) := hxs (g, i) List.mem_cons_self
    have hrest := ih fun y hy => hxs y (List.mem_cons_of_mem _ hy)
    simp only [List.map_cons, Channel.offer, hi, tryNew]
    by_cases hc : ((Matcher.fresh g).step line).1.claimed
    · simp only [hc, if_true, offerOf]
    · have hs := Matcher.step_fresh_of_not_claimed (by simpa using hc)
      simp only [hs, Verdict.claimed_ignored, Verdict.finished_ignored, Bool.false_eq_true,
        if_false, Option.toList_none, List.nil_append, set_of_getElem? hi, hrest]

/-- A new matcher that claims has made one step from a fresh one of its grammar. -/
theorem tryNew_spec {line : Line} {xs : List (Grammar × Nat)} {i : Nat}
    {finished : Option Diagnostic} {m : Matcher} (h : tryNew line xs = some (i, finished, m)) :
    (m.grammar, i) ∈ xs ∧ (Matcher.fresh m.grammar).step line = (.claim finished, m) := by
  induction xs with
  | nil => exact absurd h (by simp [tryNew])
  | cons x xs ih =>
    obtain ⟨g, j⟩ := x
    simp only [tryNew] at h
    by_cases hc : ((Matcher.fresh g).step line).1.claimed
    · simp only [hc, if_true, Option.some.injEq, Prod.mk.injEq] at h
      obtain ⟨rfl, rfl, rfl⟩ := h
      rw [Matcher.grammar_step, Matcher.grammar_fresh]
      refine ⟨List.mem_cons_self, ?_⟩
      ext1
      · exact (congrArg (Verdict.mk · _) hc : _)
      · rfl
    · rw [if_neg hc] at h
      exact ⟨List.mem_cons_of_mem _ (ih h).1, (ih h).2⟩

theorem tryNew_append_of_none {line : Line} {xs : List (Grammar × Nat)}
    (hxs : tryNew line xs = none) (ys : List (Grammar × Nat)) :
    tryNew line (xs ++ ys) = tryNew line ys := by
  induction xs with
  | nil => rfl
  | cons x xs ih =>
    simp only [tryNew] at hxs
    split at hxs
    · cases hxs
    · rename_i hclaim
      simp only [List.cons_append, tryNew, hclaim, ih hxs]
      rfl

/-! ## The two machines make the same steps -/

theorem grammar_set {gs : List Grammar} {ms : List Matcher} {i : Nat} {m : Matcher}
    (hms : ms.map Matcher.grammar = gs) (h : gs[i]? = some m.grammar) :
    (ms.set i m).map Matcher.grammar = gs := by
  rw [List.map_set, hms]
  obtain ⟨hi, hg⟩ := List.getElem?_eq_some_iff.1 h
  rw [← hg]; exact List.set_getElem_self hi

theorem grammar_map_fresh (gs : List Grammar) :
    (gs.map Matcher.fresh).map Matcher.grammar = gs := by
  simp [Function.comp_def, Matcher.grammar_fresh]

/-- A winner is at work, all others are fresh again. -/
theorem flushBesides_set {gs : List Grammar} {ms : List Matcher} {i : Nat} {m : Matcher}
    (hms : ms.map Matcher.grammar = gs) (h : gs[i]? = some m.grammar) :
    Channel.flushBesides i (ms.set i m) = (gs.map .fresh).set i m := by
  have hi : i < ms.length := by
    have := (List.getElem?_eq_some_iff.1 h).1
    rwa [← hms, List.length_map] at this
  rw [flushBesides_eq (List.getElem?_set_self hi), grammar_set hms h]

theorem mem_others {s : Solo} {g : Grammar} {i : Nat} (h : (g, i) ∈ s.others) :
    s.grammars[i]? = some g ∧ some i ≠ s.active.map Prod.fst := by
  obtain ⟨hz, hne⟩ := List.mem_filter.1 h
  exact ⟨by simpa [List.mem_zipIdx_iff_getElem?] using hz, by simpa using hne⟩

theorem tryNew_others {s : Solo} {line : Line} {j : Nat} {finished : Option Diagnostic}
    {n : Matcher} (h : tryNew line s.others = some (j, finished, n)) :
    s.grammars[j]? = some n.grammar ∧ some j ≠ s.active.map Prod.fst :=
  mem_others (tryNew_spec h).1

theorem others_places (s : Solo) : s.others.map Prod.snd =
    (List.range s.grammars.length).filter fun i => some i != s.active.map Prod.fst := by
  rw [List.range_eq_range', ← List.zipIdx_map_snd 0 s.grammars, List.filter_map]
  rfl

theorem length_matchers (s : Solo) : s.matchers.length = s.grammars.length := by
  unfold matchers; split <;> simp

theorem order_channel (s : Solo) :
    s.channel.order = (s.active.map Prod.fst).toList ++ s.others.map Prod.snd := by
  rw [others_places, Channel.order]
  simp only [channel, length_matchers]

theorem offer_idle {s : Solo} (h : s.active = none) (line : Line) :
    Channel.offer line s.channel.order s.matchers =
      offerOf (s.grammars.map .fresh) (tryNew line s.others) := by
  rw [order_channel, h, Option.map_none, Option.toList_none, List.nil_append]
  have hm : s.matchers = s.grammars.map .fresh := by unfold matchers; rw [h]
  rw [hm]
  apply offer_fresh
  intro x hx
  rw [List.getElem?_map, (mem_others hx).1]; rfl

/-- The matcher at work is asked first; the others are fresh. -/
theorem offer_active {s : Solo} {i : Nat} {m : Matcher} (h : s.active = some (i, m))
    (hi : i < s.grammars.length) (line : Line) :
    Channel.offer line s.channel.order s.matchers =
      if (m.step line).1.claimed then
        ⟨[], some (i, (m.step line).1.finished), (s.grammars.map .fresh).set i (m.step line).2⟩
      else
        let next := offerOf ((s.grammars.map .fresh).set i (m.step line).2) (tryNew line s.others)
        { next with found := (m.step line).1.finished.toList ++ next.found } := by
  rw [order_channel, h, Option.map_some, Option.toList_some, List.singleton_append]
  have hm : s.matchers = (s.grammars.map .fresh).set i m := by unfold matchers; rw [h]
  have hget : ((s.grammars.map Matcher.fresh).set i m)[i]? = some m :=
    List.getElem?_set_self (by simpa using hi)
  have hfresh : ∀ x ∈ s.others,
      ((s.grammars.map Matcher.fresh).set i (m.step line).2)[x.2]? = some (.fresh x.1) := by
    intro x hx
    obtain ⟨hg, hne⟩ := mem_others hx
    rw [h] at hne
    rw [List.getElem?_set_ne (fun e => hne (by rw [e]; rfl)), List.getElem?_map, hg]; rfl
  simp only [hm, Channel.offer, hget, List.set_set, offer_fresh line _ _ hfresh]

/-- **A line is the same step for both machines.** -/
theorem dispatch_channel {s : Solo} (hs : s.Valid) (line : Line) :
    s.channel.dispatch line = ((s.dispatch line).1, (s.dispatch line).2.channel) := by
  have hg := grammar_map_fresh s.grammars
  unfold Channel.dispatch dispatch
  cases ha : s.active with
  | none =>
    have ho : Channel.offer line s.channel.order s.channel.matchers = _ := offer_idle ha line
    have hm : s.matchers = s.grammars.map .fresh := by unfold matchers; rw [ha]
    cases ht : tryNew line s.others with
    | none =>
      rw [ho, ht]
      simp only [offerOf, channel, ha, hm]
    | some x =>
      obtain ⟨j, finished, n⟩ := x
      obtain ⟨hn, -⟩ := tryNew_others ht
      rw [ho, ht]
      simp only [offerOf, heldBesides_set_self, flushBesides_set hg hn, channel, matchers,
        List.nil_append, List.append_nil, Option.map_some]
  | some x =>
    obtain ⟨i, m⟩ := x
    have hi := hs i m ha
    have hlt := (List.getElem?_eq_some_iff.1 hi).1
    have hi' : s.grammars[i]? = some (m.step line).2.grammar := by rw [Matcher.grammar_step, hi]
    have ho : Channel.offer line s.channel.order s.channel.matchers = _ := offer_active ha hlt line
    by_cases hc : (m.step line).1.claimed
    · -- the grammar at work keeps the line, and nothing else is held
      rw [ho, if_pos hc]
      simp only [hc, if_true, heldBesides_set_self, flushBesides_set hg hi', channel, matchers,
        List.nil_append, Option.map_some]
    rw [ho, if_neg hc]
    cases ht : tryNew line s.others with
    | none =>
      simp only [hc, offerOf, channel, matchers, ha, List.append_nil, Option.map_some]
      rfl
    | some x =>
      obtain ⟨j, finished, n⟩ := x
      -- another grammar takes over, and what the old one holds is flushed
      obtain ⟨hn, hne⟩ := tryNew_others ht
      have hij : i ≠ j := by
        intro e; subst e; rw [ha] at hne; exact hne rfl
      have hjlt := (List.getElem?_eq_some_iff.1 hn).1
      simp only [hc, offerOf, heldBesides_set hlt hjlt hij,
        flushBesides_set (grammar_set hg hi') hn, channel, matchers, List.append_nil]
      rfl

theorem valid_dispatch {s : Solo} (hs : s.Valid) (line : Line) : (s.dispatch line).2.Valid := by
  unfold dispatch
  cases ha : s.active with
  | none =>
    cases ht : tryNew line s.others with
    | none => exact hs
    | some x =>
      obtain ⟨j, finished, n⟩ := x
      intro i m h
      cases h
      exact (tryNew_others ht).1
  | some x =>
    obtain ⟨i, m⟩ := x
    have hi := hs i m ha
    have hi' : s.grammars[i]? = some (m.step line).2.grammar := by rw [Matcher.grammar_step, hi]
    by_cases hc : (m.step line).1.claimed
    · simp only [hc, if_true]
      intro k l h
      cases h
      exact hi'
    simp only [hc]
    cases ht : tryNew line s.others with
    | none =>
      intro k l h
      cases h
      exact hi'
    | some x =>
      obtain ⟨j, finished, n⟩ := x
      intro k l h
      cases h
      exact (tryNew_others ht).1

/-- **The end of the stream is the same step for both machines.** -/
theorem close_channel {s : Solo} (hs : s.Valid) :
    s.channel.close = (s.close.1, s.close.2.channel) := by
  have hflush : (fun m : Matcher => m.flush.2) = .fresh ∘ Matcher.grammar :=
    funext Matcher.flush_snd
  unfold Channel.close close
  cases ha : s.active with
  | none =>
    simp only [channel, matchers, ha, filterMap_flush_fresh, hflush, ← List.map_map,
      grammar_map_fresh]
    rfl
  | some x =>
    obtain ⟨i, m⟩ := x
    have hi := hs i m ha
    have hlt := (List.getElem?_eq_some_iff.1 hi).1
    simp only [channel, matchers, ha, filterMap_flush_set hlt, hflush, ← List.map_map,
      grammar_set (grammar_map_fresh _) hi]
    rfl

theorem valid_react {s : Solo} (hs : s.Valid) (x : Input) : (s.react x).2.Valid := by
  cases x with
  | line l => exact valid_dispatch hs l
  | close => exact valid_none rfl

theorem react_channel {s : Solo} (hs : s.Valid) (x : Input) :
    s.channel.react x = ((s.react x).1, (s.react x).2.channel) := by
  cases x with
  | line l => exact dispatch_channel hs l
  | close => exact close_channel hs

theorem valid_run {s : Solo} (hs : s.Valid) (xs : List Input) : (s.run xs).2.Valid := by
  induction xs generalizing s with
  | nil => exact hs
  | cons x xs ih => exact ih (valid_react hs x)

/-- **Both machines hand over the same diagnostics on every run**, and end in the same state. -/
theorem run_channel {s : Solo} (hs : s.Valid) (xs : List Input) :
    s.channel.run xs = ((s.run xs).1, (s.run xs).2.channel) := by
  induction xs generalizing s with
  | nil => rfl
  | cons x xs ih => simp only [Channel.run, run, react_channel hs, ih (valid_react hs x)]

/-! ## Reachable channels -/

theorem grammars_dispatch (s : Solo) (line : Line) :
    (s.dispatch line).2.grammars = s.grammars := by
  unfold dispatch
  cases ha : s.active with
  | none => cases tryNew line s.others <;> simp only
  | some x =>
    obtain ⟨i, m⟩ := x
    by_cases hc : (m.step line).1.claimed
    · simp only [hc, if_true]
    · cases tryNew line s.others <;> simp only [hc] <;> rfl

theorem grammars_react (s : Solo) (x : Input) : (s.react x).2.grammars = s.grammars := by
  cases x with
  | line l => exact grammars_dispatch s l
  | close => rfl

theorem grammars_run (s : Solo) (xs : List Input) : (s.run xs).2.grammars = s.grammars := by
  induction xs generalizing s with
  | nil => rfl
  | cons x xs ih => exact (ih (s.react x).2).trans (grammars_react s x)

/-- A matcher that is not at work is fresh. -/
theorem matchers_idle {s : Solo} {i : Nat} {g : Grammar} (hg : s.grammars[i]? = some g)
    (hi : s.active.map Prod.fst ≠ some i) : s.matchers[i]? = some (.fresh g) := by
  have hfresh : (s.grammars.map Matcher.fresh)[i]? = some (.fresh g) := by
    rw [List.getElem?_map, hg]; rfl
  unfold matchers
  cases ha : s.active with
  | none => exact hfresh
  | some x =>
    obtain ⟨j, m⟩ := x
    have hj : j ≠ i := by
      intro e; rw [ha, e] at hi; exact hi rfl
    exact (List.getElem?_set_ne hj).trans hfresh

end Solo

/-- **One grammar is at work at a time.** Whatever lines and ends of stream a channel has taken, all
its matchers are fresh but the one that claimed last, and it has handed over the same diagnostics as
the machine that stores that one only. -/
theorem Channel.one_grammar_at_work (gs : List Grammar) (xs : List Input) :
    let c := ((Channel.ofGrammars gs).run xs).2
    c.matchers.length = gs.length ∧
      (∀ i, c.sticky = some i → i < c.matchers.length) ∧
      (∀ i g, gs[i]? = some g → c.sticky ≠ some i → c.matchers[i]? = some (.fresh g)) ∧
      ((Channel.ofGrammars gs).run xs).1 = ((Solo.ofGrammars gs).run xs).1 := by
  have hs : (Solo.ofGrammars gs).Valid := Solo.valid_none rfl
  have hrun : (Channel.ofGrammars gs).run xs = _ := Solo.run_channel hs xs
  have hgs : ((Solo.ofGrammars gs).run xs).2.grammars = gs := Solo.grammars_run _ xs
  have hv := Solo.valid_run hs xs
  rw [hrun]
  refine ⟨?_, fun i hi => ?_, fun i g hg hi => ?_, rfl⟩
  · exact (Solo.length_matchers _).trans (congrArg List.length hgs)
  · obtain ⟨⟨j, m⟩, ha, rfl⟩ := Option.map_eq_some_iff.1 hi
    rw [show (Solo.channel _).matchers.length = _ from Solo.length_matchers _]
    exact (List.getElem?_eq_some_iff.1 (hv j m ha)).1
  · exact Solo.matchers_idle (by rw [hgs]; exact hg) hi

end BuildDiagnostics
