import BuildDiagnostics.Channel

/-!
# Fresh matchers

A line that a grammar leaves to the others finishes what the grammar holds; the lemmas
`step_of_not_claimed` give the whole step of each grammar on such a line.

A fresh matcher holds no diagnostic (`flush_fresh`) and is still fresh after a line that it leaves
to the other grammars (`step_fresh_of_not_claimed`). Whatever a matcher holds, flushing it makes it
fresh again (`flush_snd`), and a line never changes its grammar (`grammar_step`).
-/

namespace BuildDiagnostics

@[simp]
theorem Verdict.claimed_claim (held : Option Diagnostic) : (Verdict.claim held).claimed = true :=
  rfl

@[simp]
theorem Verdict.finished_claim (held : Option Diagnostic) : (Verdict.claim held).finished = held :=
  rfl

@[simp]
theorem Verdict.claimed_leave (held : Option Diagnostic) : (Verdict.leave held).claimed = false :=
  rfl

@[simp]
theorem Verdict.finished_leave (held : Option Diagnostic) : (Verdict.leave held).finished = held :=
  rfl

@[simp]
theorem Verdict.claimed_ignored : Verdict.ignored.claimed = false := rfl

@[simp]
theorem Verdict.finished_ignored : Verdict.ignored.finished = none := rfl

theorem GnuLd.read_of_not_claimed {line : Line} (h : (GnuLd.read line).claimed = false) :
    GnuLd.read line = .ignored := by
  unfold GnuLd.read at h ⊢
  by_cases hm : GnuLd.isMakeLine line
  · rw [if_pos hm]
  rw [if_neg hm] at h ⊢
  dsimp only at h ⊢
  by_cases hf : GnuLd.inFunctionPattern.accepts (GnuLd.split line).2
  · rw [if_pos hf] at h ⊢
    by_cases ht : (GnuLd.split line).1.isSome
    · rw [if_pos ht] at h; exact absurd h (by simp)
    · rw [if_neg ht]
  · rw [if_neg hf] at h ⊢
    cases hb : GnuLd.body? (GnuLd.split line).1 (GnuLd.split line).2 with
    | none => rfl
    | some d => rw [hb] at h; exact absurd h (by simp)

theorem Msvc.read_of_not_claimed {line : Line} (h : (Msvc.read line).claimed = false) :
    Msvc.read line = .ignored := by
  unfold Msvc.read at h ⊢
  cases hd : Msvc.diagnostic? (Msvc.dropProject line) with
  | none => rfl
  | some d => rw [hd] at h; exact absurd h (by simp)

theorem Diab.read_of_not_claimed {line : Line} (h : (Diab.read line).claimed = false) :
    Diab.read line = .ignored := by
  unfold Diab.read at h ⊢
  cases hd : Diab.pattern.match? line with
  | none => rfl
  | some cs => rw [hd] at h; exact absurd h (by simp)

/-- A block is closed by a line that is left to others. -/
theorem Block.step_of_not_claimed {heading : Option Diagnostic} {body : Line → List Char}
    {held : Block.State} {line : Line} (h : (Block.step heading body held line).1.claimed = false) :
    Block.step heading body held line = (.leave held, none) := by
  unfold Block.step at h ⊢
  cases heading with
  | some d => exact absurd h (by simp)
  | none =>
    dsimp only at h ⊢
    by_cases hb : Text.isBlankLine line
    · rw [if_pos hb]
    rw [if_neg hb] at h ⊢
    cases held with
    | none => rfl
    | some d =>
      by_cases hi : Block.isIndented line
      · simp only [hi, if_true] at h; exact absurd h (by simp)
      · simp only [hi]; rfl

theorem Iar.step_of_not_claimed {held : Block.State} {line : Line}
    (h : (Iar.step held line).1.claimed = false) : Iar.step held line = (.leave held, none) := by
  unfold Iar.step at h ⊢
  by_cases ha : Text.trim line == Iar.abortLine.toList
  · rw [if_pos ha] at h; exact absurd h (by simp)
  · rw [if_neg ha] at h ⊢; exact Block.step_of_not_claimed h

namespace CMake

/-- Whether the line is the first blank one in a row in an open block. -/
def countsBlank (s : State) (line : Line) : Bool :=
  match s with
  | some b => Text.isBlankLine line && !b.afterBlank
  | none => false

/-- A blank line is no status line. -/
theorem not_status_of_blank {line : Line} (h : Text.isBlankLine line = true) :
    "--".toList.isPrefixOf line = false := by
  cases line with
  | nil => rfl
  | cons c line =>
    have hc : Text.isBlank c = true := List.all_eq_true.1 h c List.mem_cons_self
    have hne : ('-' == c) = false := by
      rw [beq_eq_false_iff_ne]
      rintro rfl
      exact absurd hc (by decide)
    change ('-' == c && _) = false
    rw [hne, Bool.false_and]

/-- A line that is left to others ends the open block, unless it is a blank line that is counted. -/
theorem step_of_not_claimed {s : State} {line : Line} (h : (step s line).1.claimed = false) :
    step s line =
      if countsBlank s line then (.ignored, s.map Block.blank)
      else (.leave (s.map Block.done), none) := by
  unfold step at h ⊢
  cases hm : headingPattern.match? line with
  | some cs => rw [hm] at h; exact absurd h (by simp)
  | none =>
    rw [hm] at h
    cases s with
    | none => rfl
    | some b =>
      dsimp only [countsBlank] at h ⊢
      by_cases hb : Text.isBlankLine line
      · by_cases ha : b.afterBlank
        · simp only [not_status_of_blank hb, hb, ha]; rfl
        · simp only [not_status_of_blank hb, hb, ha]; rfl
      by_cases hs : "--".toList.isPrefixOf line
      · simp only [hs, hb, if_true]; rfl
      · simp only [hs, hb] at h; exact absurd h (by simp)

end CMake

namespace Iwyu.State

/-- In an open section every line of the section is claimed. -/
theorem idle_of_body {s : Iwyu.State} {line : Line} (h : (s.body line).1.claimed = false) :
    s = idle := by
  cases s with
  | idle => rfl
  | remove file =>
    unfold body at h
    cases hm : removalPattern.match? line <;> (rw [hm] at h; exact absurd h (by simp))
  | gather g file ls => exact absurd h (by simp [body])

/-- A section is closed by a line that is left to others. -/
theorem step_of_not_claimed {s : Iwyu.State} {line : Line}
    (h : (s.step line).1.claimed = false) : s.step line = (.leave s.report, idle) := by
  unfold step at h ⊢
  cases hs : section? line with
  | some opened => rw [hs] at h; exact absurd h (by simp)
  | none =>
    rw [hs] at h
    by_cases hb : Text.isBlankLine line
    · simp only [hb, if_true]
    by_cases hd : Text.trim line == "---".toList
    · simp only [hb, hd, if_true] at h ⊢
      cases s with
      | idle => rfl
      | _ => exact absurd h (by simp)
    · simp only [hb, hd] at h ⊢
      rw [idle_of_body h]; rfl

end Iwyu.State

namespace Gcc.State

theorem required?_spec {s : State} {line : Line} {r : Verdict × State}
    (h : s.required? line = some r) : r.1 = .claim none ∧ r.2.held = s.held := by
  unfold required? at h
  split at h
  · cases h; exact ⟨rfl, rfl⟩
  · exact absurd h (by simp)

theorem limit?_spec {s : State} {line : Line} {r : Verdict × State}
    (h : s.limit? line = some r) :
    r.1 = .claim none ∧ ∃ d x, s.held = some d ∧ r.2.held = some (addRelated d x) := by
  unfold limit? at h
  split at h
  · rename_i remark d _ hd
    cases hr : d.related with
    | nil => rw [hr] at h; exact absurd h (by simp)
    | cons x xs =>
      rw [hr] at h
      cases h
      exact ⟨rfl, d, _, hd, rfl⟩
  · exact absurd h (by simp)

theorem claimed_heading (s : State) (h : Heading) : (s.heading h).1.claimed = true := by
  unfold heading
  split <;> rfl

theorem other_of_not_claimed {s : State} {line : Line} (h : (s.other line).1.claimed = false) :
    s.other line = s.leave := by
  unfold other at h ⊢
  by_cases hc : contextPattern.accepts line
  · rw [if_pos hc] at h; exact absurd h (by simp [finish])
  by_cases he : (s.held.isSome && echoPattern.accepts line) = true
  · rw [if_neg hc, if_pos he] at h; exact absurd h (by simp)
  rw [if_neg hc, if_neg he] at h ⊢
  by_cases ht : Text.trim line == "compilation terminated.".toList
  · rw [if_pos ht] at h; exact absurd h (by simp [finish])
  · rw [if_neg ht]

/-- A line that is left to others finishes what is held. A backtrace stays. -/
theorem step_of_not_claimed {s : State} {line : Line} (h : (s.step line).1.claimed = false) :
    s.step line = s.leave := by
  unfold step at h ⊢
  by_cases hb : Text.isBlankLine line || GnuLd.isMakeLine line || GnuLd.isLinkerPrefixed line
  · rw [if_pos hb]
  rw [if_neg hb] at h ⊢
  cases hi : s.instantiation? line with
  | some r =>
    rw [hi] at h
    obtain ⟨cs, -, rfl⟩ := Option.map_eq_some_iff.1 hi
    exact absurd h (by simp)
  | none =>
    cases hr : s.required? line with
    | some r =>
      simp only [hi, hr, (required?_spec hr).1] at h
      exact absurd h (by simp)
    | none =>
      cases hl : s.limit? line with
      | some r =>
        simp only [hi, hr, hl, (limit?_spec hl).1] at h
        exact absurd h (by simp)
      | none =>
        simp only [hi, hr, hl] at h ⊢
        cases hh : heading? line with
        | some g =>
          rw [hh] at h
          exact absurd h (by simp [claimed_heading])
        | none =>
          rw [hh] at h
          exact other_of_not_claimed h

end Gcc.State

namespace Matcher

/-- **A fresh matcher holds nothing.** -/
theorem flush_fresh (g : Grammar) : (fresh g).flush = (none, fresh g) := by
  cases g <;> rfl

/-- **Flushing makes a matcher fresh again.** -/
theorem flush_snd (m : Matcher) : m.flush.2 = fresh m.grammar := by
  cases m <;> rfl

theorem grammar_fresh (g : Grammar) : (fresh g).grammar = g := by cases g <;> rfl

theorem grammar_step (m : Matcher) (line : Line) : (m.step line).2.grammar = m.grammar := by
  cases m <;> rfl

/-- **A fresh matcher that leaves a line to others is still fresh**, and had nothing to finish. -/
theorem step_fresh_of_not_claimed {g : Grammar} {line : Line}
    (h : ((fresh g).step line).1.claimed = false) :
    (fresh g).step line = (.ignored, fresh g) := by
  cases g with
  | gcc =>
    have : Gcc.State.step {} line = _ := Gcc.State.step_of_not_claimed h
    simp only [fresh, step, this]; rfl
  | gnuld =>
    have : GnuLd.read line = _ := GnuLd.read_of_not_claimed h
    simp only [fresh, step, this]
  | msvc =>
    have : Msvc.read line = _ := Msvc.read_of_not_claimed h
    simp only [fresh, step, this]
  | ghs =>
    have : GreenHills.step none line = _ := Block.step_of_not_claimed h
    simp only [fresh, step, this]; rfl
  | diab =>
    have : Diab.read line = _ := Diab.read_of_not_claimed h
    simp only [fresh, step, this]
  | iar =>
    have : Iar.step none line = _ := Iar.step_of_not_claimed h
    simp only [fresh, step, this]; rfl
  | iwyu =>
    have : Iwyu.State.step .idle line = _ := Iwyu.State.step_of_not_claimed h
    simp only [fresh, step, this]; rfl
  | cmake =>
    have : CMake.step none line = _ := CMake.step_of_not_claimed h
    simp only [fresh, step, this]; rfl

end Matcher

end BuildDiagnostics
