import BuildDiagnostics.Proofs.WellFormed

/-!
# What a matcher holds

Every place where a grammar builds a diagnostic builds a well-formed one, and what is added to it
later keeps it so. The invariant is on what a matcher holds between lines (`Matcher.Sound`), and a
line without line feeds keeps it.

* `Gcc.State.sound_step`, `CMake.sound_step` and so on: one line, for each grammar that holds
  something.
* `Matcher.sound_step`, `Matcher.wellFormed_flush`: a line and the end of the output for all.
-/

namespace BuildDiagnostics

open Diagnostic (WellFormed)

variable {fed : Line → Prop} {line : Line}

/-! ## What is held -/

/-- What is held for GCC: a diagnostic, and the steps of a backtrace. -/
structure Gcc.State.Sound (fed : Line → Prop) (s : Gcc.State) : Prop where
  held : ∀ d ∈ s.held, WellFormed .gcc fed d
  backtrace : ∀ b ∈ s.backtrace, ∀ r ∈ b.steps, r.range.start.Printable

/-- The file of an open section is a text of one line. -/
def Iwyu.State.Sound : Iwyu.State → Prop
  | .idle => True
  | .gather _ file _ | .remove file => '\n' ∉ file.toList

/-- What the matcher holds is well formed. -/
def Matcher.Sound (fed : Line → Prop) : Matcher → Prop
  | gcc s => s.Sound fed
  | ghs held => ∀ d ∈ held, WellFormed .ghs fed d
  | iar held => ∀ d ∈ held, WellFormed .iar fed d
  | iwyu s => s.Sound
  | cmake s => ∀ b ∈ s, WellFormed .cmake fed b.done
  | gnuld | msvc | diab => True

/-- The answer finishes a well-formed diagnostic at most. -/
def Verdict.Sound (g : Grammar) (fed : Line → Prop) (v : Verdict) : Prop :=
  ∀ d ∈ v.finished, WellFormed g fed d

theorem Verdict.sound_none {g : Grammar} {claimed : Bool} : Sound g fed ⟨claimed, none⟩ :=
  fun _ hd => absurd hd (by simp)

/-! ## One line -/

namespace Gcc

theorem wellFormed_addRelated {d : Diagnostic} (h : WellFormed .gcc fed d) {r : Related}
    (hr : r.range.start.Printable) : WellFormed .gcc fed (addRelated d r) := by
  refine h.extend (extends_addRelated d r) fun x hx => ?_
  rcases List.mem_append.1 hx with hx | hx
  · exact h.related x hx
  · rw [List.mem_singleton.1 hx]
    exact hr

namespace State

variable {s : State}

theorem Sound.drop (h : s.Sound fed) : ({ s with held := none } : State).Sound fed :=
  ⟨fun _ hd => absurd hd (by simp), h.backtrace⟩

theorem sound_required? (h : s.Sound fed) {r : Verdict × State} (hr : s.required? line = some r) :
    r.1.Sound .gcc fed ∧ r.2.Sound fed := by
  unfold required? at hr
  split at hr
  · rename_i b cs hb hcs
    cases hr
    refine ⟨Verdict.sound_none, h.held, ?_⟩
    rintro _ ⟨⟩ x hx
    rcases List.mem_append.1 hx with hx | hx
    · exact h.backtrace b hb x hx
    · rw [List.mem_singleton.1 hx]
      exact printable_zeroBased _ _
  · cases hr

theorem sound_limit? (h : s.Sound fed) {r : Verdict × State} (hr : s.limit? line = some r) :
    r.1.Sound .gcc fed ∧ r.2.Sound fed := by
  unfold limit? at hr
  split at hr
  · rename_i d _ hd
    have hheld := h.held d hd
    split at hr
    · cases hr
    · rename_i first rest hrelated
      cases hr
      refine ⟨Verdict.sound_none, ?_, h.backtrace⟩
      rintro _ ⟨⟩
      -- the remark is about the first related place
      exact wellFormed_addRelated hheld (r := { first with message := _ })
        (hheld.related first (by rw [hrelated]; exact List.mem_cons_self))
  · cases hr

theorem sound_heading (h : s.Sound fed) {head : Heading} (hh : heading? line = some head)
    (hl : '\n' ∉ line) (hfed : fed line) :
    (s.heading head).1.Sound .gcc fed ∧ (s.heading head).2.Sound fed := by
  unfold heading
  split
  · rename_i d _ hd
    refine ⟨Verdict.sound_none, ?_, h.backtrace⟩
    rintro _ ⟨⟩
    exact wellFormed_addRelated (h.held d hd) (printable_zeroBased _ _)
  · refine ⟨h.held, ?_, fun _ hb => absurd hb (by simp)⟩
    rintro _ ⟨⟩
    exact wellFormed_toDiagnostic hh hl hfed h.backtrace

theorem sound_other (h : s.Sound fed) (line : Line) :
    (s.other line).1.Sound .gcc fed ∧ (s.other line).2.Sound fed := by
  unfold other
  split
  · exact ⟨h.held, h.drop⟩
  split
  · exact ⟨Verdict.sound_none, h⟩
  split
  · exact ⟨h.held, h.drop⟩
  · exact ⟨h.held, h.drop⟩

/-- **A line keeps what GCC's grammar holds well formed**, and finishes nothing else. -/
theorem sound_step (h : s.Sound fed) (hl : '\n' ∉ line) (hfed : fed line) :
    (s.step line).1.Sound .gcc fed ∧ (s.step line).2.Sound fed := by
  unfold step
  split
  · exact ⟨h.held, h.drop⟩
  split
  · rename_i r hr
    obtain ⟨cs, -, rfl⟩ := Option.map_eq_some_iff.1 hr
    refine ⟨h.held, fun _ hd => absurd hd (by simp), ?_⟩
    rintro _ ⟨⟩ x hx
    cases hx
  split
  · rename_i r hr
    exact sound_required? h hr
  split
  · rename_i r hr
    exact sound_limit? h hr
  split
  · rename_i head hh
    exact sound_heading h hh hl hfed
  · exact sound_other h line

end State

end Gcc

/-- **A line keeps an open block well formed**, if a heading is. -/
theorem Block.sound_step {g : Grammar} {heading : Option Diagnostic} {held : State}
    (hheading : ∀ d ∈ heading, WellFormed g fed d) (h : ∀ d ∈ held, WellFormed g fed d)
    (body : Line → List Char) (line : Line) :
    (step heading body held line).1.Sound g fed ∧
      ∀ d ∈ (step heading body held line).2, WellFormed g fed d := by
  have hnone : ∀ d ∈ (none : State), WellFormed g fed d := fun _ hd => absurd hd (by simp)
  unfold step
  split
  · exact ⟨h, hheading⟩
  split
  · exact ⟨h, hnone⟩
  split
  · rename_i d
    split
    · refine ⟨Verdict.sound_none, ?_⟩
      rintro _ ⟨⟩
      exact wellFormed_addLine (h d rfl) _
    · exact ⟨h, hnone⟩
  · exact ⟨Verdict.sound_none, hnone⟩

theorem Iar.sound_step {held : Block.State} (h : ∀ d ∈ held, WellFormed .iar fed d)
    (hl : '\n' ∉ line) : (step held line).1.Sound .iar fed ∧
      ∀ d ∈ (step held line).2, WellFormed .iar fed d := by
  unfold step
  split
  · exact ⟨h, fun _ hd => absurd hd (by simp)⟩
  · exact Block.sound_step (wellFormed_heading? hl) h _ _

namespace Iwyu.State

variable {s : State}

theorem wellFormed_report (h : s.Sound) : ∀ d ∈ s.report, WellFormed .iwyu fed d := by
  intro d hd
  unfold report at hd
  split at hd
  · rename_i g _ _ _
    have hseverity : Severity.among Severity.spelled g.severity.toList = true := by
      cases g <;> decide
    cases hd
    exact wellFormed_listing h hseverity _ _
  · cases hd

theorem sound_section? (hl : '\n' ∉ line) {opened : State} (h : section? line = some opened) :
    opened.Sound := by
  unfold section? at h
  split at h
  · cases h
    exact Pattern.not_mem_file ‹_› hl
  split at h
  · cases h
    exact Pattern.not_mem_file ‹_› hl
  · obtain ⟨cs, hcs, rfl⟩ := Option.map_eq_some_iff.1 h
    exact Pattern.not_mem_file hcs hl

theorem sound_body (h : s.Sound) (line : Line) :
    (s.body line).1.Sound .iwyu fed ∧ (s.body line).2.Sound := by
  unfold body
  split
  · exact ⟨Verdict.sound_none, h⟩
  · exact ⟨Verdict.sound_none, h⟩
  · split
    · refine ⟨?_, h⟩
      rintro _ ⟨⟩
      exact wellFormed_removal h _
    · exact ⟨Verdict.sound_none, h⟩

/-- **A line keeps the file of a section a text of one line**, and ends it with its report. -/
theorem sound_step (h : s.Sound) (hl : '\n' ∉ line) :
    (s.step line).1.Sound .iwyu fed ∧ (s.step line).2.Sound := by
  unfold step
  split
  · exact ⟨wellFormed_report h, sound_section? hl ‹_›⟩
  split
  · exact ⟨wellFormed_report h, trivial⟩
  split
  · split
    · exact ⟨Verdict.sound_none, trivial⟩
    · exact ⟨wellFormed_report h, trivial⟩
  · exact sound_body h line

end Iwyu.State

namespace CMake

theorem wellFormed_done_blank {b : Block} (h : WellFormed .cmake fed b.done) :
    WellFormed .cmake fed b.blank.done := by
  refine h.extend (extends_done_blank b) ?_
  have hrelated : b.blank.done.related = b.done.related := by
    unfold Block.blank
    cases hp : b.phase <;> rfl
  rw [hrelated]
  exact h.related

theorem wellFormed_done_line {b : Block} (h : WellFormed .cmake fed b.done) (line : Line) :
    WellFormed .cmake fed (b.line line).done := by
  refine h.extend (extends_done_line b line) fun r hr => ?_
  unfold Block.line at hr
  dsimp only at hr
  split at hr
  · split at hr
    · exact h.related r hr
    · exact h.related r hr
  · split at hr
    · rcases List.mem_append.1 hr with hr | hr
      · exact h.related r hr
      · rw [List.mem_singleton.1 hr]
        exact printable_line _
    · exact h.related r hr

/-- **A line keeps an open block well formed.** -/
theorem sound_step {s : State} (h : ∀ b ∈ s, WellFormed .cmake fed b.done) (hl : '\n' ∉ line) :
    (step s line).1.Sound .cmake fed ∧ ∀ b ∈ (step s line).2, WellFormed .cmake fed b.done := by
  have hdone : ∀ d ∈ s.map Block.done, WellFormed .cmake fed d := by
    intro d hd
    obtain ⟨b, hb, rfl⟩ := Option.map_eq_some_iff.1 hd
    exact h b hb
  have hnone : ∀ b ∈ (none : State), WellFormed .cmake fed b.done := fun _ hb => absurd hb (by simp)
  unfold step
  split
  · rename_i cs hcs
    refine ⟨hdone, ?_⟩
    rintro _ ⟨⟩
    exact (wellFormed_ofCaptures hcs hl)
  split
  · exact ⟨Verdict.sound_none, hnone⟩
  rename_i b
  split
  · exact ⟨hdone, hnone⟩
  split
  · split
    · exact ⟨hdone, hnone⟩
    · refine ⟨Verdict.sound_none, ?_⟩
      rintro _ ⟨⟩
      exact wellFormed_done_blank (h b rfl)
  · refine ⟨Verdict.sound_none, ?_⟩
    rintro _ ⟨⟩
    exact wellFormed_done_line (h b rfl) line

end CMake

namespace Matcher

variable {m : Matcher}

theorem sound_fresh (g : Grammar) : (fresh g).Sound fed := by
  cases g with
  | gcc => exact ⟨fun _ hd => absurd hd (by simp), fun _ hb => absurd hb (by simp)⟩
  | gnuld | msvc | diab | iwyu => trivial
  | ghs | iar | cmake => exact fun _ hd => absurd hd (by simp)

/-- **A line keeps what a matcher holds well formed**, and what it finishes is. -/
theorem sound_step (h : m.Sound fed) (hl : '\n' ∉ line) (hfed : fed line) :
    (m.step line).1.Sound m.grammar fed ∧ (m.step line).2.Sound fed := by
  cases m with
  | gcc s => exact Gcc.State.sound_step h hl hfed
  | gnuld => exact ⟨GnuLd.wellFormed_read hl, trivial⟩
  | msvc => exact ⟨Msvc.wellFormed_read hl, trivial⟩
  | ghs held => exact Block.sound_step (GreenHills.wellFormed_heading? hl) h _ _
  | diab => exact ⟨Diab.wellFormed_read hl, trivial⟩
  | iar held => exact Iar.sound_step h hl
  | iwyu s => exact Iwyu.State.sound_step h hl
  | cmake s => exact CMake.sound_step h hl

/-- **What the end of the output finishes is well formed.** -/
theorem wellFormed_flush (h : m.Sound fed) : ∀ d ∈ m.flush.1, WellFormed m.grammar fed d := by
  cases m with
  | gcc s => exact h.held
  | gnuld | msvc | diab => exact fun _ hd => absurd hd (by simp [flush])
  | ghs held => exact h
  | iar held => exact h
  | iwyu s => exact Iwyu.State.wellFormed_report h
  | cmake s =>
    intro d hd
    obtain ⟨b, hb, rfl⟩ := Option.map_eq_some_iff.1 hd
    exact h b hb

end Matcher

end BuildDiagnostics
