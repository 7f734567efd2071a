import BuildDiagnostics.Proofs.Fresh

/-!
# Notes and the lines before them

A note belongs to the diagnostic that GCC holds, as long as nothing has finished that. Echoed source
lines, further notes and the lines of a template backtrace keep it; a heading or a boundary finishes
it, and so does a line that says where the next heading comes from.

* `State.step_of_keeps`, `State.step_of_not_keeps`: a line adds to what is held, or finishes it.
* `State.run_of_undisturbed`, `State.run_of_not_undisturbed`: so do the lines of a run.
* `State.run_contexts`: context lines and echoes in closed form.
* `State.note_joins_iff_undisturbed`: when a note is added to what is held.
* `State.note_lost_behind_include`: an included file comes between a diagnostic and its note.
-/

namespace BuildDiagnostics.Gcc

open Text Pattern

/-- The diagnostic with more related places. -/
def addAll (d : Diagnostic) (rs : List Related) : Diagnostic :=
  { d with related := d.related ++ rs }

theorem addAll_nil (d : Diagnostic) : addAll d [] = d := by
  unfold addAll
  rw [List.append_nil]

theorem addAll_addAll (d : Diagnostic) (rs rs' : List Related) :
    addAll (addAll d rs) rs' = addAll d (rs ++ rs') := by
  simp only [addAll, List.append_assoc]

/-- The line is neither a boundary nor part of a template backtrace. -/
structure Ordinary (line : Line) : Prop where
  bounded : (isBlankLine line || GnuLd.isMakeLine line || GnuLd.isLinkerPrefixed line) = false
  instantiation : instantiationPattern.match? line = none
  required : requiredPattern.match? line = none
  limit : limitPattern.find? line = none

/-- The line is a note with the given heading. -/
structure IsNote (line : Line) (h : Heading) : Prop extends Ordinary line where
  heading : heading? line = some h
  note : h.isNote = true

/-- The line says where the next heading comes from, or echoes source text. -/
structure IsContext (line : Line) : Prop extends Ordinary line where
  heading : heading? line = none
  context : contextPattern.accepts line = true ∨ echoPattern.accepts line = true

namespace State

variable {s : State} {d : Diagnostic} {h : Heading} {line note : Line} {lines : List Line}

/-! ## One line -/

/-- Whether a line keeps what is held, and does not finish it. -/
def keeps (s : State) (line : Line) : Bool :=
  !(isBlankLine line || GnuLd.isMakeLine line || GnuLd.isLinkerPrefixed line) &&
    (s.instantiation? line).isNone &&
    ((s.required? line).isSome || (s.limit? line).isSome ||
      match heading? line with
      | some h => h.isNote
      | none => !contextPattern.accepts line && echoPattern.accepts line)

theorem heading_of_note (hd : s.held = some d) (hn : h.isNote = true) :
    s.heading h = (.claim none, { s with held := some (addRelated d h.toRelated) }) := by
  unfold heading
  rw [hn, hd]

theorem heading_of_not_note (s : State) (hn : h.isNote = false) :
    (s.heading h).1 = .claim s.held := by
  unfold heading
  rw [hn]

theorem other_of_context (s : State) (hc : contextPattern.accepts line = true) :
    s.other line = s.finish := by
  rw [other, if_pos hc]

theorem other_of_echo (hd : s.held = some d) (hc : contextPattern.accepts line = false)
    (he : echoPattern.accepts line = true) : s.other line = (.claim none, s) := by
  unfold other
  rw [hc, if_neg Bool.false_ne_true, hd, he]
  rfl

theorem finished_other_of_not_echo (s : State) (he : echoPattern.accepts line = false) :
    (s.other line).1.finished = s.held := by
  unfold other
  rw [he, Bool.and_false]
  simp only [Bool.false_eq_true, if_false]
  split
  · rfl
  · split <;> rfl

/-- **A line that keeps what is held** can only add places to it. -/
theorem step_of_keeps (hd : s.held = some d) (h : s.keeps line = true) :
    (s.step line).1 = .claim none ∧ ∃ rs, (s.step line).2.held = some (addAll d rs) := by
  simp only [keeps, Bool.and_eq_true, Bool.not_eq_true', Option.isNone_iff_eq_none] at h
  obtain ⟨⟨hbound, hroot⟩, hkeeps⟩ := h
  unfold step
  rw [hbound, hroot]
  simp only [Bool.false_eq_true, if_false]
  cases hr : s.required? line with
  | some r =>
    obtain ⟨hv, hheld⟩ := required?_spec hr
    exact ⟨hv, [], by rw [addAll_nil]; exact hheld.trans hd⟩
  | none =>
    cases hl : s.limit? line with
    | some r =>
      obtain ⟨hv, e, place, he, hheld⟩ := limit?_spec hl
      cases hd.symm.trans he
      exact ⟨hv, [place], hheld⟩
    | none =>
      rw [hr, hl] at hkeeps
      cases hh : heading? line with
      | some h =>
        rw [hh] at hkeeps
        have hnote : h.isNote = true := by simpa using hkeeps
        simp only [heading_of_note hd hnote]
        exact ⟨trivial, [h.toRelated], rfl⟩
      | none =>
        rw [hh] at hkeeps
        obtain ⟨hcontext, hecho⟩ : contextPattern.accepts line = false ∧
            echoPattern.accepts line = true := by simpa using hkeeps
        simp only [other_of_echo hd hcontext hecho]
        exact ⟨trivial, [], by rw [addAll_nil]; exact hd⟩

/-- **Any other line finishes it** as it is. -/
theorem step_of_not_keeps (hd : s.held = some d) (h : s.keeps line = false) :
    (s.step line).1.finished = some d := by
  unfold keeps at h
  unfold step
  cases hbound : isBlankLine line || GnuLd.isMakeLine line || GnuLd.isLinkerPrefixed line with
  | true => exact hd
  | false =>
    simp only [Bool.false_eq_true, if_false]
    cases hroot : s.instantiation? line with
    | some r =>
      obtain ⟨cs, -, rfl⟩ := Option.map_eq_some_iff.1 hroot
      exact hd
    | none =>
      rw [hbound, hroot] at h
      cases hr : s.required? line with
      | some r => rw [hr] at h; cases h
      | none =>
        cases hl : s.limit? line with
        | some r => rw [hr, hl] at h; cases h
        | none =>
          rw [hr, hl] at h
          cases hh : heading? line with
          | some g =>
            rw [hh] at h
            have hnote : g.isNote = false := by simpa using h
            simp only [heading_of_not_note s hnote]
            exact hd
          | none =>
            rw [hh] at h
            simp only
            cases hcontext : contextPattern.accepts line with
            | true => rw [other_of_context s hcontext]; exact hd
            | false =>
              rw [hcontext] at h
              rw [finished_other_of_not_echo s (by simpa using h)]
              exact hd

/-! ## Runs -/

/-- What lines finish, in order, and the state after them. -/
def run (s : State) : List Line → List Diagnostic × State
  | [] => ([], s)
  | line :: rest =>
    ((s.step line).1.finished.toList ++ ((s.step line).2.run rest).1, ((s.step line).2.run rest).2)

theorem run_append (s : State) (xs ys : List Line) :
    s.run (xs ++ ys) = ((s.run xs).1 ++ ((s.run xs).2.run ys).1, ((s.run xs).2.run ys).2) := by
  induction xs generalizing s with
  | nil => rfl
  | cons x xs ih => simp only [List.cons_append, run, ih, List.append_assoc]

theorem run_singleton (s : State) (line : Line) :
    s.run [line] = ((s.step line).1.finished.toList, (s.step line).2) := by
  simp only [run, List.append_nil]

/-- Whether each line keeps what is held when it comes. -/
def undisturbed (s : State) : List Line → Bool
  | [] => true
  | line :: rest => s.keeps line && (s.step line).2.undisturbed rest

/-- **Undisturbed lines finish nothing** and only add places to what is held. -/
theorem run_of_undisturbed (hd : s.held = some d) (h : s.undisturbed lines = true) :
    (s.run lines).1 = [] ∧ ∃ rs, (s.run lines).2.held = some (addAll d rs) := by
  induction lines generalizing s d with
  | nil => exact ⟨rfl, [], by rw [addAll_nil]; exact hd⟩
  | cons line rest ih =>
    obtain ⟨hline, hrest⟩ := Bool.and_eq_true_iff.1 h
    obtain ⟨hv, rs, hheld⟩ := step_of_keeps hd hline
    obtain ⟨hnone, rs', hheld'⟩ := ih hheld hrest
    refine ⟨by rw [run, hv, hnone]; rfl, rs ++ rs', ?_⟩
    rw [← addAll_addAll]
    exact hheld'

/-- **Other lines finish what was held**, with the places added until then. -/
theorem run_of_not_undisturbed (hd : s.held = some d) (h : s.undisturbed lines = false) :
    ∃ rs later, (s.run lines).1 = addAll d rs :: later := by
  induction lines generalizing s d with
  | nil => cases h
  | cons line rest ih =>
    cases hline : s.keeps line with
    | true =>
      rw [undisturbed, hline, Bool.true_and] at h
      obtain ⟨hv, rs, hheld⟩ := step_of_keeps hd hline
      obtain ⟨rs', later, hfirst⟩ := ih hheld h
      rw [addAll_addAll] at hfirst
      exact ⟨rs ++ rs', later, by rw [run, hv, hfirst]; rfl⟩
    | false =>
      refine ⟨[], ((s.step line).2.run rest).1, ?_⟩
      rw [run, step_of_not_keeps hd hline, addAll_nil]
      rfl

/-! ## Context lines -/

theorem step_of_ordinary (s : State) (h : Ordinary line) :
    s.step line = match heading? line with
      | some h => s.heading h
      | none => s.other line := by
  have hroot : s.instantiation? line = none := by rw [instantiation?, h.instantiation]; rfl
  have hrequired : s.required? line = none := by
    unfold required?
    rw [h.required]
    split
    · rename_i heq; cases heq
    · rfl
  have hlimit : s.limit? line = none := by rw [limit?, h.limit]
  rw [step, h.bounded, hroot, hrequired, hlimit]
  rfl

theorem step_of_isNote (s : State) (hn : IsNote note h) : s.step note = s.heading h := by
  rw [step_of_ordinary s hn.toOrdinary, hn.heading]

theorem step_of_isContext (s : State) (hc : IsContext line) : s.step line = s.other line := by
  rw [step_of_ordinary s hc.toOrdinary, hc.heading]

/-- Behind a context line nothing is held until the next heading. -/
theorem run_contexts_of_none (hd : s.held = none) (hls : ∀ l ∈ lines, IsContext l) :
    s.run lines = ([], s) := by
  induction lines with
  | nil => rfl
  | cons line rest ih =>
    have hsame : ({ s with held := none } : State) = s := by rw [← hd]
    have hstep : (s.step line).1.finished = none ∧ (s.step line).2 = s := by
      rw [step_of_isContext s (hls line List.mem_cons_self)]
      unfold other
      rw [hd]
      simp only [Option.isSome_none, Bool.false_and, Bool.false_eq_true, if_false]
      split
      · exact ⟨hd, hsame⟩
      · split <;> exact ⟨hd, hsame⟩
    rw [run, hstep.1, hstep.2, ih fun l hl => hls l (List.mem_cons_of_mem _ hl)]
    rfl

/-- **Context lines and echoes in closed form**: the first context line finishes what is held. -/
theorem run_contexts (hd : s.held = some d) (hls : ∀ l ∈ lines, IsContext l) :
    s.run lines =
      if lines.any contextPattern.accepts then ([d], { s with held := none }) else ([], s) := by
  induction lines with
  | nil => rfl
  | cons line rest ih =>
    have hline := hls line List.mem_cons_self
    have hrest : ∀ l ∈ rest, IsContext l := fun l hl => hls l (List.mem_cons_of_mem _ hl)
    rw [run, step_of_isContext s hline, List.any_cons]
    cases hc : contextPattern.accepts line with
    | true =>
      have hnone : ({ s with held := none } : State).run rest = _ := run_contexts_of_none rfl hrest
      rw [other_of_context s hc, finish, hd]
      dsimp only
      rw [hnone]
      rfl
    | false =>
      have hecho : echoPattern.accepts line = true := by
        have := hline.context
        rwa [hc, or_iff_right Bool.false_ne_true] at this
      rw [other_of_echo hd hc hecho]
      exact ih hrest

/-! ## Notes -/

theorem step_note (hn : IsNote note h) (hd : s.held = some d) :
    s.step note = (.claim none, { s with held := some (addRelated d h.toRelated) }) := by
  rw [step_of_isNote s hn, heading_of_note hd hn.note]

theorem step_note_of_none (hn : IsNote note h) (hd : s.held = none) :
    s.step note =
      (.claim none, { held := some (h.toDiagnostic s.backtrace), backtrace := none }) := by
  rw [step_of_isNote s hn, heading, hn.note, hd]

/-- **When a note is added to what is held.** Lines before the note that keep what is held finish
nothing, and the note becomes its last related place; nothing else of it changes. Otherwise it has
been finished without the note. Among context lines and echoes it is the context lines that finish
it, and then the note is held as a diagnostic of its own. -/
theorem note_joins_iff_undisturbed (hd : s.held = some d) (hn : IsNote note h) :
    (∀ lines, s.undisturbed lines = true →
      (s.run (lines ++ [note])).1 = [] ∧
        ∃ rs, (s.run (lines ++ [note])).2.held = some (addAll d (rs ++ [h.toRelated]))) ∧
    (∀ lines, s.undisturbed lines = false →
      ∃ rs later, (s.run lines).1 = addAll d rs :: later) ∧
    ∀ lines, (∀ l ∈ lines, IsContext l) →
      s.undisturbed lines = !lines.any contextPattern.accepts ∧
      s.run (lines ++ [note]) =
        if lines.any contextPattern.accepts then
          ([d], { held := some (h.toDiagnostic s.backtrace), backtrace := none })
        else ([], { s with held := some (addRelated d h.toRelated) }) := by
  refine ⟨fun lines hls => ?_, fun lines => run_of_not_undisturbed hd, fun lines hls => ⟨?_, ?_⟩⟩
  · obtain ⟨hnone, rs, hheld⟩ := run_of_undisturbed hd hls
    rw [run_append, run_singleton, step_note hn hheld, hnone]
    refine ⟨rfl, rs, ?_⟩
    rw [← addAll_addAll]
    rfl
  · have hrun := run_contexts hd hls
    cases hu : s.undisturbed lines with
    | true =>
      rw [Prod.ext_iff, (run_of_undisturbed hd hu).1] at hrun
      cases hany : lines.any contextPattern.accepts with
      | true => rw [hany] at hrun; cases hrun.1
      | false => rfl
    | false =>
      obtain ⟨rs, later, hfirst⟩ := run_of_not_undisturbed hd hu
      rw [Prod.ext_iff, hfirst] at hrun
      cases hany : lines.any contextPattern.accepts with
      | true => rfl
      | false => rw [hany] at hrun; cases hrun.1
  · rw [run_append, run_singleton, run_contexts hd hls]
    split
    · rw [step_note_of_none hn rfl]
      rfl
    · rw [step_note hn hd]
      rfl

/-- An error of which GCC echoes the source line before its note. -/
theorem note_joins_iff_undisturbed_echo :
    let d : Diagnostic :=
      { source := "GCC", file := "a.c", range := .restOfLine 4 0, severity := "error"
        message := "x" }
    let s : State := { held := some d }
    let lines := ["    5 |   y = 1;".toList, "      |   ^".toList]
    let note := "c.h:3:1: note: y".toList
    (∀ l ∈ lines, IsContext l) ∧ (∃ h, IsNote note h) ∧
      s.run (lines ++ [note]) =
        ([], { held := some (addRelated d ⟨"c.h", .restOfLine 2 0, "y"⟩) }) := by
  intro d s lines note
  have hls : ∀ l ∈ lines, IsContext l := by
    intro l hl
    simp only [lines, List.mem_cons, List.not_mem_nil, or_false] at hl
    rcases hl with rfl | rfl
    all_goals
      exact ⟨⟨by decide +kernel, by decide +kernel, by decide +kernel, by decide +kernel⟩,
        Option.isNone_iff_eq_none.1 (by decide +kernel), .inr (by decide +kernel)⟩
  have hheading : (heading? note).map (fun h => (h.isNote, h.toRelated)) =
      some (true, ⟨"c.h", .restOfLine 2 0, "y"⟩) := by decide +kernel
  obtain ⟨h, hh, hnote⟩ := Option.map_eq_some_iff.1 hheading
  have hisNote : h.isNote = true := congrArg Prod.fst hnote
  have hrelated : h.toRelated = ⟨"c.h", .restOfLine 2 0, "y"⟩ := congrArg Prod.snd hnote
  have hn : IsNote note h :=
    ⟨⟨by decide +kernel, by decide +kernel, by decide +kernel, by decide +kernel⟩, hh, hisNote⟩
  have hrun := ((note_joins_iff_undisturbed (s := s) (d := d) rfl hn).2.2 lines hls).2
  have hany : lines.any contextPattern.accepts = false := by decide +kernel
  rw [hany, hrelated] at hrun
  exact ⟨hls, ⟨h, hn⟩, hrun⟩

/-- **A note behind the line of an included file is lost** to the diagnostic before that line, which
is finished without it. -/
theorem note_lost_behind_include :
    let d : Diagnostic :=
      { source := "GCC", file := "a.c", range := .restOfLine 4 0, severity := "error"
        message := "x" }
    let s := (({} : State).run ["a.c:5:1: error: x".toList]).2
    let after := s.run ["In file included from b.h:2:".toList, "c.h:3:1: note: y".toList]
    s.held = some d ∧ after.1 = [d] ∧
      after.2.held = some
        { source := "GCC", file := "c.h", range := .restOfLine 2 0, severity := "note"
          message := "y" } :=
  ⟨by decide +kernel, by decide +kernel, by decide +kernel⟩

end State

end BuildDiagnostics.Gcc
