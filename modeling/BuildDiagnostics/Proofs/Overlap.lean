import BuildDiagnostics.Proofs.Emission
import BuildDiagnostics.Proofs.LinkerPlace
import BuildDiagnostics.Proofs.Reset

/-!
# Lines that two grammars claim

A channel asks the grammar that claimed last before the others. Where the grammar of GCC and that of
the linkers both claim a line, the lines before it decide which of the two records it.

There are such lines: whatever names a place as linkers do, without a severity that the linkers'
grammar knows, and has the shape of a compiler's line. Among the headings without a column these are
the ones with a severity that is known to GCC's grammar and not to that of the linkers.

* `Gcc.State.claimed_new_iff`: what a new matcher of GCC's grammar claims.
* `Gcc.State.claimed_of_speaks`: it claims that in every state.
* `bothClaim_iff`: the lines that both grammars claim.
* `grammars_overlap`: which lines these are, and that either grammar may record each of them.
* `record_depends_on_last_claim`: one line, recorded as a compiler's or as a linker's.
-/

namespace BuildDiagnostics

open Text Pattern
open Channel (Input)

variable {line : Line}

/-! ## What GCC's grammar claims -/

namespace Gcc

/-- The line has the shape of a compiler's. -/
def Speaks (line : Line) : Prop :=
  instantiationPattern.accepts line = true ∨ (heading? line).isSome = true ∨
    contextPattern.accepts line = true

/-- The line that GCC ends with after a fatal error. -/
def terminationLine : List Char := "compilation terminated.".toList

namespace State

/-- What has a compiler's shape is claimed in every state, whatever is held. -/
theorem claimed_of_speaks (s : State) (hours : (isBlankLine line || GnuLd.isMakeLine line ||
    GnuLd.isLinkerPrefixed line) = false) (h : Speaks line) : (s.step line).1.claimed = true := by
  rw [step, hours, if_neg Bool.false_ne_true]
  -- what is asked before a heading claims the line as well
  cases hi : s.instantiation? line with
  | some r =>
    obtain ⟨cs, -, rfl⟩ := Option.map_eq_some_iff.1 hi
    rfl
  | none =>
    cases hr : s.required? line with
    | some r =>
      simp only [(required?_spec hr).1]
      rfl
    | none =>
      cases hl : s.limit? line with
      | some r =>
        simp only [(limit?_spec hl).1]
        rfl
      | none =>
        cases hh : heading? line with
        | some g => exact claimed_heading s g
        | none =>
          rcases h with h | h | h
          · rw [instantiation?, Option.map_eq_none_iff] at hi
            rw [← isSome_match?, hi] at h
            cases h
          · rw [hh] at h
            cases h
          · simp only [other, h, if_true]
            rfl

theorem required?_new (line : Line) : ({} : State).required? line = none := rfl

theorem limit?_new (line : Line) : ({} : State).limit? line = none := by
  unfold limit?
  split
  · rename_i hheld
    cases hheld
  · rfl

/-- **What a new matcher claims**: the lines of a compiler's shape, and the one that ends them. -/
theorem claimed_new_iff (line : Line) : (({} : State).step line).1.claimed = true ↔
    (isBlankLine line || GnuLd.isMakeLine line || GnuLd.isLinkerPrefixed line) = false ∧
      (Speaks line ∨ trim line = terminationLine) := by
  cases hours : isBlankLine line || GnuLd.isMakeLine line || GnuLd.isLinkerPrefixed line with
  | true =>
    rw [step, if_pos hours]
    simp [leave]
  | false =>
    by_cases hspeaks : Speaks line
    · simp [claimed_of_speaks {} hours hspeaks, hspeaks]
    · obtain ⟨hinstantiation, hheading, hcontext⟩ : instantiationPattern.accepts line = false ∧
          heading? line = none ∧ contextPattern.accepts line = false := by
        simpa [Speaks, not_or] using hspeaks
      have hnone : ({} : State).instantiation? line = none := by
        rwa [instantiation?, Option.map_eq_none_iff, ← Option.isNone_iff_eq_none,
          ← Option.isSome_eq_false_iff, isSome_match?]
      rw [step, hours, if_neg Bool.false_ne_true, hnone, required?_new, limit?_new, hheading]
      have hother : (({} : State).other line).1.claimed = (trim line == terminationLine) := by
        rw [other, hcontext]
        change (if (trim line == terminationLine) = true then finish {} else leave {}).1.claimed = _
        cases trim line == terminationLine <;> rfl
      simp only [hother, beq_iff_eq, hspeaks, false_or, true_and]

end State

end Gcc

/-! ## Lines that both grammars claim -/

/-- A new matcher of GCC's grammar claims the line, and one of the linkers' grammar does. -/
def BothClaim (line : Line) : Prop :=
  ((Matcher.fresh .gcc).step line).1.claimed = true ∧
    ((Matcher.fresh .gnuld).step line).1.claimed = true

theorem GnuLd.NamesPlace.colon_mem (h : NamesPlace line) : ':' ∈ line := by
  obtain ⟨c, hc, hcolon⟩ : ∃ c ∈ line, (c == ':') = true := by
    rcases h with hsection | ⟨cs, hlocated, -⟩
    · obtain ⟨_, _, hr⟩ := accepts_iff.1 hsection
      exact exists_mem_of_takes (by decide) hr
    · obtain ⟨_, hr⟩ := match?_reads hlocated
      exact exists_mem_of_takes (by decide) hr
  rwa [← eq_of_beq hcolon]

/-- A line with a colon is not blank, and not the line that ends a compiler's. -/
theorem not_blank_of_colon (h : ':' ∈ line) :
    isBlankLine line = false ∧ trim line ≠ Gcc.terminationLine := by
  constructor
  · rw [← Bool.not_eq_true]
    intro hblank
    exact absurd (List.all_eq_true.1 hblank _ h) (by decide)
  · intro hend
    have hcolon := mem_trim h (by decide)
    rw [hend] at hcolon
    exact absurd hcolon (by decide)

/-- **The lines that both claim** have a compiler's shape and name a place as linkers do. -/
theorem bothClaim_iff (line : Line) : BothClaim line ↔
    GnuLd.isMakeLine line = false ∧ GnuLd.isLinkerPrefixed line = false ∧
      GnuLd.inFunctionPattern.accepts line = false ∧ Gcc.Speaks line ∧ GnuLd.NamesPlace line := by
  have hgcc : ((Matcher.fresh .gcc).step line).1.claimed = true ↔ _ :=
    Gcc.State.claimed_new_iff line
  unfold BothClaim
  rw [hgcc]
  constructor
  · rintro ⟨⟨hours, hspeaks⟩, hread⟩
    simp only [Bool.or_eq_false_iff] at hours
    obtain ⟨⟨-, hmake⟩, htool⟩ := hours
    obtain ⟨-, hfunction, hplace⟩ := (GnuLd.claimed_read_iff htool).1 hread
    have hend := (not_blank_of_colon hplace.colon_mem).2
    exact ⟨hmake, htool, hfunction, hspeaks.resolve_right hend, hplace⟩
  · rintro ⟨hmake, htool, hfunction, hspeaks, hplace⟩
    have hblank := (not_blank_of_colon hplace.colon_mem).1
    refine ⟨⟨?_, .inl hspeaks⟩, (GnuLd.claimed_read_iff htool).2 ⟨hmake, hfunction, hplace⟩⟩
    rw [hblank, hmake, htool]
    rfl

/-- **A heading without a column is claimed by both** if the linkers' grammar does not know its
severity. -/
theorem LineHeading.bothClaim_iff (h : LineHeading) (hmake : GnuLd.isMakeLine h.line = false) :
    BothClaim h.line ↔ ¬ ∃ w ∈ GnuLd.compilerHeads, h.severity = w.toList := by
  have hspeaks : Gcc.Speaks h.line := .inr (.inl h.isSome_heading?)
  have hcolon : ':' ∈ h.line := by
    rw [LineHeading.line, LineHeading.place]
    simp
  have hgcc : ((Matcher.fresh .gcc).step h.line).1.claimed = true := by
    refine (Gcc.State.claimed_new_iff h.line).2 ⟨?_, .inl hspeaks⟩
    rw [(not_blank_of_colon hcolon).1, hmake, h.isLinkerPrefixed_line]
    rfl
  rw [← h.claimed_read_iff hmake]
  exact ⟨fun hboth => hboth.2, fun hread => ⟨hgcc, hread⟩⟩

/-! ## Who records them -/

/-- A line that both claim is claimed by each of the two, whatever that holds. -/
theorem BothClaim.claimed (h : BothClaim line) {m : Matcher}
    (hm : m.grammar = .gcc ∨ m.grammar = .gnuld) : (m.step line).1.claimed = true := by
  cases m with
  | gcc s =>
    obtain ⟨hmake, htool, -, hspeaks, hplace⟩ := (bothClaim_iff line).1 h
    refine s.claimed_of_speaks ?_ hspeaks
    rw [(not_blank_of_colon hplace.colon_mem).1, hmake, htool]
    rfl
  | gnuld => exact h.2
  | _ => rcases hm with hm | hm <;> cases hm

/-- **It goes to the one that claimed last.** -/
theorem Channel.claimant?_of_bothClaim {gs : List Grammar} {ch : Channel} {i : Nat} {g : Grammar}
    (hch : WorksOn gs ch) (h : BothClaim line) (hsticky : ch.sticky = some i) (hi : gs[i]? = some g)
    (hg : g = .gcc ∨ g = .gnuld) : (ch.claimant? line).map Matcher.grammar = some g := by
  obtain ⟨s, hs, rfl, rfl⟩ := hch
  obtain ⟨⟨i, m⟩, ha, rfl⟩ := Option.map_eq_some_iff.1 hsticky
  obtain rfl : m.grammar = g := Option.some.inj ((hs i m ha).symm.trans hi)
  rw [Solo.claimant?_channel hs, Solo.claimant?, ha]
  simp only [h.claimed hg, if_true, Option.map_some]

/-- **Which lines both grammars claim.** They are the lines with a compiler's shape that also name a
place as linkers do; a heading without a column is one of them if the linkers' grammar does not know
its severity. Such a line goes to the one of the two that claimed last, so some lines before it
bring it to GCC's grammar, and others to that of the linkers. -/
theorem grammars_overlap (line : Line) :
    (BothClaim line ↔
      GnuLd.isMakeLine line = false ∧ GnuLd.isLinkerPrefixed line = false ∧
        GnuLd.inFunctionPattern.accepts line = false ∧ Gcc.Speaks line ∧ GnuLd.NamesPlace line) ∧
    (∀ h : LineHeading, h.line = line → GnuLd.isMakeLine line = false →
      (BothClaim line ↔ ¬ ∃ w ∈ GnuLd.compilerHeads, h.severity = w.toList)) ∧
    (BothClaim line → ∀ g, g = .gcc ∨ g = .gnuld →
      (∀ gs xs i,
        let ch := ((Channel.ofGrammars gs).run xs).2
        ch.sticky = some i → gs[i]? = some g →
          (ch.claimant? line).map Matcher.grammar = some g) ∧
      ∃ xs,
        let ch := ((Channel.ofGrammars [.gcc, .gnuld]).run xs).2
        (ch.claimant? line).map Matcher.grammar = some g) := by
  refine ⟨bothClaim_iff line, ?_, fun hboth g hg => ?_⟩
  · rintro h rfl hmake
    exact h.bothClaim_iff hmake
  · have hlast : ∀ gs xs i,
        let ch := ((Channel.ofGrammars gs).run xs).2
        ch.sticky = some i → gs[i]? = some g →
          (ch.claimant? line).map Matcher.grammar = some g := by
      intro gs xs i ch hsticky hi
      have hch := Channel.worksOn_run (Channel.worksOn_ofGrammars gs) xs
      exact Channel.claimant?_of_bothClaim hch hboth hsticky hi hg
    refine ⟨hlast, ?_⟩
    -- a line that only one of the two claims makes it the one that claimed last
    rcases hg with rfl | rfl
    · exact ⟨[.line "a.c:1:1: error: x".toList], hlast _ _ 0 (by decide +kernel) rfl⟩
    · exact ⟨[.line "ld: cannot find -lfoo".toList], hlast _ _ 1 (by decide +kernel) rfl⟩

/-- A fatal error as GCC writes it in French. -/
def fatalHeading : LineHeading where
  file := "main.c".toList
  number := ['2']
  severity := "erreur".toList ++ ' ' :: "fatale".toList
  gap := [' ']
  message := ['x']
  two_le_length_file := by decide
  file_plain := by decide
  number_ne_nil := by decide
  number_digits := List.all_eq_true.1 (by decide)
  severity_text := .tailed (by decide +kernel)
  severity_known := by decide +kernel
  gap_blank := .inr ⟨' ', by decide, rfl⟩
  gap_inline := by decide
  message_inline := by decide
  message_end := ⟨[], 'x', rfl, by decide, by decide⟩

/-- Both claim that error, and behind a linker's line it is the linkers'. -/
theorem grammars_overlap_fatal :
    let xs : List Input := [.line "ld: cannot find -lfoo".toList]
    let ch := ((Channel.ofGrammars [.gcc, .gnuld]).run xs).2
    GnuLd.isMakeLine fatalHeading.line = false ∧ BothClaim fatalHeading.line ∧
      ch.sticky = some 1 ∧ (ch.claimant? fatalHeading.line).map Matcher.grammar = some .gnuld := by
  intro xs ch
  have hmake : GnuLd.isMakeLine fatalHeading.line = false := by decide +kernel
  obtain ⟨-, hheading, hrecorded⟩ := grammars_overlap fatalHeading.line
  have hboth : BothClaim fatalHeading.line :=
    (hheading fatalHeading rfl hmake).2 (by decide +kernel)
  have hsticky : ch.sticky = some 1 := by decide +kernel
  exact ⟨hmake, hboth, hsticky,
    (hrecorded hboth .gnuld (.inr rfl)).1 [.gcc, .gnuld] xs 1 hsticky rfl⟩

/-- **One line, two records**: a new channel reports it as a compiler's, and one that a linker wrote
to before as a linker's. -/
theorem record_depends_on_last_claim :
    let line := "main.c:2: erreur fatale : x".toList
    let ld := "ld: cannot find -lfoo".toList
    let reports (xs : List Line) :=
      (((Channel.ofGrammars [.gcc, .gnuld]).run (xs.map .line ++ [.close])).1.map fun d =>
        (d.source, d.severity, d.message))
    BothClaim line ∧ reports [line] = [("GCC", "erreur fatale", "x")] ∧
      reports [ld, line] =
        [("Link", "error", "cannot find -lfoo"), ("Link", "error", "erreur fatale : x")] :=
  ⟨⟨by decide +kernel, by decide +kernel⟩, by decide +kernel, by decide +kernel⟩

end BuildDiagnostics
