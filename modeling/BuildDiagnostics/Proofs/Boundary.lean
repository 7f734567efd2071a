import BuildDiagnostics.Proofs.BlankLine
import BuildDiagnostics.Proofs.ChannelRun

/-!
# Boundary lines

A line that a grammar leaves to the others is a boundary: it ends the block that is open. What the
grammar makes of later lines should then not depend on what came before, that is, the matcher
should answer as a new one does (`Matcher.Alike`).

Two things outlast a boundary. CMake counts the first blank line in an open block and goes on with
it. And a template backtrace of GCC that has not met its heading stays: it is added to the next
heading, whatever comes between.

* `gcc_of_not_claimed`, `step_eq_fresh_of_not_claimed`: the matcher after a boundary.
* `boundary_ends_block_iff`: when a boundary makes a matcher answer as a new one.
* `backtrace_outlasts_blank_line`: a backtrace that is added to a diagnostic of another file.
-/

namespace BuildDiagnostics

open Channel (Input)

/-- A further line of a template backtrace. -/
def Gcc.requiredLine : Line := "a.c:1:1: required from here".toList

theorem Gcc.State.claimed_requiredLine {s : Gcc.State} (h : s.backtrace.isSome = true) :
    (s.step requiredLine).1.claimed = true := by
  obtain ⟨b, hb⟩ := Option.isSome_iff_exists.1 h
  have hfirst : (Text.isBlankLine requiredLine || GnuLd.isMakeLine requiredLine ||
      GnuLd.isLinkerPrefixed requiredLine) = false := by decide
  have hroot : s.instantiation? requiredLine = none := by
    have hmatch : instantiationPattern.match? requiredLine = none := by decide
    unfold instantiation?
    rw [hmatch]
    rfl
  have hmatch : (requiredPattern.match? requiredLine).isSome = true := by decide
  obtain ⟨cs, hcs⟩ := Option.isSome_iff_exists.1 hmatch
  unfold step required?
  rw [hfirst, hroot, hb, hcs]
  rfl

namespace Matcher

/-- What a matcher answers to an input, and the matcher after it. The end of the stream is no line
that could be claimed, and finishes what is held. -/
def react (m : Matcher) : Input → Verdict × Matcher
  | .line l => m.step l
  | .close => m.flush.map .leave id

/-- What a matcher answers to inputs, in order. -/
def answers (m : Matcher) : List Input → List Verdict
  | [] => []
  | x :: xs => (m.react x).1 :: (m.react x).2.answers xs

/-- The matchers give the same answers to all further input. -/
def Alike (m n : Matcher) : Prop := ∀ xs, m.answers xs = n.answers xs

/-- Whether a template backtrace waits for its heading. -/
def hasBacktrace : Matcher → Bool
  | gcc s => s.backtrace.isSome
  | _ => false

/-- Whether the line is the first blank one in a row in an open block of CMake. -/
def countsBlank (m : Matcher) (line : Line) : Bool :=
  match m with
  | cmake s => CMake.countsBlank s line
  | _ => false

variable {m : Matcher} {line : Line}

/-- **After a boundary GCC has nothing but its backtrace.** -/
theorem gcc_of_not_claimed {s : Gcc.State} (h : ((gcc s).step line).1.claimed = false) :
    ((gcc s).step line).2 = gcc { backtrace := s.backtrace } := by
  have : s.step line = _ := Gcc.State.step_of_not_claimed h
  simp only [step, this]
  rfl

/-- **After a boundary a matcher is new**, unless it waits with a backtrace or has only counted a
blank line. -/
theorem step_eq_fresh_of_not_claimed (h : (m.step line).1.claimed = false)
    (hbacktrace : m.hasBacktrace = false) (hcount : m.countsBlank line = false) :
    (m.step line).2 = fresh m.grammar := by
  cases m with
  | gcc s =>
    rw [gcc_of_not_claimed h, Option.isSome_eq_false_iff.1 hbacktrace |> Option.isNone_iff_eq_none.1]
    rfl
  | gnuld => rfl
  | msvc => rfl
  | ghs held =>
    have : GreenHills.step held line = _ := Block.step_of_not_claimed h
    simp only [step, this]
    rfl
  | diab => rfl
  | iar held =>
    have : Iar.step held line = _ := Iar.step_of_not_claimed h
    simp only [step, this]
    rfl
  | iwyu s =>
    have : s.step line = _ := Iwyu.State.step_of_not_claimed h
    simp only [step, this]
    rfl
  | cmake s =>
    have : CMake.step s line = _ := CMake.step_of_not_claimed h
    have hcount' : CMake.countsBlank s line = false := hcount
    rw [hcount'] at this
    simp only [step, this]
    rfl

/-- A matcher with a backtrace claims what a new one does not. -/
theorem hasBacktrace_of_alike (h : Alike m (fresh m.grammar)) : m.hasBacktrace = false := by
  cases m with
  | gcc s =>
    rw [← Bool.not_eq_true]
    intro hb
    have hclaim := Gcc.State.claimed_requiredLine hb
    have hfresh : ((fresh .gcc).step Gcc.requiredLine).1.claimed = false := by decide
    have hsame : ((gcc s).step Gcc.requiredLine).1 = ((fresh .gcc).step Gcc.requiredLine).1 :=
      (List.cons.inj (h [.line Gcc.requiredLine])).1
    rw [← hsame] at hfresh
    exact absurd (hclaim.symm.trans hfresh) (by decide)
  | _ => rfl

/-- A counted blank line leaves the block open, with the diagnostic as it was. -/
theorem step_of_countsBlank (h : m.countsBlank line = true) :
    (m.step line).1 = .ignored ∧ (m.step line).2.flush.1 = m.flush.1 ∧ m.flush.1 ≠ none := by
  cases m with
  | cmake s =>
    cases s with
    | none => cases h
    | some b =>
      obtain ⟨hblank, hafter⟩ := Bool.and_eq_true_iff.1 h
      have hafter' : b.afterBlank = false := by simpa using hafter
      have hstep : CMake.step (some b) line = (.ignored, some b.blank) := by
        rw [CMake.step_of_blank _ hblank]
        simp only [hafter', Bool.false_eq_true, if_false]
      simp only [step, hstep]
      refine ⟨rfl, ?_, by simp [flush, CMake.flush]⟩
      simp only [flush, CMake.flush, Prod.map_fst, Prod.map_snd, id, Option.map_some,
        CMake.done_blank]
  | _ => cases h

/-- **When a boundary ends the block completely.** A line that a matcher leaves to others makes it
answer all further input as a new matcher of its grammar does, exactly if no template backtrace
waits in it and the line is not the blank one that an open block of CMake counts. That line leaves
the diagnostic of the block as it was. -/
theorem boundary_ends_block_iff (h : (m.step line).1.claimed = false) :
    (Alike (m.step line).2 (fresh m.grammar) ↔
      m.hasBacktrace = false ∧ m.countsBlank line = false) ∧
    (m.countsBlank line = true →
      (m.step line).1 = .ignored ∧ (m.step line).2.flush.1 = m.flush.1) := by
  refine ⟨⟨fun halike => ⟨?_, ?_⟩, fun ⟨hbacktrace, hcount⟩ xs => ?_⟩, fun hcount => ?_⟩
  · -- the backtrace is the same after the line as before it
    rw [← grammar_step m line] at halike
    have hafter := hasBacktrace_of_alike halike
    cases m with
    | gcc s => rwa [gcc_of_not_claimed h] at hafter
    | _ => rfl
  · -- an open block shows at the end of the stream
    rw [← Bool.not_eq_true]
    intro hcount
    obtain ⟨-, hflush, hheld⟩ := step_of_countsBlank hcount
    have hsame : Verdict.leave (m.step line).2.flush.1 = .leave (fresh m.grammar).flush.1 :=
      (List.cons.inj (halike [.close])).1
    rw [hflush, flush_fresh] at hsame
    exact hheld (congrArg Verdict.finished hsame)
  · rw [step_eq_fresh_of_not_claimed h hbacktrace hcount]
  · obtain ⟨hignored, hflush, -⟩ := step_of_countsBlank hcount
    exact ⟨hignored, hflush⟩

/-- A line of a build tool comes under a diagnostic of GCC. -/
theorem boundary_ends_block_iff_progress :
    let m : Matcher := ((fresh .gcc).step "a.c:1:1: error: x".toList).2
    let line := "[ 50%] Linking".toList
    m.flush.1 ≠ none ∧ (m.step line).1.claimed = false ∧
      Alike (m.step line).2 (fresh m.grammar) := by
  intro m line
  have h : (m.step line).1.claimed = false := by decide +kernel
  exact ⟨by decide +kernel, h,
    (boundary_ends_block_iff h).1.2 ⟨by decide +kernel, by decide +kernel⟩⟩

/-- **A backtrace outlasts a blank line**, which GCC leaves to others: the next diagnostic, which is
about another file, gets a related place that a new matcher would not give it. -/
theorem backtrace_outlasts_blank_line :
    let m : Matcher := ((fresh .gcc).step "t.h: In instantiation of 'g':".toList).2
    let later : List Input := [.line "a.c:1:1: error: x".toList, .close]
    let d : Diagnostic :=
      { source := "GCC", file := "a.c", range := .restOfLine 0 0, severity := "error"
        message := "x" }
    let root : Related := ⟨"t.h", .restOfLine 0 0, "In instantiation of 'g':"⟩
    (m.step []).1 = .ignored ∧
      (m.step []).2.answers later = [.claim none, .leave (some { d with related := [root] })] ∧
      (fresh m.grammar).answers later = [.claim none, .leave (some d)] :=
  ⟨by decide +kernel, by decide +kernel, by decide +kernel⟩

end Matcher

end BuildDiagnostics
