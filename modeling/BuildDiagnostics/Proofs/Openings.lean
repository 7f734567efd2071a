import BuildDiagnostics.Proofs.Extends
import BuildDiagnostics.Proofs.Fresh
import BuildDiagnostics.Proofs.Text

/-!
# Openings

An opening line is one on which a grammar creates a diagnostic: the matcher that claims the line
turns it into a diagnostic of its own (`Matcher.opening?`). What comes later can only extend that
diagnostic (`Diagnostic.Extends`).

* `Matcher.step_conserves`: what a matcher held and what a line opens is what the line finishes and
  what is held then, in this order.
* `Matcher.opening?_of_not_claimed`: a line that a matcher leaves to others opens nothing in it.
-/

namespace BuildDiagnostics

/-! ## What a line opens -/

/-- The diagnostic that a line opens: a heading that is not added as a note to what is held. -/
def Gcc.State.opening? (s : Gcc.State) (line : Line) : Option Diagnostic :=
  if Text.isBlankLine line || GnuLd.isMakeLine line || GnuLd.isLinkerPrefixed line then none
  else if (s.instantiation? line).isSome || (s.required? line).isSome || (s.limit? line).isSome then
    none
  else
    match heading? line with
    | some h => if h.isNote && s.held.isSome then none else some (h.toDiagnostic s.backtrace)
    | none => none

/-- The diagnostic that a line opens: a heading, which the line after a fatal error is not. -/
def Iar.opening? (line : Line) : Option Diagnostic :=
  if Text.trim line == abortLine.toList then none else heading? line

namespace Iwyu

/-- Whether a line belongs to the section that is open before it. -/
def isBody (line : Line) : Bool :=
  (section? line).isNone && !Text.isBlankLine line && Text.trim line != "---".toList

/-- Whether the next line belongs to the section that is open before it. -/
def startsBody : List Line → Bool
  | [] => false
  | line :: _ => isBody line

/-- The report of a section that has no lines yet, if it is to have some. -/
def State.announced? (s : State) (rest : List Line) : Option Diagnostic :=
  match s with
  | .gather g file [] =>
    if startsBody rest then some (listing file g.severity g.title []) else none
  | _ => none

/-- The report that the open section is to give when the given lines follow. -/
def State.pending (s : State) (rest : List Line) : Option Diagnostic :=
  (s.announced? rest).or s.report

/-- The diagnostic that a line opens, from the lines that follow it: a line to remove, or the
heading of a section that gets a line. -/
def State.opening? (s : State) (line : Line) (rest : List Line) : Option Diagnostic :=
  match section? line with
  | some opened => opened.announced? rest
  | none =>
    match s with
    | .remove file =>
      if isBody line then (removalPattern.match? line).map (removal file) else none
    | _ => none

end Iwyu

/-- The diagnostic that a line opens in a matcher, from the lines that follow it. -/
def Matcher.opening? (m : Matcher) (line : Line) (rest : List Line) : Option Diagnostic :=
  match m with
  | gcc s => s.opening? line
  | gnuld => (GnuLd.read line).finished
  | msvc => (Msvc.read line).finished
  | ghs _ => GreenHills.heading? line
  | diab => (Diab.read line).finished
  | iar _ => Iar.opening? line
  | iwyu s => s.opening? line rest
  | cmake _ => (CMake.headingPattern.match? line).map CMake.ofCaptures

namespace Channel

/-- The matcher that claims a line, as it is before the line. -/
def claimant? (c : Channel) (line : Line) : Option Matcher :=
  (offer line c.order c.matchers).claim.bind fun x => c.matchers[x.1]?

/-- The diagnostic that a line opens in a channel, from the lines that follow it. -/
def opening? (c : Channel) (line : Line) (rest : List Line) : Option Diagnostic :=
  (c.claimant? line).bind fun m => m.opening? line rest

/-- The diagnostics that lines open, as they are when they are opened: at most one for each line, in
the order of the lines. -/
def openings (c : Channel) : List Line → List Diagnostic
  | [] => []
  | line :: rest => (c.opening? line rest).toList ++ (c.dispatch line).2.openings rest

end Channel

/-! ## One grammar conserves what it holds -/

namespace Gcc

theorem extends_addRelated (d : Diagnostic) (r : Related) : d.Extends (addRelated d r) :=
  ⟨rfl, rfl, rfl, rfl, rfl, List.prefix_rfl, List.prefix_append _ _⟩

namespace State

/-- Whatever is not a heading ends what is held or keeps it. -/
theorem other_conserves (s : State) (line : Line) :
    (s.other line).1.finished.toList ++ (s.other line).2.held.toList = s.held.toList := by
  unfold other
  split
  · simp [finish]
  · split
    · simp
    · split <;> simp [finish, leave]

/-- A note goes to what is held, any other heading follows it. -/
theorem heading_conserves (s : State) (h : Heading) :
    AllExtend
      (s.held.toList ++
        (if h.isNote && s.held.isSome then none else some (h.toDiagnostic s.backtrace)).toList)
      ((s.heading h).1.finished.toList ++ (s.heading h).2.held.toList) := by
  unfold heading
  cases hn : h.isNote with
  | false => simpa using AllExtend.refl (s.held.toList ++ [h.toDiagnostic s.backtrace])
  | true =>
    cases hd : s.held with
    | none => exact AllExtend.refl _
    | some d => simpa using List.Forall₂.cons (extends_addRelated d h.toRelated) .nil

theorem step_conserves (s : State) (line : Line) :
    AllExtend (s.held.toList ++ (s.opening? line).toList)
      ((s.step line).1.finished.toList ++ (s.step line).2.held.toList) := by
  unfold step opening?
  by_cases hb : Text.isBlankLine line || GnuLd.isMakeLine line || GnuLd.isLinkerPrefixed line
  · rw [if_pos hb, if_pos hb]
    exact AllExtend.refl _
  rw [if_neg hb, if_neg hb]
  cases hi : s.instantiation? line with
  | some r =>
    -- the start of a backtrace ends what is held
    obtain ⟨cs, -, rfl⟩ := Option.map_eq_some_iff.1 hi
    exact AllExtend.refl _
  | none =>
    cases hr : s.required? line with
    | some r =>
      -- a step of a backtrace is kept for the heading to come
      obtain ⟨hv, hh⟩ := required?_spec hr
      simp only [hv, hh, Option.isSome_none, Option.isSome_some]
      simpa using AllExtend.refl s.held.toList
    | none =>
      cases hl : s.limit? line with
      | some r =>
        obtain ⟨hv, d, x, hd, hh⟩ := limit?_spec hl
        simp only [hv, hh, hd, Option.isSome_none, Option.isSome_some]
        simpa using List.Forall₂.cons (extends_addRelated d x) .nil
      | none =>
        simp only [Option.isSome_none, Bool.or_self, Bool.false_eq_true, if_false]
        cases hg : heading? line with
        | none =>
          simp only [Option.toList_none, List.append_nil, other_conserves]
          exact AllExtend.refl _
        | some h => exact heading_conserves s h

end State

end Gcc

namespace Block

theorem extends_addLine (d : Diagnostic) (line : List Char) : d.Extends (addLine d line) := by
  refine ⟨rfl, rfl, rfl, rfl, rfl, ?_, List.prefix_rfl⟩
  simp only [addLine, String.toList_append, List.append_assoc]
  exact List.prefix_append _ _

theorem step_conserves (heading : Option Diagnostic) (body : Line → List Char) (held : State)
    (line : Line) :
    AllExtend (held.toList ++ heading.toList)
      ((step heading body held line).1.finished.toList ++
        (step heading body held line).2.toList) := by
  unfold step
  cases heading with
  | some d => exact AllExtend.refl _
  | none =>
    by_cases hb : Text.isBlankLine line
    · simp only [hb, if_true]; exact AllExtend.refl _
    · cases held with
      | none => simp only [hb]; exact AllExtend.refl _
      | some d =>
        by_cases hi : isIndented line
        · simp only [hb, hi, if_true]
          exact .cons (extends_addLine d (body line)) .nil
        · simp only [hb, hi]; exact AllExtend.refl _

end Block

theorem Iar.step_conserves (held : Block.State) (line : Line) :
    AllExtend (held.toList ++ (opening? line).toList)
      ((step held line).1.finished.toList ++ (step held line).2.toList) := by
  unfold step opening?
  by_cases ha : Text.trim line == abortLine.toList
  · rw [if_pos ha, if_pos ha]; exact AllExtend.refl _
  · rw [if_neg ha, if_neg ha]; exact Block.step_conserves _ _ _ _

namespace CMake

theorem extends_done_addText (b : Block) (text : List Char) :
    b.done.Extends (b.addText text).done := by
  refine ⟨rfl, rfl, rfl, rfl, rfl, ?_, List.prefix_rfl⟩
  simp only [Block.done, Block.addText, String.toList_ofList, String.toList_append]
  exact Text.trim_append _ _

theorem extends_done_blank (b : Block) : b.done.Extends b.blank.done := by
  unfold Block.blank
  dsimp only
  cases b.phase with
  | text => exact extends_done_addText _ _
  | stack => exact .refl _

theorem extends_done_line (b : Block) (line : Line) : b.done.Extends (b.line line).done := by
  unfold Block.line
  dsimp only
  cases b.phase with
  | text =>
    by_cases h : stackTitle.toList.isPrefixOf line
    · simp only [h, if_true]; exact .refl _
    · simp only [h]; exact extends_done_addText _ _
  | stack =>
    cases framePattern.match? line with
    | none => exact .refl _
    | some cs => exact ⟨rfl, rfl, rfl, rfl, rfl, List.prefix_rfl, List.prefix_append _ _⟩

theorem step_conserves (s : State) (line : Line) :
    AllExtend ((s.map Block.done).toList ++ ((headingPattern.match? line).map ofCaptures).toList)
      ((step s line).1.finished.toList ++ ((step s line).2.map Block.done).toList) := by
  unfold step
  cases headingPattern.match? line with
  | some cs => exact AllExtend.refl _
  | none =>
    cases s with
    | none => exact AllExtend.refl _
    | some b =>
      by_cases hs : "--".toList.isPrefixOf line
      · simp only [hs, if_true]; exact AllExtend.refl _
      by_cases hb : Text.isBlankLine line
      · cases ha : b.afterBlank with
        | true => simp only [hs, hb, ha, if_true]; exact AllExtend.refl _
        | false =>
          simp only [hs, hb, ha, if_true]
          exact .cons (extends_done_blank b) .nil
      · simp only [hs, hb]
        exact .cons (extends_done_line b line) .nil

end CMake

namespace Iwyu

theorem intercalate_append (ls : List (List Char)) (x : List Char) :
    ['\n'].intercalate ls <+: ['\n'].intercalate (ls ++ [x]) := by
  induction ls with
  | nil => exact List.nil_prefix
  | cons a ls ih =>
    cases ls with
    | nil => simp [List.intercalate_cons_cons]
    | cons b ls =>
      simp only [List.cons_append, List.intercalate_cons_cons] at ih ⊢
      rw [List.prefix_append_right_inj]
      exact ih

theorem extends_listing (file severity title : String) (ls : List (List Char)) (x : List Char) :
    (listing file severity title ls).Extends (listing file severity title (ls ++ [x])) := by
  refine ⟨rfl, rfl, rfl, rfl, rfl, ?_, List.prefix_rfl⟩
  simp only [listing, String.toList_append, String.toList_ofList, List.prefix_append_right_inj]
  exact intercalate_append ls x

theorem report_of_section? {line : Line} {opened : State} (h : section? line = some opened) :
    opened.report = none := by
  unfold section? at h
  cases ha : addPattern.match? line with
  | some cs => rw [ha] at h; cases h; rfl
  | none =>
    cases hr : removePattern.match? line with
    | some cs => rw [ha, hr] at h; cases h; rfl
    | none =>
      rw [ha, hr] at h
      obtain ⟨cs, -, rfl⟩ := Option.map_eq_some_iff.1 h
      rfl

namespace State

/-- A line that belongs to no section leaves the open one with what it has. -/
theorem pending_of_not_body {s : State} {line : Line} (h : isBody line = false) (rest : List Line) :
    s.pending (line :: rest) = s.report := by
  unfold pending announced?
  split <;> simp [startsBody, h]

theorem opening?_of_not_body {s : State} {line : Line} (hs : section? line = none)
    (h : isBody line = false) (rest : List Line) : s.opening? line rest = none := by
  unfold opening?
  rw [hs]
  cases s <;> simp [h]

/-- A section that gets a line is to give a report. -/
theorem pending_gather {line : Line} (h : isBody line) (g : Gathering) (file : String)
    (ls : List (List Char)) (rest : List Line) :
    (gather g file ls).pending (line :: rest) = some (listing file g.severity g.title ls) := by
  cases ls <;> simp [pending, announced?, startsBody, h, report]

theorem pending_gather_concat (g : Gathering) (file : String) (ls : List (List Char))
    (x : List Char) (rest : List Line) : (gather g file (ls ++ [x])).pending rest =
      some (listing file g.severity g.title (ls ++ [x])) := by
  cases ls <;> simp [pending, announced?, report]

theorem body_conserves (s : State) {line : Line} (h : isBody line) (rest : List Line) :
    AllExtend ((s.pending (line :: rest)).toList ++ (s.opening? line rest).toList)
      ((s.body line).1.finished.toList ++ ((s.body line).2.pending rest).toList) := by
  have hs : section? line = none := by
    simp only [isBody, Bool.and_eq_true, Option.isNone_iff_eq_none] at h; exact h.1.1
  -- a listed line joins the report of its section, which the section's heading has announced
  cases s with
  | idle => simp only [opening?, hs]; exact AllExtend.refl _
  | gather g file ls =>
    simp only [opening?, hs, body, pending_gather h, pending_gather_concat]
    exact .cons (extends_listing _ _ _ ls _) .nil
  | remove file =>
    simp only [opening?, hs, h, body, if_true]
    cases removalPattern.match? line with
    | none => exact AllExtend.refl _
    | some cs => exact AllExtend.refl _

theorem step_conserves (s : State) (line : Line) (rest : List Line) :
    AllExtend ((s.pending (line :: rest)).toList ++ (s.opening? line rest).toList)
      ((s.step line).1.finished.toList ++ ((s.step line).2.pending rest).toList) := by
  unfold step
  cases hs : section? line with
  | some opened =>
    -- the old section gives its report, the new one waits for a line of its own
    have hb : isBody line = false := by simp [isBody, hs]
    have ho : s.opening? line rest = opened.announced? rest := by unfold opening?; rw [hs]
    rw [pending_of_not_body hb, ho]
    simp only [pending, report_of_section? hs, Option.or_none]
    exact AllExtend.refl _
  | none =>
    by_cases hblank : Text.isBlankLine line
    · have hb : isBody line = false := by simp [isBody, hblank]
      rw [pending_of_not_body hb, opening?_of_not_body hs hb]
      simp only [hblank, if_true]
      exact AllExtend.refl _
    by_cases hd : Text.trim line == "---".toList
    · have hb : isBody line = false := by unfold isBody bne; rw [hd]; simp
      rw [pending_of_not_body hb, opening?_of_not_body hs hb]
      simp only [hblank, hd, if_true]
      cases s <;> exact AllExtend.refl _
    · have hd' : (Text.trim line == "---".toList) = false := by
        simpa only [Bool.not_eq_true] using hd
      have hb : isBody line = true := by unfold isBody bne; rw [hs, hd']; simp [hblank]
      simp only [hblank, hd]
      exact body_conserves s hb rest

end State

end Iwyu

/-! ## A line that is left to others opens nothing -/

theorem Gcc.State.opening?_of_not_claimed {s : Gcc.State} {line : Line}
    (h : (s.step line).1.claimed = false) : s.opening? line = none := by
  unfold step at h
  unfold opening?
  by_cases hb : Text.isBlankLine line || GnuLd.isMakeLine line || GnuLd.isLinkerPrefixed line
  · rw [if_pos hb]
  rw [if_neg hb] at h ⊢
  cases hi : s.instantiation? line with
  | some r => simp
  | none =>
    cases hr : s.required? line with
    | some r => simp
    | none =>
      cases hl : s.limit? line with
      | some r => simp
      | none =>
        simp only [hi, hr, hl, Option.isSome_none, Bool.or_self, Bool.false_eq_true,
          if_false] at h ⊢
        cases hg : heading? line with
        | none => rfl
        | some g =>
          rw [hg] at h
          simp only [heading] at h
          split at h <;> exact absurd h (by simp)

theorem Block.heading_of_not_claimed {heading : Option Diagnostic} {body : Line → List Char}
    {held : State} {line : Line} (h : (step heading body held line).1.claimed = false) :
    heading = none := by
  cases heading with
  | none => rfl
  | some d => exact absurd h (by simp [step])

theorem Iar.opening?_of_not_claimed {held : Block.State} {line : Line}
    (h : (step held line).1.claimed = false) : opening? line = none := by
  unfold step at h
  unfold opening?
  by_cases ha : Text.trim line == abortLine.toList
  · rw [if_pos ha]
  · rw [if_neg ha] at h ⊢; exact Block.heading_of_not_claimed h

theorem CMake.opening?_of_not_claimed {s : State} {line : Line}
    (h : (step s line).1.claimed = false) : (headingPattern.match? line).map ofCaptures = none := by
  cases hm : headingPattern.match? line with
  | none => rfl
  | some cs => exact absurd h (by simp [step, hm])

theorem Iwyu.State.opening?_of_not_claimed {s : Iwyu.State} {line : Line}
    (h : (s.step line).1.claimed = false) (rest : List Line) : s.opening? line rest = none := by
  unfold step at h
  cases hs : section? line with
  | some opened => rw [hs] at h; exact absurd h (by simp)
  | none =>
    by_cases hb : isBody line
    · have hb' := hb
      simp only [isBody, hs, Bool.and_eq_true, Bool.not_eq_true', bne, Option.isNone_none,
        true_and] at hb'
      simp only [hs, hb'.1, hb'.2] at h
      rw [idle_of_body h]
      unfold opening?; rw [hs]
    · exact opening?_of_not_body hs (by simpa using hb) rest

namespace Matcher

/-- What is held, and the report that an open section is to give when the given lines follow. -/
def pending (m : Matcher) (rest : List Line) : Option Diagnostic :=
  match m with
  | iwyu s => s.pending rest
  | m => m.flush.1

theorem pending_nil (m : Matcher) : m.pending [] = m.flush.1 := by
  cases m with
  | iwyu s => cases s with
    | gather g file ls => cases ls <;> rfl
    | _ => rfl
  | _ => rfl

theorem pending_fresh (g : Grammar) (rest : List Line) : (fresh g).pending rest = none := by
  cases g <;> rfl

/-- **A matcher conserves diagnostics.** What it held and what the line opens is what the line
finishes and what it holds then. -/
theorem step_conserves (m : Matcher) (line : Line) (rest : List Line) :
    AllExtend ((m.pending (line :: rest)).toList ++ (m.opening? line rest).toList)
      ((m.step line).1.finished.toList ++ ((m.step line).2.pending rest).toList) := by
  cases m with
  | gcc s => exact Gcc.State.step_conserves s line
  | gnuld => exact AllExtend.refl_append_nil _
  | msvc => exact AllExtend.refl_append_nil _
  | ghs held => exact Block.step_conserves _ _ held line
  | diab => exact AllExtend.refl_append_nil _
  | iar held => exact Iar.step_conserves held line
  | iwyu s => exact Iwyu.State.step_conserves s line rest
  | cmake s => exact CMake.step_conserves s line

theorem opening?_of_not_claimed {m : Matcher} {line : Line}
    (h : (m.step line).1.claimed = false) (rest : List Line) : m.opening? line rest = none := by
  cases m with
  | gcc s => exact Gcc.State.opening?_of_not_claimed h
  | gnuld =>
    have : GnuLd.read line = _ := GnuLd.read_of_not_claimed h
    simp only [opening?, this]; rfl
  | msvc =>
    have : Msvc.read line = _ := Msvc.read_of_not_claimed h
    simp only [opening?, this]; rfl
  | ghs held =>
    have h' : (GreenHills.step held line).1.claimed = false := h
    exact Block.heading_of_not_claimed h'
  | diab =>
    have : Diab.read line = _ := Diab.read_of_not_claimed h
    simp only [opening?, this]; rfl
  | iar held =>
    have h' : (Iar.step held line).1.claimed = false := h
    exact Iar.opening?_of_not_claimed h'
  | iwyu s => exact Iwyu.State.opening?_of_not_claimed h rest
  | cmake s =>
    have h' : (CMake.step s line).1.claimed = false := h
    exact CMake.opening?_of_not_claimed h'

/-- A matcher that leaves a line to others holds what its flush would give. -/
theorem pending_of_not_claimed {m : Matcher} {line : Line}
    (h : (m.step line).1.claimed = false) (rest : List Line) :
    (m.step line).2.pending rest = (m.step line).2.flush.1 := by
  cases m with
  | iwyu s =>
    have hi : s.step line = _ := Iwyu.State.step_of_not_claimed h
    simp only [step, Prod.map, hi]; rfl
  | _ => rfl

end Matcher

end BuildDiagnostics
