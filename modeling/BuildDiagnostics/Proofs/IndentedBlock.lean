import BuildDiagnostics.Proofs.Boundary

/-!
# Blocks of a heading and indented lines

Green Hills and IAR print a heading and, under it, indented lines that belong to its message. The
two formats differ in their headings, in what the message takes of an indented line, and in the line
with which IAR closes a block after a fatal error (`Block.Layout`).

Whatever lines come, a block is a heading and the longest run of continuation lines right after it.

* `Layout.filterMap_verdicts`: what is finished over lines, on top of what was held before.
* `Layout.isSome_after_iff`: a block is open behind a heading and continuation lines only.
* `blocks_assembled`: the two formats finish one diagnostic for each heading, with its block.
-/

namespace BuildDiagnostics

open Channel (Input)

namespace Block

/-- A format of headings with indented lines under them. -/
structure Layout where
  /-- The diagnostic that a line opens, if it is a heading. -/
  heading? : Line → Option Diagnostic
  /-- What the message takes of a line under a heading. -/
  body : Line → List Char
  /-- Whether the line is one that closes a block and is claimed. -/
  closes : Line → Bool
  heading?_of_closes : ∀ line, closes line = true → heading? line = none

namespace Layout

variable {f : Layout} {held : State} {d : Diagnostic} {line : Line} {before lines : List Line}

/-- The answer to a line, and what is held after it. -/
def step (f : Layout) (held : State) (line : Line) : Verdict × State :=
  if f.closes line then (.claim held, none) else Block.step (f.heading? line) f.body held line

/-- Whether the line goes on with the block that is open before it: it is indented and not blank,
and neither a heading nor a line that closes blocks. -/
def continues (f : Layout) (line : Line) : Bool :=
  !Text.isBlankLine line && isIndented line && (f.heading? line).isNone && !f.closes line

/-! ## Blocks -/

/-- What the message takes of the longest run of lines that go on with a block. -/
def texts (f : Layout) (lines : List Line) : List String :=
  (lines.takeWhile f.continues).map fun l => String.ofList (f.body l)

/-- The diagnostic of a heading with the lines of its block, which are the first of those that
follow. -/
def block (f : Layout) (d : Diagnostic) (lines : List Line) : Diagnostic :=
  { d with message := "\n".intercalate (d.message :: f.texts lines) }

/-- The diagnostics of the headings among lines, each with its block. -/
def blocks (f : Layout) : List Line → List Diagnostic
  | [] => []
  | line :: rest => ((f.heading? line).map fun d => f.block d rest).toList ++ f.blocks rest

/-- The lines end in a heading and lines that go on with its block. -/
def IsOpen (f : Layout) (lines : List Line) : Prop :=
  ∃ earlier heading run, lines = earlier ++ heading :: run ∧ (f.heading? heading).isSome = true ∧
    ∀ l ∈ run, f.continues l = true

/-- The line is a heading, or it closes blocks, or it goes on with the block that is open behind the
lines before it. -/
def Claims (f : Layout) (before : List Line) (line : Line) : Prop :=
  (f.heading? line).isSome = true ∨ f.closes line = true ∨
    f.continues line = true ∧ f.IsOpen before

/-! ## One line -/

theorem continues_of_closes (h : f.closes line = true) : f.continues line = false := by
  rw [continues, h, Bool.not_true, Bool.and_false]

theorem continues_of_heading (h : f.heading? line = some d) : f.continues line = false := by
  simp [continues, h]

theorem step_of_closes (held : State) (h : f.closes line = true) :
    f.step held line = (.claim held, none) := by
  rw [step, if_pos h]

theorem step_of_heading (held : State) (h : f.heading? line = some d) :
    f.step held line = (.claim held, some d) := by
  have hopen : f.closes line = false := by
    rw [← Bool.not_eq_true]
    intro hcloses
    rw [f.heading?_of_closes line hcloses] at h
    cases h
  rw [step, hopen, h]
  rfl

theorem step_of_continues (d : Diagnostic) (h : f.continues line = true) :
    f.step (some d) line = (.claim none, some (addLine d (f.body line))) := by
  simp only [continues, Bool.and_eq_true, Bool.not_eq_true', Option.isNone_iff_eq_none] at h
  obtain ⟨⟨⟨hblank, hindented⟩, hheading⟩, hcloses⟩ := h
  simp only [step, Block.step, hcloses, hheading, hblank, hindented, if_true]
  rfl

/-- Any other line is left to others and ends the block. -/
theorem step_of_foreign (hcloses : f.closes line = false) (hheading : f.heading? line = none)
    (h : f.continues line = false ∨ held = none) : f.step held line = (.leave held, none) := by
  unfold step Block.step
  rw [hcloses, hheading]
  simp only [Bool.false_eq_true, if_false]
  cases hblank : Text.isBlankLine line with
  | true => rfl
  | false =>
    cases held with
    | none => rfl
    | some d =>
      have hindented : isIndented line = false := by
        simpa [continues, hblank, hheading, hcloses] using h
      rw [hindented]
      rfl

/-- The four kinds of lines. -/
theorem step_cases (f : Layout) (held : State) (line : Line) :
    (f.closes line = true ∧ f.heading? line = none ∧ f.step held line = (.claim held, none)) ∨
    (∃ d, f.heading? line = some d ∧ f.step held line = (.claim held, some d)) ∨
    (∃ d, held = some d ∧ f.continues line = true ∧ f.heading? line = none ∧
      f.step held line = (.claim none, some (addLine d (f.body line)))) ∨
    (f.closes line = false ∧ f.heading? line = none ∧ (f.continues line = false ∨ held = none) ∧
      f.step held line = (.leave held, none)) := by
  cases hcloses : f.closes line with
  | true => exact .inl ⟨rfl, f.heading?_of_closes line hcloses, step_of_closes held hcloses⟩
  | false =>
    cases hheading : f.heading? line with
    | some d => exact .inr (.inl ⟨d, rfl, step_of_heading held hheading⟩)
    | none =>
      by_cases h : f.continues line = false ∨ held = none
      · exact .inr (.inr (.inr ⟨rfl, rfl, h, step_of_foreign hcloses hheading h⟩))
      · rw [not_or, Bool.not_eq_false] at h
        obtain ⟨d, rfl⟩ := Option.ne_none_iff_exists'.1 h.2
        exact .inr (.inr (.inl ⟨d, rfl, h.1, rfl, step_of_continues d h.1⟩))

/-! ## Runs -/

/-- The answers to lines and to the end of the output after them. -/
def verdicts (f : Layout) (held : State) : List Line → List Verdict
  | [] => [.leave held]
  | line :: rest => (f.step held line).1 :: f.verdicts (f.step held line).2 rest

/-- What is held after lines. -/
def after (f : Layout) (held : State) (lines : List Line) : State :=
  lines.foldl (fun held line => (f.step held line).2) held

theorem block_cons_of_continues (d : Diagnostic) (h : f.continues line = true)
    (rest : List Line) : f.block d (line :: rest) = f.block (addLine d (f.body line)) rest := by
  have htexts : f.texts (line :: rest) = String.ofList (f.body line) :: f.texts rest := by
    rw [texts, List.takeWhile_cons_of_pos h]
    rfl
  rw [block, block, addLine, htexts, String.intercalate_cons_cons]
  cases f.texts rest with
  | nil => simp
  | cons l ls => simp only [String.intercalate_cons_cons, String.append_assoc]

theorem block_cons_of_not_continues (d : Diagnostic) (h : f.continues line = false)
    (rest : List Line) : f.block d (line :: rest) = d := by
  have htexts : f.texts (line :: rest) = [] := by
    rw [texts, List.takeWhile_cons_of_neg (by rw [h]; decide)]
    rfl
  rw [block, htexts, String.intercalate_singleton]

/-- **What is finished over lines**: what was held before with its block, and then each heading with
its own. -/
theorem filterMap_verdicts (f : Layout) (held : State) (lines : List Line) :
    (f.verdicts held lines).filterMap Verdict.finished =
      (held.map fun d => f.block d lines).toList ++ f.blocks lines := by
  induction lines generalizing held with
  | nil =>
    have hnone : ∀ d, f.block d [] = d := fun d => by
      rw [block, texts, List.takeWhile_nil, List.map_nil, String.intercalate_singleton]
    cases held <;> simp [verdicts, blocks, hnone]
  | cons line rest ih =>
    -- a line that does not go on with the block leaves what is held as it is
    have hdone : f.continues line = false ∨ held = none →
        held.map (fun d => f.block d (line :: rest)) = held := by
      rintro (h | rfl)
      · cases held with
        | none => rfl
        | some d => rw [Option.map_some, block_cons_of_not_continues d h]
      · rfl
    have hrest := ih (f.step held line).2
    rw [verdicts, blocks]
    obtain ⟨hcloses, hheading, hstep⟩ | ⟨d, hheading, hstep⟩ | ⟨d, rfl, hc, hheading, hstep⟩ |
      ⟨-, hheading, hforeign, hstep⟩ := f.step_cases held line
    all_goals rw [hstep] at hrest ⊢
    · rw [hheading, hdone (.inl (continues_of_closes hcloses))]
      cases held <;> simp [hrest, Verdict.claim]
    · rw [hheading, hdone (.inl (continues_of_heading hheading))]
      cases held <;> simp [hrest, Verdict.claim]
    · rw [hheading, Option.map_some, block_cons_of_continues d hc]
      simp [hrest, Verdict.claim]
    · rw [hheading, hdone hforeign]
      cases held <;> simp [hrest, Verdict.leave]

theorem getElem?_verdicts (held : State) (before : List Line) (line : Line) (rest : List Line) :
    (f.verdicts held (before ++ line :: rest))[before.length]? =
      some (f.step (f.after held before) line).1 := by
  induction before generalizing held with
  | nil => rfl
  | cons l before ih => exact ih (f.step held l).2

/-! ## Open blocks -/

theorem isOpen_concat :
    f.IsOpen (before ++ [line]) ↔
      (f.heading? line).isSome = true ∨ f.continues line = true ∧ f.IsOpen before := by
  constructor
  · rintro ⟨earlier, heading, run, hlines, hheading, hrun⟩
    rcases List.eq_nil_or_concat run with rfl | ⟨run, l, rfl⟩
    · obtain ⟨-, hl⟩ := List.append_inj' hlines rfl
      cases hl
      exact .inl hheading
    · rw [List.concat_eq_append, ← List.cons_append, ← List.append_assoc] at hlines
      obtain ⟨rfl, hl⟩ := List.append_inj' hlines rfl
      cases hl
      rw [List.concat_eq_append, List.forall_mem_append, List.forall_mem_singleton] at hrun
      exact .inr ⟨hrun.2, earlier, heading, run, rfl, hheading, hrun.1⟩
  · rintro (hheading | ⟨hc, earlier, heading, run, rfl, hheading, hrun⟩)
    · exact ⟨before, line, [], rfl, hheading, by simp⟩
    · refine ⟨earlier, heading, run ++ [line], by simp, hheading, ?_⟩
      rw [List.forall_mem_append, List.forall_mem_singleton]
      exact ⟨hrun, hc⟩

/-- **Something is held** exactly behind a heading and lines of its block. -/
theorem isSome_after_iff (f : Layout) (lines : List Line) :
    (f.after none lines).isSome = true ↔ f.IsOpen lines := by
  induction lines using List.reverseRecOn with
  | nil =>
    refine iff_of_false (by simp [after]) ?_
    rintro ⟨_, _, _, h, -⟩
    simp at h
  | append_singleton lines line ih =>
    rw [isOpen_concat, ← ih, after, List.foldl_concat, ← after]
    obtain ⟨hcloses, hheading, hstep⟩ | ⟨d, hheading, hstep⟩ | ⟨d, hheld, hc, hheading, hstep⟩ |
      ⟨-, hheading, hforeign | hheld, hstep⟩ := f.step_cases (f.after none lines) line
    all_goals rw [hstep]
    · simp [hheading, continues_of_closes hcloses]
    · simp [hheading]
    · simp [hheading, hc, hheld]
    · simp [hheading, hforeign]
    · simp [hheading, hheld]

/-- **Which lines are claimed.** -/
theorem claimed_step_iff (f : Layout) (before : List Line) (line : Line) :
    (f.step (f.after none before) line).1.claimed = true ↔ f.Claims before line := by
  rw [Claims, ← isSome_after_iff]
  obtain ⟨hcloses, hheading, hstep⟩ | ⟨d, hheading, hstep⟩ | ⟨d, hheld, hc, hheading, hstep⟩ |
    ⟨hcloses, hheading, hforeign | hheld, hstep⟩ := f.step_cases (f.after none before) line
  all_goals rw [hstep]
  · simp [hcloses]
  · simp [hheading]
  · simp [hc, hheld]
  · simp [hcloses, hheading, hforeign]
  · simp [hcloses, hheading, hheld]

end Layout

end Block

/-! ## The two formats -/

/-- The blocks of Green Hills: nothing closes them, and their lines keep their indentation. -/
def GreenHills.layout : Block.Layout where
  heading? := heading?
  body := Text.trimEnd
  closes _ := false
  heading?_of_closes _ h := absurd h Bool.false_ne_true

/-- The line after a fatal error is no heading: it has no bracket. -/
theorem Iar.heading?_of_abortLine {line : Line} (h : Text.trim line = abortLine.toList) :
    heading? line = none := by
  have hlacks : ∀ c ∈ line, (c == '[') = false := by
    intro c hc
    rw [beq_eq_false_iff_ne]
    rintro rfl
    have hmem : '[' ∈ Text.trim line := Text.mem_trim hc (by decide)
    rw [h] at hmem
    exact absurd hmem (by decide)
  have hlocated : locatedPattern.match? line = none := Pattern.match?_of_lacks (by decide) hlacks
  have htail : tailPattern.match? line = none := Pattern.match?_of_lacks (by decide) hlacks
  rw [heading?, hlocated, htail]
  rfl

/-- The blocks of IAR: the line after a fatal error closes them, and their lines lose the blanks at
both ends. -/
def Iar.layout : Block.Layout where
  heading? := heading?
  body := Text.trim
  closes line := Text.trim line == abortLine.toList
  heading?_of_closes _ h := heading?_of_abortLine (eq_of_beq h)

namespace Matcher

/-- A new matcher of the grammar finishes one diagnostic for each heading of the lines, in order and
with its block, and claims the lines of the layout and no others. -/
structure Assembles (g : Grammar) (f : Block.Layout) : Prop where
  finished : ∀ lines : List Line,
    ((fresh g).answers (lines.map .line ++ [.close])).filterMap Verdict.finished = f.blocks lines
  claimed : ∀ (before : List Line) (line : Line) (rest : List Line), ∃ v,
    ((fresh g).answers ((before ++ line :: rest).map .line ++ [.close]))[before.length]? = some v ∧
      (v.claimed = true ↔ f.Claims before line)

/-- A matcher that takes the steps of a layout gives its answers. -/
theorem answers_of_layout {f : Block.Layout} {m : Block.State → Matcher}
    (hstep : ∀ held line, (m held).step line = (f.step held line).map id m)
    (hflush : ∀ held, (m held).flush.1 = held) (held : Block.State) (lines : List Line) :
    (m held).answers (lines.map .line ++ [.close]) = f.verdicts held lines := by
  induction lines generalizing held with
  | nil =>
    rw [List.map_nil, List.nil_append, answers, answers, react, Prod.map_fst, hflush]
    rfl
  | cons line rest ih =>
    rw [List.map_cons, List.cons_append, answers, react, hstep, Prod.map_snd, ih]
    rfl

theorem assembles_of_layout {g : Grammar} {f : Block.Layout} {m : Block.State → Matcher}
    (hfresh : fresh g = m none)
    (hstep : ∀ held line, (m held).step line = (f.step held line).map id m)
    (hflush : ∀ held, (m held).flush.1 = held) : Assembles g f where
  finished lines := by
    rw [hfresh, answers_of_layout hstep hflush, f.filterMap_verdicts]
    rfl
  claimed before line rest := by
    rw [hfresh, answers_of_layout hstep hflush, Block.Layout.getElem?_verdicts]
    exact ⟨_, rfl, f.claimed_step_iff before line⟩

/-- **The blocks of Green Hills and of IAR are put together exactly.** Over any lines and the end of
the output after them, each heading becomes one diagnostic, in order, which is the heading's with
the run of continuation lines right after it added to the message. What is claimed are the headings
and these lines, and with IAR every line that closes blocks. -/
theorem blocks_assembled :
    Assembles .ghs GreenHills.layout ∧ Assembles .iar Iar.layout :=
  ⟨assembles_of_layout (m := ghs) rfl (fun _ _ => rfl) fun _ => rfl,
    assembles_of_layout (m := iar) rfl (fun _ _ => rfl) fun _ => rfl⟩

end Matcher

end BuildDiagnostics
