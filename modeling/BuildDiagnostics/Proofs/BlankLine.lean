import BuildDiagnostics.Proofs.Readings
import BuildDiagnostics.Proofs.SingleGrammar
import BuildDiagnostics.Proofs.Text

/-!
# Blank lines

Every pattern that opens a diagnostic asks for a character that can be seen, so no grammar claims a
blank line. To the grammar at work a blank line is a boundary: it finishes what the grammar holds,
except that a message of CMake may have one blank line between its paragraphs. So two blank lines
finish what the end of the stream would finish.

* `Matcher.claimed_of_blank`: no grammar claims a blank line, whatever it holds.
* `Matcher.finished_of_blanks`: two blank lines finish what a flush would.
* `Channel.close_eq_blank_lines`: two blank lines do what the end of the stream does.
-/

namespace BuildDiagnostics

open Text Pattern

variable {line line' : Line}

/-! ## No pattern reads a blank line -/

section Patterns

variable {p : Pattern}

theorem not_blank_of_mem (h : isBlankLine line = true) : ∀ c ∈ line, (!isBlank c) = false := by
  intro c hc
  rw [List.all_eq_true.1 h c hc, Bool.not_true]

theorem match?_of_blank (hp : p.takes (fun c => !isBlank c) = true)
    (h : isBlankLine line = true) : p.match? line = none :=
  match?_of_lacks hp (not_blank_of_mem h)

theorem accepts_of_blank (hp : p.takes (fun c => !isBlank c) = true)
    (h : isBlankLine line = true) : p.accepts line = false :=
  accepts_of_lacks hp (not_blank_of_mem h)

end Patterns

theorem GnuLd.read_of_blank (h : isBlankLine line = true) : GnuLd.read line = .ignored := by
  have hmake : GnuLd.isMakeLine line = false := accepts_of_blank (by decide) h
  have hsplit : GnuLd.split line = (none, line) := by
    unfold GnuLd.split
    rw [match?_of_blank (by decide) h]
  have hfunction : GnuLd.inFunctionPattern.accepts line = false := accepts_of_blank (by decide) h
  have hbody : GnuLd.body? none line = none := by
    unfold GnuLd.body?
    rw [match?_of_blank (by decide) h, match?_of_blank (by decide) h]
  unfold GnuLd.read
  rw [hmake, hsplit]
  dsimp only
  rw [hfunction, hbody]
  rfl

theorem Msvc.read_of_blank (h : isBlankLine line = true) : Msvc.read line = .ignored := by
  have hproject : Msvc.dropProject line = line := by
    unfold Msvc.dropProject
    rw [find?_of_lacks (q := fun c => !isBlank c) (by decide) (not_blank_of_mem h)]
  unfold Msvc.read Msvc.diagnostic?
  rw [hproject, match?_of_blank (by decide) h, match?_of_blank (by decide) h]

theorem Diab.read_of_blank (h : isBlankLine line = true) : Diab.read line = .ignored := by
  unfold Diab.read
  rw [match?_of_blank (by decide) h]

theorem Block.step_of_blank {body : Line → List Char} (held : Block.State)
    (h : isBlankLine line = true) : Block.step none body held line = (.leave held, none) := by
  unfold Block.step
  rw [h]
  rfl

theorem GreenHills.step_of_blank (held : Block.State) (h : isBlankLine line = true) :
    GreenHills.step held line = (.leave held, none) := by
  have hheading : GreenHills.heading? line = none := by
    unfold GreenHills.heading?
    rw [match?_of_blank (by decide) h]
    rfl
  unfold GreenHills.step
  rw [hheading]
  exact Block.step_of_blank held h

theorem Iar.step_of_blank (held : Block.State) (h : isBlankLine line = true) :
    Iar.step held line = (.leave held, none) := by
  have hheading : Iar.heading? line = none := by
    unfold Iar.heading?
    rw [match?_of_blank (by decide) h, match?_of_blank (by decide) h]
    rfl
  unfold Iar.step
  rw [trim_of_blank h, hheading]
  exact Block.step_of_blank held h

theorem Iwyu.State.step_of_blank (s : Iwyu.State) (h : isBlankLine line = true) :
    s.step line = (.leave s.report, .idle) := by
  have hsection : Iwyu.section? line = none := by
    unfold Iwyu.section?
    rw [match?_of_blank (by decide) h, match?_of_blank (by decide) h,
      match?_of_blank (by decide) h]
    rfl
  unfold Iwyu.State.step
  rw [hsection, h]
  rfl

theorem Gcc.State.step_of_blank (s : Gcc.State) (h : isBlankLine line = true) :
    s.step line = s.leave := by
  unfold Gcc.State.step
  rw [h]
  rfl

namespace CMake

/-- A blank line ends an open block only if it is the second in a row. -/
theorem step_of_blank (s : State) (h : isBlankLine line = true) :
    step s line = match s with
      | none => (.ignored, none)
      | some b =>
        if b.afterBlank then (.leave (some b.done), none) else (.ignored, some b.blank) := by
  unfold step
  rw [match?_of_blank (by decide) h]
  cases s with
  | none => rfl
  | some b =>
    dsimp only
    rw [not_status_of_blank h, h]
    rfl

theorem afterBlank_blank (b : Block) : b.blank.afterBlank = true := by
  unfold Block.blank
  dsimp only
  cases b.phase <;> rfl

/-- The blank line that a block counts does not show in its diagnostic. -/
theorem done_blank (b : Block) : b.blank.done = b.done := by
  unfold Block.blank
  dsimp only
  cases b.phase with
  | text =>
    simp only [Block.done, Block.addText, String.toList_append, String.toList_ofList,
      List.nil_append, trim_append_blank _ (t := ['\n']) (by decide)]
  | stack => rfl

end CMake

/-! ## Matchers and channels -/

namespace Matcher

/-- **No grammar claims a blank line.** -/
theorem claimed_of_blank (m : Matcher) (h : isBlankLine line = true) :
    (m.step line).1.claimed = false := by
  cases m with
  | gcc s => simp only [step, s.step_of_blank h]; rfl
  | gnuld => simp only [step, GnuLd.read_of_blank h]; rfl
  | msvc => simp only [step, Msvc.read_of_blank h]; rfl
  | ghs held => simp only [step, GreenHills.step_of_blank held h]; rfl
  | diab => simp only [step, Diab.read_of_blank h]; rfl
  | iar held => simp only [step, Iar.step_of_blank held h]; rfl
  | iwyu s => simp only [step, s.step_of_blank h]; rfl
  | cmake s =>
    simp only [step, CMake.step_of_blank s h]
    cases s with
    | none => rfl
    | some b => cases hb : b.afterBlank <;> simp only [hb] <;> rfl

/-- **Two blank lines finish what a flush would**, the first or the second of them. -/
theorem finished_of_blanks (m : Matcher) (h : isBlankLine line = true)
    (h' : isBlankLine line' = true) :
    (m.step line).1.finished.toList ++ ((m.step line).2.step line').1.finished.toList =
      m.flush.1.toList := by
  cases m with
  | gcc s =>
    simp only [step, s.step_of_blank h, Gcc.State.leave, Prod.map_fst, Prod.map_snd,
      Gcc.State.step_of_blank _ h']
    exact List.append_nil _
  | gnuld => simp only [step, GnuLd.read_of_blank h, GnuLd.read_of_blank h']; rfl
  | msvc => simp only [step, Msvc.read_of_blank h, Msvc.read_of_blank h']; rfl
  | ghs held =>
    simp only [step, GreenHills.step_of_blank _ h, GreenHills.step_of_blank _ h', Prod.map_fst,
      Prod.map_snd]
    exact List.append_nil _
  | diab => simp only [step, Diab.read_of_blank h, Diab.read_of_blank h']; rfl
  | iar held =>
    simp only [step, Iar.step_of_blank _ h, Iar.step_of_blank _ h', Prod.map_fst, Prod.map_snd]
    exact List.append_nil _
  | iwyu s =>
    simp only [step, Iwyu.State.step_of_blank _ h, Iwyu.State.step_of_blank _ h', Prod.map_fst,
      Prod.map_snd]
    exact List.append_nil _
  | cmake s =>
    simp only [step, CMake.step_of_blank s h, Prod.map_fst, Prod.map_snd, CMake.step_of_blank _ h']
    cases s with
    | none => rfl
    | some b =>
      cases hb : b.afterBlank with
      | true => simp only [hb]; rfl
      | false =>
        -- the block is still open, and the second blank line ends it
        simp only [hb, Bool.false_eq_true, if_false, CMake.afterBlank_blank, if_true,
          CMake.done_blank]
        rfl

end Matcher

namespace Solo

theorem tryNew_of_blank (h : isBlankLine line = true) (xs : List (Grammar × Nat)) :
    tryNew line xs = none := by
  induction xs with
  | nil => rfl
  | cons x xs ih => simp only [tryNew, Matcher.claimed_of_blank _ h, ih]; rfl

/-- A blank line goes to the grammar at work alone. -/
theorem dispatch_of_blank (s : Solo) (h : isBlankLine line = true) :
    s.dispatch line = match s.active with
      | none => ([], s)
      | some (i, m) =>
        ((m.step line).1.finished.toList, { s with active := some (i, (m.step line).2) }) := by
  unfold dispatch
  rw [tryNew_of_blank h]
  cases s.active with
  | none => rfl
  | some x => simp only [Matcher.claimed_of_blank _ h]; rfl

theorem close_eq_blanks (s : Solo) (h : isBlankLine line = true) (h' : isBlankLine line' = true) :
    s.close.1 = (s.dispatch line).1 ++ ((s.dispatch line).2.dispatch line').1 := by
  rw [dispatch_of_blank s h, dispatch_of_blank _ h', close]
  cases ha : s.active with
  | none => simp only [ha]; rfl
  | some x =>
    obtain ⟨i, m⟩ := x
    exact (Matcher.finished_of_blanks m h h').symm

end Solo

namespace Channel

/-- **Two blank lines do what the end of the stream does.** Whatever lines and ends of stream a
channel has taken, closing it hands over the diagnostics that two blank lines would. -/
theorem close_eq_blank_lines (gs : List Grammar) (xs : List Input)
    (h : isBlankLine line = true) (h' : isBlankLine line' = true) :
    let c := ((ofGrammars gs).run xs).2
    c.close.1 = (c.dispatch line).1 ++ ((c.dispatch line).2.dispatch line').1 := by
  intro c
  have hs : (Solo.ofGrammars gs).Valid := Solo.valid_none rfl
  have hc : c = ((Solo.ofGrammars gs).run xs).2.channel :=
    congrArg Prod.snd (Solo.run_channel hs xs)
  have hv := Solo.valid_run hs xs
  rw [hc, Solo.close_channel hv, Solo.dispatch_channel hv,
    Solo.dispatch_channel (Solo.valid_dispatch hv line)]
  exact Solo.close_eq_blanks _ h h'

/-- A message of CMake that has seen a blank line already. -/
theorem close_eq_blank_lines_cmake :
    let c := ((ofGrammars [.iwyu, .cmake]).run
      [.line "CMake Error at CMakeLists.txt:3 (find_package):".toList,
        .line "  Could not find it.".toList, .line []]).2
    isBlankLine " \t".toList = true ∧ isBlankLine [] = true ∧
      c.close.1.map (·.message) = ["Could not find it."] ∧
      c.close.1 = (c.dispatch " \t".toList).1 ++ ((c.dispatch " \t".toList).2.dispatch []).1 := by
  intro c
  have h : isBlankLine " \t".toList = true := by decide
  exact ⟨h, rfl, by decide +kernel, close_eq_blank_lines _ _ h rfl⟩

end Channel

end BuildDiagnostics
