import BuildDiagnostics.Proofs.BlankLine
import BuildDiagnostics.Proofs.CMakeLine
import Mathlib.Data.List.Chain

/-!
# Messages of CMake

A message of CMake is a heading, the indented text with single blank lines between its paragraphs,
and perhaps a call stack. Two blank lines end it, or a status line, or the end of the output. What
the text quotes may look like the output of any other tool: while the message is open, the grammar
of CMake is asked first and claims every line that is not blank.

* `CMakeMessage`: a message, as it is written and as it should be recorded.
* `Solo.run_body`, `Solo.run_stack`, `Solo.run_ending`: the parts of a message, read one by one.
* `Consumer.cmake_message_recorded`: a message is recorded as one diagnostic.
-/

namespace BuildDiagnostics

open Text Pattern
open Channel (Input)

/-! ## What is written -/

/-- A line of the text of a message: indented, or blank between two paragraphs. -/
inductive CMakeText
  | indented (text : List Char) (inline : '\n' ∉ text) (visible : isBlankLine text = false)
  | blank (line : Line) (inline : '\n' ∉ line) (blank : isBlankLine line = true)

namespace CMakeText

/-- The line as it is written. -/
def line : CMakeText → Line
  | indented t _ _ => ' ' :: ' ' :: t
  | blank l _ _ => l

/-- What the line adds to a message. -/
def text : CMakeText → List Char
  | indented t _ _ => t
  | blank _ _ _ => []

/-- Whether the line is blank. -/
def isBlank : CMakeText → Bool
  | indented _ _ _ => false
  | blank _ _ _ => true

theorem line_inline (x : CMakeText) : '\n' ∉ x.line := by
  cases x with
  | indented t ht _ => simpa [line] using ht
  | blank l hl _ => exact hl

end CMakeText

/-- What ends a message. -/
inductive CMakeEnding
  | blanks (l l' : Line) (inline : '\n' ∉ l ∧ '\n' ∉ l')
      (blank : isBlankLine l = true ∧ isBlankLine l' = true)
  | status (rest : List Char) (inline : '\n' ∉ rest)
      (left : CMake.LeftByOthers ('-' :: '-' :: rest))
  | close

/-- What the ending brings to its channel. -/
def CMakeEnding.inputs : CMakeEnding → List Input
  | blanks l l' _ _ => [.line l, .line l']
  | status rest _ _ => [.line ('-' :: '-' :: rest)]
  | close => [.close]

theorem CMakeEnding.inputs_inline {e : CMakeEnding} {l : Line} (h : .line l ∈ e.inputs) :
    '\n' ∉ l := by
  cases e with
  | blanks l₁ l₂ hl _ =>
    rcases List.mem_pair.1 h with h | h
    · cases h
      exact hl.1
    · cases h
      exact hl.2
  | status rest hrest _ =>
    cases List.mem_singleton.1 h
    simpa using hrest
  | close => cases List.mem_singleton.1 h

/-- A message of CMake. -/
structure CMakeMessage where
  heading : CMakeHeading
  body : List CMakeText
  /-- The frames of the call stack, if there is one. -/
  stack : Option (List CMakePlace)
  ending : CMakeEnding
  paragraphs : body.IsChain fun x y => x.isBlank = true → y.isBlank = false

namespace CMakeMessage

/-- The text of a body, without its indentation. -/
def textOf (body : List CMakeText) : List Char := body.flatMap fun x => x.text ++ ['\n']

/-- The lines of a call stack. -/
def stackLines : Option (List CMakePlace) → List Line
  | none => []
  | some frames => CMake.stackTitle.toList :: frames.map CMakePlace.frame

theorem stackLines_inline {stack : Option (List CMakePlace)} {l : Line} (h : l ∈ stackLines stack) :
    '\n' ∉ l := by
  cases stack with
  | none => cases h
  | some frames =>
    rcases List.mem_cons.1 h with rfl | h
    · decide
    · obtain ⟨f, -, rfl⟩ := List.mem_map.1 h
      exact f.frame_inline

/-- The lines before the ending. -/
def lines (m : CMakeMessage) : List Line :=
  m.heading.line :: (m.body.map CMakeText.line ++ stackLines m.stack)

/-- What the message brings to its channel. -/
def inputs (m : CMakeMessage) : List Input := m.lines.map .line ++ m.ending.inputs

theorem lines_inline {m : CMakeMessage} {l : Line} (h : l ∈ m.lines) : '\n' ∉ l := by
  rcases List.mem_cons.1 h with rfl | h
  · exact m.heading.line_inline
  · rcases List.mem_append.1 h with h | h
    · obtain ⟨x, -, rfl⟩ := List.mem_map.1 h
      exact x.line_inline
    · exact stackLines_inline h

theorem inputs_inline (m : CMakeMessage) : ∀ l, Input.line l ∈ m.inputs → '\n' ∉ l := by
  intro l hl
  rcases List.mem_append.1 hl with hl | hl
  · obtain ⟨l', hl', e⟩ := List.mem_map.1 hl
    cases e
    exact lines_inline hl'
  · exact CMakeEnding.inputs_inline hl

/-- **The diagnostic that the message is**: the one of its heading, with the text without the blanks
at its ends, and the place of each frame. -/
def diagnostic (m : CMakeMessage) : Diagnostic :=
  { m.heading.diagnostic with
    message := String.ofList (trim (textOf m.body))
    related := (m.stack.getD []).map CMakePlace.related }

end CMakeMessage

/-! ## An open block -/

namespace CMake

/-- A line that neither opens nor ends a block belongs to the open one. -/
theorem step_of_claimed {b : Block} {l : Line} (hheading : headingPattern.match? l = none)
    (hstatus : "--".toList.isPrefixOf l = false) (hblank : isBlankLine l = false) :
    step (some b) l = (.claim none, some (b.line l)) := by
  unfold step
  rw [hheading]
  dsimp only
  rw [hstatus, hblank]
  rfl

/-- An indented line belongs to the open block. -/
theorem step_of_indented {b : Block} {t : List Char} (ht : isBlankLine t = false) :
    step (some b) (' ' :: ' ' :: t) = (.claim none, some (b.line (' ' :: ' ' :: t))) := by
  have hheading : headingPattern.match? (' ' :: ' ' :: t) = none :=
    match?_of_startsOff (by decide) (List.mem_singleton_self ' ') _
  exact step_of_claimed hheading rfl ht

/-- The title of a call stack belongs to the open block. -/
theorem step_title (b : Block) : step (some b) stackTitle.toList =
    (.claim none, some (b.line stackTitle.toList)) :=
  step_of_claimed (by decide) (by decide) (by decide)

/-- A block whose text is being read. -/
def reading (d : Diagnostic) (text : List Char) (afterBlank : Bool) : Block :=
  ⟨.text, afterBlank, { d with message := String.ofList text }⟩

theorem addText_reading (d : Diagnostic) (text t : List Char) (a : Bool) :
    (reading d text a).addText t = reading d (text ++ (t ++ ['\n'])) a := by
  simp only [reading, Block.addText, String.ofList_append]

theorem line_reading (d : Diagnostic) (text t : List Char) (a : Bool) :
    (reading d text a).line (' ' :: ' ' :: t) = reading d (text ++ (t ++ ['\n'])) false :=
  addText_reading d text t false

theorem blank_reading (d : Diagnostic) (text : List Char) (a : Bool) :
    (reading d text a).blank = reading d (text ++ ['\n']) true :=
  addText_reading d text [] true

end CMake

namespace Solo

variable {b b' : CMake.Block} {l l' : Line}

/-- All grammars, with an open block of CMake. -/
def holding (b : CMake.Block) : Solo := ⟨Grammar.all, some (7, .cmake (some b))⟩

/-- All grammars, after a block of CMake. -/
def relieved : Solo := ⟨Grammar.all, some (7, .cmake none)⟩

theorem tryNew_of_left (hl : CMake.LeftByOthers l) {xs : List (Grammar × Nat)}
    (hxs : ∀ x ∈ xs, x.1 ≠ .cmake) : tryNew l xs = none := by
  induction xs with
  | nil => rfl
  | cons x xs ih =>
    simp only [tryNew, hl x.1 (hxs x List.mem_cons_self),
      ih fun y hy => hxs y (List.mem_cons_of_mem _ hy)]
    rfl

/-- **A heading opens its block.** -/
theorem dispatch_heading (h : CMakeHeading) :
    (ofGrammars Grammar.all).dispatch h.line = ([], holding { diagnostic := h.diagnostic }) := by
  have hothers : (ofGrammars Grammar.all).others = Grammar.all.dropLast.zipIdx ++ [(.cmake, 7)] :=
    rfl
  have hclaim : tryNew h.line (ofGrammars Grammar.all).others =
      some (7, none, .cmake (some { diagnostic := h.diagnostic })) := by
    rw [hothers, tryNew_append_of_none (tryNew_of_left h.left_by_others (by decide))]
    simp only [tryNew, Matcher.fresh, Matcher.step, h.step_line]
    rfl
  unfold dispatch
  rw [hclaim]
  rfl

/-- A line that the open block claims. -/
theorem dispatch_claimed (h : CMake.step (some b) l = (.claim none, some b')) :
    (holding b).dispatch l = ([], holding b') := by
  simp only [dispatch, holding, Matcher.step, h]
  rfl

/-- A blank line after one that is not blank. -/
theorem dispatch_first_blank (hl : isBlankLine l = true) (hb : b.afterBlank = false) :
    (holding b).dispatch l = ([], holding b.blank) := by
  rw [dispatch_of_blank _ hl]
  simp only [holding, Matcher.step, CMake.step_of_blank _ hl, hb]
  rfl

/-- A blank line after another one. -/
theorem dispatch_second_blank (hl : isBlankLine l = true) (hb : b.afterBlank = true) :
    (holding b).dispatch l = ([b.done], relieved) := by
  rw [dispatch_of_blank _ hl]
  simp only [holding, Matcher.step, CMake.step_of_blank _ hl, hb]
  rfl

/-- A status line. -/
theorem dispatch_status {rest : List Char} (hl : CMake.LeftByOthers ('-' :: '-' :: rest)) :
    (holding b).dispatch ('-' :: '-' :: rest) = ([b.done], relieved) := by
  have hstep : CMake.step (some b) ('-' :: '-' :: rest) = (.leave (some b.done), none) := by
    unfold CMake.step
    rw [match?_of_startsOff (by decide) (List.mem_singleton_self '-')]
    rfl
  have hothers : (holding b).others = Grammar.all.dropLast.zipIdx := rfl
  have hnone : tryNew ('-' :: '-' :: rest) (holding b).others = none := by
    rw [hothers]
    exact tryNew_of_left hl (by decide)
  simp only [dispatch, hnone]
  simp only [holding, Matcher.step, hstep]
  rfl

/-- **A line of the text adds its text**, unless it is the second blank one in a row. -/
theorem dispatch_body {d : Diagnostic} {text : List Char} {a : Bool} {x : CMakeText}
    (hx : a = true → x.isBlank = false) : (holding (CMake.reading d text a)).dispatch x.line =
      ([], holding (CMake.reading d (text ++ (x.text ++ ['\n'])) x.isBlank)) := by
  cases x with
  | indented t _ ht =>
    have hstep := CMake.step_of_indented (b := CMake.reading d text a) ht
    rw [CMake.line_reading] at hstep
    exact dispatch_claimed hstep
  | blank l _ hl =>
    have ha : a = false := by
      cases a with
      | false => rfl
      | true => cases hx rfl
    rw [CMakeText.line, dispatch_first_blank hl ha, CMake.blank_reading]
    rfl

/-! ## A message -/

/-- **The text of a message is collected line by line.** -/
theorem run_body {body : List CMakeText}
    (hbody : body.IsChain fun x y => x.isBlank = true → y.isBlank = false) (d : Diagnostic)
    (text : List Char) {a : Bool} (ha : ∀ x ∈ body.head?, a = true → x.isBlank = false) :
    ∃ a', (holding (CMake.reading d text a)).run (body.map fun x => .line x.line) =
      ([], holding (CMake.reading d (text ++ CMakeMessage.textOf body) a')) := by
  induction body generalizing text a with
  | nil => exact ⟨a, by rw [CMakeMessage.textOf, List.flatMap_nil, List.append_nil]; rfl⟩
  | cons x body ih =>
    obtain ⟨hnext, hrest⟩ := List.isChain_cons.1 hbody
    obtain ⟨a', hrun⟩ := ih hrest (text ++ (x.text ++ ['\n'])) hnext
    refine ⟨a', ?_⟩
    rw [List.map_cons, run, react, dispatch_body (ha x rfl), hrun, CMakeMessage.textOf,
      CMakeMessage.textOf, List.flatMap_cons, List.append_assoc]
    rfl

/-- **Each frame of a call stack adds its place.** -/
theorem run_frames (frames : List CMakePlace) (d : Diagnostic) :
    (holding ⟨.stack, false, d⟩).run (frames.map fun f => .line f.frame) =
      ([], holding ⟨.stack, false,
        { d with related := d.related ++ frames.map CMakePlace.related }⟩) := by
  induction frames generalizing d with
  | nil => rw [List.map_nil, List.map_nil, List.append_nil]; rfl
  | cons f frames ih =>
    have hstep : (holding ⟨.stack, false, d⟩).dispatch f.frame = ([], holding ⟨.stack, false,
        { d with related := d.related ++ [f.related] }⟩) := by
      rw [← f.line_frame d false]
      exact dispatch_claimed (CMake.step_of_indented f.located_visible)
    rw [List.map_cons, run, react, hstep, ih, List.map_cons, List.append_assoc]
    rfl

/-- **A call stack adds the places of its frames.** -/
theorem run_stack (stack : Option (List CMakePlace)) (d : Diagnostic) (text : List Char)
    (a : Bool) : ∃ phase a', (holding (CMake.reading d text a)).run
      ((CMakeMessage.stackLines stack).map .line) = ([], holding ⟨phase, a',
        { d with
          message := String.ofList text
          related := d.related ++ (stack.getD []).map CMakePlace.related }⟩) := by
  cases stack with
  | none =>
    refine ⟨.text, a, ?_⟩
    rw [Option.getD_none, List.map_nil, List.append_nil]
    rfl
  | some frames =>
    refine ⟨.stack, false, ?_⟩
    have hframes := run_frames frames { d with message := String.ofList text }
    have htitle : (holding (CMake.reading d text a)).dispatch CMake.stackTitle.toList =
        ([], holding ⟨.stack, false, { d with message := String.ofList text }⟩) :=
      dispatch_claimed (CMake.step_title _)
    rw [CMakeMessage.stackLines, List.map_cons, List.map_map, run, react, htitle]
    exact hframes

/-- **The lines before the ending open one block**, whose diagnostic is the message's. -/
theorem run_lines (m : CMakeMessage) :
    ∃ b, (ofGrammars Grammar.all).run (m.lines.map .line) = ([], holding b) ∧
      b.done = m.diagnostic := by
  have hheading : (ofGrammars Grammar.all).run [.line m.heading.line] =
      ([], holding (CMake.reading m.heading.diagnostic [] false)) := by
    rw [run, react, dispatch_heading]
    rfl
  obtain ⟨a, hbody⟩ := run_body m.paragraphs m.heading.diagnostic [] (a := false)
    (fun _ _ h => by cases h)
  obtain ⟨phase, a', hstack⟩ :=
    run_stack m.stack m.heading.diagnostic (CMakeMessage.textOf m.body) a
  have hlines : m.lines.map Input.line = [.line m.heading.line] ++
      ((m.body.map fun x => .line x.line) ++ (CMakeMessage.stackLines m.stack).map .line) := by
    simp [CMakeMessage.lines]
  rw [hlines, run_append_of_silent hheading, run_append_of_silent hbody]
  refine ⟨_, hstack, ?_⟩
  rw [CMake.Block.done, String.toList_ofList]
  rfl

/-- **However a message ends, its block is done**, and nothing is held any more. -/
theorem run_ending (e : CMakeEnding) (b : CMake.Block) :
    ∃ s, (holding b).run e.inputs = ([b.done], s) ∧ s.close.1 = [] := by
  cases e with
  | blanks l l' _ hl =>
    refine ⟨relieved, ?_, rfl⟩
    cases hb : b.afterBlank with
    | true =>
      -- the text ended with a blank line, so the first one is enough
      have hidle : relieved.dispatch l' = ([], relieved) := by
        rw [dispatch_of_blank _ hl.2]
        simp only [relieved, Matcher.step, CMake.step_of_blank _ hl.2]
        rfl
      simp only [CMakeEnding.inputs, run, react, dispatch_second_blank hl.1 hb, hidle]
      rfl
    | false =>
      simp only [CMakeEnding.inputs, run, react, dispatch_first_blank hl.1 hb,
        dispatch_second_blank hl.2 (CMake.afterBlank_blank b), CMake.done_blank]
      rfl
  | status rest _ hl =>
    refine ⟨relieved, ?_, rfl⟩
    simp only [CMakeEnding.inputs, run, react, dispatch_status hl]
    rfl
  | close => exact ⟨ofGrammars Grammar.all, rfl, rfl⟩

/-- **A message is one diagnostic**, after which nothing is held. -/
theorem run_message (m : CMakeMessage) :
    ∃ s, (ofGrammars Grammar.all).run m.inputs = ([m.diagnostic], s) ∧ s.close.1 = [] := by
  obtain ⟨b, hlines, hdone⟩ := run_lines m
  obtain ⟨s, hending, hs⟩ := run_ending m.ending b
  refine ⟨s, ?_, hs⟩
  rw [CMakeMessage.inputs, run_append_of_silent hlines, hending, hdone]

end Solo

/-! ## What is recorded -/

namespace Consumer

/-- The action that brings an input to a stream: the text of a line is fed. -/
def Action.of : Input → Action
  | .line l => .feed l
  | .close => .close

theorem fedLines_of_inline {l : Line} (hl : '\n' ∉ l) : fedLines l = [l] := by
  unfold fedLines lines
  rw [pieces_of_not_mem hl]
  cases l with
  | nil => rfl
  | cons c l => rfl

/-- Lines without a line feed are read as they are. -/
theorem flatMap_inputs_of {c : Consumer} (hc : c.enabled = true) {xs : List Input}
    (hxs : ∀ l, Input.line l ∈ xs → '\n' ∉ l) : (xs.map Action.of).flatMap c.inputs = xs := by
  have hone : ∀ x ∈ xs, c.inputs (.of x) = [x] := by
    intro x hx
    cases x with
    | line l =>
      rw [Action.of, inputs, if_pos hc, fedLines_of_inline (hxs l hx)]
      rfl
    | close => rfl
  rw [List.flatMap_map, List.flatMap_congr hone, List.flatMap_singleton']

/-- A consumer that is handed one diagnostic records it. -/
theorem recorded_of_one {r : Registry} {as : List (Stream × Action)} {d : Diagnostic}
    (h : ((ofRegistry r).candidates as).map Prod.snd = [d]) :
    ((ofRegistry r).performAll as).recorded = [d] := by
  have hledger := congrArg Prod.fst (ledger_performAll (ofRegistry r) as)
  rw [h] at hledger
  exact hledger.trans (by simp [recordAll, record, ofRegistry, ledger])

/-- **One diagnostic of a stream that runs alone is all that is recorded**, at once and at the end
of the run. -/
theorem recorded_alone {r : Registry} (s : Stream) {xs : List Input} {d : Diagnostic} {σ : Solo}
    (hxs : ∀ l, Input.line l ∈ xs → '\n' ∉ l)
    (hrun : (Solo.ofGrammars r.enabledGrammars).run xs = ([d], σ)) (hσ : σ.close.1 = []) :
    let c := (ofRegistry r).performAll (xs.map fun x => (s, .of x))
    c.recorded = [d] ∧ c.finish.recorded = [d] := by
  let as : List (Stream × Action) := xs.map fun x => (s, .of x)
  have hvalid : (Solo.ofGrammars r.enabledGrammars).Valid := Solo.valid_none rfl
  have hchannel : ∀ t, (ofRegistry r).channel t = (Solo.ofGrammars r.enabledGrammars).channel :=
    channel_ofRegistry r
  -- after these actions come none, or the end of both streams
  have hon : ∀ t rest, onStream t rest = [] ∨ onStream t rest = [.close] →
      (ofRegistry r).candidatesOn t (as ++ rest) = if t = s then [d] else [] := by
    intro t rest hrest
    rw [candidatesOn_eq, hchannel, Solo.run_channel hvalid, onStream_append, List.flatMap_append]
    by_cases ht : t = s
    · have has : onStream t as = xs.map Action.of := by
        simp [as, onStream, List.filter_map, Function.comp_def, ht]
      rw [has, flatMap_inputs_of rfl hxs, Solo.run_append, hrun, if_pos ht]
      rcases hrest with hrest | hrest
      · rw [hrest]
        rfl
      · rw [hrest, List.flatMap_singleton, inputs, Solo.run, Solo.react, hσ]
        rfl
    · have has : onStream t as = [] := by
        simp [as, onStream, List.filter_map, Function.comp_def, Ne.symm ht]
      rw [has, if_neg ht]
      rcases hrest with hrest | hrest <;> rw [hrest] <;> rfl
  have hall : ∀ rest, (∀ t, onStream t rest = [] ∨ onStream t rest = [.close]) →
      ((ofRegistry r).candidates (as ++ rest)).map Prod.snd = [d] := by
    intro rest hrest
    rw [map_snd_candidates fun t ht => (hon t rest (hrest t)).trans (if_neg ht),
      hon s rest (hrest s), if_pos rfl]
  constructor
  · have hnow := recorded_of_one (hall [] fun t => .inl rfl)
    rwa [List.append_nil] at hnow
  · have hend := recorded_of_one (hall ending fun t => .inr (by cases t <;> rfl))
    rwa [performAll, List.foldl_append] at hend

theorem enabledGrammars_builtin : Registry.builtin.enabledGrammars = Grammar.all := by
  decide

/-- **A message of CMake is recorded as one diagnostic**, whatever its text looks like: at its
ending, and nothing is added when the run ends. -/
theorem cmake_message_recorded (s : Stream) (m : CMakeMessage) :
    let c := (ofRegistry .builtin).performAll (m.inputs.map fun x => (s, .of x))
    c.recorded = [m.diagnostic] ∧ c.finish.recorded = [m.diagnostic] := by
  obtain ⟨σ, hrun, hσ⟩ := Solo.run_message m
  rw [← enabledGrammars_builtin] at hrun
  exact recorded_alone s m.inputs_inline hrun hσ

/-- A message that quotes a compiler and a linker. -/
def quotingMessage : CMakeMessage where
  heading := {
    level := "Deprecation Error", dev := true, file := "cmake/a b".toList, number := 7
    command := "message".toList, level_mem := by decide, file_inline := by decide
    file_plain := by decide, number_pos := by decide, number_lt := by decide
    command_word := by decide }
  body := [
    .indented "main.c:3:5: error: expected expression".toList (by decide) (by decide),
    .blank [] (by decide) (by decide),
    .indented "/usr/bin/ld: main.o: undefined reference to f".toList (by decide) (by decide)]
  stack := some [
    { file := "C:/src/CMakeLists.txt".toList, number := 20, command := "check_all".toList
      file_inline := by decide, number_pos := by decide, number_lt := by decide
      command_word := by decide }]
  ending := .status " Configuring".toList (by decide) (fun g _ => by cases g <;> decide)
  paragraphs := by decide

/-- The message as it is fed, and what is recorded of it. -/
theorem cmake_message_recorded_quoting :
    quotingMessage.inputs = [
      .line "CMake Deprecation Error (dev) at cmake/a b:7 (message):".toList,
      .line "  main.c:3:5: error: expected expression".toList,
      .line [],
      .line "  /usr/bin/ld: main.o: undefined reference to f".toList,
      .line "Call Stack (most recent call first):".toList,
      .line "  C:/src/CMakeLists.txt:20 (check_all)".toList,
      .line "-- Configuring".toList] ∧
    quotingMessage.diagnostic = {
      source := "CMake (message)", file := "cmake/a b", range := .restOfLine 6 0
      severity := "error"
      message := "main.c:3:5: error: expected expression\n\n" ++
        "/usr/bin/ld: main.o: undefined reference to f"
      related := [⟨"C:/src/CMakeLists.txt", .restOfLine 19 0, "In call to 'check_all' here"⟩] } ∧
    ((ofRegistry .builtin).performAll (quotingMessage.inputs.map fun x =>
      (.error, .of x))).recorded = [quotingMessage.diagnostic] :=
  ⟨by decide, by decide, (cmake_message_recorded .error quotingMessage).1⟩

end Consumer

end BuildDiagnostics
