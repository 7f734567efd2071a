import BuildDiagnostics.Proofs.IncludeLine

/-!
# Reports on includes

A report is a list of sections, each ended by a blank line, by dashes, or by what comes next. Every
section is rendered completely: the lines to add as one warning, each line to remove as a warning of
its own, and the full list as one note. A section that is still open when the next heading comes is
handed over by that heading.

* `Delivers`: what a run over some lines hands over, on top of what was open before.
* `delivers_section`, `delivers_ending`, `delivers_report`: what sections, endings and reports
  deliver.
* `report_rendered`: a report is rendered completely and in order.
-/

namespace BuildDiagnostics.Iwyu

open Text

/-! ## Reports -/

/-- The line is no heading and ends no section. -/
structure IsText (l : Line) : Prop where
  not_blank : isBlankLine l = false
  not_dashes : trim l ≠ "---".toList
  not_heading : ¬ IsHeading l

/-- A line of a section of lines to remove. -/
inductive RemoveLine
  /-- An entry as the tool prints it. -/
  | cited (text : List Char) (first last : Nat) (inline : '\n' ∉ text)
      (ends : trimEnd text = text) (first_pos : 1 ≤ first) (first_lt : first < UInt32.size)
      (last_pos : 1 ≤ last) (last_lt : last < UInt32.size)
  /-- Whatever else is read as an entry: with other blanks, or with other digits. -/
  | entry (e : Entry)
  | other (l : Line) (text : IsText l) (no_entry : ∀ e : Entry, l ≠ e.line)

namespace RemoveLine

/-- The line as it is printed. -/
def line : RemoveLine → Line
  | cited text first last .. =>
    "- ".toList ++ (text ++ ("  // lines ".toList ++ (decimal first ++ '-' :: decimal last)))
  | entry e => e.line
  | other l .. => l

/-- The warning about a line to remove. -/
def warning (file text : List Char) (first last : UInt32) : Diagnostic where
  source := "iwyu"
  file := String.ofList file
  range := .ofEnds first 0 last Position.restOfLine
  severity := "warning"
  message := "Remove this line: " ++ String.ofList text

/-- What the line is rendered as. -/
def diagnostics (file : List Char) : RemoveLine → List Diagnostic
  | cited text first last .. =>
    [warning file text (first - 1).toUInt32 (last - 1).toUInt32]
  | entry e => [warning file e.text (zeroBased e.first) (zeroBased e.last)]
  | other .. => []

end RemoveLine

/-- A section of a report. -/
inductive Section
  | add (file : List Char) (body : List Line) (inline : '\n' ∉ file) (text : ∀ l ∈ body, IsText l)
  | remove (file : List Char) (body : List RemoveLine) (inline : '\n' ∉ file)
  | full (file : List Char) (body : List Line) (inline : '\n' ∉ file) (reads : ReadsAsFull file)
      (text : ∀ l ∈ body, IsText l)

namespace Section

/-- The lines of the section, its heading first. -/
def lines : Section → List Line
  | add file body .. => (file ++ addTitle) :: body
  | remove file body .. => (file ++ removeTitle) :: body.map RemoveLine.line
  | full file body .. => fullHeading file :: body

/-- A report on the first line of the file, with the lines of the section under its title. -/
def listed (file : List Char) (severity title : String) (body : List Line) : List Diagnostic :=
  if body = [] then []
  else [{
    source := "iwyu", file := String.ofList file, range := .restOfLine 0 0, severity := severity
    message := "\n".intercalate (title :: body.map fun l => String.ofList (trimEnd l)) }]

/-- What the section is rendered as. -/
def diagnostics : Section → List Diagnostic
  | add file body .. => listed file "warning" "Add these lines:" body
  | remove file body .. => body.flatMap (RemoveLine.diagnostics file)
  | full file body .. => listed file "note" "The full include-list:" body

end Section

/-- What ends a section. -/
inductive Ending
  | blank (l : Line) (h : isBlankLine l = true)
  | dashes (l : Line) (h : trim l = "---".toList)
  /-- The next heading, or the end of the output. -/
  | next

namespace Ending

/-- The line of the ending, if it has one of its own. -/
def lines : Ending → List Line
  | blank l _ => [l]
  | dashes l _ => [l]
  | next => []

/-- A blank line is left to others. -/
def claims : Ending → List Bool
  | blank .. => [false]
  | dashes .. => [true]
  | next => []

end Ending

/-- The lines of a report. -/
def reportLines (r : List (Section × Ending)) : List Line :=
  r.flatMap fun x => x.1.lines ++ x.2.lines

/-- What a report is rendered as. -/
def reportDiagnostics (r : List (Section × Ending)) : List Diagnostic :=
  r.flatMap fun x => x.1.diagnostics

/-- Which lines of a report are claimed: all but the blank ones that end a section. -/
def reportClaims (r : List (Section × Ending)) : List Bool :=
  r.flatMap fun x => List.replicate x.1.lines.length true ++ x.2.claims

/-! ## Runs -/

namespace State

/-- The answers to lines, and the section that is open after them. -/
def answers (s : State) : List Line → List Verdict × State
  | [] => ([], s)
  | l :: ls => ((s.step l).1 :: ((s.step l).2.answers ls).1, ((s.step l).2.answers ls).2)

theorem answers_append (s : State) (xs ys : List Line) : s.answers (xs ++ ys) =
    ((s.answers xs).1 ++ ((s.answers xs).2.answers ys).1, ((s.answers xs).2.answers ys).2) := by
  induction xs generalizing s with
  | nil => rfl
  | cons x xs ih => simp only [List.cons_append, answers, ih]

end State

/-- The lines are claimed or left as listed; with what is still open after them, they hand over what
was open before and then the diagnostics. -/
structure Delivers (s : State) (ls : List Line) (claims : List Bool) (ds : List Diagnostic)
    (s' : State) : Prop where
  ends : (s.answers ls).2 = s'
  claimed : (s.answers ls).1.map Verdict.claimed = claims
  found : (s.answers ls).1.filterMap Verdict.finished ++ s'.report.toList = s.report.toList ++ ds

section Delivers

variable {s s₁ s₂ : State} {xs ys : List Line} {b c : List Bool} {ds es : List Diagnostic}

theorem Delivers.nil (s : State) : Delivers s [] [] [] s := ⟨rfl, rfl, by simp [State.answers]⟩

theorem Delivers.append (h : Delivers s xs b ds s₁) (h' : Delivers s₁ ys c es s₂) :
    Delivers s (xs ++ ys) (b ++ c) (ds ++ es) s₂ := by
  obtain ⟨rfl, hb, hds⟩ := h
  obtain ⟨rfl, hc, hes⟩ := h'
  refine ⟨by rw [State.answers_append], by rw [State.answers_append, List.map_append, hb, hc], ?_⟩
  rw [State.answers_append, List.filterMap_append, List.append_assoc, hes, ← List.append_assoc, hds,
    List.append_assoc]

/-- What a single line delivers. -/
theorem delivers_line {l : Line} {v : Verdict} (h : s.step l = (v, s₁))
    (hfound : v.finished.toList ++ s₁.report.toList = s.report.toList ++ ds) :
    Delivers s [l] [v.claimed] ds s₁ := by
  have hone : s.answers [l] = ([v], s₁) := by simp only [State.answers, h]
  refine ⟨by rw [hone], by rw [hone]; rfl, ?_⟩
  rw [hone, ← hfound]
  cases hv : v.finished <;> simp [hv]

/-- A heading hands over what was open before it. -/
theorem delivers_heading {l : Line} {opened : State} (h : section? l = some opened) :
    Delivers s [l] [true] [] opened := by
  refine delivers_line (v := .claim s.report) (by unfold State.step; rw [h]) ?_
  rw [report_of_section? h]
  rfl

end Delivers

/-! ## Lines of a section -/

theorem step_of_isText {s : State} {l : Line} (h : IsText l) : s.step l = s.body l := by
  unfold State.step
  rw [section?_eq_none h.not_heading]
  dsimp only
  rw [if_neg (by rw [h.not_blank]; decide), if_neg (by simpa using h.not_dashes)]

/-- Lines under a heading are gathered. -/
theorem answers_gathered (g : Gathering) (file : String) {body : List Line}
    (htext : ∀ l ∈ body, IsText l) (ls : List (List Char)) : (State.gather g file ls).answers body =
      (List.replicate body.length (.claim none), .gather g file (ls ++ body.map trimEnd)) := by
  induction body generalizing ls with
  | nil => simp [State.answers]
  | cons l body ih =>
    obtain ⟨hl, hbody⟩ := List.forall_mem_cons.1 htext
    simp only [State.answers, step_of_isText hl, State.body, ih hbody]
    simp [List.replicate_succ]

theorem message_listed (title : String) {body : List Line} (h : body ≠ []) :
    "\n".intercalate (title :: body.map fun l => String.ofList (trimEnd l)) =
      title ++ "\n" ++ String.ofList (['\n'].intercalate (body.map trimEnd)) := by
  have hlines : "\n".intercalate (body.map fun l => String.ofList (trimEnd l)) =
      String.ofList (['\n'].intercalate (body.map trimEnd)) := by
    rw [← String.toList_inj, String.toList_ofList, String.toList_intercalate, List.map_map]
    simp [Function.comp_def]
  obtain ⟨l, ls, rfl⟩ := List.exists_cons_of_ne_nil h
  rw [← hlines, List.map_cons, String.intercalate_cons_cons]

/-- The report of a section that has gathered all its lines. -/
theorem report_gather (g : Gathering) (file : List Char) (body : List Line) :
    (State.gather g (String.ofList file) (body.map trimEnd)).report.toList =
      Section.listed file g.severity g.title body := by
  cases body with
  | nil => rfl
  | cons l body =>
    unfold Section.listed
    rw [if_neg (by simp), message_listed _ (by simp)]
    rfl

/-- A section that gathers its lines delivers its report. -/
theorem delivers_gathered (g : Gathering) (file : List Char) {body : List Line}
    (htext : ∀ l ∈ body, IsText l) :
    Delivers (.gather g (String.ofList file) []) body (List.replicate body.length true)
      (Section.listed file g.severity g.title body)
      (.gather g (String.ofList file) (body.map trimEnd)) := by
  have hrun := answers_gathered g (String.ofList file) htext []
  rw [List.nil_append] at hrun
  refine ⟨by rw [hrun], by rw [hrun]; simp, ?_⟩
  rw [hrun, report_gather]
  simp [Verdict.claim, State.report]

/-- An entry ends in a digit, so it does not look like a heading. -/
theorem isText_entry (e : Entry) : IsText e.line := by
  have hslash : '/' ∈ e.line := by simp [Entry.line, citation]
  refine ⟨?_, fun hdashes => ?_, fun hheading => ?_⟩
  · exact List.all_eq_false.2 ⟨'/', hslash, by decide⟩
  · have hmem : '/' ∈ trim e.line := mem_trim hslash (by decide)
    rw [hdashes] at hmem
    exact absurd hmem (by decide)
  · obtain ⟨u, hu⟩ := hheading.ends
    obtain ⟨w, c, hlast⟩ := List.eq_nil_or_concat e.last |>.resolve_left e.last_ne_nil
    have hline : e.line =
        ("- ".toList ++ (e.text ++ citation e.gap e.first w)) ++ [c] := by
      simp [Entry.line, citation, hlast]
    rw [hline] at hu
    have hc : isDigit c = true := e.last_digits c (by simp [hlast])
    rw [List.singleton_inj.1 (List.append_inj_right' hu rfl)] at hc
    exact absurd hc (by decide)

theorem step_entry (file : List Char) (e : Entry) :
    (State.remove (String.ofList file)).step e.line =
      (.claim (some (RemoveLine.warning file e.text (zeroBased e.first) (zeroBased e.last))),
        .remove (String.ofList file)) := by
  obtain ⟨cs, hcs, htext, hfirst, hlast⟩ := e.match?_line
  rw [step_of_isText (isText_entry e), State.body, hcs]
  dsimp only
  unfold removal
  rw [htext, hfirst, hlast]
  rfl

/-- An entry as the tool prints it. -/
def Entry.ofNumbers (text : List Char) (first last : Nat) (inline : '\n' ∉ text)
    (ends : trimEnd text = text) : Entry where
  text := text
  gap := "  ".toList
  first := decimal first
  last := decimal last
  text_inline := inline
  text_ends := ends
  gap_ne_nil := by decide
  gap_blank := List.all_eq_true.1 (by decide)
  first_ne_nil := decimal_ne_nil first
  first_digits := fun _ hc => isDigit_of_mem_decimal hc
  last_ne_nil := decimal_ne_nil last
  last_digits := fun _ hc => isDigit_of_mem_decimal hc

/-- **A line of a section of lines to remove** is rendered at once, if it is an entry. -/
theorem delivers_removal (file : List Char) (x : RemoveLine) :
    Delivers (.remove (String.ofList file)) [x.line] [true] (x.diagnostics file)
      (.remove (String.ofList file)) := by
  cases x with
  | cited text first last inline ends first_pos first_lt last_pos last_lt =>
    have hstep := step_entry file (.ofNumbers text first last inline ends)
    simp only [Entry.ofNumbers, zeroBased_decimal first_pos first_lt,
      zeroBased_decimal last_pos last_lt] at hstep
    exact delivers_line hstep rfl
  | entry e => exact delivers_line (step_entry file e) rfl
  | other l text no_entry =>
    have hnone : removalPattern.match? l = none := by
      rw [Option.eq_none_iff_forall_ne_some]
      intro cs hcs
      obtain ⟨e, he⟩ := exists_entry_of_match? hcs
      exact no_entry e he
    have hstep : (State.remove (String.ofList file)).step l =
        (.claim none, .remove (String.ofList file)) := by
      rw [step_of_isText text, State.body, hnone]
    exact delivers_line hstep rfl

theorem delivers_removals (file : List Char) (body : List RemoveLine) :
    Delivers (.remove (String.ofList file)) (body.map RemoveLine.line)
      (List.replicate body.length true) (body.flatMap (RemoveLine.diagnostics file))
      (.remove (String.ofList file)) := by
  induction body with
  | nil => exact .nil _
  | cons x body ih => exact (delivers_removal file x).append ih

/-- **A section delivers what it is rendered as**, and stays open. -/
theorem delivers_section (s : State) (x : Section) : ∃ s' ≠ .idle,
    Delivers s x.lines (List.replicate x.lines.length true) x.diagnostics s' := by
  cases x with
  | add file body inline text =>
    refine ⟨_, ?_, (delivers_heading (section?_add inline)).append
      (delivers_gathered .add file text)⟩
    simp
  | remove file body inline =>
    have hbody := delivers_removals file body
    rw [← List.length_map RemoveLine.line] at hbody
    refine ⟨_, ?_, (delivers_heading (section?_remove inline)).append hbody⟩
    simp
  | full file body inline reads text =>
    refine ⟨_, ?_, (delivers_heading (section?_full inline reads)).append
      (delivers_gathered .full file text)⟩
    simp

/-- **An ending hands over what is open**, if it is a line of its own. -/
theorem delivers_ending {s : State} (hs : s ≠ .idle) (e : Ending) :
    ∃ s', Delivers s e.lines e.claims [] s' := by
  cases e with
  | blank l h =>
    have hsection : section? l = none := section?_eq_none fun hheading => by
      obtain ⟨u, rfl⟩ := hheading.ends
      exact absurd (List.all_eq_true.1 h ':' (by simp)) (by decide)
    have hstep : s.step l = (.leave s.report, .idle) := by
      unfold State.step
      rw [hsection]
      dsimp only
      rw [if_pos h]
    exact ⟨.idle, delivers_line hstep rfl⟩
  | dashes l h =>
    have hsection : section? l = none := section?_eq_none fun hheading => by
      obtain ⟨u, rfl⟩ := hheading.ends
      have hcolon : ':' ∈ trim (u ++ [':']) := mem_trim (by simp) (by decide)
      rw [h] at hcolon
      exact absurd hcolon (by decide)
    have hblank : isBlankLine l = false := by
      rw [← Bool.not_eq_true]
      intro hblank
      rw [trim_of_blank hblank] at h
      exact absurd h (by decide)
    have hstep : s.step l = (.claim s.report, .idle) := by
      unfold State.step
      rw [hsection]
      dsimp only
      rw [if_neg (by rw [hblank]; decide), if_pos (by rw [h]; decide)]
      cases s with
      | idle => exact absurd rfl hs
      | gather | remove => rfl
    exact ⟨.idle, delivers_line hstep rfl⟩
  | next => exact ⟨s, .nil s⟩

/-- **A report delivers what it is rendered as**, on top of what was open before. -/
theorem delivers_report (s : State) (r : List (Section × Ending)) :
    ∃ s', Delivers s (reportLines r) (reportClaims r) (reportDiagnostics r) s' := by
  induction r generalizing s with
  | nil => exact ⟨s, .nil s⟩
  | cons x r ih =>
    obtain ⟨s₁, hopen, hsection⟩ := delivers_section s x.1
    obtain ⟨s₂, hending⟩ := delivers_ending hopen x.2
    obtain ⟨s₃, hrest⟩ := ih s₂
    have hfirst := hsection.append hending
    rw [List.append_nil] at hfirst
    exact ⟨s₃, hfirst.append hrest⟩

/-- **A report on includes is rendered completely and in order**: each section that has lines to add
or a full list as one diagnostic on the first line of the file, and each line to remove as one on
the lines where it stands, also if it has other blanks before its citation or other digits in it
than the tool prints. All its lines are claimed, but for a blank one that ends a section. -/
theorem report_rendered (r : List (Section × Ending)) :
    let a := State.idle.answers (reportLines r)
    a.1.filterMap Verdict.finished ++ a.2.flush.1.toList = reportDiagnostics r ∧
      a.1.map Verdict.claimed = reportClaims r := by
  obtain ⟨s', rfl, hclaims, hfound⟩ := delivers_report .idle r
  exact ⟨hfound, hclaims⟩

/-- **Lines that read as something else**: the heading of the full list for a file whose name is the
end of another heading, dashes behind a blank, and an entry with one blank before its citation. -/
theorem report_misread :
    let handed := fun (ls : List String) =>
      let a := State.idle.answers (ls.map String.toList)
      a.1.filterMap Verdict.finished ++ a.2.flush.1.toList
    handed ["The full include-list for should add these lines:", "#include <a>"] =
        [listing "The full include-list for" "warning" "Add these lines:" ["#include <a>".toList]] ∧
      handed ["a.c should add these lines:", "#include <a>", " ---"] =
        [listing "a.c" "warning" "Add these lines:" ["#include <a>".toList]] ∧
      handed ["a.c should remove these lines:", "- x // lines 3-4"] =
        [RemoveLine.warning "a.c".toList ['x'] 2 3] := by
  decide +kernel

end BuildDiagnostics.Iwyu
