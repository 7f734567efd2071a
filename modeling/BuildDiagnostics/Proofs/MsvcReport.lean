import BuildDiagnostics.Proofs.MsvcNotice

/-!
# Reports of Visual C++

The compiler names a file and a place in it, a tool names itself or an object file. Either report is
read as it was written, whatever stands in its message. The pattern for places is tried first: it
reads the file as short as it can, so the file must have no colon before a blank, and it is not met
in the report of a tool, which has no parenthesis behind its first colon.

* `CompileReport.match?_bareLine`, `CompileReport.read_written`: what is captured of a report about
  a file, and what is read of it.
* `ToolReport.not_compile`: the report of a tool names no place.
* `ToolReport.match?_bareLine`, `ToolReport.read_written`: what is captured of it, and what is read.
* `reports_read_back`: both kinds of reports together.
-/

namespace BuildDiagnostics.Msvc

open Text Pattern

/-! ## Reports about files -/

/-- A report about a place in a file. -/
structure CompileReport extends Notice where
  file : List Char
  location : Location
  letters_length : letters.length ≤ 2
  file_ne : file ≠ []
  file_inline : '\n' ∉ file
  file_plain : '>' ∉ file
  file_trimmed : trim file = file
  /-- What follows a colon in the file is no blank. -/
  file_unbroken : ∀ u b v, file = u ++ ':' :: b :: v → isBlank b = false
  numbers_valid : ∀ n ∈ location.numbers, 1 ≤ n ∧ n < UInt32.size

namespace CompileReport

variable {c : CompileReport} {gap : List Char}

/-- The file and the place in it. -/
def subject (c : CompileReport) : List Char :=
  c.file ++ '(' :: (c.location.text ++ ")".toList ++ ": ".toList)

/-- The report as it is written. -/
def line (c : CompileReport) : Line := c.lineOf c.subject

/-- The report as it is read. -/
def diagnostic (c : CompileReport) : Diagnostic := c.diagnosticOf c.file c.location.range

/-- The letters of a code. -/
def letterPattern : Pattern := one isWord ++ opt (one isWord)

theorem isWord_of_isLetterAscii {c : Char} (h : isLetterAscii c = true) : isWord c = true := by
  have hall : ∀ n ∈ List.range 128, isLetterAscii (Char.ofNat n) = true →
      isWord (Char.ofNat n) = true := by decide +kernel
  have hlt : c.toNat < 128 := by
    obtain ⟨x, hx, -, hhi⟩ := CharSet.exists_range_of_holds (contains_letterSet h)
    have hx' : ∀ x ∈ letterSet.ranges, x.2 < 128 := by decide
    exact hhi.trans_lt (hx' x hx)
  have hc := hall c.toNat (List.mem_range.2 hlt)
  rw [Char.ofNat_toNat] at hc
  exact hc h

theorem reads_letters (c : CompileReport) (z : List Char) :
    letterPattern.Reads (c.letters ++ z) [] z := by
  have hword : ∀ a ∈ c.letters, isWord a = true := fun a ha =>
    isWord_of_isLetterAscii (c.letters_ascii a ha)
  have hne := c.letters_ne
  have hlength := c.letters_length
  match hl : c.letters with
  | [] => exact absurd hl hne
  | [a] =>
    rw [hl] at hword
    exact ⟨[], z, [], ⟨a, hword a (by simp), rfl, rfl⟩, .inr ⟨rfl, rfl⟩, rfl⟩
  | [a, b] =>
    rw [hl] at hword
    exact ⟨[], b :: z, [], ⟨a, hword a (by simp), rfl, rfl⟩,
      .inl ⟨b, hword b (by simp), rfl, rfl⟩, rfl⟩
  | _ :: _ :: _ :: _ =>
    rw [hl] at hlength
    exact absurd hlength (by simp)

/-- No place is read before the end of the file. -/
theorem not_place_in_file {u v r z : List Char} {ms : Captures} (hfile : c.file = u ++ v)
    (hv : v ≠ []) : ¬ placePattern.Reads (v ++ '(' :: z) ms r := by
  intro h
  obtain ⟨t, bs, b, w, hs, hparen, -, hbs, hb⟩ := place_of_reads h
  obtain ⟨a, v, rfl⟩ := List.exists_cons_of_ne_nil hv
  obtain ⟨rfl, hs⟩ := List.cons.inj hs
  have hbs' : '(' ∉ bs := fun hmem => absurd (List.all_eq_true.1 hbs _ hmem) (by decide)
  have hb' : '(' ≠ b := by rintro rfl; exact absurd hb (by decide)
  have hcut : v ++ '(' :: z = (t ++ ')' :: bs ++ [':', b]) ++ w := by simpa using hs
  -- the colon and the blank of the place stand before the parenthesis
  rcases List.append_eq_append_iff.1 hcut with ⟨x, hx, hz⟩ | ⟨x, rfl, -⟩
  · cases x with
    | nil =>
      have hblank := c.file_unbroken (u ++ '(' :: (t ++ ')' :: bs)) b [] (by
        rw [hfile, ← List.append_nil v, ← hx]
        simp)
      rw [hb] at hblank
      cases hblank
    | cons d x =>
      obtain ⟨rfl, -⟩ := List.cons.inj hz
      have hmem : '(' ∈ t ++ ')' :: bs ++ [':', b] := by rw [hx]; simp
      simp [hparen, hbs', hb'] at hmem
  · have hblank := c.file_unbroken (u ++ '(' :: (t ++ ')' :: bs)) b x (by rw [hfile]; simp)
    rw [hb] at hblank
    cases hblank

/-- What is captured of a report. -/
def marks (c : CompileReport) (gap : List Char) : Captures :=
  let place := c.location.text ++ ')' :: ':' :: ' ' :: c.rest gap
  [.opened .file (c.file ++ '(' :: place), .closed .file ('(' :: place),
    .opened .location place, .closed .location (')' :: ':' :: ' ' :: c.rest gap),
    .opened .severity (c.rest gap), .closed .severity (' ' :: c.tail gap)] ++ c.tailMarks gap

theorem match?_bareLine (c : CompileReport) (hgap : ∀ a ∈ gap, isBlank a = true) :
    compilePattern.match? (c.bareLine c.subject gap) = some (c.marks gap) := by
  have hrest : (capture .severity (oneOf [errorWord, "warning", "info"]) ++
      tailPattern letterPattern : Pattern).Prefers (c.rest gap)
      ([.opened .severity (c.rest gap), .closed .severity (' ' :: c.tail gap)] ++
        c.tailMarks gap) [] := by
    have hseverity : (oneOf [errorWord, "warning", "info"]).Prefers (c.rest gap) []
        (' ' :: c.tail gap) :=
      prefers_word (by decide) (by decide) (by decide) c.severity_mem _
    exact (hseverity.capture .severity).seq
      (c.prefers_tail (by decide) (by decide) c.reads_letters hgap)
  have hplace := (c.location.prefers_place (c.rest_visible gap)).seq hrest
  obtain ⟨a, t, hfile⟩ := List.exists_cons_of_ne_nil c.file_ne
  have htrimmed := c.file_trimmed
  have hplain := c.file_plain
  have hinline := c.file_inline
  rw [hfile] at htrimmed hplain hinline
  have ha : isBlank a = false := isBlank_of_trimmed htrimmed
  have hfirst : (one fun c => !isBlank c && c != '>').Prefers
      (c.file ++ '(' :: (c.location.text ++ ')' :: ':' :: ' ' :: c.rest gap)) []
      (t ++ '(' :: (c.location.text ++ ')' :: ':' :: ' ' :: c.rest gap)) := by
    rw [hfile]
    refine prefers_one ?_ _
    have hne : a ≠ '>' := by rintro rfl; exact hplain List.mem_cons_self
    simp [ha, hne]
  have hcapture := Prefers.shortest .file hfirst
    (isInline_of_not_mem fun hmem => hinline (List.mem_cons_of_mem a hmem)) hplace
    fun u v huv hv ms r h => by
      obtain ⟨_, _, _, h, -, -⟩ := h
      exact not_place_in_file (u := a :: u) (by rw [hfile, huv]; rfl) hv h
  have hbuild := c.prefers_buildNumber c.file (c := '(')
    (r := c.location.text ++ ')' :: ':' :: ' ' :: c.rest gap)
    (by rw [hfile]; simp [startsOutside, ha]) c.file_plain (by decide) (by decide)
  have hline : c.bareLine c.subject gap =
      c.lead ++ (c.file ++ '(' :: (c.location.text ++ ')' :: ':' :: ' ' :: c.rest gap)) := by
    simp [Notice.bareLine, subject]
  rw [hline]
  have hall : compilePattern.Prefers
      (c.lead ++ (c.file ++ '(' :: (c.location.text ++ ')' :: ':' :: ' ' :: c.rest gap)))
      (c.marks gap) [] := hbuild.seq hcapture
  exact hall.match?

theorem diagnostic?_bareLine (c : CompileReport) (hgap : ∀ a ∈ gap, isBlank a = true) :
    diagnostic? (c.bareLine c.subject gap) = some c.diagnostic := by
  have hfile : (c.marks gap).get? .file = some c.file := get?_capture .file c.file _ _
  have hlocation : (c.marks gap).get? .location = some c.location.text := by
    simp [marks, Captures.get?, Captures.restOf?]
  have hseverity : (c.marks gap).get? .severity = some c.severity.toList := by
    simp [marks, Notice.rest, Captures.get?, Captures.restOf?]
  have hrange : rangeOf ((c.marks gap).get .location) = c.location.range := by
    rw [Captures.get, hlocation]
    exact Location.rangeOf_text c.numbers_valid
  rw [diagnostic?, c.match?_bareLine hgap]
  dsimp only
  rw [hrange, c.ofCaptures_eq _ hfile c.file_trimmed hseverity (c.get?_code gap)
    (c.get?_message gap)]
  rfl

/-- **A report about a place in a file is read as it was written.** -/
theorem read_written (c : CompileReport) : read c.line = .claim (some c.diagnostic) := by
  obtain ⟨gap, hgap, hdrop⟩ := c.exists_bareLine c.subject
  rw [read, line, hdrop, c.diagnostic?_bareLine hgap]

end CompileReport

/-! ## Reports about tools -/

/-- A report of a tool, or about an object file. -/
structure ToolReport extends Notice where
  tool : List Char
  severity_ne : severity ≠ "info"
  letters_upper : ∀ c ∈ letters, isUpperAscii c = true
  letters_length : letters.length ≤ 3
  message_plain : '(' ∉ message
  tool_ne : tool ≠ []
  tool_inline : '\n' ∉ tool
  tool_plain : ':' ∉ tool ∧ '>' ∉ tool
  tool_trimmed : trim tool = tool
  tool_end : tool.getLast? ≠ some ')'

namespace ToolReport

variable {t : ToolReport} {gap r : List Char} {ms : Captures}

/-- The tool. -/
def subject (t : ToolReport) : List Char := t.tool ++ " : ".toList

/-- The report as it is written. -/
def line (t : ToolReport) : Line := t.lineOf t.subject

/-- The report as it is read: no place is named. -/
def diagnostic (t : ToolReport) : Diagnostic := t.diagnosticOf t.tool (.restOfLine 0 0)

/-- The letters of a code. -/
def letterPattern : Pattern := one isUpperAscii ++ opt (one isUpperAscii ++ opt (one isUpperAscii))

theorem reads_letters (t : ToolReport) (z : List Char) :
    letterPattern.Reads (t.letters ++ z) [] z := by
  have hupper := t.letters_upper
  have hne := t.letters_ne
  have hlength := t.letters_length
  match hl : t.letters with
  | [] => exact absurd hl hne
  | [a] =>
    rw [hl] at hupper
    exact ⟨[], z, [], ⟨a, hupper a (by simp), rfl, rfl⟩, .inr ⟨rfl, rfl⟩, rfl⟩
  | [a, b] =>
    rw [hl] at hupper
    exact ⟨[], b :: z, [], ⟨a, hupper a (by simp), rfl, rfl⟩,
      .inl ⟨[], z, [], ⟨b, hupper b (by simp), rfl, rfl⟩, .inr ⟨rfl, rfl⟩, rfl⟩, rfl⟩
  | [a, b, d] =>
    rw [hl] at hupper
    exact ⟨[], b :: d :: z, [], ⟨a, hupper a (by simp), rfl, rfl⟩,
      .inl ⟨[], d :: z, [], ⟨b, hupper b (by simp), rfl, rfl⟩,
        .inl ⟨d, hupper d (by simp), rfl, rfl⟩, rfl⟩, rfl⟩
  | _ :: _ :: _ :: _ :: _ =>
    rw [hl] at hlength
    exact absurd hlength (by simp)

theorem bareLine_subject (t : ToolReport) (gap : List Char) : t.bareLine t.subject gap =
    t.lead ++ (t.tool ++ ' ' :: ':' :: ' ' :: t.rest gap) := by
  simp [Notice.bareLine, subject]

/-- The tool ends with a character that is neither blank nor a parenthesis. -/
theorem exists_concat (t : ToolReport) :
    ∃ s c, t.tool = s ++ [c] ∧ isBlank c = false ∧ c ≠ ')' := by
  have hend := t.tool_end
  have htrimmed := t.tool_trimmed
  obtain ⟨s, c, hs⟩ := (List.eq_nil_or_concat t.tool).resolve_left t.tool_ne
  rw [List.concat_eq_append] at hs
  rw [hs] at hend htrimmed
  refine ⟨s, c, hs, ?_, by simpa using hend⟩
  rw [← Bool.not_eq_true]
  intro hc
  have hnil : [c] = [] := eq_nil_of_trimmed htrimmed (by simpa [isBlankLine] using hc)
  cases hnil

theorem rest_plain (t : ToolReport) (hgap : ∀ a ∈ gap, isBlank a = true) : '(' ∉ t.rest gap := by
  have hseverity : '(' ∉ t.severity.toList := by
    have hall : ∀ w ∈ severities, '(' ∉ w.toList := by decide
    exact hall t.severity t.severity_mem
  have hcode : '(' ∉ t.code := t.code_not_mem (by decide) (by decide)
  have hgap' : '(' ∉ gap := fun hmem => absurd (hgap _ hmem) (by decide)
  simp [Notice.rest, Notice.tail, hseverity, hcode, hgap', t.message_plain]

theorem lead_plain (n : Notice) : ':' ∉ n.lead := by
  unfold Notice.lead
  split
  · rename_i k hk
    have hk' : ':' ∉ k := fun hmem => absurd ((n.build_digits k hk).2 _ hmem) (by decide)
    simp [hk']
  · exact List.not_mem_nil

/-- What stands before the colon after the tool does not end as a place does. -/
theorem subject_ne (t : ToolReport) {u bs : List Char} (hbs : isBlankLine bs = true) :
    t.lead ++ t.tool ++ [' '] ≠ u ++ ')' :: bs := by
  intro h
  obtain ⟨s, c, hs, hc, hne⟩ := t.exists_concat
  have hcut : (t.lead ++ s) ++ c :: [' '] = u ++ ')' :: bs := by
    rw [← h, hs]
    simp
  exact hne (span_unique_last (p := isBlank) (List.forall_mem_singleton.2 (by decide))
    (List.all_eq_true.1 hbs) hc (by decide) hcut).2.1

/-- **No place is read in a report of a tool.** -/
theorem not_compile (t : ToolReport) (hgap : ∀ a ∈ gap, isBlank a = true) :
    compilePattern.match? (t.bareLine t.subject gap) = none := by
  have hregroup := match?_congr (p := compilePattern)
    (q := buildNumber ++
      (capture .file (one (fun c => !isBlank c && c != '>') ++ least isInline) ++
        (placePattern ++ (capture .severity (oneOf [errorWord, "warning", "info"]) ++
          tailPattern CompileReport.letterPattern)))) (fun _ _ => rfl)
  rw [hregroup]
  refine match?_eq_none ?_
  rintro _ _ ⟨_, _, _, hbuild, ⟨_, m, _, hfile, ⟨_, _, _, hplace, -, -⟩, -⟩, -⟩
  obtain ⟨x, hx⟩ := (suffix_of_reads hfile).trans (suffix_of_reads hbuild)
  obtain ⟨q, bs, b, u, rfl, -, hq, hbs, -⟩ := place_of_reads hplace
  have hline : t.bareLine t.subject gap =
      (t.lead ++ t.tool ++ [' ']) ++ ':' :: ' ' :: t.rest gap := by
    simp [bareLine_subject]
  rw [hline] at hx
  have hcolon : ':' ∉ t.lead ++ t.tool ++ [' '] := by
    simp [lead_plain, t.tool_plain.1]
  have hbscolon : ':' ∉ bs := fun hmem => absurd (List.all_eq_true.1 hbs _ hmem) (by decide)
  rcases List.append_eq_append_iff.1 hx with ⟨y, hy, hrest⟩ | ⟨y, -, hrest⟩
  · cases y with
    | nil => cases hrest
    | cons c y =>
      obtain ⟨rfl, -⟩ := List.cons.inj hrest
      -- the first colon after the parenthesis is the one after the tool
      have hplace : ':' ∉ q ++ ')' :: bs := by simp [hq, hbscolon]
      have hy' : ':' ∉ y := fun hmem => hcolon (by rw [hy]; simp [hmem])
      obtain ⟨rfl, -⟩ := cut_unique hplace hy' (List.cons.inj hrest).2
      exact t.subject_ne (u := x ++ '(' :: q) hbs (by rw [hy]; simp)
  · have hmem : '(' ∈ ':' :: ' ' :: t.rest gap := by rw [hrest]; simp
    simp [t.rest_plain hgap] at hmem

/-- What is captured of a report. -/
def marks (t : ToolReport) (gap : List Char) : Captures :=
  [.opened .file (t.tool ++ ' ' :: ':' :: ' ' :: t.rest gap),
    .closed .file (' ' :: ':' :: ' ' :: t.rest gap), .opened .severity (t.rest gap),
    .closed .severity (' ' :: t.tail gap)] ++ t.tailMarks gap

/-- From the end of the tool to the severity. -/
def colonPattern : Pattern := most isBlank ++ (":" ++ most1 isBlank)

/-- No colon is read before the end of the tool. -/
theorem not_colon_in_tool {u v z : List Char} (htool : t.tool = u ++ v) (hv : v ≠ []) :
    ¬ colonPattern.Reads (v ++ ' ' :: ':' :: z) ms r := by
  rintro ⟨_, _, _, ⟨bs, hbs, hs, -⟩, ⟨_, w, _, ⟨rfl, -⟩, -, -⟩, -⟩
  have hcolon : ':' ∉ v ++ [' '] := by
    have htool' := t.tool_plain.1
    rw [htool, List.mem_append, not_or] at htool'
    simp [htool'.2]
  have hcut : (v ++ [' ']) ++ ':' :: z = bs ++ ':' :: w := by simpa using hs
  obtain ⟨hsame, -⟩ := cut_unique hcolon
    (fun hmem => absurd (hbs _ hmem) (by decide)) hcut
  have htrimmed := t.tool_trimmed
  rw [htool] at htrimmed
  exact hv (eq_nil_of_trimmed htrimmed (List.all_eq_true.2 fun c hc =>
    hbs c (hsame ▸ List.mem_append_left _ hc)))

theorem prefers_rest (t : ToolReport) (hgap : ∀ a ∈ gap, isBlank a = true) :
    (opt "Command line " ++ (capture .severity (alt errorWord "warning") ++
      tailPattern letterPattern) : Pattern).Prefers (t.rest gap)
      ([.opened .severity (t.rest gap), .closed .severity (' ' :: t.tail gap)] ++
        t.tailMarks gap) [] := by
  obtain ⟨c, s, hs, -, hc⟩ := t.severity_cons
  have hcommand : (opt "Command line ").Prefers (t.rest gap) [] (t.rest gap) := by
    refine prefers_opt_none ?_
    rintro ms r ⟨hread, -⟩
    rw [Notice.rest, hs] at hread
    exact hc (List.cons.inj hread).1
  have hword : t.severity ∈ ["fatal error", "error", "warning"] := by
    have hmem := t.severity_mem
    have hne := t.severity_ne
    simp only [severities, List.mem_cons, List.not_mem_nil, or_false] at hmem
    rcases hmem with h | h | h | h
    · simp [h]
    · simp [h]
    · simp [h]
    · exact absurd h hne
  have hseverity : (alt errorWord "warning").Prefers (t.rest gap) [] (' ' :: t.tail gap) :=
    prefers_word (by decide) (by decide) (by decide) hword _
  exact hcommand.seq ((hseverity.capture .severity).seq
    (t.prefers_tail (by decide) (by decide) t.reads_letters hgap))

theorem match?_bareLine (t : ToolReport) (hgap : ∀ a ∈ gap, isBlank a = true) :
    toolPattern.match? (t.bareLine t.subject gap) = some (t.marks gap) := by
  obtain ⟨a, s, htool⟩ := List.exists_cons_of_ne_nil t.tool_ne
  have htrimmed := t.tool_trimmed
  have hplain := t.tool_plain
  rw [htool] at htrimmed hplain
  have ha : isBlank a = false := isBlank_of_trimmed htrimmed
  have hne : a ≠ '>' ∧ a ≠ ':' := by
    constructor <;> rintro rfl
    · exact hplain.2 List.mem_cons_self
    · exact hplain.1 List.mem_cons_self
  have hs : ':' ∉ s := fun hmem => hplain.1 (List.mem_cons_of_mem a hmem)
  have hdrive : (opt (one isLetterAscii ++ ":")).Prefers
      (a :: (s ++ ' ' :: ':' :: ' ' :: t.rest gap)) []
      (a :: (s ++ ' ' :: ':' :: ' ' :: t.rest gap)) := by
    refine prefers_opt_none ?_
    rintro ms r ⟨_, _, _, ⟨d, -, hd, -⟩, ⟨rfl, -⟩, -⟩
    obtain ⟨-, hd⟩ := List.cons.inj hd
    cases s with
    | nil => cases hd
    | cons e s =>
      obtain ⟨rfl, -⟩ := List.cons.inj hd
      exact hs List.mem_cons_self
  have hfirst : (opt (one isLetterAscii ++ ":") ++
      one (fun c => !isBlank c && c != '>' && c != ':') : Pattern).Prefers
      (t.tool ++ ' ' :: ':' :: ' ' :: t.rest gap) [] (s ++ ' ' :: ':' :: ' ' :: t.rest gap) := by
    rw [htool]
    exact hdrive.seq (prefers_one (by simp [ha, hne]) _)
  have hcolon : colonPattern.Prefers (' ' :: ':' :: ' ' :: t.rest gap) [] (t.rest gap) :=
    (prefers_gap (by rfl)).seq ((prefers_text [':'] _).seq
      (prefers_blank (t.rest_visible gap)))
  have hcapture := Prefers.shortest .file (g := fun c => c != ':') hfirst
    (fun c hc => by
      have hcne : c ≠ ':' := by rintro rfl; exact hs hc
      simpa using hcne)
    (hcolon.seq (t.prefers_rest hgap)) fun u v huv hv ms r h => by
      obtain ⟨_, _, _, h, -, -⟩ := h
      exact not_colon_in_tool (u := a :: u) (by rw [htool, huv]; rfl) hv h
  have hbuild := t.prefers_buildNumber t.tool (c := ' ')
    (r := ':' :: ' ' :: t.rest gap) (by rw [htool]; simp [startsOutside, ha]) t.tool_plain.2
    (by decide) (by decide)
  rw [t.bareLine_subject]
  have hall : toolPattern.Prefers (t.lead ++ (t.tool ++ ' ' :: ':' :: ' ' :: t.rest gap))
      (t.marks gap) [] := hbuild.seq hcapture
  exact hall.match?

theorem diagnostic?_bareLine (t : ToolReport) (hgap : ∀ a ∈ gap, isBlank a = true) :
    diagnostic? (t.bareLine t.subject gap) = some t.diagnostic := by
  have hfile : (t.marks gap).get? .file = some t.tool := get?_capture .file t.tool _ _
  have hseverity : (t.marks gap).get? .severity = some t.severity.toList := by
    simp [marks, Notice.rest, Captures.get?, Captures.restOf?]
  rw [diagnostic?, t.not_compile hgap, t.match?_bareLine hgap]
  dsimp only
  rw [t.ofCaptures_eq _ hfile t.tool_trimmed hseverity (t.get?_code gap) (t.get?_message gap)]
  rfl

/-- **A report of a tool is read as it was written.** -/
theorem read_written (t : ToolReport) : read t.line = .claim (some t.diagnostic) := by
  obtain ⟨gap, hgap, hdrop⟩ := t.exists_bareLine t.subject
  rw [read, line, hdrop, t.diagnostic?_bareLine hgap]

end ToolReport

/-- **Every report is read as it was written.** -/
theorem reports_read_back :
    (∀ c : CompileReport, Matcher.msvc.step c.line = (.claim (some c.diagnostic), .msvc)) ∧
      ∀ t : ToolReport, Matcher.msvc.step t.line = (.claim (some t.diagnostic), .msvc) := by
  constructor
  · intro c
    rw [Matcher.step, c.read_written]
  · intro t
    rw [Matcher.step, t.read_written]

/-- A report of the compiler with the number of the build and the name of the project. -/
def CompileReport.undeclared : CompileReport where
  build := some "12".toList
  severity := "error"
  letters := ['C']
  digits := "2065".toList
  message := "'x': bad (y)".toList
  project := some "C:\\b\\app".toList
  file := "src\\a b.cpp".toList
  location := .point 42 7
  build_digits := by
    intro k hk
    cases hk
    exact ⟨by decide, List.all_eq_true.1 (by decide)⟩
  severity_mem := by decide
  letters_ne := by decide
  letters_ascii := List.all_eq_true.1 (by decide)
  digits_ne := by decide
  digits_digit := List.all_eq_true.1 (by decide)
  message_inline := by decide
  message_trimmed := by decide
  message_end := by decide
  project_plain := by decide
  letters_length := by decide
  file_ne := by decide
  file_inline := by decide
  file_plain := by decide
  file_trimmed := by decide
  file_unbroken := by
    intro u b v h
    have hcolon : ':' ∈ "src\\a b.cpp".toList := by
      rw [h]
      simp
    exact absurd hcolon (by decide)
  numbers_valid := by decide

/-- A report of the linker about itself. -/
def ToolReport.cannotOpen : ToolReport where
  build := none
  severity := "fatal error"
  letters := "LNK".toList
  digits := "1104".toList
  message := "cannot open 'a.lib'".toList
  project := none
  tool := "LINK".toList
  build_digits := by simp
  severity_mem := by decide
  letters_ne := by decide
  letters_ascii := List.all_eq_true.1 (by decide)
  digits_ne := by decide
  digits_digit := List.all_eq_true.1 (by decide)
  message_inline := by decide
  message_trimmed := by decide
  message_end := by decide
  project_plain := by decide
  severity_ne := by decide
  letters_upper := List.all_eq_true.1 (by decide)
  letters_length := by decide
  message_plain := by decide
  tool_ne := by decide
  tool_inline := by decide
  tool_plain := by decide
  tool_trimmed := by decide
  tool_end := by decide

/-- The two reports as they are printed, and what is read of them. -/
theorem reports_read_back_printed :
    CompileReport.undeclared.line =
        "12>src\\a b.cpp(42,7): error C2065: 'x': bad (y) [C:\\b\\app.vcxproj]".toList ∧
      Matcher.msvc.step CompileReport.undeclared.line = (.claim (some {
        source := "MSVC", file := "src\\a b.cpp", range := .point 41 6, severity := "error"
        message := "'x': bad (y)", code := some "C2065" }), .msvc) ∧
      ToolReport.cannotOpen.line = "LINK : fatal error LNK1104: cannot open 'a.lib'".toList ∧
      Matcher.msvc.step ToolReport.cannotOpen.line = (.claim (some {
        source := "MSVC", file := "LINK", range := .restOfLine 0 0, severity := "fatal error"
        message := "cannot open 'a.lib'", code := some "LNK1104" }), .msvc) := by
  obtain ⟨hcompile, htool⟩ := reports_read_back
  refine ⟨by decide, ?_, by decide, ?_⟩
  · rw [hcompile]
    rfl
  · rw [htool]
    rfl

end BuildDiagnostics.Msvc
