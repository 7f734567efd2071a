import BuildDiagnostics.Proofs.CMakeLine
import BuildDiagnostics.Proofs.Components
import BuildDiagnostics.Proofs.FirstReading

/-!
# What the reports of Visual C++ share

A report of the compiler and one of a tool differ in what they are about. Before it stands the
number of the build, after it come a severity, a code and a message, and at the end of the line the
name of the project. The number and the name are passed over, and the rest is read as it was
written.

* `Notice.prefers_buildNumber`: the number of the build is passed over.
* `Notice.reads_project`, `Notice.project_of_reads`: what can be read as the name of a project.
* `Notice.exists_bareLine`: the name of the project is taken off, and blanks before it.
* `Notice.prefers_tail`: the code and the message are read as they were written.
* `Notice.ofCaptures_eq`: what is captured is what the report says.
* `place_of_reads`, `Location.prefers_place`: what can be read as a place, and what is read of one
  that was written.
* `Location.rangeOf_text`: the numbers of a place are read back.
-/

namespace BuildDiagnostics.Msvc

open Text Pattern

/-! ## What a report says -/

/-- The numbers in parentheses after a file: those of a line, of a point, or of two ends. -/
inductive Location
  | line (l : Nat)
  | point (l c : Nat)
  | span (l₀ c₀ l₁ c₁ : Nat)

namespace Location

/-- The numbers, in the order of the text. -/
def numbers : Location → List Nat
  | line l => [l]
  | point l c => [l, c]
  | span l₀ c₀ l₁ c₁ => [l₀, c₀, l₁, c₁]

/-- The numbers as they are printed. -/
def text (p : Location) : List Char := [','].intercalate (p.numbers.map decimal)

/-- The place in the file, counted from zero. -/
def range : Location → Range
  | line l => .restOfLine (l - 1).toUInt32 0
  | point l c => .point (l - 1).toUInt32 (c - 1).toUInt32
  | span l₀ c₀ l₁ c₁ =>
    .ofEnds (l₀ - 1).toUInt32 (c₀ - 1).toUInt32 (l₁ - 1).toUInt32 (c₁ - 1).toUInt32

end Location

/-- The severities that are printed. -/
def severities : List String := ["fatal error", "error", "warning", "info"]

/-- What a report says besides what it is about. -/
structure Notice where
  /-- The digits of the build that the line starts with. -/
  build : Option (List Char)
  severity : String
  /-- The letters of the code, and its digits. -/
  letters : List Char
  digits : List Char
  message : List Char
  /-- The path of the project that the line ends with, without its extension. -/
  project : Option (List Char)
  build_digits : ∀ k ∈ build, k ≠ [] ∧ ∀ c ∈ k, isDigit c = true
  severity_mem : severity ∈ severities
  letters_ne : letters ≠ []
  letters_ascii : ∀ c ∈ letters, isLetterAscii c = true
  digits_ne : digits ≠ []
  digits_digit : ∀ c ∈ digits, isDigit c = true
  message_inline : '\n' ∉ message
  message_trimmed : trim message = message
  message_end : message.getLast? ≠ some ']'
  project_plain : ∀ p ∈ project, p ≠ [] ∧ '[' ∉ p ∧ ']' ∉ p

namespace Notice

variable {n : Notice} {s subject gap r z : List Char} {ms : Captures}

/-- The number of the build, if the line starts with one. -/
def lead (n : Notice) : List Char :=
  match n.build with
  | some k => k ++ ['>']
  | none => []

/-- The name of the project, if the line ends with one. -/
def trail (n : Notice) : List Char :=
  match n.project with
  | some p => " [".toList ++ (p ++ ".vcxproj]".toList)
  | none => []

/-- The code. -/
def code (n : Notice) : List Char := n.letters ++ n.digits

/-- The line about a subject, up to its code. -/
def front (n : Notice) (subject : List Char) : List Char :=
  n.lead ++ (subject ++ (n.severity.toList ++ ' ' :: n.code))

/-- The line about a subject. -/
def lineOf (n : Notice) (subject : List Char) : Line :=
  n.front subject ++ ':' :: ' ' :: (n.message ++ n.trail)

/-- The report about a file. -/
def diagnosticOf (n : Notice) (file : List Char) (range : Range) : Diagnostic where
  source := source
  file := String.ofList file
  range := range
  severity := n.severity
  message := String.ofList n.message
  code := some (String.ofList n.code)

/-! ### The end of a line -/

/-- The code and the message, with a gap between them. -/
def tail (n : Notice) (gap : List Char) : List Char := n.code ++ ':' :: (gap ++ n.message)

/-- The severity and what comes after it. -/
def rest (n : Notice) (gap : List Char) : List Char := n.severity.toList ++ ' ' :: n.tail gap

/-- The marks of the code and of the message. -/
def tailMarks (n : Notice) (gap : List Char) : Captures :=
  [.opened .code (n.tail gap), .closed .code (':' :: (gap ++ n.message)),
    .opened .message n.message, .closed .message []]

theorem code_no_blank (n : Notice) : ∀ c ∈ n.code, isBlank c = false := by
  intro c hc
  rcases List.mem_append.1 hc with hc | hc
  · exact (plain_of_isLetterAscii (n.letters_ascii c hc)).1
  · exact isBlank_of_isDigit (n.digits_digit c hc)

theorem code_not_mem (n : Notice) {c : Char} (hletter : isLetterAscii c = false)
    (hdigit : isDigit c = false) : c ∉ n.code := by
  intro hc
  rcases List.mem_append.1 hc with hc | hc
  · rw [n.letters_ascii c hc] at hletter
    cases hletter
  · rw [n.digits_digit c hc] at hdigit
    cases hdigit

theorem severity_cons (n : Notice) : ∃ c s, n.severity.toList = c :: s ∧ isBlank c = false ∧
    c ≠ 'C' := by
  obtain ⟨c, s, hs, hgood⟩ := exists_first_of_mem (g := fun c => !isBlank c && c != 'C')
    (by decide) n.severity_mem
  exact ⟨c, s, hs, by simpa using hgood⟩

theorem rest_visible (n : Notice) (gap : List Char) :
    startsOutside isBlank (n.rest gap) = true := by
  obtain ⟨c, s, hs, hc, -⟩ := n.severity_cons
  simp [rest, hs, startsOutside, hc]

/-- A code is read up to the colon after it. -/
theorem prefers_code (n : Notice) {p : Pattern} (hbare : p.isBare = true)
    (hcolon : p.avoids ':' = true) (hp : ∀ z, p.Reads (n.letters ++ z) [] z) (z : List Char) :
    (capture .code (p ++ most1 isDigit) ++ (most isBlank ++ ":") : Pattern).Prefers
      (n.code ++ ':' :: z) [.opened .code (n.code ++ ':' :: z), .closed .code (':' :: z)] z := by
  have hcode : (p ++ most1 isDigit).Reads (n.code ++ ':' :: z) [] (':' :: z) := by
    refine ⟨[], n.digits ++ ':' :: z, [], ?_, ?_, rfl⟩
    · rw [code, List.append_assoc]
      exact hp _
    · exact most1_reads_iff.2 ⟨n.digits, n.digits_ne, n.digits_digit, rfl, rfl⟩
  refine prefers_of_unique ⟨_, ':' :: z, [], ⟨[], hcode, rfl⟩,
    ⟨[], ':' :: z, [], ⟨[], by simp, rfl, rfl⟩, ⟨rfl, rfl⟩, rfl⟩, rfl⟩ ?_
  rintro ms' r' ⟨_, m, _, ⟨inner, hread, rfl⟩,
    ⟨_, m', _, ⟨bs, hbs, rfl, rfl⟩, ⟨rfl, rfl⟩, rfl⟩, rfl⟩
  obtain ⟨t, ht⟩ := suffix_of_reads hread
  have hbare' : (p ++ most1 isDigit).isBare = true := by
    exact Bool.and_eq_true_iff.2 ⟨hbare, rfl⟩
  have havoids : (p ++ most1 isDigit).avoids ':' = true := by
    exact Bool.and_eq_true_iff.2 ⟨hcolon, by decide⟩
  obtain rfl := eq_nil_of_isBare hbare' hread
  -- the colon is the first one of the text, and no blank comes before it
  have htcolon : ':' ∉ t := by
    rw [← ht] at hread
    exact not_mem_of_avoids havoids hread
  have hbscolon : ':' ∉ bs := fun hmem => absurd (hbs _ hmem) (by decide)
  have hcut : (t ++ bs) ++ ':' :: r' = n.code ++ ':' :: z := by
    rw [← ht]
    simp
  obtain ⟨hsame, rfl⟩ := cut_unique (by simp [htcolon, hbscolon])
    (n.code_not_mem (by decide) (by decide)) hcut
  have hnone : bs = [] := by
    refine List.eq_nil_iff_forall_not_mem.2 fun c hc => ?_
    have hblank := n.code_no_blank c (hsame ▸ List.mem_append_right t hc)
    rw [hbs c hc] at hblank
    cases hblank
  subst hnone
  exact ⟨rfl, rfl⟩

/-- **The end of a line is read as it was written.** -/
theorem prefers_tail (n : Notice) {p : Pattern} (hbare : p.isBare = true)
    (hcolon : p.avoids ':' = true) (hp : ∀ z, p.Reads (n.letters ++ z) [] z)
    (hgap : ∀ c ∈ gap, isBlank c = true) :
    (tailPattern p).Prefers (' ' :: n.tail gap) (n.tailMarks gap) [] := by
  have hblank : (most1 isBlank).Prefers (' ' :: n.tail gap) [] (n.tail gap) := by
    refine prefers_blank ?_
    obtain ⟨c, cs, hcs⟩ := List.exists_cons_of_ne_nil n.letters_ne
    have hc : isBlank c = false := n.code_no_blank c (by simp [code, hcs])
    simp [tail, code, hcs, startsOutside, hc]
  have hrest : (most isBlank).Prefers (gap ++ n.message) [] n.message :=
    prefers_most hgap (startsOutside_of_trimmed n.message_trimmed)
  exact hblank.seq ((n.prefers_code hbare hcolon hp _).seq
    (hrest.seq (prefers_rest .message n.message_inline)))

theorem get?_code (n : Notice) (gap : List Char) : (n.tailMarks gap).get? .code = some n.code :=
  get?_capture .code n.code _ _

theorem get?_message (n : Notice) (gap : List Char) :
    (n.tailMarks gap).get? .message = some n.message := by
  simp [tailMarks, Captures.get?, Captures.restOf?]

/-- **What is captured is what the report says.** -/
theorem ofCaptures_eq (n : Notice) {cs : Captures} {file : List Char} (range : Range)
    (hfile : cs.get? .file = some file) (htrimmed : trim file = file)
    (hseverity : cs.get? .severity = some n.severity.toList) (hcode : cs.get? .code = some n.code)
    (hmessage : cs.get? .message = some n.message) :
    ofCaptures cs range = n.diagnosticOf file range := by
  have hne : n.code ≠ [] := by simp [code, n.letters_ne]
  simp [ofCaptures, diagnosticOf, Captures.get, hfile, htrimmed, hseverity, hcode, hmessage,
    Diagnostic.nonEmptyCode, hne]

/-! ### The name of the project -/

/-- A line without the name of a project, with some blanks before its message. -/
def bareLine (n : Notice) (subject gap : List Char) : Line :=
  n.lead ++ (subject ++ n.rest gap)

theorem bareLine_eq (n : Notice) (subject gap : List Char) :
    n.bareLine subject gap = n.front subject ++ ':' :: (gap ++ n.message) := by
  simp [bareLine, front, rest, tail]

/-- The name of a project is read after a blank. -/
theorem reads_project {p : List Char} (hne : p ≠ []) (hopen : '[' ∉ p) (hclose : ']' ∉ p) :
    projectPattern.Reads (" [".toList ++ (p ++ ".vcxproj]".toList)) [] [] := by
  have hpath : ∀ c ∈ p, (c != '[' && c != ']') = true := by
    intro c hc
    have hopen' : c ≠ '[' := by rintro rfl; exact hopen hc
    have hclose' : c ≠ ']' := by rintro rfl; exact hclose hc
    simp [hopen', hclose']
  exact ⟨[], [], [], ⟨[], "]".toList, [], ⟨[], "vcxproj]".toList, [], ⟨[], ".vcxproj]".toList, [],
    ⟨[], p ++ ".vcxproj]".toList, [], ⟨[], '[' :: (p ++ ".vcxproj]".toList), [],
      most1_reads_iff.2 ⟨[' '], by simp, List.forall_mem_singleton.2 (by decide), rfl, rfl⟩,
      ⟨rfl, rfl⟩, rfl⟩,
      most1_reads_iff.2 ⟨p, hne, hpath, rfl, rfl⟩, rfl⟩, ⟨rfl, rfl⟩, rfl⟩,
      .inl ⟨rfl, rfl⟩, rfl⟩, ⟨rfl, rfl⟩, rfl⟩, ⟨rfl, rfl, rfl⟩, rfl⟩

/-- What is read as the name of a project is all that is left of the line, from the blanks before
its last opening bracket. -/
theorem project_of_reads (h : projectPattern.Reads s ms r) :
    r = [] ∧ ∃ bs q, s = bs ++ '[' :: (q ++ [']']) ∧ bs ≠ [] ∧ isBlankLine bs = true ∧ '[' ∉ q := by
  obtain ⟨_, _, _, ⟨_, _, _, ⟨_, _, _, ⟨_, _, _, ⟨_, _, _, ⟨_, _, _, hblank, ⟨rfl, -⟩, -⟩,
    hpath, -⟩, ⟨rfl, -⟩, -⟩, hext, -⟩, ⟨rfl, -⟩, -⟩, ⟨rfl, rfl, -⟩, -⟩ := h
  obtain ⟨bs, hne, hbs, rfl, -⟩ := most1_reads_iff.1 hblank
  obtain ⟨q, -, hq, rfl, -⟩ := most1_reads_iff.1 hpath
  obtain ⟨e, rfl⟩ := suffix_of_reads hext
  have hq' : '[' ∉ q := fun hmem => absurd (hq _ hmem) (by decide)
  have he : '[' ∉ e := not_mem_of_avoids (by decide) hext
  exact ⟨rfl, bs, q ++ '.' :: e, by simp, hne, List.all_eq_true.2 hbs, by simp [hq', he]⟩

/-- A line that does not end as one with a project does has none. -/
theorem dropProject_of_end (h : s.getLast? ≠ some ']') : dropProject s = s := by
  have hnone : projectPattern.find? s = none := by
    rw [Option.eq_none_iff_forall_ne_some]
    rintro ⟨t, x⟩ hx
    obtain ⟨u, rfl, hu⟩ := find?_reads hx
    obtain ⟨-, bs, q, rfl, -⟩ := project_of_reads hu
    exact h (by simp [List.getLast?_cons])
  rw [dropProject, hnone]

/-- **The name of a project is taken off**, with all the blanks before it. -/
theorem exists_dropProject (s : List Char) {p : List Char} (hne : p ≠ []) (hopen : '[' ∉ p)
    (hclose : ']' ∉ p) : ∃ bs, isBlankLine bs = true ∧
      s = dropProject (s ++ (" [".toList ++ (p ++ ".vcxproj]".toList))) ++ bs := by
  have hread := reads_project hne hopen hclose
  obtain ⟨⟨t, x⟩, hx⟩ := Option.isSome_iff_exists.1 (isSome_find?_of_reads s hread)
  obtain ⟨u, hu, hfound⟩ := find?_reads hx
  obtain ⟨hrest, bs, q, rfl, hbsne, hbs, hq⟩ := project_of_reads hfound
  -- both projects start at the last bracket of the line
  have hlast : '[' ∉ p ++ ".vcxproj]".toList := by simp [hopen]
  have hcut : (s ++ [' ']) ++ '[' :: (p ++ ".vcxproj]".toList) =
      (t ++ bs) ++ '[' :: (q ++ [']']) := by
    simpa using hu
  obtain ⟨hsame, -⟩ := cut_unique_last hlast (by simp [hq]) hcut
  obtain ⟨bs, b, rfl⟩ := (List.eq_nil_or_concat bs).resolve_left hbsne
  rw [List.concat_eq_append, ← List.append_assoc] at hsame
  refine ⟨bs, List.all_eq_true.2 fun c hc => List.all_eq_true.1 hbs c (by simp [hc]), ?_⟩
  rw [dropProject, hx]
  dsimp only
  rw [hrest, List.append_nil]
  exact (List.append_inj' hsame rfl).1

/-- Blanks at the end of a line with a trimmed message are those between the colon and the message,
if there is no message, and none otherwise. -/
theorem exists_gap {front m d bs : List Char} (hm : trim m = m) (hbs : isBlankLine bs = true)
    (h : front ++ ':' :: ' ' :: m = d ++ bs) :
    ∃ gap, (∀ c ∈ gap, isBlank c = true) ∧ d = front ++ ':' :: (gap ++ m) := by
  rcases List.eq_nil_or_concat bs with rfl | ⟨bs, b, rfl⟩
  · exact ⟨[' '], List.forall_mem_singleton.2 (by decide), by simpa using h.symm⟩
  rw [List.concat_eq_append] at hbs h
  rw [isBlankLine, List.all_append, Bool.and_eq_true_iff] at hbs
  rw [← List.append_assoc] at h
  rcases List.eq_nil_or_concat m with rfl | ⟨m, c, rfl⟩
  · have hlast : (front ++ [':']) ++ [' '] = (d ++ bs) ++ [b] := by simpa using h
    obtain ⟨hfront, -⟩ := List.append_inj' hlast rfl
    rcases List.eq_nil_or_concat bs with rfl | ⟨bs, a, rfl⟩
    · exact ⟨[], by simp, by simpa using hfront.symm⟩
    · -- the colon is no blank
      rw [List.concat_eq_append, ← List.append_assoc] at hfront
      obtain ⟨-, ha⟩ := List.append_inj' hfront rfl
      cases ha
      exact absurd (List.all_eq_true.1 hbs.1 ':' (by simp)) (by decide)
  · -- the last character of the message is no blank
    rw [List.concat_eq_append] at hm h
    have hlast : (front ++ ':' :: ' ' :: m) ++ [c] = (d ++ bs) ++ [b] := by simpa using h
    obtain ⟨-, hc⟩ := List.append_inj' hlast rfl
    rw [← hc] at hbs
    exact absurd (eq_nil_of_trimmed hm hbs.2) (by simp)

/-- **What is left of a line without its project** is the line as far as its message. -/
theorem exists_bareLine (n : Notice) (subject : List Char) :
    ∃ gap, (∀ c ∈ gap, isBlank c = true) ∧
      dropProject (n.lineOf subject) = n.bareLine subject gap := by
  simp only [bareLine_eq]
  cases hproject : n.project with
  | none =>
    have hline : n.lineOf subject = n.front subject ++ ':' :: ([' '] ++ n.message) := by
      simp [lineOf, trail, hproject]
    refine ⟨[' '], List.forall_mem_singleton.2 (by decide), ?_⟩
    rw [hline, dropProject_of_end]
    intro hlast
    cases hm : n.message with
    | nil => simp [hm] at hlast
    | cons c m => exact n.message_end (by simpa [hm] using hlast)
  | some p =>
    obtain ⟨hne, hopen, hclose⟩ := n.project_plain p hproject
    have hline : n.lineOf subject = (n.front subject ++ ':' :: ' ' :: n.message) ++
        (" [".toList ++ (p ++ ".vcxproj]".toList)) := by
      simp [lineOf, trail, hproject]
    obtain ⟨bs, hbs, hdrop⟩ := exists_dropProject
      (n.front subject ++ ':' :: ' ' :: n.message) hne hopen hclose
    rw [← hline] at hdrop
    exact exists_gap n.message_trimmed hbs hdrop

/-! ### The number of the build -/

/-- **The number of the build is passed over**, and nothing else is taken for it. -/
theorem prefers_buildNumber (n : Notice) (name : List Char) {c : Char}
    (hname : startsOutside isBlank (name ++ c :: r) = true) (hplain : '>' ∉ name)
    (hdigit : isDigit c = false) (hc : c ≠ '>') :
    buildNumber.Prefers (n.lead ++ (name ++ c :: r)) [] (name ++ c :: r) := by
  have hlast : (most isBlank).Prefers (name ++ c :: r) [] (name ++ c :: r) :=
    prefers_most_none hname
  cases hbuild : n.build with
  | none =>
    have hlead : n.lead = [] := by simp [lead, hbuild]
    rw [hlead, List.nil_append]
    refine (hlast.seq (prefers_opt_none ?_)).seq hlast
    rintro ms r' ⟨_, m, _, hdigits, ⟨rfl, -⟩, -⟩
    obtain ⟨k, -, hk, hs, -⟩ := most1_reads_iff.1 hdigits
    refine cut_ne hc hplain (fun hmem => ?_) hs
    rw [hk c hmem] at hdigit
    cases hdigit
  | some k =>
    obtain ⟨hne, hk⟩ := n.build_digits k hbuild
    have hlead : n.lead ++ (name ++ c :: r) = k ++ '>' :: (name ++ c :: r) := by
      simp [lead, hbuild]
    have hstart : startsOutside isBlank (k ++ '>' :: (name ++ c :: r)) = true := by
      obtain ⟨d, ds, rfl⟩ := List.exists_cons_of_ne_nil hne
      have hd : isBlank d = false := isBlank_of_isDigit (hk d List.mem_cons_self)
      simp [startsOutside, hd]
    have hnumber : (most1 isDigit ++ ">" : Pattern).Prefers (k ++ '>' :: (name ++ c :: r)) []
        (name ++ c :: r) :=
      (prefers_most1 hne hk (by rfl)).seq (prefers_text ['>'] _)
    rw [hlead]
    exact ((prefers_most_none hstart).seq hnumber.opt).seq hlast

end Notice

/-! ## Places in files -/

/-- From the file to the severity. -/
def placePattern : Pattern :=
  "(" ++ (capture .location locationPattern ++ ")" ++ (most isBlank ++ (":" ++ most1 isBlank)))

/-- What is read as a place ends with the first colon of the text, which a blank follows. -/
theorem place_of_reads {s r : List Char} {ms : Captures} (h : placePattern.Reads s ms r) :
    ∃ t bs b u, s = '(' :: (t ++ ')' :: bs ++ ':' :: b :: u) ∧ '(' ∉ t ∧ ':' ∉ t ∧
      isBlankLine bs = true ∧ isBlank b = true := by
  obtain ⟨_, _, _, ⟨rfl, -⟩, ⟨_, _, _, ⟨_, _, _, ⟨_, hlocation, -⟩, ⟨rfl, -⟩, -⟩,
    ⟨_, _, _, ⟨bs, hbs, rfl, -⟩, ⟨_, _, _, ⟨rfl, -⟩, hblank, -⟩, -⟩, -⟩, -⟩ := h
  obtain ⟨t, rfl⟩ := suffix_of_reads hlocation
  obtain ⟨bs', hne, hbs', rfl, -⟩ := most1_reads_iff.1 hblank
  obtain ⟨b, bs', rfl⟩ := List.exists_cons_of_ne_nil hne
  exact ⟨t, bs, b, bs' ++ r, by simp, not_mem_of_avoids (by decide) hlocation,
    not_mem_of_avoids (by decide) hlocation, List.all_eq_true.2 hbs, hbs' b List.mem_cons_self⟩

namespace Location

variable {p : Location}

theorem numbers_ne_nil (p : Location) : p.numbers ≠ [] := by
  cases p <;> simp [numbers]

/-- The numbers of a place can be read. -/
theorem reads_text (p : Location) (r : List Char) :
    locationPattern.Reads (p.text ++ r) [] r := by
  have hnumber : ∀ (n : Nat) (r : List Char), (most1 isDigit).Reads (decimal n ++ r) [] r :=
    fun n r => most1_reads_iff.2
      ⟨decimal n, decimal_ne_nil n, fun c hc => isDigit_of_mem_decimal hc, rfl, rfl⟩
  have hcomma : ∀ (n : Nat) (r : List Char), commaNumber.Reads (',' :: (decimal n ++ r)) [] r :=
    fun n r => ⟨[], _, [], ⟨rfl, rfl⟩, hnumber n r, rfl⟩
  cases p with
  | line l =>
    have htext : (line l).text ++ r = decimal l ++ r := by simp [text, numbers]
    rw [htext]
    exact .inl (hnumber l r)
  | point l c =>
    have htext : (point l c).text ++ r = decimal l ++ ',' :: (decimal c ++ r) := by
      simp [text, numbers, List.intercalate]
    rw [htext]
    exact .inr (.inl ⟨[], _, [], hnumber l _, hcomma c r, rfl⟩)
  | span l₀ c₀ l₁ c₁ =>
    have htext : (span l₀ c₀ l₁ c₁).text ++ r = decimal l₀ ++ ',' :: (decimal c₀ ++
        ',' :: (decimal l₁ ++ ',' :: (decimal c₁ ++ r))) := by
      simp [text, numbers, List.intercalate]
    rw [htext]
    exact .inr (.inr ⟨[], _, [], ⟨[], _, [], ⟨[], _, [], hnumber l₀ _, hcomma c₀ _, rfl⟩,
      hcomma l₁ _, rfl⟩, hcomma c₁ r, rfl⟩)

/-- **The numbers of a place are read back.** -/
theorem rangeOf_text (h : ∀ n ∈ p.numbers, 1 ≤ n ∧ n < UInt32.size) :
    rangeOf p.text = p.range := by
  have hpieces : pieces ',' p.text = p.numbers.map decimal := by
    refine pieces_intercalate (by simp [numbers_ne_nil]) fun t ht => ?_
    obtain ⟨n, -, rfl⟩ := List.mem_map.1 ht
    exact not_mem_decimal (by decide)
  have hnumbers : (pieces ',' p.text).map zeroBased =
      p.numbers.map fun n => (n - 1).toUInt32 := by
    rw [hpieces, List.map_map]
    exact List.map_congr_left fun n hn => zeroBased_decimal (h n hn).1 (h n hn).2
  rw [rangeOf, hnumbers]
  cases p <;> rfl

/-- **A place is read up to the severity after it.** -/
theorem prefers_place (p : Location) {s : List Char} (hs : startsOutside isBlank s = true) :
    placePattern.Prefers ('(' :: (p.text ++ ')' :: ':' :: ' ' :: s))
      [.opened .location (p.text ++ ')' :: ':' :: ' ' :: s),
        .closed .location (')' :: ':' :: ' ' :: s)] s := by
  have hread : locationPattern.Reads (p.text ++ ')' :: ':' :: ' ' :: s) []
      (')' :: ':' :: ' ' :: s) := p.reads_text _
  have htext : ')' ∉ p.text := not_mem_of_avoids (by decide) hread
  have hnumbers : (capture .location locationPattern ++ ")" : Pattern).Prefers
      (p.text ++ ')' :: ':' :: ' ' :: s)
      [.opened .location (p.text ++ ')' :: ':' :: ' ' :: s),
        .closed .location (')' :: ':' :: ' ' :: s)] (':' :: ' ' :: s) := by
    refine prefers_of_unique ⟨_, _, [], ⟨[], hread, rfl⟩, ⟨rfl, rfl⟩, rfl⟩ ?_
    rintro ms' r' ⟨_, _, _, ⟨inner, hread', rfl⟩, ⟨rfl, rfl⟩, rfl⟩
    obtain ⟨t, ht⟩ := suffix_of_reads hread'
    obtain rfl := eq_nil_of_isBare (by decide) hread'
    rw [← ht] at hread'
    obtain ⟨-, hrest⟩ := cut_unique (not_mem_of_avoids (by decide) hread') htext ht
    subst hrest
    exact ⟨rfl, rfl⟩
  have hgap : (most isBlank ++ (":" ++ most1 isBlank) : Pattern).Prefers (':' :: ' ' :: s) [] s :=
    (prefers_most_none (by rfl)).seq ((prefers_text [':'] _).seq
      (prefers_blank hs))
  exact (prefers_text ['('] _).seq (hnumbers.seq hgap)

end Location

end BuildDiagnostics.Msvc
