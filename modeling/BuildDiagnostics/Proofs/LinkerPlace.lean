import BuildDiagnostics.Proofs.Fresh
import BuildDiagnostics.Proofs.LineHeading
import BuildDiagnostics.Proofs.LinkerLine

/-!
# Places that linkers name

A line of a linker may name a place and not the linker: a section, or a file with a line number.
Compilers write such places too. The linkers' grammar leaves `main.c:5: error: x` to them because
the message starts with one of the words in `compilerHeads`.

No file has a colon, so the place of a heading can be read in one way only, and the message is all
that comes after it.

* `claimed_read_iff`: what is claimed of the lines that do not start with a linker.
* `LineHeading.locatedPattern_reads`: what is read of a heading.
* `LineHeading.accepts_compilerHeadPattern`: a text starts with such a word if that is its severity.
* `LineHeading.claimed_read_iff`: the headings that the linkers' grammar claims.
-/

namespace BuildDiagnostics

open Text Pattern

namespace GnuLd

variable {line : Line} {s r front rest : List Char} {ms : Captures}

/-! ## Lines without a linker -/

/-- The line names a place, and an object file or a message that is not a compiler's. -/
def NamesPlace (line : Line) : Prop :=
  sectionPattern.accepts line = true ∨ ∃ cs, locatedPattern.match? line = some cs ∧
    ((cs.get? .object).isSome = true ∨
      cs.get? .severity = none ∧ compilerHeadPattern.accepts (cs.get .message) = false)

theorem isSome_body?_none_iff : (body? none line).isSome = true ↔ NamesPlace line := by
  unfold body? NamesPlace
  rw [← isSome_match?]
  cases sectionPattern.match? line with
  | some cs => simp
  | none =>
    cases locatedPattern.match? line with
    | none => simp
    | some cs =>
      cases hobject : cs.get? .object <;> cases hseverity : cs.get? .severity <;>
        cases hhead : compilerHeadPattern.accepts (cs.get .message) <;>
        simp [hobject, hseverity, hhead]

/-- **What is claimed of the lines that do not start with a linker.** -/
theorem claimed_read_iff (htool : isLinkerPrefixed line = false) :
    (read line).claimed = true ↔
      isMakeLine line = false ∧ inFunctionPattern.accepts line = false ∧ NamesPlace line := by
  rw [← isSome_body?_none_iff]
  have hsplit : split line = (none, line) := by
    rw [isLinkerPrefixed, ← isSome_match?, Option.isSome_eq_false_iff, Option.isNone_iff_eq_none]
      at htool
    rw [split, htool]
  unfold read
  rw [hsplit]
  cases hmake : isMakeLine line <;> cases hfunction : inFunctionPattern.accepts line <;>
    cases hbody : body? none line <;> simp [hfunction, hbody]

/-- The line that names a function ends with a colon. -/
theorem getLast?_of_inFunction (h : inFunctionPattern.accepts line = true) :
    line.getLast? = some ':' := by
  obtain ⟨_, _, _, _, _, ⟨_, _, _, hbefore, ⟨rfl, rfl⟩, rfl⟩, ⟨hend, rfl, rfl⟩, rfl⟩ :=
    accepts_iff.1 h
  obtain ⟨u, rfl⟩ := suffix_of_reads hbefore
  rw [hend]
  exact List.getLast?_concat

/-! ## Places as linkers read them -/

/-- The severities with which a compiler's message starts. -/
def compilerHeads : List String :=
  ["fatal error", "catastrophic error", "error", "warning", "note", "remark", "erreur",
    "avertissement", "remarque"]

/-- The file that a linker names has no colon, unless that comes after a drive letter. -/
theorem file_reads {q : Char → Bool} (hq : q ':' = false) (hcolon : ':' ∉ front)
    (hdrive : ∀ c, isLetterAscii c = true → front ≠ [c])
    (h : (drive ++ most1 q).Reads (front ++ ':' :: rest) ms r) :
    ms = [] ∧ ∃ t, ':' ∉ t ∧ front ++ ':' :: rest = t ++ r := by
  obtain ⟨_, m, _, hd, hfile, rfl⟩ := h
  obtain ⟨rfl, lead, hlead, hm⟩ := isDrive_of_reads hd
  obtain ⟨t, -, ht, rfl, rfl⟩ := most1_reads_iff.1 hfile
  rcases hlead with rfl | ⟨c, hc, rfl⟩
  · refine ⟨rfl, t, fun hmem => ?_, hm⟩
    rw [ht _ hmem] at hq
    cases hq
  · exact absurd (cut_unique hcolon (colon_not_mem_letter hc) hm).1 (hdrive c hc)

/-- Before the first colon there is nothing in parentheses. -/
theorem bracketed_reads {t : List Char} (ht : ':' ∉ t) (hcolon : ':' ∉ front) (hparen : '(' ∉ front)
    (hs : front ++ ':' :: rest = t ++ s) (h : (opt bracketed).Reads s ms (':' :: r)) :
    ms = [] ∧ t = front ∧ r = rest := by
  rcases h with ⟨_, _, _, ⟨_, _, _, ⟨rfl, rfl⟩, -, rfl⟩, -, rfl⟩ | ⟨rfl, rfl⟩
  · exact absurd hs.symm (cut_ne (by decide) ht hparen)
  · obtain ⟨hfront, hr⟩ := cut_unique hcolon ht hs
    exact ⟨rfl, hfront.symm, hr.symm⟩

/-- Text without colons that comes before a colon ends at the first one. -/
theorem avoiding_reads {p : Pattern} (hp : p.avoids ':' = true) (hcolon : ':' ∉ front)
    (h : p.Reads (front ++ ':' :: rest) ms (':' :: r)) : r = rest := by
  obtain ⟨t, ht⟩ := suffix_of_reads h
  rw [← ht] at h
  exact (cut_unique (not_mem_of_avoids hp h) hcolon ht).2

/-- So does an object file's name, with or without the member of an archive. -/
theorem member_reads {p : Pattern} (hp : p.avoids ':' = true) (hcolon : ':' ∉ front)
    (hparen : '(' ∉ front)
    (h : (p ++ opt bracketed).Reads (front ++ ':' :: rest) ms (':' :: r)) : r = rest := by
  obtain ⟨_, m, _, hname, hbracket, rfl⟩ := h
  obtain ⟨t, ht⟩ := suffix_of_reads hname
  rw [← ht] at hname
  exact (bracketed_reads (not_mem_of_avoids hp hname) hcolon hparen ht.symm hbracket).2.2

/-- What comes after a line number is read in one way only. -/
theorem after_number_reads {number m m' b : List Char} {ms' ms'' : Captures}
    (hdigits : ∀ c ∈ number, isDigit c = true) (hrest : startsOutside isBlank rest = true)
    (hnumber : (most1 isDigit).Reads (number ++ ':' :: ' ' :: rest) ms m)
    (hblank : (opt (one isBlank)).Reads m ms' (':' :: m'))
    (hblanks : (most1 isBlank).Reads m' ms'' b) :
    ms = [] ∧ ms' = [] ∧ ms'' = [] ∧ m = ':' :: ' ' :: rest ∧ b = rest := by
  have hcolon : ∀ {t : List Char}, (∀ c ∈ t, isDigit c = true) → ':' ∉ t := fun ht hc =>
    absurd (ht _ hc) (by decide)
  obtain ⟨t, -, ht, hs, rfl⟩ := most1_reads_iff.1 hnumber
  obtain ⟨gap, hgap, rfl, rfl⟩ := Gcc.gap_reads_iff.1 hblank
  have hcolon' : ':' ∉ t ++ gap := by
    rw [List.mem_append, not_or]
    exact ⟨hcolon ht, fun hc => absurd (hgap.blank _ hc) (by decide)⟩
  rw [← List.append_assoc] at hs
  obtain ⟨rfl, rfl⟩ := cut_unique (hcolon hdigits) hcolon' hs
  obtain ⟨rfl, rfl⟩ := most1_reads_one hrest hblanks
  -- no digit is a blank
  have hnone : gap = [] := by
    rw [List.eq_nil_iff_forall_not_mem]
    intro c hc
    have hblank' := hgap.blank c hc
    rw [isBlank_of_isDigit (hdigits c (List.mem_append_right _ hc))] at hblank'
    cases hblank'
  exact ⟨rfl, rfl, rfl, by rw [hnone]; rfl, rfl⟩

end GnuLd

namespace LineHeading

open GnuLd

variable {h : LineHeading} {ms : Captures} {r : List Char}

theorem file_ne_letter (h : LineHeading) : ∀ c, isLetterAscii c = true → h.file ≠ [c] := by
  intro c _ hc
  have htwo := h.two_le_length_file
  simp [hc] at htwo

theorem number_ne_letter (h : LineHeading) : ∀ c, isLetterAscii c = true → h.number ≠ [c] := by
  intro c hc hn
  have hdigit := h.number_digits c (by rw [hn]; exact List.mem_cons_self)
  rw [isDigit_of_isLetterAscii hc] at hdigit
  cases hdigit

theorem paren_not_mem_file (h : LineHeading) : '(' ∉ h.file := h.file_plain.2.1

theorem paren_not_mem_number (h : LineHeading) : '(' ∉ h.number := fun hc =>
  absurd (h.number_digits _ hc) (by decide)

/-- No section is named in the heading: what comes after its file and after its number starts with
no parenthesis. -/
theorem match?_sectionPattern (h : LineHeading) : sectionPattern.match? h.line = none := by
  refine match?_eq_none fun cs r hr => ?_
  obtain ⟨_, _, _, ⟨_, _, _, ⟨_, _, _, ⟨_, _, _, ⟨_, _, _, ⟨_, _, _, ⟨_, _, _, ⟨_, _, _, hobject,
    ⟨_, hfile, -⟩, -⟩, hbracket, -⟩, ⟨rfl, -⟩, -⟩, ⟨_, _, _, ⟨_, _, _, ⟨rfl, -⟩, -⟩, -⟩, -⟩, -⟩, -⟩,
    -⟩, -⟩ := hr
  -- with an object file the section would come after the number, and else after the file
  rcases hobject with ⟨_, _, _, ⟨_, hname, -⟩, ⟨rfl, -⟩, -⟩ | ⟨rfl, -⟩
  · obtain rfl := avoiding_reads (by decide) h.colon_not_mem_file hname
    obtain ⟨-, t, ht, hs⟩ := file_reads (by decide) h.colon_not_mem_number h.number_ne_letter hfile
    obtain ⟨-, -, htext⟩ :=
      bracketed_reads ht h.colon_not_mem_number h.paren_not_mem_number hs hbracket
    cases htext
  · obtain ⟨-, t, ht, hs⟩ := file_reads (by decide) h.colon_not_mem_file h.file_ne_letter hfile
    obtain ⟨-, -, hplace⟩ :=
      bracketed_reads ht h.colon_not_mem_file h.paren_not_mem_file hs hbracket
    obtain ⟨c, t', hc⟩ := List.exists_cons_of_ne_nil h.number_ne_nil
    have hparen := h.paren_not_mem_number
    rw [hc] at hplace hparen
    exact hparen (by rw [← (List.cons.inj hplace).1]; exact List.mem_cons_self)

/-! ### The severity of a heading -/

/-- What comes after the severity is no part of a word. -/
theorem exists_after_severity (h : LineHeading) :
    ∃ d t, h.gap ++ ':' :: ' ' :: h.message = d :: t ∧ isWord d = false := by
  rcases h.gap_blank with hgap | ⟨c, hc, hgap⟩ <;> rw [hgap]
  · exact ⟨':', _, rfl, by decide⟩
  · refine ⟨c, _, rfl, ?_⟩
    rw [← Bool.not_eq_true]
    intro hw
    rw [(plain_of_isWord hw).1] at hc
    cases hc

/-- The first word of the heading's text. -/
theorem exists_first_word (h : LineHeading) : ∃ w d t, h.text = w ++ d :: t ∧ Gcc.IsOneWord w ∧
    isWord d = false ∧ (h.severity = w ∨ (∃ lead ∈ Gcc.leads, w = lead.toList) ∨
      h.severity = w ++ ' ' :: "fatale".toList) := by
  have hspace : isWord ' ' = false := by decide
  unfold text
  generalize hs : h.severity = s
  have htext := h.severity_text
  rw [hs] at htext
  cases htext with
  | word hw =>
    obtain ⟨d, t, ht, hd⟩ := h.exists_after_severity
    exact ⟨s, d, t, by rw [ht], hw, hd, .inl rfl⟩
  | @led lead w hlead hw =>
    exact ⟨lead.toList, ' ', _, by rw [List.append_assoc, List.cons_append],
      Gcc.isOneWord_of_mem_leads hlead, hspace, .inr (.inl ⟨lead, hlead, rfl⟩)⟩
  | @tailed w hw =>
    exact ⟨w, ' ', _, by rw [List.append_assoc, List.cons_append], hw, hspace, .inr (.inr rfl)⟩

theorem mem_compilerHeads {w : String} (hw : w ∈ ["error", "warning"]) : w ∈ compilerHeads := by
  revert w; decide

/-- If the text of the heading starts with one of these words, it is the whole severity. -/
theorem severity_of_first_word (h : LineHeading) {w : String} {m : List Char}
    (hw : w ∈ ["error", "warning"]) (htext : h.text = w.toList ++ m)
    (hend : startsOutside isWord m = true) : h.severity = w.toList := by
  have hlead : ∀ w ∈ ["error", "warning"], ∀ l ∈ Gcc.leads, w.toList ≠ l.toList := by decide
  have htail : ∀ w ∈ ["error", "warning"],
      Severity.isKnownWord (w.toList ++ ' ' :: "fatale".toList) = false := by decide
  have hword : Gcc.IsOneWord w.toList := by
    have hall : ∀ w ∈ ["error", "warning"], Gcc.IsOneWord w.toList := by decide
    exact hall w hw
  obtain ⟨v, d, t, hv, hone, hd, hseverity⟩ := h.exists_first_word
  obtain rfl : v = w.toList := by
    rw [hv] at htext
    cases m with
    | nil =>
      have hmem : d ∈ w.toList := by
        rw [← List.append_nil w.toList, ← htext]
        simp
      rw [hword.2 d hmem] at hd
      cases hd
    | cons c m =>
      have hc : isWord c = false := by simpa [startsOutside] using hend
      exact (span_unique hone.2 hword.2 hd hc htext).1
  -- no severity known to GCC has one of these words as the first of two
  rcases hseverity with hsame | ⟨lead, hmem, hl⟩ | hfatale
  · exact hsame
  · exact absurd hl (hlead w hw lead hmem)
  · have hknown := h.severity_known
    rw [hfatale, htail w hw] at hknown
    cases hknown

/-- **A severity that linkers write too** is one with which compilers start their messages. -/
theorem severityPattern_reads {t : List Char}
    (hs : (severityPattern ["error", "warning"]).Reads h.text ms t) :
    h.text = t ∧ ms = [] ∨
      (∃ w ∈ compilerHeads, h.severity = w.toList) ∧
        ∃ a b, ms = [.opened .severity a, .closed .severity b] := by
  rcases hs with ⟨_, _, _, ⟨_, _, msColon, ⟨_, _, _, ⟨_, m, _, ⟨_, hword, rfl⟩, ⟨hend, rfl, rfl⟩,
    rfl⟩, ⟨_, -, -, rfl⟩, rfl⟩, hcolon, rfl⟩, hblanks, rfl⟩ | hnone
  · obtain ⟨w, hw, htext, rfl⟩ : ∃ w ∈ ["error", "warning"], h.text = w.toList ++ m ∧ _ = [] :=
      oneOf_reads_iff.1 hword
    obtain ⟨_, -, -, -, rfl⟩ := most1_reads_iff.1 hblanks
    obtain rfl : msColon = [] := by rcases hcolon with ⟨-, hms⟩ | ⟨-, hms⟩ <;> exact hms
    have hhead : h.severity = w.toList := h.severity_of_first_word hw htext hend
    exact .inr ⟨⟨w, mem_compilerHeads hw, hhead⟩, _, _, rfl⟩
  · exact .inl hnone

/-! ### The place of a heading -/

/-- The text of the heading starts with a character of a word. -/
theorem exists_text_cons (h : LineHeading) : ∃ c t, h.text = c :: t ∧ isWord c = true := by
  obtain ⟨w, d, t, htext, hone, -, -⟩ := h.exists_first_word
  obtain ⟨c, w', rfl⟩ := List.exists_cons_of_ne_nil hone.1
  exact ⟨c, _, htext, hone.2 c List.mem_cons_self⟩

theorem text_visible (h : LineHeading) : startsOutside isBlank h.text = true := by
  obtain ⟨c, t, htext, hword⟩ := h.exists_text_cons
  simp [htext, startsOutside, (plain_of_isWord hword).1]

/-- What is read of the heading's place. -/
theorem locatedPattern_reads (hp : locatedPattern.Reads h.line ms r) :
    ms.get? .object = none ∧
      ((ms.get? .severity).isSome = true ∧ (∃ w ∈ compilerHeads, h.severity = w.toList) ∨
        ms.get? .severity = none ∧ ms.get .message = h.text) := by
  obtain ⟨_, _, _, ⟨_, _, _, ⟨_, _, _, ⟨_, _, _, ⟨_, _, _, ⟨_, _, _, ⟨_, m, _, ⟨_, _, _, ⟨_, _, _,
    hobject, ⟨_, hfile, rfl⟩, rfl⟩, ⟨rfl, rfl⟩, rfl⟩, ⟨_, hnumber, rfl⟩, rfl⟩, hblank, rfl⟩,
    ⟨rfl, rfl⟩, rfl⟩, hblanks, rfl⟩, hseverity, rfl⟩, ⟨_, hmessage, rfl⟩, rfl⟩, ⟨rfl, rfl, rfl⟩,
    rfl⟩ := hp
  obtain ⟨_, _, _, ⟨_, -, -, rfl⟩, ⟨_, -, -, rfl⟩, rfl⟩ := hmessage
  rcases hobject with ⟨_, _, _, ⟨_, hname, rfl⟩, ⟨rfl, rfl⟩, rfl⟩ | ⟨rfl, rfl⟩
  · -- behind an object file the number would be a file, and a space the number
    obtain rfl := member_reads (by decide) h.colon_not_mem_file h.paren_not_mem_file hname
    obtain ⟨-, t, ht, hs⟩ := file_reads (by decide) h.colon_not_mem_number h.number_ne_letter hfile
    obtain ⟨-, hm⟩ := cut_unique h.colon_not_mem_number ht hs
    obtain ⟨t', hne, hdigits, htext, -⟩ := most1_reads_iff.1 hnumber
    obtain ⟨c, u, rfl⟩ := List.exists_cons_of_ne_nil hne
    obtain ⟨rfl, -⟩ := List.cons.inj (hm.trans htext)
    exact absurd (hdigits ' ' List.mem_cons_self) (by decide)
  · obtain ⟨rfl, t, ht, hs⟩ := file_reads (by decide) h.colon_not_mem_file h.file_ne_letter hfile
    obtain rfl : h.number ++ ':' :: ' ' :: h.text = m := (cut_unique h.colon_not_mem_file ht hs).2
    obtain ⟨rfl, rfl, rfl, -, rfl⟩ :=
      after_number_reads h.number_digits h.text_visible hnumber hblank hblanks
    rcases severityPattern_reads hseverity with ⟨rfl, rfl⟩ | ⟨hhead, a, b, rfl⟩
    · refine ⟨?_, .inr ⟨?_, ?_⟩⟩ <;> simp [Captures.get, Captures.get?, Captures.restOf?]
    · refine ⟨?_, .inl ⟨?_, hhead⟩⟩ <;> simp [Captures.get?, Captures.restOf?]

/-! ### Which headings are claimed -/

/-- The text of the heading ends as the linkers' grammar asks. -/
theorem text_inline (h : LineHeading) : ∃ m c, c ≠ ']' ∧ c ≠ ':' ∧ h.text = m ++ [c] ∧
    ∀ c ∈ m, isInline c = true := by
  obtain ⟨m, c, hm, hbracket, hcolon⟩ := h.message_end
  refine ⟨h.severity ++ (h.gap ++ ':' :: ' ' :: m), c, hbracket, hcolon, ?_, ?_⟩
  · rw [text, hm]
    simp
  · have hmessage := h.message_inline
    rw [hm, List.mem_append, not_or] at hmessage
    have hcolon' : '\n' ∉ ':' :: ' ' :: m := by simpa using hmessage.1
    apply isInline_of_not_mem
    rw [List.mem_append, List.mem_append, not_or, not_or]
    exact ⟨h.severity_text.inline, h.gap_inline, hcolon'⟩

/-- The heading has a file and a line number, as linkers write them. -/
theorem accepts_locatedPattern (h : LineHeading) : locatedPattern.accepts h.line = true := by
  obtain ⟨m, c, hbracket, -, htext, hinline⟩ := h.text_inline
  have hfile : (drive ++ most1 (fun c => c != ':')).Reads h.line [] h.place := by
    have hne : h.file ≠ [] := List.length_pos_iff.1 (by have := h.two_le_length_file; omega)
    have hplain : ∀ c ∈ h.file, (c != ':') = true := fun c hc =>
      bne_iff_ne.2 fun hcolon => h.colon_not_mem_file (hcolon ▸ hc)
    exact ⟨[], _, [], .inr ⟨rfl, rfl⟩, most1_reads_iff.2 ⟨_, hne, hplain, rfl, rfl⟩, rfl⟩
  have hmessage : (most isInline ++ one (fun c => c != ']')).Reads h.text [] [] :=
    ⟨[], [c], [], ⟨m, hinline, htext, rfl⟩, ⟨c, by simpa using hbracket, rfl, rfl⟩, rfl⟩
  exact accepts_iff.2 ⟨_, [], _, _, _, ⟨_, _, _, ⟨_, _, _, ⟨_, _, _, ⟨_, _, _, ⟨_, _, _, ⟨_, _, _,
    ⟨_, _, _, ⟨_, _, _, .inr ⟨rfl, rfl⟩, ⟨_, hfile, rfl⟩, rfl⟩, ⟨rfl, rfl⟩, rfl⟩,
    ⟨_, h.number_reads _, rfl⟩, rfl⟩, .inr ⟨rfl, rfl⟩, rfl⟩, ⟨rfl, rfl⟩, rfl⟩, Gcc.space_reads _,
    rfl⟩, .inr ⟨rfl, rfl⟩, rfl⟩, ⟨_, hmessage, rfl⟩, rfl⟩, ⟨rfl, rfl, rfl⟩, rfl⟩

/-- The words with which compilers start their messages are severities. -/
theorem severityText_of_mem {w : String} (hw : w ∈ compilerHeads) : Gcc.SeverityText w.toList := by
  have hone : ∀ w ∈ compilerHeads, (∃ lead ∈ Gcc.leads, w = lead ++ " error") ∨
      Gcc.IsOneWord w.toList := by decide
  have herror : Gcc.IsOneWord "error".toList := by decide
  rcases hone w hw with ⟨lead, hlead, rfl⟩ | hword
  · rw [String.toList_append]
    exact .led hlead herror
  · exact .word hword

/-- **The text starts as a compiler's message** exactly if the severity is one of these. -/
theorem accepts_compilerHeadPattern (h : LineHeading) :
    compilerHeadPattern.accepts h.text = true ↔ ∃ w ∈ compilerHeads, h.severity = w.toList := by
  rw [accepts_iff]
  constructor
  · rintro ⟨_, r, _, _, _, ⟨_, m, _, hword, hblank, rfl⟩, ⟨rfl, rfl⟩, rfl⟩
    obtain ⟨w, hw, htext, -⟩ : ∃ w ∈ compilerHeads, h.text = w.toList ++ m ∧ _ = [] :=
      oneOf_reads_iff.1 hword
    obtain ⟨g, hg, rfl, -⟩ := Gcc.gap_reads_iff.1 hblank
    have hcolon : ':' ∉ w.toList ++ g := by
      rw [List.mem_append, not_or]
      exact ⟨(severityText_of_mem hw).colon_not_mem, fun hc => absurd (hg.blank _ hc) (by decide)⟩
    have heq : (h.severity ++ h.gap) ++ ':' :: ' ' :: h.message = (w.toList ++ g) ++ ':' :: r := by
      rw [List.append_assoc, List.append_assoc]
      exact htext
    obtain ⟨hcut, -⟩ := cut_unique h.colon_not_mem_severity_gap hcolon heq
    refine ⟨w, hw, ?_⟩
    rw [← Gcc.unwords_words h.severity_text h.gap_blank.blank, hcut,
      Gcc.unwords_words (severityText_of_mem hw) hg.blank]
  · rintro ⟨w, hw, hseverity⟩
    have hword : (oneOf (compilerHeads.map fun w => Pattern.text w.toList)).Reads h.text []
        (h.gap ++ ':' :: ' ' :: h.message) :=
      oneOf_reads_iff.2 ⟨w, hw, by rw [text, hseverity], rfl⟩
    have hblank : (opt (one isBlank)).Reads (h.gap ++ ':' :: ' ' :: h.message) []
        (':' :: ' ' :: h.message) := Gcc.gap_reads_iff.2 ⟨h.gap, h.gap_blank, rfl, rfl⟩
    exact ⟨_, _, _, _, _, ⟨_, _, _, hword, hblank, rfl⟩, ⟨rfl, rfl⟩, rfl⟩

theorem isLinkerPrefixed_line (h : LineHeading) : isLinkerPrefixed h.line = false := by
  rw [isLinkerPrefixed_eq, Option.isSome_eq_false_iff, Option.isNone_iff_eq_none,
    Option.eq_none_iff_forall_ne_some]
  intro tool htool
  have hcut := isCut_of_split (Prod.ext htool rfl : split h.line = (some tool, (split h.line).2))
  rcases hcut.eq_or_letter h.colon_not_mem_file with ⟨rfl, -⟩ | ⟨c, hc⟩
  · obtain ⟨gap, hne, hgap, heq⟩ := hcut.eq
    have hplace : h.number ++ ':' :: ' ' :: h.text = gap ++ _ :=
      (List.cons.inj (List.append_cancel_left heq)).2
    obtain ⟨d, v, hd⟩ := List.exists_cons_of_ne_nil h.number_ne_nil
    obtain ⟨b, gap, rfl⟩ := List.exists_cons_of_ne_nil hne
    rw [hd] at hplace
    obtain ⟨rfl, -⟩ := List.cons.inj hplace
    have hdigit := h.number_digits d (by rw [hd]; exact List.mem_cons_self)
    have hblank : isBlank d = true := List.all_eq_true.1 hgap d List.mem_cons_self
    rw [isBlank_of_isDigit hdigit] at hblank
    cases hblank
  · have htwo := h.two_le_length_file
    simp [hc] at htwo

theorem inFunctionPattern_line (h : LineHeading) : inFunctionPattern.accepts h.line = false := by
  rw [← Bool.not_eq_true]
  intro hfunction
  obtain ⟨m, c, -, hcolon, htext, -⟩ := h.text_inline
  have hline : h.line = (h.file ++ ':' :: (h.number ++ ':' :: ' ' :: m)) ++ [c] := by
    rw [line, place, htext]
    simp
  have hlast := getLast?_of_inFunction hfunction
  rw [hline, List.getLast?_concat] at hlast
  exact hcolon (Option.some.inj hlast)

/-- **The headings that the linkers' grammar claims** are those whose severity is none of the words
that it leaves to compilers. -/
theorem claimed_read_iff (h : LineHeading) (hmake : isMakeLine h.line = false) :
    (GnuLd.read h.line).claimed = true ↔ ¬ ∃ w ∈ compilerHeads, h.severity = w.toList := by
  rw [GnuLd.claimed_read_iff h.isLinkerPrefixed_line, ← h.accepts_compilerHeadPattern]
  have hsection : sectionPattern.accepts h.line = false := by
    rw [← isSome_match?, h.match?_sectionPattern, Option.isSome_none]
  obtain ⟨cs, hcs⟩ : ∃ cs, locatedPattern.match? h.line = some cs := by
    rw [← Option.isSome_iff_exists, isSome_match?]
    exact h.accepts_locatedPattern
  obtain ⟨r, hr⟩ := match?_reads hcs
  obtain ⟨hobject, hplace⟩ := locatedPattern_reads hr
  have hplaces : NamesPlace h.line ↔ ¬ compilerHeadPattern.accepts h.text = true := by
    unfold NamesPlace
    rw [hsection, hcs]
    rcases hplace with ⟨hseverity, hhead⟩ | ⟨hseverity, hmessage⟩
    · rw [h.accepts_compilerHeadPattern]
      simp [hobject, hhead, Option.isSome_iff_ne_none.1 hseverity]
    · simp [hobject, hseverity, hmessage]
  rw [hplaces]
  simp [hmake, h.inFunctionPattern_line]

end LineHeading

end BuildDiagnostics
