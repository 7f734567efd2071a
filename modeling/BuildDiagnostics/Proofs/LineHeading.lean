import BuildDiagnostics.Grammar.Gcc
import BuildDiagnostics.Proofs.Captured
import BuildDiagnostics.Proofs.LinkerName

/-!
# Headings without a column

Compilers write `main.c:5: error: x` where they know no column. GCC takes such a line for a heading
only if its severity is a known word. The severity is one word, or one with `fatal`, `catastrophic`
or `fatale` next to it; whatever blanks part the words, it is read as these words with one space
between them (`words`).

* `severityOf_reads`: the severity that a reading captures has the words of the text that it read.
* `unwords_words`: a severity as it is written is its words with one space between them.
* `tailPattern_reads`: what is captured from the severity to the end of the line.
* `isSome_heading?`: such a line is a heading.
-/

namespace BuildDiagnostics

namespace Text

/-! ## Words -/

/-- The parts of a text between blanks. -/
def words (s : List Char) : List (List Char) := (s.splitOnP isBlank).filter fun w => !w.isEmpty

/-- Words with one space between them. -/
def unwords (ws : List (List Char)) : List Char := [' '].intercalate ws

variable {s r w : List Char} {b : Char}

theorem words_append_cons (hb : isBlank b = true) (s r : List Char) :
    words (s ++ b :: r) = words s ++ words r := by
  rw [words, List.splitOnP_append_cons s r hb, List.filter_append]
  rfl

/-- Blanks part the words around them, however many there are. -/
theorem words_append_blanks {bs : List Char} (hne : bs ≠ []) (hbs : ∀ c ∈ bs, isBlank c = true)
    (s r : List Char) : words (s ++ (bs ++ r)) = words s ++ words r := by
  induction bs generalizing s with
  | nil => exact absurd rfl hne
  | cons b bs ih =>
    obtain ⟨hb, hrest⟩ := List.forall_mem_cons.1 hbs
    rw [List.cons_append, words_append_cons hb]
    cases bs with
    | nil => rfl
    | cons b' bs => exact congrArg _ (ih (List.cons_ne_nil _ _) hrest [])

/-- Blanks at the end of a text are no words. -/
theorem words_append_of_blank {bs : List Char} (hbs : ∀ c ∈ bs, isBlank c = true)
    (s : List Char) : words (s ++ bs) = words s := by
  by_cases hne : bs = []
  · rw [hne, List.append_nil]
  · have h := words_append_blanks hne hbs s []
    rwa [List.append_nil, show words [] = [] from rfl, List.append_nil] at h

theorem words_of_no_blank (hne : w ≠ []) (hw : ∀ c ∈ w, isBlank c = false) : words w = [w] := by
  rw [words, List.splitOnP_eq_singleton hw]
  simp [hne]

end Text

namespace Gcc

open Text Pattern

variable {s r w m : List Char} {ms : Captures}

/-! ## Severities -/

/-- The text is a blank, or nothing. -/
def IsGap (gap : List Char) : Prop := gap = [] ∨ ∃ c, isBlank c = true ∧ gap = [c]

theorem IsGap.blank {gap : List Char} (h : IsGap gap) : ∀ c ∈ gap, isBlank c = true := by
  rcases h with rfl | ⟨c, hc, rfl⟩
  · simp
  · simpa using hc

theorem isGap_space : IsGap [' '] := .inr ⟨' ', by decide, rfl⟩

theorem gap_reads_iff :
    (opt (one isBlank)).Reads s ms r ↔ ∃ gap, IsGap gap ∧ s = gap ++ r ∧ ms = [] := by
  constructor
  · rintro (⟨c, hc, rfl, rfl⟩ | ⟨rfl, rfl⟩)
    · exact ⟨[c], .inr ⟨c, hc, rfl⟩, rfl, rfl⟩
    · exact ⟨[], .inl rfl, rfl, rfl⟩
  · rintro ⟨gap, rfl | ⟨c, hc, rfl⟩, rfl, rfl⟩
    · exact .inr ⟨rfl, rfl⟩
    · exact .inl ⟨c, hc, rfl, rfl⟩

theorem space_reads (t : List Char) : (most1 isBlank).Reads (' ' :: t) [] t :=
  most1_reads_iff.2 ⟨[' '], by simp, List.all_eq_true.1 (by decide), rfl, rfl⟩

/-- The text is one word. -/
def IsOneWord (w : List Char) : Prop := w ≠ [] ∧ ∀ c ∈ w, isWord c = true

-- by the characters of the text: an instance for all characters would try each there is
instance (w : List Char) : Decidable (IsOneWord w) :=
  decidable_of_iff (w ≠ [] ∧ w.all isWord = true) (by rw [IsOneWord, List.all_eq_true])

/-- The words that may stand before the word of a severity. -/
def leads : List String := ["fatal", "catastrophic"]

/-- A severity as a compiler writes it. -/
inductive SeverityText : List Char → Prop
  | word {w : List Char} : IsOneWord w → SeverityText w
  | led {lead : String} {w : List Char} : lead ∈ leads → IsOneWord w →
      SeverityText (lead.toList ++ ' ' :: w)
  | tailed {w : List Char} : IsOneWord w → SeverityText (w ++ ' ' :: "fatale".toList)

theorem IsOneWord.no_blank (h : IsOneWord w) : ∀ c ∈ w, isBlank c = false := fun c hc =>
  (plain_of_isWord (h.2 c hc)).1

theorem IsOneWord.words_eq (h : IsOneWord w) : words w = [w] := words_of_no_blank h.1 h.no_blank

theorem isOneWord_fatale : IsOneWord "fatale".toList := by decide

theorem isOneWord_of_mem_leads {lead : String} (h : lead ∈ leads) : IsOneWord lead.toList := by
  have hall : ∀ l ∈ leads, IsOneWord l.toList := by decide
  exact hall lead h

/-- A severity has no characters but those of words, and spaces. -/
theorem SeverityText.isWord_or_space (hs : SeverityText s) :
    ∀ c ∈ s, isWord c = true ∨ c = ' ' := by
  have htwo : ∀ {v w : List Char}, IsOneWord v → IsOneWord w → ∀ c ∈ v ++ ' ' :: w,
      isWord c = true ∨ c = ' ' := by
    intro v w hv hw c hc
    rcases List.mem_append.1 hc with hc | hc
    · exact .inl (hv.2 c hc)
    · rcases List.mem_cons.1 hc with hspace | hc
      · exact .inr hspace
      · exact .inl (hw.2 c hc)
  cases hs with
  | word hw => exact fun c hc => .inl (hw.2 c hc)
  | led hlead hw => exact htwo (isOneWord_of_mem_leads hlead) hw
  | tailed hw => exact htwo hw isOneWord_fatale

/-- No other character is in a severity. -/
theorem SeverityText.not_mem (hs : SeverityText s) {c : Char} (hword : isWord c = false)
    (hspace : c ≠ ' ') : c ∉ s := by
  intro hc
  rcases hs.isWord_or_space c hc with h | h
  · rw [hword] at h
    cases h
  · exact hspace h

theorem SeverityText.colon_not_mem (hs : SeverityText s) : ':' ∉ s :=
  hs.not_mem (by decide) (by decide)

theorem SeverityText.inline (hs : SeverityText s) : '\n' ∉ s := hs.not_mem (by decide) (by decide)

/-- **A severity is its words with one space between them**, whatever blanks come after it. -/
theorem unwords_words {gap : List Char} (h : SeverityText s) (hgap : ∀ c ∈ gap, isBlank c = true) :
    unwords (words (s ++ gap)) = s := by
  have htwo : ∀ {v w : List Char}, IsOneWord v → IsOneWord w →
      unwords (words (v ++ ' ' :: w)) = v ++ ' ' :: w := by
    intro v w hv hw
    rw [words_append_cons (by decide), hv.words_eq, hw.words_eq]
    simp [unwords, List.intercalate]
  rw [words_append_of_blank hgap]
  cases h with
  | word hw => rw [hw.words_eq]; simp [unwords, List.intercalate]
  | led hlead hw => exact htwo (isOneWord_of_mem_leads hlead) hw
  | tailed hw => exact htwo hw isOneWord_fatale

/-! ## What is read of a severity -/

/-- From the blanks before the severity to the blank after it. -/
def severityPart : Pattern :=
  most1 isBlank ++ opt (capture .lead (oneOf ["fatal", "catastrophic"]) ++ most1 isBlank) ++
    capture .severity (most1 isWord) ++ opt (most1 isBlank ++ capture .tail "fatale") ++
    opt (one isBlank)

/-- From the colon after the file to the end of the line. -/
def placePattern : Pattern :=
  ":" ++ capture .line (most1 isDigit) ++ ":" ++ tailPattern

/-- What is read of a word before the severity. -/
theorem lead_reads
    (h : (opt (capture .lead (oneOf ["fatal", "catastrophic"]) ++ most1 isBlank)).Reads s ms r) :
    s = r ∧ ms = [] ∨ ∃ lead bs, IsOneWord lead ∧ bs ≠ [] ∧ (∀ c ∈ bs, isBlank c = true) ∧
      s = lead ++ (bs ++ r) ∧ ms = [.opened .lead s, .closed .lead (bs ++ r)] := by
  rcases h with ⟨_, _, _, ⟨_, hlead, rfl⟩, hblanks, rfl⟩ | h
  · obtain ⟨bs, hne, hbs, rfl, rfl⟩ := most1_reads_iff.1 hblanks
    obtain ⟨lead, hmem, rfl, rfl⟩ : ∃ lead ∈ leads, s = lead.toList ++ (bs ++ r) ∧ _ = [] :=
      oneOf_reads_iff.1 hlead
    exact .inr ⟨_, bs, isOneWord_of_mem_leads hmem, hne, hbs, rfl, rfl⟩
  · exact .inl h

/-- What is read of a word after the severity. -/
theorem tail_reads (h : (opt (most1 isBlank ++ capture .tail "fatale")).Reads s ms r) :
    s = r ∧ ms = [] ∨ ∃ bs tail, bs ≠ [] ∧ (∀ c ∈ bs, isBlank c = true) ∧ IsOneWord tail ∧
      s = bs ++ (tail ++ r) ∧ ms = [.opened .tail (tail ++ r), .closed .tail r] := by
  rcases h with ⟨_, _, _, hblanks, ⟨_, ⟨rfl, rfl⟩, rfl⟩, rfl⟩ | h
  · obtain ⟨bs, hne, hbs, rfl, rfl⟩ := most1_reads_iff.1 hblanks
    exact .inr ⟨bs, _, hne, hbs, isOneWord_fatale, rfl, rfl⟩
  · exact .inl h

theorem words_blanks_append {bs : List Char} (hne : bs ≠ []) (hbs : ∀ c ∈ bs, isBlank c = true)
    (r : List Char) : words (bs ++ r) = words r := words_append_blanks hne hbs [] r

theorem IsOneWord.words_append {bs : List Char} (hw : IsOneWord w) (hne : bs ≠ [])
    (hbs : ∀ c ∈ bs, isBlank c = true) (r : List Char) :
    words (w ++ (bs ++ r)) = w :: words r := by
  rw [words_append_blanks hne hbs, hw.words_eq]
  rfl

theorem IsOneWord.words_append_end {bs : List Char} (hw : IsOneWord w)
    (hbs : ∀ c ∈ bs, isBlank c = true) : words (w ++ bs) = [w] := by
  rw [words_append_of_blank hbs, hw.words_eq]

/-- **The severity that is captured has the words of the text that was read.** The capture of the
message may stand after those of the severity. -/
theorem severityOf_reads (h : severityPart.Reads s ms r) (m m' : List Char) :
    ∃ u, s = u ++ r ∧ ':' ∉ u ∧
      severityOf (ms ++ [.opened .message m, .closed .message m']) = unwords (words u) := by
  obtain ⟨u, rfl⟩ := suffix_of_reads h
  refine ⟨u, rfl, not_mem_of_avoids (by decide) h, ?_⟩
  obtain ⟨_, _, _, ⟨_, _, _, ⟨_, _, _, ⟨_, _, _, hblanks, hlead, rfl⟩, ⟨_, hword, rfl⟩, rfl⟩,
    htail, rfl⟩, hend, rfl⟩ := h
  obtain ⟨bs, hne, hbs, hu, rfl⟩ := most1_reads_iff.1 hblanks
  obtain ⟨w, hwne, hw, rfl, rfl⟩ := most1_reads_iff.1 hword
  have hone : IsOneWord w := ⟨hwne, hw⟩
  obtain ⟨gap, hgap, rfl, rfl⟩ := gap_reads_iff.1 hend
  -- the words that were read are those that were captured, with or without a lead and a tail
  rcases lead_reads hlead with ⟨rfl, rfl⟩ | ⟨lead, bs', hleadWord, hne', hbs', rfl, rfl⟩
  · rcases tail_reads htail with ⟨rfl, rfl⟩ | ⟨bs'', tail, hne'', hbs'', htailWord, rfl, rfl⟩
    · obtain rfl : u = bs ++ (w ++ gap) := List.append_cancel_right (hu.trans (by simp))
      rw [words_blanks_append hne hbs, hone.words_append_end hgap.blank]
      simp [severityOf, Captures.get, Captures.get?, Captures.restOf?, unwords, List.intercalate]
    · obtain rfl : u = bs ++ (w ++ (bs'' ++ (tail ++ gap))) :=
        List.append_cancel_right (hu.trans (by simp))
      rw [words_blanks_append hne hbs, hone.words_append hne'' hbs'',
        htailWord.words_append_end hgap.blank]
      simp [severityOf, Captures.get, Captures.get?, Captures.restOf?, unwords, List.intercalate]
  · rcases tail_reads htail with ⟨rfl, rfl⟩ | ⟨bs'', tail, hne'', hbs'', htailWord, rfl, rfl⟩
    · obtain rfl : u = bs ++ (lead ++ (bs' ++ (w ++ gap))) :=
        List.append_cancel_right (hu.trans (by simp))
      rw [words_blanks_append hne hbs, hleadWord.words_append hne' hbs',
        hone.words_append_end hgap.blank]
      simp [severityOf, Captures.get, Captures.get?, Captures.restOf?, unwords, List.intercalate]
    · obtain rfl : u = bs ++ (lead ++ (bs' ++ (w ++ (bs'' ++ (tail ++ gap))))) :=
        List.append_cancel_right (hu.trans (by simp))
      rw [words_blanks_append hne hbs, hleadWord.words_append hne' hbs',
        hone.words_append hne'' hbs'', htailWord.words_append_end hgap.blank]
      simp [severityOf, Captures.get, Captures.get?, Captures.restOf?, unwords, List.intercalate]

/-- A severity can be read as it is written. -/
theorem exists_reads_severityPart {gap : List Char} (hs : SeverityText s) (hgap : IsGap gap)
    (r : List Char) : ∃ ms, severityPart.Reads (' ' :: (s ++ (gap ++ r))) ms r := by
  have hword : ∀ {w : List Char}, IsOneWord w → ∀ t,
      (capture .severity (most1 isWord)).Reads (w ++ t) [.opened .severity (w ++ t),
        .closed .severity t] t := fun hw t =>
    ⟨[], most1_reads_iff.2 ⟨_, hw.1, hw.2, rfl, rfl⟩, rfl⟩
  have hend : (opt (one isBlank)).Reads (gap ++ r) [] r := gap_reads_iff.2 ⟨gap, hgap, rfl, rfl⟩
  cases hs with
  | word hw =>
    exact ⟨_, _, _, _, ⟨_, _, _, ⟨_, _, _, ⟨_, _, _, space_reads _, .inr ⟨rfl, rfl⟩, rfl⟩,
      hword hw _, rfl⟩, .inr ⟨rfl, rfl⟩, rfl⟩, hend, rfl⟩
  | @led lead w hlead hw =>
    have hone : (oneOf (leads.map fun w => text w.toList)).Reads
        (lead.toList ++ ' ' :: (w ++ (gap ++ r))) [] (' ' :: (w ++ (gap ++ r))) :=
      oneOf_reads_iff.2 ⟨lead, hlead, rfl, rfl⟩
    rw [List.append_assoc, List.cons_append]
    exact ⟨_, _, _, _, ⟨_, _, _, ⟨_, _, _, ⟨_, _, _, space_reads _, .inl ⟨_, _, _, ⟨_, hone, rfl⟩,
      space_reads _, rfl⟩, rfl⟩, hword hw _, rfl⟩, .inr ⟨rfl, rfl⟩, rfl⟩, hend, rfl⟩
  | tailed hw =>
    rw [List.append_assoc, List.cons_append]
    exact ⟨_, _, _, _, ⟨_, _, _, ⟨_, _, _, ⟨_, _, _, space_reads _, .inr ⟨rfl, rfl⟩, rfl⟩,
      hword hw _, rfl⟩, .inl ⟨_, _, _, space_reads _, ⟨_, ⟨rfl, rfl⟩, rfl⟩, rfl⟩, rfl⟩, hend, rfl⟩

/-! ## From the severity to the end of the line -/

variable {gap : List Char}

/-- A severity and a message can be read as they are written. -/
theorem exists_reads_tail (hs : SeverityText s) (hgap : IsGap gap) (hm : '\n' ∉ m) :
    ∃ ms, tailPattern.Reads (' ' :: (s ++ (gap ++ ':' :: ' ' :: m))) ms [] := by
  obtain ⟨ms, hms⟩ := exists_reads_severityPart hs hgap (':' :: ' ' :: m)
  have hmessage : (capture .message (most isInline)).Reads m
      [.opened .message m, .closed .message []] [] :=
    ⟨[], ⟨_, isInline_of_not_mem hm, (List.append_nil _).symm, rfl⟩, rfl⟩
  exact ⟨_, _, _, _, ⟨_, _, _, ⟨_, _, _, ⟨_, _, _, hms, ⟨rfl, rfl⟩, rfl⟩, space_reads _, rfl⟩,
    hmessage, rfl⟩, ⟨rfl, rfl, rfl⟩, rfl⟩

/-- **Whatever is read from the severity on**, the severity that was written is captured, and a
message that what was written ends with after blanks. -/
theorem tailPattern_reads (hs : SeverityText s) (hgap : IsGap gap)
    (h : tailPattern.Reads (' ' :: (s ++ (gap ++ ':' :: ' ' :: m))) ms r) :
    severityOf ms = s ∧ ∃ bs, bs ≠ [] ∧ (∀ c ∈ bs, isBlank c = true) ∧
      ' ' :: m = bs ++ ms.get .message := by
  obtain ⟨_, _, _, ⟨_, message, _, ⟨_, _, _, ⟨msS, _, _, hsev, ⟨rfl, rfl⟩, rfl⟩, hblanks, rfl⟩,
    ⟨_, ⟨_, -, -, rfl⟩, rfl⟩, rfl⟩, ⟨rfl, rfl, rfl⟩, rfl⟩ := h
  obtain ⟨bs, hne, hbs, rfl, rfl⟩ := most1_reads_iff.1 hblanks
  obtain ⟨u, hu, hcolon, hseverity⟩ := severityOf_reads hsev message []
  -- what was read of the severity ends at the first colon
  have htext : ' ' :: (s ++ (gap ++ ':' :: ' ' :: m)) =
      [' '] ++ (s ++ gap) ++ ':' :: ' ' :: m := by simp
  have hcolon' : ':' ∉ [' '] ++ (s ++ gap) := by
    have hblank : ':' ∉ gap := fun hc => absurd (hgap.blank _ hc) (by decide)
    simp [hs.colon_not_mem, hblank]
  obtain ⟨rfl, hmessage⟩ := cut_unique hcolon' hcolon (htext.symm.trans hu)
  rw [words_blanks_append (by simp) (List.all_eq_true.1 (by decide)),
    unwords_words hs hgap.blank] at hseverity
  have hlacks : msS.Lacks .message := lacks_of_reads (by decide) rfl hsev
  have hcaptured : Captures.get (msS ++ [.opened .message message, .closed .message []]) .message =
      message := by
    rw [Captures.get, Captures.get?_append_of_lacks hlacks]
    simp [Captures.get?, Captures.restOf?]
  refine ⟨?_, bs, hne, hbs, ?_⟩
  · rw [← hseverity]
    simp
  · simpa [hcaptured] using hmessage

end Gcc

/-! ## Headings -/

open Text Pattern

/-- What a heading without a column says, and how it is written. The file is no drive letter, and
the message does not end as a line of another kind would. -/
structure LineHeading where
  file : List Char
  number : List Char
  severity : List Char
  /-- What comes between the severity and its colon. -/
  gap : List Char
  message : List Char
  two_le_length_file : 2 ≤ file.length
  file_plain : ':' ∉ file ∧ '(' ∉ file ∧ '\n' ∉ file
  number_ne_nil : number ≠ []
  number_digits : ∀ c ∈ number, isDigit c = true
  severity_text : Gcc.SeverityText severity
  severity_known : Severity.isKnownWord severity = true
  gap_blank : Gcc.IsGap gap
  gap_inline : '\n' ∉ gap
  message_inline : '\n' ∉ message
  message_end : ∃ m c, message = m ++ [c] ∧ c ≠ ']' ∧ c ≠ ':'

namespace LineHeading

variable {h : LineHeading} {ms : Captures} {r : List Char}

/-- The heading from its severity on. -/
def text (h : LineHeading) : List Char := h.severity ++ (h.gap ++ ':' :: ' ' :: h.message)

/-- The heading from the colon after its file on. -/
def place (h : LineHeading) : List Char := ':' :: (h.number ++ ':' :: ' ' :: h.text)

/-- The heading as it is written. -/
def line (h : LineHeading) : Line := h.file ++ h.place

theorem colon_not_mem_file (h : LineHeading) : ':' ∉ h.file := h.file_plain.1

theorem colon_not_mem_severity_gap (h : LineHeading) : ':' ∉ h.severity ++ h.gap := by
  rw [List.mem_append, not_or]
  exact ⟨h.severity_text.colon_not_mem, fun hc => absurd (h.gap_blank.blank _ hc) (by decide)⟩

theorem colon_not_mem_number (h : LineHeading) : ':' ∉ h.number := fun hc =>
  absurd (h.number_digits _ hc) (by decide)

theorem number_reads (h : LineHeading) (t : List Char) :
    (most1 isDigit).Reads (h.number ++ t) [] t :=
  most1_reads_iff.2 ⟨_, h.number_ne_nil, h.number_digits, rfl, rfl⟩

/-- The heading can be read from the colon after its file on. -/
theorem exists_reads_place (h : LineHeading) : ∃ ms, Gcc.placePattern.Reads h.place ms [] := by
  obtain ⟨ms, htail⟩ := Gcc.exists_reads_tail h.severity_text h.gap_blank h.message_inline
  have hnumber : (capture .line (most1 isDigit)).Reads (h.number ++ ':' :: ' ' :: h.text)
      [.opened .line (h.number ++ ':' :: ' ' :: h.text), .closed .line (':' :: ' ' :: h.text)]
      (':' :: ' ' :: h.text) :=
    ⟨[], h.number_reads _, rfl⟩
  exact ⟨_, _, _, _, ⟨_, _, _, ⟨_, _, _, ⟨rfl, rfl⟩, hnumber, rfl⟩, ⟨rfl, rfl⟩, rfl⟩, htail, rfl⟩

/-- **Whatever is read of the heading, its severity is captured.** -/
theorem severityOf_place (hp : Gcc.placePattern.Reads h.place ms r) (f f' : List Char) :
    Gcc.severityOf (.opened .file f :: .closed .file f' :: ms) = h.severity := by
  obtain ⟨_, rest, _, ⟨_, _, _, ⟨_, place, _, ⟨hcolon, rfl⟩, ⟨_, hnumber, rfl⟩, rfl⟩, ⟨rfl, rfl⟩,
    rfl⟩, htail, rfl⟩ := hp
  have hplace : h.number ++ ':' :: ' ' :: h.text = place := (List.cons.inj hcolon).2
  obtain ⟨t, -, ht, hs, rfl⟩ := most1_reads_iff.1 hnumber
  have ht' : ':' ∉ t := fun hc => absurd (ht _ hc) (by decide)
  obtain ⟨-, hrest⟩ := cut_unique h.colon_not_mem_number ht' (hplace.trans hs)
  obtain rfl : ' ' :: h.text = rest := hrest
  exact (Gcc.tailPattern_reads h.severity_text h.gap_blank htail).1

/-- **The line is a heading**: its file ends before the first colon, and its severity is known. -/
theorem isSome_lineOnly? (h : LineHeading) : (Gcc.lineOnly? h.line).isSome = true := by
  let k : Continuation := fun r => some (.start r)
  obtain ⟨ms, hms⟩ := h.exists_reads_place
  obtain ⟨x, hx⟩ := Option.isSome_iff_exists.1 (isSome_run_of_reads (k := k) hms rfl)
  -- the file is a shortest run, so it ends at the first colon from which the rest can be read
  have hfirst : FirstPlace (fun r => (Gcc.placePattern.run k r).isSome = true) h.line h.file
      h.place := by
    refine ⟨rfl, by rw [hx]; rfl, fun u v huv hv => ?_⟩
    obtain ⟨y, hy⟩ := Option.isSome_iff_exists.1 hv
    obtain ⟨_, _, _, ⟨_, _, _, ⟨_, _, _, ⟨_, _, _, ⟨hcolon, -⟩, -⟩, -⟩, -⟩, -⟩ := run_reads hy
    exact (firstPlace_char_iff.2 ⟨rfl, h.colon_not_mem_file, _, rfl⟩).first u v huv ⟨_, hcolon⟩
  have hinline : ∀ c ∈ h.file, isInline c = true :=
    isInline_of_not_mem h.file_plain.2.2
  have hrun : (capture .file (least isInline)).run (Gcc.placePattern.run k) h.line =
      some ⟨.opened .file h.line :: .closed .file h.place :: x.captures, x.rest⟩ :=
    run_capture_least_iff.2 ⟨h.file, h.place, x, hfirst, hinline, hx, rfl⟩
  have hmatch : Gcc.lineOnlyPattern.match? h.line =
      some (.opened .file h.line :: .closed .file h.place :: x.captures) := by
    rw [match?, read?_eq_run]
    exact congrArg (Option.map Reading.captures) hrun
  obtain ⟨ms', r, y, hplace, hy, rfl⟩ := run_reads hx
  cases hy
  have hseverity := severityOf_place hplace h.line h.place
  have hcaptures : (Reading.marks ms' (.start r)).captures = ms' := List.append_nil ms'
  rw [Gcc.lineOnly?, hmatch, hcaptures]
  dsimp only
  rw [hseverity, if_pos h.severity_known]
  rfl

/-- **Such a line is a heading to GCC.** -/
theorem isSome_heading? (h : LineHeading) : (Gcc.heading? h.line).isSome = true := by
  rw [Gcc.heading?, Option.isSome_or, Option.isSome_or, h.isSome_lineOnly?, Bool.true_or,
    Bool.or_true]

end LineHeading

end BuildDiagnostics
