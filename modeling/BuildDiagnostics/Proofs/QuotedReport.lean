import BuildDiagnostics.Proofs.QuotedPattern

/-!
# Headings of Green Hills, Diab and IAR

Each of the three compilers starts its headings with a file in quotes, so what tells them apart
comes after it: a number in IAR, and behind a blank a place or a severity in the other two. A
heading is read back by its own grammar as it was written, whatever quotes, signs and parentheses
its message has, and the other two leave it alone. In the code of a Diab diagnostic alone a quote
and a comma may stand, and where the code goes on behind them as a heading does behind its file, the
file is read as far as there.

* `GreenHills.Heading.prefers_rest`, `Diab.Heading.prefers_rest`, `Iar.Heading.prefers_rest`: what
  is captured behind the file.
* `GreenHills.Heading.not_diab`, `Diab.Heading.not_greenHills`: what is no heading of the other.
* `GreenHills.Heading.readOnly`, `Diab.Heading.readOnly`, `Iar.Heading.readOnly`: what a new matcher
  of each grammar makes of a heading.
* `Diab.Heading.whole_of_readOnly`: a code that goes on is read otherwise.
* `quoted_headings_read_back`, `quoted_headings_misread`: the three formats together, and codes that
  are read as the rest of a heading.
-/

namespace BuildDiagnostics

open Text Pattern

/-! ## Headings of Green Hills -/

/-- A heading of Green Hills. -/
structure GreenHills.Heading extends QuotedNotice where
  /-- The line and the column; without them the problem is at the end of the source. -/
  place : Option (Nat × Nat)
  fatal : Bool
  severity_mem : severity ∈ ["remark", "warning", "error"]
  code_word : ∀ c ∈ code, isWord c = true ∨ c = '-'
  place_valid : ∀ p ∈ place, (1 ≤ p.1 ∧ p.1 < UInt32.size) ∧ 1 ≤ p.2 ∧ p.2 < UInt32.size

namespace GreenHills.Heading

variable {h : Heading} {r : List Char}

/-- A column as it is written, and what comes after it. -/
def columned (c : Nat) (r : List Char) : List Char :=
  "(col.".toList ++ ' ' :: (decimal c ++ ')' :: ':' :: r)

/-- The place as it is written, and what comes after it. -/
def located (h : Heading) (r : List Char) : List Char :=
  match h.place with
  | some (l, c) => "line ".toList ++ (decimal l ++ ' ' :: columned c r)
  | none => "At end of source".toList ++ ':' :: r

/-- The code and the message. -/
def body (h : Heading) : List Char := '#' :: (h.code ++ ':' :: ' ' :: h.message)

/-- The heading behind the word for a fatal problem. -/
def tail (h : Heading) : List Char := h.severity.toList ++ ' ' :: h.body

/-- The word for a fatal problem, if it is one. -/
def fatalText (h : Heading) : List Char := if h.fatal then "fatal ".toList else []

/-- The heading behind its place. -/
def level (h : Heading) : List Char := h.fatalText ++ h.tail

/-- The heading behind its file. -/
def rest (h : Heading) : List Char := ' ' :: h.located (' ' :: h.level)

/-- The heading as it is written. -/
def line (h : Heading) : Line := h.lineWith h.rest

/-- The heading as it is read. -/
def diagnostic (h : Heading) : Diagnostic where
  source := "GHS"
  file := String.ofList h.file
  range := match h.place with
    | some (l, c) => .point (l - 1).toUInt32 (c - 1).toUInt32
    | none => .point 0 0
  severity := h.severity
  message := String.ofList h.message
  code := some (String.ofList h.code)

/-! ### What is read -/

theorem splitCode_body (h : Heading) :
    splitCode h.body = (some (String.ofList h.code), h.message) := by
  have hcode : (capture .code (most1 fun c => isWord c || c == '-')).Prefers
      (h.code ++ ':' :: ' ' :: h.message)
      [.opened .code (h.code ++ ':' :: ' ' :: h.message),
        .closed .code (':' :: ' ' :: h.message)] (':' :: ' ' :: h.message) := by
    have hword : ∀ c ∈ h.code, (isWord c || c == '-') = true := by
      intro c hc
      rcases h.code_word c hc with hw | rfl
      · simp [hw]
      · simp
    have hcolon : isWord ':' = false := by decide +kernel
    exact (prefers_most1 h.code_ne hword (by simp [startsOutside, hcolon])).capture .code
  have hgap : (most isBlank).Prefers (' ' :: h.message) [] h.message :=
    prefers_gap (startsOutside_of_trimmed h.message_trimmed)
  have hall : codePattern.Prefers h.body
      [.opened .code (h.code ++ ':' :: ' ' :: h.message), .closed .code (':' :: ' ' :: h.message),
        .opened .message h.message, .closed .message []] [] :=
    (prefers_text ['#'] _).seq (hcode.seq ((prefers_text [':'] _).seq
      (hgap.seq (prefers_rest .message h.message_inline))))
  rw [splitCode, hall.match?]
  simp [Captures.get, Diagnostic.nonEmptyCode, h.code_ne, Captures.get?, Captures.restOf?]

theorem located_some {l c : Nat} (hp : h.place = some (l, c)) (r : List Char) :
    h.located r = "line ".toList ++ (decimal l ++ ' ' :: columned c r) := by
  rw [located, hp]

theorem located_none (hp : h.place = none) (r : List Char) :
    h.located r = "At end of source".toList ++ ':' :: r := by
  rw [located, hp]

/-- The marks of the place. -/
def placeMarks (h : Heading) (r : List Char) : Captures :=
  match h.place with
  | some (l, c) =>
    [.opened .line (decimal l ++ ' ' :: columned c r), .closed .line (' ' :: columned c r),
      .opened .column (decimal c ++ ')' :: ':' :: r), .closed .column (')' :: ':' :: r)]
  | none => []

theorem prefers_place (h : Heading) (r : List Char) :
    placePattern.Prefers (h.located r) (h.placeMarks r) (':' :: r) := by
  unfold placePattern located placeMarks
  match h.place with
  | some (l, c) =>
    have hcolumn : (capture .column (most1 isDigit) ++ ")" : Pattern).Prefers
        (decimal c ++ ')' :: ':' :: r)
        [.opened .column (decimal c ++ ')' :: ':' :: r), .closed .column (')' :: ':' :: r)]
        (':' :: r) :=
      (prefers_number .column c (by decide) _).seq (prefers_text [')'] _)
    have hplace := prefers_lineThen l (c := ' ') (by decide)
      ((prefers_blank (by rfl)).seq
        ((prefers_text "(col.".toList (' ' :: (decimal c ++ ')' :: ':' :: r))).seq
          ((prefers_blank (decimal_visible c _)).seq hcolumn)))
    exact hplace.left
  | none =>
    refine Prefers.right ?_ (prefers_text "At end of source".toList (':' :: r))
    rintro ms r' ⟨_, _, _, ⟨hs, -⟩, -, -⟩
    exact absurd (List.cons.inj hs).1 (by decide)

/-- What is captured behind the file. -/
def marks (h : Heading) : Captures :=
  h.placeMarks (' ' :: h.level) ++ [.opened .severity h.tail, .closed .severity (' ' :: h.body),
    .opened .message h.body, .closed .message []]

theorem severity_cons (h : Heading) : ∃ c s, h.severity.toList = c :: s ∧ isBlank c = false ∧
    c ≠ 'f' := by
  obtain ⟨c, s, hs, hgood⟩ := exists_first_of_mem (g := fun c => !isBlank c && c != 'f')
    (by decide) h.severity_mem
  exact ⟨c, s, hs, by simpa using hgood⟩

theorem located_visible (h : Heading) (r : List Char) :
    startsOutside isBlank (h.located r) = true := by
  unfold located
  cases h.place <;> rfl

theorem level_visible (h : Heading) : startsOutside isBlank h.level = true := by
  obtain ⟨c, s, hs, hc, -⟩ := h.severity_cons
  unfold level fatalText tail
  cases h.fatal with
  | true => rfl
  | false => simp [hs, startsOutside, hc]

/-- The word for a fatal problem is read if it is there: no severity starts like it. -/
theorem prefers_fatal (h : Heading) : (opt "fatal ").Prefers h.level [] h.tail := by
  unfold level fatalText
  cases h.fatal with
  | true => exact (prefers_text "fatal ".toList h.tail).opt
  | false =>
    refine prefers_opt_none ?_
    rintro ms r ⟨hread, -⟩
    obtain ⟨c, s, hs, -, hc⟩ := h.severity_cons
    rw [tail, hs] at hread
    exact hc (List.cons.inj hread).1

/-- The characters of a code. -/
theorem code_not_mem (h : Heading) {c : Char} (hword : isWord c = false) (hhyphen : c ≠ '-') :
    c ∉ h.code := by
  intro hmem
  rcases h.code_word c hmem with hw | hw
  · rw [hword] at hw
    cases hw
  · exact hhyphen hw

theorem prefers_rest (h : Heading) : restPattern.Prefers h.rest h.marks [] := by
  have hseverity : (oneOf ["remark", "warning", "error"]).Prefers h.tail [] (' ' :: h.body) :=
    prefers_word (by decide) (by decide) (by decide) h.severity_mem _
  have hinline : '\n' ∉ h.body := by
    have hcode : '\n' ∉ h.code := h.code_not_mem (by decide +kernel) (by decide)
    simp [body, hcode, h.message_inline]
  exact (prefers_blank (h.located_visible _)).seq
    ((h.prefers_place _).seq ((prefers_text [':'] _).seq
      ((prefers_blank h.level_visible).seq
        (h.prefers_fatal.seq ((hseverity.capture .severity).seq
          ((prefers_blank (by rfl)).seq
            (Pattern.prefers_rest .message hinline)))))))

theorem located_append (h : Heading) (r t : List Char) :
    h.located (r ++ t) = h.located r ++ t := by
  unfold located columned
  cases h.place <;> simp

/-- A place has no quote. -/
theorem located_plain (h : Heading) (hr : '"' ∉ r) : '"' ∉ h.located r := by
  have hnumber : ∀ n, '"' ∉ decimal n := fun n => not_mem_decimal (by decide)
  unfold located columned
  cases h.place with
  | some p => simp [hnumber, hr]
  | none => simp [hr]

theorem uncut_rest (h : Heading) (p : Pattern) : p.Uncut h.rest := by
  have hcode : '"' ∉ h.code := h.code_not_mem (by decide +kernel) (by decide)
  have hseverity : '"' ∉ h.severity.toList := by
    have hall : ∀ w ∈ ["remark", "warning", "error"], '"' ∉ w.toList := by decide
    exact hall h.severity h.severity_mem
  have hfatal : '"' ∉ h.fatalText := by
    unfold fatalText
    cases h.fatal <;> decide
  have hrest : h.rest = ' ' :: h.located (' ' :: (h.fatalText ++
      (h.severity.toList ++ ' ' :: '#' :: (h.code ++ [':', ' '])))) ++ h.message := by
    rw [List.cons_append, ← located_append]
    simp [rest, level, tail, body]
  rw [hrest]
  refine h.uncut ?_
  rw [List.mem_cons, not_or]
  exact ⟨by decide, h.located_plain (by simp [hfatal, hseverity, hcode])⟩

theorem heading?_line (h : Heading) : heading? h.line = some h.diagnostic := by
  rw [line, heading?_lineWith _ (h.uncut_rest _) h.prefers_rest, Option.some_inj]
  have hmessage : (h.fileMarks h.rest ++ h.marks).get .message = h.body := by
    unfold marks placeMarks
    cases h.place <;>
      simp [QuotedNotice.fileMarks, Captures.get, Captures.get?, Captures.restOf?]
  rw [ofCaptures, hmessage, h.splitCode_body]
  unfold diagnostic marks placeMarks
  cases hplace : h.place with
  | some p =>
    obtain ⟨⟨hpos, hlt⟩, hpos', hlt'⟩ := h.place_valid p hplace
    have hline := zeroBased_decimal hpos hlt
    have hcolumn := zeroBased_decimal hpos' hlt'
    simp [QuotedNotice.fileMarks, Captures.get, Captures.get?, Captures.restOf?, tail, hline,
      hcolumn, source]
  | none =>
    have hzero : zeroBased [] = 0 := by decide
    simp [QuotedNotice.fileMarks, Captures.get, Captures.get?, Captures.restOf?, tail, hzero,
      source]

/-- **The heading is not one of Diab.** -/
theorem not_diab (h : Heading) {ms : Captures} : ¬ Diab.restPattern.Reads h.rest ms r := by
  rintro ⟨_, m, _, hblank, ⟨_, m', _, hline, ⟨_, _, _, ⟨_, hseverity, -⟩, -, -⟩, -⟩, -⟩
  obtain ⟨-, rfl⟩ := most1_reads_one (h.located_visible _) hblank
  have hwords : (oneOf ["info", "warning", opt (alt "fatal " "catastrophic ") ++ "error"]).words? =
      some ["info".toList, "warning".toList, "fatal error".toList, "catastrophic error".toList,
        "error".toList] := by decide
  have hcolon : ∀ s ms r, (":" ++ most1 isBlank : Pattern).Reads s ms r →
      ∃ d u, s = d :: u ∧ isDigit d = false := by
    rintro s ms r ⟨_, u, _, ⟨rfl, -⟩, -, -⟩
    exact ⟨':', u, rfl, by decide⟩
  cases hplace : h.place with
  | some p =>
    rw [located_some hplace] at hline
    rcases hline with hline | ⟨rfl, -⟩
    · -- behind the number comes a blank
      obtain ⟨_, _, _, _, ⟨hs, -⟩, -⟩ := reads_lineThen (by decide) hcolon hline
      exact absurd (List.cons.inj hs).1 (by decide)
    · exact not_reads_of_words hwords (by decide : _ = true) hseverity
  | none =>
    rw [located_none hplace] at hline
    rcases hline with ⟨_, _, _, ⟨hs, -⟩, -, -⟩ | ⟨rfl, -⟩
    · exact absurd (List.cons.inj hs).1 (by decide)
    · exact not_reads_of_words hwords (by decide : _ = true) hseverity

/-- **A heading of Green Hills is read by its own grammar only.** -/
theorem readOnly (h : Heading) : ReadOnlyBy .ghs h.line h.diagnostic := by
  refine ⟨alone_of_heading h.heading?_line, fun g hg hne => ?_⟩
  simp only [Grammar.quoting, List.mem_cons, List.not_mem_nil, or_false] at hg
  rcases hg with rfl | rfl | rfl
  · exact absurd rfl hne
  · exact Diab.alone_lineWith _ (h.uncut_rest _) fun _ _ => h.not_diab
  · exact Iar.alone_lineWith _ (h.uncut_rest _) fun _ _ => Iar.not_reads_blank

end GreenHills.Heading

/-- A heading of Green Hills with a quote and a parenthesis in its message. -/
def GreenHills.Heading.undefined : GreenHills.Heading where
  file := "a b.c".toList
  severity := "error"
  code := "20-D".toList
  message := "\"x\" (y) is undefined".toList
  place := some (12, 5)
  fatal := true
  file_plain := by decide
  file_inline := by decide
  code_ne := by decide
  message_inline := by decide
  message_trimmed := by decide
  message_quote := by decide
  message_close := by decide
  severity_mem := by decide
  code_word := by
    have hword : ("20-D".toList.all fun c => isWord c || c == '-') = true := by decide +kernel
    simpa using hword
  place_valid := by decide

/-! ## Headings of Diab -/

/-- A diagnostic of Diab. -/
structure Diab.Heading extends QuotedNotice where
  /-- The line, if one is named. -/
  number : Option Nat
  severity_mem : severity ∈ ["info", "warning", "fatal error", "catastrophic error", "error"]
  code_inline : '\n' ∉ code
  code_plain : ')' ∉ code
  number_valid : ∀ n ∈ number, 1 ≤ n ∧ n < UInt32.size

namespace Diab.Heading

variable {h : Heading} {r : List Char} {ms : Captures}

/-- The line as it is written, and what comes after it. -/
def located (h : Heading) (r : List Char) : List Char :=
  match h.number with
  | some n => "line ".toList ++ (decimal n ++ ':' :: ' ' :: r)
  | none => r

/-- What comes after the code. -/
def ending (h : Heading) : List Char := ')' :: ':' :: ' ' :: h.message

/-- What comes after the line. -/
def tail (h : Heading) : List Char := h.severity.toList ++ ' ' :: '(' :: (h.code ++ h.ending)

/-- What comes after the file. -/
def rest (h : Heading) : List Char := ' ' :: h.located h.tail

/-- The diagnostic as it is written. -/
def line (h : Heading) : Line := h.lineWith h.rest

/-- The diagnostic as it is read. -/
def diagnostic (h : Heading) : Diagnostic where
  source := "DIAB"
  file := String.ofList h.file
  range := match h.number with
    | some n => .restOfLine (n - 1).toUInt32 0
    | none => .restOfLine 0 0
  severity := h.severity
  message := String.ofList h.message
  code := some (String.ofList h.code)

/-! ### What is read -/

theorem severity_cons (h : Heading) : ∃ c s, h.severity.toList = c :: s ∧ isBlank c = false ∧
    c ≠ 'l' ∧ c ≠ 'A' := by
  obtain ⟨c, s, hs, hgood⟩ := exists_first_of_mem
    (g := fun c => !isBlank c && (c != 'l' && c != 'A')) (by decide) h.severity_mem
  exact ⟨c, s, hs, by simpa using hgood⟩

theorem tail_visible (h : Heading) : startsOutside isBlank h.tail = true := by
  obtain ⟨c, s, hs, hc, -⟩ := h.severity_cons
  simp [tail, hs, startsOutside, hc]

theorem located_visible (h : Heading) : startsOutside isBlank (h.located h.tail) = true := by
  unfold located
  cases h.number with
  | some n => rfl
  | none => exact h.tail_visible

/-- The marks of the line. -/
def lineMarks (h : Heading) (r : List Char) : Captures :=
  match h.number with
  | some n => [.opened .line (decimal n ++ ':' :: ' ' :: r), .closed .line (':' :: ' ' :: r)]
  | none => []

theorem prefers_line (h : Heading) : (opt (lineThen (":" ++ most1 isBlank))).Prefers
    (h.located h.tail) (h.lineMarks h.tail) h.tail := by
  unfold located lineMarks
  cases h.number with
  | some n =>
    have hcolon : (":" ++ most1 isBlank : Pattern).Prefers (':' :: ' ' :: h.tail) [] h.tail :=
      (prefers_text [':'] _).seq (prefers_blank h.tail_visible)
    exact (prefers_lineThen n (by decide) hcolon).opt
  | none =>
    refine prefers_opt_none ?_
    rintro ms r ⟨_, _, _, ⟨hs, -⟩, -, -⟩
    obtain ⟨c, s, hc, -, hne, -⟩ := h.severity_cons
    rw [tail, hc] at hs
    exact hne (List.cons.inj hs).1

/-- **The code ends with the first parenthesis and colon.** -/
theorem prefers_code (h : Heading) : (capture .code (most isInline) ++ ("):" ++ (most1 isBlank ++
    (capture .message (most isInline) ++ stop))) : Pattern).Prefers (h.code ++ h.ending)
      [.opened .code (h.code ++ h.ending), .closed .code h.ending, .opened .message h.message,
        .closed .message []] [] := by
  have hending : ("):" ++ (most1 isBlank ++ (capture .message (most isInline) ++ stop)) :
      Pattern).Prefers h.ending [.opened .message h.message, .closed .message []] [] :=
    (prefers_text [')', ':'] (' ' :: h.message)).seq
      ((prefers_blank
        (startsOutside_of_trimmed h.message_trimmed)).seq
          (prefers_rest .message h.message_inline))
  have hinline : ∀ c ∈ h.code, isInline c = true := isInline_of_not_mem h.code_inline
  refine Prefers.longest .code hinline hending fun u v hne hs ms r h' => ?_
  obtain ⟨_, w, _, ⟨rfl, -⟩, -, -⟩ := h'
  -- another parenthesis and colon would stand in the message
  obtain ⟨a, u, rfl⟩ := List.exists_cons_of_ne_nil hne
  have hinfix : [')', ':'] <:+: [':', ' '] ++ h.message :=
    ⟨u, w, by simpa using (List.cons.inj hs).2.symm⟩
  exact h.message_close (infix_of_not_mem hinfix (by decide))

/-- What is captured behind the file. -/
def marks (h : Heading) : Captures :=
  h.lineMarks h.tail ++ [.opened .severity h.tail,
    .closed .severity (' ' :: '(' :: (h.code ++ h.ending)), .opened .code (h.code ++ h.ending),
    .closed .code h.ending, .opened .message h.message, .closed .message []]

theorem prefers_rest (h : Heading) : restPattern.Prefers h.rest h.marks [] := by
  have hseverity : (oneOf ["info", "warning",
      opt (alt "fatal " "catastrophic ") ++ "error"]).Prefers h.tail []
        (' ' :: '(' :: (h.code ++ h.ending)) :=
    prefers_word (by decide) (by decide) (by decide) h.severity_mem _
  exact (prefers_blank h.located_visible).seq
    (h.prefers_line.seq ((hseverity.capture .severity).seq
      ((prefers_blank (by rfl)).seq
        ((prefers_text ['('] _).seq h.prefers_code))))

/-- Nowhere behind a quote and a comma of the code can the pattern be read. -/
def Keeps (h : Heading) (p : Pattern) : Prop :=
  ∀ u w, h.code = u ++ '"' :: ',' :: w → ∀ ms r, ¬ p.Reads (w ++ h.ending) ms r

/-- What comes before the code, behind the file. -/
theorem exists_front (h : Heading) :
    ∃ a, h.rest = a ++ (h.code ++ h.ending) ∧ '"' ∉ a ∧ '\n' ∉ a := by
  have hseverity : '"' ∉ h.severity.toList ∧ '\n' ∉ h.severity.toList := by
    have hall : ∀ w ∈ ["info", "warning", "fatal error", "catastrophic error", "error"],
        '"' ∉ w.toList ∧ '\n' ∉ w.toList := by decide
    exact hall h.severity h.severity_mem
  have hquote : ∀ n, '"' ∉ decimal n := fun n => not_mem_decimal (by decide)
  have hinline : ∀ n, '\n' ∉ decimal n := fun n => not_mem_decimal (by decide)
  unfold rest located tail
  cases h.number with
  | some n =>
    exact ⟨' ' :: ("line ".toList ++ (decimal n ++ ':' :: ' ' ::
      (h.severity.toList ++ [' ', '(']))), by simp, by simp [hquote, hseverity],
      by simp [hinline, hseverity]⟩
  | none =>
    exact ⟨' ' :: (h.severity.toList ++ [' ', '(']), by simp, by simp [hseverity],
      by simp [hseverity]⟩

/-- **A diagnostic is cut later only within its code.** -/
theorem Keeps.uncut {p : Pattern} (hp : h.Keeps p) : p.Uncut h.rest := by
  intro u w hcut ms r hread
  have hending : ¬ ['"', ','] <:+: h.ending := fun hinfix =>
    h.message_quote (infix_of_not_mem (s := [')', ':', ' ']) hinfix (by decide))
  obtain ⟨a, hrest, ha, -⟩ := h.exists_front
  obtain ⟨v, x, hcode, rfl⟩ := cut_between ha (by simp [ending]) (by simp [ending]) hending
    (hrest ▸ hcut)
  exact hp v x hcode ms r hread

/-- A code that can be read on cuts the diagnostic. -/
theorem exists_cut {p : Pattern} (hp : ¬ h.Keeps p) : ∃ u w ms r,
    h.rest = u ++ '"' :: ',' :: w ∧ '\n' ∉ u ∧ p.Reads w ms r := by
  simp only [Keeps, not_forall, not_not] at hp
  obtain ⟨u, w, hcode, ms, r, hread⟩ := hp
  obtain ⟨a, hrest, -, ha⟩ := h.exists_front
  have hu : '\n' ∉ u := fun hmem => h.code_inline (by rw [hcode]; simp [hmem])
  exact ⟨a ++ u, w ++ h.ending, ms, r, by rw [hrest, hcode]; simp, by simp [ha, hu], hread⟩

theorem match?_line (h : Heading) (hcode : h.Keeps restPattern) :
    pattern.match? h.line = some (h.fileMarks h.rest ++ h.marks) :=
  match?_lineWith _ hcode.uncut h.prefers_rest

theorem ofCaptures_marks (h : Heading) :
    ofCaptures (h.fileMarks h.rest ++ h.marks) = h.diagnostic := by
  unfold ofCaptures diagnostic marks lineMarks
  cases hnumber : h.number with
  | some n =>
    obtain ⟨hpos, hlt⟩ := h.number_valid n hnumber
    simp [QuotedNotice.fileMarks, Captures.get, Captures.get?, Captures.restOf?, tail,
      zeroBased_decimal hpos hlt, Diagnostic.nonEmptyCode, h.code_ne, source]
  | none =>
    have hzero : zeroBased [] = 0 := by decide
    simp [QuotedNotice.fileMarks, Captures.get, Captures.get?, Captures.restOf?, tail, hzero,
      Diagnostic.nonEmptyCode, h.code_ne, source]

/-- **The diagnostic is not a heading of Green Hills.** -/
theorem not_greenHills (h : Heading) : ¬ GreenHills.restPattern.Reads h.rest ms r := by
  rintro ⟨_, m, _, hblank, ⟨_, m', _, hplace, -, -⟩, -⟩
  obtain ⟨-, rfl⟩ := most1_reads_one h.located_visible hblank
  obtain ⟨c, s, hs, -, hl, hA⟩ := h.severity_cons
  have hblank : ∀ s ms r, (most1 isBlank ++ ("(col." ++ (most1 isBlank ++
      (capture .column (most1 isDigit) ++ ")")))).Reads s ms r →
      ∃ b u, s = b :: u ∧ isBlank b = true := by
    rintro s ms r ⟨_, _, _, ⟨_, u, _, ⟨b, hb, rfl, -⟩, -, -⟩, -, -⟩
    exact ⟨b, u, rfl, hb⟩
  unfold located at hplace
  cases hnumber : h.number with
  | some n =>
    rw [hnumber] at hplace
    rcases hplace with hline | ⟨hend, -⟩
    · -- behind the number comes a colon
      obtain ⟨_, hread⟩ := reads_lineThen (by decide) (fun s ms r hread => by
        obtain ⟨b, u, hs, hb⟩ := hblank s ms r hread
        refine ⟨b, u, hs, Bool.eq_false_iff.2 fun hdigit => ?_⟩
        rw [isBlank_of_isDigit hdigit] at hb
        cases hb) hline
      obtain ⟨b, _, hcolon, hb⟩ := hblank _ _ _ hread
      rw [← (List.cons.inj hcolon).1] at hb
      cases hb
    · exact absurd (List.cons.inj hend).1 (by decide)
  | none =>
    rw [hnumber, tail, hs] at hplace
    rcases hplace with ⟨_, _, _, ⟨hword, -⟩, -, -⟩ | ⟨hend, -⟩
    · exact hl (List.cons.inj hword).1
    · exact hA (List.cons.inj hend).1

/-- The code does not go on as a heading of any of the formats does behind its file. -/
def Whole (h : Heading) : Prop :=
  ∀ p ∈ [GreenHills.restPattern, restPattern, Iar.restPattern], h.Keeps p

/-- A code without a quote and a comma does not go on. -/
theorem whole_of_not_infix (hcode : ¬ ['"', ','] <:+: h.code) : h.Whole := by
  intro p _ u w hcut
  exact absurd ⟨u, w, by rw [hcut]; simp⟩ hcode

/-- **A diagnostic of Diab is read by its own grammar only** if its code does not go on. -/
theorem readOnly (hcode : h.Whole) : ReadOnlyBy .diab h.line h.diagnostic := by
  have hghs : h.Keeps GreenHills.restPattern := hcode _ (by simp)
  have hdiab : h.Keeps restPattern := hcode _ (by simp)
  have hiar : h.Keeps Iar.restPattern := hcode _ (by simp)
  refine ⟨?_, fun g hg hne => ?_⟩
  · rw [alone_of_some (h.match?_line hdiab), h.ofCaptures_marks]
  simp only [Grammar.quoting, List.mem_cons, List.not_mem_nil, or_false] at hg
  rcases hg with rfl | rfl | rfl
  · exact GreenHills.alone_lineWith _ hghs.uncut fun _ _ => h.not_greenHills
  · exact absurd rfl hne
  · exact Iar.alone_lineWith _ hiar.uncut fun _ _ => Iar.not_reads_blank

/-- **If its code goes on**, it is read with another file, or another grammar reads it too. -/
theorem whole_of_readOnly (h' : ReadOnlyBy .diab h.line h.diagnostic) : h.Whole := by
  obtain ⟨hown, hothers⟩ := h'
  intro p hp
  by_contra hcode
  obtain ⟨u, w, ms, r, hrest, hu, hread⟩ := exists_cut hcode
  simp only [List.mem_cons, List.not_mem_nil, or_false] at hp
  rcases hp with rfl | rfl | rfl
  · have hclaimed := GreenHills.claimed_of_match
      (QuotedNotice.isSome_match?_of_later (n := h.toQuotedNotice) hrest hu hread)
    rw [← line, hothers .ghs (by decide) (by decide)] at hclaimed
    cases hclaimed
  · obtain ⟨cs, hcs, hfile⟩ := QuotedNotice.file_of_later (n := h.toQuotedNotice) hrest hu hread
    rw [← line, ← match?_pattern] at hcs
    rw [alone_of_some hcs] at hown
    have hsame : ofCaptures cs = h.diagnostic := List.head_eq_of_cons_eq (Prod.mk.inj hown).2
    exact hfile (String.ofList_injective (congrArg Diagnostic.file hsame))
  · have hclaimed := Iar.claimed_of_match h.toQuotedNotice
      (QuotedNotice.isSome_match?_of_later (n := h.toQuotedNotice) hrest hu hread)
    rw [← line, hothers .iar (by decide) (by decide)] at hclaimed
    cases hclaimed

end Diab.Heading

/-! ## Headings of IAR -/

/-- A heading of IAR that names a place. -/
structure Iar.Heading extends QuotedNotice where
  number : Nat
  severity_mem : severity ∈ ["Fatal error", "Error", "Warning", "Remark"]
  code_word : ∀ c ∈ code, isWord c = true
  number_pos : 1 ≤ number
  number_lt : number < UInt32.size

namespace Iar.Heading

variable {h : Heading} {r : List Char} {ms : Captures}

/-- What comes after the severity. -/
def ending (h : Heading) : List Char := '[' :: (h.code ++ ']' :: ':' :: ' ' :: h.message)

/-- What comes after the line. -/
def tail (h : Heading) : List Char := h.severity.toList ++ h.ending

/-- What comes after the file. -/
def rest (h : Heading) : List Char := decimal h.number ++ ' ' :: ' ' :: h.tail

/-- The heading as it is written. -/
def line (h : Heading) : Line := h.lineWith h.rest

/-- The heading as it is read, with its severity in lower case. -/
def diagnostic (h : Heading) : Diagnostic where
  source := "IAR"
  file := String.ofList h.file
  range := .restOfLine (h.number - 1).toUInt32 0
  severity := String.ofList (lower h.severity.toList)
  message := String.ofList h.message
  code := some (String.ofList h.code)

/-! ### What is read -/

/-- What is captured behind the file. -/
def marks (h : Heading) : Captures :=
  [.opened .line h.rest, .closed .line (' ' :: ' ' :: h.tail), .opened .severity h.tail,
    .closed .severity h.ending, .opened .code (h.code ++ ']' :: ':' :: ' ' :: h.message),
    .closed .code (']' :: ':' :: ' ' :: h.message), .opened .message h.message,
    .closed .message []]

theorem prefers_tail (h : Heading) : tailPattern.Prefers h.tail
    [.opened .severity h.tail, .closed .severity h.ending,
      .opened .code (h.code ++ ']' :: ':' :: ' ' :: h.message),
      .closed .code (']' :: ':' :: ' ' :: h.message), .opened .message h.message,
      .closed .message []] [] := by
  have hseverity : (oneOf ["Fatal error", "Error", "Warning", "Remark"]).Prefers h.tail []
      h.ending :=
    prefers_word (by decide) (by decide) (by decide) h.severity_mem _
  have hbracket : isWord ']' = false := by decide +kernel
  have hcode : (most1 isWord).Prefers (h.code ++ ']' :: ':' :: ' ' :: h.message) []
      (']' :: ':' :: ' ' :: h.message) :=
    prefers_most1 h.code_ne h.code_word (by simp [startsOutside, hbracket])
  have hgap : (most isBlank).Prefers (' ' :: h.message) [] h.message :=
    prefers_gap (startsOutside_of_trimmed h.message_trimmed)
  exact (hseverity.capture .severity).seq ((prefers_text ['['] _).seq
    ((hcode.capture .code).seq ((prefers_text [']', ':'] (' ' :: h.message)).seq
      (hgap.seq (Pattern.prefers_rest .message h.message_inline)))))

theorem prefers_rest (h : Heading) : restPattern.Prefers h.rest h.marks [] := by
  have htail : startsOutside isBlank h.tail = true := by
    obtain ⟨c, s, hs, hgood⟩ := exists_first_of_mem (g := fun c => !isBlank c) (by decide)
      h.severity_mem
    have hvisible : isBlank c = false := by simpa using hgood
    simp [tail, hs, startsOutside, hvisible]
  exact (prefers_number .line h.number (by decide) _).seq
    (((prefers_one (by decide) _).seq (prefers_gap htail)).seq h.prefers_tail)

theorem uncut_rest (h : Heading) (p : Pattern) : p.Uncut h.rest := by
  have hnumber : '"' ∉ decimal h.number := not_mem_decimal (by decide)
  have hseverity : '"' ∉ h.severity.toList := by
    have hall : ∀ w ∈ ["Fatal error", "Error", "Warning", "Remark"], '"' ∉ w.toList := by decide
    exact hall h.severity h.severity_mem
  have hcode : '"' ∉ h.code := fun hmem => absurd (h.code_word _ hmem) (by decide +kernel)
  have hrest : h.rest = (decimal h.number ++ ' ' :: ' ' :: (h.severity.toList ++
      '[' :: (h.code ++ [']', ':', ' ']))) ++ h.message := by
    simp [rest, tail, ending]
  rw [hrest]
  exact h.uncut (by simp [hnumber, hseverity, hcode])

theorem heading?_line (h : Heading) : heading? h.line = some h.diagnostic := by
  have hmessage : trimEnd h.message = h.message := trimEnd_of_trimmed h.message_trimmed
  have hnumber := zeroBased_decimal h.number_pos h.number_lt
  rw [line, heading?_lineWith _ (h.uncut_rest _) h.prefers_rest, Option.some_inj]
  simp [ofCaptures, diagnostic, marks, QuotedNotice.fileMarks, Captures.get, Captures.get?,
    Captures.restOf?, rest, tail, hnumber, hmessage, Diagnostic.nonEmptyCode, h.code_ne, source]

/-- **A heading of IAR is read by its own grammar only.** -/
theorem readOnly (h : Heading) : ReadOnlyBy .iar h.line h.diagnostic := by
  refine ⟨alone_of_heading (trim_lineWith _ _) h.heading?_line, fun g hg hne => ?_⟩
  -- the other two formats have a blank behind the file
  have hblank : ∀ (p : Pattern) ms r, ¬ (most1 isBlank ++ p).Reads h.rest ms r := by
    rintro p ms r ⟨_, _, _, ⟨_, _, _, ⟨c, hc, hs, -⟩, -, -⟩, -, -⟩
    have hvisible := decimal_visible h.number (' ' :: ' ' :: h.tail)
    rw [← rest, hs, startsOutside, hc] at hvisible
    cases hvisible
  simp only [Grammar.quoting, List.mem_cons, List.not_mem_nil, or_false] at hg
  rcases hg with rfl | rfl | rfl
  · exact GreenHills.alone_lineWith _ (h.uncut_rest _) (hblank _)
  · exact Diab.alone_lineWith _ (h.uncut_rest _) (hblank _)
  · exact absurd rfl hne

end Iar.Heading

/-- A heading of IAR with a quote in its message. -/
def Iar.Heading.undefined : Iar.Heading where
  file := "C:\\a.c".toList
  severity := "Error"
  code := "Pe020".toList
  message := "\"x\" is undefined".toList
  number := 12
  file_plain := by decide
  file_inline := by decide
  code_ne := by decide
  message_inline := by decide
  message_trimmed := by decide
  message_quote := by decide
  message_close := by decide
  severity_mem := by decide
  code_word := List.all_eq_true.1 (by decide +kernel)
  number_pos := by decide
  number_lt := by decide

/-! ## The three formats -/

/-- A diagnostic of Diab with a given code. -/
def Diab.Heading.withCode (code : List Char) (hne : code ≠ []) (hinline : '\n' ∉ code)
    (hplain : ')' ∉ code) : Diab.Heading where
  file := "F".toList
  severity := "error"
  code := code
  message := "m".toList
  number := none
  file_plain := by decide
  file_inline := by decide
  code_ne := hne
  message_inline := by decide
  message_trimmed := by decide
  message_quote := by decide
  message_close := by decide
  severity_mem := by decide
  code_inline := hinline
  code_plain := hplain
  number_valid := by decide

/-- **A heading is read by its own grammar only**, and as it was written; one of Diab is just if its
code does not go on as a heading of one of the formats does behind its file. -/
theorem quoted_headings_read_back :
    (∀ h : GreenHills.Heading, ReadOnlyBy .ghs h.line h.diagnostic) ∧
      (∀ h : Diab.Heading, ReadOnlyBy .diab h.line h.diagnostic ↔ h.Whole) ∧
      ∀ h : Iar.Heading, ReadOnlyBy .iar h.line h.diagnostic :=
  ⟨fun h => h.readOnly, fun _ => ⟨Diab.Heading.whole_of_readOnly, Diab.Heading.readOnly⟩,
    fun h => h.readOnly⟩

/-- Headings of the three compilers as they are printed, and what is read of them. -/
theorem quoted_headings_read_back_printed :
    let g := GreenHills.Heading.undefined
    let d := Diab.Heading.withCode "dcc:1525".toList (by decide) (by decide) (by decide)
    let i := Iar.Heading.undefined
    g.line = "\"a b.c\", line 12 (col. 5): fatal error #20-D: \"x\" (y) is undefined".toList ∧
      ReadOnlyBy .ghs g.line {
        source := "GHS", file := "a b.c", range := .point 11 4, severity := "error"
        message := "\"x\" (y) is undefined", code := some "20-D" } ∧
      d.line = "\"F\", error (dcc:1525): m".toList ∧ d.Whole ∧
      ReadOnlyBy .diab d.line {
        source := "DIAB", file := "F", range := .restOfLine 0 0, severity := "error"
        message := "m", code := some "dcc:1525" } ∧
      i.line = "\"C:\\a.c\",12  Error[Pe020]: \"x\" is undefined".toList ∧
      ReadOnlyBy .iar i.line {
        source := "IAR", file := "C:\\a.c", range := .restOfLine 11 0, severity := "error"
        message := "\"x\" is undefined", code := some "Pe020" } := by
  intro g d i
  obtain ⟨hgreen, hdiab, hiar⟩ := quoted_headings_read_back
  have hwhole : d.Whole := Diab.Heading.whole_of_not_infix (by decide)
  -- the severity is read in lower case
  have hlower : i.diagnostic = {
      source := "IAR", file := "C:\\a.c", range := .restOfLine 11 0, severity := "error"
      message := "\"x\" is undefined", code := some "Pe020" } := by decide +kernel
  exact ⟨by decide, hgreen g, by decide, hwhole, (hdiab d).2 hwhole, by decide, hlower ▸ hiar i⟩

/-- A code that goes on as a diagnostic of Diab does behind its file. -/
def Diab.Heading.nested : Diab.Heading :=
  .withCode "x\", error (y".toList (by decide) (by decide) (by decide)

/-- A code that goes on as a heading of Green Hills does. -/
def Diab.Heading.nestedGreenHills : Diab.Heading :=
  .withCode "x\", At end of source: error y".toList (by decide) (by decide) (by decide)

/-- A code that goes on as a heading of IAR does. -/
def Diab.Heading.nestedIar : Diab.Heading :=
  .withCode "x\",3 Error[y]: z".toList (by decide) (by decide) (by decide)

/-- **Diagnostics of Diab that are cut behind a quote and a comma of their code**: one is read with
another file and code, and the other two are headings of other grammars too. -/
theorem quoted_headings_misread :
    (Diab.Heading.nested.line = "\"F\", error (x\", error (y): m".toList ∧
      Matcher.alone .diab Diab.Heading.nested.line = (true, [
        { source := "DIAB", file := "F\", error (x", range := .restOfLine 0 0
          severity := "error", message := "m", code := some "y" }]) ∧
      ¬ ReadOnlyBy .diab Diab.Heading.nested.line Diab.Heading.nested.diagnostic) ∧
    (Matcher.alone .ghs Diab.Heading.nestedGreenHills.line).1 = true ∧
    (Matcher.alone .iar Diab.Heading.nestedIar.line).1 = true :=
  ⟨⟨by decide, by decide +kernel, fun h => absurd h.1 (by decide +kernel)⟩, by decide +kernel,
    by decide +kernel⟩

end BuildDiagnostics
