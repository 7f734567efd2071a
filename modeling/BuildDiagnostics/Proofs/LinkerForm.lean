import BuildDiagnostics.Proofs.PlaceReading

/-!
# The forms in which linkers name a place

`main.c:5: x` is a linker's line whatever stands before it: nothing, a linker, an object file or
both. With a severity it is one only behind a linker or an object file, and else a compiler's.

A section of an object file is looked for first. The two are told apart by the parenthesis before a
section's offset, unless the object file has one in its name.

* `LinkerForm.match?_body`: what is captured of a place.
* `LinkerForm.section_reads`: when a place is taken for a section.
* `LinkerForm.split_line`: the linker is told from what it says.
* `LinkerForm.read_line`: the diagnostic of every form.
* `LinkerForm.misread`: two forms that are read as something else.
-/

namespace BuildDiagnostics

open Text Pattern GnuLd

/-- A message that does not start as a severity, a colon or a compiler's message does, and does not
end as a line of another kind. -/
structure PlaceMessage (message : List Char) : Prop where
  inline : '\n' ∉ message
  visible : startsOutside isBlank message = true
  no_colon : startsOutside (· == ':') message = true
  no_severity : ∀ w ∈ severities, ¬ w.toList <+: message
  no_head : compilerHeadPattern.accepts message = false
  ends : ∃ m c, message = m ++ [c] ∧ c ≠ ']' ∧ c ≠ ':'

/-- What a linker's place says, and how it is written. -/
structure LinkerForm where
  /-- The linker, if the line starts with one. -/
  tool : Option (List Char)
  object : Option (List Char)
  file : List Char
  number : Nat
  /-- The severity, and whether a colon comes after it. -/
  severity : Option (String × Bool)
  message : List Char
  tool_plain : ∀ t ∈ tool, (∀ c ∈ t, isBlank c = false ∧ c ≠ ':') ∧ isLinkerTool t = true
  object_plain : ∀ o ∈ object, IsObject o
  file_plain : PlaceFile file
  file_trimmed : trim file = file
  number_pos : 1 ≤ number
  number_lt : number < UInt32.size
  severity_mem : ∀ s ∈ severity, s.1 ∈ severities
  message_plain : PlaceMessage message

namespace LinkerForm

variable {f : LinkerForm} {ms : Captures} {r object tool : List Char}

/-- The form behind the line number. -/
def text (f : LinkerForm) : List Char :=
  match f.severity with
  | some (severity, colon) => severity.toList ++ separated colon f.message
  | none => f.message

/-- The form behind the object file. -/
def place (f : LinkerForm) : List Char := placeText f.file (decimal f.number) f.text

/-- The form behind the linker. -/
def body (f : LinkerForm) : List Char :=
  match f.object with
  | some object => object ++ ':' :: f.place
  | none => f.place

/-- The form as it is written. -/
def line (f : LinkerForm) : Line :=
  match f.tool with
  | some tool => tool ++ ": ".toList ++ f.body
  | none => f.body

/-- Whether the form names a linker or an object file. -/
def owned (f : LinkerForm) : Bool := f.tool.isSome || f.object.isSome

/-- The diagnostic of the form. -/
def diagnostic (f : LinkerForm) : Diagnostic where
  source := GnuLd.source
  file := String.ofList f.file
  range := .restOfLine (f.number - 1).toUInt32 0
  severity := (f.severity.map Prod.fst).getD "error"
  message := String.ofList f.message

/-! ## The parts of a form -/

theorem digits (f : LinkerForm) : ∀ c ∈ decimal f.number, isDigit c = true := fun _ hc =>
  isDigit_of_mem_decimal hc

theorem text_visible (f : LinkerForm) : startsOutside isBlank f.text = true := by
  unfold text
  cases hs : f.severity with
  | none => exact f.message_plain.visible
  | some s =>
    obtain ⟨severity, colon⟩ := s
    have hmem : severity ∈ severities := f.severity_mem _ hs
    have hall : ∀ s ∈ severities, ∃ c t, s.toList = c :: t ∧ isBlank c = false := by
      simp [severities]
      decide
    obtain ⟨c, t, ht, hc⟩ := hall severity hmem
    simp [ht, startsOutside, hc]

/-- A place starts with no blank and no parenthesis. -/
theorem exists_place_cons (f : LinkerForm) :
    ∃ c t, f.place = c :: t ∧ isBlank c = false ∧ c ≠ '(' := by
  have htrim := f.file_trimmed
  have hfile := f.file_plain
  unfold place placeText
  cases h : f.file with
  | nil =>
    rw [h] at hfile
    cases hfile with
    | plain hne => exact absurd rfl hne
  | cons c t =>
    rw [h] at htrim hfile
    refine ⟨c, _, rfl, isBlank_of_trimmed htrim, ?_⟩
    rintro rfl
    cases hfile with
    | plain _ ht => exact ht.2.1 List.mem_cons_self
    | drive hc => exact absurd hc (by decide)

/-! ## What is captured -/

/-- The marks of the severity, if there is one, and of the message. -/
def textMarks (f : LinkerForm) : Captures :=
  match f.severity with
  | some (severity, colon) => severityMarks severity colon f.message ++ messageMarks f.message
  | none => messageMarks f.message

/-- The marks of the form. -/
def marks (f : LinkerForm) : Captures :=
  (match f.object with
    | some object => objectMarks object f.place
    | none => []) ++
  (placeMarks f.file (decimal f.number) f.text ++ f.textMarks)

theorem run_text (f : LinkerForm) : (severityPattern ["error", "warning"]).run
    (messagePattern.run fun r => some (.start r)) f.text = some ⟨f.textMarks, []⟩ := by
  obtain ⟨m, c, hm, hc, -⟩ := f.message_plain.ends
  have hmessage := run_messagePattern f.message_plain.inline ⟨m, c, hm, hc⟩
  unfold text textMarks
  cases hs : f.severity with
  | none => exact (run_no_severity f.message_plain.no_severity).trans hmessage
  | some s =>
    have hmem : s.1 ∈ severities := f.severity_mem s hs
    exact run_severity hmem f.message_plain.visible f.message_plain.no_colon hmessage

/-- **What is captured of a place.** -/
theorem match?_body (f : LinkerForm) : locatedPattern.match? f.body = some f.marks := by
  let k : Continuation := fun r => some (.start r)
  let k' : Continuation := (severityPattern ["error", "warning"]).run (messagePattern.run k)
  have hplace : placePattern.run k' f.place =
      some ⟨placeMarks f.file (decimal f.number) f.text ++ f.textMarks, []⟩ :=
    run_placePattern f.file_plain (decimal_ne_nil _) f.digits f.text_visible f.run_text
  have hrun : (opt objectPattern).run (placePattern.run k') f.body = some ⟨f.marks, []⟩ := by
    unfold body marks
    cases ho : f.object with
    | none =>
      have hnone : objectPattern.run (placePattern.run k') f.place = none :=
        run_no_object f.file_plain f.digits
      rw [run, hnone]
      exact hplace
    | some object =>
      rw [run, run_objectPattern (f.object_plain object ho) hplace]
      rfl
  rw [match?, read?_eq_run]
  exact congrArg (Option.map Reading.captures) hrun

/-- What is captured is what was written. -/
theorem get_marks (f : LinkerForm) : (f.marks.get? .object).isSome = f.object.isSome ∧
    f.marks.get .file = f.file ∧ f.marks.get .line = decimal f.number ∧
    f.marks.get? .severity = f.severity.map (fun s => s.1.toList) ∧
    f.marks.get .message = f.message := by
  unfold marks textMarks
  cases f.object <;> rcases f.severity with _ | ⟨severity, colon⟩ <;>
    simp [objectMarks, placeMarks, placeText, severityMarks, messageMarks, Captures.get,
      Captures.get?, Captures.restOf?]

/-- **The diagnostic of a place** that is not taken for a section. -/
theorem body?_body (f : LinkerForm) (hsection : sectionPattern.accepts f.body = false) :
    body? f.tool f.body =
      if f.severity.isSome && !f.owned then none else some f.diagnostic := by
  have hnone : sectionPattern.match? f.body = none := by
    rw [← Option.not_isSome_iff_eq_none, isSome_match?, hsection]
    exact Bool.false_ne_true
  obtain ⟨hobject, hfile, hnumber, hseverity, hmessage⟩ := f.get_marks
  have hword : severityOf f.marks = (f.severity.map Prod.fst).getD "error" := by
    rw [severityOf, hseverity]
    cases f.severity <;> simp
  unfold body?
  rw [hnone, f.match?_body]
  simp only [hobject, hfile, hnumber, hseverity, hmessage, hword, f.file_trimmed,
    f.message_plain.no_head, zeroBased_decimal f.number_pos f.number_lt, Option.isSome_map,
    Bool.or_false]
  rw [Bool.and_comm]
  rfl

/-! ## Sections -/

/-- What is read of a section up to the parenthesis before its offset. -/
theorem file_of_section {s : List Char} (h : sectionPattern.Reads s ms r) : ∃ m u,
    ((∃ ms, (objectStem ++ "." ++ oneOf ["o", "obj"]).Reads s ms (':' :: m)) ∨ s = m) ∧
      ∃ ms, (drive ++ most1 (fun c => c != ':' && c != '(' && c != ')') ++ opt bracketed).Reads m ms
        (':' :: '(' :: u) := by
  obtain ⟨_, _, _, ⟨_, _, _, ⟨_, _, _, ⟨_, _, _, ⟨_, _, _, ⟨_, _, _, ⟨_, _, _, ⟨_, m, _, hobject,
    ⟨_, hfile, -⟩, -⟩, hbracket, -⟩, ⟨rfl, -⟩, -⟩, ⟨_, _, _, ⟨_, u, _, ⟨rfl, -⟩, -⟩, -⟩, -⟩, -⟩, -⟩,
    -⟩, -⟩ := h
  refine ⟨m, u, ?_, _, _, _, _, hfile, hbracket, rfl⟩
  rcases hobject with ⟨_, _, _, ⟨_, hname, -⟩, ⟨rfl, -⟩, -⟩ | ⟨rfl, -⟩
  · exact .inl ⟨_, hname⟩
  · exact .inr rfl

/-- No section starts where the place does. -/
theorem not_section_at_place {q : Char → Bool} {u : List Char} (hq : q ':' = false) :
    ¬ (drive ++ most1 q ++ opt bracketed).Reads f.place ms (':' :: '(' :: u) := by
  intro h
  have hplain : ':' ∉ decimal f.number ∧ '(' ∉ decimal f.number :=
    ⟨not_mem_decimal (by decide), not_mem_decimal (by decide)⟩
  obtain ⟨-, hu | hu | ⟨c, t, -, hne, ht, hu⟩⟩ := file_cases hq f.file_plain hplain h
  · obtain ⟨d, ds, hd⟩ := List.exists_cons_of_ne_nil (decimal_ne_nil f.number)
    rw [hd] at hu hplain
    exact hplain.2 (by rw [(List.cons.inj hu).1]; exact List.mem_cons_self)
  · exact absurd (List.cons.inj hu).1 (by decide)
  · obtain ⟨d, t, rfl⟩ := List.exists_cons_of_ne_nil hne
    exact ht.2.1 (by rw [(List.cons.inj hu).1]; exact List.mem_cons_self)

/-- A place without an object file is not taken for a section. -/
theorem not_section_place : ¬ sectionPattern.Reads f.place ms r := by
  intro h
  obtain ⟨m, u, ⟨_, hobject⟩ | rfl, _, hfile⟩ := file_of_section h
  · unfold place placeText at hobject
    generalize hname : f.file = file at hobject
    have hplain := f.file_plain
    rw [hname] at hplain
    cases hplain with
    | plain hne hplain =>
      obtain rfl := avoiding_reads (by decide) hplain.1 hobject
      have hu := number_as_file (by decide) f.digits hfile
      exact absurd (List.cons.inj hu).1 (by decide)
    | drive hc =>
      obtain ⟨_, _, _, hstem, -, -⟩ := hobject
      exact absurd hstem (not_reads_object_drive hc)
  · exact not_section_at_place (by decide) hfile

theorem paren_not_mem_file (f : LinkerForm) : ')' ∉ f.file := by
  have hplain := f.file_plain
  generalize f.file = file at hplain
  cases hplain with
  | plain _ ht => exact ht.2.2
  | drive hc _ ht =>
    simp only [List.mem_cons, not_or]
    refine ⟨?_, by decide, ht.2.2⟩
    rintro rfl
    exact absurd hc (by decide)

/-- Between the file and the message there are only numbers, severities, colons and spaces. -/
theorem exists_front (f : LinkerForm) {c : Char} (hc : c = ')' ∨ c = '\n') (hfile : c ∉ f.file) :
    ∃ w, f.place = w ++ f.message ∧ c ∉ w := by
  have hsigns : c ≠ ':' ∧ c ≠ ' ' ∧ c ∉ digitChars := by
    rcases hc with rfl | rfl <;> decide
  obtain ⟨w, hw, hmem⟩ : ∃ w, f.text = w ++ f.message ∧ c ∉ w := by
    unfold text
    cases hs : f.severity with
    | none => exact ⟨[], rfl, List.not_mem_nil⟩
    | some s =>
      have hall : ∀ s ∈ severities, ∀ colon, c ∉ s.toList ++ separated colon [] := by
        rcases hc with rfl | rfl <;> decide
      refine ⟨s.1.toList ++ separated s.2 [], ?_, hall s.1 (f.severity_mem s hs) s.2⟩
      simp [separated]
  refine ⟨f.file ++ ':' :: (decimal f.number ++ ':' :: ' ' :: w), ?_, ?_⟩
  · simp [place, placeText, hw]
  · simp [hfile, not_mem_decimal hsigns.2.2, hmem, hsigns.1, hsigns.2.1]

/-- **When a place is taken for a section**: its object file and its message have parentheses
that stand as around a section. -/
theorem section_reads (h : sectionPattern.Reads f.body ms r) :
    ∃ object ∈ f.object, '(' ∈ object ∧ [')', ':', '('] <:+: f.message := by
  unfold body at h
  cases ho : f.object with
  | none =>
    rw [ho] at h
    exact absurd h not_section_place
  | some object =>
    rw [ho] at h
    have hobject := f.object_plain object ho
    have hcolon := hobject.colon_not_mem
    obtain ⟨c, t, hplace, -, hc⟩ := f.exists_place_cons
    obtain ⟨m, u, ⟨_, hname⟩ | rfl, _, hfile⟩ := file_of_section h
    · -- the object file is read as one, so that the section would start with the place
      obtain rfl := avoiding_reads (by decide) hcolon hname
      exact absurd hfile (not_section_at_place (by decide))
    · -- the object file is read as the file of the section, up to a parenthesis
      obtain ⟨_, _, _, hname, hbracket, -⟩ := hfile
      obtain ⟨-, t, ht, hs⟩ := file_reads (by decide) hcolon (fun c _ => hobject.ne_letter c) hname
      rcases hbracket with ⟨_, _, _, ⟨_, _, _, ⟨rfl, -⟩, ⟨b, -, rfl, -⟩, -⟩, ⟨rfl, -⟩, -⟩ | ⟨rfl, -⟩
      · refine ⟨object, rfl, ?_, ?_⟩
        · by_contra hparen
          exact absurd hs (cut_ne (by decide) hparen ht)
        · have hinfix : [')', ':', '('] <:+: object ++ ':' :: f.place :=
            ⟨t ++ '(' :: b, u, by rw [hs]; simp⟩
          obtain ⟨w, hw, hparen⟩ := f.exists_front (.inl rfl) f.paren_not_mem_file
          have hbehind := infix_of_cut hinfix hcolon (by decide) (by rw [hplace]; simpa using hc)
          rw [hw] at hbehind
          exact infix_of_not_mem hbehind hparen
      · -- without the parenthesis it ends at the colon, and the place would start with one
        obtain ⟨-, hplace'⟩ := cut_unique hcolon ht hs
        rw [hplace] at hplace'
        exact absurd (List.cons.inj hplace').1 hc

/-! ## The linker before a place -/

/-- A line that starts with a linker has a drive or none, a name with the letter that all names of
linkers have, a colon and a blank. -/
theorem exists_name_of_prefixed {line : Line} (h : isLinkerPrefixed line = true) :
    ∃ lead name b t, line = lead ++ (name ++ ':' :: b :: t) ∧ IsDrive lead ∧ ':' ∉ name ∧
      'l' ∈ name ∧ 2 ≤ name.length ∧ isBlank b = true := by
  obtain ⟨_, _, _, _, _, ⟨_, _, _, ⟨_, _, _, ⟨_, _, _, ⟨_, htool, -⟩, ⟨rfl, -⟩, -⟩, hgap, -⟩, -, -⟩,
    -, -⟩ := accepts_iff.1 h
  obtain ⟨_, _, _, ⟨b, hb, rfl, -⟩, -, -⟩ := hgap
  obtain ⟨_, _, _, ⟨_, _, _, ⟨_, m, _, hdrive, hdir, rfl⟩, hlinker, rfl⟩, hexe, rfl⟩ := htool
  obtain ⟨-, lead, hlead, rfl⟩ := isDrive_of_reads hdrive
  have hname : namePattern.Reads m _ _ := ⟨_, _, _, ⟨_, _, _, hdir, hlinker, rfl⟩, hexe, rfl⟩
  obtain ⟨-, name, rfl, hcolon, hends⟩ := endsAsLinker_of_reads hname
  obtain ⟨_, halone⟩ := reads_append_of_isLocal (by decide) hname []
  obtain ⟨c, hc, hl⟩ := exists_mem_of_takes (q := (· == 'l')) (by decide) halone
  obtain rfl := eq_of_beq hl
  rw [List.append_nil] at hc
  exact ⟨lead, name, b, _, rfl, hlead, hcolon, hc, hends.two_le_length, hb⟩

/-- No form without a linker starts as if it had one. -/
theorem isLinkerPrefixed_body (f : LinkerForm) : isLinkerPrefixed f.body = false := by
  rw [← Bool.not_eq_true]
  intro h
  obtain ⟨lead, name, b, t, hline, hlead, hcolon, hl, htwo, hb⟩ := exists_name_of_prefixed h
  -- a colon of the form that is not in the message has a digit or the file behind it
  have hdigit : ∀ {u : List Char}, b :: t ≠ decimal f.number ++ u := by
    intro u hu
    obtain ⟨d, ds, hd⟩ := List.exists_cons_of_ne_nil (decimal_ne_nil f.number)
    rw [hd] at hu
    obtain ⟨rfl, -⟩ := List.cons.inj hu
    rw [isBlank_of_isDigit (f.digits b (by rw [hd]; exact List.mem_cons_self))] at hb
    cases hb
  unfold body at hline
  cases ho : f.object with
  | some object =>
    rw [ho] at hline
    have hobject := f.object_plain object ho
    obtain ⟨c, u, hplace, hc, -⟩ := f.exists_place_cons
    rcases hlead with rfl | ⟨d, hd, rfl⟩
    · obtain ⟨-, hcut⟩ := cut_unique hobject.colon_not_mem hcolon hline
      rw [hplace] at hcut
      obtain ⟨rfl, -⟩ := List.cons.inj hcut
      rw [hc] at hb
      cases hb
    · obtain ⟨hletter, -⟩ :=
        cut_unique hobject.colon_not_mem (colon_not_mem_letter hd) hline
      exact hobject.ne_letter d hletter
  | none =>
    rw [ho] at hline
    unfold place placeText at hline
    have hplain := f.file_plain
    generalize f.file = file at hplain hline
    cases hplain with
    | plain hne hplain =>
      rcases hlead with rfl | ⟨d, hd, rfl⟩
      · exact hdigit (cut_unique hplain.1 hcolon hline).2.symm
      · obtain ⟨-, hcut⟩ := cut_unique hplain.1 (colon_not_mem_letter hd) hline
        obtain ⟨rfl, -⟩ := cut_unique (not_mem_decimal (by decide)) hcolon hcut
        exact absurd hl (not_mem_decimal (by decide))
    | @drive c u hc hne hplain =>
      rcases hlead with rfl | ⟨d, hd, rfl⟩
      · obtain ⟨rfl, -⟩ := cut_unique (s := [c]) (colon_not_mem_letter hc) hcolon hline
        simp at htwo
      · have hcut := (List.cons.inj (List.cons.inj hline).2).2
        exact hdigit (cut_unique hplain.1 hcolon hcut).2.symm

theorem body_inline (f : LinkerForm) (hfile : '\n' ∉ f.file) : '\n' ∉ f.body := by
  have hplace : '\n' ∉ f.place := by
    obtain ⟨w, hw, hmem⟩ := f.exists_front (.inr rfl) hfile
    rw [hw, List.mem_append, not_or]
    exact ⟨hmem, f.message_plain.inline⟩
  unfold body
  cases ho : f.object with
  | none => exact hplace
  | some object =>
    have hobject := (f.object_plain object ho).no_blank
    have hinline : '\n' ∉ object := fun hmem => absurd (hobject _ hmem) (by decide)
    simp [hinline, hplace]

theorem body_visible (f : LinkerForm) : startsOutside isBlank f.body = true := by
  unfold body
  cases ho : f.object with
  | none =>
    obtain ⟨c, t, hplace, hc, -⟩ := f.exists_place_cons
    simp [hplace, startsOutside, hc]
  | some object =>
    have hobject := (f.object_plain object ho).no_blank
    cases object with
    | nil => rfl
    | cons c t => simp [startsOutside, hobject c List.mem_cons_self]

/-- **The linker is told from what it says.** -/
theorem split_line (f : LinkerForm) (hfile : f.tool.isSome = true → '\n' ∉ f.file) :
    split f.line = (f.tool, f.body) := by
  unfold line
  cases ht : f.tool with
  | none =>
    have hprefixed := f.isLinkerPrefixed_body
    rw [isLinkerPrefixed, ← isSome_match?, Option.isSome_eq_false_iff, Option.isNone_iff_eq_none]
      at hprefixed
    rw [split, hprefixed]
  | some tool =>
    obtain ⟨hname, hlinker⟩ := f.tool_plain tool ht
    have hinline := f.body_inline (hfile (by rw [ht]; rfl))
    have htool := (split_append hname hlinker hinline).2
    have hcut := isCut_of_split (Prod.ext htool rfl :
      split (tool ++ ": ".toList ++ f.body) = (some tool, (split _).2))
    obtain ⟨gap, hne, hgap, heq⟩ := hcut.eq
    have hgap' : ' ' :: f.body = gap ++ (split (tool ++ ": ".toList ++ f.body)).2 :=
      (List.cons.inj (List.append_cancel_left ((List.append_assoc ..).symm.trans heq))).2
    have hbody := (run_ends hne (List.all_eq_true.1 hgap) f.body_visible hgap').2
    exact Prod.ext htool hbody

theorem message_suffix (f : LinkerForm) : f.message <:+ f.body := by
  have htext : f.message <:+ f.text := by
    unfold text
    cases f.severity with
    | none => exact List.suffix_rfl
    | some s => exact ⟨s.1.toList ++ separated s.2 [], by simp [separated]⟩
  have hplace : f.message <:+ f.place :=
    htext.trans ⟨f.file ++ ':' :: (decimal f.number ++ [':', ' ']), by simp [place, placeText]⟩
  unfold body
  cases f.object with
  | none => exact hplace
  | some object => exact hplace.trans ⟨object ++ [':'], by simp⟩

theorem inFunctionPattern_body (f : LinkerForm) : inFunctionPattern.accepts f.body = false := by
  rw [← Bool.not_eq_true]
  intro hfunction
  obtain ⟨u, hu⟩ := f.message_suffix
  obtain ⟨m, c, hm, -, hcolon⟩ := f.message_plain.ends
  have hlast := getLast?_of_inFunction hfunction
  rw [← hu, hm, ← List.append_assoc, List.getLast?_concat] at hlast
  exact hcolon (Option.some.inj hlast)

/-- **The diagnostic of every form.** -/
theorem read_line (f : LinkerForm) (hmake : isMakeLine f.line = false)
    (hfile : f.tool.isSome = true → '\n' ∉ f.file) :
    (sectionPattern.accepts f.body = false → GnuLd.read f.line =
      if f.severity.isSome && !f.owned then .ignored else .claim (some f.diagnostic)) ∧
    (sectionPattern.accepts f.body = true →
      ∃ object ∈ f.object, '(' ∈ object ∧ [')', ':', '('] <:+: f.message) := by
  constructor
  · intro hsection
    unfold GnuLd.read
    rw [hmake, f.split_line hfile, if_neg Bool.false_ne_true]
    dsimp only
    rw [f.inFunctionPattern_body, if_neg Bool.false_ne_true, f.body?_body hsection]
    cases f.severity.isSome && !f.owned <;> rfl
  · intro hsection
    obtain ⟨ms, r, h⟩ := accepts_iff.1 hsection
    exact section_reads h

/-- A place with all that may stand around it. -/
def full : LinkerForm where
  tool := some "/usr/bin/ld".toList
  object := some "main.o".toList
  file := "C:\\src\\main.c".toList
  number := 5
  severity := some ("warning", true)
  message := "x".toList
  tool_plain t ht := by
    cases ht
    have hall : "/usr/bin/ld".toList.all (fun c => !isBlank c && c != ':') = true := by decide
    exact ⟨by simpa using hall, by decide +kernel⟩
  object_plain o ho := by
    cases ho
    exact ⟨"main".toList, by decide, List.all_eq_true.1 (by decide), "o", by decide, rfl⟩
  file_plain := .drive (by decide : isLetterAscii 'C' = true) (by decide)
    (by decide : Unpunctuated "\\src\\main.c".toList)
  file_trimmed := by decide
  number_pos := by decide
  number_lt := by decide
  severity_mem s hs := by
    cases hs
    decide
  message_plain := ⟨by decide, by decide, by decide, by decide, by decide, [], 'x', rfl, by decide,
    by decide⟩

/-- An object file with a parenthesis in its name, and a message that has its other one. -/
def sectionLike : LinkerForm where
  tool := none
  object := some "a(.o".toList
  file := "main.c".toList
  number := 5
  severity := none
  message := "x):(y): z".toList
  tool_plain t ht := by cases ht
  object_plain o ho := by
    cases ho
    exact ⟨"a(".toList, by decide, List.all_eq_true.1 (by decide), "o", by decide, rfl⟩
  file_plain := .plain (by decide) (by decide)
  file_trimmed := by decide
  number_pos := by decide
  number_lt := by decide
  severity_mem s hs := by cases hs
  message_plain := ⟨by decide, by decide, by decide, by decide, by decide, "x):(y): ".toList, 'z',
    rfl, by decide, by decide⟩

/-- A file whose name goes over two lines, behind a linker. -/
def broken : LinkerForm where
  tool := some "ld".toList
  object := none
  file := "a\nb".toList
  number := 5
  severity := none
  message := "x".toList
  tool_plain t ht := by
    cases ht
    have hall : "ld".toList.all (fun c => !isBlank c && c != ':') = true := by decide
    exact ⟨by simpa using hall, by decide +kernel⟩
  object_plain o ho := by cases ho
  file_plain := .plain (by decide) (by decide)
  file_trimmed := by decide
  number_pos := by decide
  number_lt := by decide
  severity_mem s hs := by cases hs
  message_plain := full.message_plain

theorem read_line_full :
    full.line = "/usr/bin/ld: main.o:C:\\src\\main.c:5: warning: x".toList ∧
      GnuLd.read full.line = .claim (some full.diagnostic) ∧
      ∃ object ∈ sectionLike.object, '(' ∈ object ∧ [')', ':', '('] <:+: sectionLike.message :=
  ⟨by decide, (read_line full (by decide +kernel) (fun _ => by decide)).1 (by decide +kernel),
    (read_line sectionLike (by decide +kernel) (by decide)).2 (by decide +kernel)⟩

/-- **Two forms that are read as something else**: one is taken for a section, and of the other one
the linker is not told from what it says. -/
theorem misread :
    (sectionLike.line = "a(.o:main.c:5: x):(y): z".toList ∧ isMakeLine sectionLike.line = false ∧
      GnuLd.read sectionLike.line = .claim (some
        { source := "Link", file := "a", range := .restOfLine 0 0, severity := "error"
          message := "z" }) ∧
      GnuLd.read sectionLike.line ≠ .claim (some sectionLike.diagnostic)) ∧
    (broken.line = "ld: a\nb:5: x".toList ∧ isMakeLine broken.line = false ∧
      GnuLd.read broken.line = .ignored) :=
  ⟨⟨by decide, by decide +kernel, by decide +kernel, by decide +kernel⟩, by decide,
    by decide +kernel, by decide +kernel⟩

end LinkerForm

end BuildDiagnostics
