import BuildDiagnostics.Proofs.CMakeLine

/-!
# Headings with line and column

GCC's headings have the form `main.c:5:3: error: x`. The file ends at the first colon from which the
rest can be read, so it may hold colons itself as long as no digit follows them; the message may
hold anything, places like that of the heading included.

* `ColumnHeading.columnPattern_reads`: what is captured of a heading from the colon after its file.
* `ColumnHeading.match?_line`, `ColumnHeading.heading?_line`: a heading is read as it was written.
* `ColumnHeading.read_back`: GCC holds its diagnostic until the end.
-/

namespace BuildDiagnostics

open Text Pattern

/-- From the colon after the file to the end of the line. -/
def Gcc.columnPattern : Pattern :=
  ":" ++ capture .line (most1 isDigit) ++ ":" ++ capture .column (most1 isDigit) ++ ":" ++
    Gcc.tailPattern

/-- What a heading with line and column says, and how it is written. No colon of the file is
followed by a digit, and the message does not start with a blank. -/
structure ColumnHeading where
  file : List Char
  row : Nat
  column : Nat
  severity : List Char
  /-- What comes between the severity and its colon. -/
  gap : List Char
  message : List Char
  file_inline : '\n' ∉ file
  file_plain : ∀ u d v, file = u ++ ':' :: d :: v → isDigit d = false
  row_pos : 1 ≤ row
  row_lt : row < UInt32.size
  column_pos : 1 ≤ column
  column_lt : column < UInt32.size
  severity_text : Gcc.SeverityText severity
  gap_blank : Gcc.IsGap gap
  message_inline : '\n' ∉ message
  message_start : startsOutside isBlank message = true

namespace ColumnHeading

variable {h : ColumnHeading} {ms : Captures} {r : List Char}

/-- The heading from its severity on. -/
def text (h : ColumnHeading) : List Char :=
  ' ' :: (h.severity ++ (h.gap ++ ':' :: ' ' :: h.message))

/-- The heading from its column on. -/
def columnText (h : ColumnHeading) : List Char := decimal h.column ++ ':' :: h.text

/-- The heading from its line on. -/
def rowText (h : ColumnHeading) : List Char := decimal h.row ++ ':' :: h.columnText

/-- The heading as it is written. -/
def line (h : ColumnHeading) : Line := h.file ++ ':' :: h.rowText

/-- The diagnostic that the heading opens. -/
def diagnostic (h : ColumnHeading) : Diagnostic where
  source := Gcc.source
  file := String.ofList h.file
  range := .restOfLine (h.row - 1).toUInt32 (h.column - 1).toUInt32
  severity := String.ofList h.severity
  message := String.ofList h.message

/-! ## What is read of a heading -/

/-- A number before a colon is read as it was printed. -/
theorem number_of_reads {n : Nat} {s t : List Char}
    (h : (most1 isDigit).Reads (decimal n ++ ':' :: s) ms (':' :: t)) : ms = [] ∧ s = t := by
  obtain ⟨digits, -, hdigits, hs, rfl⟩ := most1_reads_iff.1 h
  have hcolon : ':' ∉ decimal n := not_mem_decimal (by decide)
  have hcolon' : ':' ∉ digits := fun hc => absurd (hdigits _ hc) (by decide)
  exact ⟨rfl, (cut_unique hcolon hcolon' hs).2⟩

theorem reads_number (f : Field) (n : Nat) (s : List Char) : (capture f (most1 isDigit)).Reads
    (decimal n ++ s) [.opened f (decimal n ++ s), .closed f s] s :=
  ⟨[], most1_reads_iff.2 ⟨_, decimal_ne_nil n, fun _ hc => isDigit_of_mem_decimal hc, rfl, rfl⟩,
    rfl⟩

/-- **What is read from the colon after the file is what was written.** -/
theorem columnPattern_reads (hp : Gcc.columnPattern.Reads (':' :: h.rowText) ms r) :
    ∃ tail, ms = [.opened .line h.rowText, .closed .line (':' :: h.columnText),
      .opened .column h.columnText, .closed .column (':' :: h.text)] ++ tail ∧
      Gcc.severityOf tail = h.severity ∧ tail.get .message = h.message := by
  obtain ⟨_, m₅, _, ⟨_, m₄, _, ⟨_, m₃, _, ⟨_, m₂, _, ⟨_, m₁, _, ⟨hfirst, rfl⟩, ⟨_, hrow, rfl⟩, rfl⟩,
    ⟨rfl, rfl⟩, rfl⟩, ⟨_, hcolumn, rfl⟩, rfl⟩, ⟨rfl, rfl⟩, rfl⟩, htail, rfl⟩ := hp
  obtain rfl : h.rowText = m₁ := (List.cons.inj hfirst).2
  obtain ⟨rfl, rfl⟩ := number_of_reads hrow
  obtain ⟨rfl, rfl⟩ := number_of_reads hcolumn
  obtain ⟨hseverity, bs, hne, hbs, hmessage⟩ :=
    Gcc.tailPattern_reads h.severity_text h.gap_blank htail
  exact ⟨_, rfl, hseverity, (run_ends hne hbs h.message_start hmessage).2⟩

/-- The heading can be read from the colon after its file on. -/
theorem exists_reads_column (h : ColumnHeading) :
    ∃ ms, Gcc.columnPattern.Reads (':' :: h.rowText) ms [] := by
  obtain ⟨ms, htail⟩ := Gcc.exists_reads_tail h.severity_text h.gap_blank h.message_inline
  exact ⟨_, _, _, _, ⟨_, _, _, ⟨_, _, _, ⟨_, _, _, ⟨_, _, _, ⟨rfl, rfl⟩, reads_number .line _ _,
    rfl⟩, ⟨rfl, rfl⟩, rfl⟩, reads_number .column _ _, rfl⟩, ⟨rfl, rfl⟩, rfl⟩, htail, rfl⟩

/-- Inside the file of a heading nothing like a place can be read. -/
theorem not_reads_inside_file {u v : List Char} (hfile : h.file = u ++ v) (hv : v ≠ [])
    (hp : Gcc.columnPattern.Reads (v ++ ':' :: h.rowText) ms r) : False := by
  obtain ⟨_, _, _, ⟨_, _, _, ⟨_, _, _, ⟨_, _, _, ⟨_, m₁, _, ⟨hfirst, -⟩, ⟨_, hrow, -⟩, -⟩, -, -⟩, -,
    -⟩, -, -⟩, -, -⟩ := hp
  -- it would start at a colon with a digit behind it
  obtain ⟨c, v, rfl⟩ := List.exists_cons_of_ne_nil hv
  have hsplit : c :: (v ++ ':' :: h.rowText) = ':' :: m₁ := hfirst
  obtain ⟨rfl, rfl⟩ := List.cons.inj hsplit
  obtain ⟨digits, hne, hdigits, hs, -⟩ := most1_reads_iff.1 hrow
  obtain ⟨d, digits, rfl⟩ := List.exists_cons_of_ne_nil hne
  have hd : isDigit d = true := hdigits d List.mem_cons_self
  cases v with
  | nil =>
    obtain ⟨rfl, -⟩ := List.cons.inj hs
    exact absurd hd (by decide)
  | cons x v =>
    obtain ⟨rfl, -⟩ := List.cons.inj hs
    rw [h.file_plain u x v hfile] at hd
    cases hd

/-- **A heading is read as it was written.** -/
theorem match?_line (h : ColumnHeading) : ∃ tail : Captures, Gcc.locatedPattern.match? h.line =
    some ([.opened .file h.line, .closed .file (':' :: h.rowText),
      .opened .line h.rowText, .closed .line (':' :: h.columnText),
      .opened .column h.columnText, .closed .column (':' :: h.text)] ++ tail) ∧
      Gcc.severityOf tail = h.severity ∧ tail.get .message = h.message := by
  let k : Continuation := fun r => some (.start r)
  obtain ⟨ms, hms⟩ := h.exists_reads_column
  obtain ⟨x, hx⟩ := Option.isSome_iff_exists.1 (isSome_run_of_reads (k := k) hms rfl)
  -- the file is a shortest run, so it ends at the first colon from which the rest can be read
  have hfirst : FirstPlace (fun r => (Gcc.columnPattern.run k r).isSome = true) h.line h.file
      (':' :: h.rowText) := by
    refine ⟨rfl, by rw [hx]; rfl, fun u v huv hv => ?_⟩
    obtain ⟨y, hy⟩ := Option.isSome_iff_exists.1 hv
    obtain ⟨_, _, _, hreads, -, -⟩ := run_reads hy
    rcases List.append_eq_append_iff.1 huv with ⟨a, rfl, -⟩ | ⟨a, hfile, rfl⟩
    · simp
    · by_cases ha : a = []
      · rw [hfile, ha]; simp
      · exact (not_reads_inside_file hfile ha hreads).elim
  have hrun : (capture .file (least isInline)).run (Gcc.columnPattern.run k) h.line =
      some ⟨.opened .file h.line :: .closed .file (':' :: h.rowText) :: x.captures, x.rest⟩ :=
    run_capture_least_iff.2 ⟨_, _, x, hfirst, isInline_of_not_mem h.file_inline, hx, rfl⟩
  have hmatch : Gcc.locatedPattern.match? h.line =
      some (.opened .file h.line :: .closed .file (':' :: h.rowText) :: x.captures) := by
    rw [match?, read?_eq_run]
    exact congrArg (Option.map Reading.captures) hrun
  obtain ⟨ms', r, y, hplace, hy, rfl⟩ := run_reads hx
  cases hy
  have hcaptures : (Reading.marks ms' (.start r)).captures = ms' := List.append_nil ms'
  obtain ⟨tail, rfl, htail⟩ := columnPattern_reads hplace
  exact ⟨tail, by rw [hmatch, hcaptures]; rfl, htail⟩

/-- **The heading of the line** is the one that was written. -/
theorem heading?_line (h : ColumnHeading) : Gcc.heading? h.line =
    some ⟨h.file, decimal h.row, decimal h.column, h.severity, h.message⟩ := by
  obtain ⟨tail, hmatch, hseverity, hmessage⟩ := h.match?_line
  have hlocated : Gcc.located? h.line =
      some ⟨h.file, decimal h.row, decimal h.column, Gcc.severityOf tail, tail.get .message⟩ := by
    rw [Gcc.located?, hmatch]
    simp [line, rowText, columnText, Captures.get, Captures.get?, Captures.restOf?]
    rfl
  rw [Gcc.heading?, hlocated, hseverity, hmessage]
  rfl

/-! ## The line in GCC's grammar -/

theorem line_visible (h : ColumnHeading) : isBlankLine h.line = false := by
  have hcolon : ':' ∈ h.line := List.mem_append_right _ List.mem_cons_self
  exact (not_blank_of_colon hcolon).1

/-- A heading opens its diagnostic where nothing is held, a note like any other. -/
theorem heading_fresh (g : Gcc.Heading) :
    Gcc.State.heading {} g = (.claim none, { held := some (g.toDiagnostic none) }) := by
  unfold Gcc.State.heading
  cases g.isNote <;> rfl

theorem toDiagnostic_eq (h : ColumnHeading) : Gcc.Heading.toDiagnostic
    ⟨h.file, decimal h.row, decimal h.column, h.severity, h.message⟩ none = h.diagnostic := by
  rw [Gcc.Heading.toDiagnostic, Gcc.Heading.range, zeroBased_decimal h.row_pos h.row_lt,
    zeroBased_decimal h.column_pos h.column_lt]
  rfl

/-- **A heading opens its diagnostic**, and GCC holds it to the end: nothing but `make`, a linker
or the start of a template backtrace takes the line from it. -/
theorem read_back (h : ColumnHeading) (hmake : GnuLd.isMakeLine h.line = false)
    (hlinker : GnuLd.isLinkerPrefixed h.line = false)
    (hinstantiation : Gcc.instantiationPattern.match? h.line = none) :
    (Gcc.State.step {} h.line).1 = .claim none ∧
      (Gcc.State.step {} h.line).2.flush.1 = some h.diagnostic := by
  have hstep : Gcc.State.step {} h.line = Gcc.State.heading {}
      ⟨h.file, decimal h.row, decimal h.column, h.severity, h.message⟩ := by
    rw [Gcc.State.step, h.line_visible, hmake, hlinker, Gcc.State.instantiation?, hinstantiation,
      Gcc.State.required?_new, Gcc.State.limit?_new, h.heading?_line]
    rfl
  rw [hstep, heading_fresh, h.toDiagnostic_eq]
  exact ⟨rfl, rfl⟩

/-- A fatal error in a file whose name has a colon, with a message that shows another place. -/
def nested : ColumnHeading where
  file := ['C', ':', 'a', '.', 'c']
  row := 4
  column := 26
  severity := "fatal error".toList
  gap := [' ']
  message := "x:1:2: note: y".toList
  file_inline := by decide
  file_plain u d v h := by
    rcases u with _ | ⟨a, _ | ⟨b, u⟩⟩
    · cases h
    · cases h
      decide
    · -- the only colon of the file is its second character
      have hrest : ['a', '.', 'c'] = u ++ ':' :: d :: v := (List.cons.inj (List.cons.inj h).2).2
      exact absurd (hrest ▸ List.mem_append_right _ List.mem_cons_self : ':' ∈ ['a', '.', 'c'])
        (by decide)
  row_pos := by decide
  row_lt := by decide
  column_pos := by decide
  column_lt := by decide
  severity_text := .led (by decide : "fatal" ∈ Gcc.leads) (by decide : Gcc.IsOneWord "error".toList)
  gap_blank := Gcc.isGap_space
  message_inline := by decide
  message_start := by decide

theorem read_back_nested :
    nested.line = "C:a.c:4:26: fatal error : x:1:2: note: y".toList ∧
    (Gcc.State.step {} nested.line).1 = .claim none ∧
      (Gcc.State.step {} nested.line).2.flush.1 = some nested.diagnostic :=
  ⟨by decide, read_back nested (by decide +kernel) (by decide +kernel) (by decide +kernel)⟩

end ColumnHeading

end BuildDiagnostics
