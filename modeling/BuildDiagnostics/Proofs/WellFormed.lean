import BuildDiagnostics.Proofs.Captured
import BuildDiagnostics.Proofs.Openings
import BuildDiagnostics.Proofs.OrphanLayout

/-!
# Well-formed diagnostics

What a grammar makes of a line is fit to be printed: its numbers can be counted from one, what
stands on one line of a report has no line feed in it, its source is one of the names that the
grammar gives, and its severity has a level. Only a heading of GCC with line and column names its
severity freely.

* `zeroBased_lt`: no number that is read, however large, is the largest one.
* `Diagnostic.WellFormed`: what is said of a diagnostic and its grammar.
* `WellFormed.extend`: text and related places that are added keep a diagnostic well formed.
* `Gcc.wellFormed_toDiagnostic`, `GnuLd.wellFormed_read` and so on: what the grammars make of a line
  is well formed.
-/

namespace BuildDiagnostics

/-! ## Numbers -/

/-- Neither number of the position is the largest one. -/
structure Position.Printable (p : Position) : Prop where
  line : p.line < Position.restOfLine
  column : p.column < Position.restOfLine

/-- One more than a number that is not the largest one does not overflow. -/
theorem toNat_add_one {n : UInt32} (h : n < Position.restOfLine) : (n + 1).toNat = n.toNat + 1 := by
  have hmax : Position.restOfLine.toNat = 4294967295 := rfl
  have hlt := UInt32.lt_iff_toNat_lt.1 h
  rw [UInt32.toNat_add, UInt32.toNat_one]
  omega

/-- **No number that is read is the largest one.** -/
theorem zeroBased_lt (text : List Char) : zeroBased text < Position.restOfLine := by
  unfold zeroBased
  dsimp only
  split
  · decide
  · rename_i h
    generalize (parseUInt32? (Text.trim text)).getD 0 = n at h ⊢
    have hpos : n.toNat ≠ 0 := fun h0 => h (UInt32.toNat_inj.1 h0)
    have hone : (1 : UInt32) ≤ n := by
      rw [UInt32.le_iff_toNat_le, UInt32.toNat_one]
      omega
    have hmax : Position.restOfLine.toNat = 4294967295 := rfl
    have hn := n.toNat_lt
    rw [UInt32.lt_iff_toNat_lt, UInt32.toNat_sub_of_le _ _ hone, UInt32.toNat_one]
    omega

theorem printable_zeroBased (line column : List Char) :
    Position.Printable ⟨zeroBased line, zeroBased column⟩ :=
  ⟨zeroBased_lt line, zeroBased_lt column⟩

theorem printable_line (line : List Char) : Position.Printable ⟨zeroBased line, 0⟩ :=
  ⟨zeroBased_lt line, show (0 : UInt32) < Position.restOfLine by decide⟩

theorem printable_origin : Position.Printable ⟨0, 0⟩ := ⟨by decide, by decide⟩

/-! ## Diagnostics -/

/-- The names that the diagnostics of a grammar give as their source. -/
def Grammar.Names : Grammar → String → Prop
  | .gcc, s => s = "GCC"
  | .gnuld, s => s = "Link"
  | .msvc, s => s = "MSVC"
  | .ghs, s => s = "GHS"
  | .diab, s => s = "DIAB"
  | .iar, s => s = "IAR"
  | .iwyu, s => s = "iwyu"
  | .cmake, s => ∃ command, s = "CMake (" ++ command ++ ")"

/-- The diagnostic comes from a heading of GCC with line and column, one of the given lines. -/
def Gcc.Located (fed : Line → Prop) (d : Diagnostic) : Prop :=
  ∃ line h, fed line ∧ located? line = some h ∧ (h.toDiagnostic none).Extends d

/-- The diagnostic is as those of the grammar are that come from the given lines. -/
structure Diagnostic.WellFormed (g : Grammar) (fed : Line → Prop) (d : Diagnostic) : Prop where
  start : d.range.start.Printable
  related : ∀ r ∈ d.related, r.range.start.Printable
  oneLine : Resolver.OneLine d
  code : d.code ≠ some ""
  source : g.Names d.source
  level : d.classification.isSome = true ∨ g = .gcc ∧ Gcc.Located fed d

open Diagnostic (WellFormed)

variable {fed : Line → Prop} {line : Line}

/-- **More text and more related places keep a diagnostic well formed**, if they are. -/
theorem Diagnostic.WellFormed.extend {g : Grammar} {d e : Diagnostic} (h : WellFormed g fed d)
    (he : d.Extends e) (hrelated : ∀ r ∈ e.related, r.range.start.Printable) :
    WellFormed g fed e where
  start := he.range ▸ h.start
  related := hrelated
  oneLine := ⟨he.file ▸ h.oneLine.file, he.source ▸ h.oneLine.source,
    he.severity ▸ h.oneLine.severity, he.code ▸ h.oneLine.code⟩
  code := he.code ▸ h.code
  source := he.source ▸ h.source
  level := by
    refine h.level.imp (fun hlevel => ?_) (And.imp_right ?_)
    · rw [Diagnostic.classification, he.severity]
      exact hlevel
    · rintro ⟨line, heading, hfed, hline, hd⟩
      exact ⟨line, heading, hfed, hline, hd.trans he⟩

theorem nonEmptyCode_ne_empty (code : List Char) : Diagnostic.nonEmptyCode code ≠ some "" := by
  unfold Diagnostic.nonEmptyCode
  split
  · simp
  · rename_i h
    intro he
    refine h (List.isEmpty_iff.2 ?_)
    rw [← String.toList_ofList (l := code), Option.some.inj he]
    rfl

theorem toList_of_nonEmptyCode {code : List Char} {c : String}
    (h : Diagnostic.nonEmptyCode code = some c) : c.toList = code := by
  unfold Diagnostic.nonEmptyCode at h
  split at h
  · cases h
  · cases h
    exact String.toList_ofList

/-- Whether the word has a level. -/
def Severity.leveled (word : List Char) : Bool := (classify? word).isSome

theorem Severity.among_append (vs ws : List String) (word : List Char) :
    among (vs ++ ws) word = (among vs word || among ws word) :=
  List.any_append

theorem Severity.leveled_of_isKnownWord {word : List Char} (h : isKnownWord word = true) :
    leveled word = true := by
  rw [isKnownWord, among_append, among_append, Bool.or_eq_true_iff, Bool.or_eq_true_iff] at h
  unfold leveled classify?
  dsimp only
  rcases h with (h | h) | h
  · rw [if_pos h]
    rfl
  · rw [if_pos h]
    split <;> rfl
  · rw [if_pos h]
    split
    · rfl
    · split <;> rfl

/-- The severities that the grammars spell out, in lower case. -/
def Severity.spelled : List String :=
  ["error", "fatal error", "catastrophic error", "warning", "remark", "info", "note"]

/-- A severity that is spelled out is a text of one line with a level. -/
theorem Severity.spelled_spec {word : List Char} (h : among spelled word = true) :
    '\n' ∉ word ∧ leveled word = true := by
  have hall : ∀ w ∈ spelled, '\n' ∉ w.toList ∧ leveled w.toList = true := by decide +kernel
  obtain ⟨w, hw, heq⟩ := List.any_eq_true.1 h
  exact eq_of_beq heq ▸ hall w hw

namespace Pattern

variable {p : Pattern} {cs : Captures}

/-- What is captured from a line without line feeds has none. -/
theorem not_mem_get (f : Field) (h : p.match? line = some cs) (hl : '\n' ∉ line) :
    '\n' ∉ cs.get f := by
  obtain ⟨r, hr⟩ := match?_reads h
  exact fun hc => hl (mem_of_mem_get hr hc)

theorem not_mem_file (h : p.match? line = some cs) (hl : '\n' ∉ line) :
    '\n' ∉ (String.ofList (cs.get .file)).toList := by
  rw [String.toList_ofList]
  exact not_mem_get .file h hl

theorem not_mem_trimmed_file (h : p.match? line = some cs) (hl : '\n' ∉ line) :
    '\n' ∉ (String.ofList (Text.trim (cs.get .file))).toList := by
  rw [String.toList_ofList]
  exact fun hc => not_mem_get .file h hl (Text.trim_subset _ hc)

/-- A severity that is always captured, from a pattern that spells it out. -/
theorem spelled_severity (hp : p.spells .severity (Severity.among Severity.spelled) = true)
    (hn : p.needs .severity = true) (h : p.match? line = some cs) :
    Severity.among Severity.spelled (String.ofList (cs.get .severity)).toList = true := by
  obtain ⟨r, hr⟩ := match?_reads h
  rw [String.toList_ofList]
  exact good_get_of_spells hp hn hr

end Pattern

/-- A diagnostic of fit parts and without related places is well formed. -/
theorem Diagnostic.wellFormed_mk {g : Grammar} {file severity message source : String}
    {code : Option String} {range : Range} (hsource : g.Names source)
    (hsourceLine : '\n' ∉ source.toList) (hstart : range.start.Printable)
    (hfile : '\n' ∉ file.toList)
    (hseverity : Severity.among Severity.spelled severity.toList = true)
    (hcode : code = none ∨ ∃ t, '\n' ∉ t ∧ code = nonEmptyCode t) :
    WellFormed g fed { file, range, severity, message, code, source } where
  start := hstart
  related := fun _ hr => absurd hr List.not_mem_nil
  oneLine := by
    refine ⟨hfile, hsourceLine, (Severity.spelled_spec hseverity).1, fun c hc => ?_⟩
    rcases hcode with rfl | ⟨t, ht, rfl⟩
    · cases hc
    · rwa [toList_of_nonEmptyCode hc]
  code := by
    rcases hcode with rfl | ⟨t, -, rfl⟩
    · simp
    · exact nonEmptyCode_ne_empty t
  source := hsource
  level := .inl (Severity.spelled_spec hseverity).2

/-! ## GCC -/

namespace Gcc

/-- The parts of a severity are captured, and only blanks come between them. -/
theorem not_mem_severityOf {p : Pattern} {cs : Captures} (h : p.match? line = some cs)
    (hl : '\n' ∉ line) : '\n' ∉ severityOf cs := by
  have hlead : ∀ t, cs.get? .lead = some t → '\n' ∉ t := by
    intro t ht
    have hget := Pattern.not_mem_get .lead h hl
    rwa [Captures.get, ht] at hget
  have htail : ∀ t, cs.get? .tail = some t → '\n' ∉ t := by
    intro t ht
    have hget := Pattern.not_mem_get .tail h hl
    rwa [Captures.get, ht] at hget
  have hword := Pattern.not_mem_get .severity h hl
  unfold severityOf
  cases hp : cs.get? .lead with
  | none =>
    cases hs : cs.get? .tail with
    | none => simpa using hword
    | some t => simpa [hword] using htail t hs
  | some u =>
    cases hs : cs.get? .tail with
    | none => simpa [hword] using hlead u hp
    | some t => simpa [hword] using And.intro (hlead u hp) (htail t hs)

/-- What a heading is made of: texts of the line, and a severity with a level unless the line has a
line and a column. -/
theorem heading?_spec {h : Heading} (hh : heading? line = some h) (hl : '\n' ∉ line) :
    '\n' ∉ h.file ∧ '\n' ∉ h.severity ∧
      (Severity.leveled h.severity = true ∨ located? line = some h) := by
  unfold heading? at hh
  rcases Option.or_eq_some_iff.1 hh with hh | ⟨-, hh⟩
  · obtain ⟨cs, hcs, rfl⟩ := Option.map_eq_some_iff.1 hh
    exact ⟨Pattern.not_mem_get _ hcs hl, not_mem_severityOf hcs hl, .inr hh⟩
  rcases Option.or_eq_some_iff.1 hh with hh | ⟨-, hh⟩
  · unfold lineOnly? at hh
    split at hh
    · rename_i cs hcs
      split at hh
      · rename_i hknown
        cases hh
        exact ⟨Pattern.not_mem_get _ hcs hl, not_mem_severityOf hcs hl,
          .inl (Severity.leveled_of_isKnownWord hknown)⟩
      · cases hh
    · cases hh
  · unfold tool? at hh
    split at hh
    · rename_i cs hcs
      split at hh
      · rename_i hknown
        cases hh
        exact ⟨Pattern.not_mem_get _ hcs hl, not_mem_severityOf hcs hl,
          .inl (Severity.leveled_of_isKnownWord (Bool.and_eq_true_iff.1 hknown).1)⟩
      · cases hh
    · cases hh

/-- **A heading is a well-formed diagnostic.** -/
theorem wellFormed_toDiagnostic {h : Heading} (hh : heading? line = some h) (hl : '\n' ∉ line)
    (hfed : fed line) {backtrace : Option Backtrace}
    (hback : ∀ b ∈ backtrace, ∀ r ∈ b.steps, r.range.start.Printable) :
    WellFormed .gcc fed (h.toDiagnostic backtrace) := by
  obtain ⟨hfile, hseverity, hlevel⟩ := heading?_spec hh hl
  have hstart : h.range.start.Printable := printable_zeroBased _ _
  have hsource : '\n' ∉ source.toList := by decide
  refine ⟨hstart, ?_, ⟨?_, hsource, ?_, fun c hc => by cases hc⟩, by simp [Heading.toDiagnostic],
    rfl, ?_⟩
  · intro r hr
    cases backtrace with
    | none => cases hr
    | some b =>
      rcases List.mem_cons.1 hr with rfl | hr
      · exact hstart
      · exact hback b rfl r hr
  · simpa [Heading.toDiagnostic] using hfile
  · simpa [Heading.toDiagnostic] using hseverity
  · refine hlevel.imp (fun hl => ?_) fun hl => ⟨rfl, line, h, hfed, hl, ?_⟩
    · simpa [Diagnostic.classification, Heading.toDiagnostic, Severity.leveled] using hl
    · exact ⟨rfl, rfl, rfl, rfl, rfl, List.prefix_rfl, List.nil_prefix⟩

end Gcc

/-! ## Linkers -/

namespace GnuLd

/-- A linker spells a severity out, or an error is meant. -/
theorem spelled_severityOf {p : Pattern} {cs : Captures}
    (hp : p.spells .severity (Severity.among Severity.spelled) = true)
    (h : p.match? line = some cs) :
    Severity.among Severity.spelled (severityOf cs).toList = true := by
  obtain ⟨r, hr⟩ := Pattern.match?_reads h
  unfold severityOf
  split
  · rename_i word hword
    rw [String.toList_ofList]
    exact Pattern.good_of_spells hp hr hword
  · decide

theorem not_mem_split {tool : Option (List Char)} {body : List Char} (h : split line = (tool, body))
    (hl : '\n' ∉ line) : (∀ t ∈ tool, '\n' ∉ t) ∧ '\n' ∉ body := by
  unfold split at h
  split at h
  · rename_i cs hcs
    cases h
    refine ⟨fun t ht => ?_, Pattern.not_mem_get _ hcs hl⟩
    cases ht
    exact Pattern.not_mem_get _ hcs hl
  · cases h
    exact ⟨fun t ht => absurd ht (by simp), hl⟩

theorem wellFormed_body? {tool : Option (List Char)} {body : List Char} {d : Diagnostic}
    (h : body? tool body = some d) (htool : ∀ t ∈ tool, '\n' ∉ t) (hbody : '\n' ∉ body) :
    WellFormed .gnuld fed d := by
  have hsource : '\n' ∉ source.toList := by decide
  unfold body? at h
  split at h
  · cases h
    exact Diagnostic.wellFormed_mk rfl hsource printable_origin
      (Pattern.not_mem_trimmed_file ‹_› hbody) (by decide) (.inl rfl)
  split at h
  · rename_i cs hcs
    dsimp only at h
    split at h
    · cases h
    · cases h
      exact Diagnostic.wellFormed_mk rfl hsource (printable_line _)
        (Pattern.not_mem_trimmed_file hcs hbody) (spelled_severityOf (by decide) hcs) (.inl rfl)
  split at h
  · rename_i name cs hcs
    cases h
    -- the last part of the tool's name
    have hname : '\n' ∉ (String.ofList (baseName name)).toList := by
      rw [String.toList_ofList]
      intro hc
      have hc' := (List.takeWhile_prefix _).subset (List.mem_reverse.1 hc)
      exact htool name rfl (List.mem_reverse.1 hc')
    exact Diagnostic.wellFormed_mk rfl hsource printable_origin hname
      (spelled_severityOf (by decide) hcs) (.inl rfl)
  · cases h

/-- **What a linker says is well formed.** -/
theorem wellFormed_read (hl : '\n' ∉ line) :
    ∀ d ∈ (read line).finished, WellFormed .gnuld fed d := by
  intro d hd
  unfold read at hd
  split at hd
  · cases hd
  cases hs : split line with
  | mk tool body =>
    obtain ⟨htool, hbody⟩ := not_mem_split hs hl
    rw [hs] at hd
    dsimp only at hd
    split at hd
    · split at hd <;> cases hd
    · split at hd
      · rename_i x hx
        cases hd
        exact wellFormed_body? hx htool hbody
      · cases hd

end GnuLd

/-! ## Lines of their own -/

namespace Msvc

theorem not_mem_dropProject (hl : '\n' ∉ line) : '\n' ∉ dropProject line := by
  unfold dropProject
  split
  · rename_i before project hfind
    obtain ⟨u, rfl, hu⟩ := Pattern.find?_reads hfind
    obtain ⟨hbefore, hproject⟩ := not_or.1 (mt List.mem_append.2 hl)
    intro hc
    rcases List.mem_append.1 hc with hc | hc
    · exact hbefore hc
    · exact hproject ((Pattern.suffix_of_reads hu).subset hc)
  · exact hl

theorem printable_rangeOf (location : List Char) : (rangeOf location).start.Printable := by
  have hall : ∀ n ∈ (Text.pieces ',' location).map zeroBased, n < Position.restOfLine := by
    intro n hn
    obtain ⟨t, -, rfl⟩ := List.mem_map.1 hn
    exact zeroBased_lt t
  unfold rangeOf
  split
  · rename_i l c heq
    exact ⟨hall l (by rw [heq]; simp), hall c (by rw [heq]; simp)⟩
  · rename_i l₀ c₀ l₁ c₁ heq
    exact ⟨hall l₀ (by rw [heq]; simp), hall c₀ (by rw [heq]; simp)⟩
  · rename_i l ls _ _ heq
    exact ⟨hall l (by rw [heq]; simp), printable_origin.column⟩
  · exact printable_origin

theorem wellFormed_ofCaptures {p : Pattern} {cs : Captures} {range : Range}
    (hp : p.spells .severity (Severity.among Severity.spelled) = true)
    (hn : p.needs .severity = true) (h : p.match? line = some cs) (hl : '\n' ∉ line)
    (hstart : range.start.Printable) : WellFormed .msvc fed (ofCaptures cs range) :=
  Diagnostic.wellFormed_mk rfl (by decide) hstart (Pattern.not_mem_trimmed_file h hl)
    (Pattern.spelled_severity hp hn h) (.inr ⟨_, Pattern.not_mem_get .code h hl, rfl⟩)

/-- **What Visual C++ says is well formed.** -/
theorem wellFormed_read (hl : '\n' ∉ line) :
    ∀ d ∈ (read line).finished, WellFormed .msvc fed d := by
  intro d hd
  have hline := not_mem_dropProject hl
  unfold read at hd
  split at hd
  · rename_i x hx
    cases hd
    unfold diagnostic? at hx
    split at hx
    · rename_i cs hcs
      cases hx
      exact wellFormed_ofCaptures (by decide) (by decide) hcs hline (printable_rangeOf _)
    split at hx
    · rename_i cs hcs
      cases hx
      exact wellFormed_ofCaptures (by decide) (by decide) hcs hline printable_origin
    · cases hx
  · cases hd

end Msvc

/-- **What Diab says is well formed.** -/
theorem Diab.wellFormed_read (hl : '\n' ∉ line) :
    ∀ d ∈ (read line).finished, WellFormed .diab fed d := by
  intro d hd
  unfold read at hd
  split at hd
  · rename_i cs hcs
    cases hd
    exact Diagnostic.wellFormed_mk rfl (by decide) (printable_line _) (Pattern.not_mem_file hcs hl)
      (Pattern.spelled_severity (by decide) (by decide) hcs)
      (.inr ⟨_, Pattern.not_mem_get .code hcs hl, rfl⟩)
  · cases hd

/-! ## Headings of blocks -/

theorem Block.wellFormed_addLine {g : Grammar} {d : Diagnostic} (h : WellFormed g fed d)
    (body : List Char) : WellFormed g fed (addLine d body) :=
  h.extend (extends_addLine d body) h.related

/-- **A heading of Green Hills is a well-formed diagnostic.** -/
theorem GreenHills.wellFormed_heading? (hl : '\n' ∉ line) :
    ∀ d ∈ heading? line, WellFormed .ghs fed d := by
  intro d hd
  obtain ⟨cs, hcs, rfl⟩ := Option.map_eq_some_iff.1 hd
  have hmessage := Pattern.not_mem_get .message hcs hl
  -- the code is taken from the message
  have hcode : (splitCode (cs.get .message)).1 = none ∨
      ∃ t, '\n' ∉ t ∧ (splitCode (cs.get .message)).1 = Diagnostic.nonEmptyCode t := by
    unfold splitCode
    split
    · rename_i parts hparts
      exact .inr ⟨_, Pattern.not_mem_get .code hparts hmessage, rfl⟩
    · exact .inl rfl
  exact Diagnostic.wellFormed_mk rfl (by decide) (printable_zeroBased _ _)
    (Pattern.not_mem_file hcs hl) (Pattern.spelled_severity (by decide) (by decide) hcs) hcode

namespace Iar

theorem wellFormed_ofCaptures {p : Pattern} {cs : Captures} {file : String}
    (hp : p.spells .severity (fun w => Severity.among Severity.spelled (Text.lower w)) = true)
    (hn : p.needs .severity = true) (h : p.match? line = some cs) (hl : '\n' ∉ line)
    (hfile : '\n' ∉ file.toList) : WellFormed .iar fed (ofCaptures cs file) := by
  obtain ⟨r, hr⟩ := Pattern.match?_reads h
  refine Diagnostic.wellFormed_mk rfl (by decide) (printable_line _) hfile ?_
    (.inr ⟨_, Pattern.not_mem_get .code h hl, rfl⟩)
  rw [String.toList_ofList]
  exact Pattern.good_get_of_spells hp hn hr

/-- **A heading of IAR is a well-formed diagnostic.** -/
theorem wellFormed_heading? (hl : '\n' ∉ line) : ∀ d ∈ heading? line, WellFormed .iar fed d := by
  intro d hd
  unfold heading? at hd
  split at hd
  · rename_i cs hcs
    cases hd
    exact wellFormed_ofCaptures (by decide +kernel) (by decide) hcs hl (Pattern.not_mem_file hcs hl)
  · obtain ⟨cs, hcs, rfl⟩ := Option.map_eq_some_iff.1 hd
    exact wellFormed_ofCaptures (by decide +kernel) (by decide) hcs hl (by decide)

end Iar

/-- **A heading of CMake is a well-formed diagnostic.** -/
theorem CMake.wellFormed_ofCaptures {cs : Captures} (h : headingPattern.match? line = some cs)
    (hl : '\n' ∉ line) : WellFormed .cmake fed (ofCaptures cs) := by
  have hsource : '\n' ∉ ("CMake (" ++ String.ofList (cs.get .command) ++ ")").toList := by
    simpa using Pattern.not_mem_get .command h hl
  have hseverity : Severity.among Severity.spelled (severityOf (cs.get .level)).toList = true := by
    unfold severityOf
    split
    · decide
    · decide
  exact Diagnostic.wellFormed_mk ⟨_, rfl⟩ hsource (printable_line _) (Pattern.not_mem_file h hl)
    hseverity (.inl rfl)

/-! ## Lists of includes -/

namespace Iwyu

theorem wellFormed_listing {file : String} (hfile : '\n' ∉ file.toList) {severity : String}
    (hseverity : Severity.among Severity.spelled severity.toList = true) (title : String)
    (lines : List (List Char)) : WellFormed .iwyu fed (listing file severity title lines) :=
  Diagnostic.wellFormed_mk rfl (by decide) printable_origin hfile hseverity (.inl rfl)

theorem wellFormed_removal {file : String} (hfile : '\n' ∉ file.toList) (cs : Captures) :
    WellFormed .iwyu fed (removal file cs) :=
  Diagnostic.wellFormed_mk rfl (by decide) (printable_line _) hfile (by decide) (.inl rfl)

end Iwyu

end BuildDiagnostics
