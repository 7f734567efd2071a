import BuildDiagnostics.Grammar.Verdict
import BuildDiagnostics.Proofs.FirstReading

/-!
# Headings that start with a file in quotes

Three compilers put the file in quotes and a comma after it. The file is read as far as it can be,
so a heading is cut behind the last quote and comma that lets the rest of it be read. It is cut at
its file if there is no such place later on (`Uncut`).

* `quoted_reads`, `reads_quoted`: where a heading can be cut.
* `prefers_quoted`: an uncut heading is cut at its file.
* `QuotedNotice.match?_eq_none`: it is not read if what comes after its file is not.
* `QuotedNotice.file_of_later`: a heading that is cut later is read with another file.
* `QuotedNotice.uncut`: a heading without a quote between its file and its message is uncut.
-/

namespace BuildDiagnostics

open Text Pattern

/-! ## Where a heading is cut -/

section Cuts

variable {s s' t t' : List Char}

/-- A text is cut behind the first quote and comma, if no quote comes before, or later. -/
theorem cut_quoted (hs : '"' ∉ s) (h : s ++ '"' :: ',' :: t = s' ++ '"' :: ',' :: t') :
    (s = s' ∧ t = t') ∨ ∃ u, t = u ++ '"' :: ',' :: t' := by
  rcases List.append_eq_append_iff.1 h with ⟨a, rfl, ha⟩ | ⟨a, rfl, ha⟩
  · rcases a with _ | ⟨b, _ | ⟨c, u⟩⟩
    · exact .inl ⟨by simp, by simpa using ha⟩
    · simp at ha
    · refine .inr ⟨u, ?_⟩
      simp only [List.cons_append, List.cons.injEq] at ha
      exact ha.2.2
  · cases a with
    | nil => exact .inl ⟨by simp, by simpa using ha.symm⟩
    | cons b a =>
      obtain ⟨rfl, -⟩ := List.cons.inj ha
      simp at hs

/-- A quote and a comma in a text between two others, which have none, are its own. -/
theorem cut_between {a b w u : List Char} (ha : '"' ∉ a) (hquote : b.head? ≠ some '"')
    (hcomma : b.head? ≠ some ',') (hb : ¬ ['"', ','] <:+: b)
    (h : a ++ (s ++ b) = u ++ '"' :: ',' :: w) :
    ∃ v x, s = v ++ '"' :: ',' :: x ∧ w = x ++ b := by
  obtain ⟨v, hv⟩ : ∃ v, s ++ b = v ++ '"' :: ',' :: w := by
    rcases List.append_eq_append_iff.1 h with ⟨x, -, hx⟩ | ⟨x, rfl, hx⟩
    · exact ⟨x, hx⟩
    · cases x with
      | nil => exact ⟨[], hx.symm⟩
      | cons c x =>
        obtain ⟨rfl, -⟩ := List.cons.inj hx
        simp at ha
  rcases List.append_eq_append_iff.1 hv with ⟨x, rfl, rfl⟩ | ⟨x, rfl, hx⟩
  · exact absurd ⟨x, w, by simp⟩ hb
  · rcases x with _ | ⟨c, _ | ⟨d, x⟩⟩
    · rw [List.nil_append] at hx
      exact absurd (by rw [← hx]; rfl) hquote
    · have hstart : b = ',' :: w := (List.cons.inj hx).2.symm
      exact absurd (by rw [hstart]; rfl) hcomma
    · simp only [List.cons_append, List.cons.injEq] at hx
      obtain ⟨rfl, rfl, rfl⟩ := hx
      exact ⟨v, x, rfl, rfl⟩

end Cuts

namespace Pattern

variable {p : Pattern} {file rest r : List Char} {ms : Captures}

/-- A file in quotes, a comma, and what comes after it. -/
def quoted (p : Pattern) : Pattern := "\"" ++ (capture .file (most isInline) ++ ("\"," ++ p))

theorem match?_quoted (p : Pattern) (s : List Char) : (quoted p).match? ('"' :: s) =
    (capture .file (most isInline) ++ ("\"," ++ p) : Pattern).match? s := by
  rw [Pattern.match?, Pattern.match?, read?_eq_run, read?_eq_run]
  rfl

/-- Nowhere behind a quote and a comma of the text can the pattern be read. -/
def Uncut (p : Pattern) (s : List Char) : Prop :=
  ∀ u w, s = u ++ '"' :: ',' :: w → ∀ ms r, ¬ p.Reads w ms r

theorem uncut_of_not_infix (h : ¬ ['"', ','] <:+: rest) : p.Uncut rest := by
  rintro u w rfl
  exact absurd ⟨u, w, by simp⟩ h

/-- **A heading is cut behind its file, or later.** -/
theorem quoted_reads (hfile : '"' ∉ file)
    (h : (quoted p).Reads ('"' :: (file ++ '"' :: ',' :: rest)) ms r) :
    ∃ w ms, p.Reads w ms r ∧ (w = rest ∨ ∃ u, rest = u ++ '"' :: ',' :: w) := by
  obtain ⟨_, _, _, ⟨hs, -⟩, ⟨_, _, _, ⟨_, ⟨f, -, rfl, -⟩, -⟩,
    ⟨_, w, ms', ⟨rfl, -⟩, hp, -⟩, -⟩, -⟩ := h
  have hcut : file ++ '"' :: ',' :: rest = f ++ '"' :: ',' :: w := (List.cons.inj hs).2
  rcases cut_quoted hfile hcut with ⟨-, rfl⟩ | hlater
  · exact ⟨_, ms', hp, .inl rfl⟩
  · exact ⟨w, ms', hp, .inr hlater⟩

/-- A heading can be cut wherever what comes after the cut can be read. -/
theorem reads_quoted (hfile : '\n' ∉ file) (h : p.Reads rest ms r) :
    ∃ ms, (quoted p).Reads ('"' :: (file ++ '"' :: ',' :: rest)) ms r :=
  ⟨_, [], file ++ '"' :: ',' :: rest, _, ⟨rfl, rfl⟩,
    ⟨_, '"' :: ',' :: rest, _, ⟨[], ⟨file, isInline_of_not_mem hfile, rfl, rfl⟩, rfl⟩,
      ⟨[], rest, ms, ⟨rfl, rfl⟩, h, rfl⟩, rfl⟩, rfl⟩

/-- **An uncut heading is cut at its file.** -/
theorem prefers_quoted (hfile : '\n' ∉ file) (huncut : p.Uncut rest)
    (hrest : p.Prefers rest ms r) : (quoted p).Prefers ('"' :: (file ++ '"' :: ',' :: rest))
      (.opened .file (file ++ '"' :: ',' :: rest) :: .closed .file ('"' :: ',' :: rest) :: ms)
      r := by
  refine (prefers_text ['"'] _).seq (Prefers.longest .file (isInline_of_not_mem hfile)
    ((prefers_text ['"', ','] rest).seq hrest) fun u v hne hs ms' r' h => ?_)
  obtain ⟨_, w, _, ⟨rfl, -⟩, hp, -⟩ := h
  -- a later cut stands in the rest
  obtain ⟨u', hu'⟩ : ∃ u', rest = u' ++ '"' :: ',' :: w := by
    rcases u with _ | ⟨a, _ | ⟨b, u⟩⟩
    · exact absurd rfl hne
    · simp at hs
    · simp only [List.cons_append, List.cons.injEq] at hs
      exact ⟨u, hs.2.2⟩
  exact huncut u' w hu' _ _ hp

end Pattern

/-! ## Headings -/

/-- What a heading says in every format. -/
structure QuotedNotice where
  file : List Char
  severity : String
  code : List Char
  message : List Char
  file_plain : '"' ∉ file
  file_inline : '\n' ∉ file
  code_ne : code ≠ []
  message_inline : '\n' ∉ message
  message_trimmed : trim message = message
  message_quote : ¬ ['"', ','] <:+: message
  message_close : ¬ [')', ':'] <:+: message

namespace QuotedNotice

/-- The heading, with what comes after its file. -/
def lineWith (n : QuotedNotice) (rest : List Char) : Line := '"' :: (n.file ++ '"' :: ',' :: rest)

/-- The marks of the file. -/
def fileMarks (n : QuotedNotice) (rest : List Char) : Captures :=
  [.opened .file (n.file ++ '"' :: ',' :: rest), .closed .file ('"' :: ',' :: rest)]

variable {n : QuotedNotice} {p : Pattern} {rest u w r : List Char} {ms : Captures}

/-- **An uncut heading is matched as it was written.** -/
theorem match?_lineWith (n : QuotedNotice) (huncut : p.Uncut rest) (h : p.Prefers rest ms []) :
    (quoted p).match? (n.lineWith rest) = some (n.fileMarks rest ++ ms) :=
  (prefers_quoted n.file_inline huncut h).match?

/-- **It is not matched if what comes after its file is not read.** -/
theorem match?_eq_none (n : QuotedNotice) (huncut : p.Uncut rest)
    (h : ∀ ms r, ¬ p.Reads rest ms r) : (quoted p).match? (n.lineWith rest) = none := by
  refine Pattern.match?_eq_none fun ms r hread => ?_
  obtain ⟨w, ms', hw, rfl | ⟨u, hu⟩⟩ := quoted_reads n.file_plain hread
  · exact h ms' r hw
  · exact huncut u w hu ms' r hw

/-- A heading that can be cut later is matched. -/
theorem isSome_match?_of_later (hrest : rest = u ++ '"' :: ',' :: w) (hinline : '\n' ∉ u)
    (h : p.Reads w ms r) : ((quoted p).match? (n.lineWith rest)).isSome = true := by
  have hline : n.lineWith rest = '"' :: ((n.file ++ '"' :: ',' :: u) ++ '"' :: ',' :: w) := by
    simp [lineWith, hrest]
  have hfile : '\n' ∉ n.file ++ '"' :: ',' :: u := by simp [n.file_inline, hinline]
  obtain ⟨ms', hread⟩ := reads_quoted hfile h
  rw [isSome_match?, hline]
  exact accepts_iff.2 ⟨ms', r, hread⟩

/-- **A heading that can be cut later is read with another file.** -/
theorem file_of_later (hrest : rest = u ++ '"' :: ',' :: w) (hinline : '\n' ∉ u)
    (h : p.Reads w ms r) : ∃ cs, (quoted p).match? (n.lineWith rest) = some cs ∧
      cs.get .file ≠ n.file := by
  have hline : n.file ++ '"' :: ',' :: rest = (n.file ++ '"' :: ',' :: u) ++ '"' :: ',' :: w := by
    simp [hrest]
  have hfile : ∀ c ∈ n.file ++ '"' :: ',' :: u, isInline c = true :=
    isInline_of_not_mem (by simp [n.file_inline, hinline])
  have hread : ("\"," ++ p : Pattern).Reads ('"' :: ',' :: w) ([] ++ ms) r :=
    ⟨[], w, ms, ⟨rfl, rfl⟩, h, rfl⟩
  obtain ⟨cs, t, hcs, ht, hlength⟩ := capture_of_later .file hfile hread
  rw [← hline, ← match?_quoted] at hcs
  refine ⟨cs, hcs, fun hsame => ?_⟩
  rw [Captures.get, ht, Option.getD_some] at hsame
  rw [hsame, List.length_append, List.length_cons] at hlength
  omega

/-- **A heading without a quote between its file and its message is uncut.** -/
theorem uncut (n : QuotedNotice) {s : List Char} (hs : '"' ∉ s) : p.Uncut (s ++ n.message) :=
  uncut_of_not_infix fun h => n.message_quote (infix_of_not_mem h hs)

end QuotedNotice

end BuildDiagnostics
