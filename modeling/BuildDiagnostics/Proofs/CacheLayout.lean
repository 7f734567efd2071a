import BuildDiagnostics.Proofs.CacheMeaning

/-!
# The layout of a cache

How the lines of a cache end does not matter, and neither do lines that say nothing. A carriage
return in front of an empty line runs together with the line feed of that line, so a text may be cut
into fewer lines than it was written in; but only empty lines are lost, and these say nothing.

* `filter_universalLines_joined`: lines that are written with line ends of any kind are read back,
  but for empty ones.
* `quiet_add_of_isIdle`: a line that says nothing changes nothing but the warnings.
* `quiet_foldl_of_padded`: so lines like that may be put in anywhere.
* `layout_does_not_matter`: what is read does not depend on line ends, nor on lines that say
  nothing.
-/

namespace BuildDiagnostics

/-- What may end a line. -/
inductive LineEnd
  | lf | crlf | cr
  deriving DecidableEq, Repr

/-- The line end as it is written. -/
def LineEnd.text : LineEnd → List Char
  | lf => ['\n']
  | crlf => ['\r', '\n']
  | cr => ['\r']

namespace Text

variable {l s last : List Char} {ls : List (List Char × LineEnd)}

/-! ## Lines and line ends -/

/-- The text of lines, each with its line end, and of a last line that has none. That line is empty
if the text ends in a line end. -/
def joined (ls : List (List Char × LineEnd)) (last : List Char) : List Char :=
  ls.flatMap (fun l => l.1 ++ l.2.text) ++ last

/-- The lines of such a text. -/
def linesOf (ls : List (List Char × LineEnd)) (last : List Char) : List (List Char) :=
  ls.map Prod.fst ++ [last]

/-- No line of the list has a line end of any kind in it. -/
def Inline (ls : List (List Char)) : Prop := ∀ l ∈ ls, '\n' ∉ l ∧ '\r' ∉ l

instance (ls : List (List Char)) : Decidable (Inline ls) :=
  inferInstanceAs (Decidable (∀ l ∈ ls, _))

/-- Text without line ends goes to the front of the line that follows. -/
theorem universalLines_append {first : List Char} {rest : List (List Char)} (hn : '\n' ∉ l)
    (hr : '\r' ∉ l) (hs : universalLines s = first :: rest) :
    universalLines (l ++ s) = (l ++ first) :: rest := by
  induction l with
  | nil => exact hs
  | cons c l ih =>
    rw [List.mem_cons, not_or] at hn hr
    have hc : ¬ (c = '\r' || c = '\n') = true := by
      simp only [Bool.or_eq_true, decide_eq_true_eq, not_or]
      exact ⟨fun e => hr.1 e.symm, fun e => hn.1 e.symm⟩
    rw [List.cons_append, universalLines, if_neg hc, ih hn.2 hr.2]
    · rfl
    · exact fun _ e _ => hr.1 e.symm

/-- A line end ends a line. What comes after it is read as on its own, but for an empty line that a
carriage return runs together with. -/
theorem universalLines_lineEnd (e : LineEnd) (s : List Char) : ∃ rest,
    universalLines (e.text ++ s) = [] :: rest ∧
      rest.filter (!·.isEmpty) = (universalLines s).filter (!·.isEmpty) := by
  cases e with
  | lf => exact ⟨universalLines s, rfl, rfl⟩
  | crlf => exact ⟨universalLines s, rfl, rfl⟩
  | cr =>
    rcases s with _ | ⟨c, s⟩
    · exact ⟨[[]], rfl, rfl⟩
    · by_cases hc : c = '\n'
      · -- the line feed goes with the carriage return, and the empty line that it ended is lost
        subst hc
        exact ⟨universalLines s, rfl, rfl⟩
      · refine ⟨universalLines (c :: s), ?_, rfl⟩
        have hline : universalLines ('\r' :: c :: s) = [] :: universalLines (c :: s) := by
          rw [universalLines, if_pos (by decide)]
          exact fun _ _ e => hc (List.cons.inj e).1
        exact hline

/-- **Lines are read back** whatever ends them, but for empty ones. -/
theorem filter_universalLines_joined (h : Inline (linesOf ls last)) :
    (universalLines (joined ls last)).filter (!·.isEmpty) =
      (linesOf ls last).filter (!·.isEmpty) := by
  induction ls with
  | nil =>
    obtain ⟨hn, hr⟩ := h last List.mem_cons_self
    exact congrArg _ (universalLines_of_not_mem hn hr)
  | cons l ls ih =>
    obtain ⟨hn, hr⟩ := h l.1 List.mem_cons_self
    have hrest := ih fun l hl => h l (List.mem_cons_of_mem _ hl)
    obtain ⟨rest, hlines, hfilter⟩ := universalLines_lineEnd l.2 (joined ls last)
    have hjoined : joined (l :: ls) last = l.1 ++ (l.2.text ++ joined ls last) := by
      simp [joined]
    have hwritten : linesOf (l :: ls) last = l.1 :: linesOf ls last := rfl
    rw [hjoined, universalLines_append hn hr hlines, List.append_nil, hwritten, List.filter_cons,
      List.filter_cons, hfilter, hrest]

end Text

namespace Cache

open Text Pattern

variable {line : List Char} {ls ls' : List (List Char)} {r r' : Reader}

/-! ## Lines that say nothing -/

/-- The line says nothing: it is empty, a comment, or neither documentation nor an entry. -/
def IsIdle (line : List Char) : Prop :=
  line = [] ∨ (trimStart line).head? = some '#' ∨
    ¬ ['/', '/'] <+: line ∧ ∀ key kind value, ¬ EntryLine line key kind value

/-- A list with more of some kind of elements put in anywhere. -/
inductive Padded {α : Type} (p : α → Prop) : List α → List α → Prop
  | nil : Padded p [] []
  | keep {a : α} {as bs : List α} : Padded p as bs → Padded p (a :: as) (a :: bs)
  | insert {a : α} {as bs : List α} : p a → Padded p as bs → Padded p as (a :: bs)

/-- A line that says nothing is nothing to the reader. -/
theorem ofLine_of_isIdle (hn : '\n' ∉ line) (h : IsIdle line) :
    Record.ofLine line = .blank ∨ Record.ofLine line = .malformed := by
  rcases h with rfl | hhash | ⟨hslashes, hentry⟩
  · exact .inl rfl
  · left
    rw [Record.ofLine, hhash, if_pos (by simp)]
  · have hdoc : ∀ text, Record.ofLine line ≠ .doc text := fun text htext =>
      hslashes ⟨text, (dropPrefix?_eq_some_iff.1 (ofLine_eq_doc_iff.1 htext)).symm⟩
    have hassign : ¬ (Record.ofLine line).isAssignment = true := by
      rw [isAssignment_ofLine_iff hn]
      rintro ⟨-, key, kind, value, h⟩
      exact hentry key kind value h
    cases hl : Record.ofLine line with
    | blank => exact .inl rfl
    | malformed => exact .inr rfl
    | doc text => exact absurd hl (hdoc text)
    | _ =>
      rw [hl] at hassign
      exact absurd rfl hassign

/-! ## Readers that differ in their warnings -/

/-- The reader without its warnings. -/
def Reader.quiet (r : Reader) : Reader := { r with warnings := [] }

/-- Warnings do not decide what is read. -/
theorem quiet_add (h : r.quiet = r'.quiet) : (r.add line).quiet = (r'.add line).quiet := by
  obtain ⟨entries, advanced, docs, warnings⟩ := r
  obtain ⟨entries', advanced', docs', warnings'⟩ := r'
  cases h
  unfold Reader.add
  cases Record.ofLine line <;> rfl

/-- **A line that says nothing changes nothing** but the warnings. -/
theorem quiet_add_of_isIdle (hn : '\n' ∉ line) (h : IsIdle line) :
    (r.add line).quiet = r.quiet := by
  unfold Reader.add
  rcases ofLine_of_isIdle hn h with hl | hl
  · rw [hl]
  · rw [hl]
    rfl

theorem quiet_foldl (h : r.quiet = r'.quiet) :
    (ls.foldl Reader.add r).quiet = (ls.foldl Reader.add r').quiet := by
  induction ls generalizing r r' with
  | nil => exact h
  | cons l ls ih => exact ih (quiet_add h)

/-- **Lines that say nothing may stand anywhere.** -/
theorem quiet_foldl_of_padded (hn : ∀ l ∈ ls', '\n' ∉ l) (h : Padded IsIdle ls ls') :
    (ls'.foldl Reader.add r).quiet = (ls.foldl Reader.add r).quiet := by
  induction h generalizing r with
  | nil => rfl
  | keep _ ih => exact ih fun l hl => hn l (List.mem_cons_of_mem _ hl)
  | insert hidle _ ih =>
    -- the reader is the same as before the line but for its warnings, which nothing depends on
    have hadd := quiet_add_of_isIdle (r := r) (hn _ List.mem_cons_self) hidle
    exact (ih fun l hl => hn l (List.mem_cons_of_mem _ hl)).trans (quiet_foldl hadd)

/-- Empty lines do not even give a warning. -/
theorem foldl_filter_empty :
    (ls.filter (!·.isEmpty)).foldl Reader.add r = ls.foldl Reader.add r := by
  induction ls generalizing r with
  | nil => rfl
  | cons l ls ih =>
    cases l with
    | nil => exact ih
    | cons c l => exact ih

/-! ## The layout of a text -/

/-- The cache of lines, and what there was to warn about. -/
def ofLines (ls : List (List Char)) : Cache × List Warning :=
  let r := ls.foldl Reader.add {}
  ({ entries := mark r.advanced r.entries }, r.warnings)

/-- **A text is read line by line**, whatever ends the lines. -/
theorem parse_joined {ls : List (List Char × LineEnd)} {last : List Char}
    (h : Inline (linesOf ls last)) : parse (joined ls last) = ofLines (linesOf ls last) := by
  have hsame := congrArg (List.foldl Reader.add {}) (filter_universalLines_joined h)
  rw [foldl_filter_empty, foldl_filter_empty] at hsame
  unfold parse ofLines
  rw [hsame]

theorem ofLines_of_padded (hn : ∀ l ∈ ls', '\n' ∉ l) (h : Padded IsIdle ls ls') :
    (ofLines ls').1 = (ofLines ls).1 := by
  have hquiet : (ls'.foldl Reader.add {}).quiet = (ls.foldl Reader.add {}).quiet :=
    quiet_foldl_of_padded hn h
  have hentries : (ls'.foldl Reader.add {}).entries = (ls.foldl Reader.add {}).entries := by
    simpa [Reader.quiet] using congrArg Reader.entries hquiet
  have hadvanced : (ls'.foldl Reader.add {}).advanced = (ls.foldl Reader.add {}).advanced := by
    simpa [Reader.quiet] using congrArg Reader.advanced hquiet
  unfold ofLines
  dsimp only
  rw [hentries, hadvanced]

/-- **The layout of a cache does not matter**: with line ends of any kinds a text is read as with
line feeds only, and with more lines that say nothing, put in anywhere, it has the same entries. -/
theorem layout_does_not_matter {ls : List (List Char × LineEnd)} {last : List Char}
    (h : Inline (linesOf ls last)) :
    parse (joined ls last) = parse (joined (ls.map fun l => (l.1, .lf)) last) ∧
    ∀ (ls' : List (List Char × LineEnd)) (last' : List Char), Inline (linesOf ls' last') →
      Padded IsIdle (linesOf ls last) (linesOf ls' last') →
      (parse (joined ls' last')).1 = (parse (joined ls last)).1 := by
  have hwritten : linesOf (ls.map fun l => (l.1, LineEnd.lf)) last = linesOf ls last := by
    unfold linesOf
    rw [List.map_map]
    rfl
  constructor
  · rw [parse_joined h, parse_joined (by rwa [hwritten]), hwritten]
  · intro ls' last' h' hpadded
    rw [parse_joined h, parse_joined h']
    exact ofLines_of_padded (fun l hl => (h' l hl).1) hpadded

/-- Documentation, an empty line and a mark, with line ends of all kinds. -/
def mixed : List (List Char × LineEnd) :=
  [("//d".toList, .cr), ([], .lf), ("A:BOOL=ON".toList, .crlf), ("A-ADVANCED:BOOL=1".toList, .cr)]

/-- The same with a comment and a line that is no entry. -/
def interspersed : List (List Char × LineEnd) :=
  [("//d".toList, .lf), ("garbage".toList, .cr), ([], .lf), (" # c".toList, .crlf),
    ("A:BOOL=ON".toList, .lf), ("A-ADVANCED:BOOL=1".toList, .crlf)]

theorem isIdle_garbage : IsIdle "garbage".toList := by
  refine .inr (.inr ⟨by decide, fun key kind value h => ?_⟩)
  have hparts := (parts_of_match_iff (by decide)).2 h
  have hnone : entryPattern.match? "garbage".toList = none := by decide +kernel
  rw [hnone] at hparts
  cases hparts

theorem layout_does_not_matter_mixed :
    joined mixed "B:PATH=x".toList = "//d\r\nA:BOOL=ON\r\nA-ADVANCED:BOOL=1\rB:PATH=x".toList ∧
    parse (joined mixed "B:PATH=x".toList) =
      parse "//d\n\nA:BOOL=ON\nA-ADVANCED:BOOL=1\nB:PATH=x".toList ∧
    joined interspersed "B:PATH=x".toList =
      "//d\ngarbage\r\n # c\r\nA:BOOL=ON\nA-ADVANCED:BOOL=1\r\nB:PATH=x".toList ∧
    (parse (joined interspersed "B:PATH=x".toList)).1 =
      (parse (joined mixed "B:PATH=x".toList)).1 := by
  obtain ⟨hsame, hpadded⟩ :=
    layout_does_not_matter (by decide : Inline (linesOf mixed "B:PATH=x".toList))
  refine ⟨by decide, hsame, by decide, hpadded interspersed "B:PATH=x".toList (by decide) ?_⟩
  exact .keep (.insert isIdle_garbage (.keep (.insert (.inr (.inl (by decide)))
    (.keep (.keep (.keep .nil))))))

end Cache

end BuildDiagnostics
