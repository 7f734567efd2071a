import BuildDiagnostics.Text.Line
import Mathlib.Data.List.DropRight

/-!
# Trimming and cutting texts

* `trim_of_no_blank`, `mem_trim`, `trim_subset`: trimming takes blanks away and nothing else.
* `trim_append`: text that is added at the end leaves what was trimmed before at the front.
* `trim_append_blank`, `trim_of_blank`: blanks at the end of a text are trimmed away.
* `trim_trim`: trimmed text stays as it is.
* `isBlank_of_trimmed`, `eq_nil_of_trimmed`: it neither starts nor ends with blanks.
* `cut_unique`, `cut_unique_last`, `cut_unique_of_two`, `span_unique`, `span_unique_last`: where a
  list is cut at a separator or at the end of a run.
* `infix_of_not_mem`, `infix_of_cut`: where a part of a list lies.
* `pieces_append`, `pieces_concat`, `not_mem_of_mem_pieces`: a list is cut at its separators and
  nowhere else.
* `records_ended`: parts that are each ended by a separator are read back.
* `cut_induction`: every list is a part without separator, or such a part, a separator and a list.
* `records_append`, `endedRecords_append`: the first record ends at the first separator.
* `lines_ne_nil`: a text that is not empty has a line.
* `not_mem_of_mem_lines`: a line holds no line feed.
* `not_mem_of_mem_universalLines`, `universalLines_of_not_mem`: a text is cut at line ends of any
  kind and nowhere else.
* `dropPrefix?_eq_some_iff`, `dropSuffix?_eq_some_iff`: a text is its beginning and what is left.
-/

namespace BuildDiagnostics.Text

/-! ## Trimming -/

theorem trimEnd_eq (s : List Char) : trimEnd s = s.rdropWhile isBlank := rfl

theorem trimEnd_append (s t : List Char) : trimEnd s <+: trimEnd (s ++ t) := by
  rw [trimEnd_eq, trimEnd_eq]
  induction t using List.reverseRecOn with
  | nil => simp
  | append_singleton t c ih =>
    rw [← List.append_assoc]
    by_cases hc : isBlank c
    · rw [List.rdropWhile_concat_pos _ _ _ hc]; exact ih
    · rw [List.rdropWhile_concat_neg _ _ _ hc, List.append_assoc]
      exact (List.rdropWhile_prefix isBlank s).trans (List.prefix_append s _)

/-- **Trimmed text grows at its end only.** -/
theorem trim_append (s t : List Char) : trim s <+: trim (s ++ t) := by
  unfold trim trimStart
  by_cases hs : s.dropWhile isBlank = []
  · rw [hs]; exact List.nil_prefix
  · rw [List.dropWhile_append, if_neg (by simpa using hs)]
    exact trimEnd_append _ _

/-- Blanks at the end of a text are trimmed away. -/
theorem trim_append_blank (s : List Char) {t : List Char} (h : isBlankLine t = true) :
    trim (s ++ t) = trim s := by
  have hblank : ∀ c ∈ t, isBlank c = true := List.all_eq_true.1 h
  have hend : ∀ u, trimEnd (u ++ t) = trimEnd u := by
    intro u
    unfold trimEnd
    rw [List.reverse_append,
      List.dropWhile_append_of_pos fun c hc => hblank c (List.mem_reverse.1 hc)]
  unfold trim trimStart
  rw [List.dropWhile_append]
  split
  · rename_i hs
    rw [List.dropWhile_eq_nil_iff.2 hblank, List.isEmpty_iff.1 hs]
  · exact hend _

theorem trim_of_blank {s : List Char} (h : isBlankLine s = true) : trim s = [] :=
  trim_append_blank [] h

/-- A text without blanks is trimmed already. -/
theorem trim_of_no_blank {s : List Char} (h : ∀ c ∈ s, isBlank c = false) : trim s = s := by
  have hdrop : ∀ t : List Char, (∀ c ∈ t, isBlank c = false) → t.dropWhile isBlank = t := by
    intro t ht
    cases t with
    | nil => rfl
    | cons c t => rw [List.dropWhile_cons_of_neg (by simp [ht c List.mem_cons_self])]
  unfold trim trimEnd trimStart
  rw [hdrop s h, hdrop s.reverse fun c hc => h c (List.mem_reverse.1 hc), List.reverse_reverse]

/-- Trimming trims all there is to trim. -/
theorem trim_trim (s : List Char) : trim (trim s) = trim s := by
  have hstart : trimStart (trim s) = trim s := by
    refine List.dropWhile_eq_self_iff.2 fun hl => ?_
    -- what is left at the start is what was left there before the end was trimmed
    have hfront : trim s <+: trimStart s := List.rdropWhile_prefix isBlank _
    rw [hfront.getElem hl]
    exact List.dropWhile_get_zero_not isBlank s (hfront.length_le.trans_lt' hl)
  rw [trim, hstart]
  exact List.rdropWhile_idempotent isBlank _

theorem isBlank_of_isSlash {c : Char} (h : isSlash c = true) : isBlank c = false := by
  have hc : c = '/' ∨ c = '\\' := by simpa [isSlash] using h
  rcases hc with rfl | rfl <;> decide

/-- Trimming takes nothing but blanks away. -/
theorem mem_trim {s : List Char} {c : Char} (h : c ∈ s) (hc : isBlank c = false) : c ∈ trim s := by
  have hdrop : ∀ t : List Char, c ∈ t → c ∈ t.dropWhile isBlank := by
    intro t ht
    rw [← List.takeWhile_append_dropWhile (p := isBlank) (l := t)] at ht
    rcases List.mem_append.1 ht with ht | ht
    · rw [List.mem_takeWhile_imp ht] at hc; exact absurd hc (by simp)
    · exact ht
  exact List.mem_reverse.2 (hdrop _ (List.mem_reverse.2 (hdrop s h)))

/-- Trimming adds nothing. -/
theorem trim_subset (s : List Char) : trim s ⊆ s := fun _ hc =>
  (List.dropWhile_suffix isBlank).subset ((List.rdropWhile_prefix isBlank _).subset hc)

/-- Trimmed text starts with no blank. -/
theorem isBlank_of_trimmed {c : Char} {s : List Char} (h : trim (c :: s) = c :: s) :
    isBlank c = false := by
  rw [← Bool.not_eq_true]
  intro hc
  have hstart : trimStart (c :: s) = trimStart s := List.dropWhile_cons_of_pos hc
  have hle : (trim (c :: s)).length ≤ s.length := by
    rw [trim, hstart]
    exact (List.rdropWhile_prefix isBlank _).length_le.trans (List.dropWhile_suffix _).length_le
  rw [h, List.length_cons] at hle
  omega

theorem trimEnd_of_trimmed {s : List Char} (h : trim s = s) : trimEnd s = s := by
  have hstart : trimStart s = s := by
    cases s with
    | nil => rfl
    | cons c s => exact List.dropWhile_cons_of_neg (by simp [isBlank_of_trimmed h])
  rwa [trim, hstart] at h

/-- Trimmed text ends with no blanks. -/
theorem eq_nil_of_trimmed {s t : List Char} (h : trim (s ++ t) = s ++ t)
    (ht : isBlankLine t = true) : t = [] := by
  have hle : (trim s).length ≤ s.length :=
    (List.rdropWhile_prefix isBlank _).length_le.trans (List.dropWhile_suffix _).length_le
  rw [trim_append_blank s ht] at h
  rw [h, List.length_append] at hle
  exact List.length_eq_zero_iff.1 (by omega)

/-- The characters of a line that is not cut any further. -/
theorem isInline_of_not_mem {s : List Char} (h : '\n' ∉ s) : ∀ c ∈ s, isInline c = true := by
  intro c hc
  have hne : c ≠ '\n' := by rintro rfl; exact h hc
  simpa [isInline] using hne

/-! ## Cuts -/

section Cuts

variable {α : Type} {a b : α} {s s' t t' : List α}

/-- **A list is cut at its first separator in one way only.** -/
theorem cut_unique (hs : a ∉ s) (hs' : a ∉ s') (h : s ++ a :: t = s' ++ a :: t') :
    s = s' ∧ t = t' := by
  rcases List.append_eq_append_iff.1 h with ⟨u, rfl, hu⟩ | ⟨u, rfl, hu⟩
  all_goals
    cases u with
    | nil => simpa [eq_comm] using hu
    | cons b u =>
      obtain ⟨rfl, -⟩ := List.cons.inj hu
      simp at hs hs'

/-- **A list is cut in one way at its last separator.** -/
theorem cut_unique_last (ht : a ∉ t) (ht' : a ∉ t') (h : s ++ a :: t = s' ++ a :: t') :
    s = s' ∧ t = t' := by
  have hreverse := congrArg List.reverse h
  simp only [List.reverse_append, List.reverse_cons, List.append_assoc, List.singleton_append]
    at hreverse
  obtain ⟨hr, hl⟩ := cut_unique (fun hmem => ht (List.mem_reverse.1 hmem))
    (fun hmem => ht' (List.mem_reverse.1 hmem)) hreverse
  exact ⟨List.reverse_injective hl, List.reverse_injective hr⟩

/-- A list with two separators, the second one at its end, is cut at the first one if something is
left after the cut. -/
theorem cut_unique_of_two (hs : a ∉ s) (ht : a ∉ t) (ht' : t' ≠ [])
    (h : s ++ a :: (t ++ [a]) = s' ++ a :: t') : s = s' ∧ t ++ [a] = t' := by
  by_cases hs' : a ∈ s'
  · -- a cut at the second separator leaves nothing
    obtain ⟨u, v, rfl, hu⟩ := List.eq_append_cons_of_mem hs'
    rw [List.append_assoc, List.cons_append] at h
    obtain ⟨-, hrest⟩ := cut_unique hs hu h
    obtain ⟨w, c, rfl⟩ := (List.eq_nil_or_concat t').resolve_left ht'
    rw [List.concat_eq_append, ← List.cons_append, ← List.append_assoc] at hrest
    obtain ⟨hrest, -⟩ := List.append_inj' hrest rfl
    exact absurd (by rw [hrest]; simp) ht
  · exact cut_unique hs hs' h

/-- Of two separators only one comes first. -/
theorem cut_ne (hab : a ≠ b) (hs : b ∉ s) (hs' : a ∉ s') : s ++ a :: t ≠ s' ++ b :: t' := by
  intro h
  rcases List.append_eq_append_iff.1 h with ⟨u, rfl, hu⟩ | ⟨u, rfl, hu⟩
  all_goals
    cases u with
    | nil => simp [hab, Ne.symm hab] at hu
    | cons c u =>
      obtain ⟨rfl, -⟩ := List.cons.inj hu
      simp at hs hs'

/-- A run of a class ends in one way only where a character outside of it follows. -/
theorem span_unique {p : α → Bool} (hs : ∀ c ∈ s, p c = true) (hs' : ∀ c ∈ s', p c = true)
    (ha : p a = false) (hb : p b = false) (h : s ++ a :: t = s' ++ b :: t') :
    s = s' ∧ a :: t = b :: t' := by
  have htake : ∀ {u : List α} {c : α} {v : List α}, (∀ x ∈ u, p x = true) → p c = false →
      (u ++ c :: v).takeWhile p = u := by
    intro u c v hu hc
    rw [List.takeWhile_append_of_pos hu, List.takeWhile_cons_of_neg (by simp [hc]),
      List.append_nil]
  have hsame := congrArg (List.takeWhile p) h
  rw [htake hs ha, htake hs' hb] at hsame
  subst hsame
  exact ⟨rfl, List.append_cancel_left h⟩

/-- So it does where a character outside of it comes before. -/
theorem span_unique_last {p : α → Bool} (ht : ∀ c ∈ t, p c = true) (ht' : ∀ c ∈ t', p c = true)
    (ha : p a = false) (hb : p b = false) (h : s ++ a :: t = s' ++ b :: t') :
    s = s' ∧ a = b ∧ t = t' := by
  have hreverse := congrArg List.reverse h
  simp only [List.reverse_append, List.reverse_cons, List.append_assoc, List.singleton_append]
    at hreverse
  obtain ⟨ht, hs⟩ := span_unique (fun c hc => ht c (List.mem_reverse.1 hc))
    (fun c hc => ht' c (List.mem_reverse.1 hc)) ha hb hreverse
  obtain ⟨hab, hs⟩ := List.cons.inj hs
  exact ⟨List.reverse_injective hs, hab, List.reverse_injective ht⟩

/-- A part of a list that starts with something that the front does not have lies behind it. -/
theorem infix_of_not_mem {u : List α} (h : a :: u <:+: s ++ t) (ha : a ∉ s) : a :: u <:+: t := by
  obtain ⟨v, w, hvw⟩ := h
  rw [List.append_assoc] at hvw
  rcases List.append_eq_append_iff.1 hvw with ⟨x, rfl, hx⟩ | ⟨x, -, hx⟩
  · cases x with
    | nil => exact ⟨[], w, by simpa using hx⟩
    | cons b x =>
      obtain ⟨rfl, -⟩ := List.cons.inj hx
      simp at ha
  · exact ⟨x, w, by rw [hx, List.append_assoc]⟩

/-- A separator between two others lies behind the first separator, if that is not followed by the
second of them. -/
theorem infix_of_cut {c : α} (h : [b, a, c] <:+: s ++ a :: t) (hs : a ∉ s) (hb : b ≠ a)
    (ht : t.head? ≠ some c) : [b, a, c] <:+: t := by
  obtain ⟨v, w, hvw⟩ := h
  by_cases hv : a ∈ v
  · obtain ⟨x, y, rfl, hx⟩ := List.eq_append_cons_of_mem hv
    have hcut : x ++ a :: (y ++ [b, a, c] ++ w) = s ++ a :: t := by simpa using hvw
    obtain ⟨-, rfl⟩ := cut_unique hx hs hcut
    exact ⟨y, w, rfl⟩
  · have hvb : a ∉ v ++ [b] := by simp [hv, Ne.symm hb]
    have hcut : (v ++ [b]) ++ a :: (c :: w) = s ++ a :: t := by simpa using hvw
    obtain ⟨-, rfl⟩ := cut_unique hvb hs hcut
    exact absurd rfl ht

end Cuts

/-! ## Cutting -/

section Pieces

variable {α : Type} [BEq α] [LawfulBEq α] {sep : α}

omit [LawfulBEq α] in
theorem pieces_ne_nil (s : List α) : pieces sep s ≠ [] := by
  cases s with
  | nil => simp [pieces]
  | cons a s =>
    unfold pieces
    by_cases ha : a == sep
    · simp [ha]
    · simp only [ha]
      cases pieces sep s <;> simp

omit [LawfulBEq α] in
theorem eq_nil_of_pieces {s : List α} (h : pieces sep s = [[]]) : s = [] := by
  cases s with
  | nil => rfl
  | cons a s =>
    have hne : pieces sep s ≠ [] := pieces_ne_nil s
    obtain ⟨p, ps, hp⟩ := List.exists_cons_of_ne_nil hne
    unfold pieces at h
    rw [hp] at h
    split at h <;> exact absurd h (by simp)

theorem pieces_of_not_mem {s : List α} (h : sep ∉ s) : pieces sep s = [s] := by
  induction s with
  | nil => rfl
  | cons a s ih =>
    have ha : ¬ a = sep := fun e => h (by rw [e]; exact List.mem_cons_self)
    have hs := ih fun hm => h (List.mem_cons_of_mem _ hm)
    simp [pieces, ha, hs]

/-- **The first piece ends at the first separator.** -/
theorem pieces_append {p : List α} (h : sep ∉ p) (s : List α) :
    pieces sep (p ++ sep :: s) = p :: pieces sep s := by
  induction p with
  | nil => simp [pieces]
  | cons a p ih =>
    have ha : ¬ a = sep := fun e => h (by rw [e]; exact List.mem_cons_self)
    have hp := ih fun hm => h (List.mem_cons_of_mem _ hm)
    simp [pieces, ha, hp]

/-- **The last piece starts after the last separator.** -/
theorem pieces_concat {p : List α} (h : sep ∉ p) (s : List α) :
    pieces sep (s ++ sep :: p) = pieces sep s ++ [p] := by
  induction s with
  | nil => simp [pieces, pieces_of_not_mem h]
  | cons a s ih =>
    obtain ⟨q, qs, hq⟩ := List.exists_cons_of_ne_nil (pieces_ne_nil s : pieces sep s ≠ [])
    rw [hq] at ih
    by_cases ha : a = sep
    · simp [pieces, ha, ih, hq]
    · simp [pieces, ha, ih, hq]

theorem not_mem_of_mem_pieces {s p : List α} (h : p ∈ pieces sep s) : sep ∉ p := by
  induction s generalizing p with
  | nil => simp [pieces] at h; simp [h]
  | cons a s ih =>
    unfold pieces at h
    by_cases ha : a == sep
    · rw [if_pos ha] at h
      rcases List.mem_cons.1 h with h | h
      · simp [h]
      · exact ih h
    · rw [if_neg ha] at h
      have hne : ¬ sep = a := fun e => ha (by simp [e])
      cases hp : pieces sep s with
      | nil => exact absurd hp (pieces_ne_nil s)
      | cons q qs =>
        rw [hp] at h ih
        rcases List.mem_cons.1 h with h | h
        · rw [h, List.mem_cons, not_or]; exact ⟨hne, ih List.mem_cons_self⟩
        · exact ih (List.mem_cons_of_mem _ h)

/-- The pieces of parts that are each ended by a separator. -/
theorem pieces_ended (ps : List (List α)) (h : ∀ p ∈ ps, sep ∉ p) :
    pieces sep (ps.flatMap (· ++ [sep])) = ps ++ [[]] := by
  induction ps with
  | nil => rfl
  | cons p ps ih =>
    have hp := ih fun q hq => h q (List.mem_cons_of_mem _ hq)
    rw [List.flatMap_cons, List.append_assoc, List.singleton_append,
      pieces_append (h p List.mem_cons_self), hp, List.cons_append]

/-- **Parts that are each ended by a separator are read back.** -/
theorem records_ended (ps : List (List α)) (h : ∀ p ∈ ps, sep ∉ p) :
    records sep (ps.flatMap (· ++ [sep])) = ps := by
  simp [records, pieces_ended ps h]

variable (sep) in
omit [BEq α] [LawfulBEq α] in
/-- Induction from one separator to the next. -/
@[elab_as_elim]
theorem cut_induction {motive : List α → Prop} (last : ∀ p, sep ∉ p → motive p)
    (cut : ∀ p s, sep ∉ p → motive s → motive (p ++ sep :: s)) (s : List α) : motive s := by
  induction hn : s.length using Nat.strong_induction_on generalizing s with
  | _ n ih =>
    by_cases h : sep ∈ s
    · obtain ⟨p, t, rfl, hp⟩ := List.eq_append_cons_of_mem h
      exact cut p t hp (ih t.length (by simp at hn; omega) t rfl)
    · exact last s h

/-- A list without separator is one record, unless it is empty. -/
theorem records_of_not_mem {s : List α} (h : sep ∉ s) (hne : s ≠ []) : records sep s = [s] := by
  simp [records, pieces_of_not_mem h, hne]

/-- **The first record ends at the first separator.** -/
theorem records_append {p : List α} (h : sep ∉ p) (s : List α) :
    records sep (p ++ sep :: s) = p :: records sep s := by
  obtain ⟨q, qs, hq⟩ := List.exists_cons_of_ne_nil (pieces_ne_nil s : pieces sep s ≠ [])
  unfold records
  rw [pieces_append h, hq]
  simp only [List.getLastD_cons, List.dropLast_cons_cons]
  split <;> rfl

theorem endedRecords_of_not_mem {s : List α} (h : sep ∉ s) (hne : s ≠ []) :
    endedRecords sep s = [s] := by
  induction s with
  | nil => exact absurd rfl hne
  | cons a s ih =>
    have ha : ¬ a = sep := fun e => h (by rw [e]; exact List.mem_cons_self)
    cases s with
    | nil => simp [endedRecords, ha]
    | cons b s =>
      have hs := ih (fun hm => h (List.mem_cons_of_mem _ hm)) (List.cons_ne_nil b s)
      rw [endedRecords, hs]
      simp [ha]

/-- **The first record keeps the separator that ends it.** -/
theorem endedRecords_append {p : List α} (h : sep ∉ p) (s : List α) :
    endedRecords sep (p ++ sep :: s) = (p ++ [sep]) :: endedRecords sep s := by
  induction p with
  | nil => simp [endedRecords]
  | cons a p ih =>
    have ha : ¬ a = sep := fun e => h (by rw [e]; exact List.mem_cons_self)
    have hp := ih fun hm => h (List.mem_cons_of_mem _ hm)
    rw [List.cons_append, endedRecords, hp]
    simp [ha]

end Pieces

section DropLastIf

variable {α : Type} [BEq α] [LawfulBEq α] {a : α} {s : List α}

theorem dropLastIf_concat (a : α) (s : List α) : dropLastIf a (s ++ [a]) = s := by
  simp [dropLastIf]

theorem dropLastIf_of_ne (h : s.getLast? ≠ some a) : dropLastIf a s = s := by
  unfold dropLastIf
  rw [if_neg (by simpa using h)]

theorem dropLastIf_of_not_mem (h : a ∉ s) : dropLastIf a s = s :=
  dropLastIf_of_ne fun e => h (List.mem_of_getLast? e)

end DropLastIf

theorem mem_of_mem_dropLastIf {α : Type} [BEq α] {a b : α} {s : List α}
    (h : b ∈ dropLastIf a s) : b ∈ s := by
  unfold dropLastIf at h
  split at h
  · exact List.dropLast_subset s h
  · exact h

/-- A text that is not empty has a line. -/
theorem lines_ne_nil {s : List Char} (h : s ≠ []) : lines s ≠ [] := by
  have hne : pieces '\n' s ≠ [] := pieces_ne_nil s
  obtain ⟨p, ps, hp⟩ := List.exists_cons_of_ne_nil hne
  unfold lines
  rw [hp]
  cases ps with
  | nil =>
    cases p with
    | nil => exact absurd (eq_nil_of_pieces hp) h
    | cons c p => simp
  | cons q qs =>
    -- the first piece is ended, whatever the last one is
    dsimp only
    split <;> simp

/-- **A line holds no line feed.** -/
theorem not_mem_of_mem_lines {s l : List Char} (h : l ∈ lines s) : '\n' ∉ l := by
  have hended : ∀ l ∈ (pieces '\n' s).dropLast.map (dropLastIf '\r'), '\n' ∉ l := by
    intro l hl hm
    obtain ⟨p, hp, rfl⟩ := List.mem_map.1 hl
    exact not_mem_of_mem_pieces (List.dropLast_subset _ hp) (mem_of_mem_dropLastIf hm)
  unfold lines at h
  dsimp only at h
  split at h
  · exact hended l h
  · rcases List.mem_append.1 h with h | h
    · exact hended l h
    · rw [List.mem_singleton.1 h]
      have hlast : (pieces '\n' s).getLastD [] ∈ pieces '\n' s := by
        cases hp : pieces '\n' s with
        | nil => exact absurd hp (pieces_ne_nil s)
        | cons q qs => rw [List.getLastD_cons]; exact List.getLastD_mem_cons
      exact not_mem_of_mem_pieces hlast

/-- **A part between line ends of any kind holds none.** -/
theorem not_mem_of_mem_universalLines {s l : List Char} (h : l ∈ universalLines s) :
    '\n' ∉ l ∧ '\r' ∉ l := by
  fun_induction universalLines s generalizing l with
  | case1 =>
    rw [List.mem_singleton.1 h]
    simp
  | case2 rest ih =>
    rcases List.mem_cons.1 h with rfl | h
    · simp
    · exact ih h
  | case3 c rest _ hc ih =>
    rcases List.mem_cons.1 h with rfl | h
    · simp
    · exact ih h
  | case4 c rest _ hc hnil ih =>
    rw [List.mem_singleton.1 h, List.mem_singleton, List.mem_singleton]
    simp only [Bool.or_eq_true, decide_eq_true_eq, not_or] at hc
    exact ⟨fun e => hc.2 e.symm, fun e => hc.1 e.symm⟩
  | case5 c rest _ hc p ps hcons ih =>
    rw [hcons] at ih
    rcases List.mem_cons.1 h with rfl | h
    · obtain ⟨hn, hr⟩ := ih List.mem_cons_self
      simp only [Bool.or_eq_true, decide_eq_true_eq, not_or] at hc
      rw [List.mem_cons, List.mem_cons, not_or, not_or]
      exact ⟨⟨fun e => hc.2 e.symm, hn⟩, fun e => hc.1 e.symm, hr⟩
    · exact ih (List.mem_cons_of_mem _ h)

/-- A text without line ends is one line. -/
theorem universalLines_of_not_mem {s : List Char} (hn : '\n' ∉ s) (hr : '\r' ∉ s) :
    universalLines s = [s] := by
  induction s with
  | nil => rfl
  | cons c s ih =>
    rw [List.mem_cons, not_or] at hn hr
    have hc : ¬ (c = '\r' || c = '\n') = true := by
      simp only [Bool.or_eq_true, decide_eq_true_eq, not_or]
      exact ⟨fun e => hr.1 e.symm, fun e => hn.1 e.symm⟩
    rw [universalLines, if_neg hc, ih hn.2 hr.2]
    exact fun _ e _ => hr.1 e.symm

/-! ## Beginnings and endings -/

/-- What is left of a text without its beginning. -/
theorem dropPrefix?_eq_some_iff {t s u : List Char} : dropPrefix? t s = some u ↔ s = t ++ u := by
  induction t generalizing s with
  | nil => exact ⟨fun h => (Option.some.inj h), fun h => congrArg some h⟩
  | cons a t ih =>
    cases s with
    | nil => simp [dropPrefix?]
    | cons c s =>
      rw [dropPrefix?, List.cons_append, List.cons.injEq]
      split
      · rename_i hac
        rw [ih]
        exact ⟨fun h => ⟨hac.symm, h⟩, And.right⟩
      · rename_i hac
        exact ⟨fun h => absurd h (by simp), fun h => absurd h.1.symm hac⟩

/-- What is left of a text without its ending. -/
theorem dropSuffix?_eq_some_iff {t s u : List Char} : dropSuffix? t s = some u ↔ s = u ++ t := by
  unfold dropSuffix?
  constructor
  · intro h
    obtain ⟨v, hv, rfl⟩ := Option.map_eq_some_iff.1 h
    rw [dropPrefix?_eq_some_iff] at hv
    rw [← List.reverse_reverse s, hv, List.reverse_append, List.reverse_reverse]
  · rintro rfl
    rw [Option.map_eq_some_iff]
    exact ⟨u.reverse, dropPrefix?_eq_some_iff.2 List.reverse_append, List.reverse_reverse u⟩

end BuildDiagnostics.Text
