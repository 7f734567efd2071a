import BuildDiagnostics.Proofs.Readings

/-!
# What is captured

What a match has captured under a field is a piece of the text, and it is what a pattern inside one
of the captures of the field has read. So it has no characters that the text does not have, and
where such a pattern spells out a few words it is one of them.

* `mem_of_mem_get`: a character that is captured is one of the text.
* `reads_of_get?`: what is captured is read by a pattern that is captured.
* `isSome_get?_of_needs`: a capture that no reading can do without is there.
* `mem_words_of_reads`: a pattern without classes of characters reads the words that it spells.
* `good_of_spells`: what holds of all the words holds of what is captured.
-/

namespace BuildDiagnostics

/-- The field whose capture begins or ends at the mark. -/
def Mark.field : Mark → Field
  | .opened f _ => f
  | .closed f _ => f

namespace Captures

variable {f : Field} {ms : Captures} {t : List Char}

/-- Nothing is captured under the field. -/
def Lacks (f : Field) (ms : Captures) : Prop := ∀ m ∈ ms, m.field ≠ f

theorem lacks_append {ms' : Captures} (h : Lacks f ms) (h' : Lacks f ms') : Lacks f (ms ++ ms') :=
  fun m hm => (List.mem_append.1 hm).elim (h m) (h' m)

theorem restOf?_append_of_lacks (h : Lacks f ms) (ms' : Captures) :
    restOf? f (ms ++ ms') = restOf? f ms' := by
  induction ms with
  | nil => rfl
  | cons m ms ih =>
    obtain ⟨hm, hms⟩ := List.forall_mem_cons.1 h
    cases m with
    | opened g s => exact ih hms
    | closed g s =>
      have hg : g ≠ f := hm
      rw [List.cons_append, restOf?, if_neg hg]
      exact ih hms

theorem get?_append_of_lacks (h : Lacks f ms) (ms' : Captures) :
    get? (ms ++ ms') f = get? ms' f := by
  induction ms with
  | nil => rfl
  | cons m ms ih =>
    obtain ⟨hm, hms⟩ := List.forall_mem_cons.1 h
    cases m with
    | opened g s =>
      have hg : g ≠ f := hm
      rw [List.cons_append, get?, if_neg hg]
      exact ih hms
    | closed g s => exact ih hms

theorem restOf?_append_of_some (h : restOf? f ms = some t) (ms' : Captures) :
    restOf? f (ms ++ ms') = some t := by
  induction ms with
  | nil => cases h
  | cons m ms ih =>
    cases m with
    | opened g s => exact ih h
    | closed g s =>
      rw [restOf?] at h
      rw [List.cons_append, restOf?]
      split at h
      · rwa [if_pos ‹_›]
      · rw [if_neg ‹_›]
        exact ih h

theorem get?_append_of_some (h : get? ms f = some t) (ms' : Captures) :
    get? (ms ++ ms') f = some t := by
  induction ms with
  | nil => cases h
  | cons m ms ih =>
    cases m with
    | opened g s =>
      rw [get?] at h
      rw [List.cons_append, get?]
      split at h
      · obtain ⟨r, hr, rfl⟩ := Option.map_eq_some_iff.1 h
        rw [if_pos ‹_›, restOf?_append_of_some hr]
        rfl
      · rw [if_neg ‹_›]
        exact ih h
    | closed g s => exact ih h

/-- What is captured is taken from the place where the capture begins. -/
theorem exists_opened_of_get? (h : get? ms f = some t) :
    ∃ s n, .opened f s ∈ ms ∧ t = s.take n := by
  induction ms with
  | nil => cases h
  | cons m ms ih =>
    cases m with
    | opened g s =>
      rw [get?] at h
      split at h
      · rename_i hg
        obtain ⟨r, -, rfl⟩ := Option.map_eq_some_iff.1 h
        exact ⟨s, _, hg ▸ List.mem_cons_self, rfl⟩
      · obtain ⟨s', n, hs, ht⟩ := ih h
        exact ⟨s', n, List.mem_cons_of_mem _ hs, ht⟩
    | closed g s =>
      obtain ⟨s', n, hs, ht⟩ := ih h
      exact ⟨s', n, List.mem_cons_of_mem _ hs, ht⟩

end Captures

namespace Pattern

variable {p : Pattern} {f : Field} {s t r : List Char} {ms : Captures} {c : Char}

/-! ## Characters of the text -/

theorem suffix_of_opened (h : p.Reads s ms r) {u : List Char} (hu : .opened f u ∈ ms) :
    u <:+ s := by
  induction p generalizing s ms r with
  | opt p ih =>
    rcases h with h | ⟨-, rfl⟩
    · exact ih h hu
    · cases hu
  | alt p q ihp ihq =>
    rcases h with h | h
    · exact ihp h hu
    · exact ihq h hu
  | seq p q ihp ihq =>
    obtain ⟨ms₁, m, ms₂, hp, hq, rfl⟩ := h
    rcases List.mem_append.1 hu with hu | hu
    · exact ihp hp hu
    · exact (ihq hq hu).trans (suffix_of_reads hp)
  | capture g p ih =>
    obtain ⟨inner, hp, rfl⟩ := h
    simp only [List.cons_append, List.mem_cons, Mark.opened.injEq, List.mem_append,
      List.not_mem_nil, or_false, reduceCtorEq] at hu
    rcases hu with ⟨-, rfl⟩ | hu
    · exact List.suffix_rfl
    · exact ih hp hu
  | empty => rw [h.2] at hu; cases hu
  | text => rw [h.2] at hu; cases hu
  | one => obtain ⟨_, -, -, rfl⟩ := h; cases hu
  | most => obtain ⟨_, -, -, rfl⟩ := h; cases hu
  | least => obtain ⟨_, -, -, rfl⟩ := h; cases hu
  | stop => rw [h.2.2] at hu; cases hu
  | notBefore => rw [h.2.2] at hu; cases hu

/-- **A character that is captured is one of the text.** -/
theorem mem_of_mem_get (h : p.Reads s ms r) (hc : c ∈ ms.get f) : c ∈ s := by
  unfold Captures.get at hc
  cases hget : ms.get? f with
  | none => rw [hget] at hc; cases hc
  | some t =>
    rw [hget] at hc
    obtain ⟨u, n, hu, rfl⟩ := Captures.exists_opened_of_get? hget
    exact (suffix_of_opened h hu).subset (List.mem_of_mem_take hc)

/-! ## What a capture has read -/

/-- The patterns that are captured under a field. -/
def captured (f : Field) : Pattern → List Pattern
  | capture g p => if g = f then [p] else p.captured f
  | opt p => p.captured f
  | alt p q | seq p q => p.captured f ++ q.captured f
  | _ => []

/-- Whether no capture of the field stands inside another one. -/
def isFlat (f : Field) : Pattern → Bool
  | capture g p => p.isFlat f && (g != f || (p.captured f).isEmpty)
  | opt p => p.isFlat f
  | alt p q | seq p q => p.isFlat f && q.isFlat f
  | _ => true

/-- Whether every reading of the pattern captures something under the field. -/
def needs (f : Field) : Pattern → Bool
  | capture g p => g == f || p.needs f
  | alt p q => p.needs f && q.needs f
  | seq p q => p.needs f || q.needs f
  | _ => false

/-- The marks are those of nothing captured, or of what a captured pattern has read. -/
theorem lacks_or_reads (hf : p.isFlat f = true) (h : p.Reads s ms r) : ms.Lacks f ∨
    ∃ t, ms.get? f = some t ∧ ∃ q ∈ p.captured f, ∃ ms' r', q.Reads (t ++ r') ms' r' := by
  have hnil : Captures.Lacks f [] := fun _ hm => absurd hm List.not_mem_nil
  induction p generalizing s ms r with
  | opt p ih =>
    rcases h with h | ⟨-, rfl⟩
    · exact ih hf h
    · exact .inl hnil
  | alt p q ihp ihq =>
    obtain ⟨hp, hq⟩ := Bool.and_eq_true_iff.1 hf
    rcases h with h | h
    · refine (ihp hp h).imp_right ?_
      rintro ⟨t, ht, u, hu, hread⟩
      exact ⟨t, ht, u, List.mem_append_left _ hu, hread⟩
    · refine (ihq hq h).imp_right ?_
      rintro ⟨t, ht, u, hu, hread⟩
      exact ⟨t, ht, u, List.mem_append_right _ hu, hread⟩
  | seq p q ihp ihq =>
    obtain ⟨hp, hq⟩ := Bool.and_eq_true_iff.1 hf
    obtain ⟨ms₁, m, ms₂, h₁, h₂, rfl⟩ := h
    rcases ihp hp h₁ with hnone | ⟨t, ht, u, hu, hread⟩
    · refine (ihq hq h₂).imp (Captures.lacks_append hnone) ?_
      rintro ⟨t, ht, u, hu, hread⟩
      exact ⟨t, by rwa [Captures.get?_append_of_lacks hnone], u, List.mem_append_right _ hu, hread⟩
    · exact .inr ⟨t, Captures.get?_append_of_some ht ms₂, u, List.mem_append_left _ hu, hread⟩
  | capture g p ih =>
    obtain ⟨hp, hinside⟩ := Bool.and_eq_true_iff.1 hf
    obtain ⟨inner, h, rfl⟩ := h
    by_cases hg : g = f
    · -- nothing inside is captured under the field, so the first end is that of this capture
      subst hg
      right
      have hempty : p.captured g = [] := by simpa using hinside
      have hlacks : inner.Lacks g := by
        rcases ih hp h with hl | ⟨t, -, u, hu, -⟩
        · exact hl
        · rw [hempty] at hu
          cases hu
      obtain ⟨t, rfl⟩ := suffix_of_reads h
      refine ⟨t, ?_, p, by simp [captured], inner, r, h⟩
      rw [List.cons_append, Captures.get?, if_pos rfl, Captures.restOf?_append_of_lacks hlacks,
        Captures.restOf?, if_pos rfl]
      simp
    · have hopened : Captures.Lacks f [.opened g s] := by
        intro m hm
        rw [List.mem_singleton.1 hm]
        exact hg
      have hclosed : Captures.Lacks f [.closed g r] := by
        intro m hm
        rw [List.mem_singleton.1 hm]
        exact hg
      rcases ih hp h with hlacks | ⟨t, ht, u, hu, hread⟩
      · exact .inl (Captures.lacks_append (Captures.lacks_append hopened hlacks) hclosed)
      · refine .inr ⟨t, ?_, u, by rwa [captured, if_neg hg], hread⟩
        rw [List.cons_append, Captures.get?, if_neg hg]
        exact Captures.get?_append_of_some ht _
  | empty => rw [h.2]; exact .inl hnil
  | text => rw [h.2]; exact .inl hnil
  | one => obtain ⟨_, -, -, rfl⟩ := h; exact .inl hnil
  | most => obtain ⟨_, -, -, rfl⟩ := h; exact .inl hnil
  | least => obtain ⟨_, -, -, rfl⟩ := h; exact .inl hnil
  | stop => rw [h.2.2]; exact .inl hnil
  | notBefore => rw [h.2.2]; exact .inl hnil

/-- A pattern without captures of the field captures nothing under it. -/
theorem lacks_of_reads (hf : p.isFlat f = true) (hnone : p.captured f = [])
    (h : p.Reads s ms r) : ms.Lacks f := by
  rcases lacks_or_reads hf h with hl | ⟨t, -, q, hq, -⟩
  · exact hl
  · rw [hnone] at hq
    cases hq

/-- **What is captured is read** by one of the patterns that are captured. -/
theorem reads_of_get? (hf : p.isFlat f = true) (h : p.Reads s ms r) (ht : ms.get? f = some t) :
    ∃ q ∈ p.captured f, ∃ ms' r', q.Reads (t ++ r') ms' r' := by
  rcases lacks_or_reads hf h with hl | ⟨t', ht', hread⟩
  · have hnone := Captures.get?_append_of_lacks hl []
    rw [List.append_nil, ht] at hnone
    cases hnone
  · rw [ht] at ht'
    cases ht'
    exact hread

theorem not_lacks_of_needs (hn : p.needs f = true) (h : p.Reads s ms r) : ¬ ms.Lacks f := by
  induction p generalizing s ms r with
  | alt p q ihp ihq =>
    obtain ⟨hp, hq⟩ := Bool.and_eq_true_iff.1 hn
    rcases h with h | h
    · exact ihp hp h
    · exact ihq hq h
  | seq p q ihp ihq =>
    obtain ⟨ms₁, m, ms₂, h₁, h₂, rfl⟩ := h
    intro hl
    rcases Bool.or_eq_true_iff.1 hn with hp | hq
    · exact ihp hp h₁ fun m hm => hl m (List.mem_append_left _ hm)
    · exact ihq hq h₂ fun m hm => hl m (List.mem_append_right _ hm)
  | capture g p ih =>
    obtain ⟨inner, h, rfl⟩ := h
    intro hl
    rcases Bool.or_eq_true_iff.1 hn with hg | hp
    · exact hl (.opened g s) (by simp) (eq_of_beq hg)
    · exact ih hp h fun m hm => hl m (by simp [hm])
  | _ => exact absurd hn (by simp [needs])

/-- **A capture that no reading can do without is there.** -/
theorem isSome_get?_of_needs (hf : p.isFlat f = true) (hn : p.needs f = true)
    (h : p.Reads s ms r) : (ms.get? f).isSome = true := by
  rcases lacks_or_reads hf h with hl | ⟨t, ht, -⟩
  · exact absurd hl (not_lacks_of_needs hn h)
  · rw [ht]
    rfl

/-! ## Words -/

/-- The words that the pattern spells; none if it reads a class of characters. -/
def words? : Pattern → Option (List (List Char))
  | empty | stop | notBefore _ => some [[]]
  | text t => some [t]
  | opt p => p.words?.map (· ++ [[]])
  | alt p q => p.words?.bind fun ps => q.words?.map fun qs => ps ++ qs
  | seq p q => p.words?.bind fun ps => q.words?.map fun qs => ps.flatMap fun u => qs.map (u ++ ·)
  | capture _ p => p.words?
  | one _ | most _ | least _ => none

/-- **A pattern that spells words reads one of them.** -/
theorem mem_words_of_reads {ws : List (List Char)} (hws : p.words? = some ws)
    (h : p.Reads (t ++ r) ms r) : t ∈ ws := by
  induction p generalizing t r ms ws with
  | empty =>
    cases hws
    rw [List.append_left_eq_self.1 h.1]
    exact List.mem_singleton_self _
  | text u =>
    cases hws
    rw [List.append_cancel_right h.1]
    exact List.mem_singleton_self _
  | opt p ih =>
    obtain ⟨ps, hps, rfl⟩ := Option.map_eq_some_iff.1 hws
    rcases h with h | ⟨hs, -⟩
    · exact List.mem_append_left _ (ih hps h)
    · rw [List.append_left_eq_self.1 hs]
      exact List.mem_append_right _ (List.mem_singleton_self _)
  | alt p q ihp ihq =>
    obtain ⟨ps, hps, hws⟩ := Option.bind_eq_some_iff.1 hws
    obtain ⟨qs, hqs, rfl⟩ := Option.map_eq_some_iff.1 hws
    rcases h with h | h
    · exact List.mem_append_left _ (ihp hps h)
    · exact List.mem_append_right _ (ihq hqs h)
  | seq p q ihp ihq =>
    obtain ⟨ps, hps, hws⟩ := Option.bind_eq_some_iff.1 hws
    obtain ⟨qs, hqs, rfl⟩ := Option.map_eq_some_iff.1 hws
    obtain ⟨u, v, _, _, rfl, hu, hv⟩ := exists_cut_of_seq h
    exact List.mem_flatMap.2 ⟨u, ihp hps hu, List.mem_map.2 ⟨v, ihq hqs hv, rfl⟩⟩
  | capture g p ih =>
    obtain ⟨_, h, -⟩ := h
    exact ih hws h
  | stop =>
    cases hws
    obtain ⟨hs, -, -⟩ := h
    rw [(List.append_eq_nil_iff.1 hs).1]
    exact List.mem_singleton_self _
  | notBefore q =>
    cases hws
    rw [List.append_left_eq_self.1 h.2.1]
    exact List.mem_singleton_self _
  | _ => cases hws

/-- Whether the captures of the field spell words of which something holds. -/
def spells (f : Field) (good : List Char → Bool) (p : Pattern) : Bool :=
  p.isFlat f && (p.captured f).all fun q => q.words?.any fun ws => ws.all good

/-- **What holds of all the words holds of what is captured.** -/
theorem good_of_spells {good : List Char → Bool} (hp : p.spells f good = true)
    (h : p.Reads s ms r) (ht : ms.get? f = some t) : good t = true := by
  obtain ⟨hf, hall⟩ := Bool.and_eq_true_iff.1 hp
  obtain ⟨q, hq, ms', r', hread⟩ := reads_of_get? hf h ht
  obtain ⟨ws, hws, hgood⟩ := (Option.any_eq_true ..).1 (List.all_eq_true.1 hall q hq)
  exact List.all_eq_true.1 hgood t (mem_words_of_reads hws hread)

/-- Where the capture is always there, it holds of what is captured in any match. -/
theorem good_get_of_spells {good : List Char → Bool} (hp : p.spells f good = true)
    (hn : p.needs f = true) (h : p.Reads s ms r) : good (ms.get f) = true := by
  have hf := (Bool.and_eq_true_iff.1 hp).1
  obtain ⟨t, ht⟩ := Option.isSome_iff_exists.1 (isSome_get?_of_needs hf hn h)
  rw [Captures.get, ht]
  exact good_of_spells hp h ht

end Pattern

end BuildDiagnostics
