import BuildDiagnostics.Proofs.Readings
import BuildDiagnostics.Proofs.Text

/-!
# Characters that follow each other

A pattern may ask that a character is followed by certain others: the headings of most grammars ask
for a colon and a blank after it. A text in which that character is followed by other ones only is
not read, wherever it starts.

* `startsOff_of_reads`, `endsWith_of_reads`: the first and the last character that a pattern reads.
* `breaks_of_reads`: two characters that a pattern reads one after the other.
* `match?_of_unbroken`, `accepts_of_unbroken`: a text without such a pair is not matched.
-/

namespace BuildDiagnostics.Pattern

variable {s r : List Char} {ms : Captures} {p : Pattern} {c : Char} {ds : List Char}

/-- Whether every reading of the pattern takes a character, the first one not on the list. -/
def startsOff (ds : List Char) : Pattern → Bool
  | one q => ds.all fun d => !q d
  | text t => t.head?.any fun d => !ds.contains d
  | alt p q => p.startsOff ds && q.startsOff ds
  | seq p _ => p.startsOff ds
  | capture _ p => p.startsOff ds
  | _ => false

/-- Whether every reading of the pattern ends with the character. -/
def endsWith (c : Char) : Pattern → Bool
  | text t => t.getLast? == some c
  | alt p q => p.endsWith c && q.endsWith c
  | seq _ q => q.endsWith c
  | capture _ p => p.endsWith c
  | _ => false

/-- Whether every reading of the pattern takes the character and right after it one that is not on
the list. -/
def breaks (c : Char) (ds : List Char) : Pattern → Bool
  | text t => (t.zip t.tail).any fun x => x.1 == c && !ds.contains x.2
  | alt p q => p.breaks c ds && q.breaks c ds
  | seq p q => p.breaks c ds || q.breaks c ds || p.endsWith c && q.startsOff ds
  | capture _ p => p.breaks c ds
  | _ => false

theorem startsOff_of_reads (hp : p.startsOff ds = true) (h : p.Reads s ms r) :
    ∃ d u, s = d :: u ∧ d ∉ ds := by
  induction p generalizing s ms r with
  | one q =>
    obtain ⟨d, hd, rfl, -⟩ := h
    refine ⟨d, r, rfl, fun hmem => ?_⟩
    have := List.all_eq_true.1 hp d hmem
    rw [hd] at this
    cases this
  | text t =>
    cases t with
    | nil => cases hp
    | cons d t => exact ⟨d, t ++ r, h.1, by simpa [startsOff] using hp⟩
  | alt p q ihp ihq =>
    obtain ⟨hp, hq⟩ := Bool.and_eq_true_iff.1 hp
    rcases h with h | h
    · exact ihp hp h
    · exact ihq hq h
  | seq p q ihp _ =>
    obtain ⟨_, _, _, h, -, -⟩ := h
    exact ihp hp h
  | capture f p ih =>
    obtain ⟨_, h, -⟩ := h
    exact ih hp h
  | _ => cases hp

theorem endsWith_of_reads (hp : p.endsWith c = true) (h : p.Reads s ms r) :
    ∃ t, s = t ++ c :: r := by
  induction p generalizing s ms r with
  | text t =>
    obtain ⟨u, rfl⟩ := List.getLast?_eq_some_iff.1 (eq_of_beq hp)
    exact ⟨u, by rw [h.1, List.append_assoc, List.singleton_append]⟩
  | alt p q ihp ihq =>
    obtain ⟨hp, hq⟩ := Bool.and_eq_true_iff.1 hp
    rcases h with h | h
    · exact ihp hp h
    · exact ihq hq h
  | seq p q _ ihq =>
    obtain ⟨_, m, _, h, hq, -⟩ := h
    obtain ⟨t, rfl⟩ := ihq hp hq
    obtain ⟨u, rfl⟩ := suffix_of_reads h
    exact ⟨u ++ t, (List.append_assoc ..).symm⟩
  | capture f p ih =>
    obtain ⟨_, h, -⟩ := h
    exact ih hp h
  | _ => cases hp

/-- A pair of neighbours in a list. -/
theorem exists_of_mem_zip_tail {α : Type} {a b : α} {t : List α} (h : (a, b) ∈ t.zip t.tail) :
    ∃ u v, t = u ++ a :: b :: v := by
  induction t with
  | nil => cases h
  | cons x t ih =>
    cases t with
    | nil => cases h
    | cons y t =>
      rcases List.mem_cons.1 h with h | h
      · cases h
        exact ⟨[], t, rfl⟩
      · obtain ⟨u, v, hu⟩ := ih h
        exact ⟨x :: u, v, by rw [hu]; rfl⟩

/-- **A text that is read has the pair that the pattern asks for.** -/
theorem breaks_of_reads (hp : p.breaks c ds = true) (h : p.Reads s ms r) :
    ∃ t d u, s = t ++ c :: d :: u ∧ d ∉ ds := by
  induction p generalizing s ms r with
  | text t =>
    obtain ⟨⟨a, d⟩, hmem, had⟩ := List.any_eq_true.1 hp
    obtain ⟨ha, hd⟩ := Bool.and_eq_true_iff.1 had
    obtain ⟨u, v, rfl⟩ := exists_of_mem_zip_tail hmem
    obtain rfl : a = c := eq_of_beq ha
    exact ⟨u, d, v ++ r, by rw [h.1]; simp, by simpa using hd⟩
  | alt p q ihp ihq =>
    obtain ⟨hp, hq⟩ := Bool.and_eq_true_iff.1 hp
    rcases h with h | h
    · exact ihp hp h
    · exact ihq hq h
  | seq p q ihp ihq =>
    obtain ⟨_, m, _, h, hq, -⟩ := h
    rcases Bool.or_eq_true_iff.1 hp with hp | hp
    · rcases Bool.or_eq_true_iff.1 hp with hp | hp
      · exact ihp hp h
      · obtain ⟨t, d, u, rfl, hd⟩ := ihq hp hq
        obtain ⟨v, rfl⟩ := suffix_of_reads h
        exact ⟨v ++ t, d, u, (List.append_assoc ..).symm, hd⟩
    · -- the first part ends with the character, and the second one starts with the other
      obtain ⟨hends, hstarts⟩ := Bool.and_eq_true_iff.1 hp
      obtain ⟨d, u, rfl, hd⟩ := startsOff_of_reads hstarts hq
      obtain ⟨t, rfl⟩ := endsWith_of_reads hends h
      exact ⟨t, d, u, rfl, hd⟩
  | capture f p ih =>
    obtain ⟨_, h, -⟩ := h
    exact ih hp h
  | _ => cases hp

/-- Wherever the character stands in the text, one on the list follows, if any does. -/
def Unbroken (c : Char) (ds s : List Char) : Prop := ∀ t d u, s = t ++ c :: d :: u → d ∈ ds

theorem match?_of_unbroken (hp : p.breaks c ds = true) (hs : Unbroken c ds s) :
    p.match? s = none := by
  refine match?_eq_none fun ms r hr => ?_
  obtain ⟨t, d, u, rfl, hd⟩ := breaks_of_reads hp hr
  exact hd (hs t d u rfl)

theorem accepts_of_unbroken (hp : p.breaks c ds = true) (hs : Unbroken c ds s) :
    p.accepts s = false := by
  rw [← isSome_match?, match?_of_unbroken hp hs, Option.isSome_none]

/-- A text that starts with a character on the list is not matched. -/
theorem match?_of_startsOff (hp : p.startsOff ds = true) (hc : c ∈ ds) (s : List Char) :
    p.match? (c :: s) = none := by
  refine match?_eq_none fun ms r hr => ?_
  obtain ⟨d, u, hs, hd⟩ := startsOff_of_reads hp hr
  exact hd ((List.cons.inj hs).1 ▸ hc)

end BuildDiagnostics.Pattern
