import BuildDiagnostics.Pattern.Match

/-!
# What a pattern can read

`Pattern.run` tries the readings of a pattern in an order and keeps the first that lets the rest
succeed. `Pattern.Reads` says which readings there are, in whatever order: the text before and
after, and the marks of the captures.

* `most1_reads_iff`, `oneOf_reads_iff`: what the two derived patterns can read.
* `run_reads`: what `run` returns is a reading of the pattern, followed by what comes after.
* `match?_reads`, `find?_reads`: the captures of a match are the marks of a reading.
* `match?_of_reads`, `match?_eq_none`: what is captured where there is one reading, or none.
* `shortest_eq_some_iff`, `longest_of_all`, `longest_eq_of_last`: where a shortest run ends, and
  where a longest one does.
* `run_capture_least_iff`: what a shortest run captures.
* `isSome_run_of_reads`, `accepts_iff`: what can be read is found.
* `run_eq_of_reads`, `run_eq_none`: what a run returns where one reading lets what follows succeed,
  or none.
* `exists_mem_of_takes`: a text that a pattern reads has the characters that the pattern asks for.
* `not_mem_of_avoids`, `reads_append_of_isLocal`: what a pattern cannot have read, and where else it
  would read the same.
* `get?_capture`: a capture with none inside has what its pattern has read.
-/

namespace BuildDiagnostics

/-- The reading with more marks before those it has. -/
def Reading.marks (ms : Captures) (x : Reading) : Reading := { x with captures := ms ++ x.captures }

namespace Pattern

/-- The pattern can read the text as far as `r`, with the given marks. -/
def Reads : Pattern → List Char → Captures → List Char → Prop
  | empty, s, ms, r => s = r ∧ ms = []
  | one p, s, ms, r => ∃ c, p c = true ∧ s = c :: r ∧ ms = []
  | text t, s, ms, r => s = t ++ r ∧ ms = []
  | most p, s, ms, r => ∃ t, (∀ c ∈ t, p c = true) ∧ s = t ++ r ∧ ms = []
  | least p, s, ms, r => ∃ t, (∀ c ∈ t, p c = true) ∧ s = t ++ r ∧ ms = []
  | opt p, s, ms, r => p.Reads s ms r ∨ s = r ∧ ms = []
  | alt p q, s, ms, r => p.Reads s ms r ∨ q.Reads s ms r
  | seq p q, s, ms, r => ∃ ms₁ m ms₂, p.Reads s ms₁ m ∧ q.Reads m ms₂ r ∧ ms = ms₁ ++ ms₂
  | capture f p, s, ms, r => ∃ inner, p.Reads s inner r ∧ ms = .opened f s :: inner ++ [.closed f r]
  | stop, s, ms, r => s = [] ∧ r = [] ∧ ms = []
  | notBefore p, s, ms, r => startsOutside p s = true ∧ s = r ∧ ms = []

variable {s t r : List Char} {ms : Captures} {x : Reading} {k : Continuation}

/-- What one or more characters of a class can read. -/
theorem most1_reads_iff {p : Char → Bool} : (most1 p).Reads s ms r ↔
    ∃ t, t ≠ [] ∧ (∀ c ∈ t, p c = true) ∧ s = t ++ r ∧ ms = [] := by
  constructor
  · rintro ⟨_, _, _, ⟨c, hc, rfl, rfl⟩, ⟨t, ht, rfl, rfl⟩, rfl⟩
    exact ⟨c :: t, by simp, List.forall_mem_cons.2 ⟨hc, ht⟩, rfl, rfl⟩
  · rintro ⟨t, hne, ht, rfl, rfl⟩
    obtain ⟨c, u, rfl⟩ := List.exists_cons_of_ne_nil hne
    obtain ⟨hc, hu⟩ := List.forall_mem_cons.1 ht
    exact ⟨[], _, [], ⟨c, hc, rfl, rfl⟩, ⟨u, hu, rfl, rfl⟩, rfl⟩

/-- A run of a class is one character long if the next one is not of the class. -/
theorem run_ends {p : Char → Bool} {b : Char} {u v : List Char} (hne : u ≠ [])
    (hu : ∀ c ∈ u, p c = true) (ht : startsOutside p t = true) (h : b :: t = u ++ v) :
    u = [b] ∧ v = t := by
  obtain ⟨c, u, rfl⟩ := List.exists_cons_of_ne_nil hne
  obtain ⟨rfl, rfl⟩ := List.cons.inj h
  cases u with
  | nil => exact ⟨rfl, rfl⟩
  | cons c u =>
    have hc : p c = true := hu c (by simp)
    simp [startsOutside, hc] at ht

/-- What one or more characters of a class can read where only one stands. -/
theorem most1_reads_one {p : Char → Bool} {b : Char} (ht : startsOutside p t = true)
    (h : (most1 p).Reads (b :: t) ms r) : ms = [] ∧ r = t := by
  obtain ⟨u, hne, hu, hs, rfl⟩ := most1_reads_iff.1 h
  exact ⟨rfl, (run_ends hne hu ht hs).2⟩

/-- What one of several texts can read. -/
theorem oneOf_reads_iff {ws : List String} :
    (oneOf (ws.map fun w => text w.toList)).Reads s ms r ↔
      ∃ w ∈ ws, s = w.toList ++ r ∧ ms = [] := by
  induction ws with
  | nil =>
    constructor
    · rintro ⟨_, hc, -⟩
      cases hc
    · rintro ⟨_, hw, -⟩
      cases hw
  | cons w ws ih =>
    cases ws with
    | nil =>
      simp only [List.mem_singleton, exists_eq_left]
      exact Iff.rfl
    | cons w' ws =>
      constructor
      · rintro (h | h)
        · exact ⟨w, List.mem_cons_self, h⟩
        · obtain ⟨x, hx, h⟩ := ih.1 h
          exact ⟨x, List.mem_cons_of_mem w hx, h⟩
      · rintro ⟨x, hx, h⟩
        rcases List.mem_cons.1 hx with rfl | hx
        · exact .inl h
        · exact .inr (ih.2 ⟨x, hx, h⟩)

/-! ## Soundness -/

theorem longest_reads {p : Char → Bool} (h : longest p k s = some x) :
    ∃ t r, (∀ c ∈ t, p c = true) ∧ s = t ++ r ∧ k r = some x := by
  induction s with
  | nil => exact ⟨[], [], by simp, rfl, h⟩
  | cons c s ih =>
    rw [longest] at h
    split at h
    · rename_i hc
      rcases Option.or_eq_some_iff.1 h with h | ⟨-, h⟩
      · obtain ⟨t, r, ht, rfl, hk⟩ := ih h
        exact ⟨c :: t, r, List.forall_mem_cons.2 ⟨hc, ht⟩, rfl, hk⟩
      · exact ⟨[], c :: s, by simp, rfl, h⟩
    · exact ⟨[], c :: s, by simp, rfl, h⟩

theorem shortest_reads {p : Char → Bool} (h : shortest p k s = some x) :
    ∃ t r, (∀ c ∈ t, p c = true) ∧ s = t ++ r ∧ k r = some x := by
  induction s with
  | nil => exact ⟨[], [], by simp, rfl, h⟩
  | cons c s ih =>
    rw [shortest] at h
    rcases Option.or_eq_some_iff.1 h with h | ⟨-, h⟩
    · exact ⟨[], c :: s, by simp, rfl, h⟩
    · split at h
      · rename_i hc
        obtain ⟨t, r, ht, rfl, hk⟩ := ih h
        exact ⟨c :: t, r, List.forall_mem_cons.2 ⟨hc, ht⟩, rfl, hk⟩
      · exact absurd h (by simp)

/-- **What is returned is a reading**: the pattern reads up to some place, and what follows succeeds
there. -/
theorem run_reads {p : Pattern} (h : p.run k s = some x) :
    ∃ ms r y, p.Reads s ms r ∧ k r = some y ∧ x = y.marks ms := by
  induction p generalizing k s x with
  | empty => exact ⟨[], s, x, ⟨rfl, rfl⟩, h, rfl⟩
  | one p =>
    cases s with
    | nil => exact absurd h (by simp [run, first])
    | cons c s =>
      rw [run, first] at h
      split at h
      · exact ⟨[], s, x, ⟨c, ‹_›, rfl, rfl⟩, h, rfl⟩
      · exact absurd h (by simp)
  | text t =>
    rw [run] at h
    split at h
    · rename_i ht
      obtain ⟨u, rfl⟩ := List.isPrefixOf_iff_prefix.1 ht
      rw [List.drop_left] at h
      exact ⟨[], u, x, ⟨rfl, rfl⟩, h, rfl⟩
    · exact absurd h (by simp)
  | most p =>
    obtain ⟨t, r, ht, hs, hk⟩ := longest_reads h
    exact ⟨[], r, x, ⟨t, ht, hs, rfl⟩, hk, rfl⟩
  | least p =>
    obtain ⟨t, r, ht, hs, hk⟩ := shortest_reads h
    exact ⟨[], r, x, ⟨t, ht, hs, rfl⟩, hk, rfl⟩
  | opt p ih =>
    rcases Option.or_eq_some_iff.1 h with h | ⟨-, h⟩
    · obtain ⟨ms, r, y, hp, hk, hx⟩ := ih h
      exact ⟨ms, r, y, .inl hp, hk, hx⟩
    · exact ⟨[], s, x, .inr ⟨rfl, rfl⟩, h, rfl⟩
  | alt p q ihp ihq =>
    rcases Option.or_eq_some_iff.1 h with h | ⟨-, h⟩
    · obtain ⟨ms, r, y, hp, hk, hx⟩ := ihp h
      exact ⟨ms, r, y, .inl hp, hk, hx⟩
    · obtain ⟨ms, r, y, hq, hk, hx⟩ := ihq h
      exact ⟨ms, r, y, .inr hq, hk, hx⟩
  | seq p q ihp ihq =>
    obtain ⟨ms₁, m, y, hp, hm, rfl⟩ := ihp h
    obtain ⟨ms₂, r, z, hq, hk, rfl⟩ := ihq hm
    exact ⟨ms₁ ++ ms₂, r, z, ⟨ms₁, m, ms₂, hp, hq, rfl⟩, hk,
      by simp [Reading.marks, List.append_assoc]⟩
  | capture f p ih =>
    obtain ⟨y, hy, rfl⟩ := Option.map_eq_some_iff.1 h
    obtain ⟨inner, r, z, hp, hk, rfl⟩ := ih hy
    obtain ⟨w, hw, rfl⟩ := Option.map_eq_some_iff.1 hk
    exact ⟨_, r, w, ⟨inner, hp, rfl⟩, hw, by simp [Reading.marks, Reading.mark]⟩
  | stop =>
    cases s with
    | nil => exact ⟨[], [], x, ⟨rfl, rfl, rfl⟩, h, rfl⟩
    | cons c s => exact absurd h (by simp [run])
  | notBefore p =>
    rw [run] at h
    split at h
    · exact ⟨[], s, x, ⟨‹_›, rfl, rfl⟩, h, rfl⟩
    · exact absurd h (by simp)

/-- **The captures of a match are the marks of a reading.** -/
theorem match?_reads {p : Pattern} (h : p.match? s = some ms) : ∃ r, p.Reads s ms r := by
  obtain ⟨x, hx, rfl⟩ := Option.map_eq_some_iff.1 h
  rw [read?_eq_run] at hx
  obtain ⟨ms, r, y, hp, hy, rfl⟩ := run_reads hx
  cases hy
  exact ⟨r, by simpa [Reading.marks, Reading.start] using hp⟩

theorem match?_eq_none {p : Pattern} (h : ∀ ms r, ¬ p.Reads s ms r) : p.match? s = none := by
  rw [Option.eq_none_iff_forall_ne_some]
  intro ms hms
  obtain ⟨r, hr⟩ := match?_reads hms
  exact h ms r hr

/-- **A match anywhere in the text** is a reading of what is left of the text there. -/
theorem find?_reads {p : Pattern} {t : List Char} (h : p.find? s = some (t, x)) :
    ∃ u, s = t ++ u ∧ p.Reads u x.captures x.rest := by
  unfold find? at h
  obtain ⟨⟨answer, i⟩, hfind, hmap⟩ := Option.bind_eq_some_iff.1 h
  obtain ⟨y, rfl, hy⟩ := Option.map_eq_some_iff.1 hmap
  cases hy
  -- the place of the answer is how much of the text comes before it
  have hget := List.mem_zipIdx_iff_getElem?.1 (List.mem_of_find?_eq_some hfind)
  rw [readings, answers_eq, List.getElem?_map, getElem?_suffixes] at hget
  split at hget
  · obtain ⟨ms, r, z, hp, hz, hx⟩ := run_reads (Option.some.inj hget)
    cases hz
    refine ⟨s.drop i, (List.take_append_drop i s).symm, ?_⟩
    rw [hx]
    simpa [Reading.marks, Reading.start] using hp
  · exact absurd hget (by simp)

/-! ## Characters that a pattern asks for -/

/-- Whether every reading of the pattern takes a character of the class. -/
def takes (q : Char → Bool) : Pattern → Bool
  | text t => t.any q
  | alt p p' => p.takes q && p'.takes q
  | seq p p' => p.takes q || p'.takes q
  | capture _ p => p.takes q
  | _ => false

/-- What a pattern leaves is the end of the text. -/
theorem suffix_of_reads {p : Pattern} (h : p.Reads s ms r) : r <:+ s := by
  induction p generalizing s ms r with
  | empty => exact h.1 ▸ List.suffix_rfl
  | one q =>
    obtain ⟨c, -, rfl, -⟩ := h
    exact List.suffix_cons c r
  | text t =>
    rw [h.1]
    exact List.suffix_append t r
  | most q =>
    obtain ⟨t, -, rfl, -⟩ := h
    exact List.suffix_append t r
  | least q =>
    obtain ⟨t, -, rfl, -⟩ := h
    exact List.suffix_append t r
  | opt p ih =>
    rcases h with h | ⟨rfl, -⟩
    · exact ih h
    · exact List.suffix_rfl
  | alt p q ihp ihq =>
    rcases h with h | h
    · exact ihp h
    · exact ihq h
  | seq p q ihp ihq =>
    obtain ⟨_, m, _, hp, hq, -⟩ := h
    exact (ihq hq).trans (ihp hp)
  | capture f p ih =>
    obtain ⟨_, hp, -⟩ := h
    exact ih hp
  | stop => exact h.1 ▸ h.2.1 ▸ List.suffix_rfl
  | notBefore q => exact h.2.1 ▸ List.suffix_rfl

/-- **A text that is read has what the pattern asks for.** -/
theorem exists_mem_of_takes {q : Char → Bool} {p : Pattern} (ht : p.takes q = true)
    (h : p.Reads s ms r) : ∃ c ∈ s, q c = true := by
  induction p generalizing s ms r with
  | text t =>
    obtain ⟨c, hc, hq⟩ := List.any_eq_true.1 ht
    exact ⟨c, by rw [h.1]; exact List.mem_append_left r hc, hq⟩
  | alt p p' ihp ihp' =>
    obtain ⟨hp, hp'⟩ := Bool.and_eq_true_iff.1 ht
    rcases h with h | h
    · exact ihp hp h
    · exact ihp' hp' h
  | seq p p' ihp ihp' =>
    obtain ⟨_, m, _, hp, hp', -⟩ := h
    rcases Bool.or_eq_true_iff.1 ht with ht | ht
    · exact ihp ht hp
    · obtain ⟨c, hc, hq⟩ := ihp' ht hp'
      exact ⟨c, (suffix_of_reads hp).subset hc, hq⟩
  | capture f p ih =>
    obtain ⟨_, hp, -⟩ := h
    exact ih ht hp
  | _ => exact absurd ht (by simp [takes])

section Lacks

variable {q : Char → Bool} {p : Pattern}

/-- A text without such characters is not matched. -/
theorem match?_of_lacks (ht : p.takes q = true) (hs : ∀ c ∈ s, q c = false) :
    p.match? s = none := by
  refine match?_eq_none fun ms r hr => ?_
  obtain ⟨c, hc, hq⟩ := exists_mem_of_takes ht hr
  rw [hs c hc] at hq
  cases hq

theorem accepts_of_lacks (ht : p.takes q = true) (hs : ∀ c ∈ s, q c = false) :
    p.accepts s = false := by
  have h := match?_of_lacks ht hs
  unfold match? at h
  rw [accepts, Option.map_eq_none_iff.1 h, Option.isSome_none]

theorem find?_of_lacks (ht : p.takes q = true) (hs : ∀ c ∈ s, q c = false) :
    p.find? s = none := by
  rw [Option.eq_none_iff_forall_ne_some]
  rintro ⟨t, x⟩ h
  obtain ⟨u, rfl, hu⟩ := find?_reads h
  obtain ⟨c, hc, hq⟩ := exists_mem_of_takes ht hu
  rw [hs c (List.mem_append_right t hc)] at hq
  cases hq

end Lacks

/-! ## Where a run ends -/

/-- The first place of the text where something holds of what is left there: `t` comes before it,
and `r` is what is left. -/
structure FirstPlace (good : List Char → Prop) (s t r : List Char) : Prop where
  split : s = t ++ r
  holds : good r
  first : ∀ u v, s = u ++ v → good v → t.length ≤ u.length

theorem FirstPlace.congr {good good' : List Char → Prop} {t : List Char}
    (h : ∀ u v, s = u ++ v → (good v ↔ good' v)) :
    FirstPlace good s t r ↔ FirstPlace good' s t r := by
  constructor
  · rintro ⟨hs, hr, hfirst⟩
    exact ⟨hs, (h t r hs).1 hr, fun u v huv hv => hfirst u v huv ((h u v huv).2 hv)⟩
  · rintro ⟨hs, hr, hfirst⟩
    exact ⟨hs, (h t r hs).2 hr, fun u v huv hv => hfirst u v huv ((h u v huv).1 hv)⟩

/-- The first place of a character comes after a text without it. -/
theorem firstPlace_char_iff {c : Char} {t : List Char} :
    FirstPlace (fun v => ∃ w, v = c :: w) s t r ↔ s = t ++ r ∧ c ∉ t ∧ ∃ w, r = c :: w := by
  constructor
  · rintro ⟨rfl, ⟨w, rfl⟩, hfirst⟩
    refine ⟨rfl, fun hc => ?_, w, rfl⟩
    obtain ⟨a, b, rfl⟩ := List.append_of_mem hc
    have hle := hfirst a (c :: (b ++ c :: w)) (by simp) ⟨_, rfl⟩
    simp only [List.length_append, List.length_cons] at hle
    omega
  · rintro ⟨rfl, hc, w, rfl⟩
    refine ⟨rfl, ⟨w, rfl⟩, ?_⟩
    rintro u _ huv ⟨w', rfl⟩
    rcases List.append_eq_append_iff.1 huv with ⟨a, rfl, -⟩ | ⟨a, rfl, ha⟩
    · simp
    · cases a with
      | nil => simp
      | cons d a =>
        obtain ⟨rfl, -⟩ := List.cons.inj ha
        exact absurd (List.mem_append_right u List.mem_cons_self) hc

/-- **A shortest run ends at the first place where what follows succeeds.** -/
theorem shortest_eq_some_iff {p : Char → Bool} :
    shortest p k s = some x ↔ ∃ t r, FirstPlace (fun r => (k r).isSome = true) s t r ∧
      (∀ c ∈ t, p c = true) ∧ k r = some x := by
  induction s with
  | nil =>
    constructor
    · intro h
      rw [shortest] at h
      exact ⟨[], [], ⟨rfl, by rw [h]; rfl, fun _ _ _ _ => Nat.zero_le _⟩, by simp, h⟩
    · rintro ⟨t, r, hplace, -, hk⟩
      obtain ⟨rfl, rfl⟩ := List.append_eq_nil_iff.1 hplace.split.symm
      exact hk
  | cons c s ih =>
    rw [shortest, Option.or_eq_some_iff]
    constructor
    · rintro (h | ⟨hnone, h⟩)
      · exact ⟨[], c :: s, ⟨rfl, by rw [h]; rfl, fun _ _ _ _ => Nat.zero_le _⟩, by simp, h⟩
      · split at h
        · rename_i hc
          obtain ⟨t, r, hplace, ht, hk⟩ := ih.1 h
          refine ⟨c :: t, r, ⟨by rw [hplace.split]; rfl, hplace.holds, ?_⟩,
            List.forall_mem_cons.2 ⟨hc, ht⟩, hk⟩
          intro u v huv hv
          cases u with
          | nil =>
            rw [List.nil_append] at huv
            rw [← huv, hnone] at hv
            exact absurd hv (by simp)
          | cons d u =>
            rw [List.cons_append] at huv
            exact Nat.succ_le_succ (hplace.first u v (List.cons.inj huv).2 hv)
        · exact absurd h (by simp)
    · rintro ⟨t, r, hplace, ht, hk⟩
      cases t with
      | nil =>
        left
        rw [hplace.split]
        exact hk
      | cons d t =>
        obtain ⟨rfl, rfl⟩ := List.cons.inj hplace.split
        obtain ⟨hc, ht⟩ := List.forall_mem_cons.1 ht
        have hlater : FirstPlace (fun r => (k r).isSome = true) (t ++ r) t r :=
          ⟨rfl, hplace.holds, fun u v huv hv => Nat.le_of_succ_le_succ
            (hplace.first (c :: u) v (congrArg (List.cons c) huv) hv)⟩
        right
        refine ⟨?_, by rw [if_pos hc]; exact ih.2 ⟨t, r, hlater, ht, hk⟩⟩
        rw [← Option.not_isSome_iff_eq_none]
        intro hnow
        exact absurd (hplace.first [] _ rfl hnow) (by simp)

theorem run_text_eq_some_iff {t : List Char} :
    (text t).run k s = some x ↔ ∃ r, s = t ++ r ∧ k r = some x := by
  rw [run]
  constructor
  · intro h
    split at h
    · rename_i ht
      obtain ⟨r, rfl⟩ := List.isPrefixOf_iff_prefix.1 ht
      rw [List.drop_left] at h
      exact ⟨r, rfl, h⟩
    · exact absurd h (by simp)
  · rintro ⟨r, rfl, h⟩
    rw [if_pos (List.isPrefixOf_iff_prefix.2 (List.prefix_append t r)), List.drop_left]
    exact h

/-- **What a shortest run captures** is what comes before that place. -/
theorem run_capture_least_iff {f : Field} {p : Char → Bool} :
    (capture f (least p)).run k s = some x ↔
      ∃ t r y, FirstPlace (fun r => (k r).isSome = true) s t r ∧ (∀ c ∈ t, p c = true) ∧
        k r = some y ∧ x = ⟨.opened f s :: .closed f r :: y.captures, y.rest⟩ := by
  have hgood : ∀ t r, FirstPlace
      (fun r => ((k r).map (Reading.mark (.closed f r))).isSome = true) s t r ↔
        FirstPlace (fun r => (k r).isSome = true) s t r := fun t r =>
    FirstPlace.congr fun u v _ => by rw [Option.isSome_map]
  rw [run, Option.map_eq_some_iff]
  constructor
  · rintro ⟨y, hy, rfl⟩
    rw [run, shortest_eq_some_iff] at hy
    obtain ⟨t, r, hplace, ht, hk⟩ := hy
    obtain ⟨z, hz, rfl⟩ := Option.map_eq_some_iff.1 hk
    exact ⟨t, r, z, (hgood t r).1 hplace, ht, hz, rfl⟩
  · rintro ⟨t, r, y, hplace, ht, hk, rfl⟩
    refine ⟨⟨.closed f r :: y.captures, y.rest⟩, ?_, rfl⟩
    rw [run, shortest_eq_some_iff]
    exact ⟨t, r, (hgood t r).2 hplace, ht, by rw [hk]; rfl⟩

/-- A run of the class goes to the end of the text if it can and if that is what follows asks. -/
theorem longest_of_all {p : Char → Bool} (hs : ∀ c ∈ s, p c = true) (hk : k [] = some x) :
    longest p k s = some x := by
  induction s with
  | nil => exact hk
  | cons c s ih =>
    obtain ⟨hc, hs⟩ := List.forall_mem_cons.1 hs
    rw [longest, if_pos hc, ih hs]
    rfl

/-! ## Completeness -/

variable {p : Pattern} {c : Char}

theorem isSome_longest {q : Char → Bool} (ht : ∀ c ∈ t, q c = true) (hk : (k r).isSome = true) :
    (longest q k (t ++ r)).isSome = true := by
  induction t with
  | nil =>
    rw [List.nil_append]
    cases r with
    | nil => exact hk
    | cons c r =>
      rw [longest]
      split
      · rw [Option.isSome_or, hk, Bool.or_true]
      · exact hk
  | cons c t ih =>
    obtain ⟨hc, ht⟩ := List.forall_mem_cons.1 ht
    rw [List.cons_append, longest, if_pos hc, Option.isSome_or, ih ht, Bool.true_or]

theorem isSome_shortest {q : Char → Bool} (ht : ∀ c ∈ t, q c = true)
    (hk : (k r).isSome = true) : (shortest q k (t ++ r)).isSome = true := by
  induction t with
  | nil =>
    rw [List.nil_append]
    cases r with
    | nil => exact hk
    | cons c r => rw [shortest, Option.isSome_or, hk, Bool.true_or]
  | cons c t ih =>
    obtain ⟨hc, ht⟩ := List.forall_mem_cons.1 ht
    rw [List.cons_append, shortest, Option.isSome_or, if_pos hc, ih ht, Bool.or_true]

/-- **What can be read is found**: where what follows succeeds after a reading, the run succeeds. -/
theorem isSome_run_of_reads (h : p.Reads s ms r) (hk : (k r).isSome = true) :
    (p.run k s).isSome = true := by
  induction p generalizing k s ms r with
  | empty => exact h.1 ▸ hk
  | one q =>
    obtain ⟨c, hc, rfl, -⟩ := h
    rw [run, first, if_pos hc]
    exact hk
  | text t =>
    obtain ⟨x, hx⟩ := Option.isSome_iff_exists.1 hk
    rw [run_text_eq_some_iff.2 ⟨r, h.1, hx⟩]
    rfl
  | most q =>
    obtain ⟨t, ht, rfl, -⟩ := h
    exact isSome_longest ht hk
  | least q =>
    obtain ⟨t, ht, rfl, -⟩ := h
    exact isSome_shortest ht hk
  | opt p ih =>
    rw [run, Option.isSome_or]
    rcases h with h | ⟨rfl, -⟩
    · rw [ih h hk, Bool.true_or]
    · rw [hk, Bool.or_true]
  | alt p q ihp ihq =>
    rw [run, Option.isSome_or]
    rcases h with h | h
    · rw [ihp h hk, Bool.true_or]
    · rw [ihq h hk, Bool.or_true]
  | seq p q ihp ihq =>
    obtain ⟨_, m, _, hp, hq, -⟩ := h
    exact ihp hp (ihq hq hk)
  | capture f p ih =>
    obtain ⟨_, hp, -⟩ := h
    rw [run, Option.isSome_map]
    exact ih hp (by rw [Option.isSome_map]; exact hk)
  | stop =>
    obtain ⟨rfl, rfl, -⟩ := h
    exact hk
  | notBefore q =>
    obtain ⟨hq, rfl, -⟩ := h
    rw [run, if_pos hq]
    exact hk

/-- **Where one reading lets what follows succeed**, it is the one that is kept. -/
theorem run_eq_of_reads (h : p.Reads s ms r) (hk : k r = some x)
    (hall : ∀ ms' r', p.Reads s ms' r' → (k r').isSome = true → ms' = ms ∧ r' = r) :
    p.run k s = some (x.marks ms) := by
  have hsome : (k r).isSome = true := by rw [hk]; rfl
  obtain ⟨y, hy⟩ := Option.isSome_iff_exists.1 (isSome_run_of_reads h hsome)
  obtain ⟨ms', r', z, hp, hz, rfl⟩ := run_reads hy
  obtain ⟨rfl, rfl⟩ := hall ms' r' hp (by rw [hz]; rfl)
  rw [hy, Option.some.inj (hz.symm.trans hk)]

theorem run_eq_none (h : ∀ ms r, p.Reads s ms r → k r = none) : p.run k s = none := by
  rw [Option.eq_none_iff_forall_ne_some]
  intro x hx
  obtain ⟨ms, r, y, hp, hy, -⟩ := run_reads hx
  rw [h ms r hp] at hy
  cases hy

/-- **A longest run ends at the last place where what follows succeeds.** -/
theorem longest_eq_of_last {q : Char → Bool} (ht : ∀ c ∈ t, q c = true) (hk : k r = some x)
    (hlast : ∀ u v, u ≠ [] → (∀ c ∈ u, q c = true) → r = u ++ v → k v = none) :
    longest q k (t ++ r) = some x := by
  induction t with
  | nil =>
    have hsome : (k r).isSome = true := by rw [hk]; rfl
    obtain ⟨y, hy⟩ := Option.isSome_iff_exists.1 (isSome_longest ht hsome)
    rw [List.nil_append] at hy ⊢
    obtain ⟨u, v, hu, hr, hv⟩ := longest_reads hy
    by_cases hne : u = []
    · rw [hne, List.nil_append] at hr
      rw [hy, ← hv, ← hr, hk]
    · rw [hlast u v hne hu hr] at hv
      cases hv
  | cons c t ih =>
    obtain ⟨hc, ht⟩ := List.forall_mem_cons.1 ht
    rw [List.cons_append, longest, if_pos hc, ih ht]
    rfl

/-- **A pattern matches exactly the texts that it can read.** -/
theorem accepts_iff : p.accepts s = true ↔ ∃ ms r, p.Reads s ms r := by
  unfold accepts
  rw [read?_eq_run]
  constructor
  · intro h
    obtain ⟨x, hx⟩ := Option.isSome_iff_exists.1 h
    obtain ⟨ms, r, -, hp, -⟩ := run_reads hx
    exact ⟨ms, r, hp⟩
  · rintro ⟨ms, r, h⟩
    exact isSome_run_of_reads h rfl

theorem isSome_match? (p : Pattern) (s : List Char) : (p.match? s).isSome = p.accepts s := by
  rw [match?, Option.isSome_map, accepts]

/-- Where every reading has the same marks, these are captured. -/
theorem match?_of_reads (h : p.Reads s ms r) (hall : ∀ ms' r', p.Reads s ms' r' → ms' = ms) :
    p.match? s = some ms := by
  have haccepts := accepts_iff.2 ⟨ms, r, h⟩
  rw [← isSome_match?] at haccepts
  obtain ⟨ms', hms'⟩ := Option.isSome_iff_exists.1 haccepts
  obtain ⟨r', hr'⟩ := match?_reads hms'
  rw [hms', hall ms' r' hr']

/-! ## Text that a pattern reads -/

/-- Whether no reading of the pattern takes the character. -/
def avoids (c : Char) : Pattern → Bool
  | one q | most q | least q => !q c
  | text t => !t.contains c
  | opt p | capture _ p => p.avoids c
  | alt p q | seq p q => p.avoids c && q.avoids c
  | empty | stop | notBefore _ => true

/-- Whether the readings of the pattern do not depend on what is left of the text. -/
def isLocal : Pattern → Bool
  | opt p | capture _ p => p.isLocal
  | alt p q | seq p q => p.isLocal && q.isLocal
  | stop | notBefore _ => false
  | _ => true

/-- The two parts of a sequence read one after the other. -/
theorem exists_cut_of_seq {q : Pattern} (h : (seq p q).Reads (t ++ r) ms r) :
    ∃ u v ms₁ ms₂, t = u ++ v ∧ p.Reads (u ++ (v ++ r)) ms₁ (v ++ r) ∧ q.Reads (v ++ r) ms₂ r := by
  obtain ⟨ms₁, m, ms₂, hp, hq, -⟩ := h
  obtain ⟨v, rfl⟩ := suffix_of_reads hq
  obtain ⟨u, hu⟩ := suffix_of_reads hp
  rw [← List.append_assoc, List.append_left_inj] at hu
  refine ⟨u, v, ms₁, ms₂, hu.symm, ?_, hq⟩
  rw [← List.append_assoc, hu]
  exact hp

/-- **A character that is avoided is not read.** -/
theorem not_mem_of_avoids (hc : p.avoids c = true) (h : p.Reads (t ++ r) ms r) : c ∉ t := by
  have hclass : ∀ {q : Char → Bool} {u : List Char}, (!q c) = true → (∀ x ∈ u, q x = true) →
      c ∉ u := by
    intro q u hq hu hmem
    rw [hu c hmem] at hq
    cases hq
  induction p generalizing t r ms with
  | empty =>
    rw [List.append_left_eq_self.1 h.1]
    exact List.not_mem_nil
  | one q =>
    obtain ⟨d, hd, hs, -⟩ := h
    rw [← List.singleton_append, List.append_left_inj] at hs
    exact hs ▸ hclass hc (by simpa using hd)
  | text u =>
    rw [List.append_cancel_right h.1]
    simpa [avoids] using hc
  | most q =>
    obtain ⟨u, hu, hs, -⟩ := h
    rw [List.append_cancel_right hs]
    exact hclass hc hu
  | least q =>
    obtain ⟨u, hu, hs, -⟩ := h
    rw [List.append_cancel_right hs]
    exact hclass hc hu
  | opt p ih =>
    rcases h with h | ⟨hs, -⟩
    · exact ih hc h
    · rw [List.append_left_eq_self.1 hs]
      exact List.not_mem_nil
  | alt p q ihp ihq =>
    obtain ⟨hcp, hcq⟩ := Bool.and_eq_true_iff.1 hc
    rcases h with h | h
    · exact ihp hcp h
    · exact ihq hcq h
  | seq p q ihp ihq =>
    obtain ⟨hcp, hcq⟩ := Bool.and_eq_true_iff.1 hc
    obtain ⟨u, v, _, _, rfl, hp, hq⟩ := exists_cut_of_seq h
    rw [List.mem_append, not_or]
    exact ⟨ihp hcp hp, ihq hcq hq⟩
  | capture f p ih =>
    obtain ⟨_, hp, -⟩ := h
    exact ih hc hp
  | stop =>
    obtain ⟨hs, -, -⟩ := h
    rw [(List.append_eq_nil_iff.1 hs).1]
    exact List.not_mem_nil
  | notBefore q =>
    rw [List.append_left_eq_self.1 h.2.1]
    exact List.not_mem_nil

/-- **What is read may stand before any other text.** -/
theorem reads_append_of_isLocal (hp : p.isLocal = true) (h : p.Reads (t ++ r) ms r)
    (r' : List Char) : ∃ ms', p.Reads (t ++ r') ms' r' := by
  induction p generalizing t r r' ms with
  | empty => exact ⟨[], List.append_left_eq_self.2 (List.append_left_eq_self.1 h.1), rfl⟩
  | one q =>
    obtain ⟨d, hd, hs, -⟩ := h
    rw [← List.singleton_append, List.append_left_inj] at hs
    exact ⟨[], d, hd, by rw [hs]; rfl, rfl⟩
  | text u => exact ⟨[], by rw [List.append_cancel_right h.1], rfl⟩
  | most q =>
    obtain ⟨u, hu, hs, -⟩ := h
    exact ⟨[], u, hu, by rw [List.append_cancel_right hs], rfl⟩
  | least q =>
    obtain ⟨u, hu, hs, -⟩ := h
    exact ⟨[], u, hu, by rw [List.append_cancel_right hs], rfl⟩
  | opt p ih =>
    rcases h with h | ⟨hs, -⟩
    · obtain ⟨ms', h'⟩ := ih hp h r'
      exact ⟨ms', .inl h'⟩
    · exact ⟨[], .inr ⟨List.append_left_eq_self.2 (List.append_left_eq_self.1 hs), rfl⟩⟩
  | alt p q ihp ihq =>
    obtain ⟨hp, hq⟩ := Bool.and_eq_true_iff.1 hp
    rcases h with h | h
    · obtain ⟨ms', h'⟩ := ihp hp h r'
      exact ⟨ms', .inl h'⟩
    · obtain ⟨ms', h'⟩ := ihq hq h r'
      exact ⟨ms', .inr h'⟩
  | seq p q ihp ihq =>
    obtain ⟨hp, hq⟩ := Bool.and_eq_true_iff.1 hp
    obtain ⟨u, v, _, _, rfl, hu, hv⟩ := exists_cut_of_seq h
    obtain ⟨ms₁, h₁⟩ := ihp hp hu (v ++ r')
    obtain ⟨ms₂, h₂⟩ := ihq hq hv r'
    exact ⟨ms₁ ++ ms₂, ms₁, v ++ r', ms₂, by rwa [List.append_assoc], h₂, rfl⟩
  | capture f p ih =>
    obtain ⟨_, h, -⟩ := h
    obtain ⟨ms', h'⟩ := ih hp h r'
    exact ⟨_, ms', h', rfl⟩
  | stop => cases hp
  | notBefore q => cases hp

/-! ## Captures -/

/-- A capture with none inside has what lies between its two places. -/
theorem get?_capture (f : Field) (t r : List Char) (ms : Captures) :
    Captures.get? (.opened f (t ++ r) :: .closed f r :: ms) f = some t := by
  simp [Captures.get?, Captures.restOf?]

end Pattern

end BuildDiagnostics
