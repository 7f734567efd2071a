import BuildDiagnostics.Proofs.ConsumerRun

/-!
# Interleavings of the two streams

The two streams of a command are read side by side, and nothing fixes the order in which their lines
reach the consumer. Each stream has a channel of its own, so the order between the streams has no
influence on what either of them hands to `record`; it only decides which of two reports with the
same identity is the first.

* `candidatesOn_congr`: the candidates of a stream depend on the actions on that stream only.
* `mem_identities_performAll`: which identities a run records, from its candidates.
* `interleavings_agree`: two interleavings of the same actions hand over the same diagnostics stream
  by stream, and record the same identities.
-/

namespace BuildDiagnostics.Consumer

variable {c : Consumer}

/-- **A stream's candidates depend on its own actions only.** -/
theorem candidatesOn_congr {s : Stream} {as bs : List (Stream × Action)}
    (h : onStream s as = onStream s bs) : c.candidatesOn s as = c.candidatesOn s bs := by
  rw [candidatesOn_eq, candidatesOn_eq, h]

theorem onStream_append (s : Stream) (as bs : List (Stream × Action)) :
    onStream s (as ++ bs) = onStream s as ++ onStream s bs := by
  simp [onStream]

/-- Taking the other stream away leaves the actions of a stream. -/
theorem onStream_filter (s : Stream) (as : List (Stream × Action)) :
    onStream s (as.filter fun a => a.1 = s) = onStream s as := by
  simp [onStream, List.filter_filter]

/-- A diagnostic is a candidate exactly if it is one of its stream's. -/
theorem mem_candidates (as : List (Stream × Action)) (d : Diagnostic) :
    d ∈ (c.candidates as).map Prod.snd ↔ ∃ s, d ∈ c.candidatesOn s as := by
  unfold candidatesOn
  constructor
  · intro h
    obtain ⟨⟨s, e⟩, he, rfl⟩ := List.mem_map.1 h
    exact ⟨s, List.mem_map.2 ⟨(s, e), List.mem_filter.2 ⟨he, by simp⟩, rfl⟩⟩
  · rintro ⟨s, h⟩
    obtain ⟨x, hx, rfl⟩ := List.mem_map.1 h
    exact List.mem_map.2 ⟨x, (List.mem_filter.1 hx).1, rfl⟩

/-! ## Recorded identities -/

/-- The identities of the recorded diagnostics. -/
def identities (c : Consumer) : List Identity := c.recorded.map Diagnostic.identity

theorem mem_identities_record (c : Consumer) (d : Diagnostic) (x : Identity) :
    (x ∈ (c.record d).identities ↔ x ∈ c.identities ∨ x ∉ c.seen ∧ x = d.identity) ∧
      (x ∈ (c.record d).seen ↔ x ∈ c.seen ∨ x = d.identity) := by
  unfold record
  by_cases h : c.seen.contains d.identity
  · rw [if_pos h]
    have hm : d.identity ∈ c.seen := Std.HashSet.contains_iff_mem.1 h
    refine ⟨⟨.inl, ?_⟩, ⟨.inl, ?_⟩⟩
    · rintro (hx | ⟨hx, rfl⟩)
      · exact hx
      · exact absurd hm hx
    · rintro (hx | rfl)
      · exact hx
      · exact hm
  · rw [if_neg h]
    have hm : d.identity ∉ c.seen := fun hm => h (Std.HashSet.contains_iff_mem.2 hm)
    constructor
    · simp only [identities, List.map_append, List.map_cons, List.map_nil, List.mem_append,
        List.mem_singleton]
      refine or_congr_right ⟨?_, And.right⟩
      rintro rfl
      exact ⟨hm, rfl⟩
    · rw [Std.HashSet.mem_insert, beq_iff_eq, or_comm, eq_comm]

/-- An identity is recorded if it was, or if it is that of a candidate and was not seen before. -/
theorem mem_identities_recordAll (c : Consumer) (ds : List Diagnostic) (x : Identity) :
    x ∈ (c.recordAll ds).identities ↔
      x ∈ c.identities ∨ x ∉ c.seen ∧ x ∈ ds.map Diagnostic.identity := by
  induction ds generalizing c with
  | nil => simp [recordAll]
  | cons d ds ih =>
    have h : x ∈ (c.recordAll (d :: ds)).identities ↔ _ := ih (c.record d)
    obtain ⟨h1, h2⟩ := mem_identities_record c d x
    rw [h, h1, h2, List.map_cons, List.mem_cons]
    by_cases hs : x ∈ c.seen
    · simp only [hs, not_true_eq_false, true_or, false_and, or_false]
    · by_cases hd : x = d.identity
      · simp only [hd, or_true, true_or, and_true, not_true_eq_false, false_and, or_false]
      · simp only [hd, hs, or_false, false_or, and_false, not_false_eq_true, true_and]

theorem mem_identities_performAll (c : Consumer) (as : List (Stream × Action)) (x : Identity) :
    x ∈ (c.performAll as).identities ↔
      x ∈ c.identities ∨
        x ∉ c.seen ∧ ∃ s, ∃ d ∈ c.candidatesOn s as, d.identity = x := by
  have hl := congrArg Prod.fst (ledger_performAll c as)
  have hi : (c.performAll as).identities =
      (c.recordAll ((c.candidates as).map Prod.snd)).identities := by
    unfold identities; rw [show (c.performAll as).recorded = _ from hl]; rfl
  rw [hi, mem_identities_recordAll]
  refine or_congr_right (and_congr_right fun _ => ?_)
  rw [List.mem_map]
  constructor
  · rintro ⟨d, hd, rfl⟩
    obtain ⟨s, hs⟩ := (mem_candidates as d).1 hd
    exact ⟨s, d, hs, rfl⟩
  · rintro ⟨s, d, hd, rfl⟩
    exact ⟨d, (mem_candidates as d).2 ⟨s, hd⟩, rfl⟩

/-- **The order between the streams does not matter.** Two consumers that start alike and are fed
interleavings of the same actions, each run followed by `finish`, hand over the same diagnostics on
each stream, and the same as if the other stream were silent. So they record the same identities. -/
theorem interleavings_agree (c : Consumer) {as bs : List (Stream × Action)}
    (h : ∀ s, onStream s as = onStream s bs) :
    (∀ s, c.candidatesOn s (as ++ ending) = c.candidatesOn s (bs ++ ending) ∧
      c.candidatesOn s (as ++ ending) =
        c.candidatesOn s ((as.filter fun a => a.1 = s) ++ ending)) ∧
    ∀ x, x ∈ (c.performAll as).finish.identities ↔ x ∈ (c.performAll bs).finish.identities := by
  have hsame : ∀ s, c.candidatesOn s (as ++ ending) = c.candidatesOn s (bs ++ ending) := by
    intro s
    apply candidatesOn_congr
    rw [onStream_append, onStream_append, h s]
  refine ⟨fun s => ⟨hsame s, ?_⟩, fun x => ?_⟩
  · apply candidatesOn_congr
    rw [onStream_append, onStream_append, onStream_filter]
  · -- both runs have the same candidates, only in another order
    have hrun : ∀ as, (c.performAll as).finish = c.performAll (as ++ ending) := by
      intro as; rw [finish_eq]; simp [performAll]
    rw [hrun, hrun, mem_identities_performAll, mem_identities_performAll]
    simp only [hsame]

/-- A line of the error stream comes between two lines of the output stream, or after both. -/
theorem interleavings_agree_three_lines :
    let c := Consumer.ofRegistry .builtin
    let first : Stream × Action :=
      (.output, .feed "CMake Warning at CMakeLists.txt:14 (message):".toList)
    let second : Stream × Action := (.output, .feed "  I am a warning!".toList)
    let other : Stream × Action := (.error, .feed "a.c:3:1: error: held by gcc".toList)
    (∀ s, onStream s [first, other, second] = onStream s [first, second, other]) ∧
    (∀ s, c.candidatesOn s ([first, other, second] ++ ending) =
        c.candidatesOn s ([first, second, other] ++ ending) ∧
      c.candidatesOn s ([first, other, second] ++ ending) =
        c.candidatesOn s (([first, other, second].filter fun a => a.1 = s) ++ ending)) ∧
    ∀ x, x ∈ (c.performAll [first, other, second]).finish.identities ↔
      x ∈ (c.performAll [first, second, other]).finish.identities := by
  intro c first second other
  have h : ∀ s, onStream s [first, other, second] = onStream s [first, second, other] := by
    intro s; cases s <;> rfl
  exact ⟨h, interleavings_agree c h⟩

end BuildDiagnostics.Consumer
