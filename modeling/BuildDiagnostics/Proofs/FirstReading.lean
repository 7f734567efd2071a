import BuildDiagnostics.Proofs.Captured
import BuildDiagnostics.Proofs.Text

/-!
# The reading that is tried first

A pattern prefers one of its readings: the first that it tries. `Pattern.Prefers` says which one it
is, whatever follows: where what follows accepts the text that is left, this reading is the one that
is kept. What a sequence prefers is made of what its parts prefer, so a heading is read part by
part.

* `prefers_text`, `prefers_most`, `Prefers.seq`, `Prefers.capture`, ...: what each kind of pattern
  prefers.
* `prefers_of_unique`: a pattern with one reading only prefers it.
* `prefers_of_words`, `prefers_word`: a pattern that spells words, none the beginning of another,
  prefers the one that is there.
* `Prefers.shortest`, `Prefers.longest`: what a run captures that is as short, or as long, as what
  follows allows.
* `capture_of_later`: such a longest run goes at least as far as what follows can be read.
* `isSome_find?_of_reads`: a pattern that can be read somewhere in a text is found.
-/

namespace BuildDiagnostics.Pattern

open Text

variable {p q : Pattern} {f : Field} {s t r m : List Char} {ms ms' : Captures} {k : Continuation}
  {x : Reading} {c : Char} {g : Char → Bool}

/-- The first reading that the pattern tries has read as far as `r`, with the given marks. -/
def Prefers (p : Pattern) (s : List Char) (ms : Captures) (r : List Char) : Prop :=
  ∀ (k : Continuation) (x : Reading), k r = some x → p.run k s = some (x.marks ms)

/-- A reading that is preferred is kept if nothing follows. -/
theorem Prefers.match? (h : p.Prefers s ms r) : p.match? s = some ms := by
  rw [Pattern.match?, read?_eq_run, h _ _ rfl]
  exact congrArg some (List.append_nil ms)

/-- Patterns that run alike, however their parts are grouped, match alike. -/
theorem match?_congr (h : ∀ k s, p.run k s = q.run k s) (s : List Char) :
    p.match? s = q.match? s := by
  rw [Pattern.match?, Pattern.match?, read?_eq_run, read?_eq_run, h]

/-! ## Patterns and their parts -/

theorem prefers_text (t r : List Char) : (text t).Prefers (t ++ r) [] r := fun _ _ hk =>
  run_text_eq_some_iff.2 ⟨r, rfl, hk⟩

theorem prefers_one (hc : g c = true) (r : List Char) :
    (one g).Prefers (c :: r) [] r := by
  intro k x hk
  rw [run, first, if_pos hc]
  exact hk

theorem prefers_stop : stop.Prefers [] [] [] := fun _ _ hk => hk

/-- A longest run ends where the class does. -/
theorem prefers_most (ht : ∀ c ∈ t, g c = true) (hr : startsOutside g r = true) :
    (most g).Prefers (t ++ r) [] r := by
  refine fun k x hk => longest_eq_of_last ht hk fun u v hne hu hs => ?_
  obtain ⟨c, u, rfl⟩ := List.exists_cons_of_ne_nil hne
  rw [hs, List.cons_append, startsOutside, hu c List.mem_cons_self] at hr
  cases hr

/-- A longest run of something else is empty. -/
theorem prefers_most_none (hs : startsOutside g s = true) : (most g).Prefers s [] s :=
  prefers_most (t := []) (by simp) hs

theorem Prefers.seq (hp : p.Prefers s ms m) (hq : q.Prefers m ms' r) :
    (p ++ q).Prefers s (ms ++ ms') r := by
  intro k x hk
  have hrun := hp (q.run k) _ (hq k x hk)
  refine hrun.trans (congrArg some ?_)
  simp [Reading.marks, List.append_assoc]

theorem prefers_most1 (hne : t ≠ []) (ht : ∀ c ∈ t, g c = true)
    (hr : startsOutside g r = true) : (most1 g).Prefers (t ++ r) [] r := by
  obtain ⟨c, t, rfl⟩ := List.exists_cons_of_ne_nil hne
  obtain ⟨hc, ht⟩ := List.forall_mem_cons.1 ht
  exact (prefers_one hc _).seq (prefers_most ht hr)

/-- One blank is all there is of a run of blanks. -/
theorem prefers_blank (hs : startsOutside isBlank s = true) :
    (most1 isBlank).Prefers (' ' :: s) [] s :=
  (prefers_one (by decide) s).seq (prefers_most_none hs)

theorem prefers_gap (hs : startsOutside isBlank s = true) :
    (most isBlank).Prefers (' ' :: s) [] s :=
  prefers_most (t := [' ']) (List.forall_mem_singleton.2 (by decide)) hs

theorem Prefers.capture (f : Field) (hp : p.Prefers s ms r) :
    (capture f p).Prefers s (.opened f s :: ms ++ [.closed f r]) r := by
  intro k x hk
  have hrun := hp (fun r => (k r).map (.mark (.closed f r))) (x.mark (.closed f r))
    (by rw [hk]; rfl)
  rw [run, hrun]
  simp [Reading.marks, Reading.mark]

theorem Prefers.opt (hp : p.Prefers s ms r) : (opt p).Prefers s ms r := by
  intro k x hk
  rw [run, hp k x hk]
  rfl

/-- What cannot be read is left out. -/
theorem prefers_opt_none (hp : ∀ ms r, ¬ p.Reads s ms r) : (Pattern.opt p).Prefers s [] s := by
  intro k x hk
  rw [run, run_eq_none fun ms r h => absurd h (hp ms r)]
  exact hk

theorem Prefers.left (hp : p.Prefers s ms r) : (alt p q).Prefers s ms r := by
  intro k x hk
  rw [run, hp k x hk]
  rfl

theorem Prefers.right (hp : ∀ ms r, ¬ p.Reads s ms r) (hq : q.Prefers s ms r) :
    (alt p q).Prefers s ms r := by
  intro k x hk
  rw [run, run_eq_none fun ms r h => absurd h (hp ms r), Option.none_or]
  exact hq k x hk

/-- Trimmed text starts with no blank. -/
theorem startsOutside_of_trimmed (h : trim s = s) : startsOutside isBlank s = true := by
  cases s with
  | nil => rfl
  | cons c s =>
    rw [startsOutside, isBlank_of_trimmed h]
    rfl

/-- **A pattern with one reading only prefers it.** -/
theorem prefers_of_unique (h : p.Reads s ms r)
    (hall : ∀ ms' r', p.Reads s ms' r' → ms' = ms ∧ r' = r) : p.Prefers s ms r :=
  fun _ _ hk => run_eq_of_reads h hk fun ms' r' h' _ => hall ms' r' h'

/-- A longest run of all that is left of a line. -/
theorem prefers_rest (f : Field) (hs : '\n' ∉ s) :
    (Pattern.capture f (most isInline) ++ stop : Pattern).Prefers s [.opened f s, .closed f []]
      [] := by
  have hall : (most isInline).Prefers s [] [] := by
    simpa using prefers_most (r := []) (isInline_of_not_mem hs) rfl
  exact (hall.capture f).seq prefers_stop

/-! ## Words -/

/-- Whether the pattern captures nothing and reads the same wherever it stands. -/
def isBare : Pattern → Bool
  | opt p => p.isBare
  | alt p q | seq p q => p.isBare && q.isBare
  | capture _ _ | stop | notBefore _ => false
  | _ => true

/-- A pattern without captures leaves no marks. -/
theorem eq_nil_of_isBare (hp : p.isBare = true) (h : p.Reads s ms r) : ms = [] := by
  induction p generalizing s ms r with
  | opt p ih =>
    rcases h with h | ⟨-, rfl⟩
    · exact ih hp h
    · rfl
  | alt p q ihp ihq =>
    obtain ⟨hp, hq⟩ := Bool.and_eq_true_iff.1 hp
    rcases h with h | h
    · exact ihp hp h
    · exact ihq hq h
  | seq p q ihp ihq =>
    obtain ⟨hp, hq⟩ := Bool.and_eq_true_iff.1 hp
    obtain ⟨ms₁, m, ms₂, h₁, h₂, rfl⟩ := h
    rw [ihp hp h₁, ihq hq h₂]
    rfl
  | empty => exact h.2
  | text => exact h.2
  | one => obtain ⟨_, -, -, rfl⟩ := h; rfl
  | most => obtain ⟨_, -, -, rfl⟩ := h; rfl
  | least => obtain ⟨_, -, -, rfl⟩ := h; rfl
  | _ => cases hp

/-- A pattern reads each of the words that it spells. -/
theorem reads_of_mem_words {ws : List (List Char)} (hp : p.isBare = true) (hws : p.words? = some ws)
    (ht : t ∈ ws) (r : List Char) : p.Reads (t ++ r) [] r := by
  induction p generalizing t r ws with
  | empty =>
    cases hws
    rw [List.mem_singleton.1 ht]
    exact ⟨rfl, rfl⟩
  | text u =>
    cases hws
    rw [List.mem_singleton.1 ht]
    exact ⟨rfl, rfl⟩
  | opt p ih =>
    obtain ⟨ps, hps, rfl⟩ := Option.map_eq_some_iff.1 hws
    rcases List.mem_append.1 ht with ht | ht
    · exact .inl (ih hp hps ht r)
    · rw [List.mem_singleton.1 ht]
      exact .inr ⟨rfl, rfl⟩
  | alt p q ihp ihq =>
    obtain ⟨hp, hq⟩ := Bool.and_eq_true_iff.1 hp
    obtain ⟨ps, hps, hws⟩ := Option.bind_eq_some_iff.1 hws
    obtain ⟨qs, hqs, rfl⟩ := Option.map_eq_some_iff.1 hws
    rcases List.mem_append.1 ht with ht | ht
    · exact .inl (ihp hp hps ht r)
    · exact .inr (ihq hq hqs ht r)
  | seq p q ihp ihq =>
    obtain ⟨hp, hq⟩ := Bool.and_eq_true_iff.1 hp
    obtain ⟨ps, hps, hws⟩ := Option.bind_eq_some_iff.1 hws
    obtain ⟨qs, hqs, rfl⟩ := Option.map_eq_some_iff.1 hws
    obtain ⟨u, hu, huv⟩ := List.mem_flatMap.1 ht
    obtain ⟨v, hv, rfl⟩ := List.mem_map.1 huv
    rw [List.append_assoc]
    exact ⟨[], v ++ r, [], ihp hp hps hu _, ihq hq hqs hv r, rfl⟩
  | capture => cases hp
  | stop => cases hp
  | notBefore => cases hp
  | _ => cases hws

/-- No word is the beginning of another. -/
def PrefixFree (ws : List (List Char)) : Prop := ∀ v ∈ ws, ∀ w ∈ ws, v <+: w → v = w

instance (ws : List (List Char)) : Decidable (PrefixFree ws) :=
  inferInstanceAs (Decidable (∀ v ∈ ws, ∀ w ∈ ws, v <+: w → v = w))

/-- Of such words only one starts a text. -/
theorem PrefixFree.unique {ws : List (List Char)} {v w t' : List Char} (h : PrefixFree ws)
    (hv : v ∈ ws) (hw : w ∈ ws) (heq : v ++ t = w ++ t') : v = w ∧ t = t' := by
  have hsame : v = w := by
    rcases List.prefix_or_prefix_of_prefix ⟨t, rfl⟩ ⟨t', heq.symm⟩ with hvw | hwv
    · exact h v hv w hw hvw
    · exact (h w hw v hv hwv).symm
  subst hsame
  exact ⟨rfl, List.append_cancel_left heq⟩

/-- **A pattern that spells words prefers the one that is there.** -/
theorem prefers_of_words {ws : List (List Char)} {w : List Char} (hp : p.isBare = true)
    (hws : p.words? = some ws) (hfree : PrefixFree ws) (hw : w ∈ ws) (r : List Char) :
    p.Prefers (w ++ r) [] r := by
  refine prefers_of_unique (reads_of_mem_words hp hws hw r) fun ms' r' h => ?_
  obtain rfl := eq_nil_of_isBare hp h
  obtain ⟨v, hv⟩ := suffix_of_reads h
  rw [← hv] at h
  exact ⟨rfl, (hfree.unique (mem_words_of_reads hws h) hw hv).2⟩

/-- The same for words that are given as strings. -/
theorem prefers_word {ws : List String} {w : String} (hp : p.isBare = true)
    (hws : p.words? = some (ws.map String.toList)) (hfree : PrefixFree (ws.map String.toList))
    (hw : w ∈ ws) (r : List Char) : p.Prefers (w.toList ++ r) [] r :=
  prefers_of_words hp hws hfree (List.mem_map_of_mem hw) r

/-- A word starts with a character of a kind, if all the words do that it may be. -/
theorem exists_first_of_mem {ws : List String} {w : String}
    (hall : (ws.all fun w => w.toList.head?.any g) = true) (hw : w ∈ ws) :
    ∃ c s, w.toList = c :: s ∧ g c = true := by
  obtain ⟨c, hc, hgood⟩ := (Option.any_eq_true ..).1 (List.all_eq_true.1 hall w hw)
  obtain ⟨s, hs⟩ := List.head?_eq_some_iff.1 hc
  exact ⟨c, s, hs, hgood⟩

/-! ## Runs that depend on what follows -/

/-- **A shortest run ends where what follows can be read**, if that cannot be read earlier. -/
theorem Prefers.shortest (f : Field) (hp : p.Prefers s [] (t ++ m))
    (ht : ∀ c ∈ t, g c = true) (hq : q.Prefers m ms r)
    (hfirst : ∀ u v, t = u ++ v → v ≠ [] → ∀ ms r, ¬ q.Reads (v ++ m) ms r) :
    (Pattern.capture f (p ++ least g) ++ q : Pattern).Prefers s
      (.opened f s :: .closed f m :: ms) r := by
  intro k x hk
  have hrest : q.run k m = some (x.marks ms) := hq k x hk
  have hrun : Pattern.shortest g (fun r => (q.run k r).map (.mark (.closed f r))) (t ++ m) =
      some ((x.marks ms).mark (.closed f m)) := by
    refine shortest_eq_some_iff.2 ⟨t, m, ⟨rfl, by rw [hrest]; rfl, fun u v huv hv => ?_⟩, ht,
      by rw [hrest]; rfl⟩
    rw [Option.isSome_map] at hv
    -- an end that comes earlier leaves some of the run to what follows
    rcases List.append_eq_append_iff.1 huv with ⟨a, rfl, -⟩ | ⟨a, rfl, rfl⟩
    · simp
    · by_cases ha : a = []
      · simp [ha]
      · rw [run_eq_none fun ms r h => absurd h (hfirst u a rfl ha ms r)] at hv
        cases hv
  have hpart := hp (Pattern.shortest g fun r => (q.run k r).map (.mark (.closed f r))) _ hrun
  have hseq : (p ++ least g).run (fun r => (q.run k r).map (.mark (.closed f r))) s =
      some (((x.marks ms).mark (.closed f m)).marks []) := hpart
  have hcapture : (Pattern.capture f (p ++ least g)).run (q.run k) s =
      some ((((x.marks ms).mark (.closed f m)).marks []).mark (.opened f s)) := by
    rw [run, hseq]
    rfl
  exact hcapture

/-- **A longest run ends where what follows can be read**, if that cannot be read later. -/
theorem Prefers.longest (f : Field) (ht : ∀ c ∈ t, g c = true) (hq : q.Prefers m ms r)
    (hlast : ∀ u v, u ≠ [] → m = u ++ v → ∀ ms r, ¬ q.Reads v ms r) :
    (Pattern.capture f (most g) ++ q : Pattern).Prefers (t ++ m)
      (.opened f (t ++ m) :: .closed f m :: ms) r := by
  intro k x hk
  have hrun : Pattern.longest g (fun r => (q.run k r).map (.mark (.closed f r))) (t ++ m) =
      some ((x.marks ms).mark (.closed f m)) := by
    refine longest_eq_of_last ht (by rw [hq k x hk]; rfl) fun u v hne _ hs => ?_
    rw [run_eq_none fun ms r h => absurd h (hlast u v hne hs ms r)]
    rfl
  have hcapture : (Pattern.capture f (most g)).run (q.run k) (t ++ m) =
      some (((x.marks ms).mark (.closed f m)).mark (.opened f (t ++ m))) := by
    rw [run, run, hrun]
    rfl
  exact hcapture

/-- A longest run goes as far as what follows can succeed, or further. -/
theorem longest_of_later (ht : ∀ c ∈ t, g c = true) (hk : (k m).isSome = true) :
    ∃ u v x, t ++ m = u ++ v ∧ t.length ≤ u.length ∧ k v = some x ∧
      Pattern.longest g k (t ++ m) = some x := by
  induction t with
  | nil =>
    obtain ⟨x, hx⟩ := Option.isSome_iff_exists.1 (isSome_longest ht hk)
    obtain ⟨u, v, -, hs, hv⟩ := longest_reads hx
    exact ⟨u, v, x, hs, Nat.zero_le _, hv, hx⟩
  | cons c t ih =>
    obtain ⟨hc, ht⟩ := List.forall_mem_cons.1 ht
    obtain ⟨u, v, x, hs, hlength, hv, hx⟩ := ih ht
    refine ⟨c :: u, v, x, by rw [List.cons_append, hs]; rfl, Nat.succ_le_succ hlength, hv, ?_⟩
    rw [List.cons_append, Pattern.longest, if_pos hc, hx]
    rfl

/-- **What a longest run captures goes as far as what follows can be read**, or further. -/
theorem capture_of_later (f : Field) (ht : ∀ c ∈ t, g c = true) (h : q.Reads m ms r) :
    ∃ cs u, (Pattern.capture f (most g) ++ q : Pattern).match? (t ++ m) = some cs ∧
      cs.get? f = some u ∧ t.length ≤ u.length := by
  let next : Continuation := fun r =>
    (q.run (fun r => some (.start r)) r).map (.mark (.closed f r))
  have hsome : (next m).isSome = true := by
    rw [Option.isSome_map]
    exact isSome_run_of_reads h rfl
  obtain ⟨u, v, x, hs, hlength, hv, hx⟩ := longest_of_later ht hsome
  obtain ⟨y, -, rfl⟩ := Option.map_eq_some_iff.1 hv
  refine ⟨.opened f (t ++ m) :: .closed f v :: y.captures, u, ?_, ?_, hlength⟩
  · have hrun : (Pattern.capture f (most g) ++ q : Pattern).run (fun r => some (.start r))
        (t ++ m) = some ((y.mark (.closed f v)).mark (.opened f (t ++ m))) :=
      congrArg (Option.map _) hx
    rw [Pattern.match?, read?_eq_run, hrun]
    rfl
  · rw [hs]
    exact get?_capture f u v _

/-- **A pattern that can be read somewhere is found.** -/
theorem isSome_find?_of_reads (t : List Char) (h : p.Reads s ms r) :
    (p.find? (t ++ s)).isSome = true := by
  have hplace : (p.readings (t ++ s))[t.length]? = some (p.run (fun r => some (.start r)) s) := by
    rw [readings, answers_eq, List.getElem?_map, getElem?_suffixes, if_pos (by simp),
      List.drop_left]
    rfl
  have hread : (p.run (fun r => some (.start r)) s).isSome = true := isSome_run_of_reads h rfl
  have hfound : ((p.readings (t ++ s)).zipIdx.find? fun x => x.1.isSome).isSome = true :=
    List.find?_isSome.2 ⟨(_, t.length), List.mem_zipIdx_iff_getElem?.2 hplace, hread⟩
  obtain ⟨⟨answer, i⟩, hx⟩ := Option.isSome_iff_exists.1 hfound
  have hanswer := List.find?_some hx
  simp only [find?, hx, Option.bind_some, Option.isSome_map]
  exact hanswer

end BuildDiagnostics.Pattern
