import BuildDiagnostics.Pattern.Basic

/-!
# Matching

A pattern is matched by tables: for each suffix of the text, the reading of what follows at that
suffix. `answers` makes the table of a pattern before what follows from the table of what follows,
so the work is the length of the text times the size of the pattern, however many readings there
are.

`answers_eq` says that a table holds what `Pattern.run` returns at each suffix; `read?_eq_run` says
the same of the reading at the start of a text.
-/

namespace BuildDiagnostics

/-- The text and what is left of it after each of its characters, the longest first. -/
def suffixes (s : List Char) : List (List Char) :=
  s.foldr (fun c ss => (c :: ss.headD []) :: ss) [[]]

theorem suffixes_nil : suffixes [] = [[]] := rfl

theorem suffixes_eq_cons (s : List Char) : suffixes s = s :: (suffixes s).tail := by
  cases s with
  | nil => rfl
  | cons c s =>
    have h : (suffixes s).headD [] = s := by
      induction s with
      | nil => rfl
      | cons d s ih => simpa [suffixes] using ih
    simpa [suffixes] using h

theorem suffixes_cons (c : Char) (s : List Char) : suffixes (c :: s) = (c :: s) :: suffixes s := by
  rw [suffixes_eq_cons (c :: s)]
  simp [suffixes]

namespace Pattern

/-- For each suffix of a text, the longest first, what is read there. -/
abbrev Answers := List (Option Reading)

/-- The answers at the suffixes that are `n` characters shorter. -/
def shifted (n : Nat) (ks : Answers) : Answers :=
  ks.drop n ++ List.replicate (min n ks.length) none

/-- The answers of the longest runs of a class before what follows. -/
def longestAnswers (p : Char → Bool) (ss : List (List Char)) (ks : Answers) : Answers :=
  (ss.zip ks).foldr
    (fun x later => (if startsOutside p x.1 then x.2 else (later.headD none).or x.2) :: later) []

/-- The answers of the shortest runs of a class before what follows. -/
def shortestAnswers (p : Char → Bool) (ss : List (List Char)) (ks : Answers) : Answers :=
  (ss.zip ks).foldr
    (fun x later => (if startsOutside p x.1 then x.2 else x.2.or (later.headD none)) :: later) []

/-- The answers of a pattern before what follows, from the suffixes of a text and the answers of
what follows there. -/
def answers : Pattern → List (List Char) → Answers → Answers
  | empty, _, ks => ks
  | one p, ss, ks =>
    ss.zipWith (fun s k => if startsOutside p s then none else k) (shifted 1 ks)
  | text t, ss, ks =>
    ss.zipWith (fun s k => if t.isPrefixOf s then k else none) (shifted t.length ks)
  | most p, ss, ks => longestAnswers p ss ks
  | least p, ss, ks => shortestAnswers p ss ks
  | opt p, ss, ks => (p.answers ss ks).zipWith Option.or ks
  | alt p q, ss, ks => (p.answers ss ks).zipWith Option.or (q.answers ss ks)
  | seq p q, ss, ks => p.answers ss (q.answers ss ks)
  | capture f p, ss, ks =>
    ss.zipWith (fun s k => k.map (.mark (.opened f s)))
      (p.answers ss (ss.zipWith (fun r k => k.map (.mark (.closed f r))) ks))
  | stop, ss, ks => ss.zipWith (fun s k => if s.isEmpty then k else none) ks
  | notBefore p, ss, ks => ss.zipWith (fun s k => if startsOutside p s then k else none) ks

/-- What the pattern reads at each suffix of a text. -/
def readings (p : Pattern) (s : List Char) : Answers :=
  let ss := suffixes s
  p.answers ss (ss.map fun r => some (.start r))

/-- What the pattern reads at the start of the text, if it matches there. -/
def read? (p : Pattern) (s : List Char) : Option Reading := (p.readings s).headD none

/-- The captures of the pattern at the start of the text, if it matches there. -/
def match? (p : Pattern) (s : List Char) : Option Captures := (p.read? s).map Reading.captures

/-- Whether the pattern matches at the start of the text. -/
def accepts (p : Pattern) (s : List Char) : Bool := (p.read? s).isSome

/-- The leftmost match anywhere in the text: what comes before it, and what it reads. -/
def find? (p : Pattern) (s : List Char) : Option (List Char × Reading) :=
  let rs := p.readings s
  ((rs.zipIdx.find? fun x => x.1.isSome).bind fun x => x.1.map fun r => (s.take x.2, r))

/-! ## Answers are what the pattern means -/

theorem length_suffixes (s : List Char) : (suffixes s).length = s.length + 1 := by
  induction s with
  | nil => rfl
  | cons c s ih => simp [suffixes_cons, ih]

theorem getElem?_suffixes (s : List Char) (i : Nat) :
    (suffixes s)[i]? = if i ≤ s.length then some (s.drop i) else none := by
  induction s generalizing i with
  | nil => cases i <;> simp [suffixes_nil]
  | cons c s ih => cases i <;> simp [suffixes_cons, ih]

theorem zipWith_answers (f : List Char → Option Reading → Option Reading) (k : Continuation)
    (ss : List (List Char)) : ss.zipWith f (ss.map k) = ss.map fun s => f s (k s) := by
  rw [List.zipWith_map_right, List.zipWith_self]

theorem shifted_answers (n : Nat) (k : Continuation) (s : List Char) :
    shifted n ((suffixes s).map k) =
      (suffixes s).map fun r => if n ≤ r.length then k (r.drop n) else none := by
  apply List.ext_getElem?
  intro i
  simp only [shifted, List.getElem?_append, List.length_drop, List.length_map, length_suffixes,
    List.getElem?_drop, List.getElem?_map, getElem?_suffixes, List.getElem?_replicate]
  by_cases h : n + i ≤ s.length
  · have h1 : i < s.length + 1 - n := by omega
    have h2 : i ≤ s.length := by omega
    have h3 : n ≤ s.length - i := by omega
    simp [h, h1, h2, h3, Nat.add_comm]
  · have h1 : ¬ i < s.length + 1 - n := by omega
    by_cases h2 : i ≤ s.length
    · have h3 : ¬ n ≤ s.length - i := by omega
      have h4 : i - (s.length + 1 - n) < min n (s.length + 1) := by omega
      simp [h1, h2, h3, h4]
    · have h4 : ¬ i - (s.length + 1 - n) < min n (s.length + 1) := by omega
      simp [h1, h2, h4]

theorem longestAnswers_eq (p : Char → Bool) (k : Continuation) (s : List Char) :
    longestAnswers p (suffixes s) ((suffixes s).map k) = (suffixes s).map (longest p k) := by
  induction s with
  | nil => rfl
  | cons c s ih =>
    rw [suffixes_cons]
    simp only [List.map_cons, longestAnswers, List.zip_cons_cons, List.foldr_cons] at ih ⊢
    rw [ih, suffixes_eq_cons s]
    cases h : p c <;> simp [longest, startsOutside, h]

theorem shortestAnswers_eq (p : Char → Bool) (k : Continuation) (s : List Char) :
    shortestAnswers p (suffixes s) ((suffixes s).map k) = (suffixes s).map (shortest p k) := by
  induction s with
  | nil => rfl
  | cons c s ih =>
    rw [suffixes_cons]
    simp only [List.map_cons, shortestAnswers, List.zip_cons_cons, List.foldr_cons] at ih ⊢
    rw [ih, suffixes_eq_cons s]
    cases h : p c <;> simp [shortest, startsOutside, h]

/-- **Answers are what the pattern means**: at each suffix stands what `run` returns there. -/
theorem answers_eq (p : Pattern) (k : Continuation) (s : List Char) :
    p.answers (suffixes s) ((suffixes s).map k) = (suffixes s).map (p.run k) := by
  induction p generalizing k with
  | empty => rfl
  | one p =>
    rw [answers, shifted_answers, zipWith_answers]
    refine List.map_congr_left fun r _ => ?_
    cases r with
    | nil => rfl
    | cons c r => cases h : p c <;> simp [run, first, startsOutside, h]
  | text t =>
    rw [answers, shifted_answers, zipWith_answers]
    refine List.map_congr_left fun r _ => ?_
    cases h : t.isPrefixOf r with
    | false => simp [run, h]
    | true => simp [run, h, (List.isPrefixOf_iff_prefix.1 h).length_le]
  | most p => exact longestAnswers_eq p k s
  | least p => exact shortestAnswers_eq p k s
  | opt p ih => simp [answers, ih, run, List.zipWith_map, List.zipWith_self]
  | alt p q ihp ihq => simp [answers, ihp, ihq, run, List.zipWith_map, List.zipWith_self]
  | seq p q ihp ihq => rw [answers, ihq, ihp]; rfl
  | capture f p ih => rw [answers, zipWith_answers, ih, zipWith_answers]; rfl
  | stop => rw [answers, zipWith_answers]; rfl
  | notBefore p => rw [answers, zipWith_answers]; rfl

/-- The reading at the start of a text is what `run` returns when nothing more is asked for. -/
theorem read?_eq_run (p : Pattern) (s : List Char) :
    p.read? s = p.run (fun r => some (.start r)) s := by
  rw [read?, readings, answers_eq, suffixes_eq_cons]
  rfl

end Pattern

end BuildDiagnostics
