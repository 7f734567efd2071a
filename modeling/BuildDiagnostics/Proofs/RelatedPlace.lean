import BuildDiagnostics.Proofs.ChannelRun
import BuildDiagnostics.Proofs.Openings

/-!
# The related places of a diagnostic

GCC's grammar gathers places in two ways. The lines of a template backtrace come before the heading
they belong to and wait for it; notes, and the remark that a backtrace was cut short, come after the
heading while its diagnostic is held. The two never overlap: while a backtrace waits nothing is
held.

* `State.step_cases`: the five things that a line can do.
* `State.backtrace_history_iff`: which backtrace waits behind a history, and what it has gathered.
* `State.heldSince_of_held`: what is held was opened by a heading, and has the places since.
* `State.related_assembled`: what each finished diagnostic has for related places, and that a
  backtrace goes to one diagnostic at most.
-/

namespace BuildDiagnostics.Gcc

open Text Pattern
open Channel (Input)

/-! ## Lines -/

/-- Whether the line ends whatever is open before it: it is blank, or written by `make` or a
linker. -/
def isBoundary (line : Line) : Bool :=
  isBlankLine line || GnuLd.isMakeLine line || GnuLd.isLinkerPrefixed line

/-- The backtrace that starts with the line, if it is the first line of one. -/
def root? (line : Line) : Option Backtrace :=
  if isBoundary line then none
  else (instantiationPattern.match? line).map fun cs =>
    ⟨String.ofList (cs.get .file), String.ofList (cs.get .message), []⟩

/-- The place that the line adds to a backtrace, if it is a further line of one. -/
def place? (line : Line) : Option Related :=
  if isBoundary line || (root? line).isSome then none
  else (requiredPattern.match? line).map fun cs =>
    ⟨String.ofList (cs.get .file),
      .restOfLine (zeroBased (cs.get .line)) (zeroBased (cs.get .column)),
      String.ofList (cs.get .message)⟩

/-- The line leaves a backtrace waiting: it is neither the first line of another one nor a
heading. -/
def Passes (line : Line) : Prop :=
  root? line = none ∧
    (isBoundary line = true ∨ (place? line).isSome = true ∨ heading? line = none)

/-- The place of a note. -/
def note? (line : Line) : Option Related :=
  (heading? line).bind fun h => if h.isNote then some h.toRelated else none

/-- The place that a line adds to a diagnostic that is held and whose first related place is given:
where there is one and the line remarks that a backtrace was cut short, that place with the remark,
and else the place of a note. -/
def addition? (first : Option Related) (line : Line) : Option Related :=
  match limitPattern.find? line, first with
  | some (_, remark), some r =>
    some { r with message := String.ofList (remark.captures.get .message) }
  | _, _ => note? line

/-- The related places with those that a line adds. -/
def gather (rs : List Related) (line : Line) : List Related :=
  rs ++ (addition? rs.head? line).toList

/-- The diagnostic of a heading, with the places of the backtrace that waited for it and those that
the lines after it add. -/
def Heading.assembled (h : Heading) (b : Option Backtrace) (lines : List Line) : Diagnostic :=
  { h.toDiagnostic b with related := lines.foldl gather (h.toDiagnostic b).related }

theorem Heading.assembled_concat (h : Heading) (b : Option Backtrace) (lines : List Line)
    (line : Line) : h.assembled b (lines ++ [line]) =
      { h.assembled b lines with related := gather (h.assembled b lines).related line } := by
  unfold assembled
  rw [List.foldl_concat]

namespace State

variable {s : State} {d : Diagnostic} {line : Line} {b b' : Backtrace}
  {before before' p xs : List Input}

/-! ## One line -/

theorem root?_eq_none (h : s.instantiation? line = none) : root? line = none := by
  rw [instantiation?, Option.map_eq_none_iff] at h
  rw [root?, h]
  exact ite_self none

/-- A line that adds nothing to a waiting backtrace is no further line of one. -/
theorem place?_of_required?_eq_none (h : s.required? line = none) :
    place? line = none ∨ s.backtrace = none := by
  cases hb : s.backtrace with
  | none => exact .inr rfl
  | some b =>
    cases hm : requiredPattern.match? line with
    | some cs => simp [required?, hb, hm] at h
    | none =>
      rw [place?, hm]
      exact .inl (ite_self none)

theorem place?_of_required? {r : Verdict × State} (hb : isBoundary line = false)
    (hroot : root? line = none) (h : s.required? line = some r) :
    ∃ b place, s.backtrace = some b ∧ place? line = some place ∧
      r = (.claim none, { s with backtrace := some { b with steps := b.steps ++ [place] } }) := by
  unfold required? at h
  split at h
  · rename_i b cs hs hm
    cases h
    refine ⟨b, _, hs, ?_, rfl⟩
    rw [place?, hb, hroot, hm]
    rfl
  · cases h

theorem gather_of_limit? {r : Verdict × State} (h : s.limit? line = some r) :
    ∃ d, s.held = some d ∧
      r = (.claim none, { s with held := some { d with related := gather d.related line } }) := by
  unfold limit? at h
  split at h
  · rename_i before remark d hm hd
    cases hr : d.related with
    | nil => rw [hr] at h; cases h
    | cons place places =>
      rw [hr] at h
      cases h
      refine ⟨d, hd, ?_⟩
      have : addition? (some place) line =
          some { place with message := String.ofList (remark.captures.get .message) } := by
        unfold addition?
        rw [hm]
      rw [hr, gather, List.head?_cons, this, addRelated, hr]
      rfl
  · cases h

theorem addition?_of_limit?_eq_none (hd : s.held = some d) (h : s.limit? line = none) :
    addition? d.related.head? line = note? line := by
  unfold addition?
  cases hm : limitPattern.find? line with
  | none => rfl
  | some found =>
    cases hr : d.related with
    | nil => rfl
    | cons place places => simp [limit?, hm, hd, hr] at h

/-- A heading is added to what is held, or opens a diagnostic. -/
theorem heading_cases {h : Heading} (hh : heading? line = some h) (hl : s.limit? line = none) :
    (∃ d, s.held = some d ∧ s.heading h =
      (.claim none, { s with held := some { d with related := gather d.related line } })) ∨
    (¬(h.isNote && s.held.isSome) ∧
      s.heading h = (.claim s.held, ⟨some (h.toDiagnostic s.backtrace), none⟩)) := by
  unfold heading
  cases hn : h.isNote with
  | false => exact .inr ⟨Bool.false_ne_true, rfl⟩
  | true =>
    cases hd : s.held with
    | none => exact .inr ⟨Bool.false_ne_true, rfl⟩
    | some d =>
      have hnote : note? line = some h.toRelated := by
        rw [note?, hh, Option.bind_some, if_pos hn]
      refine .inl ⟨d, rfl, ?_⟩
      rw [gather, addition?_of_limit?_eq_none hd hl, hnote]
      rfl

/-- A line that is no heading leaves what is held as it is, or finishes it. -/
theorem other_cases (hh : heading? line = none) (hl : s.limit? line = none) :
    (∃ d, s.held = some d ∧ s.other line =
      (.claim none, { s with held := some { d with related := gather d.related line } })) ∨
    ((s.other line).1.finished = s.held ∧ (s.other line).2 = { s with held := none }) := by
  unfold other
  by_cases hc : contextPattern.accepts line
  · rw [if_pos hc]
    exact .inr ⟨rfl, rfl⟩
  rw [if_neg hc]
  by_cases he : s.held.isSome && echoPattern.accepts line
  · rw [if_pos he]
    obtain ⟨d, hd⟩ := Option.isSome_iff_exists.1 (Bool.and_eq_true_iff.1 he).1
    have hsame : gather d.related line = d.related := by
      rw [gather, addition?_of_limit?_eq_none hd hl, note?, hh]
      exact List.append_nil _
    refine .inl ⟨d, hd, ?_⟩
    rw [hsame, ← hd]
  rw [if_neg he]
  split <;> exact .inr ⟨rfl, rfl⟩

/-- The line that opens a diagnostic is a heading that adds nothing to the backtrace that waits. -/
theorem heading_of_opening? (h : s.opening? line = some d) :
    ∃ h, heading? line = some h ∧ isBoundary line = false ∧ root? line = none ∧
      (place? line = none ∨ s.backtrace = none) ∧ d = h.toDiagnostic s.backtrace := by
  unfold opening? at h
  split at h
  · cases h
  rename_i hb
  split at h
  · cases h
  rename_i hanswers
  simp only [Bool.or_eq_true, not_or, Bool.not_eq_true, Option.isSome_eq_false_iff,
    Option.isNone_iff_eq_none] at hanswers
  obtain ⟨⟨hi, hr⟩, -⟩ := hanswers
  cases hh : heading? line with
  | none => rw [hh] at h; cases h
  | some g =>
    simp only [hh, Option.ite_none_left_eq_some, Option.some.injEq] at h
    exact ⟨g, rfl, Bool.not_eq_true _ ▸ hb, root?_eq_none hi, place?_of_required?_eq_none hr,
      h.2.symm⟩

/-- Behind the line that opens a diagnostic, no backtrace waits any more. -/
theorem not_passes_of_opening? (h : s.opening? line = some d) (hb : s.backtrace = some b) :
    ¬Passes line := by
  obtain ⟨g, hh, hbound, -, hplace, -⟩ := heading_of_opening? h
  rw [hb, or_iff_left (Option.some_ne_none b)] at hplace
  rintro ⟨-, hp | hp | hp⟩
  · rw [hbound] at hp; cases hp
  · rw [hplace] at hp; cases hp
  · rw [hh] at hp; cases hp

/-- What a line can do: start a backtrace, add to the one that waits, add to what is held, open a
diagnostic, or finish what is held. -/
theorem step_cases (s : State) (line : Line) :
    (∃ b, root? line = some b ∧ s.step line = (.claim s.held, ⟨none, some b⟩)) ∨
    (∃ b r, root? line = none ∧ s.backtrace = some b ∧ place? line = some r ∧ s.step line =
      (.claim none, { s with backtrace := some { b with steps := b.steps ++ [r] } })) ∨
    (∃ d, root? line = none ∧ s.held = some d ∧ s.step line =
      (.claim none, { s with held := some { d with related := gather d.related line } })) ∨
    (∃ h, heading? line = some h ∧ s.opening? line = some (h.toDiagnostic s.backtrace) ∧
      s.step line = (.claim s.held, ⟨some (h.toDiagnostic s.backtrace), none⟩)) ∨
    (root? line = none ∧ (Passes line ∧ place? line = none ∨ s.backtrace = none) ∧
      (s.step line).1.finished = s.held ∧ (s.step line).2 = { s with held := none }) := by
  -- the branches of the step in their order, each one where those before it do not answer
  by_cases hb : isBoundary line
  · have hstep : s.step line = s.leave := if_pos hb
    rw [hstep]
    exact .inr (.inr (.inr (.inr ⟨if_pos hb, .inl ⟨⟨if_pos hb, .inl hb⟩, if_pos (by simp [hb])⟩,
      rfl, rfl⟩)))
  have hstep : s.step line = _ := if_neg hb
  have hopening : s.opening? line = _ := if_neg hb
  rw [Bool.not_eq_true] at hb
  rw [hstep, hopening]
  cases hi : s.instantiation? line with
  | some r =>
    obtain ⟨cs, hm, rfl⟩ := Option.map_eq_some_iff.1 hi
    refine .inl ⟨⟨String.ofList (cs.get .file), String.ofList (cs.get .message), []⟩, ?_, rfl⟩
    rw [root?, hb, hm]
    rfl
  | none =>
    have hroot := root?_eq_none hi
    cases hr : s.required? line with
    | some r =>
      obtain ⟨b, place, hs, hplace, rfl⟩ := place?_of_required? hb hroot hr
      exact .inr (.inl ⟨b, place, hroot, hs, hplace, rfl⟩)
    | none =>
      cases hl : s.limit? line with
      | some r =>
        obtain ⟨d, hd, rfl⟩ := gather_of_limit? hl
        exact .inr (.inr (.inl ⟨d, hroot, hd, rfl⟩))
      | none =>
        cases hh : heading? line with
        | some h =>
          obtain ⟨d, hd, heq⟩ | ⟨hn, heq⟩ := heading_cases hh hl
          · exact .inr (.inr (.inl ⟨d, hroot, hd, heq⟩))
          · exact .inr (.inr (.inr (.inl ⟨h, rfl, if_neg hn, heq⟩)))
        | none =>
          obtain ⟨d, hd, heq⟩ | ⟨hfinished, heq⟩ := other_cases hh hl
          · exact .inr (.inr (.inl ⟨d, hroot, hd, heq⟩))
          · refine .inr (.inr (.inr (.inr ⟨hroot, ?_, hfinished, heq⟩)))
            exact (place?_of_required?_eq_none hr).imp_left
              fun hplace => ⟨⟨hroot, .inr (.inr hh)⟩, hplace⟩

/-- **While a backtrace waits nothing is held.** -/
theorem step_apart (s : State) (line : Line) (h : s.held = none ∨ s.backtrace = none) :
    (s.step line).2.held = none ∨ (s.step line).2.backtrace = none := by
  obtain ⟨b, -, heq⟩ | ⟨b, r, -, hb, -, heq⟩ | ⟨d, -, hd, heq⟩ | ⟨g, -, -, heq⟩ |
    ⟨-, -, -, heq⟩ := step_cases s line
  · rw [heq]; exact .inl rfl
  · rw [hb, or_iff_left (Option.some_ne_none b)] at h
    rw [heq]; exact .inl h
  · rw [hd, or_iff_right (Option.some_ne_none d)] at h
    rw [heq]; exact .inr h
  · rw [heq]; exact .inr rfl
  · rw [heq]; exact .inl rfl

/-- **What waits behind a line**: the backtrace that it starts, or one that it leaves waiting. -/
theorem backtrace_step_iff (h : s.held = none ∨ s.backtrace = none) :
    (s.step line).2.backtrace = some b ↔ root? line = some b ∨ Passes line ∧
      ∃ b', s.backtrace = some b' ∧ b = { b' with steps := b'.steps ++ (place? line).toList } := by
  obtain ⟨b₀, hroot, heq⟩ | ⟨b₀, r, hroot, hb, hplace, heq⟩ | ⟨d, hroot, hd, heq⟩ |
    ⟨g, -, hopen, heq⟩ | ⟨hroot, hpasses, -, heq⟩ := step_cases s line
  · rw [heq, hroot]
    refine ⟨.inl, ?_⟩
    rintro (hb | ⟨⟨hnone, -⟩, -⟩)
    · exact hb
    · rw [hroot] at hnone; cases hnone
  · have hp : Passes line := ⟨hroot, .inr (.inl (by rw [hplace]; rfl))⟩
    simp [heq, hroot, hb, hplace, hp, eq_comm]
  · rw [hd, or_iff_right (Option.some_ne_none d)] at h
    simp [heq, hroot, h]
  · obtain ⟨-, -, -, hroot, -, -⟩ := heading_of_opening? hopen
    simp only [heq, hroot, reduceCtorEq, false_or, false_iff, not_and, not_exists]
    rintro hp b' hb -
    exact not_passes_of_opening? hopen hb hp
  · rw [heq, hroot]
    cases hb : s.backtrace with
    | none => simp
    | some b' =>
      rw [hb, or_iff_left (Option.some_ne_none b')] at hpasses
      simp [hpasses.1, hpasses.2, eq_comm]

/-! ## Histories -/

/-- The diagnostic that an input finishes, if any, and the state after it. -/
def react (s : State) : Input → Option Diagnostic × State
  | .line l => ((s.step l).1.finished, (s.step l).2)
  | .close => s.flush

/-- The state after a sequence of inputs. -/
def history (xs : List Input) : State := xs.foldl (fun s x => (s.react x).2) {}

theorem history_concat (xs : List Input) (x : Input) :
    history (xs ++ [x]) = ((history xs).react x).2 := List.foldl_concat ..

/-- The backtrace waits behind the inputs: the line after the first of them, `p`, starts it, and
the lines since then leave it waiting and add the places that it has. -/
def WaitsFrom (p xs : List Input) (b : Backtrace) : Prop :=
  ∃ (line : Line) (since : List Line) (b₀ : Backtrace),
    xs = p ++ .line line :: since.map .line ∧ root? line = some b₀ ∧
      (∀ l ∈ since, Passes l) ∧ b = { b₀ with steps := since.filterMap place? }

theorem held_or_backtrace (xs : List Input) :
    (history xs).held = none ∨ (history xs).backtrace = none := by
  induction xs using List.reverseRecOn with
  | nil => exact .inl rfl
  | append_singleton xs x ih =>
    rw [history_concat]
    cases x with
    | line l => exact step_apart _ l ih
    | close => exact .inl rfl

/-- The last of the inputs that end in lines is one of these. -/
theorem last_line {x : Input} {since : List Line}
    (h : xs ++ [x] = p ++ .line line :: since.map .line) :
    (since = [] ∧ p = xs ∧ x = .line line) ∨
      ∃ earlier last, since = earlier ++ [last] ∧ x = .line last ∧
        xs = p ++ .line line :: earlier.map .line := by
  rcases List.eq_nil_or_concat' since with rfl | ⟨earlier, last, rfl⟩
  · obtain ⟨rfl, hx⟩ := List.append_inj' h rfl
    cases hx
    exact .inl ⟨rfl, rfl, rfl⟩
  · have hsplit : xs ++ [x] = (p ++ .line line :: earlier.map .line) ++ [.line last] := by
      simpa using h
    obtain ⟨rfl, hx⟩ := List.append_inj' hsplit rfl
    cases hx
    exact .inr ⟨earlier, last, rfl, rfl, rfl⟩

theorem steps_of_root? (h : root? line = some b) : b.steps = [] := by
  unfold root? at h
  split at h
  · cases h
  · obtain ⟨cs, -, rfl⟩ := Option.map_eq_some_iff.1 h
    rfl

theorem not_waitsFrom_nil : ¬WaitsFrom p [] b := by
  rintro ⟨line, since, b₀, hxs, -⟩
  exact absurd hxs.symm (by simp)

theorem not_waitsFrom_concat_close : ¬WaitsFrom p (xs ++ [.close]) b := by
  rintro ⟨line, since, b₀, hxs, -⟩
  obtain ⟨-, -, hx⟩ | ⟨earlier, last, -, hx, -⟩ := last_line hxs
  · cases hx
  · cases hx

theorem waitsFrom_concat_line : WaitsFrom p (xs ++ [.line line]) b ↔
    (p = xs ∧ root? line = some b) ∨ Passes line ∧
      ∃ b', WaitsFrom p xs b' ∧ b = { b' with steps := b'.steps ++ (place? line).toList } := by
  constructor
  · rintro ⟨first, since, b₀, hxs, hroot, hpasses, rfl⟩
    obtain ⟨rfl, rfl, hx⟩ | ⟨earlier, last, rfl, hx, rfl⟩ := last_line hxs
    · cases hx
      refine .inl ⟨rfl, hroot.trans ?_⟩
      rw [List.filterMap_nil, ← steps_of_root? hroot]
    · cases hx
      have hlast := hpasses line (List.mem_append_right _ (List.mem_singleton_self line))
      have hearlier : ∀ l ∈ earlier, Passes l := fun l hl => hpasses l (List.mem_append_left _ hl)
      refine .inr ⟨hlast, _, ⟨first, earlier, b₀, rfl, hroot, hearlier, rfl⟩, ?_⟩
      rw [List.filterMap_append]
      cases hp : place? line <;> simp [hp]
  · rintro (⟨rfl, hroot⟩ | ⟨hp, b', ⟨first, since, b₀, rfl, hroot, hpasses, rfl⟩, rfl⟩)
    · refine ⟨line, [], b, rfl, hroot, fun l hl => absurd hl List.not_mem_nil, ?_⟩
      rw [List.filterMap_nil, ← steps_of_root? hroot]
    · refine ⟨first, since ++ [line], b₀, by simp, hroot, ?_, ?_⟩
      · intro l hl
        rcases List.mem_append.1 hl with hl | hl
        · exact hpasses l hl
        · rw [List.mem_singleton.1 hl]
          exact hp
      · rw [List.filterMap_append]
        cases hplace : place? line <;> simp [hplace]

/-- **The backtrace that waits** behind a history. -/
theorem backtrace_history_iff (xs : List Input) (b : Backtrace) :
    (history xs).backtrace = some b ↔ ∃ p, WaitsFrom p xs b := by
  induction xs using List.reverseRecOn generalizing b with
  | nil =>
    exact ⟨fun h => absurd h (Option.some_ne_none b).symm,
      fun ⟨p, h⟩ => absurd h not_waitsFrom_nil⟩
  | append_singleton xs x ih =>
    rw [history_concat]
    cases x with
    | line l =>
      rw [react, backtrace_step_iff (held_or_backtrace xs)]
      simp only [ih, waitsFrom_concat_line]
      constructor
      · rintro (hroot | ⟨hp, b', ⟨p, hw⟩, hb⟩)
        · exact ⟨xs, .inl ⟨rfl, hroot⟩⟩
        · exact ⟨p, .inr ⟨hp, b', hw, hb⟩⟩
      · rintro ⟨p, ⟨-, hroot⟩ | ⟨hp, b', hw, hb⟩⟩
        · exact .inl hroot
        · exact .inr ⟨hp, b', ⟨p, hw⟩, hb⟩
    | close =>
      exact ⟨fun h => absurd h (Option.some_ne_none b).symm,
        fun ⟨p, h⟩ => absurd h not_waitsFrom_concat_close⟩

/-- Every line since the first one of a backtrace leaves it waiting. -/
theorem passes_of_waitsFrom {later : List Input} (h : WaitsFrom p xs b)
    (h' : WaitsFrom p (xs ++ .line line :: later) b') : Passes line := by
  obtain ⟨first, since, b₀, rfl, -⟩ := h
  obtain ⟨first', since', b₀', hsplit, -, hpasses, -⟩ := h'
  rw [List.append_assoc, List.append_cancel_left_eq, List.cons_append, List.cons.injEq] at hsplit
  refine hpasses line ?_
  have hmem : Input.line line ∈ since'.map Input.line := by
    rw [← hsplit.2]
    exact List.mem_append_right _ List.mem_cons_self
  obtain ⟨l, hl, hline⟩ := List.mem_map.1 hmem
  cases hline
  exact hl

/-! ## What is held -/

/-- Behind the inputs `before` the line opens the diagnostic of the heading `h`, with the backtrace
`b` that waits there, if any, and the lines `during` follow while that diagnostic is held. -/
structure HeldSince (before : List Input) (line : Line) (during : List Line) (h : Heading)
    (b : Option Backtrace) : Prop where
  heading : heading? line = some h
  opens : (history before).opening? line = some (h.toDiagnostic b)
  backtrace : ∀ b', b = some b' ↔ ∃ p, WaitsFrom p before b'
  held : ∀ u v, during = u ++ v →
    (history (before ++ .line line :: u.map .line)).held = some (h.assembled b u)
  kept : ∀ u l v, during = u ++ l :: v →
    ((history (before ++ .line line :: u.map .line)).step l).1.finished = none

theorem HeldSince.opened {h : Heading} (hh : heading? line = some h)
    (hopen : (history before).opening? line = some (h.toDiagnostic (history before).backtrace))
    (hheld : ((history before).step line).2.held =
      some (h.toDiagnostic (history before).backtrace)) :
    HeldSince before line [] h (history before).backtrace where
  heading := hh
  opens := hopen
  backtrace := backtrace_history_iff before
  held u v huv := by
    obtain ⟨rfl, -⟩ := List.nil_eq_append_iff.1 huv
    rw [List.map_nil, history_concat]
    exact hheld
  kept u l v huv := absurd huv (by simp)

theorem HeldSince.concat {during : List Line} {l : Line} {h : Heading} {b : Option Backtrace}
    (hs : HeldSince before line during h b)
    (hheld : (history (before ++ .line line :: (during ++ [l]).map .line)).held =
      some (h.assembled b (during ++ [l])))
    (hkept : ((history (before ++ .line line :: during.map .line)).step l).1.finished = none) :
    HeldSince before line (during ++ [l]) h b where
  heading := hs.heading
  opens := hs.opens
  backtrace := hs.backtrace
  held u v huv := by
    rcases List.eq_nil_or_concat' v with rfl | ⟨v, last, rfl⟩
    · rw [List.append_nil] at huv
      rw [← huv]
      exact hheld
    · rw [← List.append_assoc] at huv
      exact hs.held u v (List.append_inj' huv rfl).1
  kept u x v huv := by
    rcases List.eq_nil_or_concat' v with rfl | ⟨v, last, rfl⟩
    · obtain ⟨rfl, hx⟩ := List.append_inj' huv rfl
      cases hx
      exact hkept
    · rw [← List.cons_append, ← List.append_assoc] at huv
      exact hs.kept u x v (List.append_inj' huv rfl).1

/-- **What is held** was opened by a heading, and has the places of the lines since then. -/
theorem heldSince_of_held (h : (history xs).held = some d) :
    ∃ before line during h b, xs = before ++ .line line :: during.map .line ∧
      HeldSince before line during h b ∧ d = h.assembled b during := by
  induction xs using List.reverseRecOn generalizing d with
  | nil => cases h
  | append_singleton xs x ih =>
    rw [history_concat] at h
    cases x with
    | close => cases h
    | line l =>
      rw [react] at h
      obtain ⟨b, -, heq⟩ | ⟨b, r, -, hb, -, heq⟩ | ⟨e, -, hd, heq⟩ | ⟨g, hg, hopen, heq⟩ |
        ⟨-, -, -, heq⟩ := (history xs).step_cases l
      · rw [heq] at h; cases h
      · -- the line adds to a backtrace, and while one waits nothing is held
        have hnone := held_or_backtrace xs
        rw [hb, or_iff_left (Option.some_ne_none b)] at hnone
        rw [heq, hnone] at h
        cases h
      · obtain ⟨before, line, during, g, b, rfl, hs, rfl⟩ := ih hd
        have hconcat : before ++ .line line :: (during ++ [l]).map .line =
            before ++ .line line :: during.map .line ++ [.line l] := by simp
        refine ⟨before, line, during ++ [l], g, b, by simp, hs.concat ?_ (by rw [heq]; rfl), ?_⟩
        · rw [hconcat, history_concat, react, heq, Heading.assembled_concat]
        · rw [heq] at h
          rw [Heading.assembled_concat]
          exact (Option.some.inj h).symm
      · refine ⟨xs, l, [], g, _, rfl, .opened hg hopen (by rw [heq]), ?_⟩
        rw [heq] at h
        exact (Option.some.inj h).symm
      · rw [heq] at h; cases h

/-- What an input finishes was held before it. -/
theorem held_of_react {x : Input} (h : (s.react x).1 = some d) : s.held = some d := by
  cases x with
  | close => exact h
  | line l =>
    rw [react] at h
    obtain ⟨b, -, heq⟩ | ⟨b, r, -, -, -, heq⟩ | ⟨e, -, -, heq⟩ | ⟨g, -, -, heq⟩ |
      ⟨-, -, heq, -⟩ := s.step_cases l
    · rwa [heq] at h
    · rw [heq] at h; cases h
    · rw [heq] at h; cases h
    · rwa [heq] at h
    · rwa [heq] at h

/-! ## One diagnostic for each backtrace -/

/-- Behind the inputs `xs`, the input `x` finishes a diagnostic that has the backtrace of the line
after `p`. -/
def Attaches (p xs : List Input) (x : Input) : Prop :=
  ∃ before line during h b, xs = before ++ .line line :: during.map .line ∧
    HeldSince before line during h (some b) ∧ WaitsFrom p before b ∧
    ((history xs).react x).1 = some (h.assembled (some b) during)

variable {x y : Input} {ys zs : List Input}

theorem split_of_length_lt (hx : xs ++ [x] <+: zs) (hy : ys <+: zs) (h : xs.length < ys.length) :
    ∃ later, ys = xs ++ x :: later := by
  have hlength : (xs ++ [x]).length ≤ ys.length := by simpa using Nat.succ_le_of_lt h
  obtain ⟨later, rfl⟩ := List.prefix_of_prefix_length_le hx hy hlength
  exact ⟨later, by simp⟩

/-- A backtrace waits no longer than until the first diagnostic that is opened behind it. -/
theorem length_le_of_waitsFrom (hw : WaitsFrom p before b)
    (hopen : (history before).opening? line = some d) (hw' : WaitsFrom p before' b')
    (hline : before ++ [.line line] <+: zs) (h' : before' <+: zs) :
    before'.length ≤ before.length := by
  by_contra hlt
  obtain ⟨later, rfl⟩ := split_of_length_lt hline h' (not_le.1 hlt)
  exact not_passes_of_opening? hopen ((backtrace_history_iff _ _).2 ⟨p, hw⟩)
    (passes_of_waitsFrom hw hw')

theorem Attaches.length_le (h : Attaches p xs x) (h' : Attaches p ys y) (hx : xs ++ [x] <+: zs)
    (hy : ys <+: zs) : ys.length ≤ xs.length := by
  obtain ⟨before, line, during, h, b, rfl, hs, hw, hd⟩ := h
  obtain ⟨before', line', during', h', b', rfl, hs', hw', -⟩ := h'
  have hline : before ++ [.line line] <+: zs := .trans (by simp) hx
  have hline' : before' ++ [.line line'] <+: zs := .trans (by simp) hy
  have hbefore : before <+: zs := .trans (List.prefix_append _ _) hline
  have hbefore' : before' <+: zs := .trans (List.prefix_append _ _) hline'
  -- one line opens both, and what it opened is held until it is finished
  have hle := length_le_of_waitsFrom hw' hs'.opens hw hline' hbefore
  have hle' := length_le_of_waitsFrom hw hs.opens hw' hline hbefore'
  obtain rfl := (List.prefix_of_prefix_length_le hbefore hbefore' hle).eq_of_length
    (le_antisymm hle hle')
  -- else the input that finished the first would be a line at which the second was kept
  by_contra hlt
  obtain ⟨later, hsplit⟩ := split_of_length_lt hx hy (not_le.1 hlt)
  rw [List.append_assoc, List.append_cancel_left_eq, List.cons_append, List.cons.injEq,
    Input.line.injEq] at hsplit
  obtain ⟨rfl, hduring⟩ := hsplit
  obtain ⟨u, v, rfl, hu, hv⟩ := List.map_eq_append_iff.1 hduring
  obtain ⟨l, v, rfl, rfl, -⟩ := List.map_eq_cons_iff.1 hv
  obtain rfl := List.map_injective_iff.2 (fun _ _ => Input.line.inj) hu
  rw [react, hs'.kept u l v rfl] at hd
  cases hd

theorem Attaches.eq (h : Attaches p xs x) (h' : Attaches p ys y) (hx : xs ++ [x] <+: zs)
    (hy : ys ++ [y] <+: zs) : xs = ys := by
  have hxs : xs <+: zs := .trans (List.prefix_append _ _) hx
  have hys : ys <+: zs := .trans (List.prefix_append _ _) hy
  have hle := h'.length_le h hy hxs
  exact (List.prefix_of_prefix_length_le hxs hys hle).eq_of_length
    (le_antisymm hle (h.length_le h' hx hys))

/-- **The related places of every diagnostic** that a sequence of inputs finishes. It is the one of
its heading, which nothing changes but for its related places: those of the backtrace that waited
for the heading, if one did, and then those that the lines add while it is held. A backtrace goes to
one diagnostic at most. -/
theorem related_assembled :
    (∀ xs x d, ((history xs).react x).1 = some d →
      ∃ before line during h b, xs = before ++ .line line :: during.map .line ∧
        HeldSince before line during h b ∧ d = h.assembled b during) ∧
    ∀ zs p xs x ys y, xs ++ [x] <+: zs → ys ++ [y] <+: zs → Attaches p xs x → Attaches p ys y →
      xs = ys :=
  ⟨fun _ _ _ hd => heldSince_of_held (held_of_react hd),
    fun _ _ _ _ _ _ hx hy h h' => h.eq h' hx hy⟩

/-- An error with a backtrace and a note, and the error after it, which has no backtrace. -/
theorem related_assembled_two_errors :
    let before : List Input :=
      [.line "t.h: In instantiation of 'f<int>':".toList,
        .line "t.cpp:9:3:   required from here".toList]
    let line := "t.h:4:5: error: x".toList
    let note := "u.h:2:1: note: y".toList
    let xs := before ++ [.line line, .line note]
    let next := Input.line "v.cpp:1:1: error: z".toList
    let d : Diagnostic :=
      { source := "GCC", file := "t.h", range := .restOfLine 3 4, severity := "error"
        message := "x"
        related :=
          [⟨"t.h", .restOfLine 3 4, "In instantiation of 'f<int>':"⟩,
            ⟨"t.cpp", .restOfLine 8 2, "required from here"⟩,
            ⟨"u.h", .restOfLine 1 0, "y"⟩] }
    (∃ before line during h b, xs = before ++ .line line :: during.map .line ∧
      HeldSince before line during h b ∧ d = h.assembled b during) ∧
    Attaches [] xs next ∧ ¬Attaches [] (xs ++ [next]) .close := by
  intro before line note xs next d
  have hroot : root? "t.h: In instantiation of 'f<int>':".toList =
      some ⟨"t.h", "In instantiation of 'f<int>':", []⟩ := by decide +kernel
  have hpasses : ∀ l ∈ ["t.cpp:9:3:   required from here".toList], Passes l := by
    intro l hl
    rw [List.mem_singleton.1 hl]
    exact ⟨by decide +kernel, .inr (.inl (by decide +kernel))⟩
  have hwaits : WaitsFrom [] before _ := ⟨_, _, _, rfl, hroot, hpasses, rfl⟩
  have hopens : ((history before).opening? line).isSome := by decide +kernel
  obtain ⟨e, he⟩ := Option.isSome_iff_exists.1 hopens
  obtain ⟨h, hh, -, -, -, rfl⟩ := heading_of_opening? he
  have hopened : ((history before).step line).2.held = (history before).opening? line := by
    decide +kernel
  have hnoted : (history xs).held = ((history before).opening? line).map
      fun e => { e with related := gather e.related note } := by decide +kernel
  have hfinished : ((history xs).react next).1 = (history xs).held := by decide +kernel
  rw [he] at hopened hnoted
  have hs : HeldSince before line [note] h (history before).backtrace :=
    (HeldSince.opened hh he hopened).concat hnoted (by decide +kernel)
  rw [(backtrace_history_iff before _).2 ⟨[], hwaits⟩] at hs hnoted
  have hattaches : Attaches [] xs next :=
    ⟨before, line, [note], h, _, rfl, hs, hwaits, hfinished.trans hnoted⟩
  refine ⟨related_assembled.1 xs next d (by decide +kernel), hattaches, fun hagain => ?_⟩
  have hsame := related_assembled.2 (xs ++ [next] ++ [.close]) [] xs next (xs ++ [next]) .close
    (List.prefix_append _ _) List.prefix_rfl hattaches hagain
  exact absurd (congrArg List.length hsame) (by decide)

end State

end BuildDiagnostics.Gcc
