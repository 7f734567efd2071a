import BuildDiagnostics.Proofs.Interleaving
import BuildDiagnostics.Settings
import Mathlib.Data.List.Induction
import Mathlib.Data.List.Nodup
import Mathlib.Logic.Basic

/-!
# The record of a consumer

A consumer is used through calls: actions on its streams, the end of the run, and subscriptions, in
any order. What a call finishes are candidates (`Consumer.passed`), and the record keeps the first
candidate of each identity.

* `eraseDupsBy_concat`: one more element at the end of a list from which repeats are dropped.
* `records_after`: a call keeps the record the first reports of the candidates so far, and the set
  of seen identities that of the recorded ones.
* `tells_after`: what a call records is told to all who have subscribed, and to nobody twice.
* `record_in_step`: after any calls, the record, the identities and the subscribers agree.
-/

namespace BuildDiagnostics

/-- An element at the end stays unless an earlier one of those that stay is related to it. -/
theorem eraseDupsBy_concat {α : Type} (r : α → α → Bool) (xs : List α) (a : α) :
    (xs ++ [a]).eraseDupsBy r =
      if (xs.eraseDupsBy r).any (r a) then xs.eraseDupsBy r else xs.eraseDupsBy r ++ [a] := by
  -- the loop collects what stays in reverse
  have key : ∀ (xs kept : List α), List.eraseDupsBy.loop r (xs ++ [a]) kept =
      if (List.eraseDupsBy.loop r xs kept).any (r a) then List.eraseDupsBy.loop r xs kept
      else List.eraseDupsBy.loop r xs kept ++ [a] := by
    intro xs
    induction xs with
    | nil =>
      intro kept
      simp only [List.nil_append, List.eraseDupsBy.loop, List.any_reverse]
      cases kept.any (r a) <;> simp
    | cons x xs ih =>
      intro kept
      simp only [List.cons_append, List.eraseDupsBy.loop]
      by_cases hx : kept.any (r x) = true
      · simp only [hx]; exact ih _
      · simp only [hx]; exact ih _
  exact key xs []

namespace Consumer

variable {c d e : Consumer}

/-- A consumer before its first call, with new matchers of the grammars on both streams. -/
def fresh (gs : List Grammar) (enabled : Bool) (encoding : Encoding) (warnings : List Warning) :
    Consumer where
  output := .ofGrammars gs
  error := .ofGrammars gs
  enabled := enabled
  encoding := encoding
  warnings := warnings

/-- Whatever the settings, the consumer that they make is a fresh one. -/
theorem consumer_eq_fresh (s : Settings) (tables : EastAsian.Indexes) :
    ∃ gs enabled encoding warnings, s.consumer tables = fresh gs enabled encoding warnings := by
  obtain ⟨encoding, warnings, h⟩ : ∃ e ws, s.decoder tables = (e, ws) := ⟨_, _, rfl⟩
  unfold Settings.consumer
  rw [h]
  dsimp only
  split
  · refine ⟨(s.registry.entries.filter fun e => s.registry.isEnabled e.1).map Prod.snd, true,
      encoding, s.registryWarnings ++ warnings, ?_⟩
    simp only [fresh, ofRegistry, Registry.instantiate, Channel.ofGrammars, List.map_map]
    rfl
  · exact ⟨[], false, encoding, warnings, rfl⟩

/-! ## Calls -/

/-- A call on a consumer. -/
inductive Call
  | act (s : Stream) (a : Action)
  | finish
  | subscribe
  deriving DecidableEq, Repr

/-- What a call does to the streams. -/
def Call.actions : Call → List (Stream × Action)
  | .act s a => [(s, a)]
  | .finish => ending
  | .subscribe => []

/-- The consumer after a call. -/
def after (c : Consumer) : Call → Consumer
  | .act s a => c.perform s a
  | .finish => c.finish
  | .subscribe => c.subscribe

/-- The consumer after calls in the order of the list. -/
def afterAll (c : Consumer) (xs : List Call) : Consumer := xs.foldl after c

/-- What calls pass to `record`, in order. -/
def passed (c : Consumer) : List Call → List Diagnostic
  | [] => []
  | x :: xs => (c.candidates x.actions).map Prod.snd ++ (c.after x).passed xs

theorem afterAll_append (c : Consumer) (xs ys : List Call) :
    c.afterAll (xs ++ ys) = (c.afterAll xs).afterAll ys := List.foldl_append

theorem passed_append (c : Consumer) (xs ys : List Call) :
    c.passed (xs ++ ys) = c.passed xs ++ (c.afterAll xs).passed ys := by
  induction xs generalizing c with
  | nil => rfl
  | cons x xs ih =>
    rw [List.cons_append, passed, ih, passed, List.append_assoc]
    rfl

/-! ## The record -/

/-- The first report of each identity, in order. -/
def firstReports (ds : List Diagnostic) : List Diagnostic :=
  ds.eraseDupsBy fun x y => x.identity == y.identity

theorem firstReports_concat (ds : List Diagnostic) (x : Diagnostic) :
    firstReports (ds ++ [x]) =
      if x.identity ∈ (firstReports ds).map Diagnostic.identity then firstReports ds
      else firstReports ds ++ [x] := by
  have h : (firstReports ds).any (fun y => x.identity == y.identity) ↔
      x.identity ∈ (firstReports ds).map Diagnostic.identity := by
    simp only [List.any_eq_true, List.mem_map, beq_iff_eq, eq_comm (a := x.identity)]
  unfold firstReports at h ⊢
  rw [eraseDupsBy_concat]
  exact if_congr h rfl rfl

/-- A first report is one of the reports. -/
theorem mem_of_mem_firstReports {ds : List Diagnostic} {d : Diagnostic}
    (h : d ∈ firstReports ds) : d ∈ ds := by
  induction ds using List.reverseRecOn with
  | nil => cases h
  | append_singleton ds x ih =>
    rw [firstReports_concat] at h
    split at h
    · exact List.mem_append_left _ (ih h)
    · rcases List.mem_append.1 h with h | h
      · exact List.mem_append_left _ (ih h)
      · exact List.mem_append_right _ h

theorem nodup_firstReports (ds : List Diagnostic) :
    ((firstReports ds).map Diagnostic.identity).Nodup := by
  induction ds using List.reverseRecOn with
  | nil => exact .nil
  | append_singleton ds x ih =>
    rw [firstReports_concat]
    split
    · exact ih
    · rename_i hx
      rw [List.map_append, List.map_singleton, ← List.concat_eq_append]
      exact List.Nodup.concat hx ih

/-- The consumer has recorded the first reports of the candidates, and seen their identities. -/
structure Records (c : Consumer) (ds : List Diagnostic) : Prop where
  recorded : c.recorded = firstReports ds
  seen : ∀ x, x ∈ c.seen ↔ x ∈ c.identities

theorem records_fresh (gs : List Grammar) (enabled : Bool) (encoding : Encoding)
    (warnings : List Warning) : (fresh gs enabled encoding warnings).Records [] :=
  ⟨rfl, fun x => by simp [fresh, identities]⟩

theorem records_congr (h : c.ledger = d.ledger) {ds : List Diagnostic} (hc : c.Records ds) :
    d.Records ds := by
  simp only [ledger, Prod.mk.injEq] at h
  obtain ⟨hr, hs, -⟩ := h
  refine ⟨hr ▸ hc.recorded, fun x => ?_⟩
  rw [← hs, hc.seen x]
  unfold identities
  rw [hr]

/-- **One more candidate** is recorded exactly if its identity is new. -/
theorem records_record {ds : List Diagnostic} (h : c.Records ds) (x : Diagnostic) :
    (c.record x).Records (ds ++ [x]) := by
  have hmem : c.seen.contains x.identity ↔
      x.identity ∈ (firstReports ds).map Diagnostic.identity := by
    rw [Std.HashSet.contains_iff_mem, h.seen, identities, h.recorded]
  refine ⟨?_, fun i => ?_⟩
  · unfold record
    rw [firstReports_concat]
    by_cases hx : c.seen.contains x.identity
    · rw [if_pos hx, if_pos (hmem.1 hx), h.recorded]
    · rw [if_neg hx, if_neg (mt hmem.2 hx), h.recorded]
  · obtain ⟨h1, h2⟩ := mem_identities_record c x i
    rw [h1, h2, h.seen]
    refine ⟨?_, Or.imp_right And.right⟩
    rintro (hi | rfl)
    · exact .inl hi
    · by_cases hi : x.identity ∈ c.identities
      · exact .inl hi
      · exact .inr ⟨hi, rfl⟩

theorem records_recordAll {ds : List Diagnostic} (h : c.Records ds) (es : List Diagnostic) :
    (c.recordAll es).Records (ds ++ es) := by
  induction es generalizing c ds with
  | nil => rwa [List.append_nil]
  | cons x es ih =>
    have := ih (records_record h x)
    rwa [List.append_assoc] at this

/-- **A call records the first reports** of what it passes on. -/
theorem records_after {ds : List Diagnostic} (h : c.Records ds) (x : Call) :
    (c.after x).Records (ds ++ (c.candidates x.actions).map Prod.snd) := by
  have hrun : ∀ as, (c.performAll as).Records (ds ++ (c.candidates as).map Prod.snd) := fun as =>
    records_congr (ledger_performAll c as).symm (records_recordAll h _)
  cases x with
  | act s a => exact hrun [(s, a)]
  | finish => exact hrun ending
  | subscribe => exact (List.append_nil ds).symm ▸ ⟨h.recorded, h.seen⟩

theorem records_afterAll {ds : List Diagnostic} (h : c.Records ds) (xs : List Call) :
    (c.afterAll xs).Records (ds ++ c.passed xs) := by
  induction xs generalizing c ds with
  | nil => exact (List.append_nil ds).symm ▸ h
  | cons x xs ih =>
    have := ih (records_after h x)
    rwa [List.append_assoc] at this

/-- **A consumer that starts new records the first reports** of all its candidates. -/
theorem recorded_fresh (gs : List Grammar) (enabled : Bool) (encoding : Encoding)
    (warnings : List Warning) (xs : List Call) :
    ((fresh gs enabled encoding warnings).afterAll xs).recorded =
      firstReports ((fresh gs enabled encoding warnings).passed xs) :=
  (records_afterAll (records_fresh ..) xs).recorded

/-! ## The subscribers -/

/-- The second consumer has recorded `news` on top of what the first one has, and told it to the
subscribers of the first one. The `late` ones have subscribed since. -/
structure Tells (c d : Consumer) (news : List Diagnostic) (late : List (List Diagnostic)) :
    Prop where
  recorded : d.recorded = c.recorded ++ news
  subscribers : d.subscribers = c.subscribers.map (· ++ news) ++ late

theorem Tells.refl (c : Consumer) : Tells c c [] [] := ⟨by simp, by simp⟩

theorem Tells.trans {news more : List Diagnostic} {late later : List (List Diagnostic)}
    (h : Tells c d news late) (h' : Tells d e more later) :
    Tells c e (news ++ more) (late.map (· ++ more) ++ later) := by
  constructor
  · rw [h'.recorded, h.recorded, List.append_assoc]
  · rw [h'.subscribers, h.subscribers, List.map_append, List.map_map, List.append_assoc]
    simp only [Function.comp_def, List.append_assoc]

theorem tells_congr (h : d.ledger = e.ledger) {news : List Diagnostic}
    {late : List (List Diagnostic)} (hd : Tells c d news late) : Tells c e news late := by
  simp only [ledger, Prod.mk.injEq] at h
  obtain ⟨hr, -, ht⟩ := h
  exact ⟨hr ▸ hd.recorded, ht ▸ hd.subscribers⟩

theorem tells_record (c : Consumer) (x : Diagnostic) : ∃ news, Tells c (c.record x) news [] := by
  unfold record
  split
  · exact ⟨[], Tells.refl c⟩
  · exact ⟨[x], rfl, (List.append_nil _).symm⟩

theorem tells_recordAll (c : Consumer) (ds : List Diagnostic) :
    ∃ news, Tells c (c.recordAll ds) news [] := by
  induction ds generalizing c with
  | nil => exact ⟨[], Tells.refl c⟩
  | cons x ds ih =>
    obtain ⟨news, h⟩ := tells_record c x
    obtain ⟨more, h'⟩ := ih (c.record x)
    exact ⟨_, h.trans h'⟩

/-- **A call tells each subscriber what it records**, and only a subscription adds one. -/
theorem tells_after (c : Consumer) (x : Call) :
    ∃ news late, Tells c (c.after x) news late ∧ late.length = [x].count .subscribe := by
  have hrun : ∀ as, ∃ news, Tells c (c.performAll as) news [] := by
    intro as
    obtain ⟨news, h⟩ := tells_recordAll c ((c.candidates as).map Prod.snd)
    exact ⟨news, tells_congr (ledger_performAll c as).symm h⟩
  cases x with
  | act s a =>
    obtain ⟨news, h⟩ := hrun [(s, a)]
    exact ⟨news, [], h, rfl⟩
  | finish =>
    obtain ⟨news, h⟩ := hrun ending
    exact ⟨news, [], h, rfl⟩
  | subscribe => exact ⟨[], [[]], ⟨by simp [after, subscribe], by simp [after, subscribe]⟩, rfl⟩

theorem tells_afterAll (c : Consumer) (xs : List Call) :
    ∃ news late, Tells c (c.afterAll xs) news late ∧ late.length = xs.count .subscribe := by
  induction xs generalizing c with
  | nil => exact ⟨[], [], Tells.refl c, rfl⟩
  | cons x xs ih =>
    obtain ⟨news, late, h, hlate⟩ := tells_after c x
    obtain ⟨more, later, h', hlater⟩ := ih (c.after x)
    refine ⟨_, _, h.trans h', ?_⟩
    rw [List.length_append, List.length_map, hlate, hlater, ← List.count_append]
    rfl

/-- **Record, identities and subscribers agree** after any calls `xs` and `ys`. The record holds the
first reports of all candidates, no identity comes twice in it, the identities seen are those
recorded, and `ys` has only added to its end. There are as many subscribers as subscriptions, and
who subscribes between `xs` and `ys` has been told exactly what `ys` adds. -/
theorem record_in_step (gs : List Grammar) (enabled : Bool) (encoding : Encoding)
    (warnings : List Warning) (xs ys : List Call) :
    let c := fresh gs enabled encoding warnings
    let now := c.afterAll (xs ++ ys)
    now.recorded = firstReports (c.passed (xs ++ ys)) ∧
      now.identities.Nodup ∧
      (∀ x, x ∈ now.seen ↔ x ∈ now.identities) ∧
      (c.afterAll xs).recorded <+: now.recorded ∧
      now.subscribers.length = (xs ++ ys).count .subscribe ∧
      ∃ told, (c.afterAll (xs ++ .subscribe :: ys)).recorded = (c.afterAll xs).recorded ++ told ∧
        (c.afterAll (xs ++ .subscribe :: ys)).subscribers[xs.count .subscribe]? = some told := by
  intro c now
  have hnow : now.Records (c.passed (xs ++ ys)) := records_afterAll (records_fresh ..) _
  -- a consumer that starts without subscribers has one for each subscription
  have hcount : ∀ zs, (c.afterAll zs).subscribers.length = zs.count .subscribe := by
    intro zs
    obtain ⟨news, late, h, hlate⟩ := tells_afterAll c zs
    rw [h.subscribers, List.length_append, hlate]
    exact Nat.zero_add _
  refine ⟨hnow.recorded, ?_, hnow.seen, ?_, hcount _, ?_⟩
  · unfold identities
    rw [hnow.recorded]
    exact nodup_firstReports _
  · obtain ⟨news, late, h, -⟩ := tells_afterAll (c.afterAll xs) ys
    rw [← afterAll_append] at h
    exact ⟨news, h.recorded.symm⟩
  · obtain ⟨told, late, h, -⟩ := tells_afterAll (c.afterAll xs).subscribe ys
    have hrun : c.afterAll (xs ++ .subscribe :: ys) = (c.afterAll xs).subscribe.afterAll ys :=
      afterAll_append c xs (.subscribe :: ys)
    refine ⟨told, by rw [hrun, h.recorded]; rfl, ?_⟩
    -- the new subscriber comes after all earlier ones
    rw [hrun, h.subscribers, ← hcount xs, subscribe, List.map_append, List.append_assoc,
      List.getElem?_append_right (by simp)]
    simp

end Consumer

end BuildDiagnostics
