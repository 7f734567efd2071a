import BuildDiagnostics.Proofs.Components
import Mathlib.Data.List.Induction
import Mathlib.Logic.Relation

/-!
# Reducing a path

A path is reduced by cancelling (`Cancels`): a `.` disappears, a `..` takes the name before it with
it, and nothing lies above the root. What is left are the `..` that found no name, and after them
names (`Reduced`).

`normalize` reads a path from its start and takes one component off for each `..`. One that it has
kept because there was nothing to take off is itself taken off by the next, so of the `..` that are
left it keeps one if they are odd in number, and else none.

* `cancels_reduction`, `not_cancels_reduction`: a path is cancelled down to its reduction, and no
  further.
* `normalize_eq`: what `normalize` leaves of a path.
* `normalize_eq_reduction_iff`: when that is its reduction.
-/

namespace BuildDiagnostics.Path

/-! ## Cancelling -/

/-- One step of reducing a list of components. -/
inductive Cancels : List Component → List Component → Prop
  | here (before after : List Component) : Cancels (before ++ .here :: after) (before ++ after)
  | name (before after : List Component) (s : String) :
      Cancels (before ++ .name s :: .up :: after) (before ++ after)
  | root (after : List Component) : Cancels (.root :: .up :: after) (.root :: after)

theorem cancels_concat {cs ds : List Component} (h : Cancels cs ds) (c : Component) :
    Cancels (cs ++ [c]) (ds ++ [c]) := by
  cases h with
  | here before after =>
    rw [List.append_assoc, List.append_assoc]
    exact .here before (after ++ [c])
  | name before after s =>
    rw [List.append_assoc, List.append_assoc]
    exact .name before (after ++ [c]) s
  | root after => exact .root (after ++ [c])

/-- What is left of the components between slashes: the `..` that found no name to cancel, and the
names behind them. -/
structure Reduced where
  ups : Nat
  names : List String
  deriving DecidableEq, Repr

/-- A `..` cancels the last name, if there is one. -/
def Reduced.add (r : Reduced) : Component → Reduced
  | .root | .here => r
  | .up => if r.names = [] then ⟨r.ups + 1, []⟩ else ⟨r.ups, r.names.dropLast⟩
  | .name s => ⟨r.ups, r.names ++ [s]⟩

/-- What is left of components. -/
def Reduced.of (cs : List Component) : Reduced := cs.foldl add ⟨0, []⟩

/-- What is left of a path. -/
def reduced (p : Path) : Reduced := .of p.rest

/-- So many `..`, and then names. -/
def climb (ups : Nat) (names : List String) : List Component :=
  List.replicate ups .up ++ names.map .name

/-- **The reduction of a path.** The `..` that are left stay at the start of a relative path, and
are dropped behind the root. -/
def reduction (p : Path) : Path :=
  ofComponents (anchor p.isAbsolute ++
    climb (if p.isAbsolute then 0 else p.reduced.ups) p.reduced.names)

variable {cs : List Component} {p : Path}

theorem climb_concat (k : Nat) (names : List String) (s : String) :
    climb k (names ++ [s]) = climb k names ++ [.name s] := by
  simp [climb]

theorem climb_succ (k : Nat) : climb (k + 1) [] = climb k [] ++ [.up] := by
  simp [climb, List.replicate_succ']

theorem climb_inj {k k' : Nat} {names : List String} :
    climb k names = climb k' names ↔ k = k' := by
  refine ⟨fun h => ?_, fun h => h ▸ rfl⟩
  have := congrArg List.length h
  simpa [climb] using this

namespace Reduced

theorem of_concat (cs : List Component) (c : Component) : of (cs ++ [c]) = (of cs).add c := by
  simp [of]

/-- A plain component is one more `..`, one that cancels a name, or one more name. -/
theorem add_cases (r : Reduced) {c : Component} (h : c.Plain) :
    (c = .up ∧ r.names = [] ∧ r.add c = ⟨r.ups + 1, []⟩) ∨
      (∃ init s, c = .up ∧ r.names = init ++ [s] ∧ r.add c = ⟨r.ups, init⟩) ∨
      ∃ s, c = .name s ∧ r.add c = ⟨r.ups, r.names ++ [s]⟩ := by
  cases c with
  | root | here => exact h.elim
  | up =>
    rcases List.eq_nil_or_concat r.names with hn | ⟨init, s, hn⟩
    · exact .inl ⟨rfl, hn, by simp [add, hn]⟩
    · rw [List.concat_eq_append] at hn
      exact .inr (.inl ⟨init, s, rfl, hn, by simp [add, hn]⟩)
  | name s => exact .inr (.inr ⟨s, rfl, rfl⟩)

theorem of_climb (k : Nat) (names : List String) : of (climb k names) = ⟨k, names⟩ := by
  induction names using List.reverseRecOn with
  | nil =>
    induction k with
    | zero => rfl
    | succ k ih => rw [climb_succ, of_concat, ih]; rfl
  | append_singleton names s ih => rw [climb_concat, of_concat, ih]; rfl

/-- **What is left stands in the path**, in this order. -/
theorem climb_sublist (h : ∀ c ∈ cs, c.Plain) : (climb (of cs).ups (of cs).names).Sublist cs := by
  induction cs using List.reverseRecOn with
  | nil => exact .slnil
  | append_singleton cs c ih =>
    have hcs := ih fun b hb => h b (List.mem_append_left _ hb)
    rw [of_concat]
    rcases (of cs).add_cases (h c (by simp)) with
      ⟨rfl, hn, hadd⟩ | ⟨init, s, rfl, hn, hadd⟩ | ⟨s, rfl, hadd⟩
    · rw [hn] at hcs
      rw [hadd, climb_succ]
      exact hcs.append (.refl _)
    · rw [hn, climb_concat] at hcs
      rw [hadd]
      exact ((List.sublist_append_left _ _).trans hcs).trans (List.sublist_append_left _ _)
    · rw [hadd, climb_concat]
      exact hcs.append (.refl _)

end Reduced

/-- Components are cancelled down to what is left of them. -/
theorem cancels_climb (h : ∀ c ∈ cs, c.Plain) (rooted : Bool) :
    Relation.ReflTransGen Cancels (anchor rooted ++ cs) (anchor rooted ++
      climb (if rooted then 0 else (Reduced.of cs).ups) (Reduced.of cs).names) := by
  induction cs using List.reverseRecOn with
  | nil => cases rooted <;> exact .refl
  | append_singleton cs c ih =>
    have hcs := ih fun b hb => h b (List.mem_append_left _ hb)
    have hstep : Relation.ReflTransGen Cancels ((anchor rooted ++ cs) ++ [c]) ((anchor rooted ++
        climb (if rooted then 0 else (Reduced.of cs).ups) (Reduced.of cs).names) ++ [c]) :=
      hcs.lift (· ++ [c]) fun _ _ hab => cancels_concat hab c
    rw [List.append_assoc, List.append_assoc] at hstep
    rw [Reduced.of_concat]
    rcases (Reduced.of cs).add_cases (h c (by simp)) with
      ⟨rfl, hn, hadd⟩ | ⟨init, s, rfl, hn, hadd⟩ | ⟨s, rfl, hadd⟩
    · rw [hn] at hstep
      rw [hadd]
      cases rooted with
      | false => rwa [← climb_succ] at hstep
      | true => exact hstep.tail (.root [])
    · rw [hn, climb_concat, List.append_assoc] at hstep
      rw [hadd]
      refine hstep.tail ?_
      rw [← List.append_assoc]
      simpa using Cancels.name (anchor rooted ++ climb _ init) [] s
    · rw [hadd, climb_concat]
      exact hstep

/-- What is kept of a path stands in it, also with fewer `..`. -/
theorem climb_sublist_rest (p : Path) {k : Nat} (hk : k ≤ p.reduced.ups) :
    (climb k p.reduced.names).Sublist p.rest := by
  have hsub : (climb k p.reduced.names).Sublist (climb p.reduced.ups p.reduced.names) :=
    ((List.replicate_sublist_replicate _).2 hk).append (.refl _)
  exact hsub.trans (Reduced.climb_sublist plain_rest)

theorem plain_climb (p : Path) {k : Nat} (hk : k ≤ p.reduced.ups) :
    ∀ c ∈ climb k p.reduced.names, c.Plain :=
  fun c hc => plain_rest c ((climb_sublist_rest p hk).subset hc)

theorem components_reduction (p : Path) :
    p.reduction.components = anchor p.isAbsolute ++
      climb (if p.isAbsolute then 0 else p.reduced.ups) p.reduced.names :=
  components_ofComponents (plain_climb p (by split <;> omega))

/-- **A path is cancelled down to its reduction.** -/
theorem cancels_reduction (p : Path) :
    Relation.ReflTransGen Cancels p.components p.reduction.components := by
  rw [components_reduction]
  have hrest := cancels_climb (plain_rest (p := p)) p.isAbsolute
  rcases components_eq p with hc | ⟨habs, hc⟩
  · rw [hc]
    exact hrest
  · rw [habs] at hrest ⊢
    rw [hc]
    exact hrest.head (.here [] p.rest)

/-- **A reduction cannot be cancelled further.** -/
theorem not_cancels_reduction (p : Path) (ds : List Component) :
    ¬ Cancels p.reduction.components ds := by
  -- no name stands before a `..`
  have hsorted : ∀ (b : Bool) k names, (b = true → k = 0) →
      (anchor b ++ climb k names).Pairwise fun x y => y = .up → x = .up := by
    intro b k names hk
    cases b <;> simp_all [anchor, climb, List.pairwise_append, List.pairwise_map,
      List.pairwise_replicate, List.mem_replicate, List.pairwise_of_forall]
  have hpairs := hsorted p.isAbsolute (if p.isAbsolute then 0 else p.reduced.ups)
    p.reduced.names fun h => if_pos h
  have hplain := plain_climb p (k := if p.isAbsolute then 0 else p.reduced.ups)
    (by split <;> omega)
  intro h
  rw [components_reduction] at h
  generalize hcs : anchor p.isAbsolute ++
    climb (if p.isAbsolute then 0 else p.reduced.ups) p.reduced.names = cs at h hpairs
  cases h with
  | here before after =>
    have hmem : Component.here ∈ anchor p.isAbsolute ++
        climb (if p.isAbsolute then 0 else p.reduced.ups) p.reduced.names := by rw [hcs]; simp
    rcases List.mem_append.1 hmem with hmem | hmem
    · unfold anchor at hmem
      split at hmem <;> simp at hmem
    · exact hplain _ hmem
  | name before after s =>
    have htwo := (List.pairwise_append.1 hpairs).2.1
    exact absurd ((List.pairwise_cons.1 htwo).1 .up (by simp) rfl) (by simp)
  | root after => exact absurd ((List.pairwise_cons.1 hpairs).1 .up (by simp) rfl) (by simp)

/-! ## What `normalize` leaves -/

/-- The components that are pushed so far, the last one first. -/
theorem foldl_push (h : ∀ c ∈ cs, c.Plain) (rooted : Bool) :
    cs.foldl push (anchor rooted).reverse =
      (anchor rooted ++ climb ((Reduced.of cs).ups % 2) (Reduced.of cs).names).reverse := by
  induction cs using List.reverseRecOn with
  | nil => cases rooted <;> rfl
  | append_singleton cs c ih =>
    rw [List.foldl_concat, ih fun b hb => h b (List.mem_append_left _ hb), Reduced.of_concat]
    rcases (Reduced.of cs).add_cases (h c (by simp)) with
      ⟨rfl, hn, hadd⟩ | ⟨init, s, rfl, hn, hadd⟩ | ⟨s, rfl, hadd⟩
    · -- a `..` that is kept takes one that was kept before off again
      rw [hn, hadd]
      rcases Nat.mod_two_eq_zero_or_one (Reduced.of cs).ups with hk | hk
      · have hk' : ((Reduced.of cs).ups + 1) % 2 = 1 := by omega
        rw [hk, hk']
        cases rooted <;> rfl
      · have hk' : ((Reduced.of cs).ups + 1) % 2 = 0 := by omega
        rw [hk, hk']
        cases rooted <;> rfl
    · rw [hn, hadd, climb_concat, ← List.append_assoc, List.reverse_append]
      rfl
    · rw [hadd, climb_concat]
      simp [push]

/-- **What `normalize` leaves of a path**: its names, and one `..` before them if an odd number of
them is left. -/
theorem normalize_eq (p : Path) : p.normalize =
    ofComponents (anchor p.isAbsolute ++ climb (p.reduced.ups % 2) p.reduced.names) := by
  have hpush := foldl_push (plain_rest (p := p)) p.isAbsolute
  have hstart : p.components.foldl push [] = p.rest.foldl push (anchor p.isAbsolute).reverse := by
    rcases components_eq p with hc | ⟨habs, hc⟩
    · rw [hc, List.foldl_append]
      cases p.isAbsolute <;> rfl
    · rw [hc, habs]
      rfl
  unfold normalize
  rw [hstart, hpush, List.reverse_reverse]
  rfl

theorem components_normalize (p : Path) : p.normalize.components =
    anchor p.isAbsolute ++ climb (p.reduced.ups % 2) p.reduced.names := by
  rw [normalize_eq]
  exact components_ofComponents (plain_climb p (Nat.mod_le _ _))

theorem isAbsolute_normalize (p : Path) : p.normalize.isAbsolute = p.isAbsolute := by
  rw [normalize_eq]
  exact isAbsolute_ofComponents (plain_climb p (Nat.mod_le _ _))

theorem rest_normalize (p : Path) :
    p.normalize.rest = climb (p.reduced.ups % 2) p.reduced.names := by
  rw [normalize_eq]
  exact rest_ofComponents (plain_climb p (Nat.mod_le _ _))

theorem reduced_normalize (p : Path) :
    p.normalize.reduced = ⟨p.reduced.ups % 2, p.reduced.names⟩ := by
  unfold reduced
  rw [rest_normalize, Reduced.of_climb]
  rfl

/-- **`normalize` reduces a path** exactly if no more `..` are left than it keeps: at most one in a
relative path, an even number behind the root. -/
theorem normalize_eq_reduction_iff (p : Path) : p.normalize = p.reduction ↔
    p.reduced.ups % 2 = if p.isAbsolute then 0 else p.reduced.ups := by
  constructor
  · intro h
    have hcomponents := congrArg components h
    rw [components_normalize, components_reduction] at hcomponents
    exact climb_inj.1 (List.append_cancel_left hcomponents)
  · intro h
    rw [normalize_eq, h]
    rfl

end BuildDiagnostics.Path
