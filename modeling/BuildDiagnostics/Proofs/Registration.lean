import BuildDiagnostics.Consumer
import BuildDiagnostics.Proofs.LowerCase
import Mathlib.Data.List.Nodup

/-!
# The registry after any changes

A registry is changed by registering grammars and by allow lists, in any order: a grammar may be
replaced while an allow list is in force. What the registry then answers depends on the
registrations so far (`Registry.registered`) and on the last allow list.

* `key_key`: a name that is spelled as the registry does.
* `names_put`, `mem_put`: one more registration.
* `Keeps`: the invariant, which every change preserves (`keeps_after`, `keeps_afterAll`).
* `isEnabled_allow`, `isEnabled_congr`: of an allow list only the known names matter.
* `consistent_after_changes`: all answers agree, and agree with the registrations.
-/

namespace BuildDiagnostics

/-- A text at the end stays unless it was there before. -/
theorem eraseDups_concat (xs : List String) (a : String) :
    (xs ++ [a]).eraseDups = if a ∈ xs then xs.eraseDups else xs.eraseDups ++ [a] := by
  rw [List.eraseDups_append]
  split
  · rename_i ha
    simp [List.removeAll, ha]
  · rename_i ha
    simp [List.removeAll, ha, List.eraseDups_cons]

namespace Registry

variable {α μ : Type}

/-! ## Changes -/

/-- A change of a registry. -/
inductive Change (α : Type)
  | register (name : String) (g : α)
  | allow (list : Option (List String))
  deriving DecidableEq, Repr

/-- The registry after a change. -/
def after (r : Registry α) : Change α → Registry α
  | .register name g => r.register name g
  | .allow list => r.allow list

/-- The registry after changes in the order of the list. -/
def afterAll (r : Registry α) (xs : List (Change α)) : Registry α := xs.foldl after r

/-- What a change registers, and its name in lower case. -/
def Change.registered : Change α → List (String × α)
  | .register name g => [(key name, g)]
  | .allow _ => []

/-- What changes register, in order, each with its name in lower case. -/
def registered (xs : List (Change α)) : List (String × α) := xs.flatMap Change.registered

/-- What is registered last under a name. -/
def last? (regs : List (String × α)) (name : String) : Option α := regs.reverse.lookup name

/-- The changes that make the registry of all grammars. -/
def builtinChanges : List (Change Grammar) := Grammar.all.map fun g => .register g.name g

/-- The list has the name: some text of it is the name when it is trimmed and put in lower case,
and is not blank. -/
def Lists (l : List String) (name : String) : Prop :=
  name ≠ "" ∧ ∃ x ∈ l, String.ofList (Text.lower (Text.trim x.toList)) = name

instance (l : List String) (name : String) : Decidable (Lists l name) :=
  inferInstanceAs (Decidable (_ ∧ _))

/-- Two allow lists have the same names among those that the registry knows. -/
def ListsSame (r : Registry α) (l l' : List String) : Prop :=
  ∀ n ∈ r.names, Lists l n ↔ Lists l' n

instance (r : Registry α) (l l' : List String) : Decidable (r.ListsSame l l') :=
  inferInstanceAs (Decidable (∀ n ∈ r.names, _))

variable {r : Registry α} {regs : List (String × α)} {l l' : List String}

theorem mem_wanted {n : String} : n ∈ wanted l ↔ Lists l n := by
  simp only [wanted, Lists, List.mem_filter, List.mem_map, bne_iff_ne, ne_eq, and_comm]

theorem last?_concat (regs : List (String × α)) (name n : String) (g : α) :
    last? (regs ++ [(name, g)]) n = if n = name then some g else last? regs n := by
  unfold last?
  rw [List.reverse_concat, List.lookup_cons]
  split
  · rename_i h
    rw [if_pos (beq_iff_eq.1 h)]
  · rename_i h
    rw [if_neg (beq_eq_false_iff_ne.1 h)]

/-- **The name of a grammar is in lower case**, so that asking by it finds it. -/
theorem key_key (name : String) : key (key name) = key name := by
  simp only [key, String.toList_ofList, Text.lower_lower]

theorem isEnabled_key (r : Registry α) (name : String) :
    r.isEnabled (key name) = r.isEnabled name := by
  simp only [isEnabled, key_key]

/-! ## One registration -/

/-- A grammar keeps the place of its name, and a new name comes last. -/
theorem names_put (name : String) (g : α) (es : List (String × α)) :
    (put name g es).map Prod.fst =
      if name ∈ es.map Prod.fst then es.map Prod.fst else es.map Prod.fst ++ [name] := by
  induction es with
  | nil => simp [put]
  | cons e es ih =>
    rw [put]
    by_cases he : e.1 = name
    · simp [he]
    · have hmem : name ∈ (e :: es).map Prod.fst ↔ name ∈ es.map Prod.fst := by
        rw [List.map_cons, List.mem_cons, or_iff_right (Ne.symm he)]
      rw [if_neg he, List.map_cons, ih]
      simp only [hmem]
      split <;> rfl

/-- A registration takes the place of the one under its name and leaves the others. -/
theorem mem_put {name : String} {g : α} {es : List (String × α)} (hes : (es.map Prod.fst).Nodup)
    {e : String × α} (h : e ∈ put name g es) : e = (name, g) ∨ e ∈ es ∧ e.1 ≠ name := by
  induction es with
  | nil => exact .inl (List.mem_singleton.1 h)
  | cons f es ih =>
    obtain ⟨hf, hes⟩ := List.nodup_cons.1 hes
    rw [put] at h
    split at h
    · rename_i hname
      rcases List.mem_cons.1 h with rfl | h
      · exact .inl (by rw [hname])
      · refine .inr ⟨List.mem_cons_of_mem _ h, fun he => hf ?_⟩
        rw [hname, ← he]
        exact List.mem_map_of_mem h
    · rename_i hname
      rcases List.mem_cons.1 h with rfl | h
      · exact .inr ⟨List.mem_cons_self, hname⟩
      · exact (ih hes h).imp_right (And.imp_left (List.mem_cons_of_mem _))

/-! ## The invariant -/

/-- The registry has what is registered, each name once, and allows no name that it does not
have. -/
structure Keeps (regs : List (String × α)) (r : Registry α) : Prop where
  nodup : r.names.Nodup
  names : r.names = (regs.map Prod.fst).eraseDups
  last : ∀ e ∈ r.entries, last? regs e.1 = some e.2
  allowed : ∀ l, r.allowed = some l → l ⊆ r.names

theorem keeps_empty : Keeps [] (empty : Registry α) :=
  ⟨List.nodup_nil, rfl, fun _ h => absurd h List.not_mem_nil, fun _ h => by cases h⟩

theorem Keeps.register (h : Keeps regs r) (name : String) (g : α) :
    Keeps (regs ++ [(key name, g)]) (r.register name g) := by
  have hput : (r.register name g).names =
      if key name ∈ r.names then r.names else r.names ++ [key name] := names_put _ _ _
  have hmem : key name ∈ r.names ↔ key name ∈ regs.map Prod.fst := by
    rw [h.names, List.mem_eraseDups]
  refine { nodup := ?nodup, names := ?names, last := ?last, allowed := ?allowed }
  case nodup =>
    rw [hput]
    split
    · exact h.nodup
    · rename_i hnew
      rw [← List.concat_eq_append]
      exact List.Nodup.concat hnew h.nodup
  case names =>
    rw [hput, List.map_append, List.map_singleton, eraseDups_concat, ← h.names]
    exact if_congr hmem rfl rfl
  case last =>
    -- an entry is the new one, or an old one whose name is not registered anew
    intro e he
    rw [last?_concat]
    rcases mem_put h.nodup he with rfl | ⟨hold, hne⟩
    · exact if_pos rfl
    · rw [if_neg hne]
      exact h.last e hold
  case allowed =>
    -- the allow list stays in force, and no name is lost
    intro l hl
    refine List.Subset.trans (h.allowed l hl) ?_
    rw [hput]
    split
    · exact List.Subset.refl _
    · exact List.subset_append_left _ _

theorem Keeps.allow (h : Keeps regs r) (list : Option (List String)) :
    Keeps regs (r.allow list) := by
  refine ⟨h.nodup, h.names, h.last, fun l hl => ?_⟩
  obtain ⟨names, -, rfl⟩ := Option.map_eq_some_iff.1 hl
  intro n hn
  -- unknown names were left out
  exact List.contains_iff_mem.1 (List.mem_filter.1 hn).2

/-- **Every change keeps the registry in step with the registrations.** -/
theorem keeps_after (h : Keeps regs r) (x : Change α) :
    Keeps (regs ++ x.registered) (r.after x) := by
  cases x with
  | register name g => exact h.register name g
  | allow list =>
    rw [Change.registered, List.append_nil]
    exact h.allow list

/-- **So do all changes together.** -/
theorem keeps_afterAll (xs : List (Change α)) (h : Keeps regs r) :
    Keeps (regs ++ registered xs) (r.afterAll xs) := by
  induction xs generalizing regs r with
  | nil => rwa [registered, List.flatMap_nil, List.append_nil]
  | cons x xs ih =>
    rw [registered, List.flatMap_cons, ← List.append_assoc]
    exact ih (keeps_after h x)

/-- All registrations are under names in lower case. -/
theorem key_of_mem_registered {xs : List (Change α)} {e : String × α} (h : e ∈ registered xs) :
    key e.1 = e.1 := by
  obtain ⟨x, -, hx⟩ := List.mem_flatMap.1 h
  cases x with
  | register name g =>
    rw [List.mem_singleton.1 hx]
    exact key_key name
  | allow list => cases hx

/-! ## The answers -/

/-- An allowed name is a registered one. -/
theorem Keeps.mem_names (h : Keeps regs r) {x : String} (hx : r.isEnabled x = true) :
    key x ∈ r.names := by
  unfold isEnabled at hx
  split at hx
  · exact List.contains_iff_mem.1 hx
  · rename_i l hl
    exact h.allowed l hl (List.contains_iff_mem.1 hx)

/-- **Whether a name is enabled**, told by the enabled names. -/
theorem Keeps.isEnabled_iff (h : Keeps regs r) (x : String) :
    r.isEnabled x = true ↔ key x ∈ r.enabledNames := by
  rw [enabledNames, List.mem_filter, isEnabled_key]
  exact ⟨fun hx => ⟨h.mem_names hx, hx⟩, And.right⟩

/-- **What is made of the enabled names**: of each the last one registered. -/
theorem Keeps.instantiateWith (h : Keeps regs r) (make : α → μ) :
    (r.instantiateWith make).map some =
      r.enabledNames.map fun n => (last? regs n).map make := by
  rw [Registry.instantiateWith, enabledNames, Registry.names, List.filter_map, List.map_map,
    List.map_map]
  refine List.map_congr_left fun e he => ?_
  simp only [Function.comp_apply, h.last e (List.mem_filter.1 he).1, Option.map_some]

/-- What an allow list enables: the known names that it lists. -/
theorem isEnabled_allow (r : Registry α) (l : List String) (x : String) :
    (r.allow (some l)).isEnabled x = true ↔ key x ∈ r.names ∧ Lists l (key x) := by
  have hallowed : (r.allow (some l)).isEnabled x =
      ((wanted l).filter r.names.contains).contains (key x) := rfl
  rw [hallowed, List.contains_iff_mem, List.mem_filter, List.contains_iff_mem, mem_wanted, and_comm]

/-- **Of an allow list only the known names matter.** -/
theorem isEnabled_congr (h : r.ListsSame l l') :
    (r.allow (some l)).isEnabled = (r.allow (some l')).isEnabled := by
  -- a name that the registry does not know is enabled by neither list
  funext x
  rw [Bool.eq_iff_iff, isEnabled_allow, isEnabled_allow]
  exact and_congr_right (h (key x))

theorem enabledNames_congr (h : r.ListsSame l l') :
    (r.allow (some l)).enabledNames = (r.allow (some l')).enabledNames := by
  unfold enabledNames
  rw [isEnabled_congr h]
  rfl

theorem instantiateWith_congr (h : r.ListsSame l l') (make : α → μ) :
    (r.allow (some l)).instantiateWith make = (r.allow (some l')).instantiateWith make := by
  unfold Registry.instantiateWith
  rw [isEnabled_congr h]
  rfl

/-- The registry of all grammars is an empty one after eight registrations. -/
theorem builtin_eq : builtin = empty.afterAll builtinChanges := by
  unfold builtin afterAll builtinChanges
  rw [List.foldl_map]
  rfl

/-- **After any changes a registry is consistent**, whatever its entries are and whatever is made of
them. Its names are distinct, in lower case and in the order of their first registration. A name is
enabled iff in lower case it is among the enabled names, which stand in the order of all names, and
what is made is made of the last registration of each enabled name, in this order. Allow lists with
the same known names enable the same, so that the consumers of both registries are equal and record
the same on every run. The registry of all grammars is one of these. -/
theorem consistent_after_changes (make : α → μ) (xs : List (Change α)) :
    let r := empty.afterAll xs
    (r.names.Nodup ∧ r.names = ((registered xs).map Prod.fst).eraseDups ∧
      ∀ n ∈ r.names, key n = n) ∧
    (∀ x, r.isEnabled x = true ↔ key x ∈ r.enabledNames) ∧
    r.enabledNames.Sublist r.names ∧
    (r.instantiateWith make).map some =
      r.enabledNames.map (fun n => (last? (registered xs) n).map make) ∧
    (∀ l l', r.ListsSame l l' →
      (r.allow (some l)).enabledNames = (r.allow (some l')).enabledNames ∧
      (r.allow (some l)).instantiateWith make = (r.allow (some l')).instantiateWith make) ∧
    (∀ (s : Registry) (l l' : List String), s.ListsSame l l' →
      Consumer.ofRegistry (s.allow (some l)) = Consumer.ofRegistry (s.allow (some l'))) ∧
    ∀ ys, builtin.afterAll ys = empty.afterAll (builtinChanges ++ ys) := by
  intro r
  have hkeeps : Keeps (registered xs) r := keeps_afterAll xs keeps_empty
  refine ⟨⟨hkeeps.nodup, hkeeps.names, fun n hn => ?_⟩, hkeeps.isEnabled_iff, List.filter_sublist,
    hkeeps.instantiateWith make,
    fun l l' h => ⟨enabledNames_congr h, instantiateWith_congr h make⟩, fun s l l' h => ?_,
    fun ys => ?_⟩
  · rw [hkeeps.names, List.mem_eraseDups] at hn
    obtain ⟨e, he, rfl⟩ := List.mem_map.1 hn
    exact key_of_mem_registered he
  · simp only [Consumer.ofRegistry, instantiate, instantiateWith_congr h]
  · rw [builtin_eq, afterAll, afterAll, afterAll, List.foldl_append]

/-- A grammar is replaced while the allow list has it; then two more lists of the same names. -/
theorem consistent_after_changes_two_lists :
    let xs : List (Change Grammar) := [.register "gcc" .gcc, .register "MSVC" .msvc,
      .allow (some ["gcc"]), .register "Gcc" .iwyu]
    let r := empty.afterAll xs
    let l := ["MSVC", "bogus", " gcc "]
    let l' := ["gcc", "", "msvc", "Gcc"]
    (r.enabledNames = ["gcc"] ∧ r.instantiateWith id = [.iwyu]) ∧ r.ListsSame l l' ∧
      (r.allow (some l)).enabledNames = ["gcc", "msvc"] ∧
      (r.allow (some l')).enabledNames = ["gcc", "msvc"] ∧
      Consumer.ofRegistry (r.allow (some l)) = Consumer.ofRegistry (r.allow (some l')) := by
  intro xs r l l'
  have hsame : r.ListsSame l l' := by decide +kernel
  have hnames : (r.allow (some l)).enabledNames = ["gcc", "msvc"] := by decide +kernel
  obtain ⟨-, -, -, -, hlists, hconsumer, -⟩ := consistent_after_changes id xs
  have hnames' : (r.allow (some l')).enabledNames = ["gcc", "msvc"] :=
    (hlists l l' hsame).1 ▸ hnames
  exact ⟨by decide +kernel, hsame, hnames, hnames', hconsumer r l l' hsame⟩

end Registry

end BuildDiagnostics
