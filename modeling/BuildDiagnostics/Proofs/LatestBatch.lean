import BuildDiagnostics.Collection
import Mathlib.Data.Finset.Card
import Mathlib.Data.List.Induction
import Mathlib.Data.List.Nodup
import Mathlib.Logic.Function.Basic

/-!
# The latest batch of each file

A collection is only ever changed by batches and by clearing it (`Collection.Update`). A batch takes
the place of what was kept for the files that it mentions, so what a collection shows of a file is
the newest batch since the last clear that mentions the file, as far as it is about that file. Paths
with the same components are one file, however they are written.

* `lookup_change`, `keys_change`: adding a diagnostic or a group changes what is kept for one file.
* `lookup_populate`: what a batch changes.
* `lookup_afterAll`, `mem_keys_afterAll`: what is kept after any updates, and for which files.
* `shows_latest_batch`: what each of several collections shows after any updates of them.
-/

namespace BuildDiagnostics

/-- Paths are the same if their components are. -/
theorem Path.same_iff {p q : Path} : p.same q = true ↔ p.components = q.components := beq_iff_eq

namespace Collection

variable {gs fs : List FileGroup} {g : FileGroup} {p : Path} {batch : List Resolved}

/-! ## Groups by file -/

/-- The diagnostics of a batch that are about a file. -/
def about (p : Path) (batch : List Resolved) : List Resolved := batch.filter fun r => r.path.same p

/-- What a list of groups keeps for a file. -/
def lookup (p : Path) (gs : List FileGroup) : Option (List Resolved) := (find? p gs).map Prod.snd

/-- The files of a list of groups, each by its components. -/
def keys (gs : List FileGroup) : List (List Path.Component) := gs.map fun g => g.1.components

theorem lookup_cons (p : Path) (g : FileGroup) (gs : List FileGroup) :
    lookup p (g :: gs) = if g.1.same p then some g.2 else lookup p gs := by
  unfold lookup find?
  rw [List.find?_cons]
  cases g.1.same p <;> rfl

theorem keys_cons (g : FileGroup) (gs : List FileGroup) :
    keys (g :: gs) = g.1.components :: keys gs := rfl

theorem get_eq (c : Collection) (p : Path) : c.get p = (lookup p c.files).getD [] := by
  unfold get lookup
  cases find? p c.files <;> rfl

/-- Something is kept for the files that have a group. -/
theorem isSome_lookup_iff : (lookup p gs).isSome = true ↔ p.components ∈ keys gs := by
  induction gs with
  | nil => simp [lookup, find?, keys]
  | cons g gs ih =>
    rw [lookup_cons, keys_cons, List.mem_cons, ← ih]
    by_cases hg : g.1.same p = true
    · rw [if_pos hg]
      exact iff_of_true rfl (.inl (Path.same_iff.1 hg).symm)
    · have hne : ¬ p.components = g.1.components := fun e => hg (Path.same_iff.2 e.symm)
      rw [if_neg hg, or_iff_right hne]

theorem lookup_eq_none (h : p.components ∉ keys gs) : lookup p gs = none := by
  rwa [← isSome_lookup_iff, Option.not_isSome_iff_eq_none] at h

/-! ## Changing one group -/

/-- The list with the group of one file changed, or else with a group for it at the end. -/
def change (q : Path) (f : List Resolved → List Resolved) : List FileGroup → List FileGroup
  | [] => [(q, f [])]
  | (p, items) :: rest =>
    if p.same q then (p, f items) :: rest else (p, items) :: change q f rest

theorem add_eq_change (r : Resolved) (gs : List FileGroup) :
    add r gs = change r.path (· ++ [r]) gs := by
  induction gs with
  | nil => rfl
  | cons g gs ih => rw [add, change, ih]

theorem put_eq_change (g : FileGroup) (gs : List FileGroup) :
    put g gs = change g.1 (fun _ => g.2) gs := by
  induction gs with
  | nil => rfl
  | cons f gs ih => rw [put, change, ih]

variable {q : Path} {f : List Resolved → List Resolved}

/-- **Only what is kept for that file changes.** -/
theorem lookup_change (q p : Path) (f : List Resolved → List Resolved) (gs : List FileGroup) :
    lookup p (change q f gs) =
      if q.same p then some (f ((lookup p gs).getD [])) else lookup p gs := by
  induction gs with
  | nil => exact lookup_cons p (q, f []) []
  | cons g gs ih =>
    obtain ⟨p', items⟩ := g
    rw [change, lookup_cons]
    by_cases hq : p'.same q = true
    · -- the group of the file is asked for under both paths, or under neither
      have hp : p'.same p = q.same p := by rw [Path.same, Path.same, Path.same_iff.1 hq]
      rw [if_pos hq, lookup_cons]
      dsimp only
      rw [hp]
      split <;> rfl
    · rw [if_neg hq, lookup_cons, ih]
      by_cases hp : p'.same p = true
      · have hne : ¬ q.same p = true := fun e =>
          hq (Path.same_iff.2 ((Path.same_iff.1 hp).trans (Path.same_iff.1 e).symm))
        rw [if_pos hp, if_pos hp, if_neg hne]
      · rw [if_neg hp, if_neg hp]

theorem keys_change (q : Path) (f : List Resolved → List Resolved) (gs : List FileGroup) :
    keys (change q f gs) =
      if q.components ∈ keys gs then keys gs else keys gs ++ [q.components] := by
  induction gs with
  | nil => rfl
  | cons g gs ih =>
    obtain ⟨p, items⟩ := g
    rw [change]
    by_cases hq : p.same q = true
    · rw [if_pos hq, keys_cons, keys_cons,
        if_pos (List.mem_cons.2 (.inl (Path.same_iff.1 hq).symm))]
    · have hne : ¬ q.components = p.components := fun e => hq (Path.same_iff.2 e.symm)
      rw [if_neg hq, keys_cons, ih, keys_cons]
      simp only [List.mem_cons, hne, false_or]
      split <;> rfl

/-- Changing a group keeps the files apart and brings in no other file. -/
theorem keys_change_spec (h : (keys gs).Nodup) :
    (keys (change q f gs)).Nodup ∧
      ∀ x, x ∈ keys (change q f gs) ↔ x = q.components ∨ x ∈ keys gs := by
  rw [keys_change]
  split
  · rename_i hq
    refine ⟨h, fun x => ⟨.inr, ?_⟩⟩
    rintro (rfl | hx)
    · exact hq
    · exact hx
  · rename_i hq
    refine ⟨List.nodup_append.2 ⟨h, List.nodup_singleton _, ?_⟩, fun x => ?_⟩
    · rintro x hx y hy rfl
      rw [List.mem_singleton.1 hy] at hx
      exact hq hx
    · rw [List.mem_append, List.mem_singleton, or_comm]

/-! ## The groups of a batch -/

theorem group_concat (batch : List Resolved) (r : Resolved) :
    group (batch ++ [r]) = change r.path (· ++ [r]) (group batch) := by
  rw [group, List.foldl_concat, ← add_eq_change]
  rfl

theorem about_concat (p : Path) (batch : List Resolved) (r : Resolved) :
    about p (batch ++ [r]) = if r.path.same p then about p batch ++ [r] else about p batch := by
  unfold about
  rw [List.filter_append, List.filter_singleton]
  cases r.path.same p
  · exact List.append_nil _
  · rfl

/-- **The group of a file** holds the diagnostics about it in the order of the batch. -/
theorem lookup_group (p : Path) (batch : List Resolved) :
    lookup p (group batch) = if about p batch = [] then none else some (about p batch) := by
  induction batch using List.reverseRecOn with
  | nil => rfl
  | append_singleton batch r ih =>
    rw [group_concat, lookup_change, about_concat, ih]
    by_cases hr : r.path.same p = true
    · have hkept : (if about p batch = [] then none else some (about p batch)).getD [] =
          about p batch := by
        split
        · exact (‹about p batch = []›).symm
        · rfl
      have hne : about p batch ++ [r] ≠ [] := List.append_ne_nil_of_right_ne_nil _ (by simp)
      rw [if_pos hr, if_pos hr, hkept, if_neg hne]
    · rw [if_neg hr, if_neg hr]

/-- There is one group for each file of the batch. -/
theorem keys_group (batch : List Resolved) :
    (keys (group batch)).Nodup ∧
      ∀ x, x ∈ keys (group batch) ↔ x ∈ batch.map fun r => r.path.components := by
  induction batch using List.reverseRecOn with
  | nil => exact ⟨List.nodup_nil, fun x => Iff.rfl⟩
  | append_singleton batch r ih =>
    obtain ⟨hnodup, hmem⟩ := keys_change_spec (q := r.path) (f := (· ++ [r])) ih.1
    rw [group_concat]
    refine ⟨hnodup, fun x => ?_⟩
    rw [hmem, ih.2, List.map_append, List.mem_append, or_comm]
    exact or_congr_right List.mem_singleton.symm

/-- Groups of different files do not get in each other's way. -/
theorem lookup_foldl_put (hgs : (keys gs).Nodup) (p : Path) (fs : List FileGroup) :
    lookup p (gs.foldl (fun fs g => put g fs) fs) = (lookup p gs).or (lookup p fs) := by
  induction gs generalizing fs with
  | nil => rfl
  | cons g gs ih =>
    obtain ⟨hg, hnodup⟩ := List.nodup_cons.1 hgs
    rw [List.foldl_cons, ih hnodup, put_eq_change, lookup_change, lookup_cons]
    by_cases hp : g.1.same p = true
    · rw [if_pos hp, if_pos hp, lookup_eq_none (by rw [← Path.same_iff.1 hp]; exact hg)]
      rfl
    · rw [if_neg hp, if_neg hp]

theorem keys_foldl_put (h : (keys fs).Nodup) (gs : List FileGroup) :
    (keys (gs.foldl (fun fs g => put g fs) fs)).Nodup ∧
      ∀ x, x ∈ keys (gs.foldl (fun fs g => put g fs) fs) ↔ x ∈ keys gs ∨ x ∈ keys fs := by
  induction gs generalizing fs with
  | nil => exact ⟨h, fun x => by simp [keys]⟩
  | cons g gs ih =>
    obtain ⟨hput, hmemput⟩ := keys_change_spec (q := g.1) (f := fun _ => g.2) h
    rw [← put_eq_change] at hput hmemput
    obtain ⟨hnodup, hmem⟩ := ih hput
    refine ⟨hnodup, fun x => ?_⟩
    rw [List.foldl_cons, hmem, hmemput, keys_cons, List.mem_cons]
    tauto

/-! ## One update -/

/-- **What a batch changes**: it takes the place of what was kept for the files that it mentions. -/
theorem lookup_populate (c : Collection) (batch : List Resolved) (p : Path) :
    lookup p (c.populate batch).files =
      if about p batch = [] then lookup p c.files else some (about p batch) := by
  rw [populate]
  dsimp only
  rw [lookup_foldl_put (keys_group batch).1, lookup_group]
  split <;> rfl

/-- A change of a collection. -/
inductive Update
  | populate (batch : List Resolved)
  | clear
  deriving DecidableEq, Repr

/-- The collection after an update. -/
def after (c : Collection) : Update → Collection
  | .populate batch => c.populate batch
  | .clear => c.clear

/-- The collection after updates in the order of the list. -/
def afterAll (c : Collection) (us : List Update) : Collection := us.foldl after c

/-- The batch that an update brings. -/
def Update.batch? : Update → Option (List Resolved)
  | .populate batch => some batch
  | .clear => none

/-- The batches since the last clear, the newest first. -/
def sinceClear (us : List Update) : List (List Resolved) :=
  (us.reverse.takeWhile (· != .clear)).filterMap Update.batch?

/-- The newest batch since the last clear that mentions a file. -/
def latest? (p : Path) (us : List Update) : Option (List Resolved) :=
  (sinceClear us).find? fun batch => about p batch != []

/-- The files that the batches since the last clear mention, each by its components. -/
def mentioned (us : List Update) : List (List Path.Component) :=
  (sinceClear us).flatten.map fun r => r.path.components

theorem sinceClear_populate (us : List Update) (batch : List Resolved) :
    sinceClear (us ++ [.populate batch]) = batch :: sinceClear us := by
  unfold sinceClear
  rw [List.reverse_append, List.reverse_singleton, List.singleton_append,
    List.takeWhile_cons_of_pos (by simp)]
  rfl

theorem sinceClear_clear (us : List Update) : sinceClear (us ++ [.clear]) = [] := by
  unfold sinceClear
  rw [List.reverse_append, List.reverse_singleton, List.singleton_append,
    List.takeWhile_cons_of_neg (by simp)]
  rfl

/-! ## Any updates -/

theorem afterAll_concat (c : Collection) (us : List Update) (u : Update) :
    c.afterAll (us ++ [u]) = (c.afterAll us).after u := List.foldl_concat ..

variable {c : Collection}

/-- **What is kept for a file** is what the newest batch that mentions it says about it. -/
theorem lookup_afterAll (hc : c.files = []) (us : List Update) (p : Path) :
    lookup p (c.afterAll us).files = (latest? p us).map (about p) := by
  induction us using List.reverseRecOn with
  | nil => rw [afterAll, List.foldl_nil, hc]; rfl
  | append_singleton us u ih =>
    rw [afterAll_concat]
    cases u with
    | clear => rw [latest?, sinceClear_clear]; rfl
    | populate batch =>
      rw [after, lookup_populate, ih, latest?, latest?, sinceClear_populate, List.find?_cons]
      by_cases hp : about p batch = []
      · simp [hp]
      · rw [if_neg hp]
        have hmentions : (about p batch != []) = true := by simpa using hp
        rw [hmentions]
        rfl

/-- **Something is kept for each file that is mentioned**, and for each once. -/
theorem mem_keys_afterAll (hc : c.files = []) (us : List Update) :
    (keys (c.afterAll us).files).Nodup ∧
      ∀ x, x ∈ keys (c.afterAll us).files ↔ x ∈ mentioned us := by
  induction us using List.reverseRecOn with
  | nil => rw [afterAll, List.foldl_nil, hc]; exact ⟨List.nodup_nil, fun x => Iff.rfl⟩
  | append_singleton us u ih =>
    rw [afterAll_concat]
    cases u with
    | clear => rw [mentioned, sinceClear_clear]; exact ⟨List.nodup_nil, fun x => Iff.rfl⟩
    | populate batch =>
      obtain ⟨hnodup, hmem⟩ := keys_foldl_put ih.1 (group batch)
      refine ⟨hnodup, fun x => ?_⟩
      rw [after, populate]
      dsimp only
      rw [hmem, (keys_group batch).2, ih.2, mentioned, mentioned, sinceClear_populate,
        List.flatten_cons, List.map_append, List.mem_append]

/-- A group is what is kept for its file. -/
theorem lookup_of_mem (h : (keys gs).Nodup) (hg : g ∈ gs) : lookup g.1 gs = some g.2 := by
  induction gs with
  | nil => cases hg
  | cons f gs ih =>
    obtain ⟨hf, hnodup⟩ := List.nodup_cons.1 h
    rw [lookup_cons]
    rcases List.mem_cons.1 hg with rfl | hg
    · rw [if_pos (Path.same_iff.2 rfl)]
    · have hne : ¬ f.1.same g.1 = true := by
        intro e
        have hmem : g.1.components ∈ keys gs := List.mem_map_of_mem hg
        rw [← Path.same_iff.1 e] at hmem
        exact hf hmem
      rw [if_neg hne, ih hnodup hg]

/-! ## Several collections -/

section Several

variable {ι : Type} [DecidableEq ι]

/-- The collections after updates, each of one of them. -/
def updateAll (cs : ι → Collection) (us : List (ι × Update)) : ι → Collection :=
  us.foldl (fun cs u => Function.update cs u.1 ((cs u.1).after u.2)) cs

/-- The updates of one collection. -/
def ownUpdates (i : ι) (us : List (ι × Update)) : List Update :=
  (us.filter fun u => u.1 = i).map Prod.snd

/-- **An update changes no other collection.** -/
theorem updateAll_eq (cs : ι → Collection) (us : List (ι × Update)) (i : ι) :
    updateAll cs us i = (cs i).afterAll (ownUpdates i us) := by
  induction us generalizing cs with
  | nil => rfl
  | cons u us ih =>
    have hrest := ih (Function.update cs u.1 ((cs u.1).after u.2))
    rw [updateAll, List.foldl_cons]
    refine hrest.trans ?_
    by_cases hu : u.1 = i
    · subst hu
      simp [ownUpdates, afterAll]
    · simp [ownUpdates, hu, Function.update_of_ne (Ne.symm hu)]

/-- **A collection shows the latest batch of each file.** After any updates of several collections,
each is what its own updates make of it: it shows, of each file, what the newest of its batches
since its last clear that mentions the file says about it, in the order of the batch, and nothing of
any other file. It counts the files that these batches mention, and keeps one group for each, which
is not empty. -/
theorem shows_latest_batch (name : ι → String) (us : List (ι × Update)) (i : ι) :
    let c := updateAll (fun i => { name := name i }) us i
    let own := ownUpdates i us
    c = ({ name := name i } : Collection).afterAll own ∧
      (∀ p, c.get p = match latest? p own with
        | some batch => about p batch
        | none => []) ∧
      c.fileCount = (mentioned own).toFinset.card ∧
      (∀ p, p.components ∈ mentioned own ↔ c.get p ≠ []) ∧
      (keys c.files).Nodup ∧
      ∀ g ∈ c.files, g.2 ≠ [] := by
  intro c own
  have hc : c = ({ name := name i } : Collection).afterAll own := updateAll_eq _ us i
  have hlookup : ∀ p, lookup p c.files = (latest? p own).map (about p) := by
    rw [hc]
    exact lookup_afterAll rfl own
  have hkeys : (keys c.files).Nodup ∧ ∀ x, x ∈ keys c.files ↔ x ∈ mentioned own := by
    rw [hc]
    exact mem_keys_afterAll rfl own
  have hget : ∀ p, c.get p = match latest? p own with
      | some batch => about p batch
      | none => [] := by
    intro p
    rw [get_eq, hlookup]
    cases latest? p own <;> rfl
  have hlatest : ∀ p batch, latest? p own = some batch → about p batch ≠ [] := by
    intro p batch h
    simpa using List.find?_some h
  refine ⟨hc, hget, ?_, fun p => ?_, hkeys.1, fun g hg => ?_⟩
  · have hcard := List.toFinset_card_of_nodup hkeys.1
    rw [(List.toFinset.ext_iff).2 hkeys.2] at hcard
    rw [hcard, keys, List.length_map, fileCount]
  · rw [← hkeys.2, ← isSome_lookup_iff, hlookup, hget]
    cases h : latest? p own with
    | none => simp
    | some batch => simp [hlatest p batch h]
  · have hkept := hlookup g.1
    rw [lookup_of_mem hkeys.1 hg] at hkept
    obtain ⟨batch, h, hbatch⟩ := Option.map_eq_some_iff.1 hkept.symm
    rw [← hbatch]
    exact hlatest g.1 batch h

end Several

end Collection

end BuildDiagnostics
