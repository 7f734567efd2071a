import BuildDiagnostics.Proofs.LatestBatch
import BuildDiagnostics.Report
import Mathlib.Data.List.Forall2
import Mathlib.Data.List.Perm.Basic
import Std.Data.String.ToNat

/-!
# Snapshots

A collection keeps its groups in no particular order, and a snapshot sorts them: files with errors
first, and the files of either kind by path. No two groups are about the same file, so there is only
one way to sort them. A snapshot shows what is kept, and nothing of how it came to be kept.

* `Path.Component.order_eq`: components are compared by kind and then by text, so the order of paths
  is a total one, and paths that it does not tell apart are the same.
* `Snapshot.before_iff`: a file comes before another if its rank does.
* `Snapshot.pairwise_before`, `Snapshot.eq_of_before`, `Snapshot.eq_of_ranked`: groups of different
  files are sorted strictly, and in one way only.
* `Snapshot.sum_countIn`, `Report.counts_flatMap`: counts add up, over the levels and over files.
* `Collection.alike_snapshot`: collections that show the same have the same snapshot.
* `Collection.snapshot_canonical`: all this after any updates.
-/

namespace BuildDiagnostics

/-! ## The order of paths -/

namespace Path

/-- Components are ordered by their kinds, and names among themselves by their texts. -/
theorem Component.order_eq :
    Component.order = compareLex (compareOn Component.rank) (compareOn Component.text) := by
  funext a b
  cases a <;> cases b <;> rfl

instance : Std.TransOrd Component := by
  change Std.TransCmp Component.order
  rw [Component.order_eq]
  infer_instance

instance : Std.LawfulEqOrd Component where
  eq_of_compare {a b} h := by
    change Component.order a b = .eq at h
    rw [Component.order_eq, compareLex_eq_eq] at h
    obtain ⟨hrank, htext⟩ := h
    have hrank : a.rank = b.rank := Std.LawfulEqOrd.eq_of_compare hrank
    have htext : a.text = b.text := Std.LawfulEqOrd.eq_of_compare htext
    cases a <;> cases b <;> simp_all [Component.rank, Component.text]

end Path

/-! ## The order of files -/

namespace Snapshot

variable {g h : FileGroup} {gs hs : List FileGroup}

/-- An error is reported for the file. -/
def Faulty (g : FileGroup) : Prop := ∃ r ∈ g.2, r.diagnostic.classification = some .error

/-- The file comes before the other one: files with errors come first, and otherwise the path
decides. -/
def Before (g h : FileGroup) : Prop :=
  Faulty g ∧ ¬ Faulty h ∨ (Faulty g ↔ Faulty h) ∧ g.1.order h.1 = .lt

theorem hasErrors_iff : hasErrors g = true ↔ Faulty g := by
  simp [hasErrors, Faulty]

/-- What decides on the place of a file. -/
def rank (g : FileGroup) : Bool × List Path.Component := (!hasErrors g, g.1.components)

/-- The order of ranks. -/
def rankOrder : Bool × List Path.Component → Bool × List Path.Component → Ordering :=
  compareLex (compareOn Prod.fst) (compareOn Prod.snd)

instance : Std.TransCmp rankOrder := inferInstanceAs (Std.TransCmp (compareLex _ _))

instance : Std.LawfulEqCmp rankOrder where
  eq_of_compare {x y} h := by
    rw [rankOrder, compareLex_eq_eq] at h
    exact Prod.ext (Std.LawfulEqOrd.eq_of_compare h.1) (Std.LawfulEqOrd.eq_of_compare h.2)

theorem precedes_eq (g h : FileGroup) : precedes g h = (rankOrder (rank g) (rank h)).isLE := by
  unfold precedes rankOrder rank
  cases hasErrors g <;> cases hasErrors h <;> rfl

theorem before_iff : Before g h ↔ rankOrder (rank g) (rank h) = .lt := by
  have hkind : ∀ x y : Bool, (compare (!x) (!y) = .lt ↔ x = true ∧ ¬ y = true) ∧
      (compare (!x) (!y) = .eq ↔ (x = true ↔ y = true)) := by decide
  unfold Before rankOrder
  rw [← hasErrors_iff, ← hasErrors_iff, compareLex, Ordering.then_eq_lt]
  exact or_congr (hkind _ _).1.symm (and_congr_left' (hkind _ _).2.symm)

/-- Of two ranks only one comes first. -/
theorem rankOrder_asymm {x y : Bool × List Path.Component} (h : rankOrder x y = .lt) :
    rankOrder y x ≠ .lt := Std.OrientedCmp.not_lt_of_lt h

/-- **Groups of different files are sorted strictly.** -/
theorem pairwise_before (h : (Collection.keys gs).Nodup) :
    (gs.mergeSort precedes).Pairwise Before := by
  have hsorted : (gs.mergeSort precedes).Pairwise fun g h => precedes g h = true := by
    apply List.pairwise_mergeSort
    · intro a b c
      simp only [precedes_eq]
      exact Std.TransCmp.isLE_trans
    · intro a b
      have hswap : rankOrder (rank b) (rank a) = (rankOrder (rank a) (rank b)).swap :=
        Std.OrientedCmp.eq_swap
      rw [precedes_eq, precedes_eq, hswap]
      cases rankOrder (rank a) (rank b) <;> rfl
  -- sorting allows equal ranks, but no two groups have the same path
  have hapart : (gs.mergeSort precedes).Pairwise fun g h => g.1.components ≠ h.1.components :=
    List.pairwise_map.1 (((List.mergeSort_perm gs precedes).map _).nodup_iff.2 h)
  refine (hsorted.and hapart).imp fun {a b} hab => ?_
  obtain ⟨hle, hne⟩ := hab
  rw [precedes_eq] at hle
  rw [before_iff]
  cases hr : rankOrder (rank a) (rank b) with
  | lt => rfl
  | eq => exact absurd (congrArg Prod.snd (Std.LawfulEqCmp.eq_of_compare hr)) hne
  | gt => rw [hr] at hle; cases hle

/-- **There is one way to sort groups.** -/
theorem eq_of_before (hp : gs.Perm hs) (hg : gs.Pairwise Before) (hh : hs.Pairwise Before) :
    gs = hs := by
  refine List.Perm.eq_of_pairwise (fun a b _ _ hab hba => ?_) hg hh hp
  exact absurd (before_iff.1 hba) (rankOrder_asymm (before_iff.1 hab))

/-- **Files with the same ranks are sorted in the same way.** -/
theorem eq_of_ranked (hmem : ∀ x, x ∈ gs.map rank ↔ x ∈ hs.map rank) (hg : gs.Pairwise Before)
    (hh : hs.Pairwise Before) : gs.map rank = hs.map rank := by
  have hsorted : ∀ {fs : List FileGroup}, fs.Pairwise Before →
      (fs.map rank).Pairwise fun x y => rankOrder x y = .lt := fun h =>
    List.pairwise_map.2 (h.imp before_iff.1)
  have hnodup : ∀ {fs : List FileGroup}, fs.Pairwise Before → (fs.map rank).Nodup := by
    intro fs h
    refine (hsorted h).imp fun {x y} hxy => ?_
    rintro rfl
    exact rankOrder_asymm hxy hxy
  have hperm := (List.perm_ext_iff_of_nodup (hnodup hg) (hnodup hh)).2 hmem
  refine List.Perm.eq_of_pairwise (fun x y _ _ hxy hyx => ?_) (hsorted hg) (hsorted hh) hperm
  exact absurd hyx (rankOrder_asymm hxy)

/-! ## Counting -/

theorem countIn_append (level : Severity) (xs ys : List Resolved) :
    countIn level (xs ++ ys) = countIn level xs + countIn level ys := List.countP_append

/-- The levels together count the diagnostics that have one. -/
theorem sum_countIn (rs : List Resolved) :
    countIn .error rs + countIn .warning rs + countIn .information rs =
      rs.countP fun r => r.diagnostic.classification.isSome := by
  induction rs with
  | nil => rfl
  | cons r rs ih =>
    unfold countIn at ih ⊢
    simp only [List.countP_cons, ← ih]
    cases r.diagnostic.classification with
    | none => rfl
    | some level => cases level <;> simp <;> omega

end Snapshot

namespace Report

open Snapshot (countIn)

/-- The numbers in a row of the table of counts. -/
def numbersOf (row : List String) : List Nat := row.tail.map fun cell => cell.toNat?.getD 0

/-- The sums of the columns of a table of counts. -/
def columnSums (rows : List (List Nat)) : List Nat := rows.foldr (List.zipWith (· + ·)) [0, 0, 0, 0]

theorem numbersOf_countRow (title : String) (rs : List Resolved) :
    numbersOf (countRow title rs) = counts rs := by
  simp [numbersOf, countRow, Function.comp_def]

/-- **The counts of the files add up** to the counts of all their diagnostics. -/
theorem counts_flatMap (gs : List FileGroup) :
    counts (gs.flatMap Prod.snd) = columnSums (gs.map fun g => counts g.2) := by
  induction gs with
  | nil => rfl
  | cons g gs ih =>
    rw [List.map_cons, columnSums, List.foldr_cons, ← columnSums, ← ih, List.flatMap_cons]
    simp only [counts, Snapshot.countIn_append, List.length_append]
    rfl

end Report

/-! ## Contents -/

/-- The places are the same, and so is what is said of them. -/
structure ResolvedRelated.Alike (x y : ResolvedRelated) : Prop where
  path : x.path.components = y.path.components
  range : x.range = y.range
  message : x.message = y.message

/-- The diagnostic is the same and shown at the same place. -/
structure Resolved.Alike (x y : Resolved) : Prop where
  diagnostic : x.diagnostic = y.diagnostic
  path : x.path.components = y.path.components
  range : x.range = y.range
  related : List.Forall₂ ResolvedRelated.Alike x.related y.related
  synthetic : x.synthetic = y.synthetic

/-- The groups are about the same file and hold the same diagnostics. -/
structure FileGroup.Alike (g h : FileGroup) : Prop where
  path : g.1.components = h.1.components
  items : List.Forall₂ Resolved.Alike g.2 h.2

theorem FileGroup.Alike.rank_eq {g h : FileGroup} (hgh : g.Alike h) :
    Snapshot.rank g = Snapshot.rank h := by
  have herrors : ∀ xs ys : List Resolved, List.Forall₂ Resolved.Alike xs ys →
      xs.any (fun r => r.diagnostic.classification == some .error) =
        ys.any (fun r => r.diagnostic.classification == some .error) := by
    intro xs ys hxys
    induction hxys with
    | nil => rfl
    | cons hxy _ ih => rw [List.any_cons, List.any_cons, ih, hxy.diagnostic]
  rw [Snapshot.rank, Snapshot.rank, Snapshot.hasErrors, herrors _ _ hgh.items, hgh.path]
  rfl

namespace Collection

variable {c d : Collection} {g h : FileGroup} {p : Path}

/-- There is one group for each file, and it is not empty. -/
structure WellKept (c : Collection) : Prop where
  nodup : (keys c.files).Nodup
  ne_nil : ∀ g ∈ c.files, g.2 ≠ []

theorem wellKept_afterAll (name : String) (us : List Update) :
    (({ name := name } : Collection).afterAll us).WellKept := by
  have hnodup := (mem_keys_afterAll (c := { name := name }) rfl us).1
  refine ⟨hnodup, fun g hg => ?_⟩
  have hkept := lookup_afterAll (c := { name := name }) rfl us g.1
  rw [lookup_of_mem hnodup hg] at hkept
  obtain ⟨batch, hlatest, hbatch⟩ := Option.map_eq_some_iff.1 hkept.symm
  rw [← hbatch]
  simpa using List.find?_some hlatest

theorem get_congr (c : Collection) {p q : Path} (h : p.components = q.components) :
    c.get p = c.get q := by
  unfold get find? Path.same
  rw [h]

theorem get_of_mem (hc : c.WellKept) (hg : g ∈ c.files) : c.get g.1 = g.2 := by
  rw [get_eq, lookup_of_mem hc.nodup hg]
  rfl

/-- A file that has a group in one collection has one in another that shows as much of it. -/
theorem exists_of_mem (hc : c.WellKept) (hg : g ∈ c.files)
    (hlength : (c.get g.1).length = (d.get g.1).length) :
    ∃ h ∈ d.files, h.1.components = g.1.components := by
  have hmem : g.1.components ∈ keys d.files := by
    rw [← isSome_lookup_iff, Option.isSome_iff_ne_none]
    intro hnone
    rw [get_of_mem hc hg, get_eq, hnone] at hlength
    exact hc.ne_nil g hg (List.length_eq_zero_iff.1 hlength)
  exact List.mem_map.1 hmem

section Alike

variable (hc : c.WellKept) (hd : d.WellKept)
  (hcd : ∀ p, List.Forall₂ Resolved.Alike (c.get p) (d.get p))

include hc hd hcd

theorem alike_of_mem (hg : g ∈ c.files) (hh : h ∈ d.files)
    (hgh : g.1.components = h.1.components) : g.Alike h := by
  have hitems := hcd g.1
  rw [get_of_mem hc hg, get_congr d hgh, get_of_mem hd hh] at hitems
  exact ⟨hgh, hitems⟩

/-- The files have the same ranks in both collections. -/
theorem mem_ranks (x : Bool × List Path.Component) :
    x ∈ c.files.map Snapshot.rank ↔ x ∈ d.files.map Snapshot.rank := by
  constructor
  · intro hx
    obtain ⟨g, hg, rfl⟩ := List.mem_map.1 hx
    obtain ⟨h, hh, hkey⟩ := exists_of_mem hc hg (hcd g.1).length_eq
    exact List.mem_map.2 ⟨h, hh, (alike_of_mem hc hd hcd hg hh hkey.symm).rank_eq.symm⟩
  · intro hx
    obtain ⟨h, hh, rfl⟩ := List.mem_map.1 hx
    obtain ⟨g, hg, hkey⟩ := exists_of_mem hd hh (hcd h.1).length_eq.symm
    exact List.mem_map.2 ⟨g, hg, (alike_of_mem hc hd hcd hg hh hkey).rank_eq⟩

/-- **Collections that show the same have the same snapshot.** -/
theorem alike_snapshot : List.Forall₂ FileGroup.Alike c.snapshot.files d.snapshot.files := by
  have hpc : c.snapshot.files.Perm c.files := List.mergeSort_perm _ _
  have hpd : d.snapshot.files.Perm d.files := List.mergeSort_perm _ _
  have hranks : c.snapshot.files.map Snapshot.rank = d.snapshot.files.map Snapshot.rank := by
    refine Snapshot.eq_of_ranked (fun x => ?_) (Snapshot.pairwise_before hc.nodup)
      (Snapshot.pairwise_before hd.nodup)
    rw [(hpc.map Snapshot.rank).mem_iff, (hpd.map Snapshot.rank).mem_iff]
    exact mem_ranks hc hd hcd x
  rw [← List.forall₂_eq_eq_eq, List.forall₂_map_left_iff, List.forall₂_map_right_iff,
    List.forall₂_iff_zip] at hranks
  refine List.forall₂_iff_zip.2 ⟨hranks.1, fun {g h} hgh => ?_⟩
  obtain ⟨hg, hh⟩ := List.of_mem_zip hgh
  exact alike_of_mem hc hd hcd (hpc.mem_iff.1 hg) (hpd.mem_iff.1 hh)
    (congrArg Prod.snd (hranks.2 hgh))

end Alike

/-- **Snapshots are canonical.** A snapshot of a collection after any updates has the groups that
are kept, files with errors first and each kind by path. It is the same for every order in which the
groups may be kept, and alike for all updates that leave the same to be shown. The levels count no
diagnostic twice, and all of them if each has a level. In the table of counts the row of each file
counts its diagnostics, and the last row has what the snapshot counts, the sums of the rows
above it. -/
theorem snapshot_canonical (name : String) (us vs : List Update) :
    let c := ({ name := name } : Collection).afterAll us
    let d := ({ name := name } : Collection).afterAll vs
    let s := c.snapshot
    s.files.Perm c.files ∧
      s.files.Pairwise Snapshot.Before ∧
      (∀ e : Collection, e.files.Perm c.files → e.snapshot = s) ∧
      ((∀ p, List.Forall₂ Resolved.Alike (c.get p) (d.get p)) →
        List.Forall₂ FileGroup.Alike s.files d.snapshot.files) ∧
      s.count .error + s.count .warning + s.count .information ≤ s.total ∧
      (s.count .error + s.count .warning + s.count .information = s.total ↔
        ∀ r ∈ s.items, r.diagnostic.classification.isSome = true) ∧
      ∃ rows total, (Report.summaryTable s).rows = rows ++ [total] ∧
        rows.map (fun row => (row.headD "", Report.numbersOf row)) =
          s.files.map (fun g => (g.1.text, Report.counts g.2)) ∧
        Report.numbersOf total =
          [s.count .error, s.count .warning, s.count .information, s.total] ∧
        Report.numbersOf total = Report.columnSums (rows.map Report.numbersOf) := by
  intro c d s
  have hc : c.WellKept := wellKept_afterAll name us
  have hperm : s.files.Perm c.files := List.mergeSort_perm _ _
  have hbefore : s.files.Pairwise Snapshot.Before := Snapshot.pairwise_before hc.nodup
  have hcount : s.count .error + s.count .warning + s.count .information =
      s.items.countP fun r => r.diagnostic.classification.isSome := Snapshot.sum_countIn s.items
  refine ⟨hperm, hbefore, fun e he => ?_, ?_, ?_, ?_, ?_⟩
  · have hkeys : (keys e.files).Nodup := (he.map _).nodup_iff.2 hc.nodup
    have hsorted : e.snapshot.files.Perm e.files := List.mergeSort_perm _ _
    exact congrArg Snapshot.mk (Snapshot.eq_of_before ((hsorted.trans he).trans hperm.symm)
      (Snapshot.pairwise_before hkeys) hbefore)
  · exact alike_snapshot hc (wellKept_afterAll name vs)
  · rw [hcount]
    exact List.countP_le_length
  · rw [hcount]
    exact List.countP_eq_length
  · refine ⟨_, _, rfl, ?_, Report.numbersOf_countRow _ _, ?_⟩
    · rw [List.map_map]
      exact List.map_congr_left fun g _ => Prod.ext rfl (Report.numbersOf_countRow g.1.text g.2)
    · rw [Report.numbersOf_countRow, List.map_map, Snapshot.items, Report.counts_flatMap]
      simp only [Function.comp_def, Report.numbersOf_countRow]

/-- A file with an error that comes after one without, and the same files in the other order with
one path written in another way. -/
theorem snapshot_canonical_two_files :
    let shown (path severity : String) : Resolved := {
      diagnostic := {
        file := path, range := .restOfLine 0 0, severity := severity, message := "m",
        source := "GCC" }
      path := ⟨path⟩, range := .restOfLine 0 0, related := [], synthetic := false }
    let calm := shown "/p/a.c" "warning"
    let grave := shown "/p/z.c" "fatal error"
    let again := { grave with path := ⟨"/p//z.c"⟩ }
    let c := ({ name := "build" } : Collection).afterAll [.populate [calm, grave]]
    let d := ({ name := "build" } : Collection).afterAll [.populate [again], .populate [calm]]
    let e : Collection := { name := "build", files := c.files.reverse }
    c.snapshot.files = [(⟨"/p/z.c"⟩, [grave]), (⟨"/p/a.c"⟩, [calm])] ∧
      e.files.Perm c.files ∧ e.snapshot = c.snapshot ∧
      (∀ p, List.Forall₂ Resolved.Alike (c.get p) (d.get p)) ∧
      List.Forall₂ FileGroup.Alike c.snapshot.files d.snapshot.files := by
  intro shown calm grave again c d e
  have hc : c.files = [(⟨"/p/a.c"⟩, [calm]), (⟨"/p/z.c"⟩, [grave])] := by decide +kernel
  have hd : d.files = [(⟨"/p//z.c"⟩, [again]), (⟨"/p/a.c"⟩, [calm])] := by decide +kernel
  have hcalm : calm.Alike calm := ⟨rfl, rfl, rfl, .nil, rfl⟩
  have hgrave : grave.Alike again := ⟨rfl, by decide +kernel, rfl, .nil, rfl⟩
  have hcd : ∀ p, List.Forall₂ Resolved.Alike (c.get p) (d.get p) := by
    intro p
    have hz : (⟨"/p//z.c"⟩ : Path).same p = (⟨"/p/z.c"⟩ : Path).same p :=
      congrArg (· == p.components) hgrave.path.symm
    rw [get_eq, get_eq, hc, hd, lookup_cons, lookup_cons, lookup_cons, lookup_cons, hz]
    by_cases hp : (⟨"/p/a.c"⟩ : Path).same p = true
    · have hne : ¬ (⟨"/p/z.c"⟩ : Path).same p = true := fun h =>
        absurd ((Path.same_iff.1 hp).trans (Path.same_iff.1 h).symm) (by decide +kernel)
      rw [if_pos hp, if_neg hne, if_pos hp]
      exact .cons hcalm .nil
    · rw [if_neg hp, if_neg hp]
      split
      · exact .cons hgrave .nil
      · exact .nil
  obtain ⟨hfiles, hbefore, horder, halike, -⟩ := snapshot_canonical "build"
    [.populate [calm, grave]] [.populate [again], .populate [calm]]
  have he : e.files.Perm c.files := List.reverse_perm _
  refine ⟨?_, he, horder e he, hcd, halike hcd⟩
  refine Snapshot.eq_of_before (hfiles.trans ?_) hbefore ?_
  · rw [hc]
    exact .swap _ _ _
  · refine .cons (fun g hg => ?_) (List.pairwise_singleton _ _)
    rw [List.mem_singleton.1 hg]
    exact Snapshot.before_iff.2 (by decide +kernel)

end Collection

end BuildDiagnostics
