import BuildDiagnostics.Proofs.OrphanLayout
import BuildDiagnostics.Proofs.WrittenFile

/-!
# Resolving a batch

When `resolve` succeeds, each diagnostic of the batch has one result, and the orphans among them are
those for which no file was found. Their file has been written from scratch, or removed when there
are none.

* `anchors_spec`, `layOut_shows`: what each result takes from its diagnostic.
* `read_writeOrphans`, `pathExists_writeOrphans`: what is at the path of the file in the end.
* `orphans_match_file`: the ranges of the orphans lead to their blocks in the file on the disk.
-/

namespace BuildDiagnostics.Resolver

variable {r : Resolver} {d d' : Disk} {bases : List Path}

/-- The result shows the diagnostic: it carries the diagnostic and its related places in order, each
with its file. It keeps the range of a diagnostic that has a file, and only an orphan has none. -/
structure Shows (d : Disk) (bases : List Path) (diag : Diagnostic) (x : Resolved) : Prop where
  diagnostic : x.diagnostic = diag
  related : List.Forall₂ (fun r y => resolvePath d bases r.file = .ok y.path ∧ y.range = r.range ∧
    y.message = r.message) diag.related x.related
  found : x.synthetic = false →
    anchorFile d bases diag.file = .ok (some x.path) ∧ x.range = diag.range
  orphan : x.synthetic = true → anchorFile d bases diag.file = .ok none

/-! ## Anchors -/

/-- A list that is mapped without a failure is mapped element by element. -/
theorem forall₂_of_mapM {α β ε : Type} {f : α → Except ε β} {xs : List α} {ys : List β}
    (h : xs.mapM f = .ok ys) : List.Forall₂ (fun x y => f x = .ok y) xs ys := by
  induction xs generalizing ys with
  | nil => cases h; exact .nil
  | cons x xs ih =>
    rw [List.mapM_cons] at h
    cases hx : f x with
    | error e => rw [hx] at h; exact absurd h (by simp [bind, Except.bind])
    | ok y =>
      cases hxs : xs.mapM f with
      | error e => rw [hx, hxs] at h; exact absurd h (by simp [bind, Except.bind])
      | ok zs =>
        rw [hx, hxs] at h
        cases h
        exact .cons hx (ih hxs)

theorem anchorRelated_spec {x : Related} {y : ResolvedRelated}
    (h : anchorRelated d bases x = .ok y) :
    resolvePath d bases x.file = .ok y.path ∧ y.range = x.range ∧ y.message = x.message := by
  unfold anchorRelated at h
  split at h
  · exact absurd h (by simp)
  · rename_i p hp
    cases h
    exact ⟨hp, rfl, rfl⟩

theorem anchor_spec {diag : Diagnostic} {a : Anchor} (h : anchor d bases diag = .ok a) :
    a.diagnostic = diag ∧ anchorFile d bases diag.file = .ok a.path ∧
      List.Forall₂ (fun r y => resolvePath d bases r.file = .ok y.path ∧ y.range = r.range ∧
        y.message = r.message) diag.related a.related := by
  unfold anchor at h
  split at h
  · exact absurd h (by simp)
  rename_i related hrelated
  split at h
  · exact absurd h (by simp)
  rename_i path hpath
  cases h
  exact ⟨rfl, hpath, (forall₂_of_mapM hrelated).imp fun _ _ => anchorRelated_spec⟩

/-- **Each diagnostic has one result, in order.** -/
theorem layOut_shows {batch : List Diagnostic} {as : List Anchor}
    (h : anchors d bases batch = .ok as) (file : Path) (next number : Nat) :
    List.Forall₂ (Shows d bases) batch (layOut file next number as).1 := by
  have has : List.Forall₂ (fun diag a => anchor d bases diag = .ok a) batch as := forall₂_of_mapM h
  clear h
  induction has generalizing next number with
  | nil => exact .nil
  | cons ha _ ih =>
    obtain ⟨rfl, hfile, hrelated⟩ := anchor_spec ha
    rename_i a _ _ _
    cases hp : a.path with
    | some p =>
      rw [layOut_found hp]
      rw [hp] at hfile
      exact .cons ⟨rfl, hrelated, fun _ => ⟨hfile, rfl⟩, fun h => absurd h (by simp)⟩ (ih _ _)
    | none =>
      rw [layOut_orphan hp]
      rw [hp] at hfile
      exact .cons ⟨rfl, hrelated, fun h => absurd h (by simp), fun _ => hfile⟩ (ih _ _)

/-! ## The file on the disk -/

/-- The path of the file is that of its directory and then its name. -/
theorem pieces_orphansPath (r : Resolver) :
    ∃ init, Text.pieces '/' r.orphansPath.text.toList = init ++ [orphansName.toList] ∧
      (Text.pieces '/' r.directory.text.toList = init ∨
        Text.pieces '/' r.directory.text.toList = init ++ [[]]) := by
  have hname : '/' ∉ orphansName.toList := by decide
  have hroot : Path.startsAtRoot orphansName.toList = false := by decide
  unfold orphansPath Path.join
  rw [hroot]
  simp only [Bool.false_eq_true, if_false]
  split
  · rename_i h
    rw [String.toList_append]
    rcases List.eq_nil_or_concat r.directory.text.toList with hd | ⟨s, c, hd⟩
    · rw [hd, List.nil_append, Text.pieces_of_not_mem hname]
      exact ⟨[], rfl, .inr rfl⟩
    · -- a directory with a slash at its end is joined without another one
      have hne : r.directory.text.isEmpty = false := by
        rw [← Bool.not_eq_true, String.isEmpty_iff, ← String.toList_eq_nil_iff, hd]
        simp
      have hc : c = '/' := by
        rw [hne, hd, List.concat_eq_append, List.getLast?_concat] at h
        simpa using h
      rw [hd, hc, List.concat_eq_append, List.append_assoc, List.singleton_append,
        Text.pieces_concat hname]
      exact ⟨_, rfl, .inr (Text.pieces_concat List.not_mem_nil s)⟩
  · rw [String.toList_append, String.toList_append, List.append_assoc]
    exact ⟨_, Text.pieces_concat hname _, .inl rfl⟩

/-- **The text is what the file holds.** -/
theorem read_writeOrphans {text : String} (h : r.writeOrphans d true text = (.ok (), d')) :
    d'.read r.orphansPath = .ok (Utf8.encode text) := by
  obtain ⟨init, hinit, -⟩ := pieces_orphansPath r
  unfold writeOrphans at h
  dsimp only at h
  rw [if_pos rfl] at h
  split at h
  · exact absurd h (by simp)
  split at h
  · exact absurd h (by simp)
  · rename_i hw
    cases h
    exact Disk.read_write hinit (by decide) hw

/-- **Without orphans there is no file of them.** -/
theorem pathExists_writeOrphans {text : String} (h : r.writeOrphans d false text = (.ok (), d')) :
    d'.pathExists r.orphansPath = false := by
  unfold writeOrphans at h
  simp only [Bool.false_eq_true, if_false] at h
  split at h
  · split at h
    · exact absurd h (by simp)
    · rename_i hr
      cases h
      exact Disk.pathExists_removeFile hr
  · rename_i hp
    cases h
    simpa using hp

theorem resolve_spec {batch : List Diagnostic} {results : List Resolved}
    (h : r.resolve d bases batch = (.ok results, d')) :
    ∃ as, anchors d bases batch = .ok as ∧ results = (layOut r.orphansPath 0 0 as).1 ∧
      r.writeOrphans d (results.any (·.synthetic)) (layOut r.orphansPath 0 0 as).2 =
        (.ok (), d') := by
  unfold resolve at h
  split at h
  · exact absurd h (by simp)
  rename_i as has
  dsimp only at h
  split at h
  · exact absurd h (by simp)
  · rename_i hw
    cases h
    exact ⟨as, has, rfl, hw⟩

theorem any_synthetic (results : List Resolved) :
    results.any (·.synthetic) = true ↔ orphans results ≠ [] := by
  unfold orphans
  rw [List.any_eq_true, ← List.isEmpty_eq_false_iff]
  simp

theorem mem_batch_of_mem {batch : List Diagnostic} {results : List Resolved}
    (h : List.Forall₂ (Shows d bases) batch results) {x : Resolved} (hx : x ∈ results) :
    x.diagnostic ∈ batch := by
  induction h with
  | nil => exact absurd hx (by simp)
  | cons hs _ ih =>
    rcases List.mem_cons.1 hx with rfl | hx
    · rw [hs.diagnostic]; exact List.mem_cons_self
    · exact List.mem_cons_of_mem _ (ih hx)

/-- Ranges that end before the next one starts have different first lines. -/
theorem nodup_start {xs : List Resolved}
    (horder : ∀ x ∈ xs, x.range.start.line < x.range.stop.line)
    (h : xs.Pairwise fun x y => x.range.stop.line < y.range.start.line) :
    (xs.map (·.range.start.line)).Nodup := by
  rw [List.Nodup, List.pairwise_map]
  refine h.imp_of_mem ?_
  intro x y hx _ hxy heq
  exact absurd (UInt32.lt_trans (horder x hx) hxy) (by rw [heq]; exact UInt32.lt_irrefl _)

/-- **The file is there exactly if there is an orphan.** -/
theorem pathExists_orphansPath {results : List Resolved} {text : String}
    (h : r.writeOrphans d (results.any (·.synthetic)) text = (.ok (), d')) :
    d'.pathExists r.orphansPath = true ↔ orphans results ≠ [] := by
  rw [← any_synthetic]
  cases ha : results.any (·.synthetic) with
  | true =>
    rw [ha] at h
    exact iff_of_true (Disk.pathExists_of_read (read_writeOrphans h)) rfl
  | false =>
    rw [ha] at h
    rw [pathExists_writeOrphans h]

/-- The file of orphans has no other lines than their blocks. -/
theorem fileLines_orphanLines {results : List Resolved}
    (hone : ∀ x ∈ results, OneLine x.diagnostic) :
    fileLines (unlines (orphanLines results)) = orphanLines results := by
  apply fileLines_unlines
  intro l hl
  refine not_mem_blocks ?_ hl
  intro diag hdiag
  obtain ⟨x, hx, rfl⟩ := List.mem_map.1 hdiag
  exact hone x (List.mem_of_mem_filter hx)

/-- **The file and the ranges agree.** When a batch is resolved whose printed parts hold no line
feed and whose orphans take up fewer than `UInt32.size` lines, each diagnostic has one result in its
place, the range of each orphan covers its block in the lines of the file, no two ranges overlap,
and the file is on the disk with these lines exactly if there is an orphan. -/
theorem orphans_match_file {batch : List Diagnostic} {results : List Resolved}
    (hone : ∀ diag ∈ batch, OneLine diag) (hshort : (orphanLines results).length < UInt32.size)
    (h : r.resolve d bases batch = (.ok results, d')) :
    List.Forall₂ (Shows d bases) batch results ∧
      (∀ k x, (orphans results)[k]? = some x →
        x.path = r.orphansPath ∧ Covers (orphanLines results) (k + 1) x.diagnostic x.range) ∧
      ((orphans results).Pairwise fun x y => x.range.stop.line < y.range.start.line) ∧
      ((orphans results).map (·.range.start.line)).Nodup ∧
      (d'.pathExists r.orphansPath = true ↔ orphans results ≠ []) ∧
      (orphans results ≠ [] →
        ∃ text, d'.read r.orphansPath = .ok (Utf8.encode text) ∧
          text = unlines (orphanLines results) ∧ fileLines text = orphanLines results) := by
  obtain ⟨as, has, hresults, hwrite⟩ := resolve_spec h
  have hshows : List.Forall₂ (Shows d bases) batch results := by
    rw [hresults]; exact layOut_shows has _ _ _
  -- no line comes before the first block, and no orphan before the first one
  have htext := layOut_text as r.orphansPath 0 0
  have hlayout := layOut_covers as r.orphansPath [] 0
  rw [← hresults] at htext
  rw [List.length_nil, ← hresults] at hlayout
  obtain ⟨hcovers, hpairwise⟩ := hlayout hshort
  have hplace : ∀ k x, (orphans results)[k]? = some x →
      x.path = r.orphansPath ∧ Covers (orphanLines results) (k + 1) x.diagnostic x.range := by
    intro k x hx
    obtain ⟨hpath, -, hc⟩ := hcovers k x hx
    rw [Nat.zero_add] at hc
    exact ⟨hpath, hc⟩
  have horder : ∀ x ∈ orphans results, x.range.start.line < x.range.stop.line := by
    intro x hx
    obtain ⟨k, hk⟩ := List.mem_iff_getElem?.1 hx
    have := (hplace k x hk).2.order
    rw [UInt32.lt_iff_toNat_lt]
    omega
  refine ⟨hshows, hplace, hpairwise, nodup_start horder hpairwise,
    pathExists_orphansPath hwrite, ?_⟩
  intro hne
  rw [(any_synthetic results).2 hne, htext] at hwrite
  exact ⟨_, read_writeOrphans hwrite, rfl,
    fileLines_orphanLines fun x hx => hone _ (mem_batch_of_mem hshows hx)⟩

/-- Two orphans around a diagnostic that has a file; the first has a message of two lines, the
second none. -/
theorem orphans_match_file_two_orphans :
    let r : Resolver := ⟨⟨"/t"⟩⟩
    let d : Disk := ⟨[], []⟩
    let range := Range.point 0 0
    let batch : List Diagnostic := [
      { file := "ld", range, severity := "error", message := "undefined\nreference",
        source := "gnuld" },
      { file := "/a.c", range, severity := "error", message := "expected ;", source := "GCC" },
      { file := "", range, severity := "fatal error", message := "", code := some "LNK1104",
        source := "MSVC" }]
    ∃ results d', r.resolve d [] batch = (.ok results, d') ∧
      (∀ diag ∈ batch, OneLine diag) ∧ (orphanLines results).length < UInt32.size ∧
      (orphans results).map (fun x => (x.range.start.line, x.range.stop.line)) = [(0, 4), (6, 9)] ∧
      List.Forall₂ (Shows d []) batch results ∧
      d'.pathExists r.orphansPath = true := by
  intro r d range batch
  let results := (r.resolve d [] batch).1.toOption.getD []
  have hone : ∀ diag ∈ batch, OneLine diag := by
    intro diag hdiag
    rcases List.mem_cons.1 hdiag with rfl | hdiag
    · exact ⟨by decide, by decide, by decide, fun c hc => absurd hc (by simp)⟩
    rcases List.mem_cons.1 hdiag with rfl | hdiag
    · exact ⟨by decide, by decide, by decide, fun c hc => absurd hc (by simp)⟩
    rw [List.mem_singleton.1 hdiag]
    exact ⟨by decide, by decide, by decide, fun c hc => by cases hc; decide⟩
  have hresolve : r.resolve d [] batch = (.ok results, (r.resolve d [] batch).2) := by
    decide +kernel
  have hlength : (orphanLines results).length = 11 := by decide +kernel
  have hshort : (orphanLines results).length < UInt32.size := by rw [hlength]; decide
  have hranges : (orphans results).map (fun x => (x.range.start.line, x.range.stop.line)) =
      [(0, 4), (6, 9)] := by decide +kernel
  have hne : orphans results ≠ [] := by
    intro e
    rw [e] at hranges
    exact absurd hranges (by simp)
  obtain ⟨hshows, -, -, -, hexists, -⟩ := orphans_match_file hone hshort hresolve
  exact ⟨results, _, hresolve, hone, hshort, hranges, hshows, hexists.2 hne⟩

end BuildDiagnostics.Resolver
