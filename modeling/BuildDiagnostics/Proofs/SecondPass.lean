import BuildDiagnostics.Proofs.BareName
import BuildDiagnostics.Proofs.Directory

/-!
# Resolving a batch twice

Resolving a batch changes the disk: it makes directories and writes the file of orphans, or removes
an old one. Resolving the batch again then finds other files only where this changed the answer to
a question that the search asks. The file of orphans itself is written anew with the same text.

* `writeOrphans_again`: the file of orphans can be written again, and holds the same then.
* `anchors_of_shows`: results that still show the batch are found again.
* `anchors_congr`: what is found depends only on the answers of the disk that are asked for.
* `grows_writeOrphans`: when writing the file of orphans changes no answer.
* `second_pass_agrees`: when a batch is resolved alike again.
* `second_pass_differs`: a file that was found is hidden by the file of orphans.
-/

namespace BuildDiagnostics.Resolver

open Disk (Grows Alike)

variable {r : Resolver} {d d' : Disk} {bases : List Path} {batch : List Diagnostic}
  {results : List Resolved} {diag : Diagnostic} {orphaned : Bool} {text : String}

/-! ## The file of orphans -/

/-- **The file of orphans can be written again**, and holds the same then. -/
theorem writeOrphans_again (h : r.writeOrphans d orphaned text = (.ok (), d')) :
    ∃ d'', r.writeOrphans d' orphaned text = (.ok (), d'') ∧
      d''.read r.orphansPath = d'.read r.orphansPath := by
  cases orphaned with
  | false =>
    refine ⟨d', ?_, rfl⟩
    unfold writeOrphans
    simp only [Bool.false_eq_true, if_false, pathExists_writeOrphans h]
  | true =>
    have hread := read_writeOrphans h
    obtain ⟨d'', hagain⟩ : ∃ d'', r.writeOrphans d' true text = (.ok (), d'') := by
      unfold writeOrphans at h ⊢
      simp only [if_true] at h ⊢
      split at h
      · cases h
      rename_i d₁ hmade
      split at h
      · cases h
      rename_i hwrite
      cases h
      obtain ⟨hgrow, hcwd⟩ := Disk.grows_write hwrite
      obtain ⟨d₂, hwrite'⟩ := Disk.write_again hwrite
      rw [Disk.createDirectories_again hmade hgrow hcwd]
      dsimp only
      rw [hwrite']
      exact ⟨d₂, rfl⟩
    exact ⟨d'', hagain, (read_writeOrphans hagain).trans hread.symm⟩

theorem cwd_writeOrphans (h : r.writeOrphans d orphaned text = (.ok (), d')) :
    d'.cwd = d.cwd := by
  unfold writeOrphans at h
  dsimp only at h
  split at h
  · split at h
    · cases h
    rename_i hmade
    split at h
    · cases h
    rename_i hwrite
    cases h
    exact (Disk.grows_write hwrite).2.trans (Disk.grows_createDirectories hmade).2
  · split at h
    · split at h
      · cases h
      · rename_i hremoved
        cases h
        exact Disk.cwd_removeFile hremoved
    · cases h; rfl

/-! ## When writing changes no answer -/

theorem startsAtRoot_append {s : List Char} (hs : s ≠ []) (t : List Char) :
    Path.startsAtRoot (s ++ t) = Path.startsAtRoot s := by
  obtain ⟨c, s, rfl⟩ := List.exists_cons_of_ne_nil hs
  by_cases hc : c = '/'
  · rw [hc]; rfl
  · unfold Path.startsAtRoot
    split
    · rename_i heq; cases heq; exact absurd rfl hc
    · split
      · rename_i heq; cases heq; exact absurd rfl hc
      · rfl

/-- The file of orphans lies in its directory. -/
theorem isDirectory_directory (h : d.pathExists r.orphansPath = true)
    (hne : r.directory.text.isEmpty = false) : d.isDirectory r.directory = true := by
  obtain ⟨init, hinit, hdirectory⟩ := pieces_orphansPath r
  obtain ⟨rest, hrest⟩ : ∃ rest, r.orphansPath.text = r.directory.text ++ rest := by
    have hroot : Path.startsAtRoot orphansName.toList = false := by decide
    unfold orphansPath Path.join
    rw [hroot]
    simp only [Bool.false_eq_true, if_false]
    split
    · exact ⟨_, rfl⟩
    · exact ⟨_, String.append_assoc⟩
  -- the path goes on behind the directory
  obtain ⟨loc, hlocate⟩ : ∃ loc, d.locate r.orphansPath = .ok loc := by
    unfold Disk.pathExists Disk.stat at h
    cases hl : d.locate r.orphansPath with
    | error f => rw [hl] at h; cases h
    | ok loc => exact ⟨loc, rfl⟩
  obtain ⟨hr, hw⟩ := Disk.locate_iff.1 hlocate
  rw [hinit] at hw
  obtain ⟨m, hm, hname⟩ := Disk.walk_append.1 hw
  obtain ⟨n, henter, -⟩ := Disk.walk_cons.1 hname
  have hdir := Disk.walk_filter_iff.2
    (Disk.walk_concat_nil_iff.2 ⟨hm, Disk.node?_of_enter henter⟩)
  have hparts : Disk.parts r.directory = init.filter (· != []) := by
    unfold Disk.parts
    rcases hdirectory with hd | hd <;> rw [hd]
    simp
  have horigin : d.origin r.orphansPath = d.origin r.directory := by
    have habsolute : r.orphansPath.isAbsolute = r.directory.isAbsolute := by
      unfold Path.isAbsolute
      rw [hrest, String.toList_append]
      refine startsAtRoot_append ?_ _
      rw [Ne, String.toList_eq_nil_iff, ← String.isEmpty_iff, hne]
      simp
    unfold Disk.origin
    rw [habsolute]
  have hrefusal : Disk.refusal? r.directory = none := by
    obtain ⟨hnul, -, hsize⟩ := Disk.refusal?_eq_none_iff.1 hr
    rw [hrest] at hnul hsize
    refine Disk.refusal?_eq_none_iff.2 ⟨?_, ?_, ?_⟩
    · intro hmem
      exact hnul (by rw [String.toList_append]; exact List.mem_append_left _ hmem)
    · rintro he
      rw [he] at hne
      cases hne
    · rw [String.utf8ByteSize_append] at hsize
      omega
  refine Disk.isDirectory_iff.2 ⟨hrefusal, m, ?_⟩
  rw [hparts, ← horigin]
  exact hdir

/-- **Writing changes no answer** if the file of orphans was there exactly if it is there now. -/
theorem grows_writeOrphans (h : r.writeOrphans d orphaned text = (.ok (), d'))
    (hthere : d.pathExists r.orphansPath = orphaned) : Grows d d' ∧ Grows d' d := by
  unfold writeOrphans at h
  dsimp only at h
  cases orphaned with
  | false =>
    simp only [Bool.false_eq_true, if_false, hthere] at h
    cases h
    exact ⟨.refl, .refl⟩
  | true =>
    -- the directory is there, so only the file is written
    have hmade : d.createDirectories r.directory = (.ok (), d) := by
      cases hne : r.directory.text.isEmpty with
      | true => exact Disk.createDirectories_of_empty hne
      | false => exact Disk.createDirectories_of_isDirectory (isDirectory_directory hthere hne)
    simp only [if_true, hmade] at h
    split at h
    · cases h
    rename_i hwrite
    cases h
    obtain ⟨init, hinit, -⟩ := pieces_orphansPath r
    exact ⟨(Disk.grows_write hwrite).1,
      Disk.grows_write_back hinit (by decide) hwrite hthere⟩

/-! ## What is found again -/

/-- The place that a result was made from. -/
def anchorOf (x : Resolved) : Anchor :=
  ⟨x.diagnostic, x.related, if x.synthetic then none else some x.path⟩

theorem layOut_anchorOf (as : List Anchor) (file : Path) (next number : Nat) :
    (layOut file next number as).1.map anchorOf = as := by
  induction as generalizing next number with
  | nil => rfl
  | cons a rest ih =>
    cases ha : a.path with
    | some p =>
      rw [layOut_found ha, List.map_cons, ih, anchorOf]
      dsimp only
      rw [if_neg (by simp), ← ha]
    | none =>
      rw [layOut_orphan ha, List.map_cons, ih, anchorOf]
      dsimp only
      rw [if_pos rfl, ← ha]

/-- A list whose elements are mapped without a failure is mapped without one. -/
theorem mapM_of_forall₂ {α β ε : Type} {f : α → Except ε β} {xs : List α} {ys : List β}
    (h : List.Forall₂ (fun x y => f x = .ok y) xs ys) : xs.mapM f = .ok ys := by
  induction h with
  | nil => rfl
  | cons hx _ ih => rw [List.mapM_cons, hx, ih]; rfl

/-- **Results that show the batch are found again.** -/
theorem anchors_of_shows (h : List.Forall₂ (Shows d bases) batch results) :
    anchors d bases batch = .ok (results.map anchorOf) := by
  refine mapM_of_forall₂ (List.forall₂_map_right_iff.2 (h.imp fun diag x hx => ?_))
  have hrelated : diag.related.mapM (anchorRelated d bases) = .ok x.related := by
    refine mapM_of_forall₂ (hx.related.imp fun y z hz => ?_)
    unfold anchorRelated
    rw [hz.1, ← hz.2.1, ← hz.2.2]
  have hpath : anchorFile d bases diag.file =
      .ok (if x.synthetic then none else some x.path) := by
    cases hs : x.synthetic with
    | true => rw [hx.orphan hs]; rfl
    | false => rw [(hx.found hs).1]; rfl
  unfold anchor
  rw [hrelated, hpath, anchorOf, hx.diagnostic]

/-! ## The same answers -/

section Congr

variable {file : List Char}

theorem findExisting_congr (h : ∀ b ∈ bases, Alike d d' (candidate b file)) :
    findExisting d' file bases = findExisting d file bases := by
  induction bases with
  | nil => rfl
  | cons base rest ih =>
    rw [findExisting, findExisting, (h base List.mem_cons_self).tryExists,
      ih fun b hb => h b (List.mem_cons_of_mem _ hb)]

variable {reference : String}

theorem resolvePath_congr (hcwd : d'.cwd = d.cwd)
    (h : Reference.isAbsolute (Text.trim reference.toList) = false →
      ∀ b ∈ bases, Alike d d' (candidate b (Text.trim reference.toList))) :
    resolvePath d' bases reference = resolvePath d bases reference := by
  unfold resolvePath fallback Disk.workingDirectory
  dsimp only
  cases habsolute : Reference.isAbsolute (Text.trim reference.toList) with
  | true => rfl
  | false => rw [findExisting_congr (h habsolute), hcwd]

theorem anchorFile_congr (hcwd : d'.cwd = d.cwd)
    (h : ((Text.trim reference.toList).isEmpty ||
        Reference.hasBinaryExtension (Text.trim reference.toList)) = false →
      Reference.isAbsolute (Text.trim reference.toList) = false →
      ∀ b ∈ bases, Alike d d' (candidate b (Text.trim reference.toList))) :
    anchorFile d' bases reference = anchorFile d bases reference := by
  unfold anchorFile
  dsimp only
  cases hsource : (Text.trim reference.toList).isEmpty ||
      Reference.hasBinaryExtension (Text.trim reference.toList) with
  | true => rfl
  | false =>
    cases hbare : Reference.isBareName (Text.trim reference.toList) with
    | false =>
      simp only [Bool.false_eq_true, if_false]
      rw [resolvePath_congr hcwd (h hsource)]
    | true =>
      have halike := h hsource (Reference.isAbsolute_of_isBareName hbare)
      simp only [Bool.false_eq_true, if_false, if_true]
      rw [findExisting_congr halike]
      cases hfound : findExisting d (Text.trim reference.toList) bases with
      | error f => rfl
      | ok found =>
        cases found with
        | none => rfl
        | some p =>
          obtain ⟨base, hbase, hp, -⟩ := findExisting_some hfound
          have hfile : d'.isFile p = d.isFile p := by rw [hp]; exact (halike base hbase).isFile
          dsimp only [Option.filter]
          rw [hfile]

theorem mapM_congr {α β ε : Type} {f g : α → Except ε β} {xs : List α}
    (h : ∀ x ∈ xs, f x = g x) : xs.mapM f = xs.mapM g := by
  induction xs with
  | nil => rfl
  | cons x xs ih =>
    rw [List.mapM_cons, List.mapM_cons, h x List.mem_cons_self,
      ih fun y hy => h y (List.mem_cons_of_mem _ hy)]

/-- **What is found depends only on the answers that are asked for**: whether the candidates of the
references that are looked up exist, and whether they are files. -/
theorem anchors_congr (hcwd : d'.cwd = d.cwd) (h : ∀ diag ∈ batch, ∀ file ∈ lookups diag,
      ∀ b ∈ bases, Alike d d' (candidate b file)) :
    anchors d' bases batch = anchors d bases batch := by
  refine mapM_congr fun diag hdiag => ?_
  have hrelated : diag.related.mapM (anchorRelated d' bases) =
      diag.related.mapM (anchorRelated d bases) := by
    refine mapM_congr fun x hx => ?_
    unfold anchorRelated
    rw [resolvePath_congr hcwd fun habsolute =>
      h diag hdiag _ (mem_lookups.2 (.inl ⟨x, hx, habsolute, rfl⟩))]
  unfold anchor
  rw [hrelated, anchorFile_congr hcwd fun hsource habsolute =>
    h diag hdiag _ (mem_lookups.2 (.inr ⟨hsource, habsolute, rfl⟩))]

end Congr

/-! ## The second pass -/

/-- **When a batch is resolved alike again.** A batch that was resolved is resolved again with the
same results, and the file of orphans holds the same then, exactly if the results still show the
batch on the disk that the first pass has left. They do if this disk answers as before for the
candidates of all references that are looked up, and it answers so for every path if the file of
orphans was there before exactly if there are orphans. -/
theorem second_pass_agrees (h : r.resolve d bases batch = (.ok results, d')) :
    ((∃ d'', r.resolve d' bases batch = (.ok results, d'') ∧
        d''.read r.orphansPath = d'.read r.orphansPath) ↔
      List.Forall₂ (Shows d' bases) batch results) ∧
    ((∀ diag ∈ batch, ∀ file ∈ lookups diag, ∀ b ∈ bases, Alike d d' (candidate b file)) →
      List.Forall₂ (Shows d' bases) batch results) ∧
    ((d.pathExists r.orphansPath = true ↔ orphans results ≠ []) → ∀ p, Alike d d' p) := by
  obtain ⟨as, has, hresults, hwrite⟩ := resolve_spec h
  have hcwd := cwd_writeOrphans hwrite
  refine ⟨⟨?_, ?_⟩, ?_, ?_⟩
  · rintro ⟨d'', hagain, -⟩
    obtain ⟨as', has', hresults', -⟩ := resolve_spec hagain
    rw [hresults']
    exact layOut_shows has' _ _ _
  · intro hshows
    have hsame : results.map anchorOf = as := by rw [hresults, layOut_anchorOf]
    obtain ⟨d'', hagain, hread⟩ := writeOrphans_again hwrite
    refine ⟨d'', ?_, hread⟩
    unfold resolve
    rw [anchors_of_shows hshows, hsame]
    dsimp only
    rw [← hresults, hagain]
  · intro halike
    rw [hresults]
    exact layOut_shows ((anchors_congr hcwd halike).trans has) _ _ _
  · intro hthere p
    have hsame : d.pathExists r.orphansPath = results.any (·.synthetic) := by
      rw [Bool.eq_iff_iff, any_synthetic]
      exact hthere
    obtain ⟨hgrow, hback⟩ := grows_writeOrphans hwrite hsame
    exact Disk.alike_of_grows hgrow hback hcwd p

/-- A linker's message and a diagnostic about a file that is there: the first pass writes the file
of orphans, which no reference leads to. -/
theorem second_pass_agrees_ld :
    let r : Resolver := ⟨⟨"build/diag"⟩⟩
    let d : Disk := ⟨[(["build"], .directory), (["src"], .directory),
      (["src", "main.c"], .file [])], []⟩
    let bases : List Path := [⟨"build"⟩, ⟨"src"⟩]
    let batch : List Diagnostic := [
      { source := "Link", file := "ld", range := .point 0 0, severity := "error"
        message := "cannot find -lfoo" },
      { source := "GCC", file := "main.c", range := .point 4 0, severity := "warning"
        message := "unused" }]
    ∃ results d' d'', r.resolve d bases batch = (.ok results, d') ∧
      d.pathExists r.orphansPath = false ∧ d'.pathExists r.orphansPath = true ∧
      r.resolve d' bases batch = (.ok results, d'') ∧
      d''.read r.orphansPath = d'.read r.orphansPath := by
  intro r d bases batch
  let results := (r.resolve d bases batch).1.toOption.getD []
  let d' := (r.resolve d bases batch).2
  have hresolve : r.resolve d bases batch = (.ok results, d') := by decide +kernel
  obtain ⟨⟨-, hagain⟩, hshows, -⟩ := second_pass_agrees hresolve
  have hanswers : ∀ diag ∈ batch, ∀ file ∈ lookups diag, ∀ b ∈ bases,
      d'.tryExists (candidate b file) = d.tryExists (candidate b file) ∧
        d'.isFile (candidate b file) = d.isFile (candidate b file) := by decide +kernel
  obtain ⟨d'', hsecond, hread⟩ := hagain <| hshows fun diag hdiag file hfile b hb =>
    ⟨(hanswers diag hdiag file hfile b hb).1, (hanswers diag hdiag file hfile b hb).2⟩
  exact ⟨results, d', d'', hresolve, by decide +kernel, by decide +kernel, hsecond, hread⟩

/-- **The file of orphans hides a file of its name** in a base directory after it: the first pass
finds the other file, and the second one the file that the first one has written. -/
theorem second_pass_differs :
    let r : Resolver := ⟨⟨"build"⟩⟩
    let d : Disk := ⟨[(["build"], .directory), (["src"], .directory),
      (["src", "linkerrors.txt"], .file [])], []⟩
    let bases : List Path := [⟨"build"⟩, ⟨"src"⟩]
    let batch : List Diagnostic := [
      { source := "GCC", file := "ld", range := .point 0 0, severity := "error", message := "m" },
      { source := "GCC", file := "linkerrors.txt", range := .point 0 0, severity := "error"
        message := "n" }]
    ∃ x y y' d' d'', r.resolve d bases batch = (.ok [x, y], d') ∧
      r.resolve d' bases batch = (.ok [x, y'], d'') ∧
      y.path = ⟨"src/linkerrors.txt"⟩ ∧ y'.path = ⟨"build/linkerrors.txt"⟩ := by
  intro r d bases batch
  let range := Range.point 0 0
  let x : Resolved := ⟨{ source := "GCC", file := "ld", range, severity := "error"
                         message := "m" },
    ⟨"build/linkerrors.txt"⟩, .ofEnds 0 0 3 Position.restOfLine, [], true⟩
  let y : Path → Resolved := fun p => ⟨{ source := "GCC", file := "linkerrors.txt", range
                                         severity := "error", message := "n" },
    p, range, [], false⟩
  exact ⟨x, y ⟨"src/linkerrors.txt"⟩, y ⟨"build/linkerrors.txt"⟩, (r.resolve d bases batch).2,
    (r.resolve (r.resolve d bases batch).2 bases batch).2, by decide +kernel, by decide +kernel,
    rfl, rfl⟩

end BuildDiagnostics.Resolver
