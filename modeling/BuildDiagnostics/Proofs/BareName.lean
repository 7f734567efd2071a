import BuildDiagnostics.Proofs.Success

/-!
# Bare names

A name without directory and ending may be a file or a tool, and only the disk can tell. The search
for it ends at the first base directory that has anything of that name; whether it is a file is
asked of this one only. So a directory of that name hides the files of that name in the base
directories after it.

* `findExisting_eq`: what a search finds that is not stuck.
* `anchorFile_of_isBareName`: a bare name is placed in what the search finds if this is a file.
* `bareName_placed`: where the diagnostics of a batch are placed that are about a bare name.
* `bareName_behind_directory`: a file behind a directory of the same name is not found.
-/

namespace BuildDiagnostics

namespace Reference

theorem isBareName_trim (file : List Char) : isBareName (Text.trim file) = isBareName file := by
  unfold isBareName
  rw [Text.trim_trim]

theorem hasBinaryExtension_trim (file : List Char) :
    hasBinaryExtension (Text.trim file) = hasBinaryExtension file := by
  unfold hasBinaryExtension
  rw [Text.trim_trim]

/-- A bare name is not empty and has no extension. -/
theorem isBareName_spec {file : List Char} (h : isBareName file = true) :
    (Text.trim file).isEmpty = false ∧ hasBinaryExtension file = false := by
  unfold isBareName at h
  simp only [Bool.and_eq_true, Bool.not_eq_true', Option.isNone_iff_eq_none] at h
  unfold hasBinaryExtension
  rw [h.2]
  exact ⟨h.1.1, rfl⟩

end Reference

namespace Disk

/-- What is there is a file or a directory. -/
theorem pathExists_eq (d : Disk) (p : Path) : d.pathExists p = (d.isFile p || d.isDirectory p) := by
  unfold pathExists isFile isDirectory
  cases d.stat p with
  | error f => rfl
  | ok n => cases n <;> rfl

/-- An answer of the disk is whether the path exists. -/
theorem pathExists_of_tryExists {d : Disk} {p : Path} {found : Bool}
    (h : d.tryExists p = .ok found) : d.pathExists p = found := by
  unfold tryExists at h
  unfold pathExists
  cases hs : d.stat p with
  | ok n => rw [hs] at h; cases h; rfl
  | error f => rw [hs] at h; cases f <;> cases h; rfl

end Disk

namespace Resolver

variable {r : Resolver} {d d' : Disk} {bases : List Path} {batch : List Diagnostic}

/-! ## The search -/

/-- **What is found** is the first candidate that exists. -/
theorem findExisting_eq {file : List Char} {found : Option Path}
    (h : findExisting d file bases = .ok found) :
    found = (bases.map (candidate · file)).find? d.pathExists := by
  induction bases with
  | nil => cases h; rfl
  | cons base rest ih =>
    rw [findExisting] at h
    rw [List.map_cons, List.find?_cons]
    cases he : d.tryExists (candidate base file) with
    | error f => rw [he] at h; cases h
    | ok answer =>
      rw [he] at h
      rw [Disk.pathExists_of_tryExists he]
      cases answer with
      | true => cases h; rfl
      | false => exact ih h

/-- **A bare name is placed in what the search finds**, if this is a file. -/
theorem anchorFile_of_isBareName {reference : String} {found : Option Path}
    (hbare : Reference.isBareName reference.toList = true)
    (h : anchorFile d bases reference = .ok found) :
    found = ((bases.map (candidate · (Text.trim reference.toList))).find? d.pathExists).filter
      d.isFile := by
  obtain ⟨hne, hbinary⟩ := Reference.isBareName_spec hbare
  unfold anchorFile at h
  dsimp only at h
  rw [Reference.hasBinaryExtension_trim, Reference.isBareName_trim, hne, hbinary, hbare] at h
  simp only [Bool.or_false, Bool.false_eq_true, if_false, if_true] at h
  split at h
  · cases h
  · rename_i hfound
    rw [← findExisting_eq hfound]
    cases h
    rfl

/-! ## The first file -/

section FirstFile

variable {before after : List Path} {p : Path}

/-- The first path that exists is a file if it comes before all directories. -/
theorem firstFile_of_no_directory (hp : d.isFile p = true)
    (hfiles : ∀ q ∈ before, d.isFile q = false) (hdirs : ∀ q ∈ before, d.isDirectory q = false) :
    ((before ++ p :: after).find? d.pathExists).filter d.isFile = some p := by
  have hnone : before.find? d.pathExists = none := by
    refine List.find?_eq_none.2 fun q hq => ?_
    rw [Disk.pathExists_eq, hfiles q hq, hdirs q hq]
    simp
  have hthere : d.pathExists p = true := by rw [Disk.pathExists_eq, hp, Bool.true_or]
  rw [List.find?_append, hnone, Option.none_or, List.find?_cons_of_pos hthere,
    Option.filter_some_pos hp]

/-- The first path that exists is no file if a directory comes before all files. -/
theorem firstFile_of_directory (hfiles : ∀ q ∈ before, d.isFile q = false)
    (hdir : ∃ q ∈ before, d.isDirectory q = true) :
    ((before ++ after).find? d.pathExists).filter d.isFile = none := by
  obtain ⟨q, hq, hdir⟩ := hdir
  have hthere : d.pathExists q = true := by rw [Disk.pathExists_eq, hdir, Bool.or_true]
  cases hfirst : before.find? d.pathExists with
  | none => exact absurd hthere (List.find?_eq_none.1 hfirst q hq)
  | some first =>
    have hno := hfiles first (List.mem_of_find?_eq_some hfirst)
    rw [List.find?_append, hfirst, Option.some_or]
    simp [Option.filter, hno]

theorem firstFile_of_no_file (hfiles : ∀ q ∈ before, d.isFile q = false) :
    (before.find? d.pathExists).filter d.isFile = none := by
  cases hfirst : before.find? d.pathExists with
  | none => rfl
  | some first =>
    have hno := hfiles first (List.mem_of_find?_eq_some hfirst)
    simp [Option.filter, hno]

end FirstFile

/-! ## The batch -/

/-- With the files of its diagnostics found, a batch is resolved. -/
theorem resolve_of_anchors {as : List Anchor} (hwritable : r.Writable d)
    (has : anchors d bases batch = .ok as) :
    ∃ d', r.resolve d bases batch = (.ok (layOut r.orphansPath 0 0 as).1, d') := by
  obtain ⟨d', hwrite⟩ := writeOrphans_succeeds hwritable
    ((layOut r.orphansPath 0 0 as).1.any (·.synthetic)) (layOut r.orphansPath 0 0 as).2
  refine ⟨d', ?_⟩
  unfold resolve
  rw [has]
  dsimp only
  rw [hwrite]

/-- The paths that the file of a diagnostic has in the base directories. -/
def places (bases : List Path) (diag : Diagnostic) : List Path :=
  bases.map (candidate · (Text.trim diag.file.toList))

/-- Where a diagnostic is placed that may have no source file. A bare name goes to the first place
where it is a file, if no place before is a directory (`found`), and is else an orphan (`hidden`,
`nowhere`). -/
structure Placed (r : Resolver) (d : Disk) (bases : List Path) (diag : Diagnostic) (x : Resolved) :
    Prop where
  found : Reference.isBareName diag.file.toList = true → ∀ before p after,
    places bases diag = before ++ p :: after → d.isFile p = true →
    (∀ q ∈ before, d.isFile q = false) → (∀ q ∈ before, d.isDirectory q = false) →
    x.synthetic = false ∧ x.path = p ∧ x.range = diag.range
  hidden : Reference.isBareName diag.file.toList = true → ∀ before p after,
    places bases diag = before ++ p :: after → d.isFile p = true →
    (∀ q ∈ before, d.isFile q = false) → (∃ q ∈ before, d.isDirectory q = true) →
    x.synthetic = true
  nowhere : Reference.isBareName diag.file.toList = true →
    (∀ q ∈ places bases diag, d.isFile q = false) → x.synthetic = true
  noSource : Text.trim diag.file.toList = [] ∨
    Reference.hasBinaryExtension diag.file.toList = true → x.synthetic = true
  orphan : x.synthetic = true →
    Reference.isFileLess diag.file.toList = true ∧ x.path = r.orphansPath

/-- Only a reference that may have no source file has no place. -/
theorem isFileLess_of_anchorFile {reference : String}
    (h : anchorFile d bases reference = .ok none) :
    Reference.isFileLess reference.toList = true := by
  unfold anchorFile at h
  dsimp only at h
  rw [Reference.hasBinaryExtension_trim, Reference.isBareName_trim] at h
  unfold Reference.isFileLess
  split at h
  · rename_i hsource
    rw [hsource, Bool.true_or]
  · split at h
    · rename_i hbare
      rw [hbare, Bool.or_true]
    · split at h <;> cases h

theorem anchorFile_of_noSource {reference : String} (h : Text.trim reference.toList = [] ∨
      Reference.hasBinaryExtension reference.toList = true) :
    anchorFile d bases reference = .ok none := by
  unfold anchorFile
  dsimp only
  rw [Reference.hasBinaryExtension_trim, if_pos]
  simpa using h

/-- **A result is placed** by what was found for its diagnostic. -/
theorem Shows.placed {diag : Diagnostic} {x : Resolved} (h : Shows d bases diag x)
    (hpath : x.synthetic = true → x.path = r.orphansPath) : Placed r d bases diag x := by
  have horphan : anchorFile d bases diag.file = .ok none → x.synthetic = true := by
    intro hnone
    cases hs : x.synthetic with
    | true => rfl
    | false => rw [(h.found hs).1] at hnone; cases hnone
  have hbare : Reference.isBareName diag.file.toList = true →
      anchorFile d bases diag.file =
        .ok (((places bases diag).find? d.pathExists).filter d.isFile) := by
    intro hbare
    cases hs : x.synthetic with
    | true => rw [h.orphan hs, places, ← anchorFile_of_isBareName hbare (h.orphan hs)]
    | false => rw [(h.found hs).1, places, ← anchorFile_of_isBareName hbare (h.found hs).1]
  constructor
  case found =>
    intro hname before p after hplaces hp hfiles hdirs
    have hanchor := hbare hname
    rw [hplaces, firstFile_of_no_directory hp hfiles hdirs] at hanchor
    cases hs : x.synthetic with
    | true => rw [h.orphan hs] at hanchor; cases hanchor
    | false =>
      obtain ⟨hfound, hrange⟩ := h.found hs
      rw [hfound] at hanchor
      cases hanchor
      exact ⟨rfl, rfl, hrange⟩
  case hidden =>
    intro hname before p after hplaces hp hfiles hdir
    apply horphan
    rw [hbare hname, hplaces, firstFile_of_directory hfiles hdir]
  case nowhere =>
    intro hname hfiles
    apply horphan
    rw [hbare hname, firstFile_of_no_file hfiles]
  case noSource => exact fun hno => horphan (anchorFile_of_noSource hno)
  case orphan => exact fun hs => ⟨isFileLess_of_anchorFile (h.orphan hs), hpath hs⟩

/-- **Where bare names are placed.** Where the file of orphans can be written and no reference that
is looked up is stuck, a batch is resolved. A diagnostic about a bare name then goes to the first
base directory that has it as a file, if no base directory before has a directory of that name, and
is else an orphan; so is one that names no file or a binary one, and no other. -/
theorem bareName_placed (hwritable : r.Writable d)
    (hfree : ∀ diag ∈ batch, ∀ file ∈ lookups diag, ¬ Stuck d bases file) :
    ∃ results d', r.resolve d bases batch = (.ok results, d') ∧
      List.Forall₂ (Placed r d bases) batch results := by
  cases has : anchors d bases batch with
  | error f =>
    obtain ⟨diag, hdiag, file, hfile, hstuck⟩ := anchors_error_iff.1 ⟨f, has⟩
    exact absurd hstuck (hfree diag hdiag file hfile)
  | ok as =>
    obtain ⟨d', hresolve⟩ := resolve_of_anchors hwritable has
    have hshows : List.Forall₂ (flip (Shows d bases)) (layOut r.orphansPath 0 0 as).1 batch :=
      (layOut_shows has r.orphansPath 0 0).flip
    have hpaths : ∀ x ∈ (layOut r.orphansPath 0 0 as).1,
        x.synthetic = true → x.path = r.orphansPath := fun x hx => layOut_path hx
    have hplaced := (List.forall₂_and_left _ _).2 ⟨hpaths, hshows⟩
    exact ⟨_, d', hresolve, (hplaced.imp fun x diag h => h.2.placed h.1).flip⟩

/-- A makefile in the second of two base directories; the first one has nothing of its name. -/
theorem bareName_placed_makefile :
    let r : Resolver := ⟨⟨"diag"⟩⟩
    let d : Disk := ⟨[(["build"], .directory), (["src"], .directory),
      (["src", "Makefile"], .file [])], []⟩
    let bases : List Path := [⟨"build"⟩, ⟨"src"⟩]
    let diag : Diagnostic :=
      { source := "Link", file := "Makefile", range := .point 11 0, severity := "error"
        message := "missing separator" }
    r.Writable d ∧ (∀ file ∈ lookups diag, ¬ Stuck d bases file) ∧
      ∃ x d', r.resolve d bases [diag] = (.ok [x], d') ∧
        x.synthetic = false ∧ x.path = ⟨"src/Makefile"⟩ := by
  intro r d bases diag
  have hwritable : r.Writable d :=
    ⟨(d.createDirectories r.directory).2,
      (((d.createDirectories r.directory).2.write r.orphansPath []).toOption.getD d),
      by decide +kernel, by decide +kernel⟩
  have hfound : ∀ file ∈ lookups diag, (findExisting d file bases).isOk = true := by
    decide +kernel
  have hfree : ∀ diag' ∈ [diag], ∀ file ∈ lookups diag', ¬ Stuck d bases file := by
    intro diag' hdiag file hfile hstuck
    rw [List.mem_singleton.1 hdiag] at hfile
    obtain ⟨f, hf⟩ := findExisting_error_iff.2 hstuck
    have := hfound file hfile
    rw [hf] at this
    cases this
  refine ⟨hwritable, hfree diag List.mem_cons_self, ?_⟩
  obtain ⟨results, d', hresolve, hplaced⟩ := bareName_placed hwritable hfree
  obtain ⟨x, rest, hx, hrest, rfl⟩ := List.forall₂_cons_left_iff.1 hplaced
  cases hrest
  obtain ⟨hfile, hpath, -⟩ := hx.found (by decide +kernel) [⟨"build/Makefile"⟩] ⟨"src/Makefile"⟩ []
    (by decide +kernel) (by decide +kernel) (by decide +kernel) (by decide +kernel)
  exact ⟨x, d', hresolve, hfile, hpath⟩

/-- **A file behind a directory of the same name is not found**: the makefile of the second base
directory is not the place of a diagnostic about it, since the first one has a directory of that
name. -/
theorem bareName_behind_directory :
    let r : Resolver := ⟨⟨"diag"⟩⟩
    let d : Disk := ⟨[(["build"], .directory), (["build", "Makefile"], .directory),
      (["src"], .directory), (["src", "Makefile"], .file [])], []⟩
    let bases : List Path := [⟨"build"⟩, ⟨"src"⟩]
    let diag : Diagnostic :=
      { source := "GCC", file := "Makefile", range := .point 0 0, severity := "error"
        message := "m" }
    r.Writable d ∧ (∀ file ∈ lookups diag, ∀ p ∈ bases.map (candidate · file),
        (d.tryExists p).isOk = true) ∧
      Reference.isBareName diag.file.toList = true ∧
      places bases diag = [⟨"build/Makefile"⟩, ⟨"src/Makefile"⟩] ∧
      d.isFile ⟨"build/Makefile"⟩ = false ∧ d.isFile ⟨"src/Makefile"⟩ = true ∧
      ∃ x d', r.resolve d bases [diag] = (.ok [x], d') ∧
        x.synthetic = true ∧ x.path = ⟨"diag/linkerrors.txt"⟩ := by
  intro r d bases diag
  refine ⟨⟨(d.createDirectories r.directory).2,
    (((d.createDirectories r.directory).2.write r.orphansPath []).toOption.getD d),
    by decide +kernel, by decide +kernel⟩, by decide +kernel, by decide +kernel, by decide +kernel,
    by decide +kernel, by decide +kernel, ?_⟩
  let x : Resolved := ⟨diag, ⟨"diag/linkerrors.txt"⟩,
    .ofEnds 0 0 3 Position.restOfLine, [], true⟩
  exact ⟨x, (r.resolve d bases [diag]).2, by decide +kernel, rfl, rfl⟩

end Resolver

end BuildDiagnostics
