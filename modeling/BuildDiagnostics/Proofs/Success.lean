import BuildDiagnostics.Proofs.FileName
import BuildDiagnostics.Proofs.Lookup
import BuildDiagnostics.Proofs.Resolution

/-!
# When a batch is resolved

Where the file of orphans can be written, only the search for a reference can keep a batch from
being resolved, and one search that fails is enough.

* `writeOrphans_succeeds`: the file of orphans is written or removed without a fault.
* `anchor_error_iff`: a diagnostic has no place exactly if one of its `lookups` is stuck.
* `resolve_succeeds_iff`: a batch is resolved exactly if none of them is.
* `resolve_fails_behind_file`: one reference behind a file is enough for it to fail.
-/

namespace BuildDiagnostics.Resolver

variable {r : Resolver} {d d' : Disk} {bases : List Path} {batch : List Diagnostic}
  {diag : Diagnostic}

/-! ## Writing the file of orphans -/

/-- The directory of the file of orphans can be made, and then a file written there. -/
def Writable (r : Resolver) (d : Disk) : Prop :=
  ∃ d₁ d₂, d.createDirectories r.directory = (.ok (), d₁) ∧ d₁.write r.orphansPath [] = .ok d₂

/-- **The file of orphans is written or removed** without a fault. -/
theorem writeOrphans_succeeds (h : r.Writable d) (orphans : Bool) (text : String) :
    ∃ d', r.writeOrphans d orphans text = (.ok (), d') := by
  obtain ⟨d₁, d₂, hmade, hwrite⟩ := h
  unfold writeOrphans
  cases orphans with
  | true =>
    obtain ⟨d₃, hwrite⟩ := Disk.write_succeeds hwrite (Utf8.encode text)
    simp only [if_true, hmade, hwrite]
    exact ⟨d₃, rfl⟩
  | false =>
    obtain ⟨hgrow, hcwd⟩ := Disk.grows_createDirectories hmade
    obtain ⟨init, hinit, -⟩ := pieces_orphansPath r
    simp only [Bool.false_eq_true, if_false]
    split
    · rename_i hexists
      obtain ⟨d₃, hremoved⟩ :=
        Disk.removeFile_of_write hinit (by decide) hgrow hcwd hwrite hexists
      rw [hremoved]
      exact ⟨d₃, rfl⟩
    · exact ⟨d, rfl⟩

/-! ## What is looked up -/

/-- The references of a diagnostic that are tried in the base directories: those of its related
places and its own, unless they are absolute, and its own only if it may be that of a source
file. -/
def lookups (diag : Diagnostic) : List (List Char) :=
  let file := Text.trim diag.file.toList
  let own := if file.isEmpty || Reference.hasBinaryExtension file then [] else [file]
  (diag.related.map (fun x => Text.trim x.file.toList) ++ own).filter fun f =>
    !Reference.isAbsolute f

theorem resolvePath_error_iff {reference : String} :
    (∃ f, resolvePath d bases reference = .error f) ↔
      Reference.isAbsolute (Text.trim reference.toList) = false ∧
        Stuck d bases (Text.trim reference.toList) := by
  rw [← findExisting_error_iff]
  unfold resolvePath
  dsimp only
  generalize Text.trim reference.toList = file
  cases Reference.isAbsolute file with
  | true => simp
  | false =>
    cases findExisting d file bases with
    | error f => simp
    | ok found => cases found <;> simp [fallback_ok]

theorem anchorFile_error_iff {reference : String} :
    (∃ f, anchorFile d bases reference = .error f) ↔
      ((Text.trim reference.toList).isEmpty ||
        Reference.hasBinaryExtension (Text.trim reference.toList)) = false ∧
      Reference.isAbsolute (Text.trim reference.toList) = false ∧
        Stuck d bases (Text.trim reference.toList) := by
  have hresolve : (∃ f, resolvePath d bases reference = .error f) ↔ _ := resolvePath_error_iff
  unfold anchorFile
  dsimp only
  generalize Text.trim reference.toList = file at *
  cases file.isEmpty || Reference.hasBinaryExtension file with
  | true => simp
  | false =>
    cases hbare : Reference.isBareName file with
    | true =>
      rw [← findExisting_error_iff, Reference.isAbsolute_of_isBareName hbare]
      cases findExisting d file bases <;> simp
    | false =>
      rw [← hresolve]
      cases resolvePath d bases reference <;> simp

/-- A list is mapped with a failure exactly if one of its elements is. -/
theorem mapM_error_iff {α β ε : Type} {f : α → Except ε β} {xs : List α} :
    (∃ e, xs.mapM f = .error e) ↔ ∃ x ∈ xs, ∃ e, f x = .error e := by
  induction xs with
  | nil => simp [pure, Except.pure]
  | cons x xs ih =>
    rw [List.mapM_cons, List.exists_mem_cons_iff, ← ih]
    cases f x with
    | error e => simp [bind, Except.bind]
    | ok y => cases xs.mapM f <;> simp [bind, Except.bind, pure, Except.pure]

theorem anchorRelated_error_iff {x : Related} : (∃ f, anchorRelated d bases x = .error f) ↔
    ∃ f, resolvePath d bases x.file = .error f := by
  unfold anchorRelated
  cases resolvePath d bases x.file <;> simp

theorem mem_lookups {file : List Char} : file ∈ lookups diag ↔
    (∃ x ∈ diag.related, Reference.isAbsolute file = false ∧ Text.trim x.file.toList = file) ∨
      (file.isEmpty || Reference.hasBinaryExtension file) = false ∧
        Reference.isAbsolute file = false ∧ Text.trim diag.file.toList = file := by
  unfold lookups
  dsimp only
  rw [List.mem_filter, List.mem_append, List.mem_map, or_and_right, Bool.not_eq_true']
  refine or_congr ?_ ?_
  · constructor
    · rintro ⟨⟨x, hx, rfl⟩, habsolute⟩; exact ⟨x, hx, habsolute, rfl⟩
    · rintro ⟨x, hx, habsolute, rfl⟩; exact ⟨⟨x, hx, rfl⟩, habsolute⟩
  · split
    · rename_i hnone
      refine iff_of_false (by simp) ?_
      rintro ⟨hsource, -, rfl⟩
      rw [hnone] at hsource
      cases hsource
    · rename_i hsome
      rw [List.mem_singleton]
      constructor
      · rintro ⟨rfl, habsolute⟩; exact ⟨by simpa using hsome, habsolute, rfl⟩
      · rintro ⟨-, habsolute, rfl⟩; exact ⟨rfl, habsolute⟩

/-- **A diagnostic has no place** exactly if one of its references is stuck. -/
theorem anchor_error_iff : (∃ f, anchor d bases diag = .error f) ↔
    ∃ file ∈ lookups diag, Stuck d bases file := by
  have hparts : (∃ f, anchor d bases diag = .error f) ↔
      (∃ f, diag.related.mapM (anchorRelated d bases) = .error f) ∨
        ∃ f, anchorFile d bases diag.file = .error f := by
    unfold anchor
    cases diag.related.mapM (anchorRelated d bases) with
    | error f => simp
    | ok related => cases anchorFile d bases diag.file <;> simp
  rw [hparts, mapM_error_iff, anchorFile_error_iff]
  simp only [anchorRelated_error_iff, resolvePath_error_iff]
  constructor
  · rintro (⟨x, hx, habsolute, hstuck⟩ | ⟨hsource, habsolute, hstuck⟩)
    · exact ⟨_, mem_lookups.2 (.inl ⟨x, hx, habsolute, rfl⟩), hstuck⟩
    · exact ⟨_, mem_lookups.2 (.inr ⟨hsource, habsolute, rfl⟩), hstuck⟩
  · rintro ⟨file, hfile, hstuck⟩
    rcases mem_lookups.1 hfile with ⟨x, hx, habsolute, rfl⟩ | ⟨hsource, habsolute, rfl⟩
    · exact .inl ⟨x, hx, habsolute, hstuck⟩
    · exact .inr ⟨hsource, habsolute, hstuck⟩

/-! ## The batch -/

theorem anchors_error_iff : (∃ f, anchors d bases batch = .error f) ↔
    ∃ diag ∈ batch, ∃ file ∈ lookups diag, Stuck d bases file := by
  unfold anchors
  simp only [mapM_error_iff, anchor_error_iff]

/-- **When a batch is resolved.** Where the file of orphans can be written, a batch is resolved,
with a result for each diagnostic in its place, exactly if none of the references that are looked up
is stuck. -/
theorem resolve_succeeds_iff (hwritable : r.Writable d) :
    (∃ results d', r.resolve d bases batch = (.ok results, d') ∧
      List.Forall₂ (Shows d bases) batch results) ↔
    ∀ diag ∈ batch, ∀ file ∈ lookups diag, ¬ Stuck d bases file := by
  constructor
  · rintro ⟨results, d', h, -⟩ diag hdiag file hfile hstuck
    obtain ⟨as, has, -⟩ := resolve_spec h
    obtain ⟨f, hf⟩ := anchors_error_iff.2 ⟨diag, hdiag, file, hfile, hstuck⟩
    rw [has] at hf
    cases hf
  · intro h
    cases has : anchors d bases batch with
    | error f =>
      obtain ⟨diag, hdiag, file, hfile, hstuck⟩ := anchors_error_iff.1 ⟨f, has⟩
      exact absurd hstuck (h diag hdiag file hfile)
    | ok as =>
      obtain ⟨d', hwrite⟩ := writeOrphans_succeeds hwritable
        ((layOut r.orphansPath 0 0 as).1.any (·.synthetic)) (layOut r.orphansPath 0 0 as).2
      refine ⟨_, d', ?_, layOut_shows has r.orphansPath 0 0⟩
      unfold resolve
      rw [has]
      dsimp only
      rw [hwrite]

/-- A diagnostic whose file is missing and whose related place is in a file that is there. -/
theorem resolve_succeeds_iff_missing_file :
    let r : Resolver := ⟨⟨"/t"⟩⟩
    let d : Disk := ⟨[(["b"], .directory), (["b", "main.c"], .file [])], []⟩
    let diag : Diagnostic :=
      { source := "GCC", file := "sub/x.c", range := .point 0 0, severity := "error"
        message := "m", related := [⟨"main.c", .point 0 0, "n"⟩] }
    r.Writable d ∧ ∃ results d', r.resolve d [⟨"/b"⟩] [diag] = (.ok results, d') ∧
      List.Forall₂ (Shows d [⟨"/b"⟩]) [diag] results := by
  intro r d diag
  have hwritable : r.Writable d :=
    ⟨(d.createDirectories r.directory).2,
      (((d.createDirectories r.directory).2.write r.orphansPath []).toOption.getD d),
      by decide +kernel, by decide +kernel⟩
  have hfound : ∀ file ∈ lookups diag, (findExisting d file [⟨"/b"⟩]).isOk = true := by
    decide +kernel
  refine ⟨hwritable, (resolve_succeeds_iff hwritable).2 ?_⟩
  intro diag' hdiag file hfile hstuck
  rw [List.mem_singleton.1 hdiag] at hfile
  obtain ⟨f, hf⟩ := findExisting_error_iff.2 hstuck
  have := hfound file hfile
  rw [hf] at this
  cases this

/-- **One reference behind a file is enough**: the batch is not resolved, although its other
diagnostic could be. -/
theorem resolve_fails_behind_file :
    let r : Resolver := ⟨⟨"/t"⟩⟩
    let d : Disk := ⟨[(["b"], .directory), (["b", "main.c"], .file [])], []⟩
    let batch : List Diagnostic := [
      { source := "GCC", file := "main.c", range := .point 0 0, severity := "error"
        message := "m" },
      { source := "GCC", file := "main.c/x.h", range := .point 0 0, severity := "error"
        message := "n" }]
    d.isDirectory ⟨"/b"⟩ = true ∧ r.Writable d ∧
      r.resolve d [⟨"/b"⟩] batch =
        (.error (.during "checking /b/main.c/x.h" .notADirectory), d) := by
  intro r d batch
  refine ⟨by decide +kernel, ?_, by decide +kernel⟩
  exact ⟨(d.createDirectories r.directory).2,
    (((d.createDirectories r.directory).2.write r.orphansPath []).toOption.getD d),
    by decide +kernel, by decide +kernel⟩

end BuildDiagnostics.Resolver
