import BuildDiagnostics.Proofs.LinkerName
import BuildDiagnostics.Proofs.Lookup
import BuildDiagnostics.Proofs.Resolution

/-!
# Messages of linkers

A message that a linker gives about no place is a diagnostic whose file is the linker's name. The
resolver takes it for an orphan where the name is bare or ends in `.exe`. A name with another
ending, such as `ld.lld`, is taken for that of a source file.

* `file_of_toolMessage`: the file of such a diagnostic.
* `anchorFile_of_linkerName`: whether there is a file for a linker's name.
* `toolMessage_synthetic_iff`: which of these messages are orphans.
* `toolMessage_of_lld_not_synthetic`: one that is not.
-/

namespace BuildDiagnostics

namespace GnuLd

/-- The line is answered by a diagnostic about the linker that it starts with: what comes after the
linker names no place. -/
structure ToolMessage (line : Line) (tool : List Char) (diag : Diagnostic) : Prop where
  read : read line = .claim (some diag)
  tool : (split line).1 = some tool
  no_section : sectionPattern.match? (split line).2 = none
  no_place : locatedPattern.match? (split line).2 = none

variable {line : Line} {tool body : List Char} {diag : Diagnostic}

theorem file_of_body? (hsection : sectionPattern.match? body = none)
    (hplace : locatedPattern.match? body = none) (h : body? (some tool) body = some diag) :
    diag.file = String.ofList (baseName tool) := by
  unfold body? at h
  rw [hsection, hplace] at h
  dsimp only at h
  split at h
  · rename_i htool _
    cases htool
    cases h
    rfl
  · cases h

/-- **The file of a message about no place** is the linker's name. -/
theorem file_of_toolMessage (h : ToolMessage line tool diag) :
    diag.file = String.ofList (baseName tool) := by
  have hread := h.read
  unfold read at hread
  dsimp only at hread
  rw [h.tool] at hread
  split at hread
  · cases hread
  split at hread
  · cases hread
  split at hread
  · rename_i hbody
    cases hread
    exact file_of_body? h.no_section h.no_place hbody
  · cases hread

end GnuLd

namespace Resolver

variable {r : Resolver} {d d' : Disk} {bases : List Path} {diag : Diagnostic} {x : Resolved}
  {name : List Char}

/-- A bare name is an orphan if no base directory holds a file of that name. -/
theorem filter_isFile_of_findExisting {file : List Char} {found : Option Path}
    (hno : ∀ base ∈ bases, d.isFile (candidate base file) = false)
    (h : findExisting d file bases = .ok found) : found.filter d.isFile = none := by
  cases found with
  | none => rfl
  | some p =>
    obtain ⟨base, hbase, rfl, -⟩ := findExisting_some h
    simp [hno base hbase]

/-- **The file of a linker's name**: there is none for a bare name and for one that ends in `.exe`;
any other name is looked up as that of a source file. -/
theorem anchorFile_of_linkerName {found : Option Path} (hname : GnuLd.LinkerName name)
    (hno : ∀ base ∈ bases, d.isFile (candidate base name) = false)
    (h : anchorFile d bases (String.ofList name) = .ok found) :
    (('.' ∉ name.tail ∨ ".exe".toList <:+ name) ∧ found = none) ∨
      (¬ ('.' ∉ name.tail ∨ ".exe".toList <:+ name) ∧
        ∃ p, found = some p ∧ resolvePath d bases (String.ofList name) = .ok p) := by
  unfold anchorFile at h
  dsimp only at h
  rw [String.toList_ofList, hname.trim] at h
  have hne : name.isEmpty = false := by simp [hname.isName.ne_nil]
  rw [hne, Bool.false_or] at h
  split at h
  · rename_i hexe
    cases h
    exact .inl ⟨.inr (hname.hasBinaryExtension.1 hexe), rfl⟩
  rename_i hexe
  split at h
  · rename_i hbare
    refine .inl ⟨.inl (hname.isBareName.1 hbare), ?_⟩
    split at h
    · cases h
    · rename_i hfind
      cases h
      exact filter_isFile_of_findExisting hno hfind
  · rename_i hbare
    rw [hname.isBareName] at hbare
    rw [hname.hasBinaryExtension] at hexe
    refine .inr ⟨fun hor => hor.elim hbare hexe, ?_⟩
    split at h
    · cases h
    · rename_i p hp
      cases h
      exact ⟨p, rfl, hp⟩

/-- What the result of a diagnostic shows whose file is a linker's name. -/
theorem shows_linkerName (hname : GnuLd.LinkerName name)
    (hno : ∀ base ∈ bases, d.isFile (candidate base name) = false)
    (hfile : diag.file = String.ofList name) (hx : Shows d bases diag x) :
    (x.synthetic = true ↔ '.' ∉ name.tail ∨ ".exe".toList <:+ name) ∧
      (x.synthetic = false → resolvePath d bases diag.file = .ok x.path) := by
  rw [hfile]
  cases hs : x.synthetic with
  | true =>
    have hnone := hx.orphan hs
    rw [hfile] at hnone
    rcases anchorFile_of_linkerName hname hno hnone with ⟨horphan, -⟩ | ⟨-, p, hp, -⟩
    · exact ⟨iff_of_true rfl horphan, by simp⟩
    · cases hp
  | false =>
    have hsome := (hx.found hs).1
    rw [hfile] at hsome
    rcases anchorFile_of_linkerName hname hno hsome with ⟨-, hp⟩ | ⟨hnot, p, hp, hpath⟩
    · cases hp
    · cases hp
      exact ⟨iff_of_false (by simp) hnot, fun _ => hpath⟩

/-- **Which messages of linkers are orphans.** Where no base directory holds a file of the linker's
name and the batch is resolved, a message about no place is an orphan exactly if the name has no dot
after its first character or ends in `.exe`. Any other name is looked up as that of a source
file. -/
theorem toolMessage_synthetic_iff {line : Line} {tool : List Char} {batch : List Diagnostic}
    {results : List Resolved} {i : Nat} (hmessage : GnuLd.ToolMessage line tool diag)
    (hno : ∀ base ∈ bases, d.isFile (candidate base (GnuLd.baseName tool)) = false)
    (h : r.resolve d bases batch = (.ok results, d')) (hi : batch[i]? = some diag) :
    ∃ x, results[i]? = some x ∧ x.diagnostic = diag ∧
      (x.synthetic = true ↔
        '.' ∉ (GnuLd.baseName tool).tail ∨ ".exe".toList <:+ GnuLd.baseName tool) ∧
      (x.synthetic = true → x.path = r.orphansPath) ∧
      (x.synthetic = false → resolvePath d bases diag.file = .ok x.path) := by
  obtain ⟨as, has, rfl, -⟩ := resolve_spec h
  have hshows := layOut_shows has r.orphansPath 0 0
  obtain ⟨hlt, hdiag⟩ := List.getElem?_eq_some_iff.1 hi
  have hlt' : i < (layOut r.orphansPath 0 0 as).1.length := by rw [← hshows.length_eq]; exact hlt
  have hx : Shows d bases diag (layOut r.orphansPath 0 0 as).1[i] := hdiag ▸ hshows.get hlt hlt'
  obtain ⟨hsynthetic, hsource⟩ := shows_linkerName (GnuLd.linkerName_of_split hmessage.tool) hno
    (GnuLd.file_of_toolMessage hmessage) hx
  exact ⟨_, List.getElem?_eq_getElem hlt', hx.diagnostic, hsynthetic,
    layOut_path (List.getElem_mem hlt'), hsource⟩

/-- A linker that stands in a directory and has a bare name. -/
theorem toolMessage_synthetic_iff_ld :
    let r : Resolver := ⟨⟨"/t"⟩⟩
    let d : Disk := ⟨[(["b"], .directory)], []⟩
    let line := "/usr/bin/ld: cannot find -lfoo".toList
    let diag : Diagnostic :=
      { source := "Link", file := "ld", range := .restOfLine 0 0, severity := "error"
        message := "cannot find -lfoo" }
    GnuLd.ToolMessage line "/usr/bin/ld".toList diag ∧
      ∃ results d' x, r.resolve d [⟨"/b"⟩] [diag] = (.ok results, d') ∧ results[0]? = some x ∧
        x.diagnostic = diag ∧ x.synthetic = true ∧ x.path = r.orphansPath := by
  intro r d line diag
  have hmessage : GnuLd.ToolMessage line "/usr/bin/ld".toList diag :=
    ⟨by decide +kernel, by decide +kernel, by decide +kernel, by decide +kernel⟩
  have hno : ∀ base ∈ [Path.mk "/b"],
      d.isFile (candidate base (GnuLd.baseName "/usr/bin/ld".toList)) = false := by decide +kernel
  let results := (r.resolve d [⟨"/b"⟩] [diag]).1.toOption.getD []
  have hresolve : r.resolve d [⟨"/b"⟩] [diag] =
      (.ok results, (r.resolve d [⟨"/b"⟩] [diag]).2) := by
    decide +kernel
  obtain ⟨x, hx, hdiag, hiff, hpath, -⟩ :=
    toolMessage_synthetic_iff hmessage hno hresolve (i := 0) rfl
  have hs := hiff.2 (by decide)
  exact ⟨hmessage, _, _, x, hresolve, hx, hdiag, hs, hpath hs⟩

/-- **A message of `ld.lld` is no orphan**: it is shown against a file of that name, which does not
exist. -/
theorem toolMessage_of_lld_not_synthetic :
    let r : Resolver := ⟨⟨"/t"⟩⟩
    let d : Disk := ⟨[(["b"], .directory)], []⟩
    let line := "ld.lld: error: undefined symbol: foo".toList
    let diag : Diagnostic :=
      { source := "Link", file := "ld.lld", range := .restOfLine 0 0, severity := "error"
        message := "undefined symbol: foo" }
    GnuLd.ToolMessage line "ld.lld".toList diag ∧
      (∀ base ∈ [Path.mk "/b"], d.isFile (candidate base "ld.lld".toList) = false) ∧
      r.resolve d [⟨"/b"⟩] [diag] =
        (.ok [⟨diag, ⟨"/b/ld.lld"⟩, diag.range, [], false⟩], d) :=
  ⟨⟨by decide +kernel, by decide +kernel, by decide +kernel, by decide +kernel⟩,
    by decide +kernel, by decide +kernel⟩

end Resolver

end BuildDiagnostics
