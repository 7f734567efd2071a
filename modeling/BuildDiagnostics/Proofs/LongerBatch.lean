import BuildDiagnostics.Proofs.Resolution

/-!
# Batches that go on

Diagnostics that come at the end of a batch do not move those before them: the files are found one
diagnostic at a time, and the blocks of the orphans follow each other. So what comes later starts
where the lines of the first part end, and is laid out as it would be alone, that many lines further
down.

* `layOut_append`: two parts are laid out one after the other.
* `layOut_lowered`: from a later line on, the same is laid out further down.
* `encode_append`, `read_of_orphans`: what the file of orphans holds.
* `resolve_append`: a batch and a batch that begins with it, resolved on the same disk.
-/

namespace BuildDiagnostics

/-! ## Bytes of a text -/

theorem toList_loop (bytes : ByteArray) (i : Nat) (acc : List UInt8) :
    ByteArray.toList.loop bytes i acc = acc.reverse ++ bytes.data.toList.drop i := by
  fun_induction ByteArray.toList.loop bytes i acc with
  | case1 i acc h ih =>
    have hlt : i < bytes.data.toList.length := by simpa using h
    rw [ih, List.reverse_cons, List.append_assoc, List.drop_eq_getElem_cons hlt]
    simp [ByteArray.get!, h]
  | case2 i acc h =>
    have hle : bytes.data.toList.length ≤ i := by simpa using h
    rw [List.drop_eq_nil_of_le hle, List.append_nil]

/-- **Texts are encoded one after the other.** -/
theorem Utf8.encode_append (s t : String) : encode (s ++ t) = encode s ++ encode t := by
  have hlist : ∀ bytes : ByteArray, bytes.toList = bytes.data.toList := fun bytes =>
    toList_loop bytes 0 []
  unfold encode
  rw [hlist, hlist, hlist, ← ByteArray.toList_data_append]
  exact congrArg (·.data.toList) String.toByteArray_append

namespace Resolver

variable {r : Resolver} {d : Disk} {bases : List Path} {file : Path} {next number : Nat}
  {as bs : List Anchor}

/-! ## Laying out in parts -/

/-- The numbers of the orphans do not matter for how many lines they take up. -/
theorem length_blocks (number number' : Nat) (ds : List Diagnostic) :
    (blocks number ds).length = (blocks number' ds).length := by
  induction ds generalizing number number' with
  | nil => rfl
  | cons diag ds ih =>
    rw [blocks, blocks, List.length_append, List.length_append, length_blockLines,
      length_blockLines, ih]

/-- The lines of the file of orphans that a diagnostic takes up before the others. -/
theorem length_orphanLines_cons (x : Resolved) (xs : List Resolved) :
    (orphanLines (x :: xs)).length =
      (if x.synthetic then (messageLines x.diagnostic).length + 4 else 0) +
        (orphanLines xs).length := by
  unfold orphanLines orphans
  rw [List.filter_cons]
  split
  · rw [List.map_cons, blocks, List.length_append, length_blockLines, length_blocks (0 + 1) 0]
  · rw [Nat.zero_add]

theorem length_orphanLines_append (xs ys : List Resolved) :
    (orphanLines (xs ++ ys)).length = (orphanLines xs).length + (orphanLines ys).length := by
  induction xs with
  | nil => rw [List.nil_append]; exact (Nat.zero_add _).symm
  | cons x xs ih =>
    rw [List.cons_append, length_orphanLines_cons, length_orphanLines_cons, ih, Nat.add_assoc]

/-- The block after a block starts where the lines of the block end. -/
theorem lastLine_add_two (start : Nat) (diag : Diagnostic) :
    lastLine start diag + 2 = start + ((messageLines diag).length + 4) := by
  have hpos := List.length_pos_iff.2 (messageLines_ne_nil diag)
  unfold lastLine headerLines
  omega

/-- **Two parts are laid out one after the other**: the second one from the line on at which the
lines of the first one end. -/
theorem layOut_append (as bs : List Anchor) (file : Path) (next number : Nat) :
    let first := layOut file next number as
    let second := layOut file (next + (orphanLines first.1).length)
      (number + (orphans first.1).length) bs
    layOut file next number (as ++ bs) = (first.1 ++ second.1, first.2 ++ second.2) := by
  induction as generalizing next number with
  | nil => simp [layOut, orphanLines, orphans, blocks]
  | cons a as ih =>
    dsimp only at ih ⊢
    rw [List.cons_append]
    cases ha : a.path with
    | some p =>
      -- no line and no number goes to a diagnostic that has a file
      rw [layOut_found ha, layOut_found ha, ih]
      rw [length_orphanLines_cons]
      simp [orphans]
    | none =>
      rw [layOut_orphan ha, layOut_orphan ha, ih, length_orphanLines_cons]
      simp only [orphans, List.filter_cons_of_pos, List.length_cons, if_true]
      have hline : ∀ n, lastLine next a.diagnostic + 2 + n =
          next + ((messageLines a.diagnostic).length + 4 + n) := by
        intro n
        rw [lastLine_add_two, Nat.add_assoc]
      have hnumber : ∀ n, number + 1 + n = number + (n + 1) := fun n => by omega
      rw [hline, hnumber]
      simp only [List.cons_append, String.append_assoc]

/-! ## Further down -/

/-- The second result is the first one, that many lines further down if it is an orphan. -/
structure Lowered (n : Nat) (x y : Resolved) : Prop where
  diagnostic : y.diagnostic = x.diagnostic
  path : y.path = x.path
  related : y.related = x.related
  synthetic : y.synthetic = x.synthetic
  found : x.synthetic = false → y.range = x.range
  startLine : x.synthetic = true → y.range.start.line.toNat = x.range.start.line.toNat + n
  stopLine : x.synthetic = true → y.range.stop.line.toNat = x.range.stop.line.toNat + n
  startColumn : y.range.start.column = x.range.start.column
  stopColumn : y.range.stop.column = x.range.stop.column

/-- **From a later line on, the same is laid out further down**, as long as the lines can be
counted. The numbers of the orphans do not matter for that. -/
theorem layOut_lowered (as : List Anchor) (file : Path) (next n number number' : Nat)
    (hshort : next + n + (orphanLines (layOut file (next + n) number' as).1).length <
      UInt32.size) :
    List.Forall₂ (Lowered n) (layOut file next number as).1
      (layOut file (next + n) number' as).1 := by
  induction as generalizing next number number' with
  | nil => exact .nil
  | cons a as ih =>
    cases ha : a.path with
    | some p =>
      rw [layOut_found ha, length_orphanLines_cons] at hshort
      rw [layOut_found ha, layOut_found ha]
      refine .cons ?_ (ih next number number' (by simpa using hshort))
      constructor
      case found => intro _; rfl
      case startLine => intro h; cases h
      case stopLine => intro h; cases h
      all_goals rfl
    | none =>
      have hlater : lastLine (next + n) a.diagnostic = lastLine next a.diagnostic + n := by
        have hhere := lastLine_add_two next a.diagnostic
        have hthere := lastLine_add_two (next + n) a.diagnostic
        omega
      have hend := lastLine_add_two next a.diagnostic
      rw [layOut_orphan ha, length_orphanLines_cons, if_pos rfl, hlater,
        Nat.add_right_comm _ n 2] at hshort
      dsimp only at hshort
      rw [layOut_orphan ha, layOut_orphan ha, hlater, Nat.add_right_comm _ n 2]
      refine .cons ?_ (ih _ (number + 1) (number' + 1) (by omega))
      -- no line number is too large to be held
      have hstart := toNat_toUInt32 (show next < UInt32.size by omega)
      have hstart' := toNat_toUInt32 (show next + n < UInt32.size by omega)
      have hstop := toNat_toUInt32 (show lastLine next a.diagnostic < UInt32.size by omega)
      have hstop' := toNat_toUInt32 (show lastLine next a.diagnostic + n < UInt32.size by omega)
      constructor
      case startLine => intro _; dsimp only [Range.ofEnds]; rw [hstart, hstart']
      case stopLine => intro _; dsimp only [Range.ofEnds]; rw [hstop, hstop']
      case found => intro h; cases h
      all_goals rfl

/-! ## Two batches -/

theorem anchors_append {A B : List Diagnostic}
    (h : anchors d bases (A ++ B) = .ok as) :
    ∃ as₁ as₂, as = as₁ ++ as₂ ∧ anchors d bases A = .ok as₁ ∧ anchors d bases B = .ok as₂ := by
  unfold anchors at h ⊢
  rw [List.mapM_append] at h
  cases hA : A.mapM (anchor d bases ·) with
  | error f => rw [hA] at h; cases h
  | ok as₁ =>
    cases hB : B.mapM (anchor d bases ·) with
    | error f => rw [hA, hB] at h; cases h
    | ok as₂ =>
      rw [hA, hB] at h
      cases h
      exact ⟨as₁, as₂, rfl, rfl, rfl⟩

/-- The file that holds the orphans of a batch that has any. -/
theorem read_of_orphans {batch : List Diagnostic} {as : List Anchor} {d' : Disk}
    (has : anchors d bases batch = .ok as)
    (hne : orphans (layOut r.orphansPath 0 0 as).1 ≠ [])
    (h : r.resolve d bases batch = (.ok (layOut r.orphansPath 0 0 as).1, d')) :
    d'.read r.orphansPath = .ok (Utf8.encode (layOut r.orphansPath 0 0 as).2) := by
  obtain ⟨as', has', -, hwrite⟩ := resolve_spec h
  rw [has] at has'
  cases has'
  rw [(any_synthetic _).2 hne] at hwrite
  exact read_writeOrphans hwrite

/-- **More diagnostics do not move those before them.** When a batch and a longer one that begins
with it are resolved on the same disk, the longer one has the results of the first at its beginning,
and its file of orphans begins with that of the first, if that has any. The rest of its results are
those of the rest alone, where the orphans are as many lines further down as the first batch takes
up in the file. -/
theorem resolve_append {A B : List Diagnostic} {resA resAB : List Resolved} {dA dAB : Disk}
    (hA : r.resolve d bases A = (.ok resA, dA))
    (hAB : r.resolve d bases (A ++ B) = (.ok resAB, dAB)) :
    resAB.take A.length = resA ∧
    (orphans resA ≠ [] → ∃ text rest, dA.read r.orphansPath = .ok text ∧
      dAB.read r.orphansPath = .ok (text ++ rest)) ∧
    (∀ resB dB, r.resolve d bases B = (.ok resB, dB) →
      (orphanLines resAB).length < UInt32.size →
      List.Forall₂ (Lowered (orphanLines resA).length) resB (resAB.drop A.length)) := by
  obtain ⟨as, has, hresAB, -⟩ := resolve_spec hAB
  obtain ⟨as₁, as₂, rfl, has₁, has₂⟩ := anchors_append has
  obtain ⟨as', has', hresA, -⟩ := resolve_spec hA
  rw [has₁] at has'
  cases has'
  have hsplit := layOut_append as₁ as₂ r.orphansPath 0 0
  dsimp only at hsplit
  rw [← hresA, Nat.zero_add, Nat.zero_add] at hsplit
  set second := layOut r.orphansPath (orphanLines resA).length (orphans resA).length as₂
  have hboth : resAB = resA ++ second.1 := by rw [hresAB, hsplit]
  have hlength : A.length = resA.length := by
    rw [hresA]
    exact (layOut_shows has₁ _ _ _).length_eq
  refine ⟨?_, ?_, ?_⟩
  · rw [hboth, hlength, List.take_left]
  · intro hne
    have hmore : orphans resAB ≠ [] := by
      rw [hboth]
      unfold orphans at hne ⊢
      rw [List.filter_append]
      exact List.append_ne_nil_of_left_ne_nil hne _
    have hreadA := read_of_orphans has₁ (hresA ▸ hne) (hresA ▸ hA)
    have hreadAB := read_of_orphans has (hresAB ▸ hmore) (hresAB ▸ hAB)
    rw [hsplit] at hreadAB
    exact ⟨_, _, hreadA, hreadAB.trans (congrArg Except.ok (Utf8.encode_append _ _))⟩
  · intro resB dB hB hshort
    obtain ⟨as'', has'', hresB, -⟩ := resolve_spec hB
    rw [has₂] at has''
    cases has''
    rw [hboth, length_orphanLines_append] at hshort
    rw [hboth, hlength, List.drop_left, hresB]
    have hlowered := layOut_lowered as₂ r.orphansPath 0 (orphanLines resA).length 0
      (orphans resA).length
    rw [Nat.zero_add] at hlowered
    exact hlowered hshort

/-- A linker's message of two lines, and then a diagnostic that has a file and one that has none:
the second orphan is six lines further down than alone. -/
theorem resolve_append_six_lines :
    let r : Resolver := ⟨⟨"/t"⟩⟩
    let d : Disk := ⟨[(["b"], .directory), (["b", "a.c"], .file [])], []⟩
    let bases : List Path := [⟨"/b"⟩]
    let A : List Diagnostic := [
      { source := "Link", file := "ld", range := .point 0 0, severity := "error"
        message := "undefined\nreference" }]
    let B : List Diagnostic := [
      { source := "GCC", file := "a.c", range := .point 4 0, severity := "warning"
        message := "unused" },
      { source := "MSVC", file := "main.obj", range := .point 0 0, severity := "error"
        message := "unresolved", code := some "LNK2019" }]
    ∃ resA resB resAB dA dB dAB, r.resolve d bases A = (.ok resA, dA) ∧
      r.resolve d bases B = (.ok resB, dB) ∧ r.resolve d bases (A ++ B) = (.ok resAB, dAB) ∧
      orphans resA ≠ [] ∧ (orphanLines resAB).length < UInt32.size ∧
      resB.map (·.range.start.line) = [4, 0] ∧
      resAB.take 1 = resA ∧ List.Forall₂ (Lowered 6) resB (resAB.drop 1) ∧
      ∃ text rest, dA.read r.orphansPath = .ok text ∧
        dAB.read r.orphansPath = .ok (text ++ rest) := by
  intro r d bases A B
  let resA := (r.resolve d bases A).1.toOption.getD []
  let resB := (r.resolve d bases B).1.toOption.getD []
  let resAB := (r.resolve d bases (A ++ B)).1.toOption.getD []
  have hA : r.resolve d bases A = (.ok resA, (r.resolve d bases A).2) := by decide +kernel
  have hB : r.resolve d bases B = (.ok resB, (r.resolve d bases B).2) := by decide +kernel
  have hAB : r.resolve d bases (A ++ B) = (.ok resAB, (r.resolve d bases (A ++ B)).2) := by
    decide +kernel
  have hne : orphans resA ≠ [] := by decide +kernel
  have hlines : (orphanLines resA).length = 6 := by decide +kernel
  have hshort : (orphanLines resAB).length < UInt32.size := by decide +kernel
  obtain ⟨hfirst, hfile, hrest⟩ := resolve_append hA hAB
  have hlowered := hrest resB _ hB hshort
  rw [hlines] at hlowered
  exact ⟨resA, resB, resAB, _, _, _, hA, hB, hAB, hne, hshort, by decide +kernel, hfirst, hlowered,
    hfile hne⟩

end Resolver

end BuildDiagnostics
