import BuildDiagnostics.Text.Case

/-!
# Lower case once and for all

Text in lower case stays as it is when it is put in lower case again: no small letter is a capital
of some other one. The table of capitals has one row for each run of them, and what is checked of it
is that the small letters of each row miss the capitals of every row.

* `CaseRow.lands_of_mem`: the check of the table.
* `lowerChar_of_mem`: lower case leaves the small letters of a character alone.
* `lower_lower`: lower case of a text in lower case.
-/

namespace BuildDiagnostics.Text

namespace CaseRow

/-- Whether a code point is that of a capital of the row. -/
def covers (r : CaseRow) (n : Nat) : Bool :=
  r.first ≤ n && n ≤ r.last && (n - r.first) % r.step == 0

/-- Whether no capital of the row lies between two code points, where only every second code point
counts if they are `sparse`. -/
def misses (r : CaseRow) (low high : Nat) (sparse : Bool) : Bool :=
  Nat.blt high r.first || Nat.blt r.last low ||
    sparse && Nat.beq r.step 2 && Nat.beq ((low + r.first) % 2) 1

/-- Whether the small letters of the row are characters that lower case leaves alone. -/
def lands (r : CaseRow) : Bool :=
  let low := (r.first + r.shift).toNat
  let high := (r.last + r.shift).toNat
  let sparse := Nat.beq r.step 2 || Nat.beq r.first r.last
  Nat.blt 0 low && (Nat.blt high 0xd800 || Nat.blt 0xdfff low && Nat.blt high 0x110000) &&
    (⟨0x130, 0x130, 1, 0⟩ :: caseRows).all fun other => other.misses low high sparse

/-- **The small letters of all rows are left alone.** -/
theorem lands_of_mem {r : CaseRow} (h : r ∈ caseRows) : r.lands = true := by
  have hall : caseRows.all lands = true := by decide +kernel
  exact List.all_eq_true.1 hall r h

variable {r other : CaseRow} {n : Nat}

theorem not_covers_of_misses {low high m : Nat} {sparse : Bool}
    (h : other.misses low high sparse = true) (hlow : low ≤ m) (hhigh : m ≤ high)
    (hsparse : sparse = true → (m - low) % 2 = 0) : other.covers m = false := by
  rw [← Bool.not_eq_true]
  intro hcovers
  simp only [covers, misses, Bool.or_eq_true, Bool.and_eq_true, decide_eq_true_eq, beq_iff_eq,
    Nat.blt_eq, Nat.beq_eq] at hcovers h
  obtain ⟨⟨hfirst, hlast⟩, hstep⟩ := hcovers
  rcases h with (h | h) | ⟨⟨hs, htwo⟩, hodd⟩
  · omega
  · omega
  · have heven := hsparse hs
    rw [htwo] at hstep
    omega

/-- **The small letter of a capital is a character that is neither a capital nor the dotted I.** -/
theorem image_of_covers (hr : r ∈ caseRows) (hn : r.covers n = true) :
    let m := (n + r.shift).toNat
    m.isValidChar ∧ m ≠ 0x130 ∧ ∀ other ∈ caseRows, other.covers m = false := by
  intro m
  have hlands := lands_of_mem hr
  simp only [lands, Bool.and_eq_true, Bool.or_eq_true, Nat.blt_eq, List.all_eq_true] at hlands
  simp only [covers, Bool.and_eq_true, decide_eq_true_eq, beq_iff_eq] at hn
  obtain ⟨⟨hpos, hvalid⟩, hmisses⟩ := hlands
  obtain ⟨⟨hfirst, hlast⟩, hstep⟩ := hn
  have hlow : (r.first + r.shift).toNat ≤ m := by omega
  have hhigh : m ≤ (r.last + r.shift).toNat := by omega
  have hsparse : (Nat.beq r.step 2 || Nat.beq r.first r.last) = true →
      (m - (r.first + r.shift).toNat) % 2 = 0 := by
    rw [Bool.or_eq_true, Nat.beq_eq, Nat.beq_eq]
    rintro (htwo | hone)
    · rw [htwo] at hstep
      omega
    · omega
  have hclear : ∀ other ∈ ⟨0x130, 0x130, 1, 0⟩ :: caseRows, other.covers m = false :=
    fun other hother => not_covers_of_misses (hmisses other hother) hlow hhigh hsparse
  refine ⟨?_, ?_, fun other hother => hclear other (List.mem_cons_of_mem _ hother)⟩
  · unfold Nat.isValidChar
    omega
  · intro hm
    have hdotted := hclear _ List.mem_cons_self
    rw [hm] at hdotted
    exact absurd hdotted (by decide)

end CaseRow

/-- A character is put in lower case by the first row that has it. -/
theorem lowerChar_eq (c : Char) : lowerChar c =
    if c = '\u0130' then ['i', '\u0307']
    else
      match caseRows.find? fun r => r.covers c.toNat with
      | some r => [Char.ofNat (c.toNat + r.shift).toNat]
      | none => [c] := rfl

theorem lowerChar_of_not_covers {c : Char} (hdotted : c ≠ '\u0130')
    (h : ∀ r ∈ caseRows, r.covers c.toNat = false) : lowerChar c = [c] := by
  have hnone : caseRows.find? (fun r => r.covers c.toNat) = none :=
    List.find?_eq_none.2 fun r hr => by rw [h r hr]; exact Bool.false_ne_true
  rw [lowerChar_eq, if_neg hdotted, hnone]

/-- **Lower case leaves the small letters of a character alone.** -/
theorem lowerChar_of_mem {c d : Char} (h : d ∈ lowerChar c) : lowerChar d = [d] := by
  rw [lowerChar_eq] at h
  split at h
  · have hd : d = 'i' ∨ d = '\u0307' := by simpa using h
    rcases hd with rfl | rfl <;> decide +kernel
  · rename_i hdotted
    cases hfind : caseRows.find? fun r => r.covers c.toNat with
    | none =>
      rw [hfind] at h
      cases List.mem_singleton.1 h
      refine lowerChar_of_not_covers hdotted fun r hr => ?_
      simpa using List.find?_eq_none.1 hfind r hr
    | some r =>
      rw [hfind] at h
      cases List.mem_singleton.1 h
      have hcovers : r.covers c.toNat = true := by simpa using List.find?_some hfind
      obtain ⟨hvalid, hne, hclear⟩ :=
        CaseRow.image_of_covers (List.mem_of_find?_eq_some hfind) hcovers
      have hcode : (Char.ofNat (c.toNat + r.shift).toNat).toNat = (c.toNat + r.shift).toNat := by
        rw [Char.ofNat, dif_pos hvalid]
        rfl
      refine lowerChar_of_not_covers (fun e => hne ?_) fun other hother => ?_
      · rw [← hcode, e]
        rfl
      · rw [hcode]
        exact hclear other hother

/-! ## Texts -/

theorem lowerChar_of_mem_lowerFrom {inWord : Bool} {s : List Char} {d : Char}
    (h : d ∈ lowerFrom inWord s) : lowerChar d = [d] := by
  induction s generalizing inWord with
  | nil => cases h
  | cons c s ih =>
    rw [lowerFrom] at h
    rcases List.mem_append.1 h with h | h
    · split at h
      · -- both forms of a small sigma
        rw [List.mem_singleton] at h
        split at h <;> rw [h] <;> decide +kernel
      · exact lowerChar_of_mem h
    · exact ih h

theorem lowerFrom_of_small {s : List Char} (h : ∀ c ∈ s, lowerChar c = [c]) (inWord : Bool) :
    lowerFrom inWord s = s := by
  induction s generalizing inWord with
  | nil => rfl
  | cons c s ih =>
    have hc := h c List.mem_cons_self
    have hsigma : c ≠ '\u03a3' := by
      rintro rfl
      exact absurd hc (by decide +kernel)
    have hrest := ih fun d hd => h d (List.mem_cons_of_mem _ hd)
    rw [lowerFrom, if_neg hsigma, hc, hrest, List.singleton_append]

/-- **A text in lower case stays as it is.** -/
theorem lower_lower (s : List Char) : lower (lower s) = lower s :=
  lowerFrom_of_small (fun _ h => lowerChar_of_mem_lowerFrom h) false

end BuildDiagnostics.Text
