import BuildDiagnostics.Proofs.Readings
import BuildDiagnostics.Proofs.FileName
import BuildDiagnostics.Grammar.GnuLd

/-!
# The names of linkers

A line that starts with a linker names it as the build did: with a drive or a directory, with the
triple of its target, with `.exe`. Its base name is one of ten names with what may stand before and
after them (`LinkerName`).

* `plain_of_isWord`: a character of a word is neither blank nor a slash.
* `linkerName_of_split`: the base name of the tool that a line starts with is such a name.
* `LinkerName.isBareName`, `LinkerName.hasBinaryExtension`: what the tests on references say of it.
-/

namespace BuildDiagnostics

namespace Text

/-! ## Characters -/

theorem CharSet.exists_range_of_holds {n : Nat} {rs : List (Nat × Nat)}
    (h : CharSet.holds n rs = true) : ∃ x ∈ rs, x.1 ≤ n ∧ n ≤ x.2 := by
  induction rs with
  | nil => exact absurd h (by simp [CharSet.holds])
  | cons x rs ih =>
    rw [CharSet.holds] at h
    split at h
    · exact absurd h (by simp)
    · rename_i hlo
      rcases Bool.or_eq_true_iff.1 h with h | h
      · exact ⟨x, List.mem_cons_self, Nat.le_of_not_lt hlo, of_decide_eq_true h⟩
      · obtain ⟨y, hy, hn⟩ := ih h
        exact ⟨y, List.mem_cons_of_mem _ hy, hn⟩

/-- Whether each range of the first set lies below or above each range of the second. -/
def CharSet.apart (s t : CharSet) : Bool :=
  s.ranges.all fun x => t.ranges.all fun y => x.2.blt y.1 || y.2.blt x.1

/-- Sets with ranges apart have no character in common. -/
theorem CharSet.contains_of_apart {s t : CharSet} {c : Char} (h : s.apart t = true)
    (hc : s.contains c = true) : t.contains c = false := by
  rw [← Bool.not_eq_true]
  intro hc'
  obtain ⟨x, hx, hlo, hhi⟩ := exists_range_of_holds hc
  obtain ⟨y, hy, hlo', hhi'⟩ := exists_range_of_holds hc'
  have hxy := List.all_eq_true.1 (List.all_eq_true.1 h x hx) y hy
  simp only [Bool.or_eq_true, Nat.blt_eq] at hxy
  omega

/-- The characters of a text that is the name of one file: no blanks, and no slashes of any kind. -/
def Plain (s : List Char) : Prop := ∀ c ∈ s, isBlank c = false ∧ isSlash c = false

-- by the characters of the text: an instance for all characters would try each there is
instance (s : List Char) : Decidable (Plain s) :=
  decidable_of_iff ((s.all fun c => !isBlank c && !isSlash c) = true) (by simp [Plain])

theorem Plain.append {s t : List Char} (hs : Plain s) (ht : Plain t) : Plain (s ++ t) :=
  List.forall_mem_append.2 ⟨hs, ht⟩

theorem isSlash_of_ne {c : Char} (h : c ≠ '/') (h' : c ≠ '\\') : isSlash c = false := by
  simp [isSlash, h, h']

theorem plain_of_isWord {c : Char} (h : isWord c = true) :
    isBlank c = false ∧ isSlash c = false := by
  refine ⟨CharSet.contains_of_apart (by decide +kernel) h, isSlash_of_ne ?_ ?_⟩
  all_goals rintro rfl; exact absurd h (by decide +kernel)

/-- The letters of the ASCII alphabet. -/
def letterSet : CharSet := ⟨[(0x41, 0x5a), (0x61, 0x7a)]⟩

theorem contains_letterSet {c : Char} (h : isLetterAscii c = true) :
    letterSet.contains c = true := by
  simp only [isLetterAscii, isUpperAscii, Bool.or_eq_true, Bool.and_eq_true,
    decide_eq_true_eq, Char.le_def, UInt32.le_iff_toNat_le] at h
  change (0x41 ≤ c.toNat ∧ c.toNat ≤ 0x5a) ∨ (0x61 ≤ c.toNat ∧ c.toNat ≤ 0x7a) at h
  simp only [letterSet, CharSet.contains, CharSet.holds]
  grind

theorem isBlank_of_isDigit {c : Char} (h : isDigit c = true) : isBlank c = false :=
  CharSet.contains_of_apart (s := digitSet) (by decide) h

theorem isDigit_of_isLetterAscii {c : Char} (h : isLetterAscii c = true) : isDigit c = false :=
  CharSet.contains_of_apart (t := digitSet) (by decide) (contains_letterSet h)

theorem plain_of_isLetterAscii {c : Char} (h : isLetterAscii c = true) :
    isBlank c = false ∧ isSlash c = false := by
  refine ⟨CharSet.contains_of_apart (by decide) (contains_letterSet h), isSlash_of_ne ?_ ?_⟩
  all_goals rintro rfl; exact absurd h (by decide)

end Text

namespace GnuLd

open Text Pattern

/-- The names of linkers, without the triple of a target before them. -/
def cores : List String :=
  ["ld", "ld.bfd", "ld.gold", "ld.lld", "ld.mold", "ld64.lld", "lld", "lld-link", "mold",
    "collect2"]

/-- A name of a linker, with what a target or a drive puts before it, and with or without `.exe`. -/
inductive LinkerName : List Char → Prop
  | plain {lead : List Char} {core : String} : Plain lead → core ∈ cores →
      LinkerName (lead ++ core.toList)
  | executable {lead : List Char} {core : String} : Plain lead → core ∈ cores →
      LinkerName (lead ++ core.toList ++ ".exe".toList)

variable {s r tool name dir : List Char} {ms : Captures} {c : Char}

/-! ## What the grammar reads -/

theorem core_reads
    (h : (oneOf ["ld" ++ opt ("." ++ oneOf ["bfd", "gold", "lld", "mold"]),
      "ld64.lld", "lld", "lld-link", "mold", "collect2"]).Reads s ms r) :
    ∃ core ∈ cores, s = core.toList ++ r ∧ ms = [] := by
  rcases h with ⟨_, _, _, ⟨rfl, rfl⟩, h, rfl⟩ | ⟨rfl, rfl⟩ | ⟨rfl, rfl⟩ | ⟨rfl, rfl⟩ |
    ⟨rfl, rfl⟩ | ⟨rfl, rfl⟩
  · rcases h with ⟨_, _, _, ⟨rfl, rfl⟩, h, rfl⟩ | ⟨rfl, rfl⟩
    · rcases h with ⟨rfl, rfl⟩ | ⟨rfl, rfl⟩ | ⟨rfl, rfl⟩ | ⟨rfl, rfl⟩
      · exact ⟨"ld.bfd", by decide, rfl, rfl⟩
      · exact ⟨"ld.gold", by decide, rfl, rfl⟩
      · exact ⟨"ld.lld", by decide, rfl, rfl⟩
      · exact ⟨"ld.mold", by decide, rfl, rfl⟩
    · exact ⟨"ld", by decide, rfl, rfl⟩
  · exact ⟨"ld64.lld", by decide, rfl, rfl⟩
  · exact ⟨"lld", by decide, rfl, rfl⟩
  · exact ⟨"lld-link", by decide, rfl, rfl⟩
  · exact ⟨"mold", by decide, rfl, rfl⟩
  · exact ⟨"collect2", by decide, rfl, rfl⟩

/-- A drive is plain text. -/
theorem drive_reads (h : drive.Reads s ms r) : ∃ t, s = t ++ r ∧ ms = [] ∧ Plain t := by
  rcases h with ⟨_, _, _, ⟨c, hc, rfl, rfl⟩, ⟨rfl, rfl⟩, rfl⟩ | ⟨rfl, rfl⟩
  · have hcolon : Plain [':'] := by decide
    exact ⟨[c, ':'], rfl, rfl, List.forall_mem_cons.2 ⟨plain_of_isLetterAscii hc, hcolon⟩⟩
  · exact ⟨[], rfl, rfl, by decide⟩

theorem linkerName_reads (h : linkerName.Reads s ms r) :
    ∃ lead, ∃ core ∈ cores, s = lead ++ core.toList ++ r ∧ ms = [] ∧ Plain lead := by
  obtain ⟨_, _, _, hlead, hcore, rfl⟩ := h
  obtain ⟨core, hmem, rfl, rfl⟩ := core_reads hcore
  rcases hlead with ⟨_, _, _, ⟨t, ht, rfl, rfl⟩, ⟨rfl, rfl⟩, rfl⟩ | ⟨rfl, rfl⟩
  · refine ⟨t ++ ['-'], core, hmem, by simp, rfl, Plain.append ?_ (by decide)⟩
    intro c hc
    have := ht c hc
    simp only [Bool.or_eq_true, beq_iff_eq] at this
    rcases this with ((hw | rfl) | rfl) | rfl
    · exact plain_of_isWord hw
    all_goals decide
  · exact ⟨[], core, hmem, rfl, rfl, by decide⟩

theorem baseName_of_plain (h : Plain name) : baseName name = name := by
  unfold baseName
  rw [List.takeWhile_eq_self_iff.2, List.reverse_reverse]
  intro c hc
  simp [(h c (List.mem_reverse.1 hc)).2]

/-- The base name starts after the last slash. -/
theorem baseName_append (hc : isSlash c = true) (h : Plain name) :
    baseName (dir ++ c :: name) = name := by
  have htake : (name.reverse ++ c :: dir.reverse).takeWhile (fun c => !isSlash c) =
      name.reverse := by
    rw [List.takeWhile_append_of_pos, List.takeWhile_cons_of_neg (by simp [hc]), List.append_nil]
    intro c hc
    simp [(h c (List.mem_reverse.1 hc)).2]
  unfold baseName
  simp [htake]

theorem plain_of_mem_cores {core : String} (h : core ∈ cores) : Plain core.toList := by
  revert core; decide

theorem LinkerName.isPlain (h : LinkerName name) : Plain name := by
  cases h with
  | plain hlead hcore => exact hlead.append (plain_of_mem_cores hcore)
  | executable hlead hcore => exact (hlead.append (plain_of_mem_cores hcore)).append (by decide)

/-- More plain text before a linker's name is part of it. -/
theorem LinkerName.append (h : LinkerName name) (hs : Plain s) : LinkerName (s ++ name) := by
  cases h with
  | plain hlead hcore => rw [← List.append_assoc]; exact .plain (hs.append hlead) hcore
  | executable hlead hcore =>
    rw [← List.append_assoc, ← List.append_assoc]; exact .executable (hs.append hlead) hcore

/-- What comes before the name is left out up to the last slash; a drive alone stays. -/
theorem linkerName_baseName {before : List Char} (h : LinkerName name)
    (hbefore : Plain before ∨ ∃ dir c, isSlash c = true ∧ before = dir ++ [c]) :
    LinkerName (baseName (before ++ name)) := by
  rcases hbefore with hplain | ⟨dir, c, hc, rfl⟩
  · rw [baseName_of_plain (hplain.append h.isPlain)]
    exact h.append hplain
  · rw [List.append_assoc, List.singleton_append, baseName_append hc h.isPlain]
    exact h

/-- A directory ends in a slash. -/
theorem directory_reads {p : Char → Bool} (h : (opt (most p ++ one isSlash)).Reads s ms r) :
    ms = [] ∧ (s = r ∨ ∃ dir c, isSlash c = true ∧ s = dir ++ c :: r) := by
  rcases h with ⟨_, _, _, ⟨dir, -, rfl, rfl⟩, ⟨c, hc, rfl, rfl⟩, rfl⟩ | ⟨rfl, rfl⟩
  · exact ⟨rfl, .inr ⟨dir, c, hc, rfl⟩⟩
  · exact ⟨rfl, .inl rfl⟩

theorem tool_reads
    (h : (drive ++ opt (most (fun c => !isBlank c && c != ':') ++ one isSlash) ++ linkerName ++
      opt ".exe").Reads s ms r) :
    ∃ tool, s = tool ++ r ∧ ms = [] ∧ LinkerName (baseName tool) := by
  obtain ⟨_, m, ms', ⟨_, m', _, ⟨_, m'', _, hdrive, hdir, rfl⟩, hname, rfl⟩, hexe, rfl⟩ := h
  obtain ⟨t, rfl, rfl, ht⟩ := drive_reads hdrive
  obtain ⟨rfl, hbefore⟩ := directory_reads hdir
  obtain ⟨lead, core, hcore, rfl, rfl, hlead⟩ := linkerName_reads hname
  obtain ⟨name, hsplit, rfl, hname⟩ :
      ∃ name, lead ++ core.toList ++ m = name ++ r ∧ ms' = [] ∧ LinkerName name := by
    rcases hexe with ⟨rfl, rfl⟩ | ⟨rfl, rfl⟩
    · exact ⟨lead ++ core.toList ++ ".exe".toList, by simp, rfl, .executable hlead hcore⟩
    · exact ⟨lead ++ core.toList, rfl, rfl, .plain hlead hcore⟩
  rw [hsplit] at hbefore
  rcases hbefore with rfl | ⟨dir, c, hc, rfl⟩
  · exact ⟨t ++ name, by simp, rfl, linkerName_baseName hname (.inl ht)⟩
  · exact ⟨t ++ dir ++ [c] ++ name, by simp, rfl,
      linkerName_baseName hname (.inr ⟨t ++ dir, c, hc, rfl⟩)⟩

/-- **The base name of the tool that a line starts with is a linker's name.** -/
theorem linkerName_of_split {line : Line} (h : (split line).1 = some tool) :
    LinkerName (baseName tool) := by
  unfold split at h
  split at h
  · rename_i cs hcs
    obtain ⟨_, _, _, _, ⟨_, _, _, ⟨_, _, _, ⟨_, _, _, ⟨_, htool, rfl⟩, -, rfl⟩, -, rfl⟩, -, rfl⟩,
      -, rfl⟩ := match?_reads hcs
    obtain ⟨t, rfl, rfl, ht⟩ := tool_reads htool
    have hget : tool = t := by
      simpa [Captures.get, get?_capture, eq_comm] using h
    rwa [hget]
  · exact absurd h (by simp)

/-! ## What the tests on references say -/

theorem core_eq_concat {core : String} (h : core ∈ cores) :
    ∃ stem, ∃ c ∈ ['d', 'k', '2'], core.toList = stem ++ [c] := by
  have hlast : core.toList.getLast? ∈ ['d', 'k', '2'].map some := by revert core; decide
  obtain ⟨c, hc, hlast⟩ := List.mem_map.1 hlast
  obtain ⟨stem, hstem⟩ := List.getLast?_eq_some_iff.1 hlast.symm
  exact ⟨stem, c, hc, hstem⟩

/-- A linker's name ends in one of three letters, or in `.exe` after one of these. -/
theorem LinkerName.eq_append (h : LinkerName name) : ∃ stem, ∃ c ∈ ['d', 'k', '2'],
    name = stem ++ [c] ∨ name = stem ++ [c] ++ ".exe".toList := by
  cases h with
  | @plain lead core _ hcore =>
    obtain ⟨stem, c, hc, hstem⟩ := core_eq_concat hcore
    exact ⟨lead ++ stem, c, hc, .inl (by rw [hstem, List.append_assoc])⟩
  | @executable lead core _ hcore =>
    obtain ⟨stem, c, hc, hstem⟩ := core_eq_concat hcore
    exact ⟨lead ++ stem, c, hc, .inr (by simp only [hstem, List.append_assoc])⟩

theorem LinkerName.isName (h : LinkerName name) : Path.IsName name := by
  have hslash : '/' ∉ name := fun hs => absurd (h.isPlain _ hs).2 (by decide)
  obtain ⟨stem, c, hc, rfl | rfl⟩ := h.eq_append
  · exact Path.isName_concat hslash (by rintro rfl; exact absurd hc (by decide))
  · have hexe : stem ++ [c] ++ ".exe".toList = stem ++ [c] ++ ".ex".toList ++ ['e'] := by simp
    rw [hexe] at hslash ⊢
    exact Path.isName_concat hslash (by decide)

theorem LinkerName.trim (h : LinkerName name) : Text.trim name = name :=
  trim_of_no_blank fun c hc => (h.isPlain c hc).1

/-- **A linker's name is bare** exactly if it has no dot after its first character. -/
theorem LinkerName.isBareName (h : LinkerName name) :
    Reference.isBareName name = true ↔ '.' ∉ name.tail := by
  rw [Reference.isBareName_of_name h.isName h.trim, and_iff_right]
  exact fun c hc => (h.isPlain c hc).2

/-- **A linker's name has a binary ending** exactly if that is `.exe`. -/
theorem LinkerName.hasBinaryExtension (h : LinkerName name) :
    Reference.hasBinaryExtension name = true ↔ ".exe".toList <:+ name := by
  have hname := h.isName
  have htrim := h.trim
  obtain ⟨stem, c, hc, rfl | rfl⟩ := h.eq_append
  · refine iff_of_false ?_ ?_
    · rw [Bool.not_eq_true]
      refine Reference.hasBinaryExtension_concat hname htrim ?_
      clear hname htrim h
      have hletter : c = 'd' ∨ c = 'k' ∨ c = '2' := by simpa using hc
      rcases hletter with rfl | rfl | rfl <;> decide
    · rintro ⟨s, hs⟩
      have hlast := congrArg List.getLast? hs
      rw [List.getLast?_append, List.getLast?_concat] at hlast
      cases hlast
      exact absurd hc (by decide)
  · refine iff_of_true ?_ ⟨_, rfl⟩
    have hexe : stem ++ [c] ++ ".exe".toList = stem ++ [c] ++ '.' :: ['e', 'x', 'e'] := by simp
    rw [hexe] at hname htrim ⊢
    rw [Reference.hasBinaryExtension_append hname htrim (by simp) (by decide)]
    decide

end GnuLd

end BuildDiagnostics
