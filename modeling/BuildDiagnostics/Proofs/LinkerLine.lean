import BuildDiagnostics.Grammar.Gcc
import BuildDiagnostics.Proofs.LinkerName

/-!
# Lines that start with a linker

A linker's name is written down twice: as the whole of a text (`toolPattern`) and at the start of a
line, before a colon and blanks (`tooledPattern`). The two agree, up to the directory, which may
have blanks and colons in a text of its own but not in a line.

Only a drive letter brings a colon into a tool, so the tool of a line ends at its first colon, or at
the second one behind a drive. The names that `make` goes by end in other letters than a linker's,
so no line starts with both.

* `isCut_of_split`: the tool, the gap and the message make up the line.
* `isMakeLine_of_isCut`: `make` has not written such a line.
* `claimed_read`: the message is claimed, whatever it is.
* `split_append`: a linker's name is captured whole.
* `linker_line_claimed`: such a line goes to the linkers' grammar, and to that of GCC in no state.
-/

namespace BuildDiagnostics

namespace GnuLd

open Text Pattern

variable {line : Line} {tool body name text s t r : List Char} {ms : Captures}

/-! ## The tool of a line -/

/-- A directory before a tool in a line. -/
def directory : Pattern := opt (most (fun c => !isBlank c && c != ':') ++ one isSlash)

/-- A tool of a line, without a drive. -/
def namePattern : Pattern := directory ++ linkerName ++ opt ".exe"

/-- The text ends as a linker's name does, which has two letters at least. -/
def EndsAsLinker (t : List Char) : Prop :=
  ∃ stem, stem ≠ [] ∧ ∃ c ∈ ['d', 'k', '2'],
    t = stem ++ [c] ∨ t = stem ++ [c] ++ ".exe".toList

theorem EndsAsLinker.two_le_length (h : EndsAsLinker t) : 2 ≤ t.length := by
  obtain ⟨stem, hne, c, -, rfl | rfl⟩ := h
  all_goals
    have hstem := List.length_pos_iff.2 hne
    simp only [List.length_append, List.length_singleton]
    omega

/-- The text is a drive letter with its colon, or nothing. -/
def IsDrive (t : List Char) : Prop := t = [] ∨ ∃ c, isLetterAscii c = true ∧ t = [c, ':']

theorem colon_not_mem_letter {c : Char} (hc : isLetterAscii c = true) : ':' ∉ [c] := by
  rw [List.mem_singleton]
  rintro rfl
  exact absurd hc (by decide)

theorem isDrive_of_reads (h : drive.Reads s ms r) : ms = [] ∧ ∃ t, IsDrive t ∧ s = t ++ r := by
  rcases h with ⟨_, _, _, ⟨c, hc, rfl, rfl⟩, ⟨rfl, rfl⟩, rfl⟩ | ⟨rfl, rfl⟩
  · exact ⟨rfl, [c, ':'], .inr ⟨c, hc, rfl⟩, rfl⟩
  · exact ⟨rfl, [], .inl rfl, rfl⟩

theorem two_le_length_core {core : String} (h : core ∈ cores) : 2 ≤ core.toList.length := by
  revert core; decide

theorem endsAsLinker_of_reads (h : namePattern.Reads s ms r) :
    ms = [] ∧ ∃ t, s = t ++ r ∧ ':' ∉ t ∧ EndsAsLinker t := by
  obtain ⟨t, rfl⟩ := suffix_of_reads h
  have hcolon : ':' ∉ t := not_mem_of_avoids (by decide) h
  obtain ⟨_, m, _, ⟨_, _, _, hdir, hname, rfl⟩, hexe, rfl⟩ := h
  obtain ⟨rfl, hcut⟩ := directory_reads hdir
  obtain ⟨lead, core, hcore, rfl, rfl, -⟩ := linkerName_reads hname
  obtain ⟨before, hbefore⟩ : ∃ before, t ++ r = before ++ core.toList ++ m := by
    rcases hcut with hcut | ⟨dir, c, -, hcut⟩
    · exact ⟨lead, hcut⟩
    · exact ⟨dir ++ c :: lead, by rw [hcut]; simp⟩
  obtain ⟨stem, c, hc, hstem⟩ := core_eq_concat hcore
  have hne : before ++ stem ≠ [] := by
    have htwo := two_le_length_core hcore
    rw [hstem, List.length_append, List.length_singleton] at htwo
    rw [← List.length_pos_iff, List.length_append]
    omega
  rcases hexe with ⟨rfl, rfl⟩ | ⟨rfl, rfl⟩
  · refine ⟨rfl, t, rfl, hcolon, before ++ stem, hne, c, hc, .inr ?_⟩
    rw [hstem, ← List.append_assoc] at hbefore
    simpa using List.append_cancel_right hbefore
  · refine ⟨rfl, t, rfl, hcolon, before ++ stem, hne, c, hc, .inl ?_⟩
    rw [List.append_cancel_right hbefore, hstem, List.append_assoc]

/-- A directory is read alike where both classes have the characters of the text. -/
theorem directory_reads_of {p q : Char → Bool} (hpq : ∀ c ∈ s, p c = true → q c = true)
    (h : (opt (most p ++ one isSlash)).Reads s ms r) :
    (opt (most q ++ one isSlash)).Reads s ms r := by
  rcases h with ⟨_, _, _, ⟨dir, hdir, rfl, rfl⟩, hslash, rfl⟩ | hnone
  · refine .inl ⟨_, _, _, ⟨dir, fun c hc => ?_, rfl, rfl⟩, hslash, rfl⟩
    exact hpq c (List.mem_append_left _ hc) (hdir c hc)
  · exact .inr hnone

/-- A tool of a line: a drive, or none, and a text that ends as a linker's name does. -/
structure IsTool (tool : List Char) : Prop where
  cut : ∃ lead name, tool = lead ++ name ∧ IsDrive lead ∧ ':' ∉ name ∧ EndsAsLinker name
  whole : isLinkerTool tool = true

theorem isTool_of_reads
    (h : (drive ++ directory ++ linkerName ++ opt ".exe").Reads s ms r) :
    ms = [] ∧ ∃ tool, s = tool ++ r ∧ IsTool tool := by
  obtain ⟨tool, rfl⟩ := suffix_of_reads h
  obtain ⟨hms, hcut⟩ : ms = [] ∧
      ∃ lead name, tool = lead ++ name ∧ IsDrive lead ∧ ':' ∉ name ∧ EndsAsLinker name := by
    obtain ⟨_, _, _, ⟨_, _, _, ⟨_, m, _, hdrive, hdir, rfl⟩, hname, rfl⟩, hexe, rfl⟩ := h
    obtain ⟨rfl, lead, hlead, hs⟩ := isDrive_of_reads hdrive
    obtain ⟨hms, name, rfl, hcolon, hends⟩ :=
      endsAsLinker_of_reads ⟨_, _, _, ⟨_, _, _, hdir, hname, rfl⟩, hexe, rfl⟩
    rw [← List.append_assoc] at hs
    exact ⟨hms, lead, name, List.append_cancel_right hs, hlead, hcolon, hends⟩
  refine ⟨hms, tool, rfl, hcut, accepts_iff.2 ?_⟩
  -- at the end of the text the same reading is one of the whole name
  obtain ⟨_, _, _, _, ⟨_, _, _, ⟨_, _, _, hdrive, hdir, rfl⟩, hname, rfl⟩, hexe, rfl⟩ :=
    reads_append_of_isLocal (by decide) h []
  rw [List.append_nil] at hdrive
  have hdir' := directory_reads_of (q := isInline) (fun c _ hc => ?_) hdir
  · exact ⟨_, [], _, [], _, ⟨_, _, _, ⟨_, _, _, ⟨_, _, _, hdrive, hdir', rfl⟩, hname, rfl⟩, hexe,
      rfl⟩, ⟨rfl, rfl, rfl⟩, rfl⟩
  · rw [isInline, bne_iff_ne]
    rintro rfl
    exact absurd hc (by decide)

/-- The line is a tool, a colon, a gap and a message. -/
structure IsCut (line tool body : List Char) : Prop where
  isTool : IsTool tool
  eq : ∃ gap, gap ≠ [] ∧ isBlankLine gap = true ∧ line = tool ++ ':' :: (gap ++ body)
  inline : '\n' ∉ body

/-- What comes before the first colon of the line is the tool, or the letter of its drive. -/
theorem IsCut.eq_or_letter (h : IsCut (t ++ ':' :: r) tool body) (ht : ':' ∉ t) :
    t = tool ∧ EndsAsLinker t ∨ ∃ c, t = [c] := by
  obtain ⟨gap, -, -, hline⟩ := h.eq
  obtain ⟨lead, name, rfl, rfl | ⟨c, hc, rfl⟩, hname, hends⟩ := h.isTool.cut
  · obtain ⟨rfl, -⟩ := cut_unique ht hname hline
    exact .inl ⟨rfl, hends⟩
  · obtain ⟨rfl, -⟩ := cut_unique ht (colon_not_mem_letter hc) (by simpa using hline)
    exact .inr ⟨c, rfl⟩

theorem isCut_of_reads (h : tooledPattern.Reads line ms r) :
    IsCut line (ms.get .tool) (ms.get .message) := by
  obtain ⟨_, _, _, ⟨_, _, _, ⟨_, _, _, ⟨_, _, _, ⟨_, htool, rfl⟩, ⟨rfl, rfl⟩, rfl⟩, hgap, rfl⟩,
    ⟨_, ⟨body, hbody, rfl, rfl⟩, rfl⟩, rfl⟩, ⟨rfl, rfl, rfl⟩, rfl⟩ := h
  obtain ⟨_, _, _, ⟨c, hc, rfl, rfl⟩, ⟨gap, hgap, rfl, rfl⟩, rfl⟩ := hgap
  obtain ⟨rfl, tool, rfl, hisTool⟩ := isTool_of_reads htool
  have hcut : IsCut (tool ++ ':' :: (c :: gap ++ body)) tool body := by
    refine ⟨hisTool, ⟨c :: gap, by simp, ?_, rfl⟩, fun hn => absurd (hbody _ hn) (by decide)⟩
    exact List.all_eq_true.2 (List.forall_mem_cons.2 ⟨hc, hgap⟩)
  simpa [Captures.get, Captures.get?, Captures.restOf?] using hcut

/-- **The tool, the gap and the message make up the line.** -/
theorem isCut_of_split (h : split line = (some tool, body)) : IsCut line tool body := by
  unfold split at h
  split at h
  · rename_i cs hcs
    cases h
    obtain ⟨r, hr⟩ := match?_reads hcs
    exact isCut_of_reads hr
  · cases h

theorem isLinkerPrefixed_eq (line : Line) : isLinkerPrefixed line = (split line).1.isSome := by
  unfold isLinkerPrefixed split
  rw [← isSome_match?]
  cases tooledPattern.match? line <;> rfl

/-! ## The tool of a line is not `make` -/

/-- The text ends as the names that `make` goes by. -/
def EndsAsMake (t : List Char) : Prop :=
  ∃ stem e, t = stem ++ "make".toList ++ e ∧
    (e = [] ∨ e = ".exe".toList ∨ e.getLast? = some ']')

theorem endsAsMake_of_reads (h : makePattern.Reads line ms r) :
    ∃ t, line = t ++ ':' :: r ∧ ':' ∉ t ∧ EndsAsMake t := by
  obtain ⟨_, _, _, hname, ⟨rfl, rfl⟩, rfl⟩ := h
  obtain ⟨t, rfl⟩ := suffix_of_reads hname
  refine ⟨t, rfl, not_mem_of_avoids (by decide) hname, ?_⟩
  obtain ⟨_, _, _, ⟨_, m, _, ⟨_, _, _, hstart, ⟨rfl, rfl⟩, rfl⟩, hexe, rfl⟩, hnumber, rfl⟩ := hname
  obtain ⟨stem, hstem⟩ := suffix_of_reads hstart
  obtain ⟨e, rfl, he⟩ : ∃ e, m = e ++ (":".toList ++ r) ∧
      (e = [] ∨ e = ".exe".toList ∨ e.getLast? = some ']') := by
    rcases hnumber with ⟨_, _, _, hopen, ⟨rfl, rfl⟩, rfl⟩ | ⟨rfl, rfl⟩
    · obtain ⟨u, hu⟩ := suffix_of_reads hopen
      rcases hexe with ⟨rfl, rfl⟩ | ⟨rfl, rfl⟩
      · exact ⟨".exe".toList ++ u ++ [']'], by rw [← hu]; simp, .inr (.inr List.getLast?_concat)⟩
      · exact ⟨u ++ [']'], by rw [← hu]; simp, .inr (.inr List.getLast?_concat)⟩
    · rcases hexe with ⟨rfl, rfl⟩ | ⟨rfl, rfl⟩
      · exact ⟨".exe".toList, rfl, .inr (.inl rfl)⟩
      · exact ⟨[], rfl, .inl rfl⟩
  rw [← List.append_assoc, ← List.append_assoc] at hstem
  exact ⟨stem, e, (List.append_cancel_right hstem).symm, he⟩

theorem not_endsAsMake (h : EndsAsLinker t) : ¬ EndsAsMake t := by
  rintro ⟨stem', e, rfl, he⟩
  obtain ⟨stem, -, c, hc, h⟩ := h
  have he' : c ≠ 'e' := by rintro rfl; exact absurd hc (by decide)
  have hbracket : c ≠ ']' := by rintro rfl; exact absurd hc (by decide)
  rcases he with rfl | rfl | he
  · rcases h with h | h
    · exact he' (by simpa [eq_comm] using congrArg List.getLast? h)
    · have hfour := (List.append_inj' (h.symm.trans (List.append_nil _)) rfl).2
      exact absurd hfour (by decide)
  · rcases h with h | h
    · exact he' (by simpa [eq_comm] using congrArg List.getLast? h)
    · have hname := List.append_cancel_right h
      exact he' (by simpa [eq_comm] using congrArg List.getLast? hname)
  · rcases h with h | h
    · have hlast := congrArg List.getLast? h
      rw [List.getLast?_append, he, List.getLast?_concat] at hlast
      exact hbracket (Option.some.inj hlast).symm
    · have hlast := congrArg List.getLast? h
      rw [List.getLast?_append, he] at hlast
      simp at hlast

/-- **No line starts with a linker and with `make`.** -/
theorem isMakeLine_of_isCut (h : IsCut line tool body) : isMakeLine line = false := by
  rw [← Bool.not_eq_true]
  intro hmake
  obtain ⟨ms, r, hreads⟩ := accepts_iff.1 hmake
  obtain ⟨t, rfl, hcolon, hends⟩ := endsAsMake_of_reads hreads
  rcases h.eq_or_letter hcolon with ⟨-, hlinker⟩ | ⟨c, rfl⟩
  · exact not_endsAsMake hlinker hends
  · obtain ⟨stem, e, hshort, -⟩ := hends
    have hlength := congrArg List.length hshort
    simp at hlength
    omega

/-! ## What comes after the tool -/

/-- Text after a tool is read as a place or as a message, whatever it says. -/
theorem isSome_body? (tool : List Char) (hne : body ≠ []) (hinline : '\n' ∉ body) :
    (body? (some tool) body).isSome = true := by
  have hmessage : (toolMessagePattern.match? body).isSome = true := by
    rw [isSome_match?, accepts_iff]
    obtain ⟨c, s, rfl⟩ := List.exists_cons_of_ne_nil hne
    obtain ⟨hc, hs⟩ := List.forall_mem_cons.1 (isInline_of_not_mem hinline)
    exact ⟨_, [], _, [], _, ⟨_, _, _, .inr ⟨rfl, rfl⟩, ⟨_, ⟨_, _, _, ⟨c, hc, rfl, rfl⟩,
      ⟨s, hs, (List.append_nil s).symm, rfl⟩, rfl⟩, rfl⟩, rfl⟩, ⟨rfl, rfl, rfl⟩, rfl⟩
  obtain ⟨cs, hcs⟩ := Option.isSome_iff_exists.1 hmessage
  unfold body?
  cases sectionPattern.match? body with
  | some cs => rfl
  | none =>
    cases locatedPattern.match? body with
    | some cs => rfl
    | none => rw [hcs]; rfl

/-- **A message of a linker is claimed**, whatever it is. -/
theorem claimed_read (h : split line = (some tool, body)) (hbody : ∃ c ∈ body, isBlank c = false) :
    (read line).claimed = true := by
  have hcut := isCut_of_split h
  have hne : body ≠ [] := by
    rintro rfl
    obtain ⟨c, hc, -⟩ := hbody
    cases hc
  obtain ⟨d, hd⟩ := Option.isSome_iff_exists.1 (isSome_body? tool hne hcut.inline)
  unfold read
  rw [isMakeLine_of_isCut hcut, h]
  dsimp only
  rw [hd]
  split
  · rename_i hfalse; cases hfalse
  · split <;> rfl

/-! ## Names of linkers as tools of lines -/

/-- A linker's name without blanks and colons is read as the tool of a line. -/
theorem reads_name (hname : ∀ c ∈ name, isBlank c = false ∧ c ≠ ':')
    (htool : isLinkerTool name = true) :
    EndsAsLinker name ∧ ∀ r, ∃ ms, (drive ++ directory ++ linkerName ++ opt ".exe").Reads
      (name ++ r) ms r := by
  obtain ⟨_, _, _, _, _, ⟨_, _, _, ⟨_, _, _, ⟨_, text, _, hdrive, hdir, rfl⟩, hlinker, rfl⟩, hexe,
    rfl⟩, ⟨rfl, rfl, rfl⟩, rfl⟩ := accepts_iff.1 htool
  have hdriven := hdrive
  obtain ⟨-, lead, hlead, hcut⟩ := isDrive_of_reads hdriven
  rcases hlead with rfl | ⟨c, -, rfl⟩
  · obtain rfl : name = text := hcut
    have hdir' := directory_reads_of (q := fun c => !isBlank c && c != ':')
      (fun c hc _ => by simp [hname c hc]) hdir
    obtain ⟨-, t, ht, -, hends⟩ := endsAsLinker_of_reads ⟨_, _, _, ⟨_, _, _, hdir', hlinker, rfl⟩,
      hexe, rfl⟩
    rw [List.append_nil] at ht
    obtain ⟨ms, hall⟩ : ∃ ms,
        (drive ++ directory ++ linkerName ++ opt ".exe").Reads name ms [] :=
      ⟨_, _, _, _, ⟨_, _, _, ⟨_, _, _, hdrive, hdir', rfl⟩, hlinker, rfl⟩, hexe, rfl⟩
    rw [← List.append_nil name] at hall
    exact ⟨ht ▸ hends, reads_append_of_isLocal (by decide) hall⟩
  · -- a drive has a colon
    exact absurd rfl (hname ':' (by rw [hcut]; simp)).2

/-- **A linker's name is captured whole** where a colon and a blank come after it. -/
theorem split_append (hname : ∀ c ∈ name, isBlank c = false ∧ c ≠ ':')
    (htool : isLinkerTool name = true) (htext : '\n' ∉ text) :
    isLinkerPrefixed (name ++ ": ".toList ++ text) = true ∧
      (split (name ++ ": ".toList ++ text)).1 = some name := by
  obtain ⟨hends, hreads⟩ := reads_name hname htool
  have hprefixed : isLinkerPrefixed (name ++ ": ".toList ++ text) = true := by
    obtain ⟨ms, hms⟩ := hreads (":".toList ++ ' ' :: text)
    rw [List.append_assoc]
    have hgap : (most1 isBlank).Reads (' ' :: text) [] text :=
      ⟨_, _, _, ⟨' ', by decide, rfl, rfl⟩, ⟨[], by simp, rfl, rfl⟩, rfl⟩
    have hmessage : (capture .message (most isInline)).Reads text _ [] :=
      ⟨_, ⟨text, isInline_of_not_mem htext, (List.append_nil text).symm, rfl⟩, rfl⟩
    have hcolon : Reads (":" : String) (":".toList ++ ' ' :: text) [] (' ' :: text) := ⟨rfl, rfl⟩
    exact accepts_iff.2 ⟨_, _, _, _, _, ⟨_, _, _, ⟨_, _, _, ⟨_, _, _, ⟨_, hms, rfl⟩, hcolon, rfl⟩,
      hgap, rfl⟩, hmessage, rfl⟩, ⟨rfl, rfl, rfl⟩, rfl⟩
  refine ⟨hprefixed, ?_⟩
  rw [isLinkerPrefixed_eq] at hprefixed
  obtain ⟨tool, htool'⟩ := Option.isSome_iff_exists.1 hprefixed
  have hcut : IsCut (name ++ ": ".toList ++ text) tool (split (name ++ ": ".toList ++ text)).2 :=
    isCut_of_split (Prod.ext htool' rfl)
  have hline : name ++ ": ".toList ++ text = name ++ ':' :: ' ' :: text := by simp
  rw [hline] at hcut
  rcases hcut.eq_or_letter (fun h => (hname _ h).2 rfl) with ⟨rfl, -⟩ | ⟨c, rfl⟩
  · exact htool'
  · exact absurd hends.two_le_length (by simp)

/-! ## Lines of linkers -/

/-- **A line that starts with a linker belongs to the linkers' grammar.** That grammar claims it as
soon as it says anything, and the grammar of GCC leaves it, whatever it holds, and finishes just
that. What is captured as the tool is a linker's name, and every such name without blanks and colons
is captured where it starts a line. -/
theorem linker_line_claimed :
    (∀ line, isLinkerPrefixed line = true → ∃ tool gap body,
      line = tool ++ ':' :: (gap ++ body) ∧ gap ≠ [] ∧ isBlankLine gap = true ∧
        split line = (some tool, body) ∧ isLinkerTool tool = true ∧
        ((∃ c ∈ body, isBlank c = false) → (read line).claimed = true) ∧
        ∀ s : Gcc.State, s.step line = (.leave s.held, { s with held := none })) ∧
    ∀ name text : List Char, (∀ c ∈ name, isBlank c = false ∧ c ≠ ':') →
      isLinkerTool name = true → '\n' ∉ text →
      isLinkerPrefixed (name ++ ": ".toList ++ text) = true ∧
        (split (name ++ ": ".toList ++ text)).1 = some name := by
  constructor
  · intro line hline
    have hprefixed := hline
    rw [isLinkerPrefixed_eq] at hprefixed
    obtain ⟨tool, htool⟩ := Option.isSome_iff_exists.1 hprefixed
    have hsplit : split line = (some tool, (split line).2) := Prod.ext htool rfl
    have hcut := isCut_of_split hsplit
    obtain ⟨gap, hne, hgap, heq⟩ := hcut.eq
    refine ⟨tool, gap, _, heq, hne, hgap, hsplit, hcut.isTool.whole, claimed_read hsplit, ?_⟩
    intro s
    rw [Gcc.State.step, hline, Bool.or_true, if_pos rfl]
    rfl
  · intro name text hname htool htext
    exact split_append hname htool htext

/-- A linker with a drive, and a name with the triple of its target. -/
theorem linker_line_claimed_mingw :
    let line := "C:\\mingw\\ld.exe: cannot find -lfoo".toList
    let name := "bin/x86_64-linux-gnu-ld.bfd".toList
    isLinkerPrefixed line = true ∧ (∃ c ∈ "cannot find -lfoo".toList, isBlank c = false) ∧
      (read line).claimed = true ∧
      (∀ s : Gcc.State, s.step line = (.leave s.held, { s with held := none })) ∧
      isLinkerTool name = true ∧
      (split (name ++ ": ".toList ++ "final link failed".toList)).1 = some name := by
  intro line name
  have hline : isLinkerPrefixed line = true := by decide +kernel
  have hsplit : split line = (some "C:\\mingw\\ld.exe".toList, "cannot find -lfoo".toList) := by
    decide +kernel
  have hmessage : ∃ c ∈ "cannot find -lfoo".toList, isBlank c = false := ⟨'c', by decide⟩
  have hname : isLinkerTool name = true := by decide +kernel
  have hplain : ∀ c ∈ name, isBlank c = false ∧ c ≠ ':' := by
    have hall : name.all (fun c => !isBlank c && c != ':') = true := by decide +kernel
    simpa using hall
  obtain ⟨_, _, _, -, -, -, htool, -, hclaimed, hgcc⟩ := linker_line_claimed.1 line hline
  rw [hsplit] at htool
  cases htool
  exact ⟨hline, hmessage, hclaimed hmessage, hgcc, hname,
    (linker_line_claimed.2 name _ hplain hname (by decide)).2⟩

end GnuLd

end BuildDiagnostics
