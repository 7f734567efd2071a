import BuildDiagnostics.Proofs.Adjacency
import BuildDiagnostics.Proofs.Overlap
import Mathlib.Data.List.Infix

/-!
# The lines of a CMake message

CMake starts a message with a heading, `CMake Error at CMakeLists.txt:3 (find_package):`, and ends
it with the frames of a call stack. A heading is read back as it was printed, and is of no interest
to any other grammar: its colons are followed by digits, or by nothing, where the headings of others
ask for a blank.

* `zeroBased_decimal`: a number that was printed is read back.
* `CMakeHeading.match?_line`: what is captured of a heading.
* `CMakeHeading.left_by_others`: no other grammar claims it.
* `CMakePlace.match?_frame`: what is captured of a frame.
-/

namespace BuildDiagnostics

open Text Pattern

/-! ## Numbers -/

/-- A number as it is printed. -/
def decimal (n : Nat) : List Char := Nat.toDigits 10 n

/-- The characters that numbers are printed in. -/
def digitChars : List Char := "0123456789".toList

theorem mem_digitChars {c : Char} (h : c.isDigit = true) : c ∈ digitChars := by
  have hall : ∀ n ∈ List.range 10, Char.ofNat (48 + n) ∈ digitChars := by decide
  obtain ⟨hlow, hhigh⟩ : 48 ≤ c.toNat ∧ c.toNat ≤ 57 := by
    simpa [Char.isDigit, UInt32.le_iff_toNat_le] using h
  have hc := hall (c.toNat - 48) (List.mem_range.2 (by omega))
  rwa [Nat.add_sub_cancel' hlow, Char.ofNat_toNat] at hc

theorem mem_decimal {n : Nat} {c : Char} (h : c ∈ decimal n) : c ∈ digitChars :=
  mem_digitChars (Nat.isDigit_of_mem_toDigits (by decide) (by decide) h)

theorem not_mem_decimal {n : Nat} {c : Char} (hc : c ∉ digitChars) : c ∉ decimal n :=
  fun hmem => hc (mem_decimal hmem)

theorem isDigit_of_mem_decimal {n : Nat} {c : Char} (h : c ∈ decimal n) : isDigit c = true := by
  have hall : digitChars.all isDigit = true := by decide
  exact List.all_eq_true.1 hall c (mem_decimal h)

theorem decimal_ne_nil (n : Nat) : decimal n ≠ [] := Nat.toDigits_ne_nil

/-- **A number that was printed is read back**, counted from zero. -/
theorem zeroBased_decimal {n : Nat} (hpos : 1 ≤ n) (hlt : n < UInt32.size) :
    zeroBased (decimal n) = (n - 1).toUInt32 := by
  have hall : (digitChars.all fun c => !isBlank c && isDigitAscii c) = true := by decide
  have hsigns : ∀ c ∈ decimal n, isBlank c = false ∧ isDigitAscii c = true := fun c hc => by
    simpa using List.all_eq_true.1 hall c (mem_decimal hc)
  have hblank : trim (decimal n) = decimal n := trim_of_no_blank fun c hc => (hsigns c hc).1
  have hplus : dropPrefix? ['+'] (decimal n) = none := by
    obtain ⟨c, cs, hcs⟩ := List.exists_cons_of_ne_nil (decimal_ne_nil n)
    have hc : ¬ '+' = c := by
      rintro rfl
      exact absurd (hsigns '+' (hcs ▸ List.mem_cons_self)).2 (by decide)
    rw [hcs, dropPrefix?, if_neg hc]
  have hdigits : (decimal n).all isDigitAscii = true :=
    List.all_eq_true.2 fun c hc => (hsigns c hc).2
  have hvalue : decimalValue (decimal n) = n := Nat.ofDigitChars_ten_toDigits
  have hne : (decimal n).isEmpty = false := List.isEmpty_eq_false_iff.2 (decimal_ne_nil n)
  have hparse : parseUInt32? (decimal n) = some n.toUInt32 := by
    unfold parseUInt32?
    simp only [hplus, Option.getD_none, hne, hdigits, hvalue]
    rw [if_pos (by simpa using hlt)]
  have hnum : n.toUInt32.toNat = n := UInt32.toNat_ofNat_of_lt' hlt
  have hne : n.toUInt32 ≠ 0 := by
    intro e
    rw [e] at hnum
    simp at hnum
    omega
  have hone : (1 : UInt32) ≤ n.toUInt32 := by
    rw [UInt32.le_iff_toNat_le, hnum]
    exact hpos
  unfold zeroBased
  rw [hblank, hparse]
  dsimp only [Option.getD_some]
  rw [if_neg hne, ← UInt32.toNat_inj, UInt32.toNat_sub_of_le _ _ hone, hnum,
    UInt32.toNat_ofNat_of_lt' (Nat.lt_of_le_of_lt (Nat.sub_le n 1) hlt)]
  rfl

theorem Gcc.IsOneWord.not_mem {w : List Char} {c : Char} (hw : Gcc.IsOneWord w)
    (hc : isWord c = false) : c ∉ w := by
  intro hmem
  rw [hw.2 c hmem] at hc
  cases hc

/-! ## Places -/

/-- A place in a file of a project, and the command that is called there. -/
structure CMakePlace where
  file : List Char
  number : Nat
  command : List Char
  file_inline : '\n' ∉ file
  number_pos : 1 ≤ number
  number_lt : number < UInt32.size
  command_word : Gcc.IsOneWord command

namespace CMakePlace

/-- The command in parentheses, and what comes after it. -/
def call (p : CMakePlace) (rest : List Char) : List Char :=
  " (".toList ++ (p.command ++ ')' :: rest)

/-- The place as it is written, and what comes after it. -/
def located (p : CMakePlace) (rest : List Char) : List Char :=
  p.file ++ ':' :: (decimal p.number ++ p.call rest)

/-- The place in its file. -/
def range (p : CMakePlace) : Range := .restOfLine (p.number - 1).toUInt32 0

/-- What stands between the colon of a place and its end has no colon. -/
theorem colon_not_mem {digits word : List Char} (hdigits : ∀ c ∈ digits, isDigit c = true)
    (hword : ∀ c ∈ word, isWord c = true) :
    ':' ∉ digits ++ (" (".toList ++ (word ++ [')'])) := by
  have hd : ':' ∉ digits := fun hmem => absurd (hdigits _ hmem) (by decide)
  have hw : ':' ∉ word := fun hmem => absurd (hword _ hmem) (by decide)
  simp [hd, hw]

theorem colon_not_mem_call (p : CMakePlace) : ':' ∉ decimal p.number ++ p.call [] :=
  colon_not_mem (fun _ hc => isDigit_of_mem_decimal hc) p.command_word.2

end CMakePlace

/-! ## Headings -/

namespace CMake

/-- The levels of messages that CMake prints. -/
def levels : List String := ["Warning", "Error", "Deprecation Warning", "Deprecation Error"]

/-- No other grammar claims the line when it comes first. -/
def LeftByOthers (line : Line) : Prop :=
  ∀ g, g ≠ .cmake → ((Matcher.fresh g).step line).1.claimed = false

/-- From the level of a heading to its end. -/
def placePattern : Pattern :=
  opt " (dev)" ++ " at " ++ capture .file (least isInline) ++ ":" ++
    capture .line (most1 isDigit) ++ opt " " ++ "(" ++ capture .command (least isInline) ++ ")" ++
    opt ":"

end CMake

/-- What a heading says, and how it is written. -/
structure CMakeHeading extends CMakePlace where
  level : String
  /-- Whether the message is meant for the developers of a project. -/
  dev : Bool
  level_mem : level ∈ CMake.levels
  file_plain : ':' ∉ file

namespace CMakeHeading

variable {h : CMakeHeading} {ms : Captures} {r s t : List Char}

/-- The mark of a message for developers. -/
def mark (h : CMakeHeading) : List Char := if h.dev then " (dev)".toList else []

theorem mark_eq (h : CMakeHeading) : h.mark = [] ∨ h.mark = " (dev)".toList := by
  unfold mark
  cases h.dev
  · exact .inl rfl
  · exact .inr rfl

/-- The heading from the end of its level on. -/
def place (h : CMakeHeading) : List Char := h.mark ++ (" at ".toList ++ h.located [':'])

/-- The heading as it is written. -/
def line (h : CMakeHeading) : Line := "CMake ".toList ++ (h.level.toList ++ h.place)

/-- The heading up to the end of its file. -/
def front (h : CMakeHeading) : List Char :=
  "CMake ".toList ++ (h.level.toList ++ (h.mark ++ (" at ".toList ++ h.file)))

theorem line_eq (h : CMakeHeading) :
    h.line = h.front ++ ':' :: (decimal h.number ++ h.call [':']) := by
  unfold line place CMakePlace.located front
  simp only [List.append_assoc]

/-- The words of a heading have no colon and no line feed. -/
theorem not_mem_front (h : CMakeHeading) {c : Char} (hc : c = ':' ∨ c = '\n')
    (hfile : c ∉ h.file) : c ∉ h.front := by
  have hwords : c ∉ "CMake ".toList ∧ c ∉ " (dev)".toList ∧ c ∉ " at ".toList := by
    rcases hc with rfl | rfl <;> decide
  have hlevels : ∀ l ∈ CMake.levels, c ∉ l.toList := by
    rcases hc with rfl | rfl <;> decide
  have hmark : c ∉ h.mark := by
    rcases h.mark_eq with hm | hm <;> rw [hm]
    · exact List.not_mem_nil
    · exact hwords.2.1
  unfold front
  simp only [List.mem_append, not_or]
  exact ⟨hwords.1, hlevels h.level h.level_mem, hmark, hwords.2.2, hfile⟩

theorem line_inline (h : CMakeHeading) : '\n' ∉ h.line := by
  have hfront := h.not_mem_front (.inr rfl) h.file_inline
  have hnumber : '\n' ∉ decimal h.number := not_mem_decimal (by decide)
  have hcommand := h.command_word.not_mem (by decide : isWord '\n' = false)
  have hsigns : '\n' ≠ ':' ∧ '\n' ∉ " (".toList ∧ '\n' ∉ [')', ':'] := by decide
  simp only [line_eq, CMakePlace.call, List.mem_append, List.mem_cons (a := '\n') (b := ':'),
    not_or]
  exact ⟨hfront, hsigns.1, hnumber, hsigns.2.1, hcommand, hsigns.2.2⟩

/-- The diagnostic that the heading opens. -/
def diagnostic (h : CMakeHeading) : Diagnostic where
  source := "CMake (" ++ String.ofList h.command ++ ")"
  file := String.ofList h.file
  range := h.range
  severity := if h.level ∈ ["Error", "Deprecation Error"] then "error" else "warning"
  message := ""

/-! ### What is read of a heading -/

/-- The line of the heading ends with its only colon but one. -/
theorem exists_body (h : CMakeHeading) :
    ∃ body, ':' ∉ body ∧ decimal h.number ++ h.call [':'] = body ++ [':'] :=
  ⟨decimal h.number ++ h.call [], h.colon_not_mem_call, by simp [CMakePlace.call]⟩

/-- The file of a heading ends before its first colon, however it is read. -/
theorem file_of_reads {m : List Char} (hm : m ≠ []) (h' : h.located [':'] = t ++ ':' :: m) :
    h.file = t ∧ decimal h.number ++ h.call [':'] = m := by
  obtain ⟨body, hbody, hrest⟩ := h.exists_body
  rw [CMakePlace.located, hrest] at h'
  rw [hrest]
  exact cut_unique_of_two h.file_plain hbody hm h'

/-- The file of a heading starts after its mark for developers, if it has one. -/
theorem located_of_reads {m : List Char} (hdev : (opt " (dev)").Reads h.place ms s)
    (hat : s = " at ".toList ++ m) : ms = [] ∧ m = h.located [':'] := by
  subst hat
  unfold place at hdev
  -- the mark does not start as what follows it
  rcases h.mark_eq with hm | hm
  · rw [hm, List.nil_append] at hdev
    rcases hdev with ⟨hs, rfl⟩ | ⟨hs, rfl⟩
    · exact absurd hs (by simp)
    · exact ⟨rfl, (List.append_cancel_left hs).symm⟩
  · rw [hm] at hdev
    rcases hdev with ⟨hs, rfl⟩ | ⟨hs, rfl⟩
    · exact ⟨rfl, (List.append_cancel_left (List.append_cancel_left hs)).symm⟩
    · exact absurd hs (by simp)

/-- The number of a heading ends before the blank and parenthesis, however it is read. -/
theorem call_of_reads {m m' : List Char} {ms' : Captures}
    (hnumber : (most1 isDigit).Reads (decimal h.number ++ h.call [':']) ms m)
    (hspace : (opt " ").Reads m ms' ('(' :: m')) :
    ms = [] ∧ ms' = [] ∧ m = h.call [':'] ∧ m' = h.command ++ ')' :: [':'] := by
  obtain ⟨t, -, ht, hs, rfl⟩ := most1_reads_iff.1 hnumber
  have hdigits : ∀ c ∈ decimal h.number, isDigit c = true := fun c hc => isDigit_of_mem_decimal hc
  have hcall : h.call [':'] = ' ' :: '(' :: (h.command ++ ')' :: [':']) := rfl
  rw [hcall] at hs ⊢
  -- whether the blank is read or not, the digits end where no digit follows
  rcases hspace with ⟨rfl, rfl⟩ | ⟨rfl, rfl⟩
  · have hrest := (span_unique hdigits ht (by decide) (by decide) hs).2
    have hcut : h.command ++ ')' :: [':'] = m' := (List.cons.inj (List.cons.inj hrest).2).2
    exact ⟨rfl, rfl, hrest.symm, hcut.symm⟩
  · have hrest := (span_unique hdigits ht (by decide) (by decide) hs).2
    exact absurd hrest (by simp)

/-- **What is read of the place is what was written.** -/
theorem placePattern_reads (hp : CMake.placePattern.Reads h.place ms r) :
    ms = [.opened .file (h.located [':']),
      .closed .file (':' :: (decimal h.number ++ h.call [':'])),
      .opened .line (decimal h.number ++ h.call [':']), .closed .line (h.call [':']),
      .opened .command (h.command ++ ')' :: [':']), .closed .command (')' :: [':'])] := by
  obtain ⟨_, m₉, ms₉, ⟨_, m₈, _, ⟨_, m₇, _, ⟨_, m₆, _, ⟨_, m₅, _, ⟨_, m₄, _, ⟨_, m₃, _, ⟨_, m₂, _,
    ⟨_, m₁, _, hdev, ⟨hat, rfl⟩, rfl⟩, ⟨_, ⟨t, -, hfile, rfl⟩, rfl⟩, rfl⟩, ⟨hcolon, rfl⟩, rfl⟩,
    ⟨_, hnumber, rfl⟩, rfl⟩, hspace, rfl⟩, ⟨hparen, rfl⟩, rfl⟩, ⟨_, ⟨w, -, hcommand, rfl⟩, rfl⟩,
    rfl⟩, ⟨hclose, rfl⟩, rfl⟩, hend, rfl⟩ := hp
  obtain ⟨rfl, rfl⟩ := located_of_reads hdev hat
  have hm₄ : m₄ ≠ [] := by
    obtain ⟨d, hne, -, rfl, -⟩ := most1_reads_iff.1 hnumber
    exact List.append_ne_nil_of_left_ne_nil hne _
  rw [hcolon] at hfile
  obtain ⟨rfl, rfl⟩ := file_of_reads hm₄ hfile
  obtain rfl : m₃ = ':' :: (decimal h.number ++ h.call [':']) := hcolon
  rw [hparen] at hspace
  obtain ⟨rfl, rfl, rfl, rfl⟩ := call_of_reads hnumber hspace
  -- the command has no parenthesis, and only a colon follows the one after it
  rw [hclose] at hcommand
  have hcut : ')' ∉ w := by
    intro hw
    obtain ⟨w₁, w₂, rfl, hw₁⟩ := List.eq_append_cons_of_mem hw
    rw [List.append_assoc, List.cons_append] at hcommand
    obtain ⟨-, hrest⟩ := cut_unique (h.command_word.not_mem (by decide)) hw₁ hcommand
    have hmem : ')' ∈ [':'] := by rw [hrest]; simp
    exact absurd hmem (by decide)
  obtain ⟨rfl, hrest⟩ := cut_unique (h.command_word.not_mem (by decide)) hcut hcommand
  obtain rfl : ms₉ = [] := by
    rcases hend with ⟨-, rfl⟩ | ⟨-, rfl⟩ <;> rfl
  obtain rfl : m₉ = [':'] := hrest.symm
  obtain rfl : m₈ = ')' :: [':'] := hclose
  rfl

/-- The place can be read as it is written. -/
theorem exists_reads_place (h : CMakeHeading) : ∃ ms, CMake.placePattern.Reads h.place ms [] := by
  have hdev : (opt " (dev)").Reads h.place [] (" at ".toList ++ h.located [':']) := by
    unfold place
    rcases h.mark_eq with hm | hm <;> rw [hm]
    · exact .inr ⟨rfl, rfl⟩
    · exact .inl ⟨rfl, rfl⟩
  have hfile : (capture .file (least isInline)).Reads (h.located [':'])
      [.opened .file (h.located [':']), .closed .file (':' :: (decimal h.number ++ h.call [':']))]
      (':' :: (decimal h.number ++ h.call [':'])) :=
    ⟨[], ⟨_, isInline_of_not_mem h.file_inline, rfl, rfl⟩, rfl⟩
  have hnumber : (capture .line (most1 isDigit)).Reads (decimal h.number ++ h.call [':'])
      [.opened .line (decimal h.number ++ h.call [':']), .closed .line (h.call [':'])]
      (h.call [':']) :=
    ⟨[], most1_reads_iff.2 ⟨_, decimal_ne_nil _, fun c hc => isDigit_of_mem_decimal hc, rfl, rfl⟩,
      rfl⟩
  have hcommand : (capture .command (least isInline)).Reads (h.command ++ ')' :: [':'])
      [.opened .command (h.command ++ ')' :: [':']), .closed .command (')' :: [':'])]
      (')' :: [':']) :=
    ⟨[], ⟨_, isInline_of_not_mem (h.command_word.not_mem (by decide)), rfl, rfl⟩, rfl⟩
  exact ⟨_, _, _, _, ⟨_, _, _, ⟨_, _, _, ⟨_, _, _, ⟨_, _, _, ⟨_, _, _, ⟨_, _, _, ⟨_, _, _,
    ⟨_, _, _, hdev, ⟨rfl, rfl⟩, rfl⟩, hfile, rfl⟩, ⟨rfl, rfl⟩, rfl⟩, hnumber, rfl⟩,
    .inl ⟨rfl, rfl⟩, rfl⟩, ⟨rfl, rfl⟩, rfl⟩, hcommand, rfl⟩, ⟨rfl, rfl⟩, rfl⟩, .inl ⟨rfl, rfl⟩, rfl⟩

/-- No level has a part that starts as the place of a heading does. -/
theorem level_end {u v w : List Char} (hlevel : h.level.toList = u ++ v) (hv : v ≠ [])
    (hp : CMake.placePattern.Reads (v ++ w) ms r) : False := by
  obtain ⟨_, _, _, ⟨_, _, _, ⟨_, _, _, ⟨_, _, _, ⟨_, _, _, ⟨_, _, _, ⟨_, _, _, ⟨_, m₂, _,
    ⟨_, m₁, _, hdev, ⟨hat, -⟩, -⟩, -, -⟩, -, -⟩, -, -⟩, -, -⟩, -, -⟩, -, -⟩, -, -⟩, -, -⟩ := hp
  have hstarts : ∃ c t, v ++ w = ' ' :: c :: t ∧ (c = '(' ∨ c = 'a') := by
    rcases hdev with ⟨hs, -⟩ | ⟨hs, -⟩
    · exact ⟨'(', _, hs, .inl rfl⟩
    · exact ⟨'a', _, hs.trans hat, .inr rfl⟩
  have hall : ∀ l ∈ CMake.levels, ∀ v ∈ l.toList.tails, v = [] ∨ v.head? ≠ some ' ' ∨
      (v[1]?.any fun c => c != '(' && c != 'a') = true := by decide
  obtain ⟨c, t, hvw, hc⟩ := hstarts
  have htail : v ∈ h.level.toList.tails := (List.mem_tails _ _).2 ⟨u, hlevel.symm⟩
  rcases hall h.level h.level_mem v htail with h' | h' | h'
  · exact hv h'
  · obtain ⟨a, v, rfl⟩ := List.exists_cons_of_ne_nil hv
    exact h' (by rw [(List.cons.inj hvw).1]; rfl)
  · obtain ⟨d, hd, hnot⟩ := (Option.any_eq_true _ _).1 h'
    obtain ⟨a, v, rfl⟩ := List.exists_cons_of_ne_nil hv
    obtain ⟨b, v, rfl⟩ := List.exists_cons_of_ne_nil (l := v) (by rintro rfl; cases hd)
    cases hd
    obtain rfl : d = c := (List.cons.inj (List.cons.inj hvw).2).1
    rcases hc with rfl | rfl <;> cases hnot

/-- **A heading is read as it was written.** -/
theorem match?_line (h : CMakeHeading) : CMake.headingPattern.match? h.line =
    some [.opened .level (h.level.toList ++ h.place), .closed .level h.place,
      .opened .file (h.located [':']), .closed .file (':' :: (decimal h.number ++ h.call [':'])),
      .opened .line (decimal h.number ++ h.call [':']), .closed .line (h.call [':']),
      .opened .command (h.command ++ ')' :: [':']), .closed .command (')' :: [':'])] := by
  let k : Continuation := fun r => some (.start r)
  obtain ⟨ms, hms⟩ := h.exists_reads_place
  obtain ⟨x, hx⟩ := Option.isSome_iff_exists.1 (isSome_run_of_reads (k := k) hms rfl)
  -- the level is a shortest run, so it ends at the first place from which the rest can be read
  have hfirst : FirstPlace (fun r => (CMake.placePattern.run k r).isSome = true)
      (h.level.toList ++ h.place) h.level.toList h.place := by
    refine ⟨rfl, by rw [hx]; rfl, fun u v huv hv => ?_⟩
    obtain ⟨y, hy⟩ := Option.isSome_iff_exists.1 hv
    obtain ⟨_, _, _, hreads, -, -⟩ := run_reads hy
    rcases List.append_eq_append_iff.1 huv with ⟨a, rfl, -⟩ | ⟨a, hlevel, rfl⟩
    · simp
    · by_cases ha : a = []
      · rw [hlevel, ha]; simp
      · exact (level_end hlevel ha hreads).elim
  have hinline : ∀ c ∈ h.level.toList, isInline c = true := by
    have hall : ∀ l ∈ CMake.levels, l.toList.all isInline = true := by decide
    exact List.all_eq_true.1 (hall h.level h.level_mem)
  have hlevel : (capture .level (least isInline)).run (CMake.placePattern.run k)
      (h.level.toList ++ h.place) = some ⟨.opened .level (h.level.toList ++ h.place) ::
        .closed .level h.place :: x.captures, x.rest⟩ :=
    run_capture_least_iff.2 ⟨h.level.toList, h.place, x, hfirst, hinline, hx, rfl⟩
  have hrun : CMake.headingPattern.run k h.line = some ⟨.opened .level
      (h.level.toList ++ h.place) :: .closed .level h.place :: x.captures, x.rest⟩ :=
    (run_text_eq_some_iff (t := "CMake ".toList)).2 ⟨_, rfl, hlevel⟩
  obtain ⟨ms', r, y, hplace, hy, rfl⟩ := run_reads hx
  cases hy
  have hcaptures : (Reading.marks ms' (.start r)).captures = ms' := List.append_nil ms'
  rw [match?, read?_eq_run]
  refine (congrArg (Option.map Reading.captures) hrun).trans ?_
  rw [Option.map_some, hcaptures, placePattern_reads hplace]

/-- **A heading opens its diagnostic.** -/
theorem ofCaptures_line (h : CMakeHeading) :
    (CMake.headingPattern.match? h.line).map CMake.ofCaptures = some h.diagnostic := by
  have hseverity : CMake.severityOf h.level.toList =
      if h.level ∈ ["Error", "Deprecation Error"] then "error" else "warning" := by
    have hall : ∀ l ∈ CMake.levels, CMake.severityOf l.toList =
        if l ∈ ["Error", "Deprecation Error"] then "error" else "warning" := by decide
    exact hall h.level h.level_mem
  rw [match?_line, Option.map_some]
  simp [CMake.ofCaptures, diagnostic, Captures.get, Captures.get?, Captures.restOf?, hseverity,
    CMakePlace.located, CMakePlace.call, CMakePlace.range,
    zeroBased_decimal h.number_pos h.number_lt]

/-! ### Who claims a heading -/

/-- Each colon of a heading is followed by a digit, or by nothing. -/
theorem unbroken_line (h : CMakeHeading) : Unbroken ':' digitChars h.line := by
  intro t d u hs
  obtain ⟨body, hbody, hrest⟩ := h.exists_body
  have hfront : ':' ∉ h.front := h.not_mem_front (.inl rfl) h.file_plain
  rw [line_eq, hrest] at hs
  obtain ⟨-, hd⟩ := cut_unique_of_two hfront hbody (List.cons_ne_nil d u) hs
  obtain ⟨c, cs, hcs⟩ := List.exists_cons_of_ne_nil (decimal_ne_nil h.number)
  rw [← hrest, hcs] at hd
  obtain ⟨rfl, -⟩ := List.cons.inj hd
  exact mem_decimal (hcs ▸ List.mem_cons_self)

theorem exists_line_cons (h : CMakeHeading) : ∃ rest, h.line = 'C' :: rest := ⟨_, rfl⟩

theorem exists_line_concat (h : CMakeHeading) : ∃ start, h.line = start ++ [')', ':'] := by
  refine ⟨h.front ++ ':' :: (decimal h.number ++ (" (".toList ++ h.command)), ?_⟩
  simp only [line_eq, CMakePlace.call, List.append_assoc, List.cons_append]

theorem colon_mem_line (h : CMakeHeading) : ':' ∈ h.line := by
  rw [line_eq]
  exact List.mem_append_right _ List.mem_cons_self

theorem not_speaks (h : CMakeHeading) : ¬ Gcc.Speaks h.line := by
  have hline := h.unbroken_line
  rintro (hi | hh | hc)
  · rw [accepts_of_unbroken (by decide) hline] at hi
    cases hi
  · rw [Gcc.heading?, Gcc.located?, Gcc.lineOnly?, Gcc.tool?,
      match?_of_unbroken (p := Gcc.locatedPattern) (by decide) hline,
      match?_of_unbroken (p := Gcc.lineOnlyPattern) (by decide) hline,
      match?_of_unbroken (p := Gcc.toolPattern) (by decide) hline] at hh
    cases hh
  · obtain ⟨_, _, _, _, _, halt, -, -⟩ := accepts_iff.1 hc
    rcases halt with hincluded | hin
    · obtain ⟨d, u, hd, hnot⟩ :=
        startsOff_of_reads (by decide : Pattern.startsOff ['C'] _ = true) hincluded
      obtain ⟨rest, hrest⟩ := h.exists_line_cons
      rw [hrest] at hd
      exact hnot ((List.cons.inj hd).1 ▸ List.mem_singleton_self 'C')
    · obtain ⟨t, d, u, hs, hd⟩ :=
        breaks_of_reads (by decide : Pattern.breaks ':' digitChars _ = true) hin
      exact hd (hline t d u hs)

theorem not_claimed_gcc (h : CMakeHeading) : (({} : Gcc.State).step h.line).1.claimed = false := by
  rw [← Bool.not_eq_true, Gcc.State.claimed_new_iff]
  rintro ⟨-, hspeaks | hend⟩
  · exact h.not_speaks hspeaks
  · exact (not_blank_of_colon h.colon_mem_line).2 hend

theorem not_claimed_gnuld (h : CMakeHeading) : (GnuLd.read h.line).claimed = false := by
  have hline := h.unbroken_line
  have htool : GnuLd.isLinkerPrefixed h.line = false :=
    accepts_of_unbroken (by decide) hline
  rw [← Bool.not_eq_true, GnuLd.claimed_read_iff htool]
  rintro ⟨-, -, hsection | ⟨cs, hlocated, -⟩⟩
  · rw [accepts_of_unbroken (by decide) hline] at hsection
    cases hsection
  · rw [match?_of_unbroken (by decide) hline] at hlocated
    cases hlocated

theorem not_claimed_msvc (h : CMakeHeading) : (Msvc.read h.line).claimed = false := by
  have hline := h.unbroken_line
  have hproject : Msvc.projectPattern.find? h.line = none := by
    rw [Option.eq_none_iff_forall_ne_some]
    rintro ⟨t, x⟩ hx
    obtain ⟨u, hu, _, _, _, hname, ⟨rfl, -, -⟩, -⟩ := find?_reads hx
    obtain ⟨v, rfl⟩ := endsWith_of_reads (c := ']') (by decide) hname
    obtain ⟨init, hinit⟩ := h.exists_line_concat
    rw [hinit, ← List.append_assoc] at hu
    have hlast := congrArg List.getLast? hu
    simp at hlast
  rw [Msvc.read, Msvc.dropProject, hproject, Msvc.diagnostic?,
    match?_of_unbroken (by decide) hline, match?_of_unbroken (by decide) hline]
  rfl

theorem not_claimed_iwyu (h : CMakeHeading) :
    (Iwyu.State.idle.step h.line).1.claimed = false := by
  have hblank := (not_blank_of_colon h.colon_mem_line).1
  -- two titles of this grammar end the line, in other words than a heading does
  have hnone : ∀ {title : String} (front : List Char), title.toList = front ++ ['s', ':'] →
      (capture .file (most isInline) ++ (title : Pattern) ++ stop).match? h.line = none := by
    intro title front htitle
    refine match?_eq_none fun ms r hr => ?_
    obtain ⟨_, _, _, ⟨_, m, _, hfile, ⟨hm, -⟩, -⟩, ⟨rfl, -, -⟩, -⟩ := hr
    obtain ⟨u, hu⟩ := suffix_of_reads hfile
    obtain ⟨start, hstart⟩ := h.exists_line_concat
    rw [hstart, hm, htitle, List.append_nil, ← List.append_assoc] at hu
    obtain ⟨-, hends⟩ := List.append_inj' hu rfl
    exact absurd hends (by decide)
  have hsection : Iwyu.section? h.line = none := by
    obtain ⟨rest, hrest⟩ := h.exists_line_cons
    have hadd : Iwyu.addPattern.match? h.line = none :=
      hnone " should add these line".toList rfl
    have hremove : Iwyu.removePattern.match? h.line = none :=
      hnone " should remove these line".toList rfl
    have hfull : Iwyu.fullPattern.match? h.line = none := by
      rw [hrest]
      exact match?_of_startsOff (by decide) (List.mem_singleton_self 'C') _
    rw [Iwyu.section?, hadd, hremove, hfull]
    rfl
  have htrim : (trim h.line == "---".toList) = false := by
    rw [beq_eq_false_iff_ne]
    intro e
    have hmem := mem_trim h.colon_mem_line (by decide)
    rw [e] at hmem
    exact absurd hmem (by decide)
  rw [Iwyu.State.step, hsection]
  dsimp only
  rw [hblank, htrim]
  rfl

theorem not_claimed_ghs (h : CMakeHeading) :
    (GreenHills.step none h.line).1.claimed = false := by
  have hheading : GreenHills.heading? h.line = none := by
    rw [GreenHills.heading?, match?_of_unbroken (by decide) h.unbroken_line,
      Option.map_none]
  rw [GreenHills.step, hheading, Block.step, (not_blank_of_colon h.colon_mem_line).1]
  rfl

theorem not_claimed_diab (h : CMakeHeading) : (Diab.read h.line).claimed = false := by
  rw [Diab.read, match?_of_unbroken (by decide) h.unbroken_line]
  rfl

theorem not_claimed_iar (h : CMakeHeading) : (Iar.step none h.line).1.claimed = false := by
  have hheading : Iar.heading? h.line = none := by
    obtain ⟨rest, hrest⟩ := h.exists_line_cons
    have hstart : 'C' ∈ ['C'] := List.mem_singleton_self 'C'
    rw [hrest, Iar.heading?, match?_of_startsOff (by decide) hstart,
      match?_of_startsOff (by decide) hstart, Option.map_none]
  have habort : (trim h.line == Iar.abortLine.toList) = false := by
    rw [beq_eq_false_iff_ne]
    intro e
    have hmem := mem_trim h.colon_mem_line (by decide)
    rw [e] at hmem
    exact absurd hmem (by decide)
  rw [Iar.step, habort, hheading, if_neg Bool.false_ne_true, Block.step,
    (not_blank_of_colon h.colon_mem_line).1]
  rfl

/-- **No other grammar claims a heading.** -/
theorem left_by_others (h : CMakeHeading) : CMake.LeftByOthers h.line := by
  intro g hg
  cases g with
  | cmake => exact absurd rfl hg
  | gcc => simp only [Matcher.fresh, Matcher.step, Prod.map_fst, id, h.not_claimed_gcc]
  | gnuld => simp only [Matcher.fresh, Matcher.step, h.not_claimed_gnuld]
  | msvc => simp only [Matcher.fresh, Matcher.step, h.not_claimed_msvc]
  | ghs => simp only [Matcher.fresh, Matcher.step, Prod.map_fst, id, h.not_claimed_ghs]
  | diab => simp only [Matcher.fresh, Matcher.step, h.not_claimed_diab]
  | iar => simp only [Matcher.fresh, Matcher.step, Prod.map_fst, id, h.not_claimed_iar]
  | iwyu => simp only [Matcher.fresh, Matcher.step, Prod.map_fst, id, h.not_claimed_iwyu]

/-- **A heading opens a block**, and ends the one before it. -/
theorem step_line (h : CMakeHeading) (s : CMake.State) : CMake.step s h.line =
    (.claim (s.map CMake.Block.done), some { diagnostic := h.diagnostic }) := by
  obtain ⟨cs, hcs, hd⟩ := Option.map_eq_some_iff.1 h.ofCaptures_line
  unfold CMake.step
  rw [hcs]
  dsimp only
  rw [hd]

end CMakeHeading

/-! ## Frames -/

namespace CMakePlace

variable {p : CMakePlace} {ms : Captures} {r : List Char}

/-- The place as a frame of a call stack. -/
def frame (p : CMakePlace) : Line := "  ".toList ++ p.located []

/-- What a diagnostic shows of the frame. -/
def related (p : CMakePlace) : Related :=
  ⟨String.ofList p.file, p.range, "In call to '" ++ String.ofList p.command ++ "' here"⟩

/-- **What is read of a frame is what was written**: the file ends at the last colon. -/
theorem framePattern_reads (hp : CMake.framePattern.Reads p.frame ms r) :
    ms = [.opened .file (p.located []), .closed .file (':' :: (decimal p.number ++ p.call [])),
      .opened .line (decimal p.number ++ p.call []), .closed .line (p.call []),
      .opened .command (p.command ++ [')']), .closed .command [')']] := by
  obtain ⟨_, m₇, _, ⟨_, m₆, _, ⟨_, m₅, _, ⟨_, m₄, _, ⟨_, m₃, _, ⟨_, m₂, _, ⟨_, m₁, _, ⟨hlead, rfl⟩,
    ⟨_, ⟨t, -, hfile, rfl⟩, rfl⟩, rfl⟩, ⟨hcolon, rfl⟩, rfl⟩, ⟨_, hnumber, rfl⟩, rfl⟩,
    ⟨hparen, rfl⟩, rfl⟩, ⟨_, hcommand, rfl⟩, rfl⟩, ⟨hclose, rfl⟩, rfl⟩, ⟨rfl, rfl, rfl⟩, rfl⟩ := hp
  obtain ⟨digits, -, hdigits, rfl, rfl⟩ := most1_reads_iff.1 hnumber
  obtain ⟨word, -, hword, rfl, rfl⟩ := most1_reads_iff.1 hcommand
  rw [hclose] at hparen
  rw [hcolon, hparen] at hfile
  obtain rfl : m₁ = p.located [] := (List.append_cancel_left hlead).symm
  obtain ⟨rfl, hrest⟩ :=
    cut_unique_last p.colon_not_mem_call (colon_not_mem hdigits hword) hfile
  obtain ⟨rfl, hcall⟩ := span_unique (fun c hc => isDigit_of_mem_decimal hc) hdigits
    (by decide : isDigit ' ' = false) (by decide) hrest
  have hlast : p.command ++ [')'] = word ++ [')'] := (List.cons.inj (List.cons.inj hcall).2).2
  obtain rfl := List.append_cancel_right hlast
  subst hclose hparen hcolon
  rfl

/-- A frame can be read as it is written. -/
theorem accepts_frame (p : CMakePlace) : CMake.framePattern.accepts p.frame = true := by
  have hfile : (capture .file (most isInline)).Reads (p.located [])
      [.opened .file (p.located []), .closed .file (':' :: (decimal p.number ++ p.call []))]
      (':' :: (decimal p.number ++ p.call [])) :=
    ⟨[], ⟨_, isInline_of_not_mem p.file_inline, rfl, rfl⟩, rfl⟩
  have hnumber : (capture .line (most1 isDigit)).Reads (decimal p.number ++ p.call [])
      [.opened .line (decimal p.number ++ p.call []), .closed .line (p.call [])] (p.call []) :=
    ⟨[], most1_reads_iff.2 ⟨_, decimal_ne_nil _, fun c hc => isDigit_of_mem_decimal hc, rfl, rfl⟩,
      rfl⟩
  have hcommand : (capture .command (most1 isWord)).Reads (p.command ++ [')'])
      [.opened .command (p.command ++ [')']), .closed .command [')']] [')'] :=
    ⟨[], most1_reads_iff.2 ⟨_, p.command_word.1, p.command_word.2, rfl, rfl⟩, rfl⟩
  exact accepts_iff.2 ⟨_, _, _, _, _, ⟨_, _, _, ⟨_, _, _, ⟨_, _, _, ⟨_, _, _, ⟨_, _, _, ⟨_, _, _,
    ⟨rfl, rfl⟩, hfile, rfl⟩, ⟨rfl, rfl⟩, rfl⟩, hnumber, rfl⟩, ⟨rfl, rfl⟩, rfl⟩, hcommand, rfl⟩,
    ⟨rfl, rfl⟩, rfl⟩, ⟨rfl, rfl, rfl⟩, rfl⟩

/-- **A frame is read as it was written.** -/
theorem match?_frame (p : CMakePlace) : CMake.framePattern.match? p.frame =
    some [.opened .file (p.located []), .closed .file (':' :: (decimal p.number ++ p.call [])),
      .opened .line (decimal p.number ++ p.call []), .closed .line (p.call []),
      .opened .command (p.command ++ [')']), .closed .command [')']] := by
  obtain ⟨ms, hms⟩ := Option.isSome_iff_exists.1
    ((isSome_match? CMake.framePattern p.frame).trans p.accepts_frame)
  obtain ⟨_, hreads⟩ := match?_reads hms
  rw [hms, framePattern_reads hreads]

theorem frame_inline (p : CMakePlace) : '\n' ∉ p.frame := by
  have hnumber : '\n' ∉ decimal p.number := not_mem_decimal (by decide)
  have hcommand := p.command_word.not_mem (by decide : isWord '\n' = false)
  simp [frame, located, call, p.file_inline, hnumber, hcommand]

theorem located_visible (p : CMakePlace) : isBlankLine (p.located []) = false := by
  have hcolon : ':' ∈ p.located [] := by simp [located]
  exact (not_blank_of_colon hcolon).1

/-- **A frame adds the place that it names.** -/
theorem line_frame (p : CMakePlace) (d : Diagnostic) (b : Bool) :
    CMake.Block.line ⟨.stack, b, d⟩ p.frame =
      ⟨.stack, false, { d with related := d.related ++ [p.related] }⟩ := by
  unfold CMake.Block.line
  dsimp only
  rw [p.match?_frame]
  simp [CMake.Block.addFrame, related, range, Captures.get, Captures.get?, Captures.restOf?,
    located, call, zeroBased_decimal p.number_pos p.number_lt]

end CMakePlace

end BuildDiagnostics
