import BuildDiagnostics.Proofs.CMakeLine

/-!
# How places of linkers are read

A linker names a place as `main.o:main.c:5: error: x`: an object file or none, a file with or
without a drive, a line number, a severity or none and a message. Each part is read in one way only,
or in several of which the first one tried is the part as it was written.

* `run_placePattern`: what is captured of a file and a line number.
* `run_objectPattern`, `run_no_object`: an object file's name is read whole, if there is one.
* `run_severity`, `run_no_severity`: a severity is read if there is one.
* `run_messagePattern`: the message is what is left.
-/

namespace BuildDiagnostics

namespace GnuLd

open Text Pattern

variable {file number rest object message s r : List Char} {ms : Captures} {k : Continuation}
  {x : Reading}

/-! ## Files and object files -/

/-- The text has neither colons nor parentheses. -/
def Unpunctuated (t : List Char) : Prop := ':' ∉ t ∧ '(' ∉ t ∧ ')' ∉ t

instance (t : List Char) : Decidable (Unpunctuated t) :=
  inferInstanceAs (Decidable (_ ∧ _))

/-- The name of a file as linkers write it, with or without a drive. -/
inductive PlaceFile : List Char → Prop
  | plain {t : List Char} : t ≠ [] → Unpunctuated t → PlaceFile t
  | drive {c : Char} {t : List Char} : isLetterAscii c = true → t ≠ [] → Unpunctuated t →
      PlaceFile (c :: ':' :: t)

/-- The endings of object files. -/
def objectEndings : List String := ["o", "obj"]

/-- The text names an object file. -/
def IsObject (object : List Char) : Prop :=
  ∃ stem, stem ≠ [] ∧ (∀ c ∈ stem, (!isBlank c && c != ':') = true) ∧
    ∃ ending ∈ objectEndings, object = stem ++ '.' :: ending.toList

theorem ending_plain {ending : String} (h : ending ∈ objectEndings) :
    ':' ∉ ending.toList ∧ '.' ∉ ending.toList ∧ '(' ∉ ending.toList ∧
      ∀ c ∈ ending.toList, isBlank c = false := by
  have hall : ∀ e ∈ objectEndings, ':' ∉ e.toList ∧ '.' ∉ e.toList ∧ '(' ∉ e.toList ∧
      e.toList.all (fun c => !isBlank c) = true := by decide
  obtain ⟨hcolon, hdot, hparen, hblank⟩ := hall ending h
  exact ⟨hcolon, hdot, hparen, by simpa using hblank⟩

theorem IsObject.no_blank (h : IsObject object) : ∀ c ∈ object, isBlank c = false := by
  obtain ⟨stem, -, hstem, ending, hending, rfl⟩ := h
  intro c hc
  rcases List.mem_append.1 hc with hc | hc
  · have hclass := hstem c hc
    simp only [Bool.and_eq_true, Bool.not_eq_true'] at hclass
    exact hclass.1
  · rcases List.mem_cons.1 hc with rfl | hc
    · decide
    · exact (ending_plain hending).2.2.2 c hc

theorem IsObject.colon_not_mem (h : IsObject object) : ':' ∉ object := by
  obtain ⟨stem, -, hstem, ending, hending, rfl⟩ := h
  have hcolon : ':' ∉ stem := fun hmem => absurd (hstem ':' hmem) (by decide)
  simp [hcolon, (ending_plain hending).1]

theorem IsObject.ne_letter (h : IsObject object) (c : Char) : object ≠ [c] := by
  obtain ⟨stem, hne, -, ending, -, rfl⟩ := h
  intro hc
  have hlength := congrArg List.length hc
  have hpos := List.length_pos_iff.2 hne
  simp at hlength
  omega

/-- How a file is read before a line number: as it is written, or, if it is a letter with or without
more text behind its colon, as a drive or without one. -/
theorem file_cases {q : Char → Bool} (hq : q ':' = false) (hfile : PlaceFile file)
    (hnumber : ':' ∉ number ∧ '(' ∉ number)
    (h : (drive ++ most1 q ++ opt bracketed).Reads (file ++ ':' :: (number ++ ':' :: rest)) ms
      (':' :: r)) :
    ms = [] ∧ (r = number ++ ':' :: rest ∨ r = rest ∨ ∃ c t, file = c :: ':' :: t ∧ t ≠ [] ∧
      Unpunctuated t ∧ r = t ++ ':' :: (number ++ ':' :: rest)) := by
  obtain ⟨_, m, _, ⟨_, _, _, hdrive, hname, rfl⟩, hbracket, rfl⟩ := h
  obtain ⟨rfl, lead, hlead, hs⟩ := isDrive_of_reads hdrive
  obtain ⟨t, -, ht, rfl, rfl⟩ := most1_reads_iff.1 hname
  have htcolon : ':' ∉ t := by
    intro hc
    rw [ht _ hc] at hq
    cases hq
  cases hfile with
  | plain hne hplain =>
    rcases hlead with rfl | ⟨c, hc, rfl⟩
    · obtain ⟨rfl, -, rfl⟩ := bracketed_reads htcolon hplain.1 hplain.2.1 hs hbracket
      exact ⟨rfl, .inl rfl⟩
    · have hcut : number ++ ':' :: rest = t ++ m :=
        (cut_unique hplain.1 (colon_not_mem_letter hc) hs).2
      obtain ⟨rfl, -, rfl⟩ := bracketed_reads htcolon hnumber.1 hnumber.2 hcut hbracket
      exact ⟨rfl, .inr (.inl rfl)⟩
  | @drive c₀ t₀ hc₀ hne hplain =>
    rcases hlead with rfl | ⟨c, hc, rfl⟩
    · have hparen : '(' ∉ [c₀] := by
        rw [List.mem_singleton]
        rintro rfl
        exact absurd hc₀ (by decide)
      have hcolon : ':' ∉ [c₀] := colon_not_mem_letter hc₀
      obtain ⟨rfl, -, rfl⟩ := bracketed_reads htcolon hcolon hparen hs hbracket
      exact ⟨rfl, .inr (.inr ⟨c₀, t₀, rfl, hne, hplain, rfl⟩)⟩
    · obtain ⟨rfl, hcut⟩ := List.cons.inj hs
      obtain ⟨rfl, -, rfl⟩ := bracketed_reads htcolon hplain.1 hplain.2.1 (List.cons.inj hcut).2
        hbracket
      exact ⟨rfl, .inl rfl⟩

/-! ## The file and the line number -/

/-- From the file to the blanks after the line number. -/
def placePattern : Pattern :=
  capture .file (drive ++ most1 (fun c => c != ':')) ++ ":" ++ capture .line (most1 isDigit) ++
    opt (one isBlank) ++ ":" ++ most1 isBlank

/-- A place as it is written, and what comes after it. -/
def placeText (file number rest : List Char) : List Char :=
  file ++ ':' :: (number ++ ':' :: ' ' :: rest)

/-- The marks of a place. -/
def placeMarks (file number rest : List Char) : Captures :=
  [.opened .file (placeText file number rest),
    .closed .file (':' :: (number ++ ':' :: ' ' :: rest)),
    .opened .line (number ++ ':' :: ' ' :: rest), .closed .line (':' :: ' ' :: rest)]

theorem not_mem_of_digits {c : Char} (hdigits : ∀ c ∈ number, isDigit c = true)
    (hc : isDigit c = false) : c ∉ number := by
  intro hmem
  rw [hdigits c hmem] at hc
  cases hc

/-- **The file and the line number are read in one way only.** -/
theorem placePattern_reads (hfile : PlaceFile file) (hne : number ≠ [])
    (hdigits : ∀ c ∈ number, isDigit c = true) (hrest : startsOutside isBlank rest = true)
    (h : placePattern.Reads (placeText file number rest) ms r) :
    ms = placeMarks file number rest ∧ r = rest := by
  obtain ⟨_, m₅, _, ⟨_, m₄, _, ⟨_, m₃, _, ⟨_, m₂, _, ⟨_, m₁, _, ⟨_, hname, rfl⟩, ⟨rfl, rfl⟩, rfl⟩,
    ⟨_, hnumber, rfl⟩, rfl⟩, hblank, rfl⟩, ⟨rfl, rfl⟩, rfl⟩, hblanks, rfl⟩ := h
  have hplain : ':' ∉ number ∧ '(' ∉ number :=
    ⟨not_mem_of_digits hdigits (by decide), not_mem_of_digits hdigits (by decide)⟩
  obtain ⟨hinner, hcases⟩ := file_cases (by decide) hfile hplain
    ⟨_, _, _, hname, .inr ⟨rfl, rfl⟩, rfl⟩
  rw [List.append_nil] at hinner
  subst hinner
  rcases hcases with rfl | rfl | ⟨c, t, -, -, ht, rfl⟩
  · obtain ⟨rfl, rfl, rfl, rfl, rfl⟩ := after_number_reads hdigits hrest hnumber hblank hblanks
    exact ⟨rfl, rfl⟩
  · -- behind the number there are no digits
    obtain ⟨d, hd, hall, hs, -⟩ := most1_reads_iff.1 hnumber
    obtain ⟨c, d, rfl⟩ := List.exists_cons_of_ne_nil hd
    obtain ⟨rfl, -⟩ := List.cons.inj hs
    exact absurd (hall ' ' List.mem_cons_self) (by decide)
  · -- a number that is the name of the file has no blank behind its colon
    obtain ⟨d, -, hall, hs, rfl⟩ := most1_reads_iff.1 hnumber
    obtain ⟨gap, hgap, rfl, rfl⟩ := Gcc.gap_reads_iff.1 hblank
    have hcolon : ':' ∉ d ++ gap := by
      rw [List.mem_append, not_or]
      exact ⟨not_mem_of_digits hall (by decide), fun hc => absurd (hgap.blank _ hc) (by decide)⟩
    rw [← List.append_assoc] at hs
    obtain ⟨-, rfl⟩ := cut_unique ht.1 hcolon hs
    obtain ⟨bs, hbs, hblank', hs', -⟩ := most1_reads_iff.1 hblanks
    obtain ⟨c, bs, rfl⟩ := List.exists_cons_of_ne_nil hbs
    obtain ⟨d, number, rfl⟩ := List.exists_cons_of_ne_nil hne
    obtain ⟨rfl, -⟩ := List.cons.inj hs'
    have hboth := isBlank_of_isDigit (hdigits d List.mem_cons_self)
    rw [hblank' d List.mem_cons_self] at hboth
    cases hboth

/-- A place can be read as it is written. -/
theorem reads_placePattern (hfile : PlaceFile file) (hne : number ≠ [])
    (hdigits : ∀ c ∈ number, isDigit c = true) :
    placePattern.Reads (placeText file number rest) (placeMarks file number rest) rest := by
  have hclass : ∀ {t : List Char}, ':' ∉ t → ∀ c ∈ t, (c != ':') = true := fun ht c hc =>
    bne_iff_ne.2 fun hcolon => ht (hcolon ▸ hc)
  have hname : (drive ++ most1 (fun c => c != ':')).Reads (placeText file number rest) []
      (':' :: (number ++ ':' :: ' ' :: rest)) := by
    cases hfile with
    | plain hne hplain =>
      exact ⟨[], _, [], .inr ⟨rfl, rfl⟩, most1_reads_iff.2 ⟨_, hne, hclass hplain.1, rfl, rfl⟩, rfl⟩
    | @drive c t hc hne hplain =>
      exact ⟨[], t ++ ':' :: (number ++ ':' :: ' ' :: rest), [],
        .inl ⟨[], _, [], ⟨c, hc, rfl, rfl⟩, ⟨rfl, rfl⟩, rfl⟩,
        most1_reads_iff.2 ⟨t, hne, hclass hplain.1, rfl, rfl⟩, rfl⟩
  have hnumber : (most1 isDigit).Reads (number ++ ':' :: ' ' :: rest) [] (':' :: ' ' :: rest) :=
    most1_reads_iff.2 ⟨_, hne, hdigits, rfl, rfl⟩
  exact ⟨_, _, _, ⟨_, _, _, ⟨_, _, _, ⟨_, _, _, ⟨_, _, _, ⟨_, hname, rfl⟩, ⟨rfl, rfl⟩, rfl⟩,
    ⟨_, hnumber, rfl⟩, rfl⟩, .inr ⟨rfl, rfl⟩, rfl⟩, ⟨rfl, rfl⟩, rfl⟩, Gcc.space_reads _, rfl⟩

/-- **What is captured of a place.** -/
theorem run_placePattern (hfile : PlaceFile file) (hne : number ≠ [])
    (hdigits : ∀ c ∈ number, isDigit c = true) (hrest : startsOutside isBlank rest = true)
    (hk : k rest = some x) : placePattern.run k (placeText file number rest) =
      some (x.marks (placeMarks file number rest)) :=
  run_eq_of_reads (reads_placePattern hfile hne hdigits) hk fun _ _ h _ =>
    placePattern_reads hfile hne hdigits hrest h

/-! ## The object file -/

/-- The ending of an object file in a place, with the member of an archive. -/
def endingPattern : Pattern := "." ++ oneOf ["o", "obj", "a", "lib"] ++ opt bracketed

/-- An object file and the colon after it. -/
def objectPattern : Pattern :=
  capture .object (objectStem ++ "." ++ oneOf ["o", "obj", "a", "lib"] ++ opt bracketed) ++ ":"

/-- The marks of an object file. -/
def objectMarks (object rest : List Char) : Captures :=
  [.opened .object (object ++ ':' :: rest), .closed .object (':' :: rest)]

theorem endingPattern_reads {ending : String} (h : ending ∈ objectEndings)
    (hr : endingPattern.Reads ('.' :: ending.toList ++ ':' :: rest) ms (':' :: r)) :
    ms = [] ∧ r = rest := by
  obtain ⟨hcolon, -, hparen, -⟩ := ending_plain h
  obtain ⟨_, m, _, ⟨_, m₁, _, ⟨hdot, rfl⟩, hword, rfl⟩, hbracket, rfl⟩ := hr
  obtain rfl : ending.toList ++ ':' :: rest = m₁ := (List.cons.inj hdot).2
  obtain ⟨w, hw, hs, rfl⟩ : ∃ w ∈ ["o", "obj", "a", "lib"],
      ending.toList ++ ':' :: rest = w.toList ++ m ∧ _ = [] := oneOf_reads_iff.1 hword
  have hcolon' : ':' ∉ w.toList := by
    have hall : ∀ w ∈ ["o", "obj", "a", "lib"], ':' ∉ w.toList := by decide
    exact hall w hw
  obtain ⟨rfl, -, rfl⟩ := bracketed_reads hcolon' hcolon hparen hs hbracket
  exact ⟨rfl, rfl⟩

theorem reads_endingPattern {ending : String} (h : ending ∈ objectEndings) :
    endingPattern.Reads ('.' :: ending.toList ++ ':' :: rest) [] (':' :: rest) := by
  have hword : (oneOf (["o", "obj", "a", "lib"].map fun w => text w.toList)).Reads
      (ending.toList ++ ':' :: rest) [] (':' :: rest) :=
    oneOf_reads_iff.2 ⟨ending, by revert h; revert ending; decide, rfl, rfl⟩
  exact ⟨[], _, [], ⟨[], _, [], ⟨rfl, rfl⟩, hword, rfl⟩, .inr ⟨rfl, rfl⟩, rfl⟩

/-- **An object file's name is read whole**: of the names that end at a dot and an ending, the
longest is tried first. -/
theorem run_objectPattern (hobject : IsObject object) (hk : k rest = some x) :
    objectPattern.run k (object ++ ':' :: rest) = some (x.marks (objectMarks object rest)) := by
  obtain ⟨stem, hne, hstem, ending, hending, rfl⟩ := hobject
  obtain ⟨hcolon, hdot, -, -⟩ := ending_plain hending
  obtain ⟨c, stem, rfl⟩ := List.exists_cons_of_ne_nil hne
  obtain ⟨hc, hstem⟩ := List.forall_mem_cons.1 hstem
  let q : Char → Bool := fun c => !isBlank c && c != ':'
  let text := '.' :: ending.toList ++ ':' :: rest
  let k' : Continuation := fun r => (Pattern.run ":" k r).map (.mark (.closed .object r))
  have hclosed : k' (':' :: rest) = some (x.mark (.closed .object (':' :: rest))) :=
    congrArg (Option.map _) ((run_text_eq_some_iff (t := ":".toList)).2 ⟨rest, rfl, hk⟩)
  have hend : endingPattern.run k' text = some (x.mark (.closed .object (':' :: rest))) := by
    refine run_eq_of_reads (reads_endingPattern hending) hclosed fun ms' r' hr hsome => ?_
    obtain ⟨y, hy⟩ := Option.isSome_iff_exists.1 ((Option.isSome_map ..).symm.trans hsome)
    obtain ⟨r, rfl, -⟩ := run_text_eq_some_iff.1 hy
    obtain ⟨rfl, rfl⟩ := endingPattern_reads hending hr
    exact ⟨rfl, rfl⟩
  -- behind the dot of the ending there is no other dot before the colon
  have hlast : ∀ u v, u ≠ [] → (∀ c ∈ u, q c = true) → text = u ++ v →
      endingPattern.run k' v = none := by
    intro u v hu hq huv
    refine run_eq_none fun ms r hr => ?_
    obtain ⟨_, _, _, ⟨_, m, _, ⟨rfl, -⟩, -, -⟩, -, -⟩ := hr
    obtain ⟨d, u, rfl⟩ := List.exists_cons_of_ne_nil hu
    obtain ⟨-, hcut⟩ := List.cons.inj huv
    have hcolon' : ':' ∉ u := fun hmem =>
      absurd (hq ':' (List.mem_cons_of_mem _ hmem)) (by decide)
    exact absurd hcut (cut_ne (by decide) hdot hcolon')
  have hrun : longest q (endingPattern.run k') (stem ++ text) = _ :=
    longest_eq_of_last hstem hend hlast
  have hfirst : first q (longest q (endingPattern.run k')) (c :: (stem ++ text)) = _ :=
    (if_pos hc).trans hrun
  have hname : c :: stem ++ '.' :: ending.toList ++ ':' :: rest = c :: (stem ++ text) :=
    List.append_assoc ..
  rw [objectMarks, hname]
  exact congrArg (Option.map (Reading.mark (.opened .object _))) hfirst

/-- No object file ends at the colon of a drive. -/
theorem not_reads_object_drive {c : Char} (hc : isLetterAscii c = true) :
    ¬ (objectStem ++ ".").Reads (c :: ':' :: s) ms r := by
  rintro ⟨_, m, _, hstem, ⟨rfl, -⟩, -⟩
  obtain ⟨t, -, ht, hs, -⟩ := most1_reads_iff.1 hstem
  have hcolon : ':' ∉ t := fun hmem => absurd (ht ':' hmem) (by decide)
  have hdot : '.' ∉ [c] := by
    rw [List.mem_singleton]
    rintro rfl
    exact absurd hc (by decide)
  exact absurd hs (cut_ne (s := [c]) (by decide) hdot hcolon)

/-- A number that is read as a file ends at its colon. -/
theorem number_as_file {q : Char → Bool} (hq : q ':' = false)
    (hdigits : ∀ c ∈ number, isDigit c = true)
    (h : (drive ++ most1 q ++ opt bracketed).Reads (number ++ ':' :: rest) ms (':' :: r)) :
    r = rest := by
  have hcolon : ':' ∉ number := not_mem_of_digits hdigits (by decide)
  have hletter : ∀ c, isLetterAscii c = true → number ≠ [c] := by
    rintro c hc rfl
    have hboth := hdigits c List.mem_cons_self
    rw [isDigit_of_isLetterAscii hc] at hboth
    cases hboth
  obtain ⟨_, m, _, hname, hbracket, rfl⟩ := h
  obtain ⟨-, t, ht, hs⟩ := file_reads hq hcolon hletter hname
  exact (bracketed_reads ht hcolon (not_mem_of_digits hdigits (by decide)) hs hbracket).2.2

/-- **A place is not read as an object file** with another place behind it. -/
theorem run_no_object (hfile : PlaceFile file) (hdigits : ∀ c ∈ number, isDigit c = true) :
    objectPattern.run (placePattern.run k) (placeText file number rest) = none := by
  refine run_eq_none (p := objectPattern ++ placePattern) (k := k) fun ms r hr => ?_
  obtain ⟨_, m, _, ⟨_, _, _, ⟨_, hname, -⟩, ⟨rfl, -⟩, -⟩, hplace, -⟩ := hr
  cases hfile with
  | plain hne hplain =>
    obtain rfl := member_reads (by decide) hplain.1 hplain.2.1 hname
    obtain ⟨_, _, _, ⟨_, _, _, ⟨_, _, _, ⟨_, _, _, ⟨_, m₁, _, ⟨_, hfile, -⟩, ⟨rfl, -⟩, -⟩,
      ⟨_, hnumber, -⟩, -⟩, -, -⟩, -, -⟩, -, -⟩ := hplace
    obtain rfl := number_as_file (by decide) hdigits ⟨_, _, _, hfile, .inr ⟨rfl, rfl⟩, rfl⟩
    -- behind the colon there are no digits
    obtain ⟨d, hd, hall, hs, -⟩ := most1_reads_iff.1 hnumber
    obtain ⟨c, d, rfl⟩ := List.exists_cons_of_ne_nil hd
    obtain ⟨rfl, -⟩ := List.cons.inj hs
    exact absurd (hall ' ' List.mem_cons_self) (by decide)
  | drive hc hne hplain =>
    obtain ⟨_, _, _, ⟨_, _, _, hstem, -, -⟩, -, -⟩ := hname
    exact absurd hstem (not_reads_object_drive hc)

/-! ## The severity and the message -/

/-- The severities that linkers write before a message. -/
def severities : List String := ["error", "warning"]

/-- The message to the end of the line. -/
def messagePattern : Pattern :=
  capture .message (most isInline ++ one (fun c => c != ']')) ++ stop

/-- The marks of a message. -/
def messageMarks (message : List Char) : Captures :=
  [.opened .message message, .closed .message []]

/-- What comes after a severity: a colon or none, a space and the message. -/
def separated (colon : Bool) (rest : List Char) : List Char :=
  (if colon then [':'] else []) ++ ' ' :: rest

/-- The marks of a severity. -/
def severityMarks (severity : String) (colon : Bool) (rest : List Char) : Captures :=
  [.opened .severity (severity.toList ++ separated colon rest),
    .closed .severity (separated colon rest)]

theorem run_messagePattern (hinline : '\n' ∉ message)
    (hend : ∃ m c, message = m ++ [c] ∧ c ≠ ']') :
    messagePattern.run (fun r => some (.start r)) message = some ⟨messageMarks message, []⟩ := by
  obtain ⟨m, c, hm, hc⟩ := hend
  have hinline' : ∀ c ∈ m, isInline c = true := fun c hc =>
    isInline_of_not_mem hinline c (by rw [hm]; exact List.mem_append_left _ hc)
  have hreads : messagePattern.Reads message (messageMarks message) [] := by
    have hm' : (most isInline ++ one (fun c => c != ']')).Reads message [] [] :=
      ⟨[], [c], [], ⟨m, hinline', hm, rfl⟩, ⟨c, by simpa using hc, rfl, rfl⟩, rfl⟩
    exact ⟨_, _, _, ⟨_, hm', rfl⟩, ⟨rfl, rfl, rfl⟩, rfl⟩
  refine (run_eq_of_reads hreads rfl fun ms r hr _ => ?_).trans rfl
  obtain ⟨_, _, _, ⟨_, ⟨_, _, _, ⟨_, -, -, rfl⟩, ⟨_, -, -, rfl⟩, rfl⟩, rfl⟩, ⟨rfl, rfl, rfl⟩,
    rfl⟩ := hr
  exact ⟨rfl, rfl⟩

/-- What comes after a severity is read in one way only. -/
theorem separated_reads {colon : Bool} {m m' : List Char} {ms' ms'' : Captures}
    (hstart : startsOutside isBlank rest = true) (hcolon : startsOutside (· == ':') rest = true)
    (hblank : (most isBlank).Reads (separated colon rest) ms m)
    (hopt : (opt ":").Reads m ms' m') (hblanks : (most1 isBlank).Reads m' ms'' r) :
    ms = [] ∧ ms' = [] ∧ ms'' = [] ∧ r = rest := by
  obtain ⟨t, ht, hs, rfl⟩ := hblank
  cases colon with
  | true =>
    cases t with
    | cons c t =>
      obtain ⟨rfl, -⟩ := List.cons.inj hs
      exact absurd (ht ':' List.mem_cons_self) (by decide)
    | nil =>
      obtain rfl : separated true rest = m := hs
      rcases hopt with ⟨hm, rfl⟩ | ⟨rfl, rfl⟩
      · obtain rfl : ' ' :: rest = m' := (List.cons.inj hm).2
        obtain ⟨rfl, rfl⟩ := most1_reads_one hstart hblanks
        exact ⟨rfl, rfl, rfl, rfl⟩
      · obtain ⟨_, _, _, ⟨c, hc, hm, -⟩, -⟩ := hblanks
        obtain ⟨rfl, -⟩ := List.cons.inj hm
        exact absurd hc (by decide)
  | false =>
    cases t with
    | nil =>
      obtain rfl : ' ' :: rest = m := hs
      rcases hopt with ⟨hm, -⟩ | ⟨rfl, rfl⟩
      · exact absurd (List.cons.inj hm).1 (by decide)
      · obtain ⟨rfl, rfl⟩ := most1_reads_one hstart hblanks
        exact ⟨rfl, rfl, rfl, rfl⟩
    | cons c t =>
      -- with the blank read, neither a colon nor another blank follows
      obtain ⟨-, rfl⟩ := run_ends (List.cons_ne_nil c t) ht hstart hs
      rcases hopt with ⟨rfl, -⟩ | ⟨rfl, -⟩
      · cases hcolon
      · obtain ⟨_, _, _, ⟨c, hc, rfl, -⟩, -⟩ := hblanks
        simp [startsOutside, hc] at hstart

/-- A severity with what comes between it and the message. -/
def wordPattern : Pattern :=
  capture .severity (oneOf ["error", "warning"]) ++ notBefore isWord ++ most isBlank ++ opt ":" ++
    most1 isBlank

theorem severity_unique {v w : String} {t t' : List Char} (hv : v ∈ severities)
    (hw : w ∈ severities) (h : v.toList ++ t = w.toList ++ t') : v = w ∧ t = t' := by
  have hheads : ∀ v ∈ severities, ∀ w ∈ severities, v.toList.head? = w.toList.head? → v = w := by
    decide
  have hne : ∀ v ∈ severities, v.toList ≠ [] := by decide
  have hhead := congrArg List.head? h
  rw [List.head?_append_of_ne_nil _ (hne v hv), List.head?_append_of_ne_nil _ (hne w hw)] at hhead
  obtain rfl := hheads v hv w hw hhead
  exact ⟨rfl, List.append_cancel_left h⟩

/-- **A severity is read if there is one.** -/
theorem run_severity {severity : String} {colon : Bool} (hs : severity ∈ severities)
    (hstart : startsOutside isBlank rest = true) (hcolon : startsOutside (· == ':') rest = true)
    (hk : k rest = some x) :
    (severityPattern ["error", "warning"]).run k (severity.toList ++ separated colon rest) =
      some (x.marks (severityMarks severity colon rest)) := by
  have hreads : wordPattern.Reads (severity.toList ++ separated colon rest)
      (severityMarks severity colon rest) rest := by
    have hword : (oneOf (severities.map fun w => text w.toList)).Reads
        (severity.toList ++ separated colon rest) [] (separated colon rest) :=
      oneOf_reads_iff.2 ⟨severity, hs, rfl, rfl⟩
    have hend : startsOutside isWord (separated colon rest) = true := by cases colon <;> rfl
    have hopt : (opt ":").Reads (separated colon rest) [] (' ' :: rest) := by
      cases colon
      · exact .inr ⟨rfl, rfl⟩
      · exact .inl ⟨rfl, rfl⟩
    exact ⟨_, _, _, ⟨_, _, _, ⟨_, _, _, ⟨_, _, _, ⟨_, hword, rfl⟩, ⟨hend, rfl, rfl⟩, rfl⟩,
      ⟨[], by simp, rfl, rfl⟩, rfl⟩, hopt, rfl⟩, Gcc.space_reads _, rfl⟩
  have hrun : wordPattern.run k (severity.toList ++ separated colon rest) =
      some (x.marks (severityMarks severity colon rest)) := by
    refine run_eq_of_reads hreads hk fun ms r hr _ => ?_
    obtain ⟨_, _, _, ⟨_, _, _, ⟨_, _, _, ⟨_, m, _, ⟨_, hword, rfl⟩, ⟨-, rfl, rfl⟩, rfl⟩, hblank,
      rfl⟩, hopt, rfl⟩, hblanks, rfl⟩ := hr
    obtain ⟨w, hw, hm, rfl⟩ : ∃ w ∈ severities,
        severity.toList ++ separated colon rest = w.toList ++ m ∧ _ = [] :=
      oneOf_reads_iff.1 hword
    obtain ⟨rfl, rfl⟩ := severity_unique hs hw hm
    obtain ⟨rfl, rfl, rfl, rfl⟩ := separated_reads hstart hcolon hblank hopt hblanks
    exact ⟨rfl, rfl⟩
  exact congrArg (Option.or · _) hrun

/-- **No severity is read where there is none.** -/
theorem run_no_severity (hwords : ∀ w ∈ severities, ¬ w.toList <+: rest) :
    (severityPattern ["error", "warning"]).run k rest = k rest := by
  have hnone : wordPattern.run k rest = none := by
    refine run_eq_none fun ms r hr => ?_
    obtain ⟨_, _, _, ⟨_, _, _, ⟨_, _, _, ⟨_, m, _, ⟨_, hword, -⟩, -, -⟩, -, -⟩, -, -⟩, -, -⟩ := hr
    obtain ⟨w, hw, rfl, -⟩ : ∃ w ∈ severities, rest = w.toList ++ m ∧ _ = [] :=
      oneOf_reads_iff.1 hword
    exact absurd (List.prefix_append _ _) (hwords w hw)
  exact congrArg (Option.or · _) hnone

end GnuLd

end BuildDiagnostics
