import BuildDiagnostics.Proofs.Lookup

/-!
# The order of the base directories

A reference that is not absolute goes to the first base directory that has it, or else to the first
of all. So directories that come at the end are asked last: they never take away what was found
before them, nor the directory that a reference falls back to.

* `FirstAnswer`, `Nowhere`: how the search in a list of directories ends.
* `search_cases`: it ends in one of these ways.
* `findExisting_append`: further directories are asked only if nothing was found.
* `resolvePath_first_match`: where a reference goes, with and without further directories.
-/

namespace BuildDiagnostics.Resolver

variable {d : Disk} {bases more : List Path} {base : Path} {file : List Char}
  {home : Except Fault Path} {answer : Except Fault Bool}

/-! ## How the search ends -/

/-- The directory is the first of the list in which the disk does not say that nothing is there, and
this is its answer. -/
def FirstAnswer (d : Disk) (file : List Char) (bases : List Path) (base : Path)
    (answer : Except Fault Bool) : Prop :=
  ∃ before after, bases = before ++ base :: after ∧
    (∀ b ∈ before, d.tryExists (candidate b file) = .ok false) ∧
    d.tryExists (candidate base file) = answer ∧ answer ≠ .ok false

/-- In none of the directories is anything at the candidate of the reference. -/
def Nowhere (d : Disk) (file : List Char) (bases : List Path) : Prop :=
  ∀ base ∈ bases, d.tryExists (candidate base file) = .ok false

/-- What the search makes of the answer that ends it. -/
def conclusion (p : Path) : Except Fault Bool → Except Failure (Option Path)
  | .ok true => .ok (some p)
  | .ok false => .ok none
  | .error f => .error (.during ("checking " ++ p.text) f)

@[simp]
theorem map_conclusion_found (p other : Path) :
    (conclusion p (.ok true)).map (·.getD other) = .ok p := rfl

@[simp]
theorem map_conclusion_notFound (p other : Path) :
    (conclusion p (.ok false)).map (·.getD other) = .ok other := rfl

@[simp]
theorem map_conclusion_error (p other : Path) (f : Fault) :
    (conclusion p (.error f)).map (·.getD other) = .error (.during ("checking " ++ p.text) f) := rfl

/-- **The search ends in one of three ways**: with a candidate that exists, with one that the disk
refuses, or without either. -/
theorem search_cases (d : Disk) (file : List Char) (bases : List Path) :
    (∃ base, FirstAnswer d file bases base (.ok true)) ∨
      (∃ base f, FirstAnswer d file bases base (.error f)) ∨ Nowhere d file bases := by
  induction bases with
  | nil =>
    right; right
    intro b hb
    cases hb
  | cons first rest ih =>
    cases hfirst : d.tryExists (candidate first file) with
    | error f => exact .inr (.inl ⟨first, f, [], rest, rfl, by simp, hfirst, by simp⟩)
    | ok found =>
      cases found with
      | true => exact .inl ⟨first, [], rest, rfl, by simp, hfirst, by simp⟩
      | false =>
        -- the directory joins those before the one that answers
        have hjoin : ∀ base answer, FirstAnswer d file rest base answer →
            FirstAnswer d file (first :: rest) base answer := by
          rintro base answer ⟨before, after, rfl, hbefore, hbase⟩
          exact ⟨first :: before, after, rfl, List.forall_mem_cons.2 ⟨hfirst, hbefore⟩, hbase⟩
        rcases ih with ⟨base, h⟩ | ⟨base, f, h⟩ | h
        · exact .inl ⟨base, hjoin _ _ h⟩
        · exact .inr (.inl ⟨base, f, hjoin _ _ h⟩)
        · exact .inr (.inr (List.forall_mem_cons.2 ⟨hfirst, h⟩))

/-- Directories in which nothing is found make no difference to those after them. -/
theorem findExisting_append (h : Nowhere d file bases) (more : List Path) :
    findExisting d file (bases ++ more) = findExisting d file more := by
  induction bases with
  | nil => rfl
  | cons first rest ih =>
    have hrest : Nowhere d file rest := fun b hb => h b (List.mem_cons_of_mem _ hb)
    rw [List.cons_append, findExisting, h first List.mem_cons_self]
    exact ih hrest

theorem findExisting_of_nowhere (h : Nowhere d file bases) :
    findExisting d file bases = .ok none := by
  have := findExisting_append h []
  rwa [List.append_nil] at this

/-- Directories at the end do not change which one answers first. -/
theorem FirstAnswer.append (h : FirstAnswer d file bases base answer) (more : List Path) :
    FirstAnswer d file (bases ++ more) base answer := by
  obtain ⟨before, after, rfl, hbefore, hbase⟩ := h
  exact ⟨before, after ++ more, by rw [List.append_assoc, List.cons_append], hbefore, hbase⟩

/-- **The first answer ends the search.** -/
theorem findExisting_of_firstAnswer (h : FirstAnswer d file bases base answer) :
    findExisting d file bases = conclusion (candidate base file) answer := by
  obtain ⟨before, after, rfl, hbefore, hbase, hne⟩ := h
  rw [findExisting_append hbefore, findExisting, hbase]
  cases answer with
  | error f => rfl
  | ok found =>
    cases found with
    | true => rfl
    | false => exact absurd rfl hne

/-! ## Where a reference goes -/

theorem resolvePath_of_absolute {reference : String}
    (hfile : Text.trim reference.toList = file) (h : Reference.isAbsolute file = true)
    (bases : List Path) : resolvePath d bases reference home = .ok ⟨String.ofList file⟩ := by
  unfold resolvePath
  dsimp only
  rw [hfile, if_pos h]

/-- A reference that is not absolute goes to what is found, or else to the first directory. -/
theorem resolvePath_of_relative (d : Disk) (home : Except Fault Path) {reference : String}
    (hfile : Text.trim reference.toList = file) (h : Reference.isAbsolute file = false)
    (first : Path) (rest : List Path) :
    resolvePath d (first :: rest) reference home =
      (findExisting d file (first :: rest)).map (·.getD (candidate first file)) := by
  unfold resolvePath
  dsimp only
  rw [hfile, if_neg (by simp [h])]
  cases findExisting d file (first :: rest) with
  | error f => rfl
  | ok found => cases found <;> rfl

/-- **The first match wins, and directories at the end take nothing away.** An absolute reference
stays as it is. Any other goes to the first base directory that has it, and where none has it, to
the first of all; a candidate that the disk refuses before that is the failure. With more
directories at the end, a reference that was found goes where it went, and so does the failure. One
that was not found is found in one of them, or fails at one of them, or falls back as before. -/
theorem resolvePath_first_match (d : Disk) (home : Except Fault Path) (reference : String)
    (first : Path) (rest more : List Path) :
    let file := Text.trim reference.toList
    let bases := first :: rest
    let refused : Path → Fault → Failure := fun base f =>
      .during ("checking " ++ (candidate base file).text) f
    (Reference.isAbsolute file = true →
      ∀ dirs, resolvePath d dirs reference home = .ok ⟨String.ofList file⟩) ∧
    (Reference.isAbsolute file = false →
      ((∃ base, FirstAnswer d file bases base (.ok true)) ∨
        (∃ base f, FirstAnswer d file bases base (.error f)) ∨ Nowhere d file bases) ∧
      (∀ base, FirstAnswer d file bases base (.ok true) →
        resolvePath d bases reference home = .ok (candidate base file) ∧
        resolvePath d (bases ++ more) reference home = resolvePath d bases reference home) ∧
      (∀ base f, FirstAnswer d file bases base (.error f) →
        resolvePath d bases reference home = .error (refused base f) ∧
        resolvePath d (bases ++ more) reference home = resolvePath d bases reference home) ∧
      (Nowhere d file bases →
        resolvePath d bases reference home = .ok (candidate first file) ∧
        ((∃ base, FirstAnswer d file more base (.ok true) ∧
            resolvePath d (bases ++ more) reference home = .ok (candidate base file)) ∨
          (∃ base f, FirstAnswer d file more base (.error f) ∧
            resolvePath d (bases ++ more) reference home = .error (refused base f)) ∨
          (Nowhere d file more ∧ resolvePath d (bases ++ more) reference home =
            resolvePath d bases reference home)))) := by
  dsimp only
  generalize hfile : Text.trim reference.toList = file
  refine ⟨resolvePath_of_absolute hfile, fun h => ⟨search_cases d file (first :: rest), ?_⟩⟩
  have hbases := resolvePath_of_relative d home hfile h first rest
  have hlonger := resolvePath_of_relative d home hfile h first (rest ++ more)
  rw [← List.cons_append] at hlonger
  -- whatever the first answer is, the directories behind it are not asked
  have hkept : ∀ base answer, FirstAnswer d file (first :: rest) base answer →
      resolvePath d (first :: rest) reference home =
        (conclusion (candidate base file) answer).map (·.getD (candidate first file)) ∧
      resolvePath d (first :: rest ++ more) reference home =
        resolvePath d (first :: rest) reference home := by
    intro base answer hbase
    rw [hbases, hlonger, findExisting_of_firstAnswer hbase,
      findExisting_of_firstAnswer (hbase.append more)]
    exact ⟨rfl, rfl⟩
  refine ⟨fun base hbase => ?_, fun base f hbase => ?_, fun hnone => ?_⟩
  · obtain ⟨hpath, hsame⟩ := hkept base _ hbase
    rw [map_conclusion_found] at hpath
    exact ⟨hpath, hsame⟩
  · obtain ⟨hpath, hsame⟩ := hkept base _ hbase
    rw [map_conclusion_error] at hpath
    exact ⟨hpath, hsame⟩
  · rw [hbases, hlonger, findExisting_append hnone, findExisting_of_nowhere hnone]
    refine ⟨map_conclusion_notFound (candidate first file) _, ?_⟩
    rcases search_cases d file more with ⟨base, hbase⟩ | ⟨base, f, hbase⟩ | hnowhere
    · rw [findExisting_of_firstAnswer hbase, map_conclusion_found]
      exact .inl ⟨base, hbase, rfl⟩
    · rw [findExisting_of_firstAnswer hbase, map_conclusion_error]
      exact .inr (.inl ⟨base, f, hbase, rfl⟩)
    · rw [findExisting_of_nowhere hnowhere]
      exact .inr (.inr ⟨hnowhere, rfl⟩)

/-- A header that the second of two directories has. A third one, which is a file, would refuse it,
but is not asked. -/
theorem resolvePath_first_match_header :
    let d : Disk := ⟨[(["b"], .directory), (["c"], .directory), (["c", "a.h"], .file [])], []⟩
    let bases : List Path := [⟨"/b"⟩, ⟨"/c"⟩]
    let more : List Path := [⟨"/c/a.h"⟩]
    Reference.isAbsolute (Text.trim " a.h".toList) = false ∧
      FirstAnswer d (Text.trim " a.h".toList) bases ⟨"/c"⟩ (.ok true) ∧
      FirstAnswer d (Text.trim " a.h".toList) more ⟨"/c/a.h"⟩ (.error .notADirectory) ∧
      resolvePath d bases " a.h" = .ok ⟨"/c/a.h"⟩ ∧
      resolvePath d (bases ++ more) " a.h" = .ok ⟨"/c/a.h"⟩ := by
  intro d bases more
  have hrelative : Reference.isAbsolute (Text.trim " a.h".toList) = false := by decide +kernel
  have hfound : FirstAnswer d (Text.trim " a.h".toList) bases ⟨"/c"⟩ (.ok true) :=
    ⟨[⟨"/b"⟩], [], rfl, by decide +kernel, by decide +kernel, by decide⟩
  have hrefused : FirstAnswer d (Text.trim " a.h".toList) more ⟨"/c/a.h"⟩
      (.error .notADirectory) :=
    ⟨[], [], rfl, by decide +kernel, by decide +kernel, by decide⟩
  have hcandidate : candidate ⟨"/c"⟩ (Text.trim " a.h".toList) = ⟨"/c/a.h"⟩ := by decide +kernel
  obtain ⟨-, hsearch⟩ :=
    resolvePath_first_match d (.ok d.workingDirectory) " a.h" ⟨"/b"⟩ [⟨"/c"⟩] more
  obtain ⟨-, hmatch, -⟩ := hsearch hrelative
  obtain ⟨hpath, hsame⟩ := hmatch ⟨"/c"⟩ hfound
  rw [hcandidate] at hpath
  exact ⟨hrelative, hfound, hrefused, hpath, hsame.trans hpath⟩

end BuildDiagnostics.Resolver
