import BuildDiagnostics.Proofs.BareName

/-!
# Lookups that fail

While the files of a batch are found, the system is only asked: whether something is at a path, and
in the last resort which directory is the working directory. One question that is not answered ends
it all, and nothing has been written by then. Which questions are asked follows from the batch and
the disk alone (`batchQuestions`): a candidate is not examined behind one that exists.

* `Failure.of?_mapM`: a list is mapped with the failure of its first element that fails.
* `of?_findExisting`, `of?_anchor`: a failure is that of the first question that is refused.
* `not_isLookup_of_writeOrphans`: a failure to write the file of orphans is not that of a lookup.
* `failed_lookup_changes_nothing`: when a batch fails at a lookup, with which error, and that the
  disk stays as it is.
-/

namespace BuildDiagnostics

/-! ## Failures -/

/-- What went wrong, if something did. -/
def Failure.of? {α : Type} : Except Failure α → Option Failure
  | .error e => some e
  | .ok _ => none

/-- The failure tells of a path that was looked up, or of the working directory. -/
def Failure.IsLookup (e : Failure) : Prop :=
  (∃ text f, e = .during ("checking " ++ text) f) ∨ ∃ f, e = .during "reading current directory" f

/-- **A list is mapped with the failure of its first element that fails.** -/
theorem Failure.of?_mapM {α β : Type} (f : α → Except Failure β) (xs : List α) :
    Failure.of? (xs.mapM f) = xs.findSome? fun x => Failure.of? (f x) := by
  induction xs with
  | nil => rfl
  | cons x xs ih =>
    rw [List.mapM_cons, List.findSome?_cons, ← ih]
    cases f x with
    | error e => rfl
    | ok y => cases xs.mapM f <;> rfl

/-- The first of several searches that finds something. -/
theorem findSome?_flatMap {α β γ : Type} (f : β → Option γ) (g : α → List β) (xs : List α) :
    (xs.flatMap g).findSome? f = xs.findSome? fun x => (g x).findSome? f := by
  induction xs with
  | nil => rfl
  | cons x xs ih =>
    rw [List.flatMap_cons, List.findSome?_append, List.findSome?_cons, ih]
    cases (g x).findSome? f <;> rfl

namespace Resolver

variable {r : Resolver} {d d' : Disk} {bases : List Path} {batch : List Diagnostic}
  {home : Except Fault Path} {file : List Char} {e : Failure}

/-! ## Questions -/

/-- What the system is asked while files are found. -/
inductive Question
  /-- Whether there is something at a path. -/
  | isThere (p : Path)
  /-- Which directory is the working directory. -/
  | home
  deriving DecidableEq, Repr

/-- The failure that comes of a question, if it is not answered. -/
def Question.failure? (d : Disk) (home : Except Fault Path) : Question → Option Failure
  | .isThere p =>
    match d.tryExists p with
    | .error f => some (.during ("checking " ++ p.text) f)
    | .ok _ => none
  | .home =>
    match home with
    | .error f => some (.during "reading current directory" f)
    | .ok _ => none

/-- The candidates of a reference that are examined: one in each base directory, up to the first
that exists. -/
def examined (d : Disk) (bases : List Path) (file : List Char) : List Path :=
  let ps := bases.map (candidate · file)
  ps.take (ps.findIdx d.pathExists + 1)

/-- What is asked for the path of a reference. -/
def pathQuestions (d : Disk) (bases : List Path) (reference : String) : List Question :=
  let file := Text.trim reference.toList
  if Reference.isAbsolute file then []
  else if bases.isEmpty then [.home]
  else (examined d bases file).map .isThere

/-- What is asked for the file of a diagnostic. A bare name is not put into the working
directory. -/
def fileQuestions (d : Disk) (bases : List Path) (reference : String) : List Question :=
  let file := Text.trim reference.toList
  if file.isEmpty || Reference.hasBinaryExtension file then []
  else if Reference.isBareName file then (examined d bases file).map .isThere
  else pathQuestions d bases reference

/-- What is asked for a batch: diagnostic by diagnostic, and for each one first for its related
places. -/
def batchQuestions (d : Disk) (bases : List Path) (batch : List Diagnostic) : List Question :=
  batch.flatMap fun diag =>
    diag.related.flatMap (fun x => pathQuestions d bases x.file) ++ fileQuestions d bases diag.file

/-- The failure is that of the first question that is not answered. -/
def FirstRefused (d : Disk) (home : Except Fault Path) (qs : List Question) (e : Failure) : Prop :=
  ∃ before q after, qs = before ++ q :: after ∧ (∀ x ∈ before, x.failure? d home = none) ∧
    q.failure? d home = some e

theorem firstRefused_iff {qs : List Question} :
    FirstRefused d home qs e ↔ qs.findSome? (·.failure? d home) = some e := by
  rw [List.findSome?_eq_some_iff]
  constructor
  · rintro ⟨before, q, after, hqs, hbefore, hq⟩
    exact ⟨before, q, after, hqs, hq, hbefore⟩
  · rintro ⟨before, q, after, hqs, hq, hbefore⟩
    exact ⟨before, q, after, hqs, hbefore, hq⟩

theorem isLookup_of_failure? {q : Question} (h : q.failure? d home = some e) : e.IsLookup := by
  cases q with
  | isThere p =>
    dsimp only [Question.failure?] at h
    cases hp : d.tryExists p with
    | error f => rw [hp] at h; cases h; exact .inl ⟨p.text, f, rfl⟩
    | ok found => rw [hp] at h; cases h
  | home =>
    cases home with
    | error f => cases h; exact .inr ⟨f, rfl⟩
    | ok cwd => cases h

/-! ## The failure of a search -/

/-- A candidate that exists is the last that is examined. -/
theorem examined_cons (base : Path) (rest : List Path) :
    examined d (base :: rest) file =
      candidate base file ::
        if d.pathExists (candidate base file) then [] else examined d rest file := by
  unfold examined
  dsimp only
  rw [List.map_cons, List.findIdx_cons]
  cases d.pathExists (candidate base file) <;> rfl

/-- **A search fails with its first question that is refused.** -/
theorem of?_findExisting (home : Except Fault Path) :
    Failure.of? (findExisting d file bases) =
      ((examined d bases file).map Question.isThere).findSome? (·.failure? d home) := by
  induction bases with
  | nil => rfl
  | cons base rest ih =>
    rw [examined_cons, findExisting, List.map_cons, List.findSome?_cons]
    dsimp only [Question.failure?]
    cases hthere : d.tryExists (candidate base file) with
    | error f => rfl
    | ok found =>
      cases found with
      | true =>
        -- what is found ends the search, whatever comes behind it
        rw [if_pos (Disk.pathExists_of_tryExists hthere)]
        rfl
      | false =>
        have hnot := Disk.pathExists_of_tryExists hthere
        rw [if_neg (by rw [hnot]; decide)]
        exact ih

/-- Without base directories only the working directory is asked for. -/
theorem of?_fallback : Failure.of? (fallback [] file home) = Question.home.failure? d home := by
  cases home <;> rfl

theorem of?_resolvePath (reference : String) :
    Failure.of? (resolvePath d bases reference home) =
      (pathQuestions d bases reference).findSome? (·.failure? d home) := by
  unfold resolvePath pathQuestions
  dsimp only
  generalize Text.trim reference.toList = file
  cases Reference.isAbsolute file with
  | true => rfl
  | false =>
    simp only [Bool.false_eq_true, if_false]
    cases bases with
    | nil =>
      rw [List.isEmpty_nil, if_pos rfl, List.findSome?_cons, List.findSome?_nil, findExisting]
      dsimp only
      rw [of?_fallback]
      cases Question.home.failure? d home <;> rfl
    | cons base rest =>
      rw [List.isEmpty_cons, if_neg (by decide), ← of?_findExisting home]
      cases findExisting d file (base :: rest) with
      | error f => rfl
      | ok found => cases found <;> rfl

theorem of?_anchorFile (reference : String) :
    Failure.of? (anchorFile d bases reference home) =
      (fileQuestions d bases reference).findSome? (·.failure? d home) := by
  have hpath : Failure.of? (resolvePath d bases reference home) = _ := of?_resolvePath reference
  unfold anchorFile fileQuestions
  dsimp only
  generalize Text.trim reference.toList = file
  cases file.isEmpty || Reference.hasBinaryExtension file with
  | true => rfl
  | false =>
    simp only [Bool.false_eq_true, if_false]
    cases Reference.isBareName file with
    | true =>
      rw [if_pos rfl, if_pos rfl, ← of?_findExisting home]
      cases findExisting d file bases <;> rfl
    | false =>
      rw [if_neg (by decide), if_neg (by decide), ← hpath]
      cases resolvePath d bases reference home <;> rfl

/-- **A diagnostic fails with the first question that is refused**, those for its related places
before those for its own. -/
theorem of?_anchor (diag : Diagnostic) :
    Failure.of? (anchor d bases diag home) =
      (diag.related.flatMap (fun x => pathQuestions d bases x.file) ++
        fileQuestions d bases diag.file).findSome? (·.failure? d home) := by
  have hrelated : Failure.of? (diag.related.mapM (anchorRelated d bases · home)) =
      (diag.related.flatMap fun x => pathQuestions d bases x.file).findSome?
        (·.failure? d home) := by
    rw [Failure.of?_mapM, findSome?_flatMap]
    refine congrArg (fun f => diag.related.findSome? f) (funext fun x => ?_)
    rw [← of?_resolvePath]
    unfold anchorRelated
    cases resolvePath d bases x.file home <;> rfl
  rw [List.findSome?_append, ← hrelated, ← of?_anchorFile]
  unfold anchor
  cases diag.related.mapM (anchorRelated d bases · home) with
  | error f => rfl
  | ok related => cases anchorFile d bases diag.file home <;> rfl

theorem of?_anchors : Failure.of? (anchors d bases batch home) =
    (batchQuestions d bases batch).findSome? (·.failure? d home) := by
  unfold anchors batchQuestions
  rw [Failure.of?_mapM, findSome?_flatMap]
  exact congrArg (fun f => batch.findSome? f) (funext fun diag => of?_anchor diag)

/-! ## The batch -/

/-- How the text of a lookup's failure begins. -/
theorem opening_of_isLookup (h : e.IsLookup) :
    e.tasks.map (·.toList.take 3) = ["che".toList] ∨
      e.tasks.map (·.toList.take 3) = ["rea".toList] := by
  rcases h with ⟨text, f, rfl⟩ | ⟨f, rfl⟩
  · left
    simp [Failure.during, String.toList_append]
  · right
    rfl

/-- **A failure to write the file of orphans** is told from a lookup by what was being done. -/
theorem not_isLookup_of_writeOrphans {orphaned : Bool} {text : String}
    (h : r.writeOrphans d orphaned text = (.error e, d')) : ¬ e.IsLookup := by
  intro hlookup
  have hopening := opening_of_isLookup hlookup
  unfold writeOrphans at h
  dsimp only at h
  split at h
  · split at h
    · cases h
      simp [Failure.during, String.toList_append] at hopening
    · split at h
      · cases h
        simp [Failure.during, String.toList_append] at hopening
      · cases h
  · split at h
    · split at h
      · cases h
        simp [Failure.during, String.toList_append] at hopening
      · cases h
    · cases h

theorem anchors_eq_error_iff :
    anchors d bases batch home = .error e ↔
      FirstRefused d home (batchQuestions d bases batch) e := by
  rw [firstRefused_iff, ← of?_anchors]
  cases anchors d bases batch home <;> simp [Failure.of?]

/-- **A lookup that fails changes nothing.** A batch fails at a lookup exactly if one of the
questions that are asked for it is not answered. The disk is then as it was, and the failure is that
of the first such question. -/
theorem failed_lookup_changes_nothing (r : Resolver) (d d' : Disk) (bases : List Path)
    (batch : List Diagnostic) (home : Except Fault Path) (e : Failure) :
    (r.resolve d bases batch home = (.error e, d') ∧ e.IsLookup) ↔
      (d' = d ∧ FirstRefused d home (batchQuestions d bases batch) e) := by
  rw [← anchors_eq_error_iff]
  constructor
  · rintro ⟨hresolve, hlookup⟩
    unfold resolve at hresolve
    cases has : anchors d bases batch home with
    | error f =>
      rw [has] at hresolve
      cases hresolve
      exact ⟨rfl, rfl⟩
    | ok as =>
      -- all questions were answered, so the failure came later
      rw [has] at hresolve
      dsimp only at hresolve
      split at hresolve
      · rename_i hwrite
        cases hresolve
        exact absurd hlookup (not_isLookup_of_writeOrphans hwrite)
      · cases hresolve
  · rintro ⟨rfl, has⟩
    refine ⟨?_, ?_⟩
    · unfold resolve
      rw [has]
    · obtain ⟨before, q, after, -, -, hq⟩ := anchors_eq_error_iff.1 has
      exact isLookup_of_failure? hq

-- The header is found in the first base directory, so the second one, which is a file, is in the
-- way of the other reference only. The orphan before them is not written.
example :
    let d : Disk := ⟨[(["b"], .directory), (["b", "a.h"], .file []), (["c"], .file [])], []⟩
    let bases : List Path := [⟨"/b"⟩, ⟨"/c"⟩]
    let batch : List Diagnostic := [
      { source := "MSVC", file := "main.obj", range := .point 0 0, severity := "error"
        message := "unresolved" },
      { source := "GCC", file := "x.c", range := .point 0 0, severity := "error", message := "m"
        related := [⟨"a.h", .point 0 0, "n"⟩] }]
    batchQuestions d bases batch =
        [.isThere ⟨"/b/a.h"⟩, .isThere ⟨"/b/x.c"⟩, .isThere ⟨"/c/x.c"⟩] ∧
      (Resolver.mk ⟨"/t"⟩).resolve d bases batch =
        (.error (.during "checking /c/x.c" .notADirectory), d) := by
  decide +kernel

end Resolver

end BuildDiagnostics
