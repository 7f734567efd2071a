import BuildDiagnostics.Proofs.WrittenFile
import BuildDiagnostics.Resolver

/-!
# Looking up a reference

The disk is asked for a reference in one base directory after the other. Only the answer that
nothing is there lets the search go on: a path that the disk refuses to follow ends it.

* `tryExists_error_iff`: the disk has no answer exactly for the paths that are `Blocked`.
* `findExisting_some`: what is found is a candidate.
* `findExisting_error_iff`: the search fails exactly where it meets a blocked candidate (`Stuck`).
-/

namespace BuildDiagnostics

namespace Disk

/-! ## Paths without an answer -/

/-- The disk refuses to follow the path: it holds a NUL, it is too long, it goes on behind a file,
or it names something in a directory by too long a name. -/
inductive Blocked (d : Disk) (p : Path) : Prop
  | nul : '\x00' ∈ p.text.toList → Blocked d p
  | long : 4096 ≤ p.text.utf8ByteSize → Blocked d p
  | throughFile {ps qs : List (List Char)} {q : List Char} {loc : Location}
      {content : List UInt8} : p.text ≠ "" → Text.pieces '/' p.text.toList = ps ++ q :: qs →
      d.walk (d.origin p) ps = .ok loc → d.node? loc = some (.file content) → Blocked d p
  | longName {ps qs : List (List Char)} {q : List Char} {loc : Location} :
      Text.pieces '/' p.text.toList = ps ++ q :: qs → d.walk (d.origin p) ps = .ok loc →
      d.node? loc = some .directory → 255 < (String.ofList q).utf8ByteSize → Blocked d p

variable {d : Disk} {l loc : Location} {p : Path}

/-- **A path that is not followed** fails at its first piece that is not followed. -/
theorem walk_error_iff {pieces : List (List Char)} {f : Fault} :
    d.walk l pieces = .error f ↔
      ∃ ps q qs loc, pieces = ps ++ q :: qs ∧ d.walk l ps = .ok loc ∧ d.enter loc q = .error f := by
  induction pieces generalizing l with
  | nil => simp [walk]
  | cons piece rest ih =>
    cases h : d.enter l piece with
    | error g =>
      rw [walk_eq_enter, h]
      constructor
      · intro hg
        cases hg
        exact ⟨[], piece, rest, l, rfl, rfl, h⟩
      · rintro ⟨ps, q, qs, loc, hsplit, hw, he⟩
        cases ps with
        | nil => cases hsplit; cases hw; rw [← he, h]
        | cons p ps =>
          cases hsplit
          obtain ⟨m, hm, -⟩ := walk_cons.1 hw
          rw [h] at hm
          exact absurd hm (by simp)
    | ok m =>
      rw [walk_eq_enter, h]
      dsimp only
      rw [ih]
      constructor
      · rintro ⟨ps, q, qs, loc, rfl, hw, he⟩
        exact ⟨piece :: ps, q, qs, loc, rfl, walk_cons.2 ⟨m, h, hw⟩, he⟩
      · rintro ⟨ps, q, qs, loc, hsplit, hw, he⟩
        cases ps with
        | nil => cases hsplit; cases hw; rw [h] at he; exact absurd he (by simp)
        | cons p ps =>
          cases hsplit
          obtain ⟨m', hm, hw⟩ := walk_cons.1 hw
          rw [h] at hm
          cases hm
          exact ⟨ps, q, qs, loc, rfl, hw, he⟩

/-- A piece is refused behind a file, and where it is too long a name in a directory. -/
theorem enter_refused_iff {q : List Char} : (∃ f ≠ .notFound, d.enter l q = .error f) ↔
    (∃ content, d.node? l = some (.file content)) ∨
      d.node? l = some .directory ∧ 255 < (String.ofList q).utf8ByteSize := by
  unfold enter
  cases d.node? l with
  | none => simp
  | some n =>
    cases n with
    | file content => simp
    | directory =>
      by_cases hq : 255 < (String.ofList q).utf8ByteSize
      · have hnil : q ≠ [] := by rintro rfl; exact absurd hq (by decide)
        have hdot : q ≠ ['.'] := by rintro rfl; exact absurd hq (by decide)
        have hdots : q ≠ ['.', '.'] := by rintro rfl; exact absurd hq (by decide)
        simp [hnil, hdot, hdots, hq]
      · dsimp only
        rw [if_neg hq]
        refine iff_of_false ?_ (by simp [hq])
        rintro ⟨f, hf, h⟩
        split at h
        · exact absurd h (by simp)
        · split at h
          · exact absurd h (by simp)
          · split at h
            · cases h; exact hf rfl
            · exact absurd h (by simp)

theorem tryExists_eq_error_iff {f : Fault} :
    d.tryExists p = .error f ↔ f ≠ .notFound ∧ d.locate p = .error f := by
  unfold tryExists stat
  cases d.locate p with
  | error g => cases g <;> cases f <;> simp
  | ok loc => cases h : d.node? loc <;> simp [h]

theorem refusal?_eq_none_iff : refusal? p = none ↔
    '\x00' ∉ p.text.toList ∧ p.text ≠ "" ∧ p.text.utf8ByteSize < 4096 := by
  unfold refusal?
  simp only [List.contains_iff_mem, String.isEmpty_iff]
  split
  · simp_all
  · split
    · simp_all
    · split <;> simp_all

/-- A path that is not empty is refused before or on the way. -/
theorem locate_refused (hne : p.text ≠ "") (h : refusal? p ≠ none ∨
      ∃ f ≠ .notFound, d.walk (d.origin p) (Text.pieces '/' p.text.toList) = .error f) :
    ∃ f ≠ .notFound, d.locate p = .error f := by
  unfold locate
  cases hr : refusal? p with
  | some g =>
    refine ⟨g, ?_, rfl⟩
    rintro rfl
    unfold refusal? at hr
    simp only [String.isEmpty_iff, hne, if_false] at hr
    split at hr
    · exact absurd hr (by simp)
    · split at hr <;> exact absurd hr (by simp)
  | none => exact h.resolve_left (· hr)

/-- **The disk has no answer** exactly for a path that is blocked. -/
theorem tryExists_error_iff : (∃ f, d.tryExists p = .error f) ↔ d.Blocked p := by
  simp only [tryExists_eq_error_iff]
  constructor
  · rintro ⟨f, hf, h⟩
    unfold locate at h
    by_cases hr : refusal? p = none
    · rw [hr] at h
      obtain ⟨ps, q, qs, loc, hsplit, hw, he⟩ := walk_error_iff.1 h
      rcases enter_refused_iff.1 ⟨f, hf, he⟩ with ⟨content, hfile⟩ | ⟨hdir, hlong⟩
      · exact .throughFile (refusal?_eq_none_iff.1 hr).2.1 hsplit hw hfile
      · exact .longName hsplit hw hdir hlong
    · by_contra hopen
      refine hr (refusal?_eq_none_iff.2 ⟨fun h => hopen (.nul h), ?_, ?_⟩)
      · intro he
        have hempty : refusal? p = some .notFound := by simp [refusal?, he]
        rw [hempty] at h
        cases h
        exact hf rfl
      · exact Nat.lt_of_not_le fun h => hopen (.long h)
  · intro h
    cases h with
    | nul h =>
      refine locate_refused ?_ (.inl fun hr => (refusal?_eq_none_iff.1 hr).1 h)
      intro he; rw [he] at h; exact absurd h (by simp)
    | long h =>
      refine locate_refused ?_ (.inl fun hr => ?_)
      · intro he; rw [he] at h; exact absurd h (by decide)
      · exact absurd (refusal?_eq_none_iff.1 hr).2.2 (Nat.not_lt.2 h)
    | @throughFile ps qs q loc content hne hsplit hw hfile =>
      obtain ⟨f, hf, he⟩ := enter_refused_iff.2 (.inl ⟨content, hfile⟩)
      exact locate_refused hne (.inr ⟨f, hf, walk_error_iff.2 ⟨ps, q, qs, loc, hsplit, hw, he⟩⟩)
    | @longName ps qs q loc hsplit hw hdir hlong =>
      obtain ⟨f, hf, he⟩ := enter_refused_iff.2 (.inr ⟨hdir, hlong⟩)
      refine locate_refused ?_ (.inr ⟨f, hf, walk_error_iff.2 ⟨ps, q, qs, loc, hsplit, hw, he⟩⟩)
      intro hempty
      rw [hempty] at hsplit
      have hq : q ∈ Text.pieces '/' "".toList := by rw [hsplit]; simp
      cases List.mem_singleton.1 hq
      exact absurd hlong (by decide)

end Disk

namespace Resolver

variable {d : Disk} {bases : List Path} {file : List Char}

/-! ## Where nothing is found -/

/-- With a working directory there is always a place to go. -/
theorem fallback_ok (cwd : Path) :
    fallback bases file (.ok cwd) = .ok (candidate (bases.headD cwd) file) := by
  cases bases <;> rfl

/-! ## The search -/

/-- The search for a reference meets a blocked candidate before it has found one. -/
def Stuck (d : Disk) (bases : List Path) (file : List Char) : Prop :=
  ∃ before base after, bases = before ++ base :: after ∧
    (∀ b ∈ before, d.tryExists (candidate b file) = .ok false) ∧ d.Blocked (candidate base file)

/-- What is found is a candidate that exists. -/
theorem findExisting_some {p : Path} (h : findExisting d file bases = .ok (some p)) :
    ∃ base ∈ bases, p = candidate base file ∧ d.tryExists p = .ok true := by
  induction bases with
  | nil => exact absurd h (by simp [findExisting])
  | cons base rest ih =>
    rw [findExisting] at h
    cases he : d.tryExists (candidate base file) with
    | error f => rw [he] at h; exact absurd h (by simp)
    | ok found =>
      rw [he] at h
      cases found with
      | true => cases h; exact ⟨base, List.mem_cons_self, rfl, he⟩
      | false =>
        obtain ⟨b, hb, hp⟩ := ih h
        exact ⟨b, List.mem_cons_of_mem _ hb, hp⟩

theorem stuck_cons {base : Path} {rest : List Path} : Stuck d (base :: rest) file ↔
    d.Blocked (candidate base file) ∨
      d.tryExists (candidate base file) = .ok false ∧ Stuck d rest file := by
  constructor
  · rintro ⟨before, b, after, hsplit, hbefore, hb⟩
    cases before with
    | nil => cases hsplit; exact .inl hb
    | cons c before =>
      cases hsplit
      exact .inr ⟨hbefore _ List.mem_cons_self,
        before, b, after, rfl, fun x hx => hbefore x (List.mem_cons_of_mem _ hx), hb⟩
  · rintro (hb | ⟨hno, before, b, after, rfl, hbefore, hb⟩)
    · exact ⟨[], base, rest, rfl, by simp, hb⟩
    · exact ⟨base :: before, b, after, rfl, List.forall_mem_cons.2 ⟨hno, hbefore⟩, hb⟩

/-- **The search fails** exactly where it meets a blocked candidate. -/
theorem findExisting_error_iff : (∃ f, findExisting d file bases = .error f) ↔
    Stuck d bases file := by
  induction bases with
  | nil => simp [findExisting, Stuck]
  | cons base rest ih =>
    rw [stuck_cons, ← Disk.tryExists_error_iff, ← ih, findExisting]
    cases d.tryExists (candidate base file) with
    | error f => simp
    | ok found => cases found <;> simp

end Resolver

end BuildDiagnostics
