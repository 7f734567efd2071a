import BuildDiagnostics.Disk
import BuildDiagnostics.Proofs.Text

/-!
# Writing and removing a file

Writing puts a file where the last name of the path belongs, and nothing on the way to it is a file,
so the path is followed as before and ends at what was written.

* `walk_eq_enter`, `walk_append`: a path is followed piece by piece (`enter`).
* `walk_mono`: a path is followed alike on a disk with more on it, as long as directories stay.
* `grows_createDirectories`: making directories takes nothing away.
* `read_write`: what is written is read back.
* `write_of_locate`: where a file is written.
* `pathExists_removeFile`: what is removed is no longer there.
* `removeFile_of_write`: a file that can be written can be removed.
-/

namespace BuildDiagnostics.Disk

variable {d d' d'' : Disk} {l loc target : Location} {p : Path} {content : List UInt8}

/-! ## What is at a place -/

theorem lookup_filter {α β : Type} [BEq α] [LawfulBEq α] (keep : α → Bool) (es : List (α × β))
    (a : α) : (es.filter fun e => keep e.1).lookup a = if keep a then es.lookup a else none := by
  induction es with
  | nil => simp
  | cons e es ih =>
    obtain ⟨b, v⟩ := e
    by_cases hab : a = b
    · subst hab
      cases hk : keep a <;> simp [hk, ih]
    · have hab' : (a == b) = false := by simpa using hab
      cases hk : keep b <;> simp [hk, List.lookup_cons, hab', ih]

theorem node?_put (h : target ≠ []) (n : Node) (l : Location) :
    (d.put target n).node? l = if l = target then some n else d.node? l := by
  unfold node? put
  by_cases hl : l = []
  · rw [if_pos hl, if_pos hl, if_neg (fun e => h (e.symm.trans hl))]
  rw [if_neg hl, if_neg hl, List.lookup_cons, lookup_filter (fun k => k != target)]
  by_cases ht : l = target
  · simp [ht]
  · have ht' : (l == target) = false := by simpa using ht
    simp [ht, ht']

theorem node?_erase (h : target ≠ []) (l : Location) :
    (d.erase target).node? l = if target.isPrefixOf l then none else d.node? l := by
  unfold node? erase
  by_cases hl : l = []
  · subst hl
    cases target with
    | nil => exact absurd rfl h
    | cons a t => rfl
  rw [if_neg hl, if_neg hl, lookup_filter (fun k => !target.isPrefixOf k)]
  cases target.isPrefixOf l <;> rfl

/-! ## Following a path -/

/-- Follows one piece of a path from a place. -/
def enter (d : Disk) (l : Location) (piece : List Char) : Except Fault Location :=
  match d.node? l with
  | none => .error .notFound
  | some (.file _) => .error .notADirectory
  | some .directory =>
    if piece = [] || piece = ['.'] then .ok l
    else if piece = ['.', '.'] then .ok l.dropLast
    else if 255 < (String.ofList piece).utf8ByteSize then .error .nameTooLong
    else if (d.node? (l ++ [String.ofList piece])).isNone then .error .notFound
    else .ok (l ++ [String.ofList piece])

theorem enter_nil : d.enter l [] = .ok loc ↔ d.node? l = some .directory ∧ loc = l := by
  unfold enter
  cases d.node? l with
  | none => simp
  | some n => cases n <;> simp [eq_comm]

/-- A name leads to what the directory holds under it. -/
theorem enter_name_iff {piece : List Char} (hdir : d.node? l = some .directory)
    (hne : piece ≠ []) (hdot : piece ≠ ['.']) (hdots : piece ≠ ['.', '.']) :
    d.enter l piece = .ok loc ↔ ¬ 255 < (String.ofList piece).utf8ByteSize ∧
      (d.node? (l ++ [String.ofList piece])).isSome ∧ loc = l ++ [String.ofList piece] := by
  unfold enter
  rw [hdir]
  simp only [hne, hdot, hdots, decide_false, Bool.or_self, Bool.false_eq_true, if_false]
  by_cases hlong : 255 < (String.ofList piece).utf8ByteSize
  · simp [hlong]
  · cases d.node? (l ++ [String.ofList piece]) <;> simp [hlong, eq_comm]

/-- **A path is followed piece by piece.** -/
theorem walk_eq_enter (piece : List Char) (rest : List (List Char)) :
    d.walk l (piece :: rest) =
      match d.enter l piece with
      | .error f => .error f
      | .ok m => d.walk m rest := by
  rw [walk]
  unfold enter
  cases d.node? l with
  | none => rfl
  | some n =>
    cases n with
    | file content => rfl
    | directory =>
      dsimp only
      split
      · rfl
      · split
        · rfl
        · split
          · rfl
          · split <;> rfl

theorem walk_cons {piece : List Char} {rest : List (List Char)} :
    d.walk l (piece :: rest) = .ok loc ↔
      ∃ m, d.enter l piece = .ok m ∧ d.walk m rest = .ok loc := by
  rw [walk_eq_enter]
  cases d.enter l piece <;> simp

theorem walk_append {ps qs : List (List Char)} :
    d.walk l (ps ++ qs) = .ok loc ↔ ∃ m, d.walk l ps = .ok m ∧ d.walk m qs = .ok loc := by
  induction ps generalizing l with
  | nil => simp [walk]
  | cons piece rest ih =>
    rw [List.cons_append, walk_cons]
    constructor
    · rintro ⟨m, hm, h⟩
      obtain ⟨n, hn, h⟩ := ih.1 h
      exact ⟨n, walk_cons.2 ⟨m, hm, hn⟩, h⟩
    · rintro ⟨n, hn, h⟩
      obtain ⟨m, hm, hn⟩ := walk_cons.1 hn
      exact ⟨m, hm, ih.2 ⟨n, hn, h⟩⟩

/-- A path that goes on is followed from a directory. -/
theorem node?_of_enter {piece : List Char} (h : d.enter l piece = .ok loc) :
    d.node? l = some .directory := by
  unfold enter at h
  split at h
  · exact absurd h (by simp)
  · exact absurd h (by simp)
  · assumption

/-- A trailing empty piece asks for a directory. -/
theorem walk_concat_nil {ps : List (List Char)} (h : d.walk l (ps ++ [[]]) = .ok loc) :
    d.walk l ps = .ok loc ∧ d.node? loc = some .directory := by
  obtain ⟨m, hm, h⟩ := walk_append.1 h
  obtain ⟨n, hn, h⟩ := walk_cons.1 h
  cases h
  obtain ⟨hd, rfl⟩ := enter_nil.1 hn
  exact ⟨hm, hd⟩

/-- Empty pieces make no difference to a path that ends at a directory. -/
theorem walk_filter {ps : List (List Char)}
    (h : d.walk l (ps.filter (· != []) ++ [[]]) = .ok loc) : d.walk l (ps ++ [[]]) = .ok loc := by
  induction ps generalizing l with
  | nil => exact h
  | cons piece rest ih =>
    rw [List.cons_append, walk_cons]
    by_cases hp : piece = []
    · rw [List.filter_cons_of_neg (by simp [hp])] at h
      have hrest := ih h
      -- whatever comes next is followed from the same place
      have hl : d.node? l = some .directory := by
        obtain ⟨q, qs, hq⟩ := List.exists_cons_of_ne_nil (by simp : rest ++ [[]] ≠ [])
        rw [hq] at hrest
        obtain ⟨m, hm, -⟩ := walk_cons.1 hrest
        exact node?_of_enter hm
      exact ⟨l, by rw [hp]; exact enter_nil.2 ⟨hl, rfl⟩, hrest⟩
    · rw [List.filter_cons_of_pos (by simp [hp]), List.cons_append, walk_cons] at h
      obtain ⟨m, hm, h⟩ := h
      exact ⟨m, hm, ih h⟩

/-- Whatever is on the first disk is on the second one too, and its directories are still such. -/
structure Grows (d d' : Disk) : Prop where
  missing : ∀ l, (d'.node? l).isNone → (d.node? l).isNone
  directories : ∀ l, d.node? l = some .directory → d'.node? l = some .directory

theorem enter_mono (h : Grows d d') {piece : List Char} (hl : d.enter l piece = .ok loc) :
    d'.enter l piece = .ok loc := by
  have hd := node?_of_enter hl
  unfold enter at hl ⊢
  rw [hd] at hl
  rw [h.directories l hd]
  dsimp only at hl ⊢
  split at hl
  · rwa [if_pos ‹_›]
  rw [if_neg ‹_›]
  split at hl
  · rwa [if_pos ‹_›]
  rw [if_neg ‹_›]
  split at hl
  · exact absurd hl (by simp)
  rw [if_neg ‹_›]
  split at hl
  · exact absurd hl (by simp)
  · rename_i hn
    rwa [if_neg fun e => hn (h.missing _ e)]

/-- **A path is followed alike on a disk that has grown.** -/
theorem walk_mono (h : Grows d d') {ps : List (List Char)} (hl : d.walk l ps = .ok loc) :
    d'.walk l ps = .ok loc := by
  induction ps generalizing l with
  | nil => exact hl
  | cons piece rest ih =>
    obtain ⟨m, hm, hl⟩ := walk_cons.1 hl
    exact walk_cons.2 ⟨m, enter_mono h hm, ih hl⟩

theorem grows_put (h : target ≠ []) (hd : d.node? target ≠ some .directory) (n : Node) :
    Grows d (d.put target n) := by
  constructor
  · intro l hl
    rw [node?_put h] at hl
    by_cases ht : l = target
    · rw [if_pos ht] at hl; exact absurd hl (by simp)
    · rwa [if_neg ht] at hl
  · intro l hl
    rw [node?_put h, if_neg]
    · exact hl
    · rintro rfl; exact hd hl

theorem grows_erase (h : target ≠ []) : Grows (d.erase target) d := by
  constructor
  · intro l hl
    rw [node?_erase h]
    split
    · rfl
    · exact hl
  · intro l hl
    rw [node?_erase h] at hl
    split at hl
    · exact absurd hl (by simp)
    · exact hl

/-! ## Making directories -/

theorem Grows.refl : Grows d d := ⟨fun _ h => h, fun _ h => h⟩

theorem Grows.trans (h : Grows d d') (h' : Grows d' d'') : Grows d d'' :=
  ⟨fun l hl => h.missing l (h'.missing l hl), fun l hl => h'.directories l (h.directories l hl)⟩

theorem grows_createDirectory (h : d.createDirectory p = .ok d') : Grows d d' ∧ d'.cwd = d.cwd := by
  unfold createDirectory at h
  split at h
  · cases h
  · cases h
  · rename_i target _
    split at h
    · cases h
    · rename_i hnone
      cases h
      have hne : target ≠ [] := by rintro rfl; exact hnone rfl
      refine ⟨grows_put hne ?_ _, rfl⟩
      intro hdir
      rw [hdir] at hnone
      exact hnone rfl

/-- **Making directories takes nothing away**, whether it succeeds or not. -/
theorem grows_createChain (d : Disk) (ps : List Path) :
    Grows d (d.createChain ps).2 ∧ (d.createChain ps).2.cwd = d.cwd := by
  induction ps with
  | nil => exact ⟨.refl, rfl⟩
  | cons p parents ih =>
    rw [createChain]
    split
    · exact ⟨.refl, rfl⟩
    split
    · exact grows_createDirectory ‹_›
    · -- the directories before it are made first
      split
      · rename_i hchain; rw [hchain] at ih; exact ih
      · rename_i d' hchain
        rw [hchain] at ih
        split
        · rename_i hmade
          obtain ⟨hgrow, hcwd⟩ := grows_createDirectory hmade
          exact ⟨ih.1.trans hgrow, hcwd.trans ih.2⟩
        · split <;> exact ih
    · split <;> exact ⟨.refl, rfl⟩

theorem grows_createDirectories (h : d.createDirectories p = (.ok (), d')) :
    Grows d d' ∧ d'.cwd = d.cwd := by
  have hchain := grows_createChain d p.ancestors
  unfold createDirectories at h
  rw [h] at hchain
  exact hchain

/-! ## Writing -/

/-- The parts of a path: its pieces that are not empty. -/
def parts (p : Path) : List (List Char) := (Text.pieces '/' p.text.toList).filter (· != [])

theorem ne_nil_of_mem_parts {piece : List Char} (h : piece ∈ parts p) : piece ≠ [] := by
  simpa using (List.mem_filter.1 h).2

/-- **Where an entry lies**: in the directory that all parts of the path but the last lead to. -/
theorem locateEntry_some (h : d.locateEntry p = .ok (some target)) :
    refusal? p = none ∧ ∃ init last loc, parts p = init ++ [last] ∧
      target = loc ++ [String.ofList last] ∧ d.walk (d.origin p) (init ++ [[]]) = .ok loc ∧
      last ≠ [] ∧ last ≠ ['.'] ∧ last ≠ ['.', '.'] ∧ ¬ 255 < (String.ofList last).utf8ByteSize := by
  unfold locateEntry at h
  split at h
  · cases h
  rename_i hr
  refine ⟨hr, ?_⟩
  dsimp only at h
  split at h
  · cases h
  rename_i loc hw
  split at h
  · cases h
  rename_i last hlast
  split at h
  · cases h
  rename_i hdots
  split at h
  · cases h
  rename_i hlong
  cases h
  simp only [Bool.or_eq_true, decide_eq_true_eq, not_or] at hdots
  obtain ⟨init, hinit⟩ := List.getLast?_eq_some_iff.1 hlast
  have hne : last ≠ [] := ne_nil_of_mem_parts (List.mem_of_getLast? hlast)
  rw [hinit, List.dropLast_concat] at hw
  exact ⟨init, last, loc, hinit, rfl, hw, hne, hdots.1, hdots.2, hlong⟩

/-- A path that ends in a name is cut before the name. -/
theorem locateEntry_spec {init : List (List Char)} {last : List Char}
    (hp : Text.pieces '/' p.text.toList = init ++ [last]) (hlast : last ≠ [])
    (h : d.locateEntry p = .ok (some target)) :
    refusal? p = none ∧ ∃ loc, target = loc ++ [String.ofList last] ∧
      d.walk (d.origin p) (init ++ [[]]) = .ok loc ∧
      last ≠ ['.'] ∧ last ≠ ['.', '.'] ∧ ¬ 255 < (String.ofList last).utf8ByteSize := by
  obtain ⟨hr, init', last', loc, hparts, rfl, hw, -, hdot, hdots, hlong⟩ := locateEntry_some h
  rw [parts, hp, List.filter_append, List.filter_cons_of_pos (by simp [hlast]),
    List.filter_nil] at hparts
  obtain ⟨rfl, hcut⟩ := List.append_inj' hparts rfl
  cases hcut
  exact ⟨hr, loc, rfl, walk_filter hw, hdot, hdots, hlong⟩

/-- A file is written where no directory is. -/
theorem write_spec (h : d.write p content = .ok d') :
    ∃ target, d.locateEntry p = .ok (some target) ∧ target ≠ [] ∧
      d.node? target ≠ some .directory ∧ d' = d.put target (.file content) := by
  unfold write at h
  split at h
  · cases h
  · cases h
  rename_i target ht
  obtain ⟨-, init, last, loc, -, htarget, -⟩ := locateEntry_some ht
  split at h
  · cases h
  rename_i hn
  simp only [Bool.or_eq_true, decide_eq_true_eq, not_or] at hn
  cases h
  exact ⟨target, ht, by simp [htarget], hn.1, rfl⟩

/-- **What is written is read back**, when the path ends in a name. -/
theorem read_write {init : List (List Char)} {last : List Char} {content : List UInt8}
    (hp : Text.pieces '/' p.text.toList = init ++ [last]) (hlast : last ≠ [])
    (h : d.write p content = .ok d') : d'.read p = .ok content := by
  obtain ⟨target, ht, hne, hnd, rfl⟩ := write_spec h
  obtain ⟨hr, loc, rfl, hw, hdot, hdots, hlong⟩ := locateEntry_spec hp hlast ht
  -- the way to the file is still there, and the file is at its end
  have hgrow := grows_put hne hnd (.file content)
  obtain ⟨hinit, hdir⟩ := walk_concat_nil (walk_mono hgrow hw)
  have hfile : (d.put (loc ++ [String.ofList last]) (.file content)).node?
      (loc ++ [String.ofList last]) = some (.file content) := by rw [node?_put hne, if_pos rfl]
  have henter : (d.put (loc ++ [String.ofList last]) (.file content)).enter loc last =
      .ok (loc ++ [String.ofList last]) :=
    (enter_name_iff hdir hlast hdot hdots).2 ⟨hlong, by rw [hfile]; rfl, rfl⟩
  have hlocate : (d.put (loc ++ [String.ofList last]) (.file content)).locate p =
      .ok (loc ++ [String.ofList last]) := by
    unfold locate
    rw [hr]
    dsimp only
    rw [hp]
    exact walk_append.2 ⟨loc, hinit, walk_cons.2 ⟨_, henter, rfl⟩⟩
  unfold read stat
  simp only [hlocate, hfile]

/-- Whether a file can be written does not depend on what is written. -/
theorem write_succeeds (h : d.write p content = .ok d') (content' : List UInt8) :
    ∃ d'', d.write p content' = .ok d'' := by
  unfold write at h ⊢
  split at h
  · cases h
  · cases h
  · split at h
    · cases h
    · rename_i hn
      rw [if_neg hn]
      exact ⟨_, rfl⟩

/-- **Writing at a path that leads somewhere** puts the file there, where no directory was. -/
theorem write_of_locate {init : List (List Char)} {last : List Char}
    (hp : Text.pieces '/' p.text.toList = init ++ [last]) (hlast : last ≠ [])
    (h : d.write p content = .ok d') (hloc : d.locate p = .ok loc) :
    d.node? loc ≠ some .directory ∧ d' = d.put loc (.file content) := by
  obtain ⟨target, ht, hne, hnd, rfl⟩ := write_spec h
  obtain ⟨hr, l, rfl, hw, hdot, hdots, hlong⟩ := locateEntry_spec hp hlast ht
  unfold locate at hloc
  rw [hr, hp] at hloc
  obtain ⟨m, hinit, hloc⟩ := walk_append.1 hloc
  obtain ⟨n, henter, hnil⟩ := walk_cons.1 hloc
  cases hnil
  obtain ⟨hinit', hdir⟩ := walk_concat_nil hw
  rw [hinit'] at hinit
  cases hinit
  obtain ⟨-, -, rfl⟩ := (enter_name_iff hdir hlast hdot hdots).1 henter
  exact ⟨hnd, rfl⟩

/-! ## Removing -/

theorem pathExists_of_read {content : List UInt8} (h : d.read p = .ok content) :
    d.pathExists p = true := by
  unfold read at h
  unfold pathExists
  cases hs : d.stat p with
  | error f => rw [hs] at h; exact absurd h (by simp)
  | ok n => rfl

theorem cwd_removeFile (h : d.removeFile p = .ok d') : d'.cwd = d.cwd := by
  unfold removeFile at h
  split at h
  · cases h
  · split at h <;> cases h
    rfl

/-- **What is removed is no longer there.** -/
theorem pathExists_removeFile (h : d.removeFile p = .ok d') : d'.pathExists p = false := by
  unfold removeFile at h
  split at h
  · exact absurd h (by simp)
  rename_i target ht
  split at h
  · rename_i content hn
    cases h
    have hne : target ≠ [] := by rintro rfl; exact absurd hn (by simp [node?])
    have hgone : (d.erase target).node? target = none := by
      rw [node?_erase hne, if_pos (by simp)]
    unfold pathExists stat
    cases hl : (d.erase target).locate p with
    | error f => rfl
    | ok loc =>
      -- the path would lead to the same place as before
      have hsame : d.locate p = .ok loc := by
        unfold locate at hl ⊢
        cases hr : refusal? p with
        | some f => rw [hr] at hl; exact absurd hl (by simp)
        | none => rw [hr] at hl; exact walk_mono (grows_erase hne) hl
      rw [ht] at hsame
      cases hsame
      simp only [hgone]
  · exact absurd h (by simp)
  · exact absurd h (by simp)

/-- **A file that can be written can be removed** if it is there, also where directories are made
before it is written. -/
theorem removeFile_of_write {init : List (List Char)} {last : List Char}
    (hp : Text.pieces '/' p.text.toList = init ++ [last]) (hlast : last ≠ [])
    (hgrow : Grows d d') (hcwd : d'.cwd = d.cwd) (h : d'.write p content = .ok d'')
    (hexists : d.pathExists p = true) : ∃ d₁, d.removeFile p = .ok d₁ := by
  unfold pathExists stat at hexists
  cases hloc : d.locate p with
  | error f => rw [hloc] at hexists; exact absurd hexists (by simp)
  | ok loc =>
    rw [hloc] at hexists
    have hloc' : d'.locate p = .ok loc := by
      unfold locate origin at hloc ⊢
      rw [hcwd]
      split at hloc
      · cases hloc
      · exact walk_mono hgrow hloc
    have hnot := (write_of_locate hp hlast h hloc').1
    unfold removeFile
    rw [hloc]
    dsimp only at hexists ⊢
    cases hn : d.node? loc with
    | none => rw [hn] at hexists; exact absurd hexists (by simp)
    | some n =>
      cases n with
      | file content => exact ⟨_, rfl⟩
      | directory => exact absurd (hgrow.directories loc hn) hnot

end BuildDiagnostics.Disk
