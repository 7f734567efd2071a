import BuildDiagnostics.Proofs.WrittenFile

/-!
# Directories that are there

Making a directory that is there changes nothing, and a directory that was made is there. So the
directories of a path are made once: asked for again, also after a file was written, they are found.

* `isDirectory_iff`: a path names a directory if its parts can be followed to one.
* `createDirectories_of_isDirectory`: a directory that is there is not made again.
* `isDirectory_createDirectories`: a directory that was made is there.
* `write_again`: a file that was written can be written again.
* `Alike`: what the disk answers when it is asked for a path, and on which disks it answers the same
  (`alike_of_grows`).
-/

namespace BuildDiagnostics.Disk

variable {d d' d'' : Disk} {l loc target : Location} {p : Path} {content : List UInt8}

/-! ## Following a path to a directory -/

theorem walk_concat_nil_iff {ps : List (List Char)} : d.walk l (ps ++ [[]]) = .ok loc ↔
    d.walk l ps = .ok loc ∧ d.node? loc = some .directory := by
  constructor
  · exact walk_concat_nil
  · rintro ⟨hw, hdir⟩
    exact walk_append.2 ⟨loc, hw, walk_cons.2 ⟨loc, enter_nil.2 ⟨hdir, rfl⟩, rfl⟩⟩

/-- Empty pieces make no difference to a path that ends at a directory. -/
theorem walk_filter_iff {ps : List (List Char)} :
    d.walk l (ps.filter (· != []) ++ [[]]) = .ok loc ↔ d.walk l (ps ++ [[]]) = .ok loc := by
  refine ⟨walk_filter, ?_⟩
  induction ps generalizing l with
  | nil => exact id
  | cons piece rest ih =>
    intro h
    obtain ⟨m, hm, h⟩ := walk_cons.1 h
    by_cases hp : piece = []
    · rw [hp, enter_nil] at hm
      rw [List.filter_cons_of_neg (by simp [hp])]
      rw [hm.2] at h
      exact ih h
    · rw [List.filter_cons_of_pos (by simp [hp])]
      exact walk_cons.2 ⟨m, hm, ih h⟩

theorem locate_iff : d.locate p = .ok loc ↔
    refusal? p = none ∧ d.walk (d.origin p) (Text.pieces '/' p.text.toList) = .ok loc := by
  unfold locate
  cases refusal? p <;> simp

/-- **A path names a directory** if its parts can be followed to one. -/
theorem isDirectory_iff : d.isDirectory p = true ↔
    refusal? p = none ∧ ∃ loc, d.walk (d.origin p) (parts p ++ [[]]) = .ok loc := by
  have hstat : d.isDirectory p = true ↔
      ∃ loc, d.locate p = .ok loc ∧ d.node? loc = some .directory := by
    unfold isDirectory stat
    cases d.locate p with
    | error f => simp
    | ok loc =>
      cases hn : d.node? loc with
      | none => simp [hn]
      | some n => cases n <;> simp [hn]
  rw [hstat, parts]
  simp only [walk_filter_iff]
  simp only [walk_concat_nil_iff, locate_iff, and_assoc, exists_and_left]

theorem isDirectory_mono (h : Grows d d') (hcwd : d'.cwd = d.cwd) (hdir : d.isDirectory p = true) :
    d'.isDirectory p = true := by
  obtain ⟨hr, loc, hw⟩ := isDirectory_iff.1 hdir
  refine isDirectory_iff.2 ⟨hr, loc, ?_⟩
  rw [origin, hcwd]
  exact walk_mono h hw

/-! ## Making a directory -/

theorem locateEntry_mono (h : Grows d d') (hcwd : d'.cwd = d.cwd)
    (he : d.locateEntry p = .ok (some target)) : d'.locateEntry p = .ok (some target) := by
  unfold locateEntry origin at he ⊢
  rw [hcwd]
  split at he
  · cases he
  dsimp only at he ⊢
  split at he
  · cases he
  · rename_i hw
    rw [walk_mono h hw]
    exact he

/-- **A directory that is there is not made again.** -/
theorem createDirectory_of_isDirectory (h : d.isDirectory p = true) :
    d.createDirectory p = .error .alreadyExists := by
  obtain ⟨hr, loc, hw⟩ := isDirectory_iff.1 h
  have hentry : d.locateEntry p = .ok none ∨
      ∃ target, d.locateEntry p = .ok (some target) ∧ (d.node? target).isSome := by
    unfold locateEntry
    rw [hr]
    dsimp only
    rcases List.eq_nil_or_concat (parts p) with hparts | ⟨init, last, hparts⟩
    · rw [hparts] at hw
      unfold parts at hparts
      rw [hparts]
      left
      simp only [List.dropLast_nil, hw, List.getLast?_nil]
    · have hne : last ≠ [] := ne_nil_of_mem_parts (p := p) (by rw [hparts]; simp)
      rw [hparts, List.concat_eq_append] at hw
      unfold parts at hparts
      rw [hparts, List.concat_eq_append, List.dropLast_concat, List.getLast?_concat]
      obtain ⟨n, hn, -⟩ := walk_append.1 hw
      obtain ⟨m, hm, hn⟩ := walk_append.1 hn
      obtain ⟨n', henter, hnil⟩ := walk_cons.1 hn
      cases hnil
      have hdir := node?_of_enter henter
      rw [walk_concat_nil_iff.2 ⟨hm, hdir⟩]
      dsimp only
      split
      · exact .inl rfl
      · -- the last part was followed, so it names something there
        rename_i hdots
        simp only [Bool.or_eq_true, decide_eq_true_eq, not_or] at hdots
        obtain ⟨hlong, hthere, -⟩ := (enter_name_iff hdir hne hdots.1 hdots.2).1 henter
        rw [if_neg hlong]
        exact .inr ⟨_, rfl, hthere⟩
  unfold createDirectory
  rcases hentry with hentry | ⟨target, hentry, hsome⟩
  · rw [hentry]
  · simp only [hentry, hsome, if_true]

/-- **A directory that was made is there.** -/
theorem isDirectory_createDirectory (h : d.createDirectory p = .ok d') :
    d'.isDirectory p = true := by
  obtain ⟨hgrow, hcwd⟩ := grows_createDirectory h
  unfold createDirectory at h
  split at h
  · cases h
  · cases h
  rename_i target hentry
  obtain ⟨hr, init, last, loc, hparts, rfl, hw, hne, hdot, hdots, hlong⟩ := locateEntry_some hentry
  split at h
  · cases h
  cases h
  have hmade : (d.put (loc ++ [String.ofList last]) .directory).node?
      (loc ++ [String.ofList last]) = some .directory := by rw [node?_put (by simp), if_pos rfl]
  obtain ⟨hinit, hdir⟩ := walk_concat_nil (walk_mono hgrow hw)
  have henter : (d.put (loc ++ [String.ofList last]) .directory).enter loc last =
      .ok (loc ++ [String.ofList last]) :=
    (enter_name_iff hdir hne hdot hdots).2 ⟨hlong, by rw [hmade]; rfl, rfl⟩
  refine isDirectory_iff.2 ⟨hr, loc ++ [String.ofList last], ?_⟩
  rw [hparts]
  exact walk_concat_nil_iff.2
    ⟨walk_append.2 ⟨loc, hinit, walk_cons.2 ⟨_, henter, rfl⟩⟩, hmade⟩

/-! ## Making a directory and all that it lies in -/

theorem createDirectories_of_isDirectory (h : d.isDirectory p = true) :
    d.createDirectories p = (.ok (), d) := by
  unfold createDirectories Path.ancestors
  dsimp only
  rw [createChain]
  split
  · rfl
  · rw [createDirectory_of_isDirectory h]

theorem createDirectories_of_empty (h : p.text.isEmpty = true) :
    d.createDirectories p = (.ok (), d) := by
  unfold createDirectories Path.ancestors
  dsimp only
  rw [createChain, if_pos h]

/-- **A directory that was made is there**, with all that it lies in. -/
theorem isDirectory_createDirectories (hne : p.text.isEmpty = false)
    (h : d.createDirectories p = (.ok (), d')) : d'.isDirectory p = true := by
  unfold createDirectories Path.ancestors at h
  dsimp only at h
  rw [createChain, if_neg (by simp [hne])] at h
  split at h
  · rename_i hmade
    cases h
    exact isDirectory_createDirectory hmade
  · split at h
    · cases h
    · split at h
      · rename_i hmade
        cases h
        exact isDirectory_createDirectory hmade
      · split at h
        · rename_i hdir
          cases h
          exact hdir
        · cases h
  · split at h
    · rename_i hdir
      cases h
      exact hdir
    · cases h

/-- **Directories that were made are found again.** -/
theorem createDirectories_again (h : d.createDirectories p = (.ok (), d')) (hgrow : Grows d' d'')
    (hcwd : d''.cwd = d'.cwd) : d''.createDirectories p = (.ok (), d'') := by
  cases hne : p.text.isEmpty with
  | true => exact createDirectories_of_empty hne
  | false =>
    exact createDirectories_of_isDirectory
      (isDirectory_mono hgrow hcwd (isDirectory_createDirectories hne h))

/-! ## Writing a file again -/

theorem grows_write (h : d.write p content = .ok d') : Grows d d' ∧ d'.cwd = d.cwd := by
  obtain ⟨target, -, hne, hdir, rfl⟩ := write_spec h
  exact ⟨grows_put hne hdir _, rfl⟩

/-- **A file that was written can be written again.** -/
theorem write_again (h : d.write p content = .ok d') : ∃ d'', d'.write p content = .ok d'' := by
  obtain ⟨hgrow, hcwd⟩ := grows_write h
  obtain ⟨target, hentry, hne, -, rfl⟩ := write_spec h
  have hentry' := locateEntry_mono hgrow hcwd hentry
  have hfile : (d.put target (.file content)).node? target ≠ some .directory := by
    rw [node?_put hne, if_pos rfl]
    simp
  unfold write at h ⊢
  rw [hentry] at h
  rw [hentry']
  dsimp only at h ⊢
  split at h
  · cases h
  rename_i hn
  simp only [Bool.or_eq_true, decide_eq_true_eq, not_or] at hn
  rw [if_neg (by simp [hfile, hn.2])]
  exact ⟨_, rfl⟩

/-! ## The same answers -/

/-- The second disk answers as the first one when it is asked for a path. -/
structure Alike (d d' : Disk) (p : Path) : Prop where
  tryExists : d'.tryExists p = d.tryExists p
  isFile : d'.isFile p = d.isFile p

section Both

variable (h : Grows d d') (h' : Grows d' d)

include h h'

theorem isNone_of_grows (l : Location) : (d'.node? l).isNone = (d.node? l).isNone := by
  rw [Bool.eq_iff_iff]
  exact ⟨h.missing l, h'.missing l⟩

theorem directory_of_grows (l : Location) :
    d'.node? l = some .directory ↔ d.node? l = some .directory :=
  ⟨h'.directories l, h.directories l⟩

/-- What stands at a place is of the same kind. -/
theorem node?_of_grows (l : Location) :
    (d.node? l = none ∧ d'.node? l = none) ∨
      (d.node? l = some .directory ∧ d'.node? l = some .directory) ∨
      ∃ c c', d.node? l = some (.file c) ∧ d'.node? l = some (.file c') := by
  have hnone := isNone_of_grows h h' l
  have hdir := directory_of_grows h h' l
  cases hd : d.node? l with
  | none =>
    rw [hd] at hnone
    exact .inl ⟨rfl, by simpa using hnone⟩
  | some n =>
    cases n with
    | directory => exact .inr (.inl ⟨rfl, hdir.2 hd⟩)
    | file c =>
      rw [hd] at hnone hdir
      cases hd' : d'.node? l with
      | none => rw [hd'] at hnone; cases hnone
      | some n =>
        cases n with
        | directory => exact absurd (hdir.1 hd') (by simp)
        | file c' => exact .inr (.inr ⟨c, c', rfl, rfl⟩)

theorem walk_of_grows (l : Location) (ps : List (List Char)) : d'.walk l ps = d.walk l ps := by
  induction ps generalizing l with
  | nil => rfl
  | cons piece rest ih =>
    rw [walk, walk]
    rcases node?_of_grows h h' l with ⟨hd, hd'⟩ | ⟨hd, hd'⟩ | ⟨c, c', hd, hd'⟩ <;> rw [hd, hd']
    simp only [ih, isNone_of_grows h h']

/-- **Disks with the same things at the same places answer alike**, whatever the files hold. -/
theorem alike_of_grows (hcwd : d'.cwd = d.cwd) (p : Path) : Alike d d' p := by
  have hlocate : d'.locate p = d.locate p := by
    unfold locate origin
    rw [hcwd]
    cases refusal? p with
    | some f => rfl
    | none => exact walk_of_grows h h' _ _
  constructor
  case tryExists =>
    unfold tryExists stat
    rw [hlocate]
    cases d.locate p with
    | error f => rfl
    | ok loc =>
      rcases node?_of_grows h h' loc with ⟨hd, hd'⟩ | ⟨hd, hd'⟩ | ⟨c, c', hd, hd'⟩ <;>
        simp only [hd, hd']
  case isFile =>
    unfold isFile stat
    rw [hlocate]
    cases d.locate p with
    | error f => rfl
    | ok loc =>
      rcases node?_of_grows h h' loc with ⟨hd, hd'⟩ | ⟨hd, hd'⟩ | ⟨c, c', hd, hd'⟩ <;>
        simp only [hd, hd']

end Both

/-- **Writing over a file** adds nothing, and takes nothing away. -/
theorem grows_write_back {init : List (List Char)} {last : List Char}
    (hp : Text.pieces '/' p.text.toList = init ++ [last]) (hlast : last ≠ [])
    (h : d.write p content = .ok d') (hexists : d.pathExists p = true) : Grows d' d := by
  unfold pathExists stat at hexists
  cases hloc : d.locate p with
  | error f => rw [hloc] at hexists; cases hexists
  | ok loc =>
    obtain ⟨hnot, rfl⟩ := write_of_locate hp hlast h hloc
    have hthere : (d.node? loc).isNone = false := by
      rw [hloc] at hexists
      cases hn : d.node? loc with
      | none => simp [hn] at hexists
      | some n => rfl
    have hne : loc ≠ [] := by rintro rfl; exact hnot rfl
    constructor
    · intro l hl
      rw [node?_put hne]
      split
      · rename_i he
        rw [he, hthere] at hl
        cases hl
      · exact hl
    · intro l hl
      rw [node?_put hne] at hl
      split at hl
      · cases hl
      · exact hl

end BuildDiagnostics.Disk
