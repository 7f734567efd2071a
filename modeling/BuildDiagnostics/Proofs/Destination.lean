import BuildDiagnostics.Proofs.Directory
import BuildDiagnostics.Proofs.Lookup
import BuildDiagnostics.Proofs.Reduction

/-!
# The place that a path names

Disks hold files and directories only, so the place that a path names can be told from the path and
the place where it starts (`Disk.destination`). What is on the disk decides whether the path can be
followed there (`Passable`): each place on the way has to be a directory.

* `foldl_lead`: the place, by the reduction of the path.
* `passable_reduced`: where a path can be followed, what is left of it can be followed as well.
* `locate_destination`, `locateEntry_destination`: a path that is followed leads to its place.
* `normalize_keeps_place_iff`: what `normalize` makes of a path, and when that names the same place.
-/

namespace BuildDiagnostics

open BuildDiagnostics.Path (Component Reduced anchor climb written)

/-- The place to which a component leads from a place. -/
def Path.Component.lead (l : Location) : Component → Location
  | .root => []
  | .here => l
  | .up => l.dropLast
  | .name s => l ++ [s]

namespace Disk

variable {d : Disk} {l loc m : Location} {p : Path} {c : Component} {cs : List Component}

/-- The place that a path names, whether there is something or not. -/
def destination (d : Disk) (p : Path) : Location := p.components.foldl Component.lead d.cwd

theorem destination_eq (d : Disk) (p : Path) :
    d.destination p = p.rest.foldl Component.lead (d.origin p) := by
  unfold destination origin
  rcases Path.components_eq p with hc | ⟨habs, hc⟩
  · rw [hc, List.foldl_append]
    cases p.isAbsolute <;> rfl
  · rw [hc, habs]
    rfl

/-- **Components lead up** as often as a `..` finds no name, **and down** along the names that are
left. -/
theorem foldl_lead (h : ∀ c ∈ cs, c.Plain) (l : Location) : cs.foldl Component.lead l =
    l.take (l.length - (Reduced.of cs).ups) ++ (Reduced.of cs).names := by
  induction cs using List.reverseRecOn with
  | nil => simp [Reduced.of]
  | append_singleton cs c ih =>
    rw [List.foldl_concat, ih fun b hb => h b (List.mem_append_left _ hb), Reduced.of_concat]
    rcases (Reduced.of cs).add_cases (h c (by simp)) with
      ⟨rfl, hn, hadd⟩ | ⟨init, s, rfl, hn, hadd⟩ | ⟨s, rfl, hadd⟩
    · rw [hn, hadd, List.append_nil, List.append_nil]
      simp only [Component.lead, List.dropLast_eq_take, List.take_take, List.length_take]
      congr 1
      omega
    · rw [hn, hadd, ← List.append_assoc]
      exact List.dropLast_concat
    · rw [hadd, ← List.append_assoc]
      rfl

theorem foldl_lead_names (l : Location) (names : List String) :
    (names.map Component.name).foldl Component.lead l = l ++ names := by
  induction names generalizing l with
  | nil => simp
  | cons s names ih =>
    rw [List.map_cons, List.foldl_cons, ih]
    simp [Component.lead]

/-! ## Following a path -/

/-- The disk lets a component through, from a directory: what is named is there. -/
def Admits (d : Disk) (l : Location) : Component → Prop
  | .name s => ¬ 255 < s.utf8ByteSize ∧ (d.node? (l ++ [s])).isSome
  | _ => True

/-- Components can be followed: each leads on from a directory. -/
def Passable (d : Disk) (l : Location) : List Component → Prop
  | [] => True
  | c :: cs => d.node? l = some .directory ∧ d.Admits l c ∧ d.Passable (c.lead l) cs

theorem passable_append {ds : List Component} : d.Passable l (cs ++ ds) ↔
    d.Passable l cs ∧ d.Passable (cs.foldl Component.lead l) ds := by
  induction cs generalizing l with
  | nil => simp [Passable]
  | cons c cs ih => simp only [List.cons_append, Passable, ih, List.foldl_cons, and_assoc]

theorem passable_concat : d.Passable l (cs ++ [c]) ↔ d.Passable l cs ∧
    d.node? (cs.foldl Component.lead l) = some .directory ∧
      d.Admits (cs.foldl Component.lead l) c := by
  rw [passable_append]
  simp only [Passable, and_true]

/-- **What is left of a path can be followed** where the path can: it passes through places where
the path has passed. -/
theorem passable_reduced (h : ∀ c ∈ cs, c.Plain) (hcs : d.Passable l cs) :
    d.Passable (l.take (l.length - (Reduced.of cs).ups))
      ((Reduced.of cs).names.map Component.name) := by
  induction cs using List.reverseRecOn with
  | nil => trivial
  | append_singleton cs c ih =>
    have hinit : ∀ c ∈ cs, c.Plain := fun b hb => h b (List.mem_append_left _ hb)
    obtain ⟨hcs, hdir, hadmits⟩ := passable_concat.1 hcs
    have hnames := ih hinit hcs
    rw [foldl_lead hinit] at hdir hadmits
    rw [Reduced.of_concat]
    rcases (Reduced.of cs).add_cases (h c (by simp)) with
      ⟨rfl, hn, hadd⟩ | ⟨init, s, rfl, hn, hadd⟩ | ⟨s, rfl, hadd⟩
    · rw [hadd]
      trivial
    · rw [hn, List.map_append] at hnames
      rw [hadd]
      exact (passable_append.1 hnames).1
    · rw [hadd, List.map_append]
      refine passable_concat.2 ⟨hnames, ?_⟩
      rw [foldl_lead_names]
      exact ⟨hdir, hadmits⟩

theorem enter_piece_iff (h : c.Plain) : d.enter l c.piece = .ok loc ↔
    d.node? l = some .directory ∧ d.Admits l c ∧ loc = c.lead l := by
  cases c with
  | root | here => exact h.elim
  | up =>
    unfold enter Component.piece Component.text
    cases d.node? l with
    | none => simp
    | some n => cases n <;> simp [Admits, Component.lead, eq_comm (a := loc)]
  | name s =>
    have hdots := h.not_up
    constructor
    · intro he
      have hdir := node?_of_enter he
      obtain ⟨hlong, hthere, hloc⟩ := (enter_name_iff hdir h.ne_nil h.not_here hdots).1 he
      rw [String.ofList_toList] at hlong hthere hloc
      exact ⟨hdir, ⟨hlong, hthere⟩, hloc⟩
    · rintro ⟨hdir, ⟨hlong, hthere⟩, hloc⟩
      refine (enter_name_iff hdir h.ne_nil h.not_here hdots).2 ?_
      rw [String.ofList_toList]
      exact ⟨hlong, hthere, hloc⟩

/-- A piece that stands for no component does not lead on. -/
theorem enter_of_ofPiece?_none {s : List Char} (hs : Component.ofPiece? s = none)
    (h : d.enter l s = .ok loc) : loc = l := by
  have hdir := node?_of_enter h
  unfold Component.ofPiece? at hs
  split at hs
  · rename_i hdot
    unfold enter at h
    rw [hdir] at h
    simp only [hdot, if_true] at h
    cases h
    rfl
  · split at hs <;> cases hs

/-- **A path that is followed** passes through directories, and leads where its components lead. -/
theorem walk_spec {ps : List (List Char)} (hps : ∀ s ∈ ps, '/' ∉ s) (h : d.walk l ps = .ok loc) :
    d.Passable l (ps.filterMap Component.ofPiece?) ∧
      loc = (ps.filterMap Component.ofPiece?).foldl Component.lead l := by
  induction ps generalizing l with
  | nil =>
    cases h
    exact ⟨trivial, rfl⟩
  | cons s ps ih =>
    obtain ⟨m, hm, h⟩ := walk_cons.1 h
    obtain ⟨hpass, hloc⟩ := ih (fun t ht => hps t (List.mem_cons_of_mem _ ht)) h
    cases hs : Component.ofPiece? s with
    | none =>
      rw [List.filterMap_cons_none hs]
      rw [enter_of_ofPiece?_none hs hm] at hpass hloc
      exact ⟨hpass, hloc⟩
    | some c =>
      obtain ⟨hc, rfl⟩ := Path.Component.plain_of_ofPiece? (hps s List.mem_cons_self) hs
      obtain ⟨hdir, hadmits, rfl⟩ := (enter_piece_iff hc).1 hm
      rw [List.filterMap_cons_some hs]
      exact ⟨⟨hdir, hadmits, hpass⟩, hloc⟩

/-- **Components that can be followed are followed.** -/
theorem walk_of_passable (hcs : ∀ c ∈ cs, c.Plain) (h : d.Passable l cs) :
    d.walk l (cs.map Component.piece) = .ok (cs.foldl Component.lead l) := by
  induction cs generalizing l with
  | nil => rfl
  | cons c cs ih =>
    obtain ⟨hdir, hadmits, hrest⟩ := h
    rw [List.map_cons, walk_cons]
    exact ⟨c.lead l, (enter_piece_iff (hcs c List.mem_cons_self)).2 ⟨hdir, hadmits, rfl⟩,
      ih (fun b hb => hcs b (List.mem_cons_of_mem _ hb)) hrest⟩

/-! ## Locating a path -/

/-- **A path leads to its place.** -/
theorem locate_destination (h : d.locate p = .ok loc) :
    d.Passable (d.origin p) p.rest ∧ loc = d.destination p := by
  obtain ⟨-, hw⟩ := locate_iff.1 h
  rw [destination_eq]
  exact walk_spec (fun s hs => Text.not_mem_of_mem_pieces hs) hw

/-- **An entry lies at the place of its path**, in a directory. -/
theorem locateEntry_destination (h : d.locateEntry p = .ok (some loc)) :
    ∃ cs s, p.rest = cs ++ [.name s] ∧ d.Passable (d.origin p) cs ∧
      d.node? (cs.foldl Component.lead (d.origin p)) = some .directory ∧
      ¬ 255 < s.utf8ByteSize ∧ loc = d.destination p := by
  obtain ⟨-, init, last, m, hparts, rfl, hw, hne, hdot, hdots, hlong⟩ := locateEntry_some h
  obtain ⟨hw, hdir⟩ := walk_concat_nil_iff.1 hw
  have hslash : ∀ s ∈ parts p, '/' ∉ s := fun s hs =>
    Text.not_mem_of_mem_pieces (List.mem_of_mem_filter hs)
  have hrest : p.rest = (parts p).filterMap Component.ofPiece? := by
    unfold parts Path.rest
    rw [List.filterMap_filter]
    refine List.filterMap_congr fun s _ => ?_
    split
    · rfl
    · rename_i hs
      rw [show s = [] by simpa using hs]
      rfl
  have hlast : Component.ofPiece? last = some (.name (String.ofList last)) := by
    unfold Component.ofPiece?
    rw [if_neg (by simp [hne, hdot]), if_neg hdots]
  obtain ⟨hpass, rfl⟩ := walk_spec (fun s hs => hslash s (by rw [hparts]; simp [hs])) hw
  have hsplit : p.rest = init.filterMap Component.ofPiece? ++ [.name (String.ofList last)] := by
    rw [hrest, hparts, List.filterMap_append, List.filterMap_cons_some hlast]
    rfl
  refine ⟨_, _, hsplit, hpass, hdir, hlong, ?_⟩
  rw [destination_eq, hsplit, List.foldl_concat]
  rfl

/-! ## What `normalize` keeps -/

/-- Climbing as often as the remainder says leads from a place as far as climbing as often as a path
does. -/
def Keeps (l : Location) (ups : Nat) : Prop := ups ≤ 1 ∨ l.length ≤ ups % 2

theorem keeps_iff {ups : Nat} :
    Keeps l ups ↔ l.take (l.length - ups % 2) = l.take (l.length - ups) := by
  unfold Keeps
  constructor
  · intro h
    congr 1
    omega
  · intro h
    have hlength := congrArg List.length h
    simp only [List.length_take] at hlength
    omega

/-- **What `normalize` leaves can be followed** where the components can, if it climbs as far. -/
theorem passable_climb (h : ∀ c ∈ cs, c.Plain) (hcs : d.Passable l cs)
    (hkeeps : Keeps l (Reduced.of cs).ups) :
    d.Passable l (climb ((Reduced.of cs).ups % 2) (Reduced.of cs).names) := by
  have hnames := passable_reduced h hcs
  rw [← keeps_iff.1 hkeeps] at hnames
  rcases Nat.mod_two_eq_zero_or_one (Reduced.of cs).ups with hk | hk
  · rw [hk, Nat.sub_zero, List.take_length] at hnames
    rw [hk]
    exact hnames
  · rw [hk, ← List.dropLast_eq_take] at hnames
    rw [hk]
    -- the first component is followed from the place where the path starts
    have hdir : d.node? l = some .directory := by
      cases cs with
      | nil => cases hk
      | cons c cs => exact hcs.1
    exact ⟨hdir, trivial, hnames⟩

theorem foldl_lead_climb (h : ∀ c ∈ cs, c.Plain) (hkeeps : Keeps l (Reduced.of cs).ups)
    (hclimb : ∀ c ∈ climb ((Reduced.of cs).ups % 2) (Reduced.of cs).names, c.Plain) :
    (climb ((Reduced.of cs).ups % 2) (Reduced.of cs).names).foldl Component.lead l =
      cs.foldl Component.lead l := by
  rw [foldl_lead hclimb, foldl_lead h, Reduced.of_climb, keeps_iff.1 hkeeps]

theorem origin_normalize (d : Disk) (p : Path) : d.origin p.normalize = d.origin p := by
  unfold origin
  rw [Path.isAbsolute_normalize]

/-- **A normalized path names the same place** exactly if it climbs as far. -/
theorem destination_normalize_iff (d : Disk) (p : Path) :
    d.destination p.normalize = d.destination p ↔ Keeps (d.origin p) p.reduced.ups := by
  have hplace : ∀ q : Path, d.destination q =
      (d.origin q).take ((d.origin q).length - q.reduced.ups) ++ q.reduced.names := fun q => by
    rw [destination_eq, foldl_lead Path.plain_rest]
    rfl
  rw [hplace, hplace, origin_normalize, Path.reduced_normalize, keeps_iff]
  exact ⟨List.append_cancel_right, congrArg (· ++ _)⟩

/-- A path that is not refused is not refused when it is normalized, unless nothing is left. -/
theorem refusal?_normalize (h : refusal? p = none) (hne : p.normalize.text ≠ "") :
    refusal? p.normalize = none := by
  obtain ⟨hnul, -, hsize⟩ := refusal?_eq_none_iff.1 h
  obtain ⟨hle, hmem⟩ :=
    Path.size_ofComponents_le (Path.climb_sublist_rest p (Nat.mod_le p.reduced.ups 2))
  rw [← Path.normalize_eq] at hle hmem
  refine refusal?_eq_none_iff.2 ⟨fun hc => ?_, hne, by omega⟩
  rcases hmem _ hc with hc | hc
  · cases hc
  · exact hnul hc

theorem pieces_normalize (p : Path) : Text.pieces '/' p.normalize.text.toList =
    (if p.isAbsolute then [[]] else []) ++ written p.normalize.rest := by
  rw [Path.rest_normalize, Path.normalize_eq]
  exact Path.pieces_ofComponents (Path.plain_climb p (Nat.mod_le _ _))

theorem parts_normalize (p : Path) :
    parts p.normalize = p.normalize.rest.map Component.piece := by
  have hstart : (if p.isAbsolute then [[]] else []).filter (fun s : List Char => s != []) = [] := by
    split <;> rfl
  have hwritten : (written p.normalize.rest).filter (· != []) =
      p.normalize.rest.map Component.piece := by
    unfold written
    split
    · rename_i hnil
      rw [hnil]
      rfl
    · refine List.filter_eq_self.2 fun s hs => ?_
      obtain ⟨c, hc, rfl⟩ := List.mem_map.1 hs
      simpa using Component.piece_ne_nil (Path.plain_rest c hc)
  unfold parts
  rw [pieces_normalize, List.filter_append, hstart, hwritten, List.nil_append]

theorem walk_written (hcs : ∀ c ∈ cs, c.Plain) (h : d.Passable l cs)
    (hstart : cs = [] → d.node? l = some .directory) :
    d.walk l (written cs) = .ok (cs.foldl Component.lead l) := by
  unfold written
  split
  · rename_i hnil
    rw [hnil]
    exact walk_cons.2 ⟨l, enter_nil.2 ⟨hstart hnil, rfl⟩, rfl⟩
  · exact walk_of_passable hcs h

/-- **A path that is followed is followed to the same place** when it is normalized. -/
theorem locate_normalize (h : d.locate p = .ok loc) (hkeeps : Keeps (d.origin p) p.reduced.ups)
    (hne : p.normalize.text ≠ "") : d.locate p.normalize = .ok loc := by
  obtain ⟨hpass, rfl⟩ := locate_destination h
  refine locate_iff.2 ⟨refusal?_normalize (locate_iff.1 h).1 hne, ?_⟩
  have hclimb : d.Passable (d.origin p) p.normalize.rest := by
    rw [Path.rest_normalize]
    exact passable_climb Path.plain_rest hpass hkeeps
  rw [← (destination_normalize_iff d p).2 hkeeps, destination_eq, origin_normalize,
    pieces_normalize]
  have hwalk := walk_written (Path.plain_rest (p := p.normalize)) hclimb
  cases habs : p.isAbsolute with
  | true =>
    have hroot : d.origin p = [] := by simp [origin, habs]
    rw [hroot] at hwalk ⊢
    rw [if_pos rfl, List.singleton_append]
    exact walk_cons.2 ⟨[], enter_nil.2 ⟨rfl, rfl⟩, hwalk fun _ => rfl⟩
  | false =>
    rw [if_neg (by decide), List.nil_append]
    refine hwalk fun hnil => absurd ?_ hne
    rw [Path.rest_normalize] at hnil
    rw [Path.normalize_eq, hnil, habs]
    rfl

/-- **What could be made at a path could be made at the same place** when it is normalized. -/
theorem locateEntry_normalize (h : d.locateEntry p = .ok (some loc))
    (hkeeps : Keeps (d.origin p) p.reduced.ups) : d.locateEntry p.normalize = .ok (some loc) := by
  obtain ⟨cs, s, hrest, hpass, hdir, hlong, rfl⟩ := locateEntry_destination h
  have hcs : ∀ c ∈ cs, c.Plain := fun c hc => Path.plain_rest c (by rw [hrest]; simp [hc])
  have hname : (Component.name s).Plain := Path.plain_rest (p := p) _ (by rw [hrest]; simp)
  -- the last name is left as it is
  have hreduced : p.reduced = ⟨(Reduced.of cs).ups, (Reduced.of cs).names ++ [s]⟩ := by
    unfold Path.reduced
    rw [hrest, Reduced.of_concat]
    rfl
  have hkeeps' : Keeps (d.origin p) (Reduced.of cs).ups := by rwa [hreduced] at hkeeps
  let climbed := climb ((Reduced.of cs).ups % 2) (Reduced.of cs).names
  have hnormal : p.normalize.rest = climbed ++ [.name s] := by
    rw [Path.rest_normalize, hreduced]
    exact Path.climb_concat _ _ _
  have hclimb : ∀ c ∈ climbed, c.Plain := fun c hc =>
    Path.plain_rest (p := p.normalize) c (by rw [hnormal]; simp [hc])
  have hlead := foldl_lead_climb hcs hkeeps' hclimb
  have hne : p.normalize.text ≠ "" := by
    intro hempty
    have hrest : p.normalize.rest = [] := by
      unfold Path.rest
      rw [hempty]
      rfl
    rw [hnormal] at hrest
    simp at hrest
  obtain ⟨hr, -⟩ := locateEntry_some h
  have hwalk : d.walk (d.origin p) (climbed.map Component.piece ++ [[]]) =
      .ok (cs.foldl Component.lead (d.origin p)) :=
    walk_concat_nil_iff.2
      ⟨hlead ▸ walk_of_passable hclimb (passable_climb hcs hpass hkeeps'), hdir⟩
  have hparts := parts_normalize p
  rw [hnormal, List.map_append, List.map_singleton] at hparts
  unfold parts at hparts
  unfold locateEntry
  rw [refusal?_normalize hr hne, origin_normalize]
  dsimp only
  rw [hparts, List.dropLast_concat, hwalk, List.getLast?_concat, destination_eq, hrest,
    List.foldl_concat]
  have hpiece : String.ofList (Component.name s).piece = s := String.ofList_toList
  dsimp only
  have hdots : ¬ ((Component.name s).piece = ['.'] || (Component.name s).piece = ['.', '.']) := by
    rw [Bool.or_eq_true, decide_eq_true_eq, decide_eq_true_eq]
    exact not_or.2 ⟨Component.piece_ne_here hname, hname.not_up⟩
  rw [hpiece, if_neg hdots, if_neg hlong]
  rfl

/-- **What `normalize` makes of a path, and when that names the same place.** The reduction is what
cancelling leads to. `normalize` leaves its names, and of the `..` before them one or none; that is
the reduction if no more of them are left than that. The place is the same if the path climbs at
most once, or to the root either way: what is at a path, or could be made there, is then found by
the normalized path as well, if that is not empty. -/
theorem normalize_keeps_place_iff (p : Path) :
    (Relation.ReflTransGen Path.Cancels p.components p.reduction.components ∧
        ∀ cs, ¬ Path.Cancels p.reduction.components cs) ∧
      p.normalize = .ofComponents (anchor p.isAbsolute ++
        climb (p.reduced.ups % 2) p.reduced.names) ∧
      (p.normalize = p.reduction ↔
        p.reduced.ups % 2 = if p.isAbsolute then 0 else p.reduced.ups) ∧
      ∀ d : Disk,
        (d.destination p.normalize = d.destination p ↔ Keeps (d.origin p) p.reduced.ups) ∧
        (∀ loc, d.locate p = .ok loc → loc = d.destination p ∧
          (d.locate p.normalize = .ok loc ↔
            Keeps (d.origin p) p.reduced.ups ∧ p.normalize.text ≠ "")) ∧
        ∀ loc, d.locateEntry p = .ok (some loc) → loc = d.destination p ∧
          (d.locateEntry p.normalize = .ok (some loc) ↔ Keeps (d.origin p) p.reduced.ups) := by
  refine ⟨⟨p.cancels_reduction, p.not_cancels_reduction⟩, p.normalize_eq,
    p.normalize_eq_reduction_iff, fun d =>
    ⟨destination_normalize_iff d p, fun loc h => ?_, fun loc h => ?_⟩⟩
  · obtain ⟨-, hloc⟩ := locate_destination h
    refine ⟨hloc, fun hn => ?_, fun ⟨hkeeps, hne⟩ => locate_normalize h hkeeps hne⟩
    refine ⟨(destination_normalize_iff d p).1 ?_,
      (refusal?_eq_none_iff.1 (locate_iff.1 hn).1).2.1⟩
    rw [← (locate_destination hn).2, hloc]
  · obtain ⟨-, -, -, -, -, -, hloc⟩ := locateEntry_destination h
    refine ⟨hloc, fun hn => (destination_normalize_iff d p).1 ?_, locateEntry_normalize h⟩
    obtain ⟨-, -, -, -, -, -, hn⟩ := locateEntry_destination hn
    rw [← hn, hloc]

/-- A path that climbs once, on a disk with one of the two files that it may name. -/
theorem normalize_keeps_place_iff_once :
    let d : Disk := ⟨[(["a", "b"], .directory), (["a"], .directory), (["a", "c"], .directory),
      (["a", "x.c"], .file [])], ["a", "b"]⟩
    let p : Path := ⟨"../c/../x.c"⟩
    let q : Path := ⟨"../c/../y.c"⟩
    d.locate p = .ok ["a", "x.c"] ∧ d.locate p.normalize = .ok ["a", "x.c"] ∧
      d.locateEntry q = .ok (some ["a", "y.c"]) ∧
      d.locateEntry q.normalize = .ok (some ["a", "y.c"]) := by
  intro d p q
  have hp : d.locate p = .ok ["a", "x.c"] := by decide +kernel
  have hq : d.locateEntry q = .ok (some ["a", "y.c"]) := by decide +kernel
  obtain ⟨-, -, -, hkeeps⟩ := normalize_keeps_place_iff p
  obtain ⟨-, hkept, -⟩ := hkeeps d
  obtain ⟨-, -, -, hkeeps⟩ := normalize_keeps_place_iff q
  obtain ⟨-, -, hmade⟩ := hkeeps d
  exact ⟨hp, (hkept _ hp).2.2 ⟨.inl (by decide +kernel), by decide +kernel⟩,
    hq, (hmade _ hq).2.2 (.inl (by decide +kernel))⟩

/-- **`normalize` does not keep the place**: of a reference that climbs out of a directory that is
itself reached by climbing, both `..` get lost. -/
theorem normalize_loses_climbs :
    let d : Disk := ⟨[(["a"], .directory), (["a", "b"], .directory), (["a", "build"], .directory),
      (["src"], .directory), (["src", "x.c"], .file []), (["a", "b", "src"], .directory),
      (["a", "b", "src", "x.c"], .file [])], ["a", "b"]⟩
    let p : Path := (Path.mk "../build").join "../../src/x.c"
    p.normalize = ⟨"src/x.c"⟩ ∧ p.reduction = ⟨"../../src/x.c"⟩ ∧
      d.locate p = .ok ["src", "x.c"] ∧ d.locate p.normalize = .ok ["a", "b", "src", "x.c"] := by
  decide +kernel

end Disk

end BuildDiagnostics
