import BuildDiagnostics.Proofs.FileName

/-!
# Paths and their components

A component between slashes is a `..` or a name (`Plain`). A path that is written from plain
components, behind the root or not, has them as its components, and no path is shorter than what its
components are written as.

* `components_eq`: the components of a path, its start apart.
* `components_ofComponents`: what is written is read back.
* `size_ofComponents_le`: leaving out components does not make a path longer.
-/

namespace BuildDiagnostics

section Pieces

variable {α : Type} {sep : α}

section Equality

variable [BEq α] [LawfulBEq α]

/-- **Pieces that are put together are cut again.** -/
theorem Text.pieces_intercalate {ps : List (List α)} (hne : ps ≠ []) (h : ∀ p ∈ ps, sep ∉ p) :
    pieces sep ([sep].intercalate ps) = ps := by
  induction ps with
  | nil => exact absurd rfl hne
  | cons p rest ih =>
    have hp : sep ∉ p := h p List.mem_cons_self
    cases rest with
    | nil => simpa [List.intercalate] using pieces_of_not_mem hp
    | cons q qs =>
      rw [List.intercalate_cons_cons, List.append_assoc, List.singleton_append, pieces_append hp,
        ih (by simp) fun r hr => h r (List.mem_cons_of_mem _ hr)]

/-- A list is its pieces put together. -/
theorem Text.intercalate_pieces (s : List α) : [sep].intercalate (pieces sep s) = s := by
  induction s using cut_induction sep with
  | last p hp => rw [pieces_of_not_mem hp]; simp [List.intercalate]
  | cut p s hp ih =>
    obtain ⟨q, qs, hq⟩ := List.exists_cons_of_ne_nil (pieces_ne_nil s : pieces sep s ≠ [])
    rw [hq] at ih
    rw [pieces_append hp, hq, List.intercalate_cons_cons, ih]
    simp

end Equality

theorem Text.mem_of_mem_pieces [BEq α] [LawfulBEq α] {s p : List α} {a : α}
    (hp : p ∈ pieces sep s) (ha : a ∈ p) : a ∈ s := by
  induction s using cut_induction sep with
  | last q hq =>
    rw [pieces_of_not_mem hq] at hp
    rwa [List.mem_singleton.1 hp] at ha
  | cut q s hq ih =>
    rw [pieces_append hq] at hp
    rcases List.mem_cons.1 hp with rfl | hp
    · exact List.mem_append_left _ ha
    · exact List.mem_append_right _ (List.mem_cons_of_mem _ (ih hp))

theorem Text.mem_intercalate {ps : List (List α)} {a : α} (h : a ∈ [sep].intercalate ps) :
    a = sep ∨ ∃ p ∈ ps, a ∈ p := by
  induction ps with
  | nil => simp [List.intercalate] at h
  | cons p rest ih =>
    cases rest with
    | nil => exact .inr ⟨p, List.mem_cons_self, by simpa [List.intercalate] using h⟩
    | cons q qs =>
      rw [List.intercalate_cons_cons, List.append_assoc, List.singleton_append, List.mem_append,
        List.mem_cons] at h
      rcases h with h | h | h
      · exact .inr ⟨p, List.mem_cons_self, h⟩
      · exact .inl h
      · exact (ih h).imp_right fun ⟨r, hr, ha⟩ => ⟨r, List.mem_cons_of_mem _ hr, ha⟩

end Pieces

namespace Path

/-! ## Plain components -/

/-- The component stands between slashes: it is a `..` or a name. -/
def Component.Plain : Component → Prop
  | .up => True
  | .name s => IsName s.toList
  | .root | .here => False

/-- The component as a piece. -/
def Component.piece (c : Component) : List Char := c.text.toList

namespace Component

variable {c : Component}

theorem ofPiece?_piece (h : c.Plain) : ofPiece? c.piece = some c := by
  cases c with
  | root | here => exact h.elim
  | up => rfl
  | name s =>
    unfold ofPiece? piece text
    rw [if_neg (by simp [h.ne_nil, h.not_here]), if_neg h.not_up, String.ofList_toList]

/-- The component of a piece is plain, and written as the piece. -/
theorem plain_of_ofPiece? {piece : List Char} (hslash : '/' ∉ piece)
    (h : ofPiece? piece = some c) : c.Plain ∧ c.piece = piece := by
  unfold ofPiece? at h
  split at h
  · cases h
  · rename_i hne
    simp only [Bool.or_eq_true, decide_eq_true_eq, not_or] at hne
    split at h
    · rename_i hup
      cases h
      exact ⟨trivial, hup.symm⟩
    · rename_i hup
      cases h
      have hname : IsName (String.ofList piece).toList := by
        rw [String.toList_ofList]
        exact ⟨hne.1, hslash, hne.2, hup⟩
      exact ⟨hname, String.toList_ofList⟩

theorem not_mem_piece (h : c.Plain) : '/' ∉ c.piece := by
  cases c with
  | root | here => exact h.elim
  | up => decide
  | name s => exact h.no_slash

theorem piece_ne_nil (h : c.Plain) : c.piece ≠ [] := by
  cases c with
  | root | here => exact h.elim
  | up => decide
  | name s => exact h.ne_nil

theorem piece_ne_here (h : c.Plain) : c.piece ≠ ['.'] := by
  cases c with
  | root | here => exact h.elim
  | up => decide
  | name s => exact h.not_here

end Component

/-- The root, if a path starts there. -/
def anchor (rooted : Bool) : List Component := if rooted then [.root] else []

/-- The components of a path between its slashes. -/
def rest (p : Path) : List Component :=
  (Text.pieces '/' p.text.toList).filterMap Component.ofPiece?

theorem plain_rest {p : Path} : ∀ c ∈ p.rest, c.Plain := by
  intro c hc
  obtain ⟨piece, hpiece, hc⟩ := List.mem_filterMap.1 hc
  exact (Component.plain_of_ofPiece? (Text.not_mem_of_mem_pieces hpiece) hc).1

/-- **The components of a path** are those between its slashes, behind the root or a `.` at the
start of a relative path. -/
theorem components_eq (p : Path) :
    p.components = anchor p.isAbsolute ++ p.rest ∨
      p.isAbsolute = false ∧ p.components = .here :: p.rest := by
  unfold components rest anchor
  cases p.isAbsolute with
  | true => exact .inl rfl
  | false =>
    by_cases hhere : (Text.pieces '/' p.text.toList).head? = some ['.']
    · exact .inr ⟨rfl, by simp [hhere]⟩
    · exact .inl (by simp [hhere])

/-! ## Writing components -/

/-- Components as the pieces between slashes; no component is written as an empty piece. -/
def written (cs : List Component) : List (List Char) :=
  if cs = [] then [[]] else cs.map Component.piece

variable {cs ds : List Component} {rooted : Bool}

theorem written_ne_nil (cs : List Component) : written cs ≠ [] := by
  unfold written
  split
  · simp
  · simpa using ‹_›

theorem not_mem_written (h : ∀ c ∈ cs, c.Plain) : ∀ s ∈ written cs, '/' ∉ s := by
  intro s hs
  unfold written at hs
  split at hs
  · simp [List.mem_singleton.1 hs]
  · obtain ⟨c, hc, rfl⟩ := List.mem_map.1 hs
    exact Component.not_mem_piece (h c hc)

theorem text_ofComponents (h : ∀ c ∈ cs, c.Plain) :
    (ofComponents (anchor rooted ++ cs)).text.toList =
      ['/'].intercalate ((if rooted then [[]] else []) ++ written cs) := by
  have hrelative : ("/".intercalate (cs.map Component.text)).toList =
      ['/'].intercalate (written cs) := by
    rw [String.toList_intercalate, List.map_map]
    unfold written
    split
    · rename_i hcs
      rw [hcs]
      rfl
    · rfl
  obtain ⟨q, qs, hq⟩ := List.exists_cons_of_ne_nil (written_ne_nil cs)
  cases rooted with
  | true =>
    have hroot : ofComponents (anchor true ++ cs) =
        ⟨"/" ++ "/".intercalate (cs.map Component.text)⟩ := rfl
    rw [hroot, String.toList_append, hrelative, if_pos rfl, List.singleton_append, hq,
      List.intercalate_cons_cons]
    rfl
  | false =>
    have hplain : ofComponents cs = ⟨"/".intercalate (cs.map Component.text)⟩ := by
      unfold ofComponents
      split
      · exact (h .root List.mem_cons_self).elim
      · rfl
    exact (congrArg (fun p => p.text.toList) hplain).trans hrelative

/-- The pieces of what is written. -/
theorem pieces_ofComponents (h : ∀ c ∈ cs, c.Plain) :
    Text.pieces '/' (ofComponents (anchor rooted ++ cs)).text.toList =
      (if rooted then [[]] else []) ++ written cs := by
  rw [text_ofComponents h]
  refine Text.pieces_intercalate (by simp [written_ne_nil]) fun s hs => ?_
  rcases List.mem_append.1 hs with hs | hs
  · cases rooted <;> simp_all
  · exact not_mem_written h s hs

theorem filterMap_written (h : ∀ c ∈ cs, c.Plain) :
    (written cs).filterMap Component.ofPiece? = cs := by
  unfold written
  split
  · rename_i hcs
    rw [hcs]
    rfl
  · have hback : ∀ c ∈ cs, (Component.ofPiece? ∘ Component.piece) c = some c := fun c hc =>
      Component.ofPiece?_piece (h c hc)
    rw [List.filterMap_map, List.filterMap_congr hback, List.filterMap_some]

theorem rest_ofComponents (h : ∀ c ∈ cs, c.Plain) :
    (ofComponents (anchor rooted ++ cs)).rest = cs := by
  unfold rest
  rw [pieces_ofComponents h, List.filterMap_append, filterMap_written h]
  cases rooted <;> rfl

theorem isAbsolute_ofComponents (h : ∀ c ∈ cs, c.Plain) :
    (ofComponents (anchor rooted ++ cs)).isAbsolute = rooted := by
  unfold isAbsolute
  rw [text_ofComponents h]
  cases rooted with
  | true =>
    obtain ⟨q, qs, hq⟩ := List.exists_cons_of_ne_nil (written_ne_nil cs)
    rw [if_pos rfl, List.singleton_append, hq, List.intercalate_cons_cons]
    rfl
  | false =>
    cases cs with
    | nil => rfl
    | cons c cs =>
      -- the first character is one of the first component
      have hc : c.Plain := h c List.mem_cons_self
      obtain ⟨a, s, has⟩ := List.exists_cons_of_ne_nil (Component.piece_ne_nil hc)
      have ha : a ≠ '/' := fun e => Component.not_mem_piece hc (by rw [has, e]; simp)
      obtain ⟨t, ht⟩ : ∃ t, ['/'].intercalate (written (c :: cs)) = a :: t := by
        unfold written
        rw [if_neg (by simp), List.map_cons, has]
        cases cs.map Component.piece with
        | nil => exact ⟨s, by simp [List.intercalate]⟩
        | cons q qs => exact ⟨_, by rw [List.intercalate_cons_cons]; rfl⟩
      rw [if_neg (by simp), List.nil_append, ht]
      unfold startsAtRoot
      split
      · rename_i heq
        cases heq
        exact absurd rfl ha
      · rfl

/-- **What is written is read back.** -/
theorem components_ofComponents (h : ∀ c ∈ cs, c.Plain) :
    (ofComponents (anchor rooted ++ cs)).components = anchor rooted ++ cs := by
  rcases components_eq (ofComponents (anchor rooted ++ cs)) with hc | ⟨habs, -⟩
  · rw [hc, isAbsolute_ofComponents h, rest_ofComponents h]
  · -- a relative path that is written starts with no `.`
    have hrooted : rooted = false := by rwa [isAbsolute_ofComponents h] at habs
    have hhead : (Text.pieces '/' (ofComponents (anchor rooted ++ cs)).text.toList).head? ≠
        some ['.'] := by
      rw [pieces_ofComponents h, hrooted]
      cases cs with
      | nil => simp [written]
      | cons c cs => simpa [written] using Component.piece_ne_here (h c List.mem_cons_self)
    have hrest : (ofComponents (anchor rooted ++ cs)).rest = cs := rest_ofComponents h
    unfold rest at hrest
    unfold components
    rw [habs]
    simp only [Bool.false_eq_true, if_false, hhead]
    rw [hrest, hrooted]
    rfl

/-! ## The length of what is written -/

/-- How many bytes pieces take, each with a slash. -/
def size : List (List Char) → Nat
  | [] => 0
  | s :: ps => (String.ofList s).utf8ByteSize + 1 + size ps

theorem size_intercalate {ps : List (List Char)} (hne : ps ≠ []) :
    (String.ofList (['/'].intercalate ps)).utf8ByteSize + 1 = size ps := by
  induction ps with
  | nil => exact absurd rfl hne
  | cons p rest ih =>
    cases rest with
    | nil => simp [size]
    | cons q qs =>
      have hrest := ih (by simp)
      have hslash : (String.ofList ['/']).utf8ByteSize = 1 := by decide
      rw [List.intercalate_cons_cons, String.ofList_append, String.ofList_append,
        String.utf8ByteSize_append, String.utf8ByteSize_append, hslash]
      simp only [size] at hrest ⊢
      omega

theorem size_pieces (p : Path) :
    p.text.utf8ByteSize + 1 = size (Text.pieces '/' p.text.toList) := by
  rw [← size_intercalate (Text.pieces_ne_nil _), Text.intercalate_pieces, String.ofList_toList]

theorem size_sublist {ps qs : List (List Char)} (h : ps.Sublist qs) : size ps ≤ size qs := by
  induction h with
  | slnil => exact le_rfl
  | cons s _ ih =>
    simp only [size] at ih ⊢
    omega
  | cons_cons s _ ih =>
    simp only [size] at ih ⊢
    omega

/-- The components of a path are written as some of its pieces. -/
theorem map_piece_filterMap {ps : List (List Char)} (h : ∀ s ∈ ps, '/' ∉ s) :
    ((ps.filterMap Component.ofPiece?).map Component.piece).Sublist ps := by
  induction ps with
  | nil => exact .refl _
  | cons s ps ih =>
    have hps := ih fun t ht => h t (List.mem_cons_of_mem _ ht)
    cases hs : Component.ofPiece? s with
    | none =>
      rw [List.filterMap_cons_none hs]
      exact hps.cons s
    | some c =>
      have hc := Component.plain_of_ofPiece? (h s List.mem_cons_self) hs
      rw [List.filterMap_cons_some hs, List.map_cons, hc.2]
      exact hps.cons_cons s

theorem size_written_le {ps : List (List Char)} (hne : ps ≠ [])
    (h : (cs.map Component.piece).Sublist ps) : size (written cs) ≤ size ps := by
  unfold written
  split
  · obtain ⟨q, qs, rfl⟩ := List.exists_cons_of_ne_nil hne
    simp only [size]
    have : (String.ofList ([] : List Char)).utf8ByteSize = 0 := rfl
    omega
  · exact size_sublist h

/-- **Leaving out components does not make a path longer**, and adds no characters to it. -/
theorem size_ofComponents_le {p : Path} (h : cs.Sublist p.rest) :
    let q := ofComponents (anchor p.isAbsolute ++ cs)
    q.text.utf8ByteSize ≤ p.text.utf8ByteSize ∧
      ∀ a ∈ q.text.toList, a = '/' ∨ a ∈ p.text.toList := by
  intro q
  have hplain : ∀ c ∈ cs, c.Plain := fun c hc => plain_rest c (h.subset hc)
  have hpieces : (cs.map Component.piece).Sublist (Text.pieces '/' p.text.toList) :=
    (h.map _).trans (map_piece_filterMap fun s hs => Text.not_mem_of_mem_pieces hs)
  constructor
  · rw [← Nat.add_le_add_iff_right (n := 1), size_pieces, size_pieces, pieces_ofComponents hplain]
    cases habs : p.isAbsolute with
    | false => exact size_written_le (Text.pieces_ne_nil _) hpieces
    | true =>
      -- the first piece of both is the empty one before the root
      obtain ⟨t, ht⟩ : ∃ t, p.text.toList = '/' :: t := by
        unfold isAbsolute startsAtRoot at habs
        split at habs
        · exact ⟨_, ‹_›⟩
        · cases habs
      have hcut : Text.pieces '/' p.text.toList = [] :: Text.pieces '/' t := by
        rw [ht]
        exact Text.pieces_append (p := []) (by simp) t
      unfold rest at h
      rw [hcut] at h ⊢
      have := size_written_le (Text.pieces_ne_nil t) ((h.map Component.piece).trans
        (map_piece_filterMap fun s hs => Text.not_mem_of_mem_pieces hs))
      simp only [size, if_true, List.singleton_append] at this ⊢
      omega
  · intro a ha
    rw [text_ofComponents hplain] at ha
    refine (Text.mem_intercalate ha).imp_right fun ⟨s, hs, has⟩ => ?_
    rcases List.mem_append.1 hs with hs | hs
    · split at hs
      · rw [List.mem_singleton.1 hs] at has
        cases has
      · cases hs
    · unfold written at hs
      split at hs
      · rw [List.mem_singleton.1 hs] at has
        cases has
      · exact Text.mem_of_mem_pieces (hpieces.subset hs) has

end Path

end BuildDiagnostics
