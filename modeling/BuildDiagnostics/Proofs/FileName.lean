import BuildDiagnostics.Proofs.Text
import BuildDiagnostics.Reference

/-!
# File names

The extension of a name is what follows its last dot, unless that dot is its first character. A text
without slashes is a path of one component, whose extension is that of the text.

* `extensionOf?_eq_some_iff`, `extensionOf?_eq_none_iff`: when a name has an extension, and which.
* `extension?_of_name`: the extension of a path that is a name.
* `isBareName_of_name`, `hasBinaryExtension_append`, `hasBinaryExtension_concat`: what the tests on
  references say of a name.
* `isAbsolute_of_isBareName`: a bare name is not absolute.
-/

namespace BuildDiagnostics

namespace Path

variable {name e : List Char}

/-- A text with a dot is cut at its last one. -/
theorem exists_last_dot (h : '.' ∈ name) : ∃ stem e, name = stem ++ '.' :: e ∧ '.' ∉ e := by
  obtain ⟨e, stem, hcut, he⟩ := List.eq_append_cons_of_mem (List.mem_reverse.2 h)
  refine ⟨stem.reverse, e.reverse, ?_, by simpa using he⟩
  rw [← List.reverse_reverse name, hcut]
  simp

theorem extensionOf?_of_not_mem (h : '.' ∉ name) : extensionOf? name = none := by
  have htake : name.reverse.takeWhile (· != '.') = name.reverse := by
    rw [List.takeWhile_eq_self_iff]
    intro c hc
    have : c ≠ '.' := by rintro rfl; exact h (List.mem_reverse.1 hc)
    simpa using this
  unfold extensionOf?
  rw [htake, if_neg (by rw [List.length_reverse]; omega)]

theorem extensionOf?_append (stem : List Char) (he : '.' ∉ e) :
    extensionOf? (stem ++ '.' :: e) = if stem = [] then none else some e := by
  have htake : (stem ++ '.' :: e).reverse.takeWhile (· != '.') = e.reverse := by
    rw [List.reverse_append, List.reverse_cons, List.append_assoc, List.takeWhile_append_of_pos]
    · simp
    · intro c hc
      have : c ≠ '.' := by rintro rfl; exact he (List.mem_reverse.1 hc)
      simpa using this
  have hroom : e.length + 1 < (stem ++ '.' :: e).length ↔ stem ≠ [] := by
    rw [List.length_append, List.length_cons, ← List.length_pos_iff]
    omega
  unfold extensionOf?
  simp only [htake, List.length_reverse, List.reverse_reverse, hroom]
  by_cases hs : stem = [] <;> simp [hs]

/-- **The extension follows the last dot**, which is not the first character. -/
theorem extensionOf?_eq_some_iff :
    extensionOf? name = some e ↔ ∃ stem, stem ≠ [] ∧ name = stem ++ '.' :: e ∧ '.' ∉ e := by
  constructor
  · intro h
    by_cases hdot : '.' ∈ name
    · obtain ⟨stem, e', rfl, he⟩ := exists_last_dot hdot
      rw [extensionOf?_append stem he] at h
      split at h
      · exact absurd h (by simp)
      · cases h; exact ⟨stem, ‹_›, rfl, he⟩
    · rw [extensionOf?_of_not_mem hdot] at h
      exact absurd h (by simp)
  · rintro ⟨stem, hstem, rfl, he⟩
    rw [extensionOf?_append stem he, if_neg hstem]

/-- **A name has no extension** exactly if it has no dot after its first character. -/
theorem extensionOf?_eq_none_iff : extensionOf? name = none ↔ '.' ∉ name.tail := by
  by_cases hdot : '.' ∈ name
  · obtain ⟨stem, e, rfl, he⟩ := exists_last_dot hdot
    rw [extensionOf?_append stem he]
    cases stem with
    | nil => simp [he]
    | cons c s => simp
  · rw [extensionOf?_of_not_mem hdot]
    simp only [true_iff]
    exact fun h => hdot (List.mem_of_mem_tail h)

/-! ## Paths of one name -/

/-- The text is the name of a file or directory. -/
structure IsName (s : List Char) : Prop where
  ne_nil : s ≠ []
  no_slash : '/' ∉ s
  not_here : s ≠ ['.']
  not_up : s ≠ ['.', '.']

/-- A text without slashes that ends in no dot is a name. -/
theorem isName_concat {s : List Char} {c : Char} (hslash : '/' ∉ s ++ [c]) (hc : c ≠ '.') :
    IsName (s ++ [c]) := by
  refine ⟨by simp, hslash, ?_, ?_⟩
  all_goals
    intro h
    have hlast := congrArg List.getLast? h
    rw [List.getLast?_concat] at hlast
    exact hc (by simpa using hlast)

theorem components_of_name {s : List Char} (h : IsName s) :
    (Path.mk (String.ofList s)).components = [.name (String.ofList s)] := by
  have hroot : startsAtRoot s = false := by
    cases s with
    | nil => rfl
    | cons c s =>
      have : c ≠ '/' := fun e => h.no_slash (e ▸ List.mem_cons_self)
      unfold startsAtRoot
      split
      · rename_i heq; cases heq; exact absurd rfl this
      · rfl
  have hpiece : Component.ofPiece? s = some (.name (String.ofList s)) := by
    unfold Component.ofPiece?
    rw [if_neg (by simp [h.ne_nil, h.not_here]), if_neg h.not_up]
  unfold components isAbsolute
  simp only [String.toList_ofList, hroot, Text.pieces_of_not_mem h.no_slash, List.filterMap_cons,
    hpiece, List.filterMap_nil, List.head?_cons, Option.some.injEq, h.not_here, if_false,
    Bool.false_eq_true]

/-- **The extension of a name** as a path is that of its text. -/
theorem extension?_of_name {s : List Char} (h : IsName s) :
    (Path.mk (String.ofList s)).extension? = extensionOf? s := by
  unfold extension?
  rw [components_of_name h]
  simp

end Path

namespace Reference

variable {s stem e : List Char} {c : Char}

/-- **A name is bare** exactly if it has no dot after its first character, and no slash of any
kind. -/
theorem isBareName_of_name (h : Path.IsName s) (htrim : Text.trim s = s) :
    isBareName s = true ↔ (∀ c ∈ s, Text.isSlash c = false) ∧ '.' ∉ s.tail := by
  unfold isBareName
  dsimp only
  rw [htrim, Path.extension?_of_name h, ← Path.extensionOf?_eq_none_iff]
  simp [h.ne_nil]

/-- The extension of a name decides whether it is binary. -/
theorem hasBinaryExtension_append (h : Path.IsName (stem ++ '.' :: e))
    (htrim : Text.trim (stem ++ '.' :: e) = stem ++ '.' :: e) (hstem : stem ≠ [])
    (he : '.' ∉ e) : hasBinaryExtension (stem ++ '.' :: e) =
      binaryExtensions.contains (String.ofList (e.map Text.lowerAscii)) := by
  unfold hasBinaryExtension
  rw [htrim, Path.extension?_of_name h, Path.extensionOf?_append stem he, if_neg hstem]

/-- A name that ends in no last letter of a binary extension has none. -/
theorem hasBinaryExtension_concat (h : Path.IsName (stem ++ [c]))
    (htrim : Text.trim (stem ++ [c]) = stem ++ [c])
    (hc : ∀ e ∈ binaryExtensions, e.toList.getLast? ≠ some (Text.lowerAscii c)) :
    hasBinaryExtension (stem ++ [c]) = false := by
  unfold hasBinaryExtension
  rw [htrim, Path.extension?_of_name h]
  cases he : Path.extensionOf? (stem ++ [c]) with
  | none => rfl
  | some e =>
    dsimp only
    obtain ⟨s, -, hs, -⟩ := Path.extensionOf?_eq_some_iff.1 he
    rw [← Bool.not_eq_true, List.contains_iff_mem]
    intro hmem
    rcases List.eq_nil_or_concat e with rfl | ⟨e, c', rfl⟩
    · exact absurd hmem (by decide)
    · rw [List.concat_eq_append, ← List.cons_append, ← List.append_assoc] at hs
      obtain ⟨-, hcc⟩ := List.append_inj' hs rfl
      cases hcc
      exact hc _ hmem (by simp)

/-! ## Absolute references -/

theorem exists_slash_of_isAbsolute {file : List Char} (h : isAbsolute file = true) :
    ∃ c ∈ file, Text.isSlash c = true := by
  rcases Bool.or_eq_true_iff.1 h with h | h
  · unfold Path.startsAtRoot at h
    split at h
    · exact ⟨'/', List.mem_cons_self, by decide⟩
    · cases h
  · unfold isDriveAbsolute at h
    split at h
    · exact ⟨'\\', List.mem_cons_self, by decide⟩
    · rename_i c _ _
      exact ⟨c, by simp, (Bool.and_eq_true_iff.1 h).2⟩
    · cases h

/-- A bare name is not absolute. -/
theorem isAbsolute_of_isBareName {file : List Char} (h : isBareName file = true) :
    isAbsolute file = false := by
  rw [← Bool.not_eq_true]
  intro habsolute
  obtain ⟨c, hc, hslash⟩ := exists_slash_of_isAbsolute habsolute
  unfold isBareName at h
  simp only [Bool.and_eq_true, Bool.not_eq_true', List.any_eq_false] at h
  exact h.1.2 c (Text.mem_trim hc (Text.isBlank_of_isSlash hslash)) hslash

end Reference

end BuildDiagnostics
