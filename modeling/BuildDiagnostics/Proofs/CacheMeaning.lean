import BuildDiagnostics.Proofs.CacheLine
import Mathlib.Data.List.Nodup

/-!
# What a cache says

A cache is read in one pass that holds the entries so far, the marks and the documentation since the
last line of the form of an entry. What comes out can be said of the lines alone: an entry is the
last one with its key, together with the documentation in front of it and the marks anywhere.

* `ofLine_eq_doc_iff`, `isAssignment_ofLine_iff`, `ofLine_eq_advanced_iff`,
  `ofLine_eq_entry_iff_holdsEntry`: what a line is to the reader, by what it looks like.
* `EntriesOf.put`, `EntriesOf.keep`: what a line changes of the entries so far.
* `documented_readAll`, `mem_advanced_readAll`, `entries_readAll`: what the reader holds after any
  lines.
* `parse_means`: the entries of a cache are what its lines say.
-/

namespace BuildDiagnostics.Cache

open Text Pattern

variable {line : List Char} {lines : List (List Char)} {key : String} {type : CacheType}
  {value : String}

/-! ## What a line says -/

/-- The line is an entry: it is no remark, its type exists, and its key marks no other entry. -/
def HoldsEntry (line : List Char) (key : String) (type : CacheType) (value : String) : Prop :=
  isRemark line = false ∧ EntryLine line key.toList type.name.toList value.toList ∧
    ¬ advancedSuffix.toList <:+ key.toList

/-- The line is an entry with the key. -/
def HasKey (line : List Char) (key : String) : Prop := ∃ type value, HoldsEntry line key type value

/-- The line marks the entry with the key, and its value is true. -/
def Marks (line : List Char) (key : String) : Prop :=
  isRemark line = false ∧ ∃ (type : CacheType) (value : List Char),
    EntryLine line (key.toList ++ advancedSuffix.toList) type.name.toList value ∧
      isTruthy value = true

/-- The line has the form of an entry, whatever its type is and its key. -/
def IsAssignment (line : List Char) : Prop :=
  isRemark line = false ∧ ∃ key kind value, EntryLine line key kind value

/-- The documentation that a line is, if it is any. -/
def docText? (line : List Char) : Option (List Char) := dropPrefix? ['/', '/'] line

/-- The record of a line is its entry, a mark or a type that does not exist. -/
def Record.isAssignment : Record → Bool
  | .entry .. | .advanced .. | .unknownType _ => true
  | _ => false

/-- A line is documentation if it starts like it. -/
theorem ofLine_eq_doc_iff {t : List Char} :
    Record.ofLine line = .doc t ↔ docText? line = some t := by
  unfold Record.ofLine docText?
  split
  · rename_i hblank
    refine iff_of_false (by simp) fun h => ?_
    -- two slashes are no comment
    obtain rfl := dropPrefix?_eq_some_iff.1 h
    have hslash : isBlank '/' = false := by decide
    simp [trimStart, hslash] at hblank
  · cases dropPrefix? ['/', '/'] line with
    | some u => simp
    | none =>
      refine iff_of_false ?_ (by simp)
      cases entryPattern.match? line with
      | none => simp
      | some cs =>
        dsimp only
        unfold Record.ofParts
        split
        · simp
        · split <;> simp

theorem isAssignment_ofParts (key : List Char) (word : String) (v : List Char) :
    (Record.ofParts key word v).isAssignment = true := by
  unfold Record.ofParts
  cases CacheType.ofName word with
  | error e => rfl
  | ok t =>
    dsimp only
    split <;> rfl

/-- **A line is an assignment** if it has the form of one and is no remark. -/
theorem isAssignment_ofLine_iff (hn : '\n' ∉ line) :
    (Record.ofLine line).isAssignment = true ↔ IsAssignment line := by
  have hdoc : ∀ text, ¬ (Record.doc text).isAssignment = true := fun _ => by
    simp [Record.isAssignment]
  rw [ofLine_iff (p := fun x => x.isAssignment = true) hn (by decide) hdoc (by decide)]
  simp only [isAssignment_ofParts, and_true]
  rfl

theorem ofParts_eq_advanced_iff {k v : List Char} {word : String} {holds : Bool} :
    Record.ofParts k word v = .advanced key holds ↔
      (∃ type : CacheType, word = type.name) ∧ k = key.toList ++ advancedSuffix.toList ∧
        isTruthy v = holds := by
  simp only [← ofName_eq_ok_iff, ← dropSuffix?_eq_some_iff]
  unfold Record.ofParts
  cases CacheType.ofName word with
  | error e => simp
  | ok t =>
    cases hd : dropSuffix? advancedSuffix.toList k with
    | none => simp
    | some base => simp [String.ofList_eq]

/-- **A line marks an entry** if it is an entry with a key of that form and a true value. -/
theorem ofLine_eq_advanced_iff (hn : '\n' ∉ line) :
    Record.ofLine line = .advanced key true ↔ Marks line key := by
  rw [ofLine_iff (p := fun x => x = .advanced key true) hn (by simp) (by simp) (by simp)]
  refine and_congr_right fun _ => ?_
  simp only [ofParts_eq_advanced_iff, String.ofList_eq]
  constructor
  · rintro ⟨k, kind, value, hentry, ⟨type, rfl⟩, rfl, htrue⟩
    exact ⟨type, value, hentry, htrue⟩
  · rintro ⟨type, value, hentry, htrue⟩
    exact ⟨_, _, value, hentry, ⟨type, rfl⟩, rfl, htrue⟩

theorem ofLine_eq_entry_iff_holdsEntry (hn : '\n' ∉ line) :
    Record.ofLine line = .entry key type value ↔ HoldsEntry line key type value := by
  have hsuffix : dropSuffix? advancedSuffix.toList key.toList = none ↔
      ¬ advancedSuffix.toList <:+ key.toList := by
    rw [Option.eq_none_iff_forall_ne_some]
    constructor
    · rintro h ⟨u, hu⟩
      exact h u (dropSuffix?_eq_some_iff.2 hu.symm)
    · intro h u hu
      exact h ⟨u, (dropSuffix?_eq_some_iff.1 hu).symm⟩
  rw [ofLine_eq_entry_iff hn, hsuffix]
  rfl

/-! ## What lines say together -/

/-- The texts of the documentation since the last assignment. -/
def Documented (lines texts : List (List Char)) : Prop :=
  ∃ u v, lines = u ++ v ∧ (∀ l ∈ u.getLast?, IsAssignment l) ∧ (∀ l ∈ v, ¬ IsAssignment l) ∧
    texts = v.filterMap docText?

/-- The last entry with its key, and the documentation before it, joined by spaces. -/
def LastEntry (lines : List (List Char)) (e : CacheEntry) : Prop :=
  ∃ before line after, lines = before ++ line :: after ∧ HoldsEntry line e.key e.type e.value ∧
    (∀ l ∈ after, ¬ HasKey l e.key) ∧
    ∃ texts, Documented before texts ∧ e.docs = String.ofList (trim ([' '].intercalate texts))

/-- The first entry with one key comes before every entry with the other. -/
def Precedes (lines : List (List Char)) (key key' : String) : Prop :=
  ∃ before line after, lines = before ++ line :: after ∧ HasKey line key ∧
    ∀ l ∈ before ++ [line], ¬ HasKey l key'

theorem exists_mem_concat {l : List Char} {p : List Char → Prop} :
    (∃ x ∈ lines ++ [l], p x) ↔ (∃ x ∈ lines, p x) ∨ p l := by
  simp only [List.mem_append, List.mem_singleton, or_and_right, exists_or, exists_eq_left]

theorem Precedes.ne {key' : String} (h : Precedes lines key key') : key ≠ key' := by
  rintro rfl
  obtain ⟨before, line, after, -, hkey, hnot⟩ := h
  exact hnot line (by simp) hkey

theorem Precedes.concat {key' : String} (h : Precedes lines key key') (l : List Char) :
    Precedes (lines ++ [l]) key key' := by
  obtain ⟨before, line, after, rfl, hkey, hnot⟩ := h
  exact ⟨before, line, after ++ [l], by simp, hkey, hnot⟩

theorem LastEntry.concat {e : CacheEntry} {l : List Char} (h : LastEntry lines e)
    (hl : ¬ HasKey l e.key) : LastEntry (lines ++ [l]) e := by
  obtain ⟨before, line, after, rfl, hentry, hafter, hdocs⟩ := h
  refine ⟨before, line, after ++ [l], by simp, hentry, fun x hx => ?_, hdocs⟩
  rcases List.mem_append.1 hx with hx | hx
  · exact hafter x hx
  · rw [List.mem_singleton.1 hx]
    exact hl

/-- Documentation that is written with a space after each part is joined by spaces once it is
trimmed. -/
theorem trim_spaced (texts : List (List Char)) :
    trim (texts.flatMap (· ++ [' '])) = trim ([' '].intercalate texts) := by
  have hspaced : ∀ t ts, (t :: ts).flatMap (· ++ [' ']) = [' '].intercalate (t :: ts) ++ [' '] := by
    intro t ts
    induction ts generalizing t with
    | nil => simp [List.intercalate]
    | cons t' ts ih =>
      rw [List.flatMap_cons, ih]
      simp [List.intercalate]
  cases texts with
  | nil => rfl
  | cons t ts => rw [hspaced, trim_append_blank _ (by decide)]

/-! ## The reader -/

/-- The reader after lines. -/
def readAll (lines : List (List Char)) : Reader := lines.foldl Reader.add {}

theorem readAll_concat (lines : List (List Char)) (l : List Char) :
    readAll (lines ++ [l]) = (readAll lines).add l := by
  simp [readAll]

/-- A line that is no assignment goes with those before it. -/
theorem Documented.keep {texts : List (List Char)} {l : List Char} (h : Documented lines texts)
    (hl : ¬ IsAssignment l) : Documented (lines ++ [l]) (texts ++ [l].filterMap docText?) := by
  obtain ⟨u, v, rfl, hu, hv, rfl⟩ := h
  refine ⟨u, v ++ [l], by simp, hu, fun x hx => ?_, List.filterMap_append.symm⟩
  rcases List.mem_append.1 hx with hx | hx
  · exact hv x hx
  · rw [List.mem_singleton.1 hx]
    exact hl

/-- An assignment ends the documentation before it. -/
theorem Documented.ended {l : List Char} (hl : IsAssignment l) : Documented (lines ++ [l]) [] :=
  ⟨lines ++ [l], [], by simp, by simpa using hl, by simp, rfl⟩

/-- What a line does to the documentation. -/
theorem docs_add (r : Reader) (l : List Char) : (r.add l).docs =
    if (Record.ofLine l).isAssignment then []
    else r.docs ++ ([l].filterMap docText?).flatMap (· ++ [' ']) := by
  have hnone : (∀ t, Record.ofLine l ≠ .doc t) → docText? l = none := fun h =>
    Option.eq_none_iff_forall_ne_some.2 fun t ht => h t (ofLine_eq_doc_iff.2 ht)
  unfold Reader.add
  cases hrecord : Record.ofLine l with
  | doc t => simp [Record.isAssignment, ofLine_eq_doc_iff.1 hrecord]
  | blank => simp [Record.isAssignment, hnone (by simp [hrecord])]
  | malformed => simp [Record.isAssignment, hnone (by simp [hrecord])]
  | entry k t v => rfl
  | advanced k holds => rfl
  | unknownType e => rfl

/-- **The documentation that the reader holds** is that since the last assignment. -/
theorem documented_readAll (hn : ∀ l ∈ lines, '\n' ∉ l) :
    ∃ texts, Documented lines texts ∧ (readAll lines).docs = texts.flatMap (· ++ [' ']) := by
  induction lines using List.reverseRecOn with
  | nil => exact ⟨[], ⟨[], [], rfl, by simp, by simp, rfl⟩, rfl⟩
  | append_singleton lines l ih =>
    obtain ⟨texts, hbefore, hdocs⟩ := ih fun x hx => hn x (List.mem_append_left _ hx)
    have hl := isAssignment_ofLine_iff (hn l (by simp))
    rw [readAll_concat, docs_add]
    by_cases hassign : IsAssignment l
    · rw [if_pos (hl.2 hassign)]
      exact ⟨[], .ended hassign, rfl⟩
    · rw [if_neg (mt hl.1 hassign), hdocs, ← List.flatMap_append]
      exact ⟨_, hbefore.keep hassign, rfl⟩

/-- **The marks that the reader holds** are those of all lines. -/
theorem mem_advanced_readAll (hn : ∀ l ∈ lines, '\n' ∉ l) :
    key ∈ (readAll lines).advanced ↔ ∃ l ∈ lines, Marks l key := by
  induction lines using List.reverseRecOn with
  | nil => simp [readAll]
  | append_singleton lines l ih =>
    have hbefore := ih fun x hx => hn x (List.mem_append_left _ hx)
    have hlast : (∃ x ∈ lines ++ [l], Marks x key) ↔
        key ∈ (readAll lines).advanced ∨ Record.ofLine l = .advanced key true := by
      rw [hbefore, ofLine_eq_advanced_iff (hn l (by simp)), exists_mem_concat]
    rw [hlast, readAll_concat, Reader.add]
    cases hrecord : Record.ofLine l with
    | advanced k holds => cases holds <;> simp [eq_comm]
    | _ => simp

/-! ## The entries -/

/-- The keys of entries. -/
def keysOf (es : List CacheEntry) : List String := es.map CacheEntry.key

theorem keysOf_put (e : CacheEntry) (es : List CacheEntry) : keysOf (Reader.put e es) =
    if e.key ∈ keysOf es then keysOf es else keysOf es ++ [e.key] := by
  induction es with
  | nil => simp [Reader.put, keysOf]
  | cons f es ih =>
    rw [Reader.put]
    by_cases hf : f.key = e.key
    · simp [keysOf, hf]
    · have hne : ¬ e.key = f.key := fun h => hf h.symm
      have hcons : keysOf (f :: Reader.put e es) = f.key :: keysOf (Reader.put e es) := rfl
      have hmem : e.key ∈ keysOf (f :: es) ↔ e.key ∈ keysOf es := by simp [keysOf, hne]
      rw [if_neg hf, hcons, ih]
      simp only [hmem]
      split <;> rfl

/-- An entry takes the place of the one with its key. -/
theorem mem_put_of_nodup {e f : CacheEntry} {es : List CacheEntry} (hes : (keysOf es).Nodup)
    (h : f ∈ Reader.put e es) : f = e ∨ f ∈ es ∧ f.key ≠ e.key := by
  induction es with
  | nil => exact .inl (List.mem_singleton.1 h)
  | cons g es ih =>
    obtain ⟨hg, hes⟩ := List.nodup_cons.1 hes
    rw [Reader.put] at h
    split at h
    · rename_i hkey
      rcases List.mem_cons.1 h with rfl | h
      · exact .inl rfl
      · refine .inr ⟨List.mem_cons_of_mem _ h, fun hf => hg ?_⟩
        rw [hkey, ← hf]
        exact List.mem_map_of_mem h
    · rename_i hkey
      rcases List.mem_cons.1 h with rfl | h
      · exact .inr ⟨List.mem_cons_self, hkey⟩
      · exact (ih hes h).imp_right (And.imp_left (List.mem_cons_of_mem _))

/-- What a line does to the entries. -/
theorem entries_add (r : Reader) (l : List Char) :
    (∃ key type value, Record.ofLine l = .entry key type value ∧ (r.add l).entries =
      Reader.put { key, type, value, docs := String.ofList (trim r.docs) } r.entries) ∨
    (∀ key type value, Record.ofLine l ≠ .entry key type value) ∧
      (r.add l).entries = r.entries := by
  unfold Reader.add
  cases Record.ofLine l with
  | entry key type value => exact .inl ⟨key, type, value, rfl, rfl⟩
  | _ => exact .inr ⟨by simp, rfl⟩

/-- A line that is an entry has its key and no other. -/
theorem hasKey_iff (hn : '\n' ∉ line) (h : Record.ofLine line = .entry key type value)
    {key' : String} : HasKey line key' ↔ key' = key := by
  constructor
  · rintro ⟨type', value', h'⟩
    rw [← ofLine_eq_entry_iff_holdsEntry hn, h] at h'
    cases h'
    rfl
  · rintro rfl
    exact ⟨type, value, (ofLine_eq_entry_iff_holdsEntry hn).1 h⟩

/-- The entries are the last ones of their keys, in the order in which the keys came first, and
none is marked yet. -/
structure EntriesOf (lines : List (List Char)) (es : List CacheEntry) : Prop where
  ordered : (keysOf es).Pairwise (Precedes lines)
  keys : ∀ key, key ∈ keysOf es ↔ ∃ l ∈ lines, HasKey l key
  last : ∀ e ∈ es, LastEntry lines e ∧ e.advanced = false

namespace EntriesOf

variable {es : List CacheEntry} {e : CacheEntry} {l : List Char}

theorem nodup (h : EntriesOf lines es) : (keysOf es).Nodup := h.ordered.imp Precedes.ne

theorem ordered_concat (h : EntriesOf lines es) (l : List Char) :
    (keysOf es).Pairwise (Precedes (lines ++ [l])) :=
  h.ordered.imp fun hkeys => hkeys.concat l

theorem keys_concat (h : EntriesOf lines es) (l : List Char) (key : String) :
    (∃ x ∈ lines ++ [l], HasKey x key) ↔ key ∈ keysOf es ∨ HasKey l key := by
  rw [h.keys, exists_mem_concat]

/-- A line without a key changes nothing. -/
theorem keep (h : EntriesOf lines es) (hl : ∀ key, ¬ HasKey l key) :
    EntriesOf (lines ++ [l]) es where
  ordered := h.ordered_concat l
  keys key := by rw [h.keys_concat, or_iff_left (hl key)]
  last e he := ⟨(h.last e he).1.concat (hl _), (h.last e he).2⟩

/-- A key that no line had comes after all others. -/
theorem precedes_new (h : EntriesOf lines es) {new : String} (hnew : new ∉ keysOf es)
    (hkey : key ∈ keysOf es) (l : List Char) : Precedes (lines ++ [l]) key new := by
  obtain ⟨x, hx, hhas⟩ := (h.keys key).1 hkey
  obtain ⟨before, after, rfl⟩ := List.append_of_mem hx
  refine ⟨before, x, after ++ [l], by simp, hhas, fun y hy hhasy => hnew ?_⟩
  refine (h.keys new).2 ⟨y, ?_, hhasy⟩
  simp only [List.mem_append, List.mem_cons] at hy ⊢
  tauto

/-- **An entry takes the place of the one with its key**, or comes last. -/
theorem put (h : EntriesOf lines es) (hl : ∀ key, HasKey l key ↔ key = e.key)
    (he : LastEntry (lines ++ [l]) e) (hmark : e.advanced = false) :
    EntriesOf (lines ++ [l]) (Reader.put e es) where
  ordered := by
    rw [keysOf_put]
    split
    · exact h.ordered_concat l
    · rename_i hnew
      refine List.pairwise_append.2
        ⟨h.ordered_concat l, List.pairwise_singleton _ _, fun key hkey new hk => ?_⟩
      obtain rfl := List.mem_singleton.1 hk
      exact h.precedes_new hnew hkey l
  keys key := by
    rw [h.keys_concat, hl, keysOf_put]
    split
    · rename_i hold
      exact ⟨.inl, fun hkey => hkey.elim id fun heq => heq ▸ hold⟩
    · rw [List.mem_append, List.mem_singleton]
  last f hf := by
    rcases mem_put_of_nodup h.nodup hf with rfl | ⟨hf, hne⟩
    · exact ⟨he, hmark⟩
    · exact ⟨(h.last f hf).1.concat (mt (hl _).1 hne), (h.last f hf).2⟩

end EntriesOf

/-- **The entries that the reader holds** are those of its lines. -/
theorem entries_readAll (hn : ∀ l ∈ lines, '\n' ∉ l) : EntriesOf lines (readAll lines).entries := by
  induction lines using List.reverseRecOn with
  | nil =>
    exact ⟨.nil, fun key => by simp [readAll, keysOf], fun e he => absurd he (by simp [readAll])⟩
  | append_singleton lines l ih =>
    have hbefore : ∀ x ∈ lines, '\n' ∉ x := fun x hx => hn x (List.mem_append_left _ hx)
    have hl : '\n' ∉ l := hn l (by simp)
    rw [readAll_concat]
    rcases entries_add (readAll lines) l with ⟨key, type, value, hrecord, hput⟩ | ⟨hother, hsame⟩
    · -- the documentation in front of the line goes to its entry
      obtain ⟨texts, hdocumented, hdocs⟩ := documented_readAll hbefore
      rw [hput]
      refine (ih hbefore).put (fun _ => hasKey_iff hl hrecord) ?_ rfl
      refine ⟨lines, l, [], rfl, (ofLine_eq_entry_iff_holdsEntry hl).1 hrecord, by simp, texts,
        hdocumented, ?_⟩
      rw [hdocs, trim_spaced]
    · rw [hsame]
      refine (ih hbefore).keep fun key => ?_
      rintro ⟨type, value, h⟩
      exact hother key type value ((ofLine_eq_entry_iff_holdsEntry hl).2 h)

/-! ## The cache -/

/-- What lines say of an entry: it is the last one with its key, and it is advanced exactly if some
line marks it. -/
structure Says (lines : List (List Char)) (e : CacheEntry) : Prop where
  entry : LastEntry lines e
  marked : e.advanced = true ↔ ∃ l ∈ lines, Marks l e.key

theorem keysOf_mark (advanced : List String) (es : List CacheEntry) :
    keysOf (mark advanced es) = keysOf es := by
  unfold keysOf mark
  rw [List.map_map]
  refine List.map_congr_left fun e _ => ?_
  dsimp only [Function.comp]
  split <;> rfl

/-- An entry is found under its key. -/
theorem get?_eq_some_iff {c : Cache} {e : CacheEntry} (h : (keysOf c.entries).Nodup) :
    c.get? key = some e ↔ e ∈ c.entries ∧ e.key = key := by
  have hfound : ∀ {f}, c.get? key = some f → f ∈ c.entries ∧ f.key = key := by
    intro f hf
    have hkey := List.find?_some hf
    exact ⟨List.mem_of_find?_eq_some hf, eq_of_beq hkey⟩
  refine ⟨hfound, fun ⟨he, hkey⟩ => ?_⟩
  have hsome : (c.get? key).isSome = true :=
    List.find?_isSome.2 ⟨e, he, beq_iff_eq.2 hkey⟩
  obtain ⟨f, hf⟩ := Option.isSome_iff_exists.1 hsome
  obtain ⟨hfc, hfkey⟩ := hfound hf
  -- only one entry has the key
  rw [hf, List.inj_on_of_nodup_map h hfc he (hfkey.trans hkey.symm)]

/-- **The cache that a text describes is what its lines say**: no two entries share a key, the keys
come in the order of their first entries, each entry is what the lines say of it, and a key is found
exactly if some line is an entry with it. -/
theorem parse_means (text : List Char) :
    let lines := universalLines text
    let entries := (parse text).1.entries
    (keysOf entries).Nodup ∧ (keysOf entries).Pairwise (Precedes lines) ∧
    (∀ e ∈ entries, Says lines e ∧ ¬ advancedSuffix.toList <:+ e.key.toList) ∧
    ∀ key, (∀ e, (parse text).1.get? key = some e ↔ e ∈ entries ∧ e.key = key) ∧
      (((parse text).1.get? key).isSome = true ↔ ∃ l ∈ lines, HasKey l key) := by
  intro lines entries
  have hn : ∀ l ∈ lines, '\n' ∉ l := fun l hl => (not_mem_of_mem_universalLines hl).1
  have hread : EntriesOf lines (readAll lines).entries := entries_readAll hn
  have hmarked : entries = mark (readAll lines).advanced (readAll lines).entries := rfl
  have hsame : keysOf entries = keysOf (readAll lines).entries := by rw [hmarked, keysOf_mark]
  have hnodup : (keysOf entries).Nodup := hsame ▸ hread.nodup
  have hget : ∀ key e, (parse text).1.get? key = some e ↔ e ∈ entries ∧ e.key = key := fun key e =>
    get?_eq_some_iff hnodup
  refine ⟨hnodup, hsame ▸ hread.ordered, fun e he => ?_, fun key => ⟨hget key, ?_⟩⟩
  · rw [hmarked, mark] at he
    obtain ⟨f, hf, rfl⟩ := List.mem_map.1 he
    obtain ⟨hentry, hmark⟩ := hread.last f hf
    have hadvanced : f.key ∈ (readAll lines).advanced ↔ ∃ l ∈ lines, Marks l f.key :=
      mem_advanced_readAll hn
    have hplain : ¬ advancedSuffix.toList <:+ f.key.toList := by
      obtain ⟨_, _, _, _, ⟨_, _, h⟩, _⟩ := hentry
      exact h
    split
    · rename_i hcontains
      rw [List.contains_iff_mem, hadvanced] at hcontains
      exact ⟨⟨hentry, iff_of_true rfl hcontains⟩, hplain⟩
    · rename_i hcontains
      rw [List.contains_iff_mem, hadvanced] at hcontains
      exact ⟨⟨hentry, iff_of_false (by simp [hmark]) hcontains⟩, hplain⟩
  · rw [← hread.keys, ← hsame, Option.isSome_iff_exists]
    simp only [hget, keysOf, List.mem_map]

/-- A comment does not part an entry from its documentation, a mark may come first, and a second
entry with the same key takes the place of the first one. -/
example :
    let text := "A-ADVANCED:BOOL=1\n//x\nA:PATH=1\nB:PATH=2\r//y\n# z\n// w \nA:BOOL=ON"
    (parse text.toList).1.entries =
      [⟨"A", .bool, "ON", "y  w", true⟩, ⟨"B", .path, "2", "", false⟩] := by
  decide +kernel

end BuildDiagnostics.Cache
