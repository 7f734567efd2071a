import BuildDiagnostics.Cache
import BuildDiagnostics.Proofs.Readings
import BuildDiagnostics.Proofs.Text
import Mathlib.Data.String.Basic

/-!
# Lines of the cache

An entry is written as a line and read from one. Where a key ends is decided by what follows it:
`EntryLine` says which key, type and value a line holds, and `written` is the line of an entry. Such
a line holds what was written in every case (`entryLine_written`). But it is only asked for an entry
if it is no comment and no documentation, and a key that starts like one is written without quotes.

* `afterKey_eq_some_iff`, `parts_of_match_iff`: the pattern of an entry reads what `EntryLine` says.
* `entryLine_written`: the line of an entry that was read holds the same entry.
* `ofLine_iff`, `ofLine_eq_entry_iff`: what a line is to the reader, and which lines are entries.
* `entries_of_parse`: each entry of a cache was read from a line.
* `parse_render`: printing an entry and reading it again gives the entry, unless its key starts like
  a comment and is written without quotes.
-/

namespace BuildDiagnostics.Cache

open Text Pattern

variable {line key kind value s : List Char} {x : Reading}

/-! ## Which entry a line holds -/

/-- The text is what follows a key. -/
def Assigns (s kind value : List Char) : Prop :=
  s = ':' :: (kind ++ '=' :: value) ∧ ':' ∉ kind ∧ '=' ∉ kind

/-- A key may end before the text. -/
def EndsKey (s : List Char) : Prop := ∃ kind value, Assigns s kind value

/-- A key in quotes may end before the text. -/
def EndsQuotedKey (s : List Char) : Prop := ∃ r, s = '"' :: r ∧ EndsKey r

/-- The line holds an entry with its key in quotes. -/
def QuotedEntry (line key kind value : List Char) : Prop :=
  ∃ body rest, line = '"' :: body ∧ FirstPlace EndsQuotedKey body key ('"' :: rest) ∧
    Assigns rest kind value

/-- The line holds an entry if its key is not in quotes. -/
def PlainEntry (line key kind value : List Char) : Prop :=
  ∃ rest, FirstPlace EndsKey line key rest ∧ Assigns rest kind value

/-- The line holds an entry. Quotes are tried first. -/
def EntryLine (line key kind value : List Char) : Prop :=
  QuotedEntry line key kind value ∨
    (∀ k t v, ¬ QuotedEntry line k t v) ∧ PlainEntry line key kind value

/-! ## The pattern of an entry -/

/-- What reads a line after its key. -/
def afterKey : Continuation :=
  (text ":".toList).run <| (capture .kind (least fun c => c != ':')).run <|
    (text "=".toList).run <| (capture .value (most isInline)).run <|
      stop.run fun r => some (.start r)

/-- What is captured after the key. -/
def assignmentMarks (kind value : List Char) : Captures :=
  [.opened .kind (kind ++ '=' :: value), .closed .kind ('=' :: value), .opened .value value,
    .closed .value []]

/-- The key, the type and the value that a match has captured. -/
def parts (cs : Captures) : List Char × List Char × List Char :=
  ((cs.get? .quotedKey).getD (cs.get .key), cs.get .kind, cs.get .value)

theorem run_value (h : '\n' ∉ value) :
    (capture .value (most isInline)).run (stop.run fun r => some (.start r)) value =
      some ⟨[.opened .value value, .closed .value []], []⟩ := by
  rw [run, run, longest_of_all (isInline_of_not_mem h) rfl]
  rfl

theorem run_equals (h : '\n' ∉ s) :
    ((text "=".toList).run <| (capture .value (most isInline)).run <|
        stop.run fun r => some (.start r)) s = some x ↔
      ∃ value, s = '=' :: value ∧ x = ⟨[.opened .value value, .closed .value []], []⟩ := by
  rw [run_text_eq_some_iff]
  constructor
  · rintro ⟨v, rfl, hv⟩
    rw [run_value fun hm => h (List.mem_append_right _ hm)] at hv
    cases hv
    exact ⟨v, rfl, rfl⟩
  · rintro ⟨v, rfl, rfl⟩
    exact ⟨v, rfl, run_value fun hm => h (List.mem_cons_of_mem _ hm)⟩

/-- **After the key** come a colon, the type up to the first equals sign, and the value. -/
theorem afterKey_eq_some_iff (h : '\n' ∉ s) :
    afterKey s = some x ↔
      ∃ kind value, Assigns s kind value ∧ x = ⟨assignmentMarks kind value, []⟩ := by
  have hequals : ∀ {r}, '\n' ∉ r → ∀ t u,
      FirstPlace (fun v => (((text "=".toList).run <| (capture .value (most isInline)).run <|
        stop.run fun r => some (.start r)) v).isSome = true) r t u ↔
        r = t ++ u ∧ '=' ∉ t ∧ ∃ w, u = '=' :: w := by
    intro r hr t u
    rw [← firstPlace_char_iff]
    refine FirstPlace.congr fun u v huv => ?_
    have hv : '\n' ∉ v := fun hm => hr (huv ▸ List.mem_append_right u hm)
    rw [Option.isSome_iff_exists]
    simp only [run_equals hv]
    exact ⟨fun ⟨_, w, hw, _⟩ => ⟨w, hw⟩, fun ⟨w, hw⟩ => ⟨_, w, hw, rfl⟩⟩
  unfold afterKey
  rw [run_text_eq_some_iff]
  constructor
  · rintro ⟨r, rfl, hr⟩
    have hn : '\n' ∉ r := fun hm => h (List.mem_append_right _ hm)
    rw [run_capture_least_iff] at hr
    obtain ⟨t, u, y, hplace, ht, hy, rfl⟩ := hr
    obtain ⟨rfl, heq, w, rfl⟩ := (hequals hn t u).1 hplace
    obtain ⟨v, hv, rfl⟩ := (run_equals fun hm => hn (List.mem_append_right t hm)).1 hy
    cases hv
    exact ⟨t, w, ⟨rfl, fun hm => absurd (ht _ hm) (by simp), heq⟩, rfl⟩
  · rintro ⟨t, v, ⟨rfl, hcolon, heq⟩, rfl⟩
    have hn : '\n' ∉ t ++ '=' :: v := fun hm => h (List.mem_cons_of_mem _ hm)
    refine ⟨t ++ '=' :: v, rfl, ?_⟩
    rw [run_capture_least_iff]
    refine ⟨t, '=' :: v, _, (hequals hn _ _).2 ⟨rfl, heq, v, rfl⟩, ?_,
      (run_equals fun hm => hn (List.mem_append_right t hm)).2 ⟨v, rfl, rfl⟩, rfl⟩
    intro c hc
    have hne : c ≠ ':' := by rintro rfl; exact hcolon hc
    simpa using hne

theorem isSome_afterKey (h : '\n' ∉ s) : (afterKey s).isSome = true ↔ EndsKey s := by
  rw [Option.isSome_iff_exists]
  simp only [afterKey_eq_some_iff h]
  exact ⟨fun ⟨_, kind, value, hs, _⟩ => ⟨kind, value, hs⟩,
    fun ⟨kind, value, hs⟩ => ⟨_, kind, value, hs, rfl⟩⟩

theorem isSome_quotedEnd (h : '\n' ∉ s) :
    ((text "\"".toList).run afterKey s).isSome = true ↔ EndsQuotedKey s := by
  rw [Option.isSome_iff_exists]
  simp only [run_text_eq_some_iff]
  constructor
  · rintro ⟨x, r, rfl, hr⟩
    have hn : '\n' ∉ r := fun hm => h (List.mem_append_right _ hm)
    exact ⟨r, rfl, (isSome_afterKey hn).1 (Option.isSome_iff_exists.2 ⟨x, hr⟩)⟩
  · rintro ⟨r, rfl, hr⟩
    have hn : '\n' ∉ r := fun hm => h (List.mem_cons_of_mem _ hm)
    obtain ⟨x, hx⟩ := Option.isSome_iff_exists.1 ((isSome_afterKey hn).2 hr)
    exact ⟨x, r, rfl, hx⟩

theorem run_quoted_iff (h : '\n' ∉ line) :
    ("\"" ++ capture .quotedKey (least isInline) ++ "\"" : Pattern).run afterKey line = some x ↔
      ∃ body key rest kind value, line = '"' :: body ∧
        FirstPlace EndsQuotedKey body key ('"' :: rest) ∧ Assigns rest kind value ∧
        x = ⟨.opened .quotedKey body :: .closed .quotedKey ('"' :: rest) ::
          assignmentMarks kind value, []⟩ := by
  have hplace : ∀ {body}, '\n' ∉ body → ∀ t r,
      FirstPlace (fun r => ((text "\"".toList).run afterKey r).isSome = true) body t r ↔
        FirstPlace EndsQuotedKey body t r := fun hb t r =>
    FirstPlace.congr fun u v huv => isSome_quotedEnd fun hm => hb (huv ▸ List.mem_append_right u hm)
  change (text "\"".toList).run ((capture .quotedKey (least isInline)).run
    ((text "\"".toList).run afterKey)) line = some x ↔ _
  rw [run_text_eq_some_iff]
  constructor
  · rintro ⟨body, rfl, hbody⟩
    have hn : '\n' ∉ body := fun hm => h (List.mem_append_right _ hm)
    rw [run_capture_least_iff] at hbody
    obtain ⟨key, r, y, hkey, -, hy, rfl⟩ := hbody
    rw [hplace hn] at hkey
    obtain ⟨rest, rfl, hrest⟩ := run_text_eq_some_iff.1 hy
    have hnr : '\n' ∉ rest := fun hm => hn (hkey.split ▸
      List.mem_append_right key (List.mem_append_right _ hm))
    obtain ⟨kind, value, hassigns, rfl⟩ := (afterKey_eq_some_iff hnr).1 hrest
    exact ⟨body, key, rest, kind, value, rfl, hkey, hassigns, rfl⟩
  · rintro ⟨body, key, rest, kind, value, rfl, hkey, hassigns, rfl⟩
    have hn : '\n' ∉ body := fun hm => h (List.mem_cons_of_mem _ hm)
    have hb : '\n' ∉ key ++ '"' :: rest := hkey.split ▸ hn
    have hnr : '\n' ∉ rest := fun hm => hb (List.mem_append_right key (List.mem_cons_of_mem _ hm))
    refine ⟨body, rfl, ?_⟩
    rw [run_capture_least_iff]
    exact ⟨key, '"' :: rest, _, (hplace hn _ _).2 hkey,
      isInline_of_not_mem fun hm => hb (List.mem_append_left _ hm),
      run_text_eq_some_iff.2 ⟨rest, rfl, (afterKey_eq_some_iff hnr).2 ⟨kind, value, hassigns, rfl⟩⟩,
      rfl⟩

theorem run_plain_iff (h : '\n' ∉ line) :
    (capture .key (least isInline)).run afterKey line = some x ↔
      ∃ key rest kind value, FirstPlace EndsKey line key rest ∧ Assigns rest kind value ∧
        x = ⟨.opened .key line :: .closed .key rest :: assignmentMarks kind value, []⟩ := by
  have hplace : ∀ t r, FirstPlace (fun r => (afterKey r).isSome = true) line t r ↔
      FirstPlace EndsKey line t r := fun t r =>
    FirstPlace.congr fun u v huv => isSome_afterKey fun hm => h (huv ▸ List.mem_append_right u hm)
  rw [run_capture_least_iff]
  constructor
  · rintro ⟨key, rest, y, hkey, -, hy, rfl⟩
    have hnr : '\n' ∉ rest := fun hm => h (hkey.split ▸ List.mem_append_right key hm)
    obtain ⟨kind, value, hassigns, rfl⟩ := (afterKey_eq_some_iff hnr).1 hy
    exact ⟨key, rest, kind, value, (hplace _ _).1 hkey, hassigns, rfl⟩
  · rintro ⟨key, rest, kind, value, hkey, hassigns, rfl⟩
    have hb : '\n' ∉ key ++ rest := hkey.split ▸ h
    have hnr : '\n' ∉ rest := fun hm => hb (List.mem_append_right key hm)
    exact ⟨key, rest, _, (hplace _ _).2 hkey,
      isInline_of_not_mem fun hm => hb (List.mem_append_left _ hm),
      (afterKey_eq_some_iff hnr).2 ⟨kind, value, hassigns, rfl⟩, rfl⟩

/-! ## The captured parts -/

theorem get_assignmentMarks (f : Field) (s r kind value : List Char) (hk : f ≠ .kind)
    (hv : f ≠ .value) :
    Captures.get (.opened f s :: .closed f r :: assignmentMarks kind value) .kind = kind ∧
      Captures.get (.opened f s :: .closed f r :: assignmentMarks kind value) .value = value := by
  simp [assignmentMarks, Captures.get, Captures.get?, Captures.restOf?, hk, hv]

theorem parts_quoted (key rest kind value : List Char) :
    parts (.opened .quotedKey (key ++ rest) :: .closed .quotedKey rest ::
      assignmentMarks kind value) = (key, kind, value) := by
  obtain ⟨hkind, hvalue⟩ :=
    get_assignmentMarks .quotedKey (key ++ rest) rest kind value (by decide) (by decide)
  unfold parts
  rw [hkind, hvalue, get?_capture, Option.getD_some]

theorem parts_plain (key rest kind value : List Char) :
    parts (.opened .key (key ++ rest) :: .closed .key rest :: assignmentMarks kind value) =
      (key, kind, value) := by
  obtain ⟨hkind, hvalue⟩ :=
    get_assignmentMarks .key (key ++ rest) rest kind value (by decide) (by decide)
  have hquoted : Captures.get? (.opened .key (key ++ rest) :: .closed .key rest ::
      assignmentMarks kind value) .quotedKey = none := by
    simp [Captures.get?, assignmentMarks]
  unfold parts
  rw [hkind, hvalue, hquoted, Option.getD_none, Captures.get, get?_capture, Option.getD_some]

theorem parts_quoted_iff (h : '\n' ∉ line) :
    (("\"" ++ capture .quotedKey (least isInline) ++ "\"" : Pattern).run afterKey line).map
        (fun x => parts x.captures) = some (key, kind, value) ↔
      QuotedEntry line key kind value := by
  simp only [Option.map_eq_some_iff, run_quoted_iff h]
  constructor
  · rintro ⟨_, ⟨body, k, rest, t, v, rfl, hplace, hassigns, rfl⟩, hparts⟩
    rw [hplace.split, parts_quoted] at hparts
    cases hparts
    exact ⟨body, rest, rfl, hplace, hassigns⟩
  · rintro ⟨body, rest, rfl, hplace, hassigns⟩
    refine ⟨_, ⟨body, key, rest, kind, value, rfl, hplace, hassigns, rfl⟩, ?_⟩
    rw [hplace.split, parts_quoted]

theorem parts_plain_iff (h : '\n' ∉ line) :
    ((capture .key (least isInline)).run afterKey line).map (fun x => parts x.captures) =
        some (key, kind, value) ↔ PlainEntry line key kind value := by
  simp only [Option.map_eq_some_iff, run_plain_iff h]
  constructor
  · rintro ⟨_, ⟨k, rest, t, v, hplace, hassigns, rfl⟩, hparts⟩
    have hline := hplace.split
    rw [hline, parts_plain] at hparts
    cases hparts
    exact ⟨rest, hplace, hassigns⟩
  · rintro ⟨rest, hplace, hassigns⟩
    refine ⟨_, ⟨key, rest, kind, value, hplace, hassigns, rfl⟩, ?_⟩
    rw [hplace.split, parts_plain]

/-- **The pattern of an entry reads the entry that the line holds.** -/
theorem parts_of_match_iff (h : '\n' ∉ line) :
    (entryPattern.match? line).map parts = some (key, kind, value) ↔
      EntryLine line key kind value := by
  have hmatch : (entryPattern.match? line).map parts =
      ((("\"" ++ capture .quotedKey (least isInline) ++ "\"" : Pattern).run afterKey line).map
        fun x => parts x.captures).or
      (((capture .key (least isInline)).run afterKey line).map fun x => parts x.captures) := by
    rw [match?, read?_eq_run, Option.map_map, ← Option.map_or]
    rfl
  rw [hmatch, Option.or_eq_some_iff, parts_quoted_iff h, parts_plain_iff h,
    Option.eq_none_iff_forall_ne_some]
  have hnone : (∀ a, ((("\"" ++ capture .quotedKey (least isInline) ++ "\"" : Pattern).run afterKey
      line).map fun x => parts x.captures) ≠ some a) ↔ ∀ k t v, ¬ QuotedEntry line k t v := by
    simp only [Prod.forall, ne_eq, parts_quoted_iff h]
  rw [hnone]
  rfl

/-! ## The line of an entry -/

/-- A key, a type and a value as a line. -/
def written (key kind value : List Char) : List Char :=
  (if CacheEntry.needsQuotes key then '"' :: (key ++ ['"']) else key) ++
    ':' :: (kind ++ '=' :: value)

theorem toList_render (e : CacheEntry) :
    e.render.toList = written e.key.toList e.type.name.toList e.value.toList := by
  unfold CacheEntry.render written
  split <;> simp [String.toList_append]

/-- **Before the place where a plain key ends**, it would not end in quotes either. -/
theorem not_endsQuotedKey {u w rest : List Char} (h : FirstPlace EndsKey line (u ++ w) rest)
    (hw : w ≠ []) : ¬ EndsQuotedKey (w ++ '"' :: rest) := by
  rintro ⟨_, hr, t, v, ⟨rfl, hcolon, heq⟩⟩
  obtain ⟨t', v', hrest, -, -⟩ := h.holds
  have hline := h.split
  rcases w with _ | ⟨c, _ | ⟨d, w⟩⟩
  · exact hw rfl
  · simp at hr
  · simp only [List.cons_append, List.cons.injEq] at hr
    obtain ⟨rfl, rfl, hr⟩ := hr
    -- the type would end before the key does, or else hold the colon after the key
    rcases List.append_eq_append_iff.1 hr with ⟨a, rfl, ha⟩ | ⟨a, rfl, ha⟩
    · rcases a with _ | ⟨b, _ | ⟨b', a⟩⟩
      · simp at ha
      · simp [hrest] at ha
      · simp only [hrest, List.cons_append, List.cons.injEq] at ha
        obtain ⟨-, rfl, -⟩ := ha
        exact hcolon (by simp)
    · rcases a with _ | ⟨b, a⟩
      · simp at ha
      · simp only [List.cons_append, List.cons.injEq] at ha
        obtain ⟨rfl, -⟩ := ha
        have hle := h.first (u ++ ['"']) (':' :: (t ++ '=' :: (a ++ rest))) (by simp [hline])
          ⟨t, a ++ rest, rfl, hcolon, heq⟩
        simp only [List.length_append, List.length_cons, List.length_nil] at hle
        omega

/-- A plain entry can be written with its key in quotes. -/
theorem PlainEntry.quoted (h : PlainEntry line key kind value) :
    QuotedEntry ('"' :: (key ++ '"' :: ':' :: (kind ++ '=' :: value))) key kind value := by
  obtain ⟨rest, hplace, hassigns⟩ := h
  have hrest := hassigns.1
  rw [← hrest]
  refine ⟨_, rest, rfl, ⟨rfl, ⟨rest, rfl, hplace.holds⟩, fun u v huv hv => ?_⟩, hassigns⟩
  rcases List.append_eq_append_iff.1 huv with ⟨a, rfl, -⟩ | ⟨w, rfl, rfl⟩
  · simp
  · by_cases hw : w = []
    · simp [hw]
    · exact absurd hv (not_endsQuotedKey hplace hw)

/-- A key without a colon ends at the first colon. -/
theorem plainEntry_of_not_mem (h : ':' ∉ key) (hkind : ':' ∉ kind) (heq : '=' ∉ kind) :
    PlainEntry (key ++ ':' :: (kind ++ '=' :: value)) key kind value := by
  refine ⟨_, ⟨rfl, ⟨kind, value, rfl, hkind, heq⟩, ?_⟩, rfl, hkind, heq⟩
  rintro u _ huv ⟨t, v, rfl, -, -⟩
  exact (firstPlace_char_iff.2 ⟨rfl, h, _, rfl⟩).first u _ huv ⟨_, rfl⟩

theorem needsQuotes_eq_false_iff :
    CacheEntry.needsQuotes key = false ↔ ':' ∉ key ∧ key.head? ≠ some '"' := by
  simp [CacheEntry.needsQuotes]

theorem not_quotedEntry {k t v : List Char} (hkey : key.head? ≠ some '"') :
    ¬ QuotedEntry (key ++ ':' :: s) k t v := by
  rintro ⟨body, rest, hline, -, -⟩
  cases key with
  | nil => simp at hline
  | cons c key =>
    obtain ⟨rfl, -⟩ := List.cons.inj hline
    exact hkey rfl

/-- **The line of an entry that was read holds the same entry.** -/
theorem entryLine_written (h : EntryLine line key kind value) :
    EntryLine (written key kind value) key kind value := by
  unfold written
  cases hq : CacheEntry.needsQuotes key with
  | true =>
    rw [if_pos rfl]
    left
    rcases h with ⟨body, rest, -, hplace, hassigns⟩ | ⟨-, h⟩
    · -- the line is as it was
      refine ⟨body, rest, ?_, hplace, hassigns⟩
      rw [hplace.split, hassigns.1]
      simp
    · simpa using h.quoted
  | false =>
    rw [if_neg (by decide)]
    obtain ⟨hcolon, hhead⟩ := needsQuotes_eq_false_iff.1 hq
    obtain ⟨hkind, heq⟩ : ':' ∉ kind ∧ '=' ∉ kind := by
      rcases h with ⟨_, _, -, -, hassigns⟩ | ⟨-, _, -, hassigns⟩
      · exact hassigns.2
      · exact hassigns.2
    exact .inr ⟨fun k t v => not_quotedEntry hhead, plainEntry_of_not_mem hcolon hkind heq⟩

/-! ## Which lines are entries -/

/-- The line is a comment or documentation, whatever else it looks like. -/
def isRemark (line : List Char) : Bool :=
  (trimStart line).head? == some '#' || (dropPrefix? ['/', '/'] line).isSome

theorem ofName_eq_ok_iff {word : String} {t : CacheType} :
    CacheType.ofName word = .ok t ↔ word = t.name := by
  constructor
  · intro h
    unfold CacheType.ofName at h
    split at h
    · rename_i t' hfind
      cases h
      have hname := List.find?_some hfind
      exact (eq_of_beq hname).symm
    · exact absurd h (by simp)
  · rintro rfl
    cases t <;> rfl

theorem ofParts_eq_entry_iff {word k v : String} {t : CacheType} :
    Record.ofParts key word value = .entry k t v ↔
      (key = k.toList ∧ word = t.name ∧ value = v.toList) ∧
        dropSuffix? advancedSuffix.toList k.toList = none := by
  rw [← ofName_eq_ok_iff]
  unfold Record.ofParts
  cases CacheType.ofName word with
  | error e => simp
  | ok t' =>
    dsimp only
    constructor
    · intro h
      split at h
      · exact absurd h (by simp)
      · rename_i hsuffix
        cases h
        simp [hsuffix]
    · rintro ⟨⟨rfl, ht, rfl⟩, hsuffix⟩
      rw [hsuffix]
      cases ht
      simp

theorem ofLine_of_isRemark (h : isRemark line = true) :
    Record.ofLine line = .blank ∨ ∃ text, Record.ofLine line = .doc text := by
  unfold isRemark at h
  unfold Record.ofLine
  split
  · exact .inl rfl
  · rename_i hblank
    rw [Bool.not_eq_true, Bool.or_eq_false_iff] at hblank
    rw [hblank.2, Bool.false_or] at h
    obtain ⟨text, htext⟩ := Option.isSome_iff_exists.1 h
    rw [htext]
    exact .inr ⟨text, rfl⟩

theorem ofLine_of_not_isRemark (hne : line ≠ []) (h : isRemark line = false) :
    Record.ofLine line =
      match (entryPattern.match? line).map parts with
      | none => .malformed
      | some (key, kind, value) => .ofParts key (String.ofList kind) value := by
  obtain ⟨hhash, hslashes⟩ := Bool.or_eq_false_iff.1 h
  have hempty : line.isEmpty = false := by simpa using hne
  have hnone : dropPrefix? ['/', '/'] line = none := by
    rw [← Option.not_isSome_iff_eq_none, hslashes]
    decide
  unfold Record.ofLine
  rw [hempty, hhash, hnone]
  cases entryPattern.match? line <;> rfl

/-- **What a line is besides a remark** is the record of what it holds as an entry. -/
theorem ofLine_iff (h : '\n' ∉ line) {p : Record → Prop} (hblank : ¬ p .blank)
    (hdoc : ∀ text, ¬ p (.doc text)) (hmalformed : ¬ p .malformed) :
    p (Record.ofLine line) ↔ isRemark line = false ∧
      ∃ key kind value, EntryLine line key kind value ∧
        p (.ofParts key (String.ofList kind) value) := by
  simp only [← parts_of_match_iff h]
  by_cases hne : line = []
  · -- an empty line is no remark, but is not read as an entry either
    subst hne
    have hnone : entryPattern.match? [] = none := by decide
    simp [hnone, hblank, Record.ofLine]
  cases hr : isRemark line with
  | true =>
    rcases ofLine_of_isRemark hr with hl | ⟨text, hl⟩ <;> simp [hl, hblank, hdoc]
  | false =>
    rw [ofLine_of_not_isRemark hne hr]
    cases (entryPattern.match? line).map parts with
    | none => simp [hmalformed]
    | some x => simp [Prod.ext_iff]

/-- **A line is an entry** if it holds one, is no remark, and its key does not mark another one. -/
theorem ofLine_eq_entry_iff (h : '\n' ∉ line) {k v : String} {t : CacheType} :
    Record.ofLine line = .entry k t v ↔
      isRemark line = false ∧ EntryLine line k.toList t.name.toList v.toList ∧
        dropSuffix? advancedSuffix.toList k.toList = none := by
  rw [ofLine_iff (p := fun x => x = .entry k t v) h (by simp) (by simp) (by simp)]
  refine and_congr_right fun _ => ?_
  simp only [ofParts_eq_entry_iff, String.ofList_eq]
  constructor
  · rintro ⟨key, kind, value, hentry, ⟨rfl, rfl, rfl⟩, hsuffix⟩
    exact ⟨hentry, hsuffix⟩
  · rintro ⟨hentry, hsuffix⟩
    exact ⟨_, _, _, hentry, ⟨rfl, rfl, rfl⟩, hsuffix⟩

/-! ## Printing and reading -/

/-- A colon does not make a key a remark. -/
theorem isRemark_append_colon (key s : List Char) : isRemark (key ++ ':' :: s) = isRemark key := by
  have hhash : ((trimStart (key ++ ':' :: s)).head? == some '#') =
      ((trimStart key).head? == some '#') := by
    have hblank : isBlank ':' = false := by decide
    unfold trimStart
    rw [List.dropWhile_append]
    split
    · rename_i hkey
      rw [List.isEmpty_iff.1 hkey, List.dropWhile_cons_of_neg (by simp [hblank])]
      rfl
    · rename_i hkey
      have hne : key.dropWhile isBlank ≠ [] := by simpa using hkey
      obtain ⟨c, t, hct⟩ := List.exists_cons_of_ne_nil hne
      rw [hct]
      rfl
  have hslashes : (dropPrefix? ['/', '/'] (key ++ ':' :: s)).isSome =
      (dropPrefix? ['/', '/'] key).isSome := by
    rcases key with _ | ⟨c, _ | ⟨d, key⟩⟩
    · rfl
    · by_cases hc : '/' = c <;> simp [dropPrefix?, hc]
    · by_cases hc : '/' = c
      · by_cases hd : '/' = d
        · simp [dropPrefix?, ← hc, ← hd]
        · simp [dropPrefix?, hd]
      · simp [dropPrefix?, hc]
  rw [isRemark, isRemark, hhash, hslashes]

/-- A key in quotes hides what it starts with. -/
theorem isRemark_written : isRemark (written key kind value) =
    (!CacheEntry.needsQuotes key && isRemark key) := by
  unfold written
  cases hq : CacheEntry.needsQuotes key with
  | true =>
    have hblank : isBlank '"' = false := by decide
    simp [isRemark, trimStart, dropPrefix?, hblank]
  | false =>
    rw [if_neg (by decide), isRemark_append_colon]
    rfl

theorem not_mem_written {c : Char} (hline : c ∉ line) (hquote : c ≠ '"')
    (h : EntryLine line key kind value) : c ∉ written key kind value := by
  have hparts : c ∉ key ++ ':' :: (kind ++ '=' :: value) := by
    rcases h with ⟨body, rest, rfl, hplace, hassigns⟩ | ⟨-, rest, hplace, hassigns⟩
    · rw [hplace.split, hassigns.1] at hline
      simp only [List.mem_cons, List.mem_append, not_or] at hline ⊢
      exact ⟨hline.2.1, hline.2.2.2⟩
    · rwa [hplace.split, hassigns.1] at hline
  unfold written
  split
  · simp only [List.mem_cons, List.mem_append, not_or] at hparts ⊢
    exact ⟨⟨hquote, hparts.1, hquote, List.not_mem_nil⟩, hparts.2⟩
  · exact hparts

theorem mem_put {e f : CacheEntry} {es : List CacheEntry} (h : e ∈ Reader.put f es) :
    e = f ∨ e ∈ es := by
  induction es with
  | nil => exact .inl (List.mem_singleton.1 h)
  | cons g es ih =>
    rw [Reader.put] at h
    split at h
    · rcases List.mem_cons.1 h with rfl | h
      · exact .inl rfl
      · exact .inr (List.mem_cons_of_mem _ h)
    · rcases List.mem_cons.1 h with rfl | h
      · exact .inr List.mem_cons_self
      · exact (ih h).imp_right (List.mem_cons_of_mem _)

/-- A line adds the entry that it is. -/
theorem mem_entries_add {r : Reader} {e : CacheEntry} (h : e ∈ (r.add line).entries) :
    e ∈ r.entries ∨ Record.ofLine line = .entry e.key e.type e.value := by
  unfold Reader.add at h
  split at h
  case h_6 k t v hl =>
    rcases mem_put h with rfl | h
    · exact .inr hl
    · exact .inl h
  all_goals exact .inl h

/-- **Each entry of a cache was read from a line.** -/
theorem entries_of_parse {text : List Char} {e : CacheEntry} (h : e ∈ (parse text).1.entries) :
    ∃ line ∈ universalLines text, Record.ofLine line = .entry e.key e.type e.value := by
  have key : ∀ (lines : List (List Char)) (r : Reader) (e : CacheEntry),
      e ∈ (lines.foldl Reader.add r).entries →
        e ∈ r.entries ∨ ∃ line ∈ lines, Record.ofLine line = .entry e.key e.type e.value := by
    intro lines
    induction lines with
    | nil => exact fun r e he => .inl he
    | cons l lines ih =>
      intro r e he
      rcases ih (r.add l) e he with he | ⟨line, hline, hl⟩
      · rcases mem_entries_add he with he | hl
        · exact .inl he
        · exact .inr ⟨l, List.mem_cons_self, hl⟩
      · exact .inr ⟨line, List.mem_cons_of_mem _ hline, hl⟩
  unfold parse mark at h
  obtain ⟨f, hf, rfl⟩ := List.mem_map.1 h
  -- a mark changes nothing of what the line says
  have hread := (key _ _ f hf).resolve_left List.not_mem_nil
  split <;> exact hread

/-- A text of one line has the entry that the line is, or none. -/
theorem parse_of_not_mem (hn : '\n' ∉ line) (hr : '\r' ∉ line) :
    (parse line).1.entries = match Record.ofLine line with
      | .entry key type value => [{ key, type, value }]
      | _ => [] := by
  unfold parse
  rw [universalLines_of_not_mem hn hr, List.foldl_cons, List.foldl_nil]
  unfold Reader.add
  cases Record.ofLine line <;> rfl

/-- **Printing an entry and reading it again gives the entry**, without its documentation and marks,
unless its line is a remark: then it gives nothing. The line is a remark exactly if the key starts
like one and is written without quotes. -/
theorem parse_render {text : List Char} {e : CacheEntry} (h : e ∈ (parse text).1.entries) :
    (parse e.render.toList).1.entries =
      if !CacheEntry.needsQuotes e.key.toList && isRemark e.key.toList then []
      else [{ key := e.key, type := e.type, value := e.value }] := by
  obtain ⟨line, hline, hread⟩ := entries_of_parse h
  obtain ⟨hn, hr⟩ := not_mem_of_mem_universalLines hline
  obtain ⟨-, hentry, hsuffix⟩ := (ofLine_eq_entry_iff hn).1 hread
  have hn' := not_mem_written hn (by decide) hentry
  rw [toList_render, parse_of_not_mem hn' (not_mem_written hr (by decide) hentry),
    ← isRemark_written]
  cases hremark : isRemark (written e.key.toList e.type.name.toList e.value.toList) with
  | true =>
    rcases ofLine_of_isRemark hremark with hl | ⟨doc, hl⟩ <;> rw [hl] <;> rfl
  | false =>
    rw [(ofLine_eq_entry_iff hn').2 ⟨hremark, entryLine_written hentry, hsuffix⟩]
    rfl

/-- A key with colons that is written without quotes. -/
theorem parse_render_colons :
    let text := "// where\r\na:b:PATH=x=\"y\"\n#".toList
    let e : CacheEntry := ⟨"a:b", .path, "x=\"y\"", "where", false⟩
    e ∈ (parse text).1.entries ∧ e.render = "\"a:b\":PATH=x=\"y\"" ∧
      (parse e.render.toList).1.entries = [{ key := e.key, type := e.type, value := e.value }] := by
  intro text e
  have h : e ∈ (parse text).1.entries := by decide +kernel
  have hkey : (!CacheEntry.needsQuotes e.key.toList && isRemark e.key.toList) = false := by
    decide +kernel
  refine ⟨h, by decide +kernel, ?_⟩
  rw [parse_render h, hkey]
  rfl

/-- **A key in quotes that starts like a comment is lost**: it is printed without its quotes. -/
theorem parse_render_comment :
    let e : CacheEntry := { key := "#foo", type := .string, value := "1" }
    (parse "\"#foo\":STRING=1".toList).1.entries = [e] ∧ e.render = "#foo:STRING=1" ∧
      (parse e.render.toList).1.entries = [] := by
  decide +kernel

end BuildDiagnostics.Cache
