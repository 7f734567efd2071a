import BuildDiagnostics.Proofs.CMakeLine
import BuildDiagnostics.Grammar.Iwyu

/-!
# The lines of a report on includes

A section of such a report starts with a heading that names a file. The headings of the lines to add
and of the lines to remove are told apart by their ends; one of the full list is read as such unless
its text ends like one of the other two. In a section of lines to remove an entry cites where the
line stands (`Entry`).

* `section?_add`, `section?_remove`, `section?_full`: what each heading opens.
* `section?_isSome_iff`: which lines are headings.
* `match?_entry`, `exists_entry_of_match?`: what is read of an entry, and that nothing else is one.
-/

namespace BuildDiagnostics.Iwyu

open Text Pattern

variable {f l t r s : List Char} {ms cs : Captures}

/-! ## Headings -/

/-- The end of the heading of the lines to add. -/
def addTitle : List Char := " should add these lines:".toList

/-- The end of the heading of the lines to remove. -/
def removeTitle : List Char := " should remove these lines:".toList

/-- The start of the heading of the full list. -/
def fullTitle : List Char := "The full include-list for ".toList

/-- The heading of the full list for a file. -/
def fullHeading (f : List Char) : Line := fullTitle ++ (f ++ [':'])

/-- A line that opens a section. -/
inductive IsHeading : Line → Prop
  | add (f : List Char) : '\n' ∉ f → IsHeading (f ++ addTitle)
  | remove (f : List Char) : '\n' ∉ f → IsHeading (f ++ removeTitle)
  | full (f : List Char) : '\n' ∉ f → IsHeading (fullHeading f)

/-- A heading ends in a colon. -/
theorem IsHeading.ends (h : IsHeading l) : ∃ u, l = u ++ [':'] := by
  cases h with
  | add f => exact ⟨f ++ addTitle.dropLast, by rw [List.append_assoc]; rfl⟩
  | remove f => exact ⟨f ++ removeTitle.dropLast, by rw [List.append_assoc]; rfl⟩
  | full f => exact ⟨fullTitle ++ f, by rw [List.append_assoc]; rfl⟩

/-- A file name before a fixed text at the end of the line. -/
theorem titled_reads_iff {title : String} :
    (capture .file (most isInline) ++ (title : Pattern) ++ stop).Reads s ms r ↔
      ∃ f, '\n' ∉ f ∧ s = f ++ title.toList ∧
        ms = [.opened .file s, .closed .file title.toList] ∧ r = [] := by
  constructor
  · rintro ⟨_, m₁, _, ⟨_, m₂, _, ⟨_, ⟨f, hf, rfl, rfl⟩, rfl⟩, ⟨rfl, rfl⟩, rfl⟩, ⟨rfl, rfl, rfl⟩,
      rfl⟩
    rw [List.append_nil]
    exact ⟨f, fun hn => absurd (hf _ hn) (by decide), rfl, rfl, rfl⟩
  · rintro ⟨f, hf, rfl, rfl, rfl⟩
    refine ⟨_, [], [], ⟨_, title.toList, [], ⟨[], ⟨f, isInline_of_not_mem hf, rfl, rfl⟩, rfl⟩,
      ⟨by rw [List.append_nil], rfl⟩, rfl⟩, ⟨rfl, rfl, rfl⟩, rfl⟩

theorem fullPattern_reads_iff : fullPattern.Reads s ms r ↔ ∃ f, '\n' ∉ f ∧ s = fullHeading f ∧
    ms = [.opened .file (f ++ [':']), .closed .file [':']] ∧ r = [] := by
  constructor
  · rintro ⟨_, m₁, _, ⟨_, m₂, _, ⟨_, m₃, _, ⟨rfl, rfl⟩, ⟨_, ⟨f, hf, rfl, rfl⟩, rfl⟩, rfl⟩,
      ⟨rfl, rfl⟩, rfl⟩, ⟨rfl, rfl, rfl⟩, rfl⟩
    exact ⟨f, fun hn => absurd (hf _ hn) (by decide), rfl, rfl, rfl⟩
  · rintro ⟨f, hf, rfl, rfl, rfl⟩
    exact ⟨_, [], [], ⟨_, [':'], [], ⟨[], f ++ [':'], _, ⟨rfl, rfl⟩,
      ⟨[], ⟨f, isInline_of_not_mem hf, rfl, rfl⟩, rfl⟩, rfl⟩, ⟨rfl, rfl⟩, rfl⟩, ⟨rfl, rfl, rfl⟩,
      rfl⟩

theorem match?_titled {title : String} (hf : '\n' ∉ f) :
    (capture .file (most isInline) ++ (title : Pattern) ++ stop).match? (f ++ title.toList) =
      some [.opened .file (f ++ title.toList), .closed .file title.toList] := by
  refine match?_of_reads (titled_reads_iff.2 ⟨f, hf, rfl, rfl, rfl⟩) fun ms' r' h => ?_
  obtain ⟨_, -, -, rfl, -⟩ := titled_reads_iff.1 h
  rfl

/-- **The heading of the lines to add.** -/
theorem section?_add (hf : '\n' ∉ f) : section? (f ++ addTitle) =
    some (.gather .add (String.ofList f) []) := by
  have hmatch : addPattern.match? (f ++ addTitle) = _ := match?_titled hf
  unfold section?
  rw [hmatch]
  dsimp only
  rw [Captures.get, get?_capture]
  rfl

/-- Neither of the two titles is the end of the other. -/
theorem addTitle_ne_removeTitle (f g : List Char) : f ++ addTitle ≠ g ++ removeTitle := by
  intro h
  have hadd : addTitle = " should ad".toList ++ "d these lines:".toList := by decide
  have hremove : removeTitle = " should remov".toList ++ "e these lines:".toList := by decide
  rw [hadd, hremove, ← List.append_assoc, ← List.append_assoc] at h
  exact absurd (List.append_inj_right' h (by decide)) (by decide)

/-- **The heading of the lines to remove.** -/
theorem section?_remove (hf : '\n' ∉ f) : section? (f ++ removeTitle) =
    some (.remove (String.ofList f)) := by
  have hadd : addPattern.match? (f ++ removeTitle) = none := match?_eq_none fun ms r h => by
    obtain ⟨g, -, hs, -⟩ := titled_reads_iff.1 h
    exact addTitle_ne_removeTitle g f hs.symm
  have hmatch : removePattern.match? (f ++ removeTitle) = _ := match?_titled hf
  unfold section?
  rw [hadd, hmatch]
  dsimp only
  rw [Captures.get, get?_capture]
  rfl

/-- The heading of the full list for the file is read as another one only if it ends like that. -/
def ReadsAsFull (f : List Char) : Prop :=
  ¬ addTitle.dropLast <:+ ' ' :: f ∧ ¬ removeTitle.dropLast <:+ ' ' :: f

/-- A heading of the full list that ends in another title has it in the name of the file, with the
blank before the name counted. -/
theorem suffix_of_fullHeading {title : List Char} (htitle : title = addTitle ∨ title = removeTitle)
    (h : title <:+ fullHeading f) : title.dropLast <:+ ' ' :: f := by
  -- no more of a title than its first blank stands at the end of the other heading's start
  have hshort : ∀ n, n ≤ title.length → title.take n <:+ fullTitle → n ≤ 1 := by
    intro n hn
    have hall : ∀ t ∈ [addTitle, removeTitle], ∀ m ∈ List.range (t.length + 1),
        (t.take m).isSuffixOf fullTitle → m ≤ 1 := by decide
    intro hsuffix
    refine hall title (by simpa using htitle) n (List.mem_range.2 (by omega)) ?_
    exact List.isSuffixOf_iff_suffix.2 hsuffix
  obtain ⟨x, hx⟩ : ∃ x, title = x ++ [':'] := by
    rcases htitle with rfl | rfl
    · exact ⟨" should add these lines".toList, by decide⟩
    · exact ⟨" should remove these lines".toList, by decide⟩
  obtain ⟨start, hstart⟩ : ∃ start, fullTitle = start ++ [' '] :=
    ⟨"The full include-list for".toList, by decide⟩
  rw [hx, List.dropLast_concat]
  have hsuffix : x <:+ fullTitle ++ f := by
    rw [fullHeading, ← List.append_assoc, hx] at h
    obtain ⟨u, hu⟩ := h
    rw [← List.append_assoc] at hu
    exact ⟨u, List.append_cancel_right hu⟩
  have hname : ' ' :: f <:+ fullTitle ++ f := ⟨start, by rw [hstart]; simp⟩
  rcases List.suffix_or_suffix_of_suffix hsuffix hname with h | ⟨v, hv⟩
  · exact h
  · have hv' : v ++ [' '] <:+ fullTitle := by
      obtain ⟨u, hu⟩ := hsuffix
      rw [← hv, ← List.singleton_append, ← List.append_assoc, ← List.append_assoc] at hu
      exact ⟨u, by simpa using List.append_cancel_right hu⟩
    have htake : title.take (v.length + 1) = v ++ [' '] := by
      have hcut : title = (v ++ [' ']) ++ (f ++ [':']) := by
        rw [hx, ← hv]
        simp
      rw [hcut, List.take_left' (by simp)]
    have hlength := hshort (v.length + 1) (by rw [hx, ← hv]; simp) (htake ▸ hv')
    obtain rfl : v = [] := List.eq_nil_of_length_eq_zero (by omega)
    exact hv ▸ List.suffix_rfl

/-- **The heading of the full list.** -/
theorem section?_full (hf : '\n' ∉ f) (hfull : ReadsAsFull f) : section? (fullHeading f) =
    some (.gather .full (String.ofList f) []) := by
  have hadd : addPattern.match? (fullHeading f) = none := match?_eq_none fun ms r h => by
    obtain ⟨g, -, hs, -⟩ := titled_reads_iff.1 h
    exact hfull.1 (suffix_of_fullHeading (.inl rfl) ⟨g, hs.symm⟩)
  have hremove : removePattern.match? (fullHeading f) = none := match?_eq_none fun ms r h => by
    obtain ⟨g, -, hs, -⟩ := titled_reads_iff.1 h
    exact hfull.2 (suffix_of_fullHeading (.inr rfl) ⟨g, hs.symm⟩)
  have hmatch : fullPattern.match? (fullHeading f) =
      some [.opened .file (f ++ [':']), .closed .file [':']] := by
    refine match?_of_reads (fullPattern_reads_iff.2 ⟨f, hf, rfl, rfl, rfl⟩) fun ms' r' h => ?_
    obtain ⟨g, -, hs, rfl, -⟩ := fullPattern_reads_iff.1 h
    rw [List.append_cancel_right (List.append_cancel_left hs)]
  unfold section?
  rw [hadd, hremove, hmatch]
  dsimp only [Option.map]
  rw [Captures.get, get?_capture]
  rfl

/-- **Which lines are headings.** -/
theorem section?_isSome_iff : (section? l).isSome = true ↔ IsHeading l := by
  unfold section?
  constructor
  · intro h
    cases hadd : addPattern.match? l with
    | some cs =>
      obtain ⟨r, hr⟩ := match?_reads hadd
      obtain ⟨f, hf, rfl, -⟩ := titled_reads_iff.1 hr
      exact .add f hf
    | none =>
      cases hremove : removePattern.match? l with
      | some cs =>
        obtain ⟨r, hr⟩ := match?_reads hremove
        obtain ⟨f, hf, rfl, -⟩ := titled_reads_iff.1 hr
        exact .remove f hf
      | none =>
        rw [hadd, hremove] at h
        dsimp only at h
        rw [Option.isSome_map] at h
        obtain ⟨cs, hcs⟩ := Option.isSome_iff_exists.1 h
        obtain ⟨r, hr⟩ := match?_reads hcs
        obtain ⟨f, hf, rfl, -⟩ := fullPattern_reads_iff.1 hr
        exact .full f hf
  · intro h
    cases h with
    | add f hf =>
      have := section?_add hf
      unfold section? at this
      rw [this]
      rfl
    | remove f hf =>
      have := section?_remove hf
      unfold section? at this
      rw [this]
      rfl
    | full f hf =>
      -- it may open a section of another kind
      cases addPattern.match? (fullHeading f) with
      | some cs => rfl
      | none =>
        cases removePattern.match? (fullHeading f) with
        | some cs => rfl
        | none =>
          dsimp only
          rw [Option.isSome_map, isSome_match?, accepts_iff]
          exact ⟨_, _, fullPattern_reads_iff.2 ⟨f, hf, rfl, rfl, rfl⟩⟩

theorem section?_eq_none (h : ¬ IsHeading l) : section? l = none := by
  rw [← section?_isSome_iff] at h
  simpa using h

/-! ## Lines to remove -/

/-- A line to remove: its text, and the numbers of the lines where it stands as they are
printed. -/
structure Entry where
  text : List Char
  gap : List Char
  first : List Char
  last : List Char
  text_inline : '\n' ∉ text
  text_ends : trimEnd text = text
  gap_ne_nil : gap ≠ []
  gap_blank : ∀ c ∈ gap, isBlank c = true
  first_ne_nil : first ≠ []
  first_digits : ∀ c ∈ first, isDigit c = true
  last_ne_nil : last ≠ []
  last_digits : ∀ c ∈ last, isDigit c = true

/-- Blanks, and the lines that are cited. -/
def citation (gap first last : List Char) : List Char :=
  gap ++ ("// lines ".toList ++ (first ++ '-' :: last))

/-- The entry as it is printed. -/
def Entry.line (e : Entry) : Line := "- ".toList ++ (e.text ++ citation e.gap e.first e.last)

/-- What comes after the text of an entry. -/
def citationPattern : Pattern :=
  most1 isBlank ++ "// lines " ++ capture .first (most1 isDigit) ++ "-" ++
    capture .last (most1 isDigit) ++ stop

/-- What is captured of the lines that are cited. -/
def citationMarks (first last : List Char) : Captures :=
  [.opened .first (first ++ '-' :: last), .closed .first ('-' :: last), .opened .last last,
    .closed .last []]

theorem citationPattern_reads_iff : citationPattern.Reads s ms r ↔ ∃ gap first last,
    (gap ≠ [] ∧ ∀ c ∈ gap, isBlank c = true) ∧ (first ≠ [] ∧ ∀ c ∈ first, isDigit c = true) ∧
      (last ≠ [] ∧ ∀ c ∈ last, isDigit c = true) ∧ s = citation gap first last ∧
      ms = citationMarks first last ∧ r = [] := by
  constructor
  · rintro ⟨_, m₁, _, ⟨_, m₂, _, ⟨_, m₃, _, ⟨_, m₄, _, ⟨_, m₅, _, hgap, ⟨rfl, rfl⟩, rfl⟩,
      ⟨_, hfirst, rfl⟩, rfl⟩, ⟨rfl, rfl⟩, rfl⟩, ⟨_, hlast, rfl⟩, rfl⟩, ⟨rfl, rfl, rfl⟩, rfl⟩
    obtain ⟨gap, hg, hblank, rfl, rfl⟩ := most1_reads_iff.1 hgap
    obtain ⟨first, hf, hdigits, rfl, rfl⟩ := most1_reads_iff.1 hfirst
    obtain ⟨last, hl, hdigits', rfl, rfl⟩ := most1_reads_iff.1 hlast
    rw [List.append_nil]
    exact ⟨gap, first, last, ⟨hg, hblank⟩, ⟨hf, hdigits⟩, ⟨hl, hdigits'⟩, rfl, rfl, rfl⟩
  · rintro ⟨gap, first, last, ⟨hg, hgap⟩, ⟨hf, hfirst⟩, ⟨hl, hlast⟩, rfl, rfl, rfl⟩
    have hgap : (most1 isBlank).Reads (citation gap first last) []
        ("// lines ".toList ++ (first ++ '-' :: last)) :=
      most1_reads_iff.2 ⟨gap, hg, hgap, rfl, rfl⟩
    have hfirst : (most1 isDigit).Reads (first ++ '-' :: last) [] ('-' :: last) :=
      most1_reads_iff.2 ⟨first, hf, hfirst, rfl, rfl⟩
    have hlast : (most1 isDigit).Reads last [] [] :=
      most1_reads_iff.2 ⟨last, hl, hlast, (List.append_nil last).symm, rfl⟩
    exact ⟨_, [], [], ⟨_, last, _, ⟨_, '-' :: last, [], ⟨_, first ++ '-' :: last, _,
      ⟨_, _, [], hgap, ⟨rfl, rfl⟩, rfl⟩, ⟨[], hfirst, rfl⟩, rfl⟩, ⟨rfl, rfl⟩, rfl⟩,
      ⟨[], hlast, rfl⟩, rfl⟩, ⟨rfl, rfl, rfl⟩, rfl⟩

/-- **The lines that are cited stand at the end**, whatever comes before them. -/
theorem citation_unique {x x' first first' last last' : List Char}
    (hfirst : ∀ c ∈ first, isDigit c = true) (hfirst' : ∀ c ∈ first', isDigit c = true)
    (hlast : ∀ c ∈ last, isDigit c = true) (hlast' : ∀ c ∈ last', isDigit c = true)
    (h : citation x first last = citation x' first' last') :
    x = x' ∧ first = first' ∧ last = last' := by
  have hapart : ∀ {t : List Char}, (∀ c ∈ t, isDigit c = true) → '-' ∉ t ∧ ' ' ∉ t := fun ht =>
    ⟨fun hm => absurd (ht _ hm) (by decide), fun hm => absurd (ht _ hm) (by decide)⟩
  have hcut : ∀ y a b : List Char,
      citation y a b = ((y ++ "// lines".toList) ++ ' ' :: a) ++ '-' :: b := by
    simp [citation]
  rw [hcut, hcut] at h
  obtain ⟨hfront, hback⟩ := cut_unique_last (hapart hlast).1 (hapart hlast').1 h
  obtain ⟨hx, hnumber⟩ := cut_unique_last (hapart hfirst).2 (hapart hfirst').2 hfront
  exact ⟨List.append_cancel_right hx, hnumber, hback⟩

/-- An entry is read as a dash, its text, and a citation. -/
theorem run_removalPattern (k : Continuation) (s : List Char) : removalPattern.run k s =
    (Pattern.text "- ".toList).run
      ((capture .message (least isInline)).run (citationPattern.run k)) s := rfl

namespace Entry

variable {k : Continuation}

theorem run_citation (e : Entry) {x : Reading} (hk : k [] = some x) :
    citationPattern.run k (citation e.gap e.first e.last) =
      some (x.marks (citationMarks e.first e.last)) := by
  have hreads : citationPattern.Reads (citation e.gap e.first e.last)
      (citationMarks e.first e.last) [] := citationPattern_reads_iff.2 ⟨_, _, _,
    ⟨e.gap_ne_nil, e.gap_blank⟩, ⟨e.first_ne_nil, e.first_digits⟩,
    ⟨e.last_ne_nil, e.last_digits⟩, rfl, rfl, rfl⟩
  obtain ⟨y, hy⟩ := Option.isSome_iff_exists.1
    (isSome_run_of_reads (k := k) hreads (by rw [hk]; rfl))
  obtain ⟨ms, r, z, hp, hz, rfl⟩ := run_reads hy
  obtain ⟨gap, first, last, -, ⟨-, hfirst⟩, ⟨-, hlast⟩, hcitation, rfl, rfl⟩ :=
    citationPattern_reads_iff.1 hp
  obtain ⟨-, rfl, rfl⟩ :=
    citation_unique e.first_digits hfirst e.last_digits hlast hcitation
  rw [hk] at hz
  cases hz
  exact hy

/-- The text of an entry ends at the first place where a citation can follow. -/
theorem firstPlace_citation (e : Entry) {x : Reading} (hk : k [] = some x) :
    FirstPlace (fun r => (citationPattern.run k r).isSome = true)
      (e.text ++ citation e.gap e.first e.last) e.text (citation e.gap e.first e.last) := by
  refine ⟨rfl, by rw [e.run_citation hk]; rfl, fun u v huv hv => ?_⟩
  obtain ⟨y, hy⟩ := Option.isSome_iff_exists.1 hv
  obtain ⟨ms, r, z, hp, -, -⟩ := run_reads hy
  obtain ⟨gap, first, last, ⟨-, hblank⟩, ⟨-, hfirst⟩, ⟨-, hlast⟩, rfl, -, -⟩ :=
    citationPattern_reads_iff.1 hp
  have hcitation : citation (e.text ++ e.gap) e.first e.last = citation (u ++ gap) first last := by
    simpa [citation] using huv
  obtain ⟨htext, -, -⟩ := citation_unique e.first_digits hfirst e.last_digits hlast hcitation
  -- a blank at the end of the text is none of the text
  rcases List.append_eq_append_iff.1 htext with ⟨a, rfl, -⟩ | ⟨a, ha, hgap⟩
  · simp
  · cases List.eq_nil_or_concat a with
    | inl hnil => simp [ha, hnil]
    | inr h =>
      obtain ⟨b, c, rfl⟩ := h
      have hc : isBlank c = true := hblank c (by rw [hgap]; simp)
      have hends := e.text_ends
      rw [trimEnd_eq, List.rdropWhile_eq_self_iff] at hends
      have hne : e.text ≠ [] := by simp [ha]
      exact absurd hc (by simpa [ha] using hends hne)

/-- **What is read of an entry.** -/
theorem match?_line (e : Entry) : ∃ cs, removalPattern.match? e.line = some cs ∧
    cs.get .message = e.text ∧ cs.get .first = e.first ∧ cs.get .last = e.last := by
  let k : Continuation := fun r => some (.start r)
  have hk : k [] = some (.start []) := rfl
  have hmessage := (run_capture_least_iff (f := .message)).2 ⟨_, _, _, e.firstPlace_citation hk,
    isInline_of_not_mem e.text_inline, e.run_citation hk, rfl⟩
  have hrun := run_removalPattern k e.line
  rw [Entry.line, run_text_eq_some_iff.2 ⟨_, rfl, hmessage⟩] at hrun
  refine ⟨_, by rw [match?, read?_eq_run, Entry.line, hrun]; rfl, ?_, ?_, ?_⟩
  · rw [Captures.get, get?_capture]
    rfl
  · simp [Captures.get, Captures.get?, Captures.restOf?, Reading.marks, citationMarks]
  · simp [Captures.get, Captures.get?, Captures.restOf?, Reading.marks, citationMarks]

end Entry

/-- **Only entries are read as such.** -/
theorem exists_entry_of_match? (h : removalPattern.match? l = some cs) :
    ∃ e : Entry, l = e.line := by
  obtain ⟨x, hx, -⟩ := Option.map_eq_some_iff.1 h
  rw [read?_eq_run, run_removalPattern] at hx
  obtain ⟨s, rfl, hs⟩ := run_text_eq_some_iff.1 hx
  obtain ⟨t, v, y, ⟨rfl, -, -⟩, ht, hy, -⟩ := run_capture_least_iff.1 hs
  obtain ⟨ms, r, -, hp, -, -⟩ := run_reads hy
  obtain ⟨gap, first, last, ⟨hg, hgap⟩, ⟨hf, hfirst⟩, ⟨hl, hlast⟩, rfl, -, -⟩ :=
    citationPattern_reads_iff.1 hp
  have hcut : t = trimEnd t ++ t.rtakeWhile isBlank :=
    List.rdropWhile_append_rtakeWhile.symm
  -- blanks at the end of what was read go before the citation
  refine ⟨{
    text := trimEnd t, gap := t.rtakeWhile isBlank ++ gap, first := first, last := last
    text_inline := fun hn => ?_
    text_ends := List.rdropWhile_idempotent isBlank t
    gap_ne_nil := List.append_ne_nil_of_right_ne_nil _ hg
    gap_blank := fun c hc => ?_
    first_ne_nil := hf, first_digits := hfirst, last_ne_nil := hl, last_digits := hlast }, ?_⟩
  · exact absurd (ht _ ((List.rdropWhile_prefix isBlank t).subset hn)) (by decide)
  · rcases List.mem_append.1 hc with hc | hc
    · exact List.mem_rtakeWhile_imp hc
    · exact hgap c hc
  · unfold Entry.line citation
    dsimp only
    rw [List.append_assoc (t.rtakeWhile isBlank), ← List.append_assoc (trimEnd t), ← hcut]

end BuildDiagnostics.Iwyu
