import BuildDiagnostics.Proofs.CMakeMessage

/-!
# Chunks of a stream

A text that is fed to a stream is read line by line, so the lines of a stream may come one at a time
or many together, as long as no chunk is empty: an empty text is an empty line and not none.

* `EndedLine.lines_written`: lines that are written with their ends are read back.
* `Consumer.foldl_feed`: texts one after the other bring their lines one after the other.
* `Consumer.chunks_do_not_matter`: lines, chunks and the whole text leave the same consumer.
-/

namespace BuildDiagnostics

open Text

/-- A line and whether a carriage return comes before the line feed that ends it. -/
structure EndedLine where
  line : Line
  carriageReturn : Bool
  deriving DecidableEq, Repr

namespace EndedLine

variable {ls : List EndedLine}

/-- The line as it stands before its line feed. -/
def record (l : EndedLine) : List Char := l.line ++ if l.carriageReturn then ['\r'] else []

/-- The text of lines with their ends. -/
def written (ls : List EndedLine) : List Char := ls.flatMap fun l => l.record ++ ['\n']

/-- The line can be told from its end. -/
def Separable (l : EndedLine) : Prop := '\n' ∉ l.line ∧ l.line.getLast? ≠ some '\r'

theorem not_mem_record {l : EndedLine} (h : l.Separable) : '\n' ∉ l.record := by
  unfold record
  split
  · simpa using h.1
  · simpa using h.1

theorem dropLastIf_record {l : EndedLine} (h : l.Separable) :
    dropLastIf '\r' l.record = l.line := by
  unfold record
  split
  · exact dropLastIf_concat '\r' l.line
  · rw [List.append_nil, dropLastIf_of_ne h.2]

/-- **Lines that are written with their ends are read back**, whatever the ends. -/
theorem lines_written (h : ∀ l ∈ ls, l.Separable) : lines (written ls) = ls.map line := by
  have hrecords : ∀ p ∈ ls.map record, '\n' ∉ p := by
    intro p hp
    obtain ⟨l, hl, rfl⟩ := List.mem_map.1 hp
    exact not_mem_record (h l hl)
  have hpieces := pieces_ended (ls.map record) hrecords
  rw [List.flatMap_map] at hpieces
  have hlines : ((ls.map record).map (dropLastIf '\r')) = ls.map line := by
    rw [List.map_map]
    exact List.map_congr_left fun l hl => dropLastIf_record (h l hl)
  unfold lines written
  rw [hpieces]
  simpa using hlines

theorem fedLines_written (h : ∀ l ∈ ls, l.Separable) (hne : ls ≠ []) :
    fedLines (written ls) = ls.map line := by
  obtain ⟨l, rest, rfl⟩ := List.exists_cons_of_ne_nil hne
  -- a text of no lines would bring an empty line
  have hfull : (written (l :: rest)).isEmpty = false := by simp [written]
  rw [fedLines, hfull, if_neg Bool.false_ne_true, lines_written h]

end EndedLine

namespace Consumer

/-- Texts one after the other bring their lines one after the other. -/
theorem foldl_feed (c : Consumer) (s : Stream) (texts : List (List Char)) :
    texts.foldl (fun c text => c.feed s text) c =
      (texts.flatMap fun text => c.inputs (.feed text)).foldl (fun c x => c.react s x) c := by
  induction texts generalizing c with
  | nil => rfl
  | cons text texts ih =>
    have hsame : (c.feed s text).inputs = c.inputs := inputs_perform c s (.feed text)
    rw [List.foldl_cons, ih, hsame, List.flatMap_cons, List.foldl_append, ← feed_eq]

/-- Texts with the same lines leave the same consumer. -/
theorem foldl_feed_congr (c : Consumer) (s : Stream) {ts us : List (List Char)}
    (h : ts.flatMap fedLines = us.flatMap fedLines) :
    ts.foldl (fun c text => c.feed s text) c = us.foldl (fun c text => c.feed s text) c := by
  have hinputs : ∀ ts : List (List Char), (ts.flatMap fun text => c.inputs (.feed text)) =
      if c.enabled then (ts.flatMap fedLines).map .line else [] := by
    intro ts
    cases hc : c.enabled <;> simp [inputs, hc, List.map_flatMap]
  rw [foldl_feed, foldl_feed, hinputs, hinputs, h]

/-- **Chunks do not matter.** Lines without line feeds that do not end in a carriage return are
written with line ends of either kind and cut into chunks between lines. Feeding the chunks, feeding
all in one text, and feeding the lines one at a time, empty ones too, leave the same consumer: its
record, what its subscribers were told, and all it will do. -/
theorem chunks_do_not_matter (c : Consumer) (s : Stream) {chunks : List (List EndedLine)}
    (hsome : chunks ≠ []) (hne : ∀ chunk ∈ chunks, chunk ≠ [])
    (hlines : ∀ l ∈ chunks.flatten, l.Separable) :
    let whole := c.feed s (EndedLine.written chunks.flatten)
    chunks.foldl (fun c chunk => c.feed s (EndedLine.written chunk)) c = whole ∧
      chunks.flatten.foldl (fun c l => c.feed s l.line) c = whole := by
  intro whole
  have hflat : chunks.flatten ≠ [] := by
    obtain ⟨chunk, rest, rfl⟩ := List.exists_cons_of_ne_nil hsome
    simp [hne chunk List.mem_cons_self]
  have hwhole : [EndedLine.written chunks.flatten].flatMap fedLines =
      chunks.flatten.map EndedLine.line := by
    rw [List.flatMap_singleton, EndedLine.fedLines_written hlines hflat]
  have hchunks : (chunks.map EndedLine.written).flatMap fedLines =
      chunks.flatten.map EndedLine.line := by
    rw [List.flatMap_map, List.map_flatten, ← List.flatMap_def]
    refine List.flatMap_congr fun chunk hchunk => ?_
    have hchunkLines : ∀ l ∈ chunk, l.Separable := fun l hl =>
      hlines l (List.mem_flatten.2 ⟨chunk, hchunk, hl⟩)
    exact EndedLine.fedLines_written hchunkLines (hne chunk hchunk)
  have hsingle : (chunks.flatten.map EndedLine.line).flatMap fedLines =
      chunks.flatten.map EndedLine.line := by
    rw [List.flatMap_map, List.flatMap_congr fun l hl => fedLines_of_inline (hlines l hl).1,
      ← List.map_eq_flatMap]
  constructor
  · rw [← List.foldl_map]
    exact foldl_feed_congr c s (hchunks.trans hwhole.symm)
  · rw [← List.foldl_map]
    exact foldl_feed_congr c s (hsingle.trans hwhole.symm)

/-- The two blank lines that end a message of CMake, in one chunk with the lines before them and in
two. -/
theorem chunks_do_not_matter_blank_lines :
    let c := Consumer.ofRegistry .builtin
    let heading : EndedLine := ⟨"CMake Warning at CMakeLists.txt:14 (message):".toList, false⟩
    let body : EndedLine := ⟨"  I am a warning!".toList, true⟩
    let chunks : List (List EndedLine) := [[heading, body, ⟨[], true⟩], [⟨[], false⟩]]
    let whole := c.feed .output (EndedLine.written chunks.flatten)
    chunks ≠ [] ∧ (∀ chunk ∈ chunks, chunk ≠ []) ∧ (∀ l ∈ chunks.flatten, l.Separable) ∧
      chunks.foldl (fun c chunk => c.feed .output (EndedLine.written chunk)) c = whole ∧
      chunks.flatten.foldl (fun c l => c.feed .output l.line) c = whole := by
  intro c heading body chunks whole
  have hne : ∀ chunk ∈ chunks, chunk ≠ [] := by decide
  have hlines : ∀ l ∈ chunks.flatten, l.Separable := by
    unfold EndedLine.Separable
    decide +kernel
  exact ⟨by decide, hne, hlines, chunks_do_not_matter c .output (by decide) hne hlines⟩

end Consumer

end BuildDiagnostics
