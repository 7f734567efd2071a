import BuildDiagnostics.Proofs.Text
import BuildDiagnostics.Resolver
import Mathlib.Data.List.Forall2

/-!
# The layout of the orphans

`layOut` writes the text of the file of orphans and computes the range of each orphan in it, one
beside the other: neither looks at the other's result. They agree. With `pre` for the lines that
come before, the next block starts at line `pre.length`, and the block after it at the line that
follows its empty last line (`length_append_blockLines`).

* `records_unlines`: the lines of a text that was put together from lines are these lines.
* `Covers`: a range goes from the title of a block to the end of its message.
* `layOut_text`: the text consists of the blocks of the orphans.
* `layOut_covers`: each orphan's range covers its block, and the ranges do not overlap.
-/

namespace BuildDiagnostics

namespace Resolver

/-- The results that are shown in the file of orphans, in order. -/
def orphans (results : List Resolved) : List Resolved := results.filter (·.synthetic)

/-- The lines of the blocks of diagnostics, with the given number of blocks before them. -/
def blocks (number : Nat) : List Diagnostic → List String
  | [] => []
  | diag :: rest => blockLines (number + 1) diag ++ blocks (number + 1) rest

/-- The lines of the file of orphans. -/
def orphanLines (results : List Resolved) : List String :=
  blocks 0 ((orphans results).map (·.diagnostic))

/-- The lines of a file, each ended by a line feed. -/
def fileLines (text : String) : List String :=
  (Text.records '\n' text.toList).map String.ofList

/-- What is printed on one line: the file, the source, the severity and the code hold no line
feed. -/
structure OneLine (diag : Diagnostic) : Prop where
  file : '\n' ∉ diag.file.toList
  source : '\n' ∉ diag.source.toList
  severity : '\n' ∉ diag.severity.toList
  code : ∀ c, diag.code = some c → '\n' ∉ c.toList

/-- The range covers the block of a diagnostic among the lines of a file: it goes from the start of
the title line to the end of the last line of the message, and an empty line follows. -/
structure Covers (lines : List String) (number : Nat) (diag : Diagnostic) (range : Range) :
    Prop where
  startColumn : range.start.column = 0
  stopColumn : range.stop.column = Position.restOfLine
  title : lines[range.start.line.toNat]? = some (title diag ++ " #" ++ toString number)
  file : lines[range.start.line.toNat + 1]? = some (diag.source ++ ": " ++ diag.file)
  severity : lines[range.start.line.toNat + 2]? =
    some (diag.severity ++ " " ++ diag.code.getD "-")
  order : range.start.line.toNat + 3 ≤ range.stop.line.toNat
  message : (lines.drop (range.start.line.toNat + 3)).take
    (range.stop.line.toNat + 1 - (range.start.line.toNat + 3)) =
      (messageLines diag).map String.ofList
  blank : lines[range.stop.line.toNat + 1]? = some ""

/-! ## Blocks -/

theorem messageLines_ne_nil (diag : Diagnostic) : messageLines diag ≠ [] := by
  unfold messageLines
  split
  · simp
  · rename_i h
    exact Text.lines_ne_nil (by simpa using h)

theorem length_blockLines (number : Nat) (diag : Diagnostic) :
    (blockLines number diag).length = (messageLines diag).length + 4 := by
  simp [blockLines]

/-- The block after a block starts two lines after the last line of its message. -/
theorem length_append_blockLines (pre : List String) (number : Nat) (diag : Diagnostic) :
    (pre ++ blockLines number diag).length = lastLine pre.length diag + 2 := by
  have := List.length_pos_iff.2 (messageLines_ne_nil diag)
  rw [List.length_append, length_blockLines, lastLine, headerLines]
  omega

theorem not_mem_title (diag : Diagnostic) : '\n' ∉ (title diag).toList := by
  unfold title
  dsimp only
  generalize (diag.source == GnuLd.source || _) = linker
  cases linker <;> decide

theorem not_mem_toString (n : Nat) : '\n' ∉ (toString n).toList := by
  intro h
  rw [Nat.toString_eq_ofList_toDigits, String.toList_ofList] at h
  have := Nat.isDigit_of_mem_toDigits (by omega) (by omega) h
  exact absurd this (by decide)

theorem not_mem_blockLines {diag : Diagnostic} (h : OneLine diag) {number : Nat} {line : String}
    (hl : line ∈ blockLines number diag) : '\n' ∉ line.toList := by
  have hcode : '\n' ∉ (diag.code.getD "-").toList := by
    cases hc : diag.code with
    | none => decide
    | some c => exact h.code c hc
  have hmessage : ∀ l ∈ messageLines diag, '\n' ∉ l := by
    intro l hl
    unfold messageLines at hl
    split at hl
    · rw [List.mem_singleton.1 hl]; simp
    · exact Text.not_mem_of_mem_lines hl
  have hnumber := not_mem_toString number
  have htitle := not_mem_title diag
  have hfile := h.file
  have hsource := h.source
  have hseverity := h.severity
  simp only [blockLines, List.mem_append, List.mem_cons, List.mem_map, List.not_mem_nil,
    or_false] at hl
  rcases hl with ((rfl | rfl | rfl) | ⟨l, hl, rfl⟩) | rfl
  · simp_all [String.toList_append]
  · simp_all [String.toList_append]
  · simp_all [String.toList_append]
  · rw [String.toList_ofList]; exact hmessage l hl
  · simp

theorem not_mem_blocks {ds : List Diagnostic} (h : ∀ d ∈ ds, OneLine d) {number : Nat}
    {line : String} (hl : line ∈ blocks number ds) : '\n' ∉ line.toList := by
  induction ds generalizing number with
  | nil => exact absurd hl (by simp [blocks])
  | cons d ds ih =>
    rcases List.mem_append.1 hl with hl | hl
    · exact not_mem_blockLines (h d List.mem_cons_self) hl
    · exact ih (fun e he => h e (List.mem_cons_of_mem _ he)) hl

/-! ## The text -/

theorem unlines_append (ls ms : List String) : unlines (ls ++ ms) = unlines ls ++ unlines ms := by
  simp [unlines, String.join_append]

theorem toList_unlines (ls : List String) :
    (unlines ls).toList = (ls.map String.toList).flatMap (· ++ ['\n']) := by
  induction ls with
  | nil => rfl
  | cons l ls ih =>
    have h := congrArg String.toList (unlines_append [l] ls)
    rw [List.singleton_append, String.toList_append, ih] at h
    rw [h, List.map_cons, List.flatMap_cons]
    congr 1
    simp [unlines]

/-- **Lines are read back**, if none holds a line feed. -/
theorem fileLines_unlines {ls : List String} (h : ∀ l ∈ ls, '\n' ∉ l.toList) :
    fileLines (unlines ls) = ls := by
  unfold fileLines
  rw [toList_unlines, Text.records_ended]
  · simp [Function.comp_def]
  · intro l hl
    obtain ⟨m, hm, rfl⟩ := List.mem_map.1 hl
    exact h m hm

/-! ## Laying out -/

variable {file : Path} {next number : Nat} {a : Anchor} {rest : List Anchor}

theorem layOut_found {p : Path} (h : a.path = some p) :
    layOut file next number (a :: rest) =
      (⟨a.diagnostic, p, a.diagnostic.range, a.related, false⟩ ::
          (layOut file next number rest).1,
        (layOut file next number rest).2) := by
  rw [layOut, h]

theorem layOut_orphan (h : a.path = none) :
    layOut file next number (a :: rest) =
      (⟨a.diagnostic, file, Range.ofEnds next.toUInt32 0 (lastLine next a.diagnostic).toUInt32
            Position.restOfLine, a.related, true⟩ ::
          (layOut file (lastLine next a.diagnostic + 2) (number + 1) rest).1,
        unlines (blockLines (number + 1) a.diagnostic) ++
          (layOut file (lastLine next a.diagnostic + 2) (number + 1) rest).2) := by
  rw [layOut, h]

/-- An orphan is shown against the file of orphans. -/
theorem layOut_path {as : List Anchor} {x : Resolved} (hx : x ∈ (layOut file next number as).1)
    (hs : x.synthetic = true) : x.path = file := by
  induction as generalizing next number with
  | nil => exact absurd hx (by simp [layOut])
  | cons a rest ih =>
    cases ha : a.path with
    | some p =>
      rw [layOut_found ha] at hx
      rcases List.mem_cons.1 hx with rfl | hx
      · exact absurd hs (by simp)
      · exact ih hx
    | none =>
      rw [layOut_orphan ha] at hx
      rcases List.mem_cons.1 hx with rfl | hx
      · rfl
      · exact ih hx

/-- **The text consists of the blocks of the orphans.** -/
theorem layOut_text (as : List Anchor) (file : Path) (next number : Nat) :
    (layOut file next number as).2 =
      unlines (blocks number ((orphans (layOut file next number as).1).map (·.diagnostic))) := by
  induction as generalizing next number with
  | nil => rfl
  | cons a rest ih =>
    cases ha : a.path with
    | some p =>
      rw [layOut_found ha, ih]
      rfl
    | none =>
      rw [layOut_orphan ha, ih]
      simp only [orphans, List.filter_cons_of_pos, List.map_cons, blocks, unlines_append]

/-! ## The ranges -/

/-- A line number that a range can hold. -/
theorem toNat_toUInt32 {n : Nat} (h : n < UInt32.size) : n.toUInt32.toNat = n :=
  UInt32.toNat_ofNat_of_lt' h

/-- A line inside a block, by its place in the block. -/
theorem getElem?_block {pre block post : List String} {i : Nat} {line : String}
    (h : block[i]? = some line) : (pre ++ block ++ post)[pre.length + i]? = some line := by
  have hi := (List.getElem?_eq_some_iff.1 h).1
  rw [List.append_assoc, List.getElem?_append_right (by omega), Nat.add_sub_cancel_left,
    List.getElem?_append_left hi, h]

/-- **A range that starts with a block covers it**, whatever stands before and after the block. -/
theorem covers_block {pre post : List String} {number : Nat} {diag : Diagnostic} {stop : Nat}
    (hstop : stop = lastLine pre.length diag)
    (hshort : (pre ++ blockLines number diag ++ post).length < UInt32.size) :
    Covers (pre ++ blockLines number diag ++ post) number diag
      (Range.ofEnds pre.length.toUInt32 0 stop.toUInt32 Position.restOfLine) := by
  have hpos := List.length_pos_iff.2 (messageLines_ne_nil diag)
  have hlen := length_append_blockLines pre number diag
  have hlast : stop = pre.length + 2 + (messageLines diag).length := by
    rw [hstop, lastLine, headerLines]; omega
  rw [List.length_append] at hshort
  have hstartLine : (Range.ofEnds pre.length.toUInt32 0 stop.toUInt32
      Position.restOfLine).start.line.toNat = pre.length := toNat_toUInt32 (by omega)
  have hstopLine : (Range.ofEnds pre.length.toUInt32 0 stop.toUInt32
      Position.restOfLine).stop.line.toNat = stop := toNat_toUInt32 (by omega)
  constructor
  case startColumn => rfl
  case stopColumn => rfl
  case title => rw [hstartLine]; exact getElem?_block (i := 0) rfl
  case file => rw [hstartLine]; exact getElem?_block rfl
  case severity => rw [hstartLine]; exact getElem?_block rfl
  case order => rw [hstartLine, hstopLine]; omega
  case message =>
    rw [hstartLine, hstopLine, List.append_assoc, List.drop_length_add_append, blockLines,
      List.append_assoc, List.append_assoc]
    have hcount : stop + 1 - (pre.length + 3) =
        ((messageLines diag).map String.ofList).length := by
      rw [List.length_map]; omega
    rw [hcount]
    exact List.take_left
  case blank =>
    rw [hstopLine, hlast, show pre.length + 2 + (messageLines diag).length + 1 =
      pre.length + (3 + (messageLines diag).length) by omega]
    apply getElem?_block
    rw [blockLines, List.append_assoc, Nat.add_comm]
    simp

/-- **The ranges keep in step with the text.** Each orphan of the rest of a batch covers its block
in the lines of the file, at or after the lines that are there already, and ends before the next one
starts. -/
theorem layOut_covers (as : List Anchor) (file : Path) (pre : List String) (number : Nat) :
    let shown := orphans (layOut file pre.length number as).1
    let lines := pre ++ blocks number (shown.map (·.diagnostic))
    lines.length < UInt32.size →
      (∀ k x, shown[k]? = some x → x.path = file ∧ pre.length ≤ x.range.start.line.toNat ∧
        Covers lines (number + k + 1) x.diagnostic x.range) ∧
      shown.Pairwise fun x y => x.range.stop.line < y.range.start.line := by
  induction as generalizing pre number with
  | nil =>
    intro shown lines _
    exact ⟨fun k x h => absurd h (by simp [shown, orphans, layOut]), .nil⟩
  | cons a rest ih =>
    cases ha : a.path with
    | some p =>
      -- a diagnostic that has a file takes up no lines
      rw [layOut_found ha]
      exact ih pre number
    | none =>
      -- the block joins the lines that are there for the rest
      have hlen := length_append_blockLines pre (number + 1) a.diagnostic
      rw [layOut_orphan ha, ← hlen]
      have hrest := ih (pre ++ blockLines (number + 1) a.diagnostic) (number + 1)
      dsimp only at hrest ⊢
      simp only [orphans, List.filter_cons_of_pos, List.map_cons, blocks] at hrest ⊢
      rw [← List.append_assoc]
      intro hshort
      obtain ⟨hcovers, hpairwise⟩ := hrest hshort
      have hbound := hshort
      rw [List.length_append, hlen] at hbound
      constructor
      · intro k x hx
        cases k with
        | zero =>
          cases hx
          -- all lines, and so the last line of this block, are below the limit
          refine ⟨rfl, (toNat_toUInt32 ?_).ge, covers_block ?_ hshort⟩
          · rw [lastLine] at hbound; omega
          · omega
        | succ k =>
          obtain ⟨hpath, hstart, hc⟩ := hcovers k x hx
          rw [List.length_append] at hstart
          refine ⟨hpath, by omega, ?_⟩
          rwa [show number + (k + 1) + 1 = number + 1 + k + 1 by omega]
      · refine List.pairwise_cons.2 ⟨?_, hpairwise⟩
        intro y hy
        obtain ⟨k, hk⟩ := List.mem_iff_getElem?.1 hy
        obtain ⟨-, hstart, -⟩ := hcovers k y hk
        rw [UInt32.lt_iff_toNat_lt]
        have hstop := toNat_toUInt32 (show lastLine pre.length a.diagnostic < UInt32.size by omega)
        simp only [Range.ofEnds, hstop]
        omega

end Resolver

end BuildDiagnostics
