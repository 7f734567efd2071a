import BuildDiagnostics.Proofs.CMakeLine
import BuildDiagnostics.Proofs.QuotedFile

/-!
# Three formats of headings with a file in quotes

The patterns of Green Hills, Diab and IAR are a file in quotes and what may come after it
(`restPattern`). A new matcher of one of them that reads a single line, and then the end of the
output, gives a diagnostic if that pattern reads the rest of the line, and nothing if not
(`heading?_lineWith`, `match?_lineWith`, `alone_lineWith`).

* `prefers_lineThen`, `reads_lineThen`: the number of a line, as two of the formats write it.
* `not_reads_of_words`: a text that starts as none of some words is none of them.
-/

namespace BuildDiagnostics

open Text Pattern

/-- What a new matcher makes of a line and of the end of the output after it: whether it claims the
line, and the diagnostics that it finishes. -/
def Matcher.alone (g : Grammar) (line : Line) : Bool × List Diagnostic :=
  let (verdict, m) := (Matcher.fresh g).step line
  (verdict.claimed, verdict.finished.toList ++ m.flush.1.toList)

/-- The grammars whose headings start with a file in quotes. -/
def Grammar.quoting : List Grammar := [.ghs, .diab, .iar]

/-- Of these grammars only one claims the line, and the diagnostic is all that it gives. -/
def ReadOnlyBy (g : Grammar) (line : Line) (d : Diagnostic) : Prop :=
  Matcher.alone g line = (true, [d]) ∧
    ∀ g' ∈ Grammar.quoting, g' ≠ g → Matcher.alone g' line = (false, [])

section Alone

variable {line : Line} {d : Diagnostic}

theorem Block.step_none (body : Line → List Char) (line : Line) :
    Block.step none body none line = (.ignored, none) := by
  unfold Block.step
  dsimp only
  split <;> rfl

theorem GreenHills.alone_of_heading (h : heading? line = some d) :
    Matcher.alone .ghs line = (true, [d]) := by
  simp [Matcher.alone, Matcher.fresh, Matcher.step, step, Block.step, h, Verdict.claim,
    Matcher.flush, Block.flush]

theorem GreenHills.alone_of_none (h : heading? line = none) :
    Matcher.alone .ghs line = (false, []) := by
  simp [Matcher.alone, Matcher.fresh, Matcher.step, step, h, Block.step_none, Verdict.ignored,
    Matcher.flush, Block.flush]

theorem Diab.alone_of_some {cs : Captures} (h : pattern.match? line = some cs) :
    Matcher.alone .diab line = (true, [ofCaptures cs]) := by
  simp [Matcher.alone, Matcher.fresh, Matcher.step, read, h, Verdict.claim, Matcher.flush]

theorem Diab.alone_of_none (h : pattern.match? line = none) :
    Matcher.alone .diab line = (false, []) := by
  simp [Matcher.alone, Matcher.fresh, Matcher.step, read, h, Verdict.ignored, Matcher.flush]

theorem Iar.alone_of_heading (habort : trim line ≠ abortLine.toList) (h : heading? line = some d) :
    Matcher.alone .iar line = (true, [d]) := by
  simp [Matcher.alone, Matcher.fresh, Matcher.step, step, habort, Block.step, h, Verdict.claim,
    Matcher.flush, Block.flush]

theorem Iar.alone_of_none (habort : trim line ≠ abortLine.toList) (h : heading? line = none) :
    Matcher.alone .iar line = (false, []) := by
  simp [Matcher.alone, Matcher.fresh, Matcher.step, step, habort, h, Block.step_none,
    Verdict.ignored, Matcher.flush, Block.flush]

end Alone

/-! ## The three patterns -/

variable {s : List Char} {ms : Captures}

namespace Pattern

variable {p : Pattern} {s z r : List Char} {c : Char} {n : Nat}

/-- The word for a line, its number, and what comes after it. -/
def lineThen (p : Pattern) : Pattern :=
  "line" ++ (most1 isBlank ++ (capture .line (most1 isDigit) ++ p))

theorem prefers_number (f : Field) (n : Nat) (hc : isDigit c = false) (z : List Char) :
    (capture f (most1 isDigit)).Prefers (decimal n ++ c :: z)
      [.opened f (decimal n ++ c :: z), .closed f (c :: z)] (c :: z) := by
  have hdigits := prefers_most1 (r := c :: z) (decimal_ne_nil n)
    (fun c hc => isDigit_of_mem_decimal hc) (by rw [startsOutside, hc]; rfl)
  exact hdigits.capture f

theorem decimal_visible (n : Nat) (z : List Char) :
    startsOutside isBlank (decimal n ++ z) = true := by
  obtain ⟨c, cs, hcs⟩ := List.exists_cons_of_ne_nil (decimal_ne_nil n)
  have hmem : c ∈ decimal n := by simp [hcs]
  have hc : isBlank c = false := isBlank_of_isDigit (isDigit_of_mem_decimal hmem)
  simp [hcs, startsOutside, hc]

theorem prefers_lineThen (n : Nat) (hc : isDigit c = false) (hp : p.Prefers (c :: z) ms r) :
    (lineThen p).Prefers ("line ".toList ++ (decimal n ++ c :: z))
      (.opened .line (decimal n ++ c :: z) :: .closed .line (c :: z) :: ms) r :=
  (prefers_text "line".toList (' ' :: (decimal n ++ c :: z))).seq
    ((prefers_blank (decimal_visible n _)).seq
      ((prefers_number .line n hc z).seq hp))

/-- A number is read to its end, if what comes after it does not start with a digit. -/
theorem reads_lineThen (hc : isDigit c = false)
    (hp : ∀ s ms r, p.Reads s ms r → ∃ d u, s = d :: u ∧ isDigit d = false)
    (h : (lineThen p).Reads ("line ".toList ++ (decimal n ++ c :: z)) ms r) :
    ∃ ms', p.Reads (c :: z) ms' r := by
  obtain ⟨_, m, _, ⟨hs, -⟩, ⟨_, _, _, hblank, ⟨_, w, ms', ⟨_, hnumber, -⟩, hread, -⟩, -⟩, -⟩ := h
  have hword : "line".toList ++ ' ' :: (decimal n ++ c :: z) = "line".toList ++ m := hs
  obtain rfl := List.append_cancel_left hword
  obtain ⟨-, rfl⟩ := most1_reads_one (decimal_visible n _) hblank
  obtain ⟨t, -, ht, hcut, -⟩ := most1_reads_iff.1 hnumber
  obtain ⟨d, u, rfl, hd⟩ := hp w ms' r hread
  -- the number that was written and the one that was read are the digits at the front
  obtain ⟨-, hsame⟩ := span_unique (p := isDigit) (fun c hc => isDigit_of_mem_decimal hc) ht hc hd
    hcut
  exact ⟨ms', hsame ▸ hread⟩

/-- A pattern that spells words reads no text that starts as none of them does. -/
theorem not_reads_of_words {ws : List (List Char)} (hws : p.words? = some ws)
    (hc : (ws.all fun w => w.head?.any (· != c)) = true) : ¬ p.Reads (c :: s) ms r := by
  intro h
  obtain ⟨t, ht⟩ := suffix_of_reads h
  rw [← ht] at h
  obtain ⟨d, hd, hne⟩ := (Option.any_eq_true ..).1
    (List.all_eq_true.1 hc t (mem_words_of_reads hws h))
  obtain ⟨t, rfl⟩ := List.head?_eq_some_iff.1 hd
  obtain ⟨rfl, -⟩ := List.cons.inj ht
  simp at hne

end Pattern

namespace GreenHills

/-- The place in the file, if the heading names one. -/
def placePattern : Pattern :=
  alt (lineThen (most1 isBlank ++ ("(col." ++ (most1 isBlank ++
    (capture .column (most1 isDigit) ++ ")"))))) "At end of source"

/-- From the end of the file to the end of the heading. -/
def restPattern : Pattern :=
  most1 isBlank ++ (placePattern ++ (":" ++ (most1 isBlank ++ (opt "fatal " ++
    (capture .severity (oneOf ["remark", "warning", "error"]) ++ (most1 isBlank ++
      (capture .message (most isInline) ++ stop)))))))

theorem match?_heading (line : Line) :
    headingPattern.match? line = (quoted restPattern).match? line :=
  match?_congr (fun _ _ => rfl) line

theorem heading?_lineWith (n : QuotedNotice) (huncut : restPattern.Uncut s)
    (h : restPattern.Prefers s ms []) :
    heading? (n.lineWith s) = some (ofCaptures (n.fileMarks s ++ ms)) := by
  rw [heading?, match?_heading, n.match?_lineWith huncut h]
  rfl

theorem alone_lineWith (n : QuotedNotice) (huncut : restPattern.Uncut s)
    (h : ∀ ms r, ¬ restPattern.Reads s ms r) :
    Matcher.alone .ghs (n.lineWith s) = (false, []) := by
  refine alone_of_none ?_
  rw [heading?, match?_heading, n.match?_eq_none huncut h]
  rfl

theorem claimed_of_match {line : Line}
    (h : ((quoted restPattern).match? line).isSome = true) :
    (Matcher.alone .ghs line).1 = true := by
  obtain ⟨cs, hcs⟩ := Option.isSome_iff_exists.1 h
  have hheading : heading? line = some (ofCaptures cs) := by
    rw [heading?, match?_heading, hcs]
    rfl
  rw [alone_of_heading hheading]

end GreenHills

namespace Diab

/-- From the end of the file to the end of the heading. -/
def restPattern : Pattern :=
  most1 isBlank ++ (opt (lineThen (":" ++ most1 isBlank)) ++
    (capture .severity (oneOf ["info", "warning", opt (alt "fatal " "catastrophic ") ++ "error"]) ++
      (most1 isBlank ++ ("(" ++ (capture .code (most isInline) ++ ("):" ++ (most1 isBlank ++
        (capture .message (most isInline) ++ stop))))))))

theorem match?_pattern (line : Line) : pattern.match? line = (quoted restPattern).match? line :=
  match?_congr (fun _ _ => rfl) line

theorem match?_lineWith (n : QuotedNotice) (huncut : restPattern.Uncut s)
    (h : restPattern.Prefers s ms []) :
    pattern.match? (n.lineWith s) = some (n.fileMarks s ++ ms) := by
  rw [match?_pattern]
  exact n.match?_lineWith huncut h

theorem alone_lineWith (n : QuotedNotice) (huncut : restPattern.Uncut s)
    (h : ∀ ms r, ¬ restPattern.Reads s ms r) :
    Matcher.alone .diab (n.lineWith s) = (false, []) := by
  refine alone_of_none ?_
  rw [match?_pattern]
  exact n.match?_eq_none huncut h

end Diab

namespace Iar

/-- From the end of the file to the end of the heading. -/
def restPattern : Pattern := capture .line (most1 isDigit) ++ (most1 isBlank ++ tailPattern)

theorem match?_located (line : Line) :
    locatedPattern.match? line = (quoted restPattern).match? line :=
  match?_congr (fun _ _ => rfl) line

/-- A number comes right behind the file. -/
theorem not_reads_blank {r : List Char} : ¬ restPattern.Reads (' ' :: s) ms r := by
  intro h
  obtain ⟨c, u, hs, hc⟩ := startsOff_of_reads (by decide : restPattern.startsOff [' '] = true) h
  exact hc (List.mem_singleton.2 (List.cons.inj hs).1.symm)

/-- A line that starts with a quote closes no block. -/
theorem trim_lineWith (n : QuotedNotice) (s : List Char) :
    trim (n.lineWith s) ≠ abortLine.toList := by
  intro h
  have hquote : '"' ∈ trim (n.lineWith s) := mem_trim List.mem_cons_self (by decide)
  rw [h] at hquote
  exact absurd hquote (by decide)

theorem heading?_lineWith (n : QuotedNotice) (huncut : restPattern.Uncut s)
    (h : restPattern.Prefers s ms []) : heading? (n.lineWith s) =
      some (ofCaptures (n.fileMarks s ++ ms)
        (String.ofList ((n.fileMarks s ++ ms).get .file))) := by
  rw [heading?, match?_located, n.match?_lineWith huncut h]

theorem alone_lineWith (n : QuotedNotice) (huncut : restPattern.Uncut s)
    (h : ∀ ms r, ¬ restPattern.Reads s ms r) :
    Matcher.alone .iar (n.lineWith s) = (false, []) := by
  refine alone_of_none (trim_lineWith n s) ?_
  have hlocated : locatedPattern.match? (n.lineWith s) = none := by
    rw [match?_located]
    exact n.match?_eq_none huncut h
  have htail : tailPattern.match? (n.lineWith s) = none :=
    match?_of_startsOff (by decide : tailPattern.startsOff ['"'] = true) (by simp) _
  rw [heading?, hlocated]
  dsimp only
  rw [htail]
  rfl

theorem claimed_of_match (n : QuotedNotice)
    (h : ((quoted restPattern).match? (n.lineWith s)).isSome = true) :
    (Matcher.alone .iar (n.lineWith s)).1 = true := by
  obtain ⟨cs, hcs⟩ := Option.isSome_iff_exists.1 h
  have hheading : heading? (n.lineWith s) =
      some (ofCaptures cs (String.ofList (cs.get .file))) := by
    rw [heading?, match?_located, hcs]
  rw [alone_of_heading (trim_lineWith n s) hheading]

end Iar

end BuildDiagnostics
