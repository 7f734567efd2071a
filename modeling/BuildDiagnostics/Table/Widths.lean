import BuildDiagnostics.Table.Wrap

/-!
# The widths of columns

Columns share a given width. A column that needs no more than its even share gets what it needs,
which leaves more to the others; next, a column that wastes part of its share when its lines are
broken gets what it then uses; the rest is shared evenly.
-/

namespace BuildDiagnostics.Table

open Text

/-- A column: the lines of all its cells, and its width once that is decided. -/
structure Column where
  lines : List (List Char)
  width : Option Nat := none
  deriving DecidableEq, Repr

namespace Column

/-- The width of the widest line; at least one. -/
def natural (c : Column) : Nat := (c.lines.map Text.width).foldl max 1

/-- The number of bytes of a line. -/
def byteLength (line : List Char) : Nat := (String.ofList line).utf8ByteSize

/-- The number of bytes of the longest line when the lines are broken at a width. -/
def longest (c : Column) (w : Nat) : Nat :=
  ((c.lines.flatMap (wrapLine w)).map byteLength).foldl max 0

/-- The natural width, if it is no more than the share. -/
def fitNatural (share : Nat) (c : Column) : Option Nat :=
  if c.natural ≤ share then some c.natural else none

/-- What the broken lines use, if that leaves three columns or more of the share. -/
def fitBroken (share : Nat) (c : Column) : Option Nat :=
  if c.longest share + 3 ≤ share then some (c.longest share) else none

end Column

/-- The number of columns without a width. -/
def undecided (cs : List Column) : Nat := cs.countP fun c => c.width.isNone

/-- What is left of a width when the decided columns have theirs. -/
def unspent (total : Nat) (cs : List Column) : Nat :=
  cs.foldl (fun left c => left - c.width.getD 0) total

/-- Decides columns from left to right where `fit` gives a width for the share that is due at that
moment. `free` is the width that is left, `unset` the number of columns that share it. -/
def decideOnce (fit : Nat → Column → Option Nat) (free unset : Nat) : List Column → List Column
  | [] => []
  | c :: rest =>
    if c.width.isSome then c :: decideOnce fit free unset rest
    else
      match fit (free / unset) c with
      | some w => { c with width := some w } :: decideOnce fit (free - w) (unset - 1) rest
      | none => c :: decideOnce fit free unset rest

/-- Decides columns until no more can be decided; each of `n` rounds decides one or changes
nothing. -/
def decideAll (fit : Nat → Column → Option Nat) (total : Nat) : Nat → List Column → List Column
  | 0, cs => cs
  | n + 1, cs => decideAll fit total n (decideOnce fit (unspent total cs) (undecided cs) cs)

/-- Gives the columns without a width even shares; `extra` of them get one more. -/
def shareOut (share extra : Nat) : List Column → List Column
  | [] => []
  | c :: rest =>
    if c.width.isSome then c :: shareOut share extra rest
    else
      { c with width := some (if extra = 0 then share else share + 1) } ::
        shareOut share (extra - 1) rest

/-- The widths of columns that share a width. -/
def widths (total : Nat) (cs : List Column) : List Nat :=
  let cs := decideAll Column.fitNatural total cs.length cs
  let cs := decideAll Column.fitBroken total cs.length cs
  let free := unspent total cs
  let cs := shareOut (free / undecided cs) (free % undecided cs) cs
  cs.map fun c => c.width.getD 0

end BuildDiagnostics.Table
