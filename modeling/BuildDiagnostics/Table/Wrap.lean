import BuildDiagnostics.Text.Line
import BuildDiagnostics.Text.Slice

/-!
# Breaking a line

A line that is too wide is broken into lines of a given width, at spaces where that is possible. A
word that is too wide for any line is cut, and starts on the line that is being filled if there is
room for more than a scrap of it. A line with room for a scrap only is done.
-/

namespace BuildDiagnostics.Table

open Text

/-- The number of columns that are too few to go on with a line. -/
def scrap : Nat := 2

/-- Lines that are done, and the line that is being filled. -/
structure Page where
  lines : List (List Char) := []
  current : List Char := []
  deriving DecidableEq, Repr

namespace Page

/-- The page with the line that is being filled done. -/
def endLine (p : Page) : Page := ⟨p.lines ++ [p.current], []⟩

/-- The line that is being filled with a space after it, unless it is empty. -/
def lead (p : Page) : List Char := if p.current.isEmpty then [] else p.current ++ [' ']

/-- The page with its line done if it has room for a scrap only. -/
def endIfFull (w : Nat) (p : Page) : Page := if w - scrap < width p.current then p.endLine else p

/-- The page with a word put on the line that is being filled. -/
def join (w : Nat) (p : Page) (word : List Char) : Page :=
  endIfFull w { p with current := p.lead ++ word }

/-- The page with the slices of a word put on a fresh line. A word that is too wide for a line is
cut after the last cluster that fits, or after its first character if none does. -/
def putFresh (w : Nat) (p : Page) : List Slice → Page
  | [] => p.join w []
  | x :: xs =>
    if x.span ≤ w then p.join w (textOf (x :: xs))
    else
      match fitting w (x :: xs) with
      | 0 => putFresh w ⟨p.lines ++ [[x.first]], []⟩ (slices (x.others ++ textOf xs))
      | n + 1 => putFresh w ⟨p.lines ++ [textOf ((x :: xs).take (n + 1))], []⟩ (xs.drop n)
termination_by word => (textOf word).length
decreasing_by
  · simp [textOf_slices, textOf]
  · have h := length_textOf_drop n xs
    simp only [textOf, List.cons_append, List.length_cons, List.length_append]
    omega

/-- The page with the slices of a word put on it that is too wide for any line; its beginning goes
on the line that is being filled. -/
def putLong (w : Nat) (p : Page) (word : List Slice) : Page :=
  if p.current.isEmpty then putFresh w p word
  else
    let n := fitting (w - width p.lead) word
    putFresh w ⟨p.lines ++ [p.lead ++ textOf (word.take n)], []⟩ (word.drop n)

/-- The page with one more word. -/
def put (w : Nat) (p : Page) (word : List Char) : Page :=
  if width p.lead + width word ≤ w then p.join w word
  else if !p.current.isEmpty && w - width p.lead ≤ scrap then p.endLine.putFresh w (slices word)
  else if w < width word then p.putLong w (slices word)
  else p.endLine.join w word

end Page

/-- The lines that a line is broken into. -/
def breakLine (w : Nat) (line : List Char) : List (List Char) :=
  let p := (pieces ' ' line).foldl (Page.put w) {}
  if p.current.isEmpty then p.lines else p.lines ++ [p.current]

/-- The line itself if it fits, and otherwise the lines that it is broken into. -/
def wrapLine (w : Nat) (line : List Char) : List (List Char) :=
  if width line ≤ w then [line] else breakLine w line

end BuildDiagnostics.Table
