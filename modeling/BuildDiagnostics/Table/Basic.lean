import BuildDiagnostics.Table.Widths

/-!
# Tables

A table is drawn with a border around every cell. It takes at most the given width; cells that need
more are broken into lines.
-/

namespace BuildDiagnostics

/-- A header and rows of cells. A cell may have several lines. -/
structure Table where
  header : List String
  rows : List (List String)
  deriving DecidableEq, Repr

namespace Table

/-- The lines of a cell. -/
def cellLines (cell : String) : List (List Char) := Text.pieces '\n' cell.toList

/-- The columns of the table. -/
def columns (t : Table) : List Column :=
  t.header.zipIdx.map fun (head, i) =>
    ⟨cellLines head ++ t.rows.flatMap fun row => cellLines (row.getD i ""), none⟩

/-- The width that is left for the text of the cells. -/
def textWidth (total : Nat) (count : Nat) : Nat := total - (count + 1) - 2 * count

/-- A line of a cell between its blanks. -/
def padded (w : Nat) (line : List Char) : String :=
  String.ofList (' ' :: line ++ List.replicate (w - Text.width line + 1) ' ')

/-- The lines of a row. -/
def rowLines (ws : List Nat) (cells : List String) : List String :=
  let wrapped := (ws.zip cells).map fun (w, cell) => (cellLines cell).flatMap (wrapLine w)
  let height := (wrapped.map List.length).foldl max 0
  (List.range height).map fun i =>
    "|" ++ String.join ((ws.zip wrapped).map fun (w, lines) => padded w (lines.getD i []) ++ "|")

/-- A line between rows: its ends, its filling, and what it has where columns meet. -/
def rule (ends fill cross : Char) (ws : List Nat) : String :=
  String.ofList (ends ::
    [cross].intercalate (ws.map fun w => List.replicate (w + 2) fill) ++ [ends])

/-- The lines of the table. -/
def lines (total : Nat) (t : Table) : List String :=
  let ws := widths (textWidth total t.header.length) t.columns
  let border := rule '+' '-' '+' ws
  let body := [rule '|' '-' '+' ws].intercalate (t.rows.map (rowLines ws))
  [border] ++ rowLines ws t.header ++ [rule '+' '=' '=' ws] ++ body ++ [border]

/-- The table as a text without a line end at its end. -/
def render (total : Nat) (t : Table) : String := "\n".intercalate (t.lines total)

end Table

end BuildDiagnostics
