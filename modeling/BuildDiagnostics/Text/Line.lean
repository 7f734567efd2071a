import BuildDiagnostics.Text.Class

/-!
# Cutting text into lines

A text is a list of characters. `pieces` cuts a list at every separator and keeps the empty pieces;
`lines` reads a text as lines, each ended by a line feed or by a carriage return and a line feed;
`trim` takes the blanks off both ends.
-/

namespace BuildDiagnostics.Text

/-- The parts of a list between the separators, empty parts included. -/
def pieces {α : Type} [BEq α] (sep : α) : List α → List (List α)
  | [] => [[]]
  | a :: rest =>
    if a == sep then [] :: pieces sep rest
    else
      match pieces sep rest with
      | [] => [[a]]
      | p :: ps => (a :: p) :: ps

/-- The parts of a list that are ended by the separator; what follows the last one counts as a part
unless it is empty. -/
def records {α : Type} [BEq α] (sep : α) (s : List α) : List (List α) :=
  let ps := pieces sep s
  if (ps.getLastD []).isEmpty then ps.dropLast else ps

/-- The parts of a list with the separators that end them; the last part may have none. -/
def endedRecords {α : Type} [BEq α] (sep : α) : List α → List (List α)
  | [] => []
  | a :: rest =>
    if a == sep then [a] :: endedRecords sep rest
    else
      match endedRecords sep rest with
      | [] => [[a]]
      | r :: rs => (a :: r) :: rs

/-- The list without one last `a`, if it ends in one. -/
def dropLastIf {α : Type} [BEq α] (a : α) (s : List α) : List α :=
  if s.getLast? == some a then s.dropLast else s

/-- The lines of a text. A carriage return goes with the line feed that follows it; one at the very
end of the text stays. -/
def lines (s : List Char) : List (List Char) :=
  let ps := pieces '\n' s
  let ended := ps.dropLast.map (dropLastIf '\r')
  let last := ps.getLastD []
  if last.isEmpty then ended else ended ++ [last]

/-- The parts of a text between line ends of any kind: a carriage return and a line feed together,
or either alone. -/
def universalLines : List Char → List (List Char)
  | [] => [[]]
  | '\r' :: '\n' :: rest => [] :: universalLines rest
  | c :: rest =>
    if c = '\r' || c = '\n' then [] :: universalLines rest
    else
      match universalLines rest with
      | [] => [[c]]
      | l :: ls => (c :: l) :: ls

/-- The text without the blanks it starts with. -/
def trimStart (s : List Char) : List Char := s.dropWhile isBlank

/-- The text without the blanks it ends with. -/
def trimEnd (s : List Char) : List Char := (s.reverse.dropWhile isBlank).reverse

/-- The text without the blanks at both ends. -/
def trim (s : List Char) : List Char := trimEnd (trimStart s)

/-- Whether the text is empty or all blanks. -/
def isBlankLine (s : List Char) : Bool := s.all isBlank

/-- The text after a given beginning, if it has that beginning. -/
def dropPrefix? : List Char → List Char → Option (List Char)
  | [], s => some s
  | _ :: _, [] => none
  | a :: as, c :: s => if a = c then dropPrefix? as s else none

/-- The text before a given ending, if it has that ending. -/
def dropSuffix? (t s : List Char) : Option (List Char) :=
  (dropPrefix? t.reverse s.reverse).map List.reverse

/-- Whether a text occurs in another. -/
def occursIn (t : List Char) : List Char → Bool
  | [] => t.isEmpty
  | c :: s => t.isPrefixOf (c :: s) || occursIn t s

end BuildDiagnostics.Text
