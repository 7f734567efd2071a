import BuildDiagnostics.Toml.Token

/-!
# Documents of plain entries

A document of plain entries is a TOML document in which each entry stands on a line of its own, has
a key of one part, and has a string, a truth value or an array of strings as its value.
`Document.parse?` reads these documents and refuses all others, so also those with tables, numbers
or dates.

Each function reads on in one situation and gives the entries of all that is left. That keys differ
is for the reader of the entries to check.
-/

namespace BuildDiagnostics.Toml

/-- The value of an entry. -/
inductive Value
  | boolean (b : Bool)
  | string (s : String)
  | strings (items : List String)
  deriving DecidableEq, Repr

/-- The keys and values of a document, in order. -/
abbrev Document := List (String × Value)

/-- The truth value that a word spells. -/
def booleanOfWord? (w : List Char) : Option Bool :=
  if w = "true".toList then some true
  else if w = "false".toList then some false
  else none

mutual

/-- At the start of a line. -/
def readEntries : List Token → Option Document
  | [] => some []
  | .newline :: rest => readEntries rest
  | .word k :: .equals :: rest => readValue (String.ofList k) rest
  | .text k :: .equals :: rest => readValue (String.ofList k) rest
  | _ :: _ => none

/-- After a key and its sign. -/
def readValue (key : String) : List Token → Option Document
  | .word w :: rest => (booleanOfWord? w).bind fun b => readEnd (key, .boolean b) rest
  | .text s :: rest => readEnd (key, .string (String.ofList s)) rest
  | .block s :: rest => readEnd (key, .string (String.ofList s)) rest
  | .opening :: rest => readItem key [] rest
  | _ => none

/-- After an entry, which takes the rest of its line. -/
def readEnd (entry : String × Value) : List Token → Option Document
  | [] => some [entry]
  | .newline :: rest => (readEntries rest).map (entry :: ·)
  | _ :: _ => none

/-- In an array, where an item or the end may stand. -/
def readItem (key : String) (items : List String) : List Token → Option Document
  | .newline :: rest => readItem key items rest
  | .text s :: rest => readComma key (items ++ [String.ofList s]) rest
  | .block s :: rest => readComma key (items ++ [String.ofList s]) rest
  | .closing :: rest => readEnd (key, .strings items) rest
  | _ => none

/-- In an array, after an item. -/
def readComma (key : String) (items : List String) : List Token → Option Document
  | .newline :: rest => readComma key items rest
  | .comma :: rest => readItem key items rest
  | .closing :: rest => readEnd (key, .strings items) rest
  | _ => none

end

namespace Document

/-- The entries of a text. -/
def parse? (text : List Char) : Option Document := (tokens text).bind readEntries

end Document

end BuildDiagnostics.Toml
