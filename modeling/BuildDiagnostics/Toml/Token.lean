import BuildDiagnostics.Text.Class

/-!
# Tokens of a TOML document

A document is cut into words, strings, signs and line ends; blanks and comments are dropped. A
control character may stand nowhere, and a carriage return only before a line feed.

Each function reads on in one situation (`plainTokens` between tokens, `textTokens` inside a string
in double quotes, and so on) and gives the tokens of all that is left, or nothing when that is
malformed.
-/

namespace BuildDiagnostics.Toml

/-- A token of a document. -/
inductive Token
  | newline
  | equals
  | comma
  | opening
  | closing
  /-- A run of letters, digits, underscores and hyphens. -/
  | word (w : List Char)
  /-- A string that is written on one line. -/
  | text (s : List Char)
  /-- A string in threefold quotes. -/
  | block (s : List Char)
  deriving DecidableEq, Repr

/-- Whether the character separates tokens within a line. -/
def isSpace (c : Char) : Bool := c == ' ' || c == '\t'

/-- Whether the character may stand in a comment or a string. -/
def isPrintable (c : Char) : Bool := c == '\t' || (32 ≤ c.toNat && c.toNat != 127)

/-- Whether the character may stand in a word. -/
def isWordChar (c : Char) : Bool :=
  Text.isLetterAscii c || Text.isDigitAscii c || c == '_' || c == '-'

/-- The value of a digit in base sixteen. -/
def hexDigit? (c : Char) : Option Nat :=
  if Text.isDigitAscii c then some (c.toNat - '0'.toNat)
  else if 'a' ≤ c && c ≤ 'f' then some (c.toNat - 'a'.toNat + 10)
  else if 'A' ≤ c && c ≤ 'F' then some (c.toNat - 'A'.toNat + 10)
  else none

/-- The character whose number the digits spell in base sixteen. -/
def charOfHex? (digits : List Char) : Option Char :=
  (digits.foldlM (fun n c => (hexDigit? c).map (16 * n + ·)) 0).bind fun n =>
    if n.isValidChar then some (Char.ofNat n) else none

/-- The character that a backslash and a letter stand for. -/
def escaped? : Char → Option Char
  | 'b' => some '\x08'
  | 't' => some '\t'
  | 'n' => some '\n'
  | 'f' => some '\x0c'
  | 'r' => some '\r'
  | '"' => some '"'
  | '\\' => some '\\'
  | _ => none

/-- Whether only blanks are left on the line, and the line has an end. -/
def endsLine : List Char → Bool
  | '\n' :: _ => true
  | '\r' :: '\n' :: _ => true
  | c :: rest => isSpace c && endsLine rest
  | [] => false

/-- The tokens after a character of a word: it belongs to the word that follows at once, if one
does. -/
def putWordChar (c : Char) (joined : Bool) (tokens : List Token) : List Token :=
  match joined, tokens with
  | true, .word w :: rest => .word (c :: w) :: rest
  | _, tokens => .word [c] :: tokens

/-- Whether the text goes on with a character of a word. -/
def startsWord (s : List Char) : Bool := s.head?.any isWordChar

mutual

/-- Between tokens. -/
def plainTokens : List Char → Option (List Token)
  | [] => some []
  | '\r' :: '\n' :: rest => (plainTokens rest).map (.newline :: ·)
  | '\n' :: rest => (plainTokens rest).map (.newline :: ·)
  | '=' :: rest => (plainTokens rest).map (.equals :: ·)
  | ',' :: rest => (plainTokens rest).map (.comma :: ·)
  | '[' :: rest => (plainTokens rest).map (.opening :: ·)
  | ']' :: rest => (plainTokens rest).map (.closing :: ·)
  | '#' :: rest => commentTokens rest
  | '"' :: '"' :: '"' :: '\r' :: '\n' :: rest => blockTokens false [] rest
  | '"' :: '"' :: '"' :: '\n' :: rest => blockTokens false [] rest
  | '"' :: '"' :: '"' :: rest => blockTokens false [] rest
  | '"' :: rest => textTokens [] rest
  | '\'' :: '\'' :: '\'' :: '\r' :: '\n' :: rest => literalBlockTokens [] rest
  | '\'' :: '\'' :: '\'' :: '\n' :: rest => literalBlockTokens [] rest
  | '\'' :: '\'' :: '\'' :: rest => literalBlockTokens [] rest
  | '\'' :: rest => literalTokens [] rest
  | c :: rest =>
    if isSpace c then plainTokens rest
    else if isWordChar c then (plainTokens rest).map (putWordChar c (startsWord rest))
    else none
termination_by t => t.length
decreasing_by all_goals simp only [List.length_cons]; omega

/-- In a comment. -/
def commentTokens : List Char → Option (List Token)
  | [] => some []
  | '\r' :: '\n' :: rest => (plainTokens rest).map (.newline :: ·)
  | '\n' :: rest => (plainTokens rest).map (.newline :: ·)
  | c :: rest => if isPrintable c then commentTokens rest else none
termination_by t => t.length
decreasing_by all_goals simp only [List.length_cons]; omega

/-- In a string in double quotes. Its last characters come first in `s`, here and below. -/
def textTokens (s : List Char) : List Char → Option (List Token)
  | '"' :: rest => (plainTokens rest).map (.text s.reverse :: ·)
  | '\\' :: 'u' :: a :: b :: c :: d :: rest =>
    (charOfHex? [a, b, c, d]).bind fun x => textTokens (x :: s) rest
  | '\\' :: 'U' :: a :: b :: c :: d :: e :: f :: g :: h :: rest =>
    (charOfHex? [a, b, c, d, e, f, g, h]).bind fun x => textTokens (x :: s) rest
  | '\\' :: c :: rest => (escaped? c).bind fun x => textTokens (x :: s) rest
  | c :: rest => if isPrintable c then textTokens (c :: s) rest else none
  | [] => none
termination_by t => t.length
decreasing_by all_goals simp only [List.length_cons]; omega

/-- In a string in single quotes. -/
def literalTokens (s : List Char) : List Char → Option (List Token)
  | '\'' :: rest => (plainTokens rest).map (.text s.reverse :: ·)
  | c :: rest => if isPrintable c then literalTokens (c :: s) rest else none
  | [] => none
termination_by t => t.length
decreasing_by all_goals simp only [List.length_cons]; omega

/-- In a string in threefold double quotes. A backslash at the end of a line makes `skipping` true:
blanks and line ends are passed over until another character comes. -/
def blockTokens (skipping : Bool) (s : List Char) : List Char → Option (List Token)
  | '"' :: '"' :: '"' :: '"' :: '"' :: rest =>
    (plainTokens rest).map (.block ('"' :: '"' :: s).reverse :: ·)
  | '"' :: '"' :: '"' :: '"' :: rest => (plainTokens rest).map (.block ('"' :: s).reverse :: ·)
  | '"' :: '"' :: '"' :: rest => (plainTokens rest).map (.block s.reverse :: ·)
  | '\\' :: 'u' :: a :: b :: c :: d :: rest =>
    (charOfHex? [a, b, c, d]).bind fun x => blockTokens false (x :: s) rest
  | '\\' :: 'U' :: a :: b :: c :: d :: e :: f :: g :: h :: rest =>
    (charOfHex? [a, b, c, d, e, f, g, h]).bind fun x => blockTokens false (x :: s) rest
  | '\\' :: c :: rest =>
    if endsLine (c :: rest) then blockTokens true s (c :: rest)
    else (escaped? c).bind fun x => blockTokens false (x :: s) rest
  | '\r' :: '\n' :: rest =>
    if skipping then blockTokens true s rest else blockTokens false ('\n' :: s) rest
  | '\n' :: rest =>
    if skipping then blockTokens true s rest else blockTokens false ('\n' :: s) rest
  | c :: rest =>
    if skipping && isSpace c then blockTokens true s rest
    else if isPrintable c then blockTokens false (c :: s) rest
    else none
  | [] => none
termination_by t => t.length
decreasing_by all_goals simp only [List.length_cons]; omega

/-- In a string in threefold single quotes. -/
def literalBlockTokens (s : List Char) : List Char → Option (List Token)
  | '\'' :: '\'' :: '\'' :: '\'' :: '\'' :: rest =>
    (plainTokens rest).map (.block ('\'' :: '\'' :: s).reverse :: ·)
  | '\'' :: '\'' :: '\'' :: '\'' :: rest =>
    (plainTokens rest).map (.block ('\'' :: s).reverse :: ·)
  | '\'' :: '\'' :: '\'' :: rest => (plainTokens rest).map (.block s.reverse :: ·)
  | '\r' :: '\n' :: rest => literalBlockTokens ('\n' :: s) rest
  | '\n' :: rest => literalBlockTokens ('\n' :: s) rest
  | c :: rest => if isPrintable c then literalBlockTokens (c :: s) rest else none
  | [] => none
termination_by t => t.length
decreasing_by all_goals simp only [List.length_cons]; omega

end

/-- The tokens of a document. A byte order mark at its start does not count. -/
def tokens : List Char → Option (List Token)
  | '\ufeff' :: s => plainTokens s
  | s => plainTokens s

end BuildDiagnostics.Toml
