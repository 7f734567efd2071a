import BuildDiagnostics.Text.Line

/-!
# Numbers as text

A text may spell a number in decimal: digits with an optional point, an optional sign before them
and an optional exponent after them, or one of the words for infinity and for no number. `isZero?`
tells whether the double nearest to the number is zero.
-/

namespace BuildDiagnostics.Text.Number

/-- The text without one sign at its start. -/
def dropSign : List Char → List Char
  | '+' :: s => s
  | '-' :: s => s
  | s => s

/-- The value of ASCII digits. -/
def value (digits : List Char) : Nat :=
  digits.foldl (fun n c => 10 * n + (c.toNat - '0'.toNat)) 0

/-- The value of an exponent, if the text after the digits is one; no text is exponent zero. -/
def exponent? : List Char → Option Int
  | [] => some 0
  | e :: s =>
    if upperAsciiE e then
      let digits := dropSign s
      if digits.isEmpty || !digits.all isDigitAscii then none
      else if s.head? = some '-' then some (-(value digits : Int))
      else some (value digits)
    else none
where
  /-- Whether the character introduces an exponent. -/
  upperAsciiE (c : Char) : Bool := c == 'e' || c == 'E'

/-- Whether `m * 10 ^ e` rounds to the double zero: it is at most half the least double. `width` is
at least the number of digits of `m`. -/
def roundsToZero (m width : Nat) (e : Int) : Bool :=
  if m = 0 then true
  else if 0 ≤ e then false
  else
    let k := (-e).toNat
    if width + 400 ≤ k then true else m * Nat.pow 2 1075 ≤ Nat.pow 10 k

/-- The words that are read as numbers, in upper case. -/
def words : List String := ["INF", "INFINITY", "NAN"]

/-- Whether the number that an upper-case text spells is zero; none when it spells no number. -/
def isZero? (text : List Char) : Option Bool :=
  let body := dropSign text
  if words.any fun w => w.toList == body then some false
  else
    let whole := body.takeWhile isDigitAscii
    let rest := body.dropWhile isDigitAscii
    let (fraction, rest) :=
      match rest with
      | '.' :: r => (r.takeWhile isDigitAscii, r.dropWhile isDigitAscii)
      | r => ([], r)
    let digits := whole ++ fraction
    if digits.isEmpty then none
    else (exponent? rest).map fun e =>
      roundsToZero (value digits) digits.length (e - fraction.length)

end BuildDiagnostics.Text.Number
