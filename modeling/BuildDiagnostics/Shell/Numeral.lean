import BuildDiagnostics.Text.Class

/-!
# Numerals

Commands read numbers in decimal, octal (after a zero) and hexadecimal (after `0x`), and write them
with a sign, in a base, with a least number of digits, and for fractions in positional or scientific
notation. Fractions are ratios of natural numbers; a ratio is written with its last digit rounded, a
half to the even neighbour.
-/

namespace BuildDiagnostics.Shell

/-- The value of a digit in a base of at most sixteen. -/
def digitIn? (base : Nat) (c : Char) : Option Nat :=
  let value :=
    if Text.isDigitAscii c then c.toNat - '0'.toNat
    else if 'a' ≤ c && c ≤ 'f' then c.toNat - 'a'.toNat + 10
    else if 'A' ≤ c && c ≤ 'F' then c.toNat - 'A'.toNat + 10
    else 16
  if value < base then some value else none

/-- Whether the character is a digit in a base. -/
def isDigitIn (base : Nat) (c : Char) : Bool := (digitIn? base c).isSome

/-- The value of digits in a base. -/
def valueIn (base : Nat) (s : List Char) : Nat :=
  s.foldl (fun n c => base * n + (digitIn? base c).getD 0) 0

/-- The base of a numeral, and its text without what tells the base. -/
def baseOf : List Char → Nat × List Char
  | '0' :: x :: d :: s =>
    if (x == 'x' || x == 'X') && isDigitIn 16 d then (16, d :: s) else (8, '0' :: x :: d :: s)
  | '0' :: s => (8, '0' :: s)
  | s => (10, s)

/-- Whether the character is a blank before a numeral. -/
def isBlankBefore (c : Char) : Bool := c == ' ' || ('\t' ≤ c && c ≤ '\r')

/-- The sign at the start of a text, and what follows it. -/
def signOf : List Char → Bool × List Char
  | '-' :: s => (true, s)
  | '+' :: s => (false, s)
  | s => (false, s)

/-- An integer at the start of a text. -/
structure Numeral where
  negative : Bool
  magnitude : Nat
  /-- What follows the numeral. -/
  rest : List Char
  deriving DecidableEq, Repr

/-- The integer at the start of a text, if there is one. -/
def Numeral.of? (s : List Char) : Option Numeral :=
  let (negative, s) := signOf (s.dropWhile isBlankBefore)
  let (base, s) := baseOf s
  let digits := s.takeWhile (isDigitIn base)
  if digits.isEmpty then none
  else some ⟨negative, valueIn base digits, s.drop digits.length⟩

/-- The value of a numeral. -/
def Numeral.value (n : Numeral) : Int := if n.negative then -n.magnitude else n.magnitude

/-- The digits of a number in a base, at least so many. -/
def digitsIn (base width n : Nat) : List Char :=
  let ds := if n = 0 then [] else Nat.toDigits base n
  List.replicate (width - ds.length) '0' ++ ds

/-! ## Fractions -/

/-- A number that is no less than zero. -/
structure Ratio where
  numerator : Nat
  denominator : Nat
  deriving DecidableEq, Repr

namespace Ratio

/-- The integer nearest to a ratio; a half goes to the even neighbour. -/
def round (r : Ratio) : Nat :=
  let q := r.numerator / r.denominator
  let twice := 2 * (r.numerator % r.denominator)
  if r.denominator < twice || (r.denominator = twice && q % 2 = 1) then q + 1 else q

/-- The ratio times a power of a base. -/
def scale (r : Ratio) (base : Nat) (e : Int) : Ratio :=
  if 0 ≤ e then ⟨r.numerator * base.pow e.toNat, r.denominator⟩
  else ⟨r.numerator, r.denominator * base.pow (-e).toNat⟩

/-- The nearest number with so many binary digits. -/
def toBits (bits : Nat) (r : Ratio) : Ratio :=
  if r.numerator = 0 then ⟨0, 1⟩
  else
    let guess : Int := (Nat.log2 r.numerator : Int) - Nat.log2 r.denominator - bits
    let exponent := if Nat.pow 2 bits ≤ (r.scale 2 (-guess)).round then guess + 1 else guess
    scale ⟨(r.scale 2 (-exponent)).round, 1⟩ 2 exponent

/-- The exponent of the leading decimal digit; zero for the number zero. -/
def exponent (r : Ratio) : Int :=
  if r.numerator = 0 then 0
  else
    let guess : Int :=
      ((Nat.toDigits 10 r.numerator).length : Int) - (Nat.toDigits 10 r.denominator).length
    let s := r.scale 10 (-guess)
    if s.numerator < s.denominator then guess - 1 else guess

/-- The digits before the point and those behind it, of which there are so many. -/
def positional (places : Nat) (r : Ratio) : List Char × List Char :=
  let n := (r.scale 10 places).round
  let digits := digitsIn 10 (places + 1) n
  (digits.take (digits.length - places), digits.drop (digits.length - places))

/-- The leading digit, so many digits behind it, and the exponent. -/
def scientific (places : Nat) (r : Ratio) : List Char × List Char × Int :=
  let e := r.exponent
  let n := (r.scale 10 (places - e)).round
  let (n, e) := if Nat.pow 10 (places + 1) ≤ n then (n / 10, e + 1) else (n, e)
  let digits := digitsIn 10 (places + 1) n
  (digits.take 1, digits.drop 1, e)

end Ratio

/-- A number as it is written in decimal. -/
inductive Decimal
  | finite (r : Ratio)
  | infinite
  | notANumber
  deriving DecidableEq, Repr

/-- Whether a text starts with a word, in letters of any size, and what follows. -/
def wordAt? (word : String) (s : List Char) : Option (List Char) :=
  if (s.take word.length).map Char.toLower = word.toList then some (s.drop word.length) else none

/-- The greatest exponent that tells numbers apart; with a greater one all are infinite or zero. -/
def greatestExponent : Nat := 20000

/-- The exponent at the start of a text behind the given letter, and what follows; none counts as
zero. -/
def exponentAt (letter : Char) (s : List Char) : Int × List Char :=
  match s with
  | e :: rest =>
    if e.toLower = letter then
      let (negative, rest) := signOf rest
      let digits := rest.takeWhile Text.isDigitAscii
      if digits.isEmpty then (0, s)
      else
        let n : Int := min greatestExponent (valueIn 10 digits)
        (if negative then -n else n, rest.drop digits.length)
    else (0, s)
  | [] => (0, s)

/-- The digits of a number at the start of a text in a base, how many of them stand behind the
point, and what follows them. -/
def pointedDigits (base : Nat) (s : List Char) : List Char × Nat × List Char :=
  let whole := s.takeWhile (isDigitIn base)
  match s.drop whole.length with
  | '.' :: rest =>
    let fraction := rest.takeWhile (isDigitIn base)
    if whole.isEmpty && fraction.isEmpty then ([], 0, s)
    else (whole ++ fraction, fraction.length, rest.drop fraction.length)
  | rest => (whole, 0, rest)

/-- The number at the start of a text, whether it is negative, and what follows. -/
def Decimal.of? (s : List Char) : Option (Bool × Decimal × List Char) :=
  let (negative, s) := signOf (s.dropWhile isBlankBefore)
  match wordAt? "infinity" s, wordAt? "inf" s, wordAt? "nan" s, baseOf s with
  | some rest, _, _, _ | none, some rest, _, _ => some (negative, .infinite, rest)
  | _, _, some rest, _ => some (negative, .notANumber, rest)
  | _, _, _, (16, t) =>
    let (digits, places, rest) := pointedDigits 16 t
    let (e, rest) := exponentAt 'p' rest
    some (negative, .finite (Ratio.scale ⟨valueIn 16 digits, 1⟩ 2 (e - 4 * places)), rest)
  | _, _, _, _ =>
    let (digits, places, rest) := pointedDigits 10 s
    if digits.isEmpty then none
    else
      let (e, rest) := exponentAt 'e' rest
      some (negative, .finite (Ratio.scale ⟨valueIn 10 digits, 1⟩ 10 (e - places)), rest)

end BuildDiagnostics.Shell
