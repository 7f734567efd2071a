import BuildDiagnostics.Encoding.FourByte
import BuildDiagnostics.Encoding.Utf8

/-!
# Multi-byte encodings of East Asia

The encodings of the WHATWG standard in which a lead byte and the bytes after it may form one
character. How sequences are cut and which entry of a table they stand for is fixed here; the tables
themselves (`Indexes`) are a parameter, and a sequence without an entry is rejected, like a
malformed one. A rejected pair leaves an ASCII byte to be read again.
-/

namespace BuildDiagnostics.EastAsian

/-- A table of characters by number, which has gaps. -/
abbrev Index := Array (Option Char)

/-- The character with the given number, if the table has one. -/
def Index.char? (t : Index) (n : Nat) : Option Char := t[n]?.join

/-- The tables of the standard. Without an entry no character is known. -/
structure Indexes where
  jis0208 : Index := #[]
  jis0212 : Index := #[]
  gb18030 : Index := #[]
  eucKr : Index := #[]
  big5 : Index := #[]
  deriving DecidableEq, Repr

/-- Whether the byte is an ASCII byte. -/
def isAscii (b : UInt8) : Bool := b < 0x80

/-- The character of an ASCII byte. -/
def ascii (b : UInt8) : Char := Char.ofNat b.toNat

/-- The half-width katakana `n` places after the first. -/
def katakana (n : Nat) : Char := Char.ofNat (0xFF61 + n)

/-- The units of a text whose lead bytes are `isLead`. `single` reads a byte that is no lead, `pair`
a lead and the byte after it. -/
def pairUnits (isLead : UInt8 → Bool) (single : UInt8 → Option Char)
    (pair : UInt8 → UInt8 → Option (List Char)) : List UInt8 → CodeUnits
  | [] => []
  | b₀ :: r₀ =>
    if !isLead b₀ then single b₀ :: pairUnits isLead single pair r₀
    else
      match r₀ with
      | [] => [none]
      | b₁ :: r₁ =>
        match pair b₀ b₁ with
        | some cs => cs.map some ++ pairUnits isLead single pair r₁
        | none =>
          if isAscii b₁ then none :: pairUnits isLead single pair (b₁ :: r₁)
          else none :: pairUnits isLead single pair r₁

/-- An ASCII byte read alone. -/
def asciiOnly (b : UInt8) : Option Char := if isAscii b then some (ascii b) else none

/-- Whether the byte is between 81 and FE. -/
def isWideLead (b : UInt8) : Bool := 0x81 ≤ b && b ≤ 0xFE

/-- The character of two bytes in a table of 94 rows and columns, which are counted from the byte
`first` on. -/
def squareChar? (t : Index) (first row column : UInt8) : Option Char :=
  t.char? ((row.toNat - first.toNat) * 94 + (column.toNat - first.toNat))

namespace ShiftJis

/-- Whether the byte opens a pair. -/
def isLead (b : UInt8) : Bool := (0x81 ≤ b && b ≤ 0x9F) || (0xE0 ≤ b && b ≤ 0xFC)

/-- A byte alone: ASCII, the control 80, or half-width katakana. -/
def single (b : UInt8) : Option Char :=
  if b ≤ 0x80 then some (Char.ofNat b.toNat)
  else if 0xA1 ≤ b && b ≤ 0xDF then some (katakana (b.toNat - 0xA1))
  else none

/-- A pair in the rows of the private use area, or in the table. -/
def pair (jis0208 : Index) (lead b : UInt8) : Option (List Char) :=
  if (0x40 ≤ b && b ≤ 0x7E) || (0x80 ≤ b && b ≤ 0xFC) then
    let row := lead.toNat - (if lead < 0xA0 then 0x81 else 0xC1)
    let n := row * 188 + b.toNat - (if b < 0x7F then 0x40 else 0x41)
    if 8836 ≤ n && n ≤ 10715 then some [Char.ofNat (0xE000 + (n - 8836))]
    else (jis0208.char? n).map ([·])
  else none

/-- The units of a Shift_JIS text. -/
def units (jis0208 : Index) : List UInt8 → CodeUnits := pairUnits isLead single (pair jis0208)

end ShiftJis

namespace EucKr

/-- A pair in the table. -/
def pair (t : Index) (lead b : UInt8) : Option (List Char) :=
  if 0x41 ≤ b && b ≤ 0xFE then
    (t.char? ((lead.toNat - 0x81) * 190 + (b.toNat - 0x41))).map ([·])
  else none

/-- The units of an EUC-KR text. -/
def units (t : Index) : List UInt8 → CodeUnits := pairUnits isWideLead asciiOnly (pair t)

end EucKr

namespace Big5

/-- A pair in the table, or one of the four that stand for a letter and a mark. -/
def pair (t : Index) (lead b : UInt8) : Option (List Char) :=
  if (0x40 ≤ b && b ≤ 0x7E) || (0xA1 ≤ b && b ≤ 0xFE) then
    match (lead.toNat - 0x81) * 157 + b.toNat - (if b < 0x7F then 0x40 else 0x62) with
    | 1133 => some ['\u00ca', '\u0304']
    | 1135 => some ['\u00ca', '\u030c']
    | 1164 => some ['\u00ea', '\u0304']
    | 1166 => some ['\u00ea', '\u030c']
    | n => (t.char? n).map ([·])
  else none

/-- The units of a Big5 text. -/
def units (t : Index) : List UInt8 → CodeUnits := pairUnits isWideLead asciiOnly (pair t)

end Big5

namespace EucJp

/-- Whether the byte opens a pair. -/
def isLead (b : UInt8) : Bool := b = 0x8E || b = 0x8F || (0xA1 ≤ b && b ≤ 0xFE)

/-- Whether the byte belongs to a table of kanji. -/
def isRow (b : UInt8) : Bool := 0xA1 ≤ b && b ≤ 0xFE

/-- The character of two bytes in a table of kanji. -/
def char? (t : Index) (row column : UInt8) : Option Char :=
  if isRow row && isRow column then squareChar? t 0xA1 row column else none

/-- The units of an EUC-JP text. The byte 8F announces a pair of the second table. -/
def units (jis0208 jis0212 : Index) : List UInt8 → CodeUnits
  | [] => []
  | b₀ :: r₀ =>
    if isAscii b₀ then some (ascii b₀) :: units jis0208 jis0212 r₀
    else if !isLead b₀ then none :: units jis0208 jis0212 r₀
    else
      match r₀ with
      | [] => [none]
      | b₁ :: r₁ =>
        if b₀ = 0x8E && 0xA1 ≤ b₁ && b₁ ≤ 0xDF then
          some (katakana (b₁.toNat - 0xA1)) :: units jis0208 jis0212 r₁
        else if b₀ = 0x8F && isRow b₁ then
          match r₁ with
          | [] => [none]
          | b₂ :: r₂ =>
            match char? jis0212 b₁ b₂ with
            | some c => some c :: units jis0208 jis0212 r₂
            | none =>
              if isAscii b₂ then none :: units jis0208 jis0212 (b₂ :: r₂)
              else none :: units jis0208 jis0212 r₂
        else
          match char? jis0208 b₀ b₁ with
          | some c => some c :: units jis0208 jis0212 r₁
          | none =>
            if isAscii b₁ then none :: units jis0208 jis0212 (b₁ :: r₁)
            else none :: units jis0208 jis0212 r₁

end EucJp

namespace Gb18030

/-- Whether the byte is a second or fourth byte of a four-byte code. -/
def isDigit (b : UInt8) : Bool := 0x30 ≤ b && b ≤ 0x39

/-- The number of a four-byte code. -/
def number (b₀ b₁ b₂ b₃ : UInt8) : Nat :=
  (b₀.toNat - 0x81) * 12600 + (b₁.toNat - 0x30) * 1260 + (b₂.toNat - 0x81) * 10 +
    (b₃.toNat - 0x30)

/-- The character of two bytes. -/
def pair? (t : Index) (lead b : UInt8) : Option Char :=
  if (0x40 ≤ b && b ≤ 0x7E) || (0x80 ≤ b && b ≤ 0xFE) then
    t.char? ((lead.toNat - 0x81) * 190 + (b.toNat - (if b < 0x7F then 0x40 else 0x41)))
  else none

/-- The units of a GB 18030 text. -/
def units (t : Index) : List UInt8 → CodeUnits
  | [] => []
  | b₀ :: r₀ =>
    if isAscii b₀ then some (ascii b₀) :: units t r₀
    else if b₀ = 0x80 then some '\u20ac' :: units t r₀
    else if b₀ = 0xFF then none :: units t r₀
    else
      match r₀ with
      | [] => [none]
      | b₁ :: r₁ =>
        if isDigit b₁ then
          match r₁ with
          | [] => [none]
          | b₂ :: r₂ =>
            if !isWideLead b₂ then none :: units t (b₁ :: b₂ :: r₂)
            else
              match r₂ with
              | [] => [none]
              | b₃ :: r₃ =>
                if isDigit b₃ then FourByte.char? (number b₀ b₁ b₂ b₃) :: units t r₃
                else none :: units t (b₁ :: b₂ :: b₃ :: r₃)
        else
          match pair? t b₀ b₁ with
          | some c => some c :: units t r₁
          | none =>
            if isAscii b₁ then none :: units t (b₁ :: r₁)
            else none :: units t r₁

end Gb18030

namespace Iso2022Jp

/-- The set of characters that bytes are read in. -/
inductive Charset
  | ascii | roman | katakana | kanji
  deriving DecidableEq, Repr

/-- The set that the two bytes after an escape byte switch to. -/
def escape? (b₁ b₂ : UInt8) : Option Charset :=
  if b₁ = 0x28 && b₂ = 0x42 then some .ascii
  else if b₁ = 0x28 && b₂ = 0x4A then some .roman
  else if b₁ = 0x28 && b₂ = 0x49 then some .katakana
  else if b₁ = 0x24 && (b₂ = 0x40 || b₂ = 0x42) then some .kanji
  else none

/-- A byte read alone in a set, kanji apart. -/
def single (set : Charset) (b : UInt8) : Option Char :=
  match set with
  | .ascii =>
    if isAscii b && b != 0x0E && b != 0x0F then some (EastAsian.ascii b) else none
  | .roman =>
    if b = 0x5C then some '\u00a5'
    else if b = 0x7E then some '\u203e'
    else if isAscii b && b != 0x0E && b != 0x0F then some (EastAsian.ascii b)
    else none
  | .katakana =>
    if 0x21 ≤ b && b ≤ 0x5F then some (EastAsian.katakana (b.toNat - 0x21)) else none
  | .kanji => none

/-- Whether the byte belongs to a pair of the kanji set. -/
def isRow (b : UInt8) : Bool := 0x21 ≤ b && b ≤ 0x7E

/-- The character of two bytes of the kanji set. -/
def pair? (jis0208 : Index) (row column : UInt8) : Option Char :=
  if isRow column then squareChar? jis0208 0x21 row column else none

/-- The units of a text read in a set; `bare` tells that an escape came last, so that a further
escape is malformed. -/
def unitsFrom (jis0208 : Index) (set : Charset) (bare : Bool) : List UInt8 → CodeUnits
  | [] => []
  | b₀ :: r₀ =>
    if b₀ = 0x1B then
      match r₀ with
      | b₁ :: b₂ :: r₂ =>
        match escape? b₁ b₂ with
        | some set' => (if bare then [none] else []) ++ unitsFrom jis0208 set' true r₂
        | none => none :: unitsFrom jis0208 set false (b₁ :: b₂ :: r₂)
      | r => none :: unitsFrom jis0208 set false r
    else if set = .kanji && isRow b₀ then
      match r₀ with
      | [] => [none]
      | b₁ :: r₁ =>
        if b₁ = 0x1B then none :: unitsFrom jis0208 set false (b₁ :: r₁)
        else pair? jis0208 b₀ b₁ :: unitsFrom jis0208 set false r₁
    else single set b₀ :: unitsFrom jis0208 set false r₀

/-- The units of an ISO-2022-JP text. -/
def units (jis0208 : Index) : List UInt8 → CodeUnits := unitsFrom jis0208 .ascii false

end Iso2022Jp

end BuildDiagnostics.EastAsian
