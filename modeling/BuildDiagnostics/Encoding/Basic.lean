import BuildDiagnostics.Encoding.CodePage
import BuildDiagnostics.Encoding.EastAsian
import BuildDiagnostics.Encoding.Label
import BuildDiagnostics.Text.Case
import BuildDiagnostics.Text.Line

/-!
# Encodings of build output

Output is cut into lines at the byte 10 and then decoded, so only encodings that give ASCII bytes
their meaning can be chosen (`ofLabel`). `decodeLine` never fails: where the encoding rejects a
sequence the line is read as UTF-8 if it is valid UTF-8, and otherwise each rejected sequence is
replaced.

The encodings of East Asia come with the tables of their characters, which `ofLabel` is given.
-/

namespace BuildDiagnostics

open EastAsian (Index Indexes)

/-- An encoding in which output can be cut into lines. -/
inductive Encoding
  | utf8
  | page (p : CodePage)
  /-- The Hebrew page under the name that asks for logical order. -/
  | hebrewLogical
  | userDefined
  | shiftJis (jis0208 : Index)
  | eucJp (jis0208 jis0212 : Index)
  | iso2022Jp (jis0208 : Index)
  | eucKr (t : Index)
  | gbk (t : Index)
  | gb18030 (t : Index)
  | big5 (t : Index)
  deriving DecidableEq, Repr

/-- Why a label does not choose an encoding. -/
inductive EncodingError
  /-- No encoding has the label. -/
  | unknown (label : String)
  /-- The encoding does not give ASCII bytes their meaning. -/
  | notAscii (label name : String)
  deriving DecidableEq, Repr

namespace EncodingError

/-- The error in words. -/
def message : EncodingError → String
  | unknown label => "unknown output encoding '" ++ label ++ "'"
  | notAscii label name =>
    "output encoding '" ++ label ++ "' (" ++ name ++
      ") is not ASCII-compatible and cannot be split into lines"

end EncodingError

namespace Encoding

/-- All code pages that have a name of their own. -/
def pages : List CodePage :=
  [.ibm866, .iso8859_2, .iso8859_3, .iso8859_4, .iso8859_5, .iso8859_6, .iso8859_7, .iso8859_8,
    .iso8859_10, .iso8859_13, .iso8859_14, .iso8859_15, .iso8859_16, .koi8r, .koi8u, .macintosh,
    .windows874, .windows1250, .windows1251, .windows1252, .windows1253, .windows1254,
    .windows1255, .windows1256, .windows1257, .windows1258, .macCyrillic]

/-- All encodings, with the given tables. -/
def all (tables : Indexes) : List Encoding :=
  [utf8, hebrewLogical, userDefined, shiftJis tables.jis0208, eucJp tables.jis0208 tables.jis0212,
    iso2022Jp tables.jis0208, eucKr tables.eucKr, gbk tables.gb18030, gb18030 tables.gb18030,
    big5 tables.big5] ++ pages.map page

/-- The name of the encoding. -/
def name : Encoding → String
  | utf8 => "UTF-8"
  | page p => p.name
  | hebrewLogical => "ISO-8859-8-I"
  | userDefined => "x-user-defined"
  | shiftJis _ => "Shift_JIS"
  | eucJp .. => "EUC-JP"
  | iso2022Jp _ => "ISO-2022-JP"
  | eucKr _ => "EUC-KR"
  | gbk _ => "GBK"
  | gb18030 _ => "gb18030"
  | big5 _ => "Big5"

/-- The name of the encoding that has the label. Blanks around a label and its case do not
matter. -/
def nameOfLabel? (label : String) : Option String :=
  let key := String.ofList ((Text.trim label.toList).map Text.lowerAscii)
  (labels.find? fun entry => entry.2.contains key).map Prod.fst

/-- The encoding that a label chooses. -/
def ofLabel (label : String) (tables : Indexes := {}) : Except EncodingError Encoding :=
  match nameOfLabel? label with
  | none => .error (.unknown label)
  | some n =>
    match (all tables).find? fun e => e.name == n with
    | some e => .ok e
    | none => .error (.notAscii label n)

/-- A byte of the encoding that keeps the upper half for private characters. -/
def userDefinedChar (b : UInt8) : Char :=
  if b < 0x80 then Char.ofNat b.toNat else Char.ofNat (0xF700 + b.toNat)

/-- What decoding makes of the bytes, sequence by sequence. -/
def units : Encoding → List UInt8 → CodeUnits
  | utf8, bytes => Utf8.units bytes
  | page p, bytes => bytes.map p.char?
  | hebrewLogical, bytes => bytes.map CodePage.iso8859_8.char?
  | userDefined, bytes => bytes.map fun b => some (userDefinedChar b)
  | shiftJis jis0208, bytes => EastAsian.ShiftJis.units jis0208 bytes
  | eucJp jis0208 jis0212, bytes => EastAsian.EucJp.units jis0208 jis0212 bytes
  | iso2022Jp jis0208, bytes => EastAsian.Iso2022Jp.units jis0208 bytes
  | eucKr t, bytes => EastAsian.EucKr.units t bytes
  | gbk t, bytes => EastAsian.Gb18030.units t bytes
  | gb18030 t, bytes => EastAsian.Gb18030.units t bytes
  | big5 t, bytes => EastAsian.Big5.units t bytes

/-- What was done about a line that the encoding rejects. -/
inductive Repair
  /-- The line was read as UTF-8. -/
  | readAsUtf8
  /-- Each rejected sequence was replaced. -/
  | replaced
  deriving DecidableEq, Repr

/-- The bytes without a line feed at the end, and then without a carriage return. -/
def dropLineEnd (bytes : List UInt8) : List UInt8 :=
  Text.dropLastIf 13 (Text.dropLastIf 10 bytes)

/-- The text of bytes in which nothing or something was rejected, and what was done about it. -/
def decode (e : Encoding) (bytes : List UInt8) : List Char × Option Repair :=
  let us := e.units bytes
  if us.all Option.isSome then (us.filterMap id, none)
  else
    match if e = utf8 then none else Utf8.decode? bytes with
    | some cs => (cs, some .readAsUtf8)
    | none => (us.map (·.getD '\ufffd'), some .replaced)

/-- The text of a line given as bytes with or without its line end. -/
def decodeLine (e : Encoding) (bytes : List UInt8) : List Char × Option Repair :=
  e.decode (dropLineEnd bytes)

end Encoding

end BuildDiagnostics
