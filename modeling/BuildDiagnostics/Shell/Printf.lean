import BuildDiagnostics.Encoding.Utf8
import BuildDiagnostics.Shell.Numeral

/-!
# Formatted output

`format` writes a format with its arguments: escapes give characters and bytes, a conversion takes
an argument and writes it as text, as a character or as a number, and the format starts over while
arguments are left. There are two dialects, that of the program and that of a shell's own command.

`unescape` is what `echo` and the conversion `%b` make of a text.
-/

namespace BuildDiagnostics.Shell

/-- Whose rules a format follows. -/
inductive Dialect
  | program
  /-- The command of a shell. -/
  | shell
  deriving DecidableEq, Repr

/-- What cannot be written. -/
inductive FormatFault
  /-- The text is no number. -/
  | noNumber (s : String)
  /-- The text goes on after a number. -/
  | partNumber (s : String)
  | outOfRange (s : String)
  /-- A conversion that there is not. -/
  | noConversion (s : String)
  /-- An escape that lacks its digits. -/
  | noDigits
  /-- Arguments that no conversion takes. -/
  | excess (s : String)
  deriving DecidableEq, Repr

/-- What is written, and what is told about it. -/
structure Printed where
  output : List UInt8 := []
  faults : List FormatFault := []
  /-- Whether nothing more is to be written. -/
  stopped : Bool := false
  deriving DecidableEq, Repr

namespace Printed

/-- Written bytes. -/
def bytes (bs : List UInt8) : Printed := { output := bs }

/-- Written characters. -/
def chars (cs : List Char) : Printed := bytes (Utf8.encode (String.ofList cs))

/-- What is written after something else, unless that is the last. -/
def andThen (p q : Printed) : Printed :=
  if p.stopped then p else ⟨p.output ++ q.output, p.faults ++ q.faults, q.stopped⟩

end Printed

/-! ## Escapes -/

/-- The character that a letter after a backslash stands for. -/
def controlOf? : Char → Option Char
  | 'a' => some '\x07'
  | 'b' => some '\x08'
  | 'e' => some '\x1b'
  | 'f' => some '\x0c'
  | 'n' => some '\n'
  | 'r' => some '\r'
  | 't' => some '\t'
  | 'v' => some '\x0b'
  | '\\' => some '\\'
  | _ => none

/-- At most so many digits of a base at the start of a text, and what follows them. -/
def takeDigits (base n : Nat) (s : List Char) : List Char × List Char :=
  let digits := (s.take n).takeWhile (isDigitIn base)
  (digits, s.drop digits.length)

/-- The byte that digits spell. -/
def byteOf (base : Nat) (digits : List Char) : UInt8 := (valueIn base digits).toUInt8

/-- What an escape for a character by its number writes. One outside ASCII stays an escape. -/
def universal (letter : Char) (digits : List Char) : List Char :=
  let n := valueIn 16 digits
  if n < 128 then [Char.ofNat n]
  else if n < 65536 then '\\' :: 'u' :: (digitsIn 16 4 n).map Char.toUpper
  else '\\' :: letter :: (digitsIn 16 8 n).map Char.toUpper

/-- What the text after a backslash stands for, and what follows it. In an argument a zero may stand
before the octal digits. -/
def escapeAt (d : Dialect) (inArgument : Bool) (s : List Char) : Printed × List Char :=
  let (octal, rest) := takeDigits 8 3 s
  let (octal, rest) :=
    match inArgument, octal with
    | true, '0' :: _ =>
      let (more, rest) := takeDigits 8 3 (s.drop 1)
      if more.isEmpty then (octal, rest) else (more, rest)
    | _, _ => (octal, rest)
  match s with
  | [] => (.chars ['\\'], [])
  | c :: after =>
    if !octal.isEmpty then (.bytes [byteOf 8 octal], rest)
    else
      match controlOf? c with
      | some x => (.chars [x], after)
      | none =>
        if c = 'c' && (inArgument || d = .program) then ({ stopped := true }, after)
        else if d = .program && c = '"' then (.chars ['"'], after)
        else if d = .program && c = 'x' then
          let (digits, rest) := takeDigits 16 2 after
          if digits.isEmpty then ({ faults := [.noDigits], stopped := true }, after)
          else (.bytes [byteOf 16 digits], rest)
        else if d = .program && (c = 'u' || c = 'U') then
          let count := if c = 'u' then 4 else 8
          let (digits, rest) := takeDigits 16 count after
          if digits.length < count then ({ faults := [.noDigits], stopped := true }, after)
          else (.chars (universal c digits), rest)
        else (.chars ['\\', c], after)

/-- A text with its escapes taken for what they stand for. Each step takes at least one character,
and their number bounds the steps. -/
def unescapeWithin (d : Dialect) : Nat → List Char → Printed
  | 0, _ => {}
  | _, [] => {}
  | n + 1, '\\' :: s =>
    let (p, rest) := escapeAt d true s
    p.andThen (unescapeWithin d n rest)
  | n + 1, c :: s => (Printed.chars [c]).andThen (unescapeWithin d n s)

/-- A text with its escapes taken for what they stand for. -/
def unescape (d : Dialect) (s : List Char) : Printed := unescapeWithin d s.length s

/-! ## Conversions -/

/-- A number in a conversion. -/
inductive Size
  | given (n : Nat)
  /-- The next argument tells it. -/
  | argument
  deriving DecidableEq, Repr

/-- How an argument is written. -/
structure Conversion where
  flags : List Char
  width : Option Size
  precision : Option Size
  letter : Char
  deriving DecidableEq, Repr

/-- A conversion whose numbers are known. -/
structure Layout where
  flags : List Char
  width : Nat
  precision : Option Nat
  deriving DecidableEq, Repr

namespace Layout

/-- Whether a flag is set. -/
def has (l : Layout) (flag : Char) : Bool := l.flags.contains flag

/-- Fills a text up with blanks to the width. -/
def pad (l : Layout) (s : List UInt8) : List UInt8 :=
  let blanks := List.replicate (l.width - s.length) 32
  if l.has '-' then s ++ blanks else blanks ++ s

/-- Fills a number up to the width: with zeros between its sign and its digits if `zeros` allows,
and with blanks otherwise. -/
def padNumber (l : Layout) (zeros : Bool) (sign digits : List Char) : Printed :=
  let missing := l.width - sign.length - digits.length
  if zeros && l.has '0' && !l.has '-' then
    .chars (sign ++ List.replicate missing '0' ++ digits)
  else .bytes (l.pad (Utf8.encode (String.ofList (sign ++ digits))))

/-- The sign of a number. -/
def sign (l : Layout) (negative : Bool) : List Char :=
  if negative then ['-'] else if l.has '+' then ['+'] else if l.has ' ' then [' '] else []

end Layout

/-- What comes of reading an argument as a number. -/
structure Read (α : Type) where
  value : α
  faults : List FormatFault := []

/-- The code of the character behind a quote, if the argument is one. -/
def quotedCode? (s : List Char) : Option Nat :=
  match s with
  | q :: rest =>
    if q = '\'' || q = '"' then
      match Utf8.encode (String.ofList rest) with
      | b :: _ => some b.toNat
      | [] => none
    else none
  | [] => none

/-- The faults of an argument that goes on after a number. -/
def restFaults (text : String) (rest : List Char) : List FormatFault :=
  if rest.isEmpty then [] else [.partNumber text]

/-- Reads an argument as an integer between two bounds. -/
def readInteger (least greatest : Int) (text : String) : Read Int :=
  match quotedCode? text.toList, Numeral.of? text.toList with
  | some n, _ => { value := n }
  | none, none => { value := 0, faults := if text.isEmpty then [] else [.noNumber text] }
  | none, some n =>
    let faults := restFaults text n.rest
    if n.value < least then { value := least, faults := [.outOfRange text] }
    else if greatest < n.value then { value := greatest, faults := [.outOfRange text] }
    else { value := n.value, faults := faults }

/-- Writes an integer with its sign. -/
def writeSigned (l : Layout) (text : String) : Printed :=
  let r := readInteger (-Int.pow 2 63) (Int.pow 2 63 - 1) text
  let digits := digitsIn 10 (l.precision.getD 1) r.value.natAbs
  { l.padNumber l.precision.isNone (l.sign (r.value < 0)) digits with faults := r.faults }

/-- Writes an integer in a base, where those below zero are counted down from 2 to the 64th. -/
def writeUnsigned (l : Layout) (letter : Char) (text : String) : Printed :=
  let r := readInteger (1 - Int.pow 2 64) (Int.pow 2 64 - 1) text
  let n := (r.value % Int.pow 2 64).toNat
  let base := if letter = 'o' then 8 else if letter = 'u' then 10 else 16
  let digits := digitsIn base (l.precision.getD 1) n
  let digits :=
    if letter = 'o' && l.has '#' && digits.head? != some '0' then '0' :: digits else digits
  let mark := if base = 16 && l.has '#' && n != 0 then ['0', letter] else []
  let digits := if letter = 'X' then digits.map Char.toUpper else digits
  { l.padNumber l.precision.isNone mark digits with faults := r.faults }

/-- A fraction with the digits behind its point, if it has any or a point is asked for. -/
def pointed (l : Layout) (whole fraction : List Char) : List Char :=
  if fraction.isEmpty && !l.has '#' then whole else whole ++ '.' :: fraction

/-- An exponent: its sign and at least two digits. -/
def writeExponent (e : Int) : List Char :=
  'e' :: (if e < 0 then '-' else '+') :: digitsIn 10 2 e.natAbs

/-- The digits without zeros at their end, unless these are asked for. -/
def trimZeros (l : Layout) (digits : List Char) : List Char :=
  if l.has '#' then digits else (digits.reverse.dropWhile (· == '0')).reverse

/-- Writes a ratio in the notation of a letter. -/
def writeRatio (l : Layout) (letter : Char) (r : Ratio) : List Char :=
  let precision := l.precision.getD 6
  match letter with
  | 'f' =>
    let (whole, fraction) := r.positional precision
    pointed l whole fraction
  | 'e' =>
    let (whole, fraction, e) := r.scientific precision
    pointed l whole fraction ++ writeExponent e
  | _ =>
    let digits := max 1 precision
    let (whole, fraction, e) := r.scientific (digits - 1)
    if e < -4 || (digits : Int) ≤ e then pointed l whole (trimZeros l fraction) ++ writeExponent e
    else
      let (whole, fraction) := r.positional (digits - 1 - e).toNat
      pointed l whole (trimZeros l fraction)

/-- The number of binary digits of a fraction in a dialect. -/
def Dialect.bits : Dialect → Nat
  | program => 64
  | shell => 53

/-- Writes a fraction. -/
def writeFraction (d : Dialect) (l : Layout) (letter : Char) (text : String) : Printed :=
  let (negative, value, faults) :=
    match quotedCode? text.toList, Decimal.of? text.toList with
    | some n, _ => (false, Decimal.finite ⟨n, 1⟩, [])
    | none, none =>
      (false, Decimal.finite ⟨0, 1⟩, if text.isEmpty then [] else [FormatFault.noNumber text])
    | none, some (negative, value, rest) => (negative, value, restFaults text rest)
  let body :=
    match value with
    | .finite r => writeRatio l letter.toLower (r.toBits d.bits)
    | .infinite => "inf".toList
    | .notANumber => "nan".toList
  let body := if letter.isUpper then body.map Char.toUpper else body
  let isFinite := match value with
    | .finite _ => true
    | _ => false
  { l.padNumber isFinite (l.sign negative) body with faults := faults }

/-- Writes bytes cut to the precision. -/
def writeBytes (l : Layout) (bs : List UInt8) : Printed :=
  .bytes (l.pad (match l.precision with
    | some n => bs.take n
    | none => bs))

/-- Writes the first byte of an argument; one that is empty gives a NUL. -/
def writeCharacter (l : Layout) (text : String) : Printed :=
  .bytes (l.pad [(Utf8.encode text).headD 0])

/-- Whether the character needs quotes in a text that a shell is to read again. -/
def needsQuotes (c : Char) : Bool :=
  !(Text.isLetterAscii c || Text.isDigitAscii c || "%+,-./:=@_".toList.contains c)

/-- A text in quotes that a shell reads again as it is, if it needs any. -/
def shellQuoted (s : List Char) : List Char :=
  if s.isEmpty || s.any needsQuotes then
    '\'' :: s.flatMap (fun c => if c = '\'' then ['\'', '\\', '\'', '\''] else [c]) ++ ['\'']
  else s

/-- Writes an argument. -/
def Conversion.write (d : Dialect) (l : Layout) (letter : Char) (text : String) : Printed :=
  if letter = 's' then writeBytes l (Utf8.encode text)
  else if letter = 'b' then
    let p := unescape d text.toList
    { writeBytes l p.output with faults := p.faults, stopped := p.stopped }
  else if letter = 'q' then .chars (shellQuoted text.toList)
  else if letter = 'c' then writeCharacter l text
  else if letter = 'd' || letter = 'i' then writeSigned l text
  else if "ouxX".toList.contains letter then writeUnsigned l letter text
  else writeFraction d l letter text

/-! ## Formats -/

/-- A part of a format. -/
inductive Part
  | text (p : Printed)
  | conversion (c : Conversion)
  /-- The beginning of a conversion that there is not. -/
  | wrong (s : String)
  deriving DecidableEq, Repr

/-- The letters of the conversions that may have a flag. -/
def lettersOf (d : Dialect) (flag : Char) : List Char :=
  (match d, flag with
    | .shell, _ => "diouxXcsbeEfFgG"
    | .program, '#' => "oxXeEfFgG"
    | .program, '0' => "diouxXeEfFgG"
    | .program, '\'' => "diufFgG"
    | .program, _ => "diouxXcseEfFgG").toList

/-- The flags of a dialect. -/
def flagsOf : Dialect → List Char
  | .program => "-+ #0'".toList
  | .shell => "-+ #0".toList

/-- The width or the precision at the start of a text, and what follows. -/
def sizeAt (s : List Char) : Option Size × List Char :=
  match s with
  | '*' :: rest => (some .argument, rest)
  | _ =>
    let digits := s.takeWhile Text.isDigitAscii
    if digits.isEmpty then (none, s)
    else (some (.given (valueIn 10 digits)), s.drop digits.length)

/-- The conversion after a percent sign, and what follows it. -/
def conversionAt (d : Dialect) (s : List Char) : Part × List Char :=
  match d, s with
  | .program, 'b' :: rest => (.conversion ⟨[], none, none, 'b'⟩, rest)
  | .program, 'q' :: rest => (.conversion ⟨[], none, none, 'q'⟩, rest)
  | _, _ =>
    let flags := s.takeWhile (flagsOf d).contains
    let (width, rest) := sizeAt (s.drop flags.length)
    let (precision, rest) :=
      match rest with
      | '.' :: rest => ((sizeAt rest).1.or (some (.given 0)), (sizeAt rest).2)
      | _ => (none, rest)
    let rest := if d = .program then rest.dropWhile "hlLjzt".toList.contains else rest
    let allowed (c : Char) : Bool :=
      (lettersOf d '-').contains c && flags.all (fun f => (lettersOf d f).contains c) &&
        !(d = .program && c = 'c' && precision.isSome)
    let start := s.take (s.length - rest.length)
    match rest with
    | c :: rest =>
      if allowed c then (.conversion ⟨flags, width, precision, c⟩, rest)
      else (.wrong (String.ofList ('%' :: start ++ [c])), rest)
    | [] => (.wrong (String.ofList ('%' :: start)), [])

/-- The parts of a format. Each step takes at least one character, and their number bounds the
steps. -/
def partsWithin (d : Dialect) : Nat → List Char → List Part
  | 0, _ => []
  | _, [] => []
  | n + 1, '%' :: '%' :: s => .text (.chars ['%']) :: partsWithin d n s
  | n + 1, '%' :: s =>
    let (p, rest) := conversionAt d s
    p :: partsWithin d n rest
  | n + 1, '\\' :: s =>
    let (p, rest) := escapeAt d false s
    .text p :: partsWithin d n rest
  | n + 1, c :: s => .text (.chars [c]) :: partsWithin d n s

/-- The parts of a format. -/
def parts (d : Dialect) (s : List Char) : List Part := partsWithin d s.length s

/-- The number that an argument gives for a width or a precision. -/
def sizeOf (text : String) : Read Int := readInteger (-Int.pow 2 31) (Int.pow 2 31 - 1) text

/-- The layout of a conversion, the arguments left, and the faults of those it took. A width below
zero stands for a flag; a precision below zero for none. -/
def Conversion.layout (c : Conversion) (args : List String) :
    Layout × List String × List FormatFault :=
  let (width, args, faults) :=
    match c.width with
    | none => ((0 : Int), args, [])
    | some (.given n) => ((n : Int), args, [])
    | some .argument =>
      let r := sizeOf (args.headD "")
      (r.value, args.drop 1, r.faults)
  let (precision, args, faults) :=
    match c.precision with
    | none => (none, args, faults)
    | some (.given n) => (some n, args, faults)
    | some .argument =>
      let r := sizeOf (args.headD "")
      (if r.value < 0 then none else some r.value.toNat, args.drop 1, faults ++ r.faults)
  let flags := if width < 0 then '-' :: c.flags else c.flags
  (⟨flags, width.natAbs, precision⟩, args, faults)

/-- Writes all parts once, and tells which arguments are left. Those that are missing are empty. -/
def writeParts (d : Dialect) : List Part → List String → Printed × List String
  | [], args => ({}, args)
  | .text p :: ps, args =>
    let (q, rest) := writeParts d ps args
    (p.andThen q, rest)
  | .wrong s :: _, args => ({ faults := [.noConversion s], stopped := true }, args)
  | .conversion c :: ps, args =>
    let (l, args, faults) := c.layout args
    let p := Conversion.write d l c.letter (args.headD "")
    let (q, rest) := writeParts d ps (args.drop 1)
    (Printed.andThen { p with faults := faults ++ p.faults } q, rest)

/-- Writes the parts again and again while arguments are left and are taken, but no more than the
given number of times after the first. -/
def writeAgain (d : Dialect) (ps : List Part) : Nat → List String → Printed
  | 0, args => (writeParts d ps args).1
  | n + 1, args =>
    let (p, rest) := writeParts d ps args
    match rest with
    | [] => p
    | a :: _ =>
      if p.stopped then p
      else if rest.length < args.length then p.andThen (writeAgain d ps n rest)
      else if d = .program then { p with faults := p.faults ++ [.excess a] }
      else p

/-- A format with its arguments. -/
def format (d : Dialect) (text : String) (args : List String) : Printed :=
  writeAgain d (parts d text.toList) args.length args

end BuildDiagnostics.Shell
