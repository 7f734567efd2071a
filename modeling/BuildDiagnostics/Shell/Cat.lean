import BuildDiagnostics.Shell.Numeral
import BuildDiagnostics.Text.Line

/-!
# Showing files

`CatOptions.shown` is what the program `cat` makes of the bytes of its files, one after the other:
lines can be numbered, runs of empty lines shortened, and ends of lines, tabs and other controls
made visible. `CatOptions.read` reads its arguments.
-/

namespace BuildDiagnostics.Shell

/-- How bytes are shown. -/
structure CatOptions where
  number : Bool := false
  /-- Lines that are not empty are numbered, and others are not. -/
  numberFilled : Bool := false
  squeeze : Bool := false
  ends : Bool := false
  tabs : Bool := false
  controls : Bool := false
  deriving DecidableEq, Repr

/-- The arguments of the program. -/
structure CatArguments where
  options : CatOptions := {}
  files : List String := []
  deriving DecidableEq, Repr

/-- Why arguments are refused. -/
inductive OptionFault
  | unknownLetter (c : Char)
  | unknownName (name : String)
  deriving DecidableEq, Repr

namespace CatOptions

/-- The options with the one of a letter. -/
def withLetter? (o : CatOptions) : Char → Option CatOptions
  | 'A' => some { o with controls := true, ends := true, tabs := true }
  | 'b' => some { o with numberFilled := true }
  | 'e' => some { o with controls := true, ends := true }
  | 'E' => some { o with ends := true }
  | 'n' => some { o with number := true }
  | 's' => some { o with squeeze := true }
  | 't' => some { o with controls := true, tabs := true }
  | 'T' => some { o with tabs := true }
  | 'u' => some o
  | 'v' => some { o with controls := true }
  | _ => none

/-- The letters of the options that have a name. -/
def names : List (String × Char) :=
  [("show-all", 'A'), ("number-nonblank", 'b'), ("show-ends", 'E'), ("number", 'n'),
    ("squeeze-blank", 's'), ("show-tabs", 'T'), ("show-nonprinting", 'v')]

/-- The letter of a name, which may be cut short as long as one option is left. -/
def letterOf? (name : String) : Option Char :=
  match names.lookup name with
  | some c => some c
  | none =>
    match names.filter fun x => name.toList.isPrefixOf x.1.toList with
    | [(_, c)] => some c
    | _ => none

/-- The options with those of letters. -/
def withLetters (o : CatOptions) : List Char → Except OptionFault CatOptions
  | [] => .ok o
  | c :: cs =>
    match o.withLetter? c with
    | some o => withLetters o cs
    | none => .error (.unknownLetter c)

/-- The arguments, with those read so far. -/
def readFrom (a : CatArguments) : List String → Except OptionFault CatArguments
  | [] => .ok a
  | text :: rest =>
    match text.toList with
    | ['-', '-'] => .ok { a with files := a.files ++ rest }
    | '-' :: '-' :: name =>
      match (letterOf? (String.ofList name)).bind a.options.withLetter? with
      | some o => readFrom { a with options := o } rest
      | none => .error (.unknownName text)
    | '-' :: c :: cs =>
      match a.options.withLetters (c :: cs) with
      | .ok o => readFrom { a with options := o } rest
      | .error f => .error f
    | _ => readFrom { a with files := a.files ++ [text] } rest

/-- Reads arguments. Options may stand behind files. -/
def read (args : List String) : Except OptionFault CatArguments := readFrom {} args

/-- A byte below 128 in a form that can be seen. -/
def visibleLow (b : UInt8) : List UInt8 :=
  if b < 32 then [94, b + 64] else if b = 127 then [94, 63] else [b]

/-- A byte of a line in the form in which it is shown. -/
def showByte (o : CatOptions) (b : UInt8) : List UInt8 :=
  if b = 9 then if o.tabs then visibleLow b else [b]
  else if !o.controls then [b]
  else if b < 128 then visibleLow b
  else [77, 45] ++ visibleLow (b - 128)

/-- The bytes of a line before its end, with the return that an end with a feed has made visible. -/
def showBody (o : CatOptions) (body : List UInt8) (ended : Bool) : List UInt8 :=
  if o.ends && !o.controls && ended && body.getLast? = some 13 then
    body.dropLast.flatMap o.showByte ++ visibleLow 13
  else body.flatMap o.showByte

/-- The number of a line in front of it. -/
def label (n : Nat) : List UInt8 :=
  let digits := digitsIn 10 1 n
  (List.replicate (6 - digits.length) ' ' ++ digits ++ ['\t']).map fun c => c.toNat.toUInt8

/-- Whether lines of a kind are numbered. -/
def numbers (o : CatOptions) (empty : Bool) : Bool :=
  if o.numberFilled then !empty else o.number

/-- Shows lines, of which the first has the given number. `afterEmpty` tells whether an empty line
is before them. -/
def showLines (o : CatOptions) (n : Nat) (afterEmpty : Bool) : List (List UInt8) → List UInt8
  | [] => []
  | line :: rest =>
    let empty := line == [10]
    if empty && afterEmpty && o.squeeze then showLines o n true rest
    else
      let ended := line.getLast? = some 10
      let body := o.showBody (if ended then line.dropLast else line) ended
      let ending := if ended then (if o.ends then [36, 10] else [10]) else []
      let numbered := o.numbers empty
      (if numbered then label n else []) ++ body ++ ending ++
        showLines o (if numbered then n + 1 else n) empty rest

/-- Bytes as they are shown. -/
def shown (o : CatOptions) (bytes : List UInt8) : List UInt8 :=
  if o = {} then bytes else o.showLines 1 false (Text.endedRecords 10 bytes)

end CatOptions

end BuildDiagnostics.Shell
