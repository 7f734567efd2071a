import BuildDiagnostics.Shell.Arithmetic
import BuildDiagnostics.Shell.State
import BuildDiagnostics.Shell.Wildcard

/-!
# Expansion

The pieces of a word become signs: characters that remember whether they were written, quoted, or
came of a parameter. From signs come the texts that a command gets: those of a parameter are cut at
separators (`cut`), patterns become the names of files (`fileNames`), and a word without signs and
without quotes is none.

`Expander` runs commands whose output becomes part of a word.
-/

namespace BuildDiagnostics.Shell

/-- A character of a word, by where it comes from. -/
inductive Sign
  | written (c : Char)
  | quoted (c : Char)
  /-- It comes of a parameter, a command or an expression, and can be a separator. -/
  | expanded (c : Char)
  /-- A pair of quotes. -/
  | quotes
  /-- A pair of quotes around all arguments when there are none. -/
  | noArguments
  /-- Between two arguments. -/
  | boundary
  deriving DecidableEq, Repr

/-- Runs a command in a state. -/
abbrev Expander := Command → State → State

/-- What an expansion gives, and the state after it. -/
abbrev Expanding (α : Type) := StateM State α

namespace Sign

/-- The characters of a text, quoted or not. -/
def ofText (inQuotes : Bool) (text : String) : List Sign :=
  text.toList.map (if inQuotes then quoted else expanded)

/-- The character of a sign, with whether it is plain text in a pattern. -/
def patternChar? : Sign → Option PatternChar
  | written c | expanded c => some (false, c)
  | quoted c => some (true, c)
  | boundary => some (true, ' ')
  | quotes | noArguments => none

/-- The text of signs. -/
def text (signs : List Sign) : String :=
  String.ofList (signs.filterMap fun s => s.patternChar?.map Prod.snd)

/-- The pattern of signs. -/
def pattern (signs : List Sign) : List Wildcard := Wildcard.parse (signs.filterMap patternChar?)

/-- The signs of a word that stands in place of a parameter. -/
def inPlace (inQuotes : Bool) (signs : List Sign) : List Sign :=
  if inQuotes then signs
  else signs.map fun
    | written c => expanded c
    | s => s

end Sign

/-! ## Pieces -/

/-- The arguments as signs. In quotes each is a word of its own. -/
def argumentSigns (inQuotes : Bool) (args : List String) : List Sign :=
  if inQuotes && args.isEmpty then [.noArguments]
  else
    [Sign.boundary].intercalate (args.map fun a =>
      if inQuotes then .quotes :: Sign.ofText true a else Sign.ofText false a)

/-- The arguments as one text, with the first separator between them. -/
def joinedArguments (s : State) : String :=
  let between := match s.value? "IFS" with
    | none => " "
    | some seps => String.ofList (seps.toList.take 1)
  between.intercalate s.arguments

/-- The value of a parameter as one text. -/
def valueOf? (s : State) (name : String) : Option String :=
  if name = "@" || name = "*" then
    if s.arguments.isEmpty then none else some (joinedArguments s)
  else s.parameter? name

/-- The signs of the value of a parameter. -/
def valueSigns (s : State) (inQuotes : Bool) (name : String) : List Sign :=
  if name = "@" || (name = "*" && !inQuotes) then argumentSigns inQuotes s.arguments
  else Sign.ofText inQuotes ((valueOf? s name).getD "")

/-- A text without the line ends that it ends in. -/
def withoutLineEnds (s : List Char) : List Char := (s.reverse.dropWhile (· == '\n')).reverse

/-- Bytes as text. A byte that is no part of a character becomes a character of its own. -/
def textOfBytes (bytes : List UInt8) : List Char :=
  match Utf8.decode? bytes with
  | some text => text
  | none => bytes.map fun b => Char.ofNat b.toNat

/-- The output of a command as text, without NULs and without line ends at its end. -/
def outputOf (run : Expander) (c : Command) : Expanding String := do
  let s ← get
  let n := s.outputs.length
  let t := run c ({ s.inner with outputs := s.outputs ++ [[]] }.setHandle 1 (.output n))
  set { s.after t with partStatus := t.status, status := s.status }
  return String.ofList (withoutLineEnds (textOfBytes ((t.collected n).filter (· != 0))))

/-- Sets variables from numbers, the first of the list last. -/
def assignNumbers (s : State) (numbers : Expression.Settings) : State :=
  numbers.foldr (fun x s => s.assign x.1 (toString x.2)) s

/-- A fault of arithmetic in words. -/
def ArithmeticFault.message (text : String) : ArithmeticFault → String
  | expecting what => "arithmetic expression: expecting " ++ what ++ ": \"" ++ text ++ "\""
  | divisionByZero => "arithmetic expression: division by zero: \"" ++ text ++ "\""
  | illegalNumber n => "Illegal number: " ++ n

/-- The value of an expression as text. -/
def arithmeticOf (text : String) : Expanding String := do
  let s ← get
  match Expression.parse text.toList with
  | .error f =>
    set (s.abort (f.message text))
    return ""
  | .ok e =>
    match (e.eval s.value?).run [] with
    | .error f =>
      set (s.abort (f.message text))
      return ""
    | .ok (n, numbers) =>
      set (assignNumbers s numbers)
      return toString n

/-- What a parameter without a value comes to when that is a failure. -/
def missingText (orEmpty : Bool) (message : String) : String :=
  if !message.isEmpty then message
  else if orEmpty then "parameter not set or null"
  else "parameter not set"

mutual

/-- The signs of a piece. -/
def expandPiece (run : Expander) : Piece → Expanding (List Sign)
  | .plain c => return [.written c]
  | .quoted c => return [.quoted c]
  | .quotes => return [.quotes]
  | .output q c => return Sign.ofText q (← outputOf run c)
  | .value q e => do
    let signs ← expandPieces run e
    return Sign.ofText q (← arithmeticOf (Sign.text signs))
  | .parameter q name u => expandUse run q name u

/-- The signs of a parameter. -/
def expandUse (run : Expander) (q : Bool) (name : String) : Use → Expanding (List Sign)
  | .value => do
    let s ← get
    if s.flags.contains 'u' && (valueOf? s name).isNone && name != "@" && name != "*" then
      set (s.abort (name ++ ": parameter not set"))
    return valueSigns s q name
  | .length => do
    let s ← get
    if name = "@" || name = "*" then return Sign.ofText q (toString s.arguments.length)
    else return Sign.ofText q (toString ((valueOf? s name).getD "").utf8ByteSize)
  | .fallback f orEmpty w => do
    let s ← get
    let value := valueOf? s name
    let missing := value.isNone || (orEmpty && value == some "")
    if f = .replace then
      if missing then return [] else return Sign.inPlace q (← expandPieces run w)
    else if !missing then return valueSigns s q name
    else
      let signs ← expandPieces run w
      match f with
      | .assign =>
        modify fun s => s.assign name (Sign.text signs)
        return Sign.ofText q (Sign.text signs)
      | .fail =>
        modify fun s => s.abort (name ++ ": " ++ missingText orEmpty (Sign.text signs))
        return []
      | _ => return Sign.inPlace q signs
  | .trim atEnd longest w => do
    let signs ← expandPieces run w
    let value := ((valueOf? (← get) name).getD "").toList
    let ws := Sign.pattern signs
    let rest := if atEnd then Wildcard.trimEnd longest ws value
      else Wildcard.trimStart longest ws value
    return Sign.ofText q (String.ofList rest)
  | .bad => do
    modify fun s => s.abort "Bad substitution"
    return []

/-- The signs of pieces one after the other. -/
def expandPieces (run : Expander) : List Piece → Expanding (List Sign)
  | [] => return []
  | p :: ps => do
    let a ← expandPiece run p
    if (← get).goesOn then return a ++ (← expandPieces run ps) else return a

end

/-! ## Words -/

/-- The word with the home directory in place of a tilde at its start. -/
def expandTilde (s : State) (w : Word) : Word :=
  match w with
  | .plain '~' :: rest =>
    let alone := match rest with
      | [] => true
      | .plain c :: _ => c == '/'
      | _ => false
    match alone, s.value? "HOME" with
    | true, some home => home.toList.map Piece.quoted ++ rest
    | _, _ => w
  | _ => w

/-- The signs of a word. -/
def expandWord (run : Expander) (w : Word) : Expanding (List Sign) := do
  let s ← get
  expandPieces run (expandTilde s w)

/-- The text of a word that is not cut. -/
def expandText (run : Expander) (w : Word) : Expanding String := do
  return Sign.text (← expandWord run w)

/-- Signs as they are cut into words. -/
structure Cutting where
  words : List (List Sign) := []
  current : List Sign := []
  /-- Whether a blank has ended the last word. -/
  afterBlank : Bool := false

namespace Cutting

/-- The cutting with the present word done. -/
def finish (k : Cutting) (afterBlank : Bool) : Cutting :=
  if k.current.isEmpty then k else ⟨k.words ++ [k.current], [], afterBlank⟩

/-- Whether a separator is a blank. -/
def isBlankSeparator (c : Char) : Bool := c == ' ' || c == '\t' || c == '\n'

/-- The cutting after one more sign. Blanks between words count once, and other separators end a
word each, also an empty one. -/
def push (separators : List Char) (k : Cutting) (x : Sign) : Cutting :=
  match x with
  | .expanded c =>
    if !separators.contains c then add
    else if isBlankSeparator c then k.finish true
    else if !k.current.isEmpty then k.finish false
    else if k.afterBlank then { k with afterBlank := false }
    else { k with words := k.words ++ [[.quotes]] }
  | .boundary => k.finish false
  | _ => add
where
  /-- The cutting with the sign in the present word. -/
  add : Cutting := { k with current := k.current ++ [x], afterBlank := false }

end Cutting

/-- Whether signs are a word: they have characters, or quotes around nothing. -/
def isWord (signs : List Sign) : Bool :=
  signs.any (fun x => x.patternChar?.isSome) ||
    (signs.contains .quotes && !signs.contains .noArguments)

/-- The words that signs are cut into. -/
def cut (separators : List Char) (signs : List Sign) : List (List Sign) :=
  ((signs.foldl (Cutting.push separators) {}).finish false).words.filter isWord

/-- The names of files that patterns between slashes match, behind the beginning of a path. A dot at
the start of a name has to be written. -/
def fileNames (d : Disk) (start : String) : List (List Wildcard) → List String
  | [] => [start]
  | ws :: rest =>
    let plain := ws.filterMap fun
      | .char c => some c
      | _ => none
    let names :=
      if !Wildcard.isSpecial ws then [String.ofList plain]
      else
        match d.locate ⟨if start.isEmpty then "." else start⟩ with
        | .error _ => []
        | .ok loc =>
          (d.namesIn loc).filter fun name =>
            Wildcard.accepts ws name.toList &&
              (name.toList.head? != some '.' || ws.head? == some (.char '.'))
    if rest.isEmpty then
      (names.map (start ++ ·)).filter fun p => d.pathExists ⟨p⟩
    else names.flatMap fun name => fileNames d (start ++ name ++ "/") rest

/-- The texts of a word: the names of the files that it matches if it is a pattern, and otherwise
its text. -/
def textsOf (s : State) (signs : List Sign) : List String :=
  let chars := signs.filterMap Sign.patternChar?
  if s.flags.contains 'f' || !Wildcard.isSpecial (Wildcard.parse chars) then [Sign.text signs]
  else
    match fileNames s.disk "" ((splitPath chars).map Wildcard.parse) with
    | [] => [Sign.text signs]
    | names => names
where
  /-- The parts of a pattern between slashes. -/
  splitPath (chars : List PatternChar) : List (List PatternChar) :=
    chars.foldr (fun x parts =>
      if x.2 = '/' then [] :: parts
      else match parts with
        | p :: ps => (x :: p) :: ps
        | [] => [[x]]) [[]]

/-- The texts of words. -/
def expandWords (run : Expander) : List Word → Expanding (List String)
  | [] => return []
  | w :: ws => do
    let signs ← expandWord run w
    let s ← get
    if s.goesOn then
      return (cut s.separators signs).flatMap (textsOf s) ++ (← expandWords run ws)
    else return []

end BuildDiagnostics.Shell
