import BuildDiagnostics.Shell.Syntax
import BuildDiagnostics.Text.Class

/-!
# Reading commands

`readLine` reads the commands of the next line of a script, with as many further lines as they go on
for. What is read next is a `Goal`; `read` reaches a goal by way of smaller ones, each of which is
nearer to the end of the text or to the leaves of the grammar, and a number bounds how deep that
goes.

A text that is no command is refused with a `Complaint`. What stands before it in the script has run
by then, so a script is read line by line.
-/

namespace BuildDiagnostics.Shell

/-- Why a text is no command. -/
structure Complaint where
  line : Nat
  text : String
  deriving DecidableEq, Repr

/-- Reads from a text. The number of lines of the whole text tells on which line the reader is. -/
abbrev Reader (α : Type) := ReaderT Nat (StateT (List Char) (Except Complaint)) α

/-! ## Tokens -/

/-- The smallest unit of a script. -/
inductive Token
  | ending
  | newline
  | operator (s : String)
  | redirect (descriptor : Nat) (s : String)
  | word (w : Word)

/-- The character that a piece is as it is written. -/
def Piece.plain? : Piece → Option Char
  | plain c => some c
  | _ => none

/-- The text of a word that has no quotes and stands for itself. -/
def plainText? (w : Word) : Option String := (w.mapM Piece.plain?).map String.ofList

/-- The words that have a meaning of their own where a command starts. -/
def reservedWords : List String :=
  ["!", "case", "do", "done", "elif", "else", "esac", "fi", "for", "if", "in", "then", "until",
    "while", "\x7b", "\x7d"]

/-- The words and operators that end a list of commands. -/
def closers : List String :=
  ["do", "done", "elif", "else", "esac", "fi", "then", "\x7d", ")", ";;"]

namespace Token

/-- The operator or reserved word that a token is. -/
def key? : Token → Option String
  | operator s => some s
  | word w => (plainText? w).filter reservedWords.contains
  | _ => none

/-- Whether the token is the given operator or reserved word. -/
def is (t : Token) (s : String) : Bool := t.key? == some s

/-- Whether the token ends a list of commands. -/
def closes (t : Token) : Bool := (t.key?.map closers.contains).getD false

/-- The token in a complaint. -/
def name (t : Token) : String :=
  match t, t.key? with
  | _, some s => "\"" ++ s ++ "\""
  | ending, none => "end of file"
  | newline, none => "newline"
  | redirect _ _, none => "redirection"
  | _, none => "word"

end Token

/-- The number of the line that the reader is on. -/
def currentLine : Reader Nat := do
  let total ← read
  let rest ← get
  return total + 1 - rest.count '\n'

/-- Refuses the text. -/
def refuse {α : Type} (text : String) : Reader α := do
  throw ⟨← currentLine, text⟩

/-- Refuses a token where another is due. -/
def unexpected {α : Type} (t : Token) (due : Option String) : Reader α :=
  refuse ("Syntax error: " ++ t.name ++ " unexpected" ++
    match due with
    | some s => " (expecting \"" ++ s ++ "\")"
    | none => "")

/-- Whether a character ends a word. -/
def endsWord (c : Char) : Bool :=
  [' ', '\t', '\n', ';', '&', '|', '<', '>', '(', ')'].contains c

/-- Whether a character may start the name of a variable. -/
def startsName (c : Char) : Bool := Text.isLetterAscii c || c == '_'

/-- Whether a character may stand in the name of a variable. -/
def isNameChar (c : Char) : Bool := startsName c || Text.isDigitAscii c

/-- Whether a text is the name of a variable. -/
def isName (s : List Char) : Bool := s.all isNameChar && (s.head?.map startsName).getD false

/-- The text after blanks, line ends that a backslash takes away, and a comment. -/
def skipBlanks : List Char → List Char
  | [] => []
  | ' ' :: s => skipBlanks s
  | '\t' :: s => skipBlanks s
  | '\\' :: '\n' :: s => skipBlanks s
  | '#' :: s => s.dropWhile (· != '\n')
  | s => s

/-- The operators, those first that others start with. -/
def operators : List String := ["&&", "||", ";;", "&", "|", ";", "(", ")"]

/-- The operators of redirections, those first that others start with. -/
def redirectOperators : List String := ["<<-", "<<", "<&", "<>", "<", ">>", ">&", ">|", ">"]

/-- The first of the texts that a text starts with, and what follows it. -/
def startOf? (texts : List String) (s : List Char) : Option (String × List Char) :=
  (texts.find? fun t => t.toList.isPrefixOf s).map fun t => (t, s.drop t.length)

/-- A redirection at the start of a text, with its descriptor, and what follows it. -/
def redirectOf? (s : List Char) : Option (Nat × String × List Char) :=
  match s with
  | d :: rest =>
    let (own, s) := if Text.isDigitAscii d then (some (d.toNat - '0'.toNat), rest) else (none, s)
    (startOf? redirectOperators s).map fun (op, rest) =>
      (own.getD (if op.toList.head? = some '<' then 0 else 1), op, rest)
  | [] => none

/-! ## Goals -/

/-- Where the pieces of a word stand, which decides what ends them. -/
inductive Place
  | bare
  | quotes
  /-- In the braces of a parameter. -/
  | braces (inQuotes : Bool)
  /-- In a text that a redirection gives. -/
  | document
  /-- In an arithmetic expression, within so many parentheses of its own. -/
  | expression (depth : Nat)
  deriving DecidableEq, Repr

/-- Whether blanks and quotes are plain text at a place. -/
def Place.inQuotes : Place → Bool
  | bare => false
  | braces q => q
  | _ => true

/-- A simple command as far as it is read. -/
structure Draft where
  line : Nat
  assignments : List (String × Word) := []
  words : List Word := []
  redirects : List Redirect := []

/-- What is to be read. -/
inductive Goal
  | pieces (p : Place)
  /-- The rest of a line of a script. -/
  | line
  /-- Commands up to what closes them. -/
  | list (mayBeEmpty : Bool)
  /-- What follows a pipeline behind `&&` or `||`. -/
  | chain (c : Command)
  | pipeline
  /-- The commands behind the bars of a pipeline. -/
  | pipes
  | command
  /-- The rest of a simple command. -/
  | simple (d : Draft)
  /-- Words up to the end of the line or a semicolon. -/
  | words
  /-- The patterns of an arm, behind bars. -/
  | patterns
  | arms
  /-- A choice, behind the word that starts it. -/
  | branches
  | redirects

/-- What a goal gives. -/
abbrev Goal.Result : Goal → Type
  | pieces _ => Word
  | words | patterns => List Word
  | pipes => List Command
  | arms => List (List Word × Command)
  | redirects => List Redirect
  | _ => Command

/-- Reads goals. -/
abbrev Goals := (g : Goal) → Reader g.Result

/-- Reads a token. -/
def token (self : Goals) : Reader Token := do
  let s := skipBlanks (← get)
  set s
  match s, startOf? operators s, redirectOf? s with
  | [], _, _ => return .ending
  | '\n' :: rest, _, _ =>
    set rest
    return .newline
  | _, some (op, rest), _ =>
    set rest
    return .operator op
  | _, _, some (d, op, rest) =>
    set rest
    return .redirect d op
  | _, _, _ => return .word (← self (.pieces .bare))

/-- The next token, which stays in the text. -/
def peek (self : Goals) : Reader Token := do
  let s ← get
  let t ← token self
  set s
  return t

/-- The text after line ends, blanks and comments. -/
def skipLines : Nat → List Char → List Char
  | 0, s => s
  | n + 1, s =>
    match skipBlanks s with
    | '\n' :: rest => skipLines n rest
    | s => s

/-- Goes on to the next token that is no line end. -/
def toNextLine : Reader Unit := modify fun s => skipLines s.length s

/-- Reads the given operator or reserved word. -/
def demand (self : Goals) (s : String) : Reader Unit := do
  let t ← token self
  if t.is s then return else unexpected t s

/-! ## Pieces -/

/-- A character at a place. -/
def pieceOf (p : Place) (c : Char) : Piece := if p.inQuotes then .quoted c else .plain c

/-- The characters that a backslash takes the meaning from at a place in quotes. -/
def escapable (p : Place) (c : Char) : Bool :=
  c == '$' || c == '\x60' || c == '\\' || (c == '"' && p != .document) ||
    (c == '\x7d' && p == .braces true)

/-- The text up to the next backquote, and what follows it. A backslash takes the meaning from a
backslash, a dollar sign and a backquote. -/
def backquoted (inQuotes : Bool) : List Char → Option (List Char × List Char)
  | [] => none
  | '\x60' :: s => some ([], s)
  | '\\' :: c :: s =>
    let bare := c == '\\' || c == '$' || c == '\x60' || (inQuotes && c == '"')
    (backquoted inQuotes s).map fun (t, rest) => (if bare then c :: t else '\\' :: c :: t, rest)
  | c :: s => (backquoted inQuotes s).map fun (t, rest) => (c :: t, rest)

/-- The name of a parameter at the start of a text. In braces a number may have several digits. -/
def parameterName (inBraces : Bool) : List Char → Option (String × List Char)
  | [] => none
  | c :: s =>
    if startsName c then
      some (String.ofList (c :: s.takeWhile isNameChar), s.dropWhile isNameChar)
    else if Text.isDigitAscii c then
      if inBraces then
        some (String.ofList (c :: s.takeWhile Text.isDigitAscii), s.dropWhile Text.isDigitAscii)
      else some (c.toString, s)
    else if ['@', '*', '#', '?', '-', '$', '!'].contains c then some (c.toString, s)
    else none

/-- The operators on a parameter, those first that others start with. -/
def useOperators : List String :=
  [":-", ":=", ":?", ":+", "-", "=", "?", "+", "%%", "%", "##", "#"]

/-- What an operator on a parameter does with the word behind it. -/
def useOf (op : String) (w : Word) : Use :=
  match op with
  | ":-" => .fallback .use true w
  | ":=" => .fallback .assign true w
  | ":?" => .fallback .fail true w
  | ":+" => .fallback .replace true w
  | "-" => .fallback .use false w
  | "=" => .fallback .assign false w
  | "?" => .fallback .fail false w
  | "+" => .fallback .replace false w
  | "%%" => .trim true true w
  | "%" => .trim true false w
  | "##" => .trim false true w
  | _ => .trim false false w

/-- Where the word behind an operator on a parameter stands. A pattern has quotes of its own. -/
def usePlace (op : String) (inQuotes : Bool) : Place :=
  .braces (inQuotes && not (['%', '#'].contains (op.toList.headD ' ')))

/-- Reads a parameter behind its opening brace. -/
def bracedParameter (self : Goals) (q : Bool) : Reader Piece := do
  let s ← get
  let long := match s with
    | '#' :: rest =>
      match parameterName true rest with
      | some (name, '\x7d' :: rest) => some (name, rest)
      | _ => none
    | _ => none
  match long, parameterName true s with
  | some (name, rest), _ =>
    set rest
    return .parameter q name .length
  | none, some (name, '\x7d' :: rest) =>
    set rest
    return .parameter q name .value
  | none, some (name, rest) =>
    match startOf? useOperators rest with
    | some (op, rest) =>
      set rest
      return .parameter q name (useOf op (← self (.pieces (usePlace op q))))
    | none =>
      let _ ← self (.pieces (.braces q))
      return .parameter q name .bad
  | none, none =>
    let _ ← self (.pieces (.braces q))
    return .parameter q "" .bad

/-- Reads what a dollar sign stands before. -/
def dollar (self : Goals) (p : Place) : Reader Piece := do
  let q := p.inQuotes
  match ← get with
  | '(' :: '(' :: s =>
    set s
    return .value q (← self (.pieces (.expression 0)))
  | '(' :: s =>
    set s
    let c ← self (.list true)
    demand self ")"
    return .output q c
  | '\x7b' :: s =>
    set s
    bracedParameter self q
  | s =>
    match parameterName false s with
    | some (name, rest) =>
      set rest
      return .parameter q name .value
    | none => return pieceOf p '$'

/-- Reads the commands between backquotes behind the first of these. -/
def backquotes (self : Goals) (p : Place) : Reader Piece := do
  match backquoted p.inQuotes (← get) with
  | none => refuse "Syntax error: EOF in backquote substitution"
  | some (text, rest) =>
    set text
    let c ← self (.list true)
    let t ← token self
    match t with
    | .ending =>
      set rest
      return .output p.inQuotes c
    | _ => unexpected t none

/-- Reads a text in single quotes behind the first of these. -/
def singleQuoted : Reader Word := do
  let s ← get
  match s.dropWhile (· != '\'') with
  | [] => refuse "Syntax error: Unterminated quoted string"
  | _ :: rest =>
    set rest
    return .quotes :: (s.takeWhile (· != '\'')).map .quoted

/-- The end of the text in the midst of a word. -/
def endOfText : Place → Reader Word
  | .bare | .document => return []
  | .quotes => refuse "Syntax error: Unterminated quoted string"
  | .braces _ => refuse "Syntax error: Missing '\x7d'"
  | .expression _ => refuse "Syntax error: Missing '))'"

/-- Reads the pieces of a word up to what ends them at their place. -/
def readPieces (self : Goals) (p : Place) : Reader Word := do
  let goOn (w : Word) (p : Place) : Reader Word := return w ++ (← self (.pieces p))
  match ← get with
  | [] => endOfText p
  | c :: s =>
    match p, c with
    | .quotes, '"' =>
      set s
      return []
    | .braces _, '\x7d' =>
      set s
      return []
    | .expression 0, ')' =>
      match s with
      | ')' :: s =>
        set s
        return []
      | _ => refuse "Syntax error: Missing '))'"
    | .expression (n + 1), ')' =>
      set s
      goOn [.quoted c] (.expression n)
    | .expression n, '(' =>
      set s
      goOn [.quoted c] (.expression (n + 1))
    | _, '$' =>
      set s
      goOn [← dollar self p] p
    | _, '\x60' =>
      set s
      goOn [← backquotes self p] p
    | _, '\\' =>
      match s with
      | [] =>
        set s
        goOn [pieceOf p c] p
      | '\n' :: s =>
        set s
        self (.pieces p)
      | d :: rest =>
        if !p.inQuotes || escapable p d then
          set rest
          goOn [.quoted d] p
        else
          set s
          goOn [.quoted c] p
    | _, _ =>
      if p = .bare && endsWord c then return []
      else
        set s
        if c = '\'' && !p.inQuotes then goOn (← singleQuoted) p
        else if c = '"' && (p = .bare || p = .braces p.inQuotes) then
          goOn (.quotes :: (← self (.pieces .quotes))) p
        else goOn [pieceOf p c] p

/-! ## Redirections -/

/-- The lines of a document up to the one that ends it, and the text behind that. -/
def documentLines (tabs : Bool) (delimiter : List Char) : Nat → List Char → List Char × List Char
  | 0, s => ([], s)
  | n + 1, s =>
    if s.isEmpty then ([], [])
    else
      let line := s.takeWhile (· != '\n')
      let rest := (s.dropWhile (· != '\n')).drop 1
      let line := if tabs then line.dropWhile (· == '\t') else line
      if line = delimiter then ([], rest)
      else
        let (body, rest) := documentLines tabs delimiter n rest
        (line ++ '\n' :: body, rest)

/-- The character that a piece is. -/
def pieceChar? : Piece → Option Char
  | .plain c | .quoted c => some c
  | _ => none

/-- Whether a piece comes of quotes. -/
def Piece.isQuoted : Piece → Bool
  | .quoted _ | .quotes => true
  | _ => false

/-- Reads the document of a redirection behind its operator: the lines that follow the present one,
up to its delimiter. They are taken out of the text. A delimiter with quotes makes them plain text.
-/
def document (self : Goals) (tabs : Bool) : Reader Word := do
  modify skipBlanks
  let w ← self (.pieces .bare)
  let delimiter := w.filterMap pieceChar?
  let s ← get
  let line := s.takeWhile (· != '\n')
  let (body, rest) := documentLines tabs delimiter s.length ((s.dropWhile (· != '\n')).drop 1)
  let pieces ←
    if w.any Piece.isQuoted then pure (body.map .quoted)
    else do
      set body
      self (.pieces .document)
  set (line ++ '\n' :: rest)
  return pieces

/-- The kind of a redirection by its operator. -/
def redirectionOf (op : String) : Redirection :=
  match op with
  | "<" | "<>" => .read
  | ">>" => .append
  | "<&" | ">&" => .copy
  | _ => .write

/-- Reads the target of a redirection. -/
def redirect (self : Goals) (descriptor : Nat) (op : String) : Reader Redirect := do
  if op = "<<" || op = "<<-" then
    return .mk descriptor .document (← document self (op = "<<-"))
  else
    match ← token self with
    | .word w => return .mk descriptor (redirectionOf op) w
    | t => unexpected t none

/-- Reads redirections as long as there are any. -/
def readRedirects (self : Goals) : Reader (List Redirect) := do
  match ← peek self with
  | .redirect _ _ =>
    match ← token self with
    | .redirect d op =>
      let r ← redirect self d op
      return r :: (← self .redirects)
    | t => unexpected t none
  | _ => return []

/-! ## Commands -/

/-- The name and the value of an assignment, if a word is one. -/
def assignmentOf? (w : Word) : Option (String × Word) :=
  let name := w.takeWhile fun p => (p.plain?.map isNameChar).getD false
  let rest := w.drop name.length
  match plainText? name, rest with
  | some n, .plain '=' :: value => if isName n.toList then some (n, value) else none
  | _, _ => none

/-- The commands of the shell that are special: they cannot be the name of a function, and a fault
in one ends the script. -/
def specialCommands : List String :=
  [".", ":", "break", "continue", "eval", "exec", "exit", "export", "readonly", "return", "set",
    "shift", "times", "trap", "unset"]

/-- The simple command that was read. -/
def Draft.command (d : Draft) : Command := .simple d.line d.assignments d.words d.redirects

/-- Reads the rest of a simple command. A word and a pair of parentheses define a function. -/
def readSimple (self : Goals) (d : Draft) : Reader Command := do
  let s ← get
  match ← token self with
  | .word w =>
    match if d.words.isEmpty then assignmentOf? w else none with
    | some a => self (.simple { d with assignments := d.assignments ++ [a] })
    | none => self (.simple { d with words := d.words ++ [w] })
  | .redirect n op =>
    let r ← redirect self n op
    self (.simple { d with redirects := d.redirects ++ [r] })
  | t =>
    match t.is "(", d with
    | true, ⟨_, [], [w], []⟩ =>
      demand self ")"
      match plainText? w with
      | some name =>
        if isName name.toList && !specialCommands.contains name then
          toNextLine
          return .define name (← self .command)
        else refuse "Syntax error: Bad function name"
      | none => refuse "Syntax error: Bad function name"
    | _, _ =>
      set s
      return d.command

/-- Reads a choice behind the word that starts it, and what ends it. -/
def readBranches (self : Goals) : Reader Command := do
  let test ← self (.list false)
  demand self "then"
  let yes ← self (.list false)
  let t ← token self
  if t.is "elif" then return .choose test yes (← self .branches)
  else if t.is "else" then
    let no ← self (.list false)
    demand self "fi"
    return .choose test yes no
  else if t.is "fi" then return .choose test yes .skip
  else unexpected t "fi"

/-- Reads words up to the end of the line or a semicolon. -/
def readWords (self : Goals) : Reader (List Word) := do
  match ← token self with
  | .word w => return w :: (← self .words)
  | .newline => return []
  | t => if t.is ";" then return [] else unexpected t none

/-- Reads a loop over words behind the word that starts it. -/
def readFor (self : Goals) : Reader Command := do
  match ← token self with
  | .word w =>
    match (plainText? w).filter fun s => isName s.toList with
    | none => refuse "Syntax error: Bad for loop variable"
    | some name =>
      toNextLine
      let t ← peek self
      let words ←
        if t.is "in" then do
          demand self "in"
          self .words
        else do
          if t.is ";" then demand self ";"
          pure [[.quotes, .parameter true "@" .value]]
      toNextLine
      demand self "do"
      let body ← self (.list false)
      demand self "done"
      return .forEach name words body
  | _ => refuse "Syntax error: Bad for loop variable"

/-- Reads a word. -/
def readWord (self : Goals) : Reader Word := do
  match ← token self with
  | .word w => return w
  | t => unexpected t none

/-- Reads a pattern of an arm. -/
def readPattern (self : Goals) : Reader Word := do
  match ← token self with
  | .word w => return w
  | t => unexpected t ")"

/-- Reads the patterns of an arm behind the first one, and what ends them. -/
def readPatterns (self : Goals) : Reader (List Word) := do
  let t ← token self
  if t.is "|" then
    let w ← readPattern self
    return w :: (← self .patterns)
  else if t.is ")" then return []
  else unexpected t ")"

/-- Reads the arms of a selection and what ends them. -/
def readArms (self : Goals) : Reader (List (List Word × Command)) := do
  toNextLine
  let s ← get
  let t ← token self
  if t.is "esac" then return []
  else
    if !t.is "(" then set s
    let w ← readPattern self
    let ws ← self .patterns
    let body ← self (.list true)
    toNextLine
    let t ← token self
    if t.is ";;" then return (w :: ws, body) :: (← self .arms)
    else if t.is "esac" then return [(w :: ws, body)]
    else unexpected t ";;"

/-- Reads a selection behind the word that starts it. -/
def readCase (self : Goals) : Reader Command := do
  let w ← readWord self
  toNextLine
  demand self "in"
  return .select w (← self .arms)

/-- Reads a command in brackets behind the first of these. -/
def readGroup (self : Goals) (closer : String) : Reader Command := do
  let c ← self (.list false)
  demand self closer
  return c

/-- Reads a loop behind the word that starts it. -/
def readLoop (self : Goals) (wrong : Bool) : Reader Command := do
  let test ← self (.list false)
  demand self "do"
  let body ← self (.list false)
  demand self "done"
  return .loop wrong test body

/-- The command with redirections. -/
def Command.withRedirects (c : Command) (rs : List Redirect) : Command :=
  if rs.isEmpty then c else .redirected c rs

/-- Reads a command. -/
def readCommand (self : Goals) : Reader Command := do
  let s ← get
  let line ← currentLine
  let t ← token self
  let compound (c : Reader Command) : Reader Command := do
    let c ← c
    return c.withRedirects (← self .redirects)
  match t, t.key? with
  | _, some "(" =>
    let c ← readGroup self ")"
    return .subshell c (← self .redirects)
  | _, some "\x7b" => compound (readGroup self "\x7d")
  | _, some "if" => compound (self .branches)
  | _, some "while" => compound (readLoop self false)
  | _, some "until" => compound (readLoop self true)
  | _, some "for" => compound (readFor self)
  | _, some "case" => compound (readCase self)
  | .word _, key =>
    match key with
    | some k => if k = "in" then readSimpleFrom s line else unexpected t none
    | none => readSimpleFrom s line
  | .redirect _ _, _ => readSimpleFrom s line
  | _, _ => unexpected t none
where
  /-- Reads a simple command from its start. -/
  readSimpleFrom (s : List Char) (line : Nat) : Reader Command := do
    set s
    self (.simple { line := line })

/-- Reads the commands behind the bars of a pipeline. -/
def readPipes (self : Goals) : Reader (List Command) := do
  let s ← get
  let t ← token self
  if t.is "|" then
    toNextLine
    let c ← self .command
    return c :: (← self .pipes)
  else
    set s
    return []

/-- Reads a pipeline. -/
def readPipeline (self : Goals) : Reader Command := do
  let s ← get
  let t ← token self
  let negated := t.is "!"
  if !negated then set s
  let c ← self .command
  let cs ← self .pipes
  let p := if cs.isEmpty then c else .pipe (c :: cs)
  return if negated then .negate p else p

/-- Reads what follows a pipeline behind `&&` or `||`. -/
def readChain (self : Goals) (c : Command) : Reader Command := do
  let s ← get
  let t ← token self
  if t.is "&&" || t.is "||" then
    toNextLine
    let d ← self .pipeline
    self (.chain (if t.is "&&" then .both c d else .either c d))
  else
    set s
    return c

/-- Reads pipelines and what joins them. -/
def readJoined (self : Goals) : Reader Command := do
  self (.chain (← self .pipeline))

/-- Reads commands up to what closes them. -/
def readList (self : Goals) (mayBeEmpty : Bool) : Reader Command := do
  toNextLine
  match ← peek self with
  | .ending => return .skip
  | t =>
    if mayBeEmpty && t.closes then return .skip
    else
      let c ← readJoined self
      let s ← get
      let t ← token self
      match t with
      | .newline => return .sequence c (← self (.list true))
      | _ =>
        if t.is ";" then return .sequence c (← self (.list true))
        else if t.is "&" then return .sequence (.background c) (← self (.list true))
        else
          set s
          return c

/-- Reads the rest of a line of a script. -/
def readRestOfLine (self : Goals) : Reader Command := do
  let s ← get
  match ← token self with
  | .ending | .newline => return .skip
  | _ =>
    set s
    let c ← readJoined self
    let t ← token self
    match t with
    | .ending | .newline => return c
    | _ =>
      if t.is ";" then return .sequence c (← self .line)
      else if t.is "&" then return .sequence (.background c) (← self .line)
      else unexpected t none

/-- Reads a goal, with the means to read smaller ones. -/
def readGoal (self : Goals) : Goals
  | .pieces p => readPieces self p
  | .line => readRestOfLine self
  | .list e => readList self e
  | .chain c => readChain self c
  | .pipeline => readPipeline self
  | .pipes => readPipes self
  | .command => readCommand self
  | .simple d => readSimple self d
  | .words => readWords self
  | .patterns => readPatterns self
  | .arms => readArms self
  | .branches => readBranches self
  | .redirects => readRedirects self

/-- Reads a goal; smaller goals within it go as deep as the number says. -/
def readWithin : Nat → Goals
  | 0, _ => refuse "Syntax error: too deep"
  | n + 1, g => readGoal (readWithin n) g

/-- Reads the commands of the next line of a script whose first line has the given number, and tells
what follows them. -/
def readLine (firstLine : Nat) (s : List Char) : Except Complaint (Command × List Char) :=
  (readWithin (8 * s.length + 64) .line).run (firstLine - 1 + s.count '\n') |>.run s

end BuildDiagnostics.Shell
