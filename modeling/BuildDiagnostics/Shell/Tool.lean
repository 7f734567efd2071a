import BuildDiagnostics.Failure
import BuildDiagnostics.Shell.Cat
import BuildDiagnostics.Shell.Condition
import BuildDiagnostics.Shell.Printf
import BuildDiagnostics.Shell.State

/-!
# Tools

The small programs of every system, each as a function from its arguments and a state to the state
afterwards. `tool?` finds one by its name; any other name is that of no program.
-/

namespace BuildDiagnostics.Shell

/-- What a program does with its arguments. -/
abbrev Tool := List String → State → State

/-- A fault in the words of the programs, which leave out its number. -/
def complaintOf (f : Fault) : String :=
  String.ofList (Text.trimEnd (f.message.toList.takeWhile (· != '(')))

/-- The state after a program that fails with a message under its name. -/
def State.failAs (s : State) (name text : String) (status : Nat) : State :=
  (s.print 2 (name ++ ": " ++ text ++ "\n")).withStatus status

namespace Tool

/-! ## Showing files -/

/-- The advice that goes with a complaint about arguments. -/
def advice (name : String) : String := "\nTry '" ++ name ++ " --help' for more information."

/-- A fault of options in words. -/
def optionMessage (name : String) : OptionFault → String
  | .unknownLetter c => "invalid option -- '" ++ c.toString ++ "'" ++ advice name
  | .unknownName n => "unrecognized option '" ++ n ++ "'" ++ advice name

/-- The content of a file, where a hyphen stands for what is left to read, and the state after
that. A file that cannot be read is complained about. -/
def contentOf (name : String) (s : State) (file : String) : List UInt8 × State :=
  if file = "-" then (s.unread 0, s.setUnread 0 [])
  else
    match s.disk.read ⟨file⟩ with
    | .ok content => (content, s)
    | .error f => ([], s.failAs name (file ++ ": " ++ complaintOf f) 1)

/-- The contents of files one after the other. -/
def contentsOf (name : String) (s : State) : List String → List UInt8 × State
  | [] => ([], s)
  | file :: rest =>
    let (bytes, s) := contentOf name s file
    let (more, s) := contentsOf name s rest
    (bytes ++ more, s)

/-- Shows files one after the other. -/
def cat : Tool := fun args s =>
  match CatOptions.read args with
  | .error f => s.failAs "cat" (optionMessage "cat" f) 1
  | .ok a =>
    let (bytes, t) := contentsOf "cat" (s.withStatus 0) (if a.files.isEmpty then ["-"] else a.files)
    t.write 1 (a.options.shown bytes)

/-- The number of an option and the operands, where the option is a letter with a number, or a
number alone for the letter `n`. -/
def countOption (letter : Char) (default : String) (args : List String) : String × List String :=
  match args with
  | a :: rest =>
    match a.toList with
    | ['-', c] =>
      if c = letter then (rest.headD "", rest.drop 1)
      else if letter = 'n' && Text.isDigitAscii c then (c.toString, rest)
      else (default, args)
    | '-' :: c :: number =>
      if c = letter then (String.ofList number, rest)
      else if letter = 'n' && Text.isDigitAscii c then (String.ofList (c :: number), rest)
      else (default, args)
    | _ => (default, args)
  | [] => (default, [])

/-- Shows the lines at the start of files. -/
def head : Tool := fun args s =>
  let (count, files) := countOption 'n' "10" args
  let (bytes, t) := contentsOf "head" (s.withStatus 0) (if files.isEmpty then ["-"] else files)
  t.write 1 (((Text.endedRecords 10 bytes).take (count.toNat?.getD 10)).flatten)

/-- Shows the lines at the end of files, or those from a line on. -/
def tail : Tool := fun args s =>
  let (count, files) := countOption 'n' "10" args
  let (bytes, t) := contentsOf "tail" (s.withStatus 0) (if files.isEmpty then ["-"] else files)
  let lines := Text.endedRecords 10 bytes
  let first := match count.toList with
    | '+' :: number => ((String.ofList number).toNat?.getD 1) - 1
    | _ => lines.length - count.toNat?.getD 10
  t.write 1 (lines.drop first).flatten

/-- Writes what there is to read, and puts it into files. -/
def tee : Tool := fun args s =>
  let (append, files) := match args with
    | "-a" :: rest => (true, rest)
    | _ => (false, args)
  let bytes := s.unread 0
  let s := (s.setUnread 0 []).withStatus 0
  files.foldl (fun s file =>
    let old := if append then ((s.disk.read ⟨file⟩).toOption).getD [] else []
    match s.disk.write ⟨file⟩ (old ++ bytes) with
    | .ok d => { s with disk := d }
    | .error f => s.failAs "tee" (file ++ ": " ++ complaintOf f) 1) (s.write 1 bytes)

/-! ## Writing -/

/-- What is told about a format in the words of the program. -/
def formatMessage : FormatFault → String
  | .noNumber t => "'" ++ t ++ "': expected a numeric value"
  | .partNumber t => "'" ++ t ++ "': value not completely converted"
  | .outOfRange t => "'" ++ t ++ "': Numerical result out of range"
  | .noConversion t => t ++ ": invalid conversion specification"
  | .noDigits => "missing hexadecimal number in escape"
  | .excess t => "warning: ignoring excess arguments, starting with '" ++ t ++ "'"

/-- Whether a fault is more than a warning. -/
def isFailure : FormatFault → Bool
  | .excess _ => false
  | _ => true

/-- Writes a format with its arguments. -/
def printf : Tool := fun args s =>
  match if args.head? = some "--" then args.drop 1 else args with
  | [] => s.failAs "printf" ("missing operand" ++ advice "printf") 1
  | text :: rest =>
    let p := format .program text rest
    let s := p.faults.foldl (fun s f => s.failAs "printf" (formatMessage f) 1) (s.write 1 p.output)
    s.withStatus (if p.faults.any isFailure then 1 else 0)

/-- The letters of the options at the start of the arguments of `echo`, and the words behind them.
-/
def echoOptions : List String → List Char × List String
  | [] => ([], [])
  | a :: rest =>
    match a.toList with
    | '-' :: c :: cs =>
      if (c :: cs).all ['n', 'e', 'E'].contains then
        let (more, words) := echoOptions rest
        (c :: cs ++ more, words)
      else ([], a :: rest)
    | _ => ([], a :: rest)

/-- Writes words. -/
def echo : Tool := fun args s =>
  let (options, words) := echoOptions args
  let text := " ".intercalate words
  let escapes := options.reverse.find? (fun c => c == 'e' || c == 'E') == some 'e'
  let p := if escapes then unescape .program text.toList else .chars text.toList
  let ending := if p.stopped || options.contains 'n' then [] else [10]
  (s.write 1 (p.output ++ ending)).withStatus 0

/-- Writes numbers from the first to the last, one a line. -/
def seq : Tool := fun args s =>
  match args.mapM String.toInt? with
  | some [last] => write s 1 1 last
  | some [first, last] => write s first 1 last
  | some [first, step, last] => write s first step last
  | _ => s.failAs "seq" ("missing operand" ++ advice "seq") 1
where
  /-- Writes numbers with a step between them. -/
  write (s : State) (first step last : Int) : State :=
    let count := if step = 0 then 0 else ((last - first).fdiv step + 1).toNat
    let lines := (List.range count).map fun (i : Nat) => toString (first + step * (i : Int)) ++ "\n"
    (s.print 1 (String.join lines)).withStatus 0

/-! ## Files -/

/-- Applies an operation on the disk to each of the arguments. -/
def onEach (name verb : String) (f : Disk → Path → Except Fault Disk) (files : List String)
    (s : State) : State :=
  files.foldl (fun s file =>
    match f s.disk ⟨file⟩ with
    | .ok d => { s with disk := d }
    | .error e => s.failAs name (verb ++ " '" ++ file ++ "': " ++ complaintOf e) 1) (s.withStatus 0)

/-- Makes directories. -/
def mkdir : Tool := fun args s =>
  match args with
  | "-p" :: rest =>
    onEach "mkdir" "cannot create directory" (fun d p =>
      match d.createDirectories p with
      | (.ok (), d') => .ok d'
      | (.error f, _) => .error f) rest s
  | _ => onEach "mkdir" "cannot create directory" Disk.createDirectory args s

/-- Takes a file away, or with everything in it a directory. -/
def removeAll (d : Disk) (p : Path) : Except Fault Disk :=
  match d.locate p with
  | .ok loc => .ok (d.erase loc)
  | .error f => .error f

/-- Takes files away. -/
def rm : Tool := fun args s =>
  let options := (args.filter fun a => a.toList.head? = some '-').flatMap String.toList
  let files := args.filter fun a => a.toList.head? != some '-'
  let files := if options.contains 'f' then files.filter fun f => s.disk.pathExists ⟨f⟩ else files
  let recursive := options.contains 'r' || options.contains 'R'
  onEach "rm" "cannot remove" (if recursive then removeAll else Disk.removeFile) files s

/-- Makes files that are missing. -/
def touch : Tool := fun args s =>
  onEach "touch" "cannot touch" (fun d p => if d.pathExists p then .ok d else d.write p []) args s

/-! ## Texts and answers -/

/-- A fault of a condition in words. -/
def conditionMessage : Condition.Fault → String
  | .unexpectedOperator t => t ++ ": unexpected operator"
  | .argumentExpected t => t ++ ": argument expected"
  | .closingExpected => "closing paren expected"
  | .illegalNumber t => "Illegal number: " ++ t

/-- Decides a condition, which in the form of a bracket is closed by one. A fault goes to `fail`. -/
def decideWith (fail : State → String → State) (bracket : Bool) : Tool := fun args s =>
  if bracket && args.getLast? != some "]" then fail s "missing ]"
  else
    match Condition.decide s.disk (if bracket then args.dropLast else args) with
    | .ok b => s.answer b
    | .error f => fail s (conditionMessage f)

/-- The last name of a path, without the given ending. -/
def basename : Tool := fun args s =>
  let text := (args.headD "").toList
  let names := (Text.pieces '/' text).filter (!·.isEmpty)
  let name := names.getLastD (if text.isEmpty then [] else ['/'])
  let ending := ((args.drop 1).headD "").toList
  let short := if ending = name then name else (Text.dropSuffix? ending name).getD name
  (s.print 1 (String.ofList short ++ "\n")).withStatus 0

/-- A path without its last name. -/
def dirname : Tool := fun args s =>
  let text := (args.headD "").toList
  let isSlash (c : Char) : Bool := c == '/'
  let trimmed := (text.reverse.dropWhile isSlash).dropWhile (fun c => !isSlash c)
  let dir := (trimmed.dropWhile isSlash).reverse
  let out :=
    if !dir.isEmpty then dir else if text.head? = some '/' then ['/'] else ['.']
  (s.print 1 (String.ofList out ++ "\n")).withStatus 0

/-- Writes the working directory. -/
def pwd : Tool := fun _ s =>
  (s.print 1 (s.disk.workingDirectory.text ++ "\n")).withStatus 0

/-- Lists the names in directories that do not start with a dot, one a line. -/
def ls : Tool := fun args s =>
  let places := args.filter fun a => a.toList.head? != some '-'
  (if places.isEmpty then ["."] else places).foldl (fun s p =>
    match s.disk.stat ⟨p⟩, s.disk.locate ⟨p⟩ with
    | .ok (.file _), _ => s.print 1 (p ++ "\n")
    | .ok .directory, .ok loc =>
      let names := (s.disk.namesIn loc).filter fun n => n.toList.head? != some '.'
      s.print 1 (String.join (names.map (· ++ "\n")))
    | .error f, _ | _, .error f =>
      s.failAs "ls" ("cannot access '" ++ p ++ "': " ++ complaintOf f) 2) (s.withStatus 0)

/-- The number of words in bytes. -/
def countWords (bytes : List UInt8) : Nat :=
  let blank (b : UInt8) : Bool := b = 32 || (9 ≤ b && b ≤ 13)
  (bytes.foldl (fun (n, inWord) b =>
    if blank b then (n, false) else (if inWord then n else n + 1, true)) ((0 : Nat), false)).1

/-- Counts lines, words or bytes. -/
def wc : Tool := fun args s =>
  let option := (args.headD "-l").toList.getLastD 'l'
  let files := args.filter fun a => a.toList.head? != some '-'
  let count (bytes : List UInt8) : Nat :=
    if option = 'w' then countWords bytes
    else if option = 'c' then bytes.length
    else bytes.count 10
  (if files.isEmpty then ["-"] else files).foldl (fun s f =>
    let (bytes, s) := contentOf "wc" s f
    let label := if f = "-" then "" else " " ++ f
    s.print 1 (toString (count bytes) ++ label ++ "\n")) (s.withStatus 0)

end Tool

/-- The programs by their names. -/
def tools : List (String × Tool) :=
  [("true", fun _ s => s.withStatus 0), ("false", fun _ s => s.withStatus 1),
    ("cat", Tool.cat), ("printf", Tool.printf), ("echo", Tool.echo),
    ("head", Tool.head), ("tail", Tool.tail), ("tee", Tool.tee), ("seq", Tool.seq),
    ("mkdir", Tool.mkdir), ("rm", Tool.rm), ("touch", Tool.touch),
    ("basename", Tool.basename), ("dirname", Tool.dirname), ("pwd", Tool.pwd),
    ("sleep", fun _ s => s.withStatus 0),
    ("ls", Tool.ls), ("wc", Tool.wc),
    ("test", Tool.decideWith (fun s text => s.failAs "test" text 2) false),
    ("[", Tool.decideWith (fun s text => s.failAs "[" text 2) true)]

/-- The directories in which programs are. -/
def programDirectories : List String := ["/bin/", "/usr/bin/"]

/-- The name of a program that may be given with its directory. -/
def bareName (program : String) : String :=
  ((programDirectories.filterMap fun dir =>
    Text.dropPrefix? dir.toList program.toList).head?.map String.ofList).getD program

/-- The program of a name. -/
def tool? (name : String) : Option Tool := tools.lookup (bareName name)

end BuildDiagnostics.Shell
