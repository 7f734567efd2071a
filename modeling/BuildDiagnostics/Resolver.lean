import BuildDiagnostics.Diagnostic
import BuildDiagnostics.Failure
import BuildDiagnostics.Grammar.GnuLd
import BuildDiagnostics.Reference

/-!
# Resolving diagnostics

Resolving gives each diagnostic of a batch the file that it is shown against. A relative reference
is tried in each base directory in turn and falls back to the first. A diagnostic that names no
source file is an orphan: it gets a block of its own in a file that is written for the purpose, so
that it too has a place.

`resolve` first finds the files (`anchors`), which only reads the disk, then lays out the orphans
(`layOut`), which does not look at it, and last writes their file (`writeOrphans`).

Where there are no base directories, the system is asked for the working directory. Its answer is
`home`: the one that the disk holds, unless it is given otherwise, as when the directory is gone.
-/

namespace BuildDiagnostics

/-- A related place and the file it is shown against. -/
structure ResolvedRelated where
  path : Path
  range : Range
  message : String
  deriving DecidableEq, Repr

/-- A diagnostic and the file it is shown against. -/
structure Resolved where
  diagnostic : Diagnostic
  path : Path
  /-- Where in the file it is shown. -/
  range : Range
  related : List ResolvedRelated
  /-- Whether the file was written for the diagnostic. -/
  synthetic : Bool
  deriving DecidableEq, Repr

namespace Resolved

/-- The diagnostic on one line, with one-based numbers. -/
def render (r : Resolved) : String :=
  s!"{r.path.text}:{r.range.start.line.toNat + 1}:{r.range.start.column.toNat + 1}: " ++
    s!"{r.diagnostic.severity}: [{r.diagnostic.source}] {r.diagnostic.message}"

end Resolved

/-- Where the orphans are written. -/
structure Resolver where
  directory : Path
  deriving DecidableEq, Repr

namespace Resolver

/-- The name of the file of orphans. -/
def orphansName : String := "linkerrors.txt"

/-- The file of orphans. -/
def orphansPath (r : Resolver) : Path := r.directory.join orphansName

/-- A reference inside a base directory. -/
def candidate (base : Path) (file : List Char) : Path :=
  (base.join (String.ofList file)).normalize

/-- The first base directory's candidate that exists. A fault on the way ends the search. -/
def findExisting (d : Disk) (file : List Char) : List Path → Except Failure (Option Path)
  | [] => .ok none
  | base :: rest =>
    let p := candidate base file
    match d.tryExists p with
    | .error f => .error (.during ("checking " ++ p.text) f)
    | .ok true => .ok (some p)
    | .ok false => findExisting d file rest

/-- Where a reference goes that exists nowhere: into the first base directory, and without one into
the working directory. -/
def fallback (bases : List Path) (file : List Char) (home : Except Fault Path) :
    Except Failure Path :=
  match bases with
  | base :: _ => .ok (candidate base file)
  | [] =>
    match home with
    | .error f => .error (.during "reading current directory" f)
    | .ok cwd => .ok (candidate cwd file)

/-- The path of a reference. -/
def resolvePath (d : Disk) (bases : List Path) (reference : String)
    (home : Except Fault Path := .ok d.workingDirectory) : Except Failure Path :=
  let file := Text.trim reference.toList
  if Reference.isAbsolute file then .ok ⟨String.ofList file⟩
  else
    match findExisting d file bases with
    | .error f => .error f
    | .ok (some p) => .ok p
    | .ok none => fallback bases file home

/-- A diagnostic, its related places, and the file it is shown against; none for an orphan. -/
structure Anchor where
  diagnostic : Diagnostic
  related : List ResolvedRelated
  path : Option Path
  deriving DecidableEq, Repr

/-- The related place with its file. -/
def anchorRelated (d : Disk) (bases : List Path) (r : Related)
    (home : Except Fault Path := .ok d.workingDirectory) : Except Failure ResolvedRelated :=
  match resolvePath d bases r.file home with
  | .error f => .error f
  | .ok p => .ok ⟨p, r.range, r.message⟩

/-- The file of a diagnostic, if it has one. Whether a bare name is a file or a tool, only the disk
can tell. -/
def anchorFile (d : Disk) (bases : List Path) (reference : String)
    (home : Except Fault Path := .ok d.workingDirectory) : Except Failure (Option Path) :=
  let file := Text.trim reference.toList
  if file.isEmpty || Reference.hasBinaryExtension file then .ok none
  else if Reference.isBareName file then
    match findExisting d file bases with
    | .error f => .error f
    | .ok found => .ok (found.filter d.isFile)
  else
    match resolvePath d bases reference home with
    | .error f => .error f
    | .ok p => .ok (some p)

/-- The files of a diagnostic: those of its related places first. -/
def anchor (d : Disk) (bases : List Path) (diag : Diagnostic)
    (home : Except Fault Path := .ok d.workingDirectory) : Except Failure Anchor :=
  match diag.related.mapM (anchorRelated d bases · home) with
  | .error f => .error f
  | .ok related =>
    match anchorFile d bases diag.file home with
    | .error f => .error f
    | .ok path => .ok ⟨diag, related, path⟩

/-- The files of a batch. -/
def anchors (d : Disk) (bases : List Path) (batch : List Diagnostic)
    (home : Except Fault Path := .ok d.workingDirectory) : Except Failure (List Anchor) :=
  batch.mapM (anchor d bases · home)

/-- What the block of an orphan is called. -/
def title (diag : Diagnostic) : String :=
  let linker := diag.source == GnuLd.source ||
    match diag.code with
    | some c => "LNK".toList.isPrefixOf c.toList
    | none => false
  if linker then "Linker error" else "Build error"

/-- The lines of a message; an empty message is one empty line. -/
def messageLines (diag : Diagnostic) : List (List Char) :=
  if diag.message.isEmpty then [[]] else Text.lines diag.message.toList

/-- The number of lines before the message in a block. -/
def headerLines : Nat := 3

/-- The lines of the block of the orphan with the given number: title, source and file, severity and
code, message, and an empty line. -/
def blockLines (number : Nat) (diag : Diagnostic) : List String :=
  [title diag ++ " #" ++ toString number, diag.source ++ ": " ++ diag.file,
    diag.severity ++ " " ++ diag.code.getD "-"] ++
    (messageLines diag).map String.ofList ++ [""]

/-- Lines as the text of a file. -/
def unlines (lines : List String) : String := String.join (lines.map (· ++ "\n"))

/-- The number of the block's last line of message when it starts at the given line. -/
def lastLine (start : Nat) (diag : Diagnostic) : Nat :=
  start + headerLines + (messageLines diag).length - 1

/-- The results of a batch, and the text of its orphans. `next` is the line that the next block
starts at, `number` the number of orphans before it. -/
def layOut (file : Path) (next number : Nat) : List Anchor → List Resolved × String
  | [] => ([], "")
  | a :: rest =>
    match a.path with
    | some p =>
      let (results, text) := layOut file next number rest
      (⟨a.diagnostic, p, a.diagnostic.range, a.related, false⟩ :: results, text)
    | none =>
      let last := lastLine next a.diagnostic
      let (results, text) := layOut file (last + 2) (number + 1) rest
      let range := Range.ofEnds next.toUInt32 0 last.toUInt32 Position.restOfLine
      (⟨a.diagnostic, file, range, a.related, true⟩ :: results,
        unlines (blockLines (number + 1) a.diagnostic) ++ text)

/-- Writes the file of orphans, or removes an old one when there are none. -/
def writeOrphans (r : Resolver) (d : Disk) (orphans : Bool) (text : String) :
    Except Failure Unit × Disk :=
  let path := r.orphansPath
  if orphans then
    match d.createDirectories r.directory with
    | (.error f, d') => (.error (.during ("creating " ++ r.directory.text) f), d')
    | (.ok (), d') =>
      match d'.write path (Utf8.encode text) with
      | .error f => (.error (.during ("writing " ++ path.text) f), d')
      | .ok d'' => (.ok (), d'')
  else if d.pathExists path then
    match d.removeFile path with
    | .error f => (.error (.during ("removing stale " ++ path.text) f), d)
    | .ok d' => (.ok (), d')
  else (.ok (), d)

/-- The results of a batch, and the disk with its orphans written. -/
def resolve (r : Resolver) (d : Disk) (bases : List Path) (batch : List Diagnostic)
    (home : Except Fault Path := .ok d.workingDirectory) :
    Except Failure (List Resolved) × Disk :=
  match anchors d bases batch home with
  | .error f => (.error f, d)
  | .ok as =>
    let (results, text) := layOut r.orphansPath 0 0 as
    match r.writeOrphans d (results.any (·.synthetic)) text with
    | (.error f, d') => (.error f, d')
    | (.ok (), d') => (.ok results, d')

end Resolver

end BuildDiagnostics
