import BuildDiagnostics.Encoding.Utf8
import BuildDiagnostics.Path

/-!
# Disks

A disk is a value: files and directories by their names from the root, and a working directory. The
operations follow the rules of Unix for finding a path: each part but the last must be a directory,
a name has at most 255 bytes and a path fewer than 4096, and no path holds a NUL.

A reading operation leaves the disk as it is. A writing operation returns the new disk.
-/

namespace BuildDiagnostics

/-- Why an operation on a disk fails. -/
inductive Fault
  | notFound
  | notADirectory
  | isADirectory
  | alreadyExists
  | permissionDenied
  | nameTooLong
  /-- The content is not valid UTF-8. -/
  | invalidText
  /-- The path holds a NUL. -/
  | invalidPath
  deriving DecidableEq, Repr

namespace Fault

/-- The fault in the words of the system. -/
def message : Fault → String
  | notFound => "No such file or directory (os error 2)"
  | notADirectory => "Not a directory (os error 20)"
  | isADirectory => "Is a directory (os error 21)"
  | alreadyExists => "File exists (os error 17)"
  | permissionDenied => "Permission denied (os error 13)"
  | nameTooLong => "File name too long (os error 36)"
  | invalidText => "stream did not contain valid UTF-8"
  | invalidPath => "file name contained an unexpected NUL byte"

end Fault

/-- A place on a disk: the names from the root. -/
abbrev Location := List String

/-- What is at a place. -/
inductive Node
  | file (content : List UInt8)
  | directory
  deriving DecidableEq, Repr

/-- Files, directories and a working directory. -/
structure Disk where
  nodes : List (Location × Node)
  cwd : Location
  deriving DecidableEq, Repr

namespace Disk

/-- What is at a place. The root is always a directory. -/
def node? (d : Disk) (loc : Location) : Option Node :=
  if loc = [] then some .directory else d.nodes.lookup loc

/-- The disk with something at a place. -/
def put (d : Disk) (loc : Location) (n : Node) : Disk :=
  { d with nodes := (loc, n) :: d.nodes.filter fun e => e.1 != loc }

/-- The disk with nothing at or under a place. -/
def erase (d : Disk) (loc : Location) : Disk :=
  { d with nodes := d.nodes.filter fun e => !loc.isPrefixOf e.1 }

/-- The working directory as a path. -/
def workingDirectory (d : Disk) : Path := .ofComponents (.root :: d.cwd.map .name)

/-- Follows the pieces of a path from a place. -/
def walk (d : Disk) (loc : Location) : List (List Char) → Except Fault Location
  | [] => .ok loc
  | piece :: rest =>
    match d.node? loc with
    | none => .error .notFound
    | some (.file _) => .error .notADirectory
    | some .directory =>
      if piece = [] || piece = ['.'] then walk d loc rest
      else if piece = ['.', '.'] then walk d loc.dropLast rest
      else
        let name := String.ofList piece
        if 255 < name.utf8ByteSize then .error .nameTooLong
        else if (d.node? (loc ++ [name])).isNone then .error .notFound
        else walk d (loc ++ [name]) rest

/-- Why a path cannot be followed, whatever the disk. It stays folded in the equations of functions
that match on an answer of the disk; these would otherwise run it on the text of a path. -/
@[irreducible] def refusal? (p : Path) : Option Fault :=
  if p.text.toList.contains '\x00' then some .invalidPath
  else if p.text.isEmpty then some .notFound
  else if 4096 ≤ p.text.utf8ByteSize then some .nameTooLong
  else none

/-- Where a path starts. -/
def origin (d : Disk) (p : Path) : Location := if p.isAbsolute then [] else d.cwd

/-- The place that a path names. -/
def locate (d : Disk) (p : Path) : Except Fault Location :=
  match refusal? p with
  | some f => .error f
  | none => d.walk (d.origin p) (Text.pieces '/' p.text.toList)

/-- What a path names. -/
def stat (d : Disk) (p : Path) : Except Fault Node :=
  match d.locate p with
  | .error f => .error f
  | .ok loc =>
    match d.node? loc with
    | some n => .ok n
    | none => .error .notFound

/-- Whether there is something at a path. Only the fault that nothing is there counts as an
answer. -/
def tryExists (d : Disk) (p : Path) : Except Fault Bool :=
  match d.stat p with
  | .ok _ => .ok true
  | .error .notFound => .ok false
  | .error f => .error f

/-- Whether there is something at a path; a fault counts as no. -/
def pathExists (d : Disk) (p : Path) : Bool :=
  match d.stat p with
  | .ok _ => true
  | .error _ => false

/-- Whether the path names a file; a fault counts as no. -/
def isFile (d : Disk) (p : Path) : Bool :=
  match d.stat p with
  | .ok (.file _) => true
  | _ => false

/-- Whether the path names a directory; a fault counts as no. -/
def isDirectory (d : Disk) (p : Path) : Bool :=
  match d.stat p with
  | .ok .directory => true
  | _ => false

/-- The names in a directory, in order. -/
def namesIn (d : Disk) (loc : Location) : List String :=
  ((d.nodes.filterMap fun (l, _) =>
    if l.length = loc.length + 1 && loc.isPrefixOf l then l.getLast? else none).mergeSort
      (fun a b => a ≤ b)).eraseDups

/-- The content of a file. -/
def read (d : Disk) (p : Path) : Except Fault (List UInt8) :=
  match d.stat p with
  | .error f => .error f
  | .ok .directory => .error .isADirectory
  | .ok (.file content) => .ok content

/-- The content of a file as text. -/
def readText (d : Disk) (p : Path) : Except Fault (List Char) :=
  match d.read p with
  | .error f => .error f
  | .ok content =>
    match Utf8.decode? content with
    | some text => .ok text
    | none => .error .invalidText

/-- The directory in which the last name of a path lies, and that name; none where the path ends in
`.` or `..` or has no name. -/
def locateEntry (d : Disk) (p : Path) : Except Fault (Option Location) :=
  match refusal? p with
  | some f => .error f
  | none =>
    let parts := (Text.pieces '/' p.text.toList).filter (· != [])
    match d.walk (d.origin p) (parts.dropLast ++ [[]]) with
    | .error f => .error f
    | .ok loc =>
      match parts.getLast? with
      | none => .ok none
      | some last =>
        if last = ['.'] || last = ['.', '.'] then .ok none
        else if 255 < (String.ofList last).utf8ByteSize then .error .nameTooLong
        else .ok (some (loc ++ [String.ofList last]))

/-- The disk with a new directory. -/
def createDirectory (d : Disk) (p : Path) : Except Fault Disk :=
  match d.locateEntry p with
  | .error f => .error f
  | .ok none => .error .alreadyExists
  | .ok (some loc) =>
    if (d.node? loc).isSome then .error .alreadyExists else .ok (d.put loc .directory)

/-- Makes the first directory of the list, and before it those after it in the list, as far as they
are missing. What was made before a fault stays. -/
def createChain (d : Disk) : List Path → Except Fault Unit × Disk
  | [] => (.ok (), d)
  | p :: parents =>
    if p.text.isEmpty then (.ok (), d)
    else
      match d.createDirectory p with
      | .ok d' => (.ok (), d')
      | .error .notFound =>
        match createChain d parents with
        | (.error f, d') => (.error f, d')
        | (.ok (), d') =>
          match d'.createDirectory p with
          | .ok d'' => (.ok (), d'')
          | .error f => if d'.isDirectory p then (.ok (), d') else (.error f, d')
      | .error f => if d.isDirectory p then (.ok (), d) else (.error f, d)

/-- Makes a directory and all that it lies in, as far as they are missing. -/
def createDirectories (d : Disk) (p : Path) : Except Fault Unit × Disk := d.createChain p.ancestors

/-- The disk with a file written anew. -/
def write (d : Disk) (p : Path) (content : List UInt8) : Except Fault Disk :=
  match d.locateEntry p with
  | .error f => .error f
  | .ok none => .error .isADirectory
  | .ok (some loc) =>
    if d.node? loc = some .directory || p.text.toList.getLast? = some '/' then .error .isADirectory
    else .ok (d.put loc (.file content))

/-- The disk without a file. -/
def removeFile (d : Disk) (p : Path) : Except Fault Disk :=
  match d.locate p with
  | .error f => .error f
  | .ok loc =>
    match d.node? loc with
    | some (.file _) => .ok (d.erase loc)
    | some .directory => .error .isADirectory
    | none => .error .notFound

end Disk

end BuildDiagnostics
