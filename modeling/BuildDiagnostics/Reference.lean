import BuildDiagnostics.Path
import BuildDiagnostics.Text.Case

/-!
# File references

What a toolchain prints in the place of a file need not be one: it may be a tool, an object file or
a library. The tests here look at the text of a reference only.
-/

namespace BuildDiagnostics.Reference

open Text

/-- The endings of files that hold no source text. -/
def binaryExtensions : List String := ["o", "obj", "a", "lib", "so", "dll", "exe", "dylib"]

/-- Whether the reference names an object file, a library or an executable. -/
def hasBinaryExtension (file : List Char) : Bool :=
  match (Path.mk (String.ofList (trim file))).extension? with
  | some e => binaryExtensions.contains (String.ofList (e.map lowerAscii))
  | none => false

/-- Whether the reference is a name without directory and ending. It may be a tool or a file. -/
def isBareName (file : List Char) : Bool :=
  let name := trim file
  !name.isEmpty && !name.any isSlash && (Path.mk (String.ofList name)).extension?.isNone

/-- Whether there may be no source file behind the reference. -/
def isFileLess (file : List Char) : Bool :=
  (trim file).isEmpty || hasBinaryExtension file || isBareName file

/-- Whether the text starts with a drive and a slash, or with two backslashes. -/
def isDriveAbsolute : List Char → Bool
  | '\\' :: '\\' :: _ => true
  | d :: ':' :: s :: _ => isLetterAscii d && isSlash s
  | _ => false

/-- Whether the reference is absolute on some system. -/
def isAbsolute (file : List Char) : Bool := Path.startsAtRoot file || isDriveAbsolute file

end BuildDiagnostics.Reference
