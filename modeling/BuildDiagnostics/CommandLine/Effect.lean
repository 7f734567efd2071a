import BuildDiagnostics.Cache
import BuildDiagnostics.CommandLine.Basic
import BuildDiagnostics.Settings

/-!
# What the command line changes

The command line wins over the settings file and the environment. It also names the directories in
which references are looked for: where only the binary directory is named, the cache in it can tell
the source directory.
-/

namespace BuildDiagnostics.CommandLine

/-- The settings with those of the command line. -/
def apply (c : CommandLine) (s : Settings) : Settings where
  parse := s.parse
  grammars := (c.grammars.map Settings.namesOfList).or s.grammars
  encoding := c.encoding.or s.encoding
  orphans := c.orphans.or s.orphans

/-- The command line with the source directory that the cache in the binary directory tells, where
none is named and there is a cache. -/
def inferSource (c : CommandLine) (d : Disk) : Except Failure (CommandLine × List Warning) :=
  match c.sourceDirectory, c.binaryDirectory with
  | none, some binary =>
    let file := binary.join Cache.fileName
    if d.isFile file then
      match Cache.load d file with
      | .error e => .error e
      | .ok (cache, warnings) => .ok ({ c with sourceDirectory := cache.sourceDirectory }, warnings)
    else .ok (c, [])
  | _, _ => .ok (c, [])

/-- The directories in which references are looked for, the binary directory first. -/
def baseDirectories (c : CommandLine) (fallback : Path) : List Path :=
  let named := c.binaryDirectory.toList ++ c.sourceDirectory.toList ++ c.searchDirectories
  if named.isEmpty then [fallback] else named

end BuildDiagnostics.CommandLine
