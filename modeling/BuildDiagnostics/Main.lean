import BuildDiagnostics.Program

/-!
# The command

Takes up from the system what a run can look at, runs the program on it, prints what it prints, and
carries over to the system what it changed. No tables of East Asian characters are at hand here, so
a line that needs one counts as rejected by its encoding.
-/

namespace BuildDiagnostics.Main

/-- The place that an absolute path names. -/
def locationOf (path : String) : Location :=
  (Path.mk path).components.filterMap fun
    | .name s => some s
    | _ => none

/-- A place as an absolute path. -/
def pathOf (loc : Location) : String := "/" ++ "/".intercalate loc

/-- The place of a path that may be relative. -/
def placeOf (cwd : Location) (p : Path) : Location :=
  if p.isAbsolute then locationOf p.text
  else locationOf ((Path.mk (pathOf cwd)).join p.text).normalize.text

/-- The files whose content a run can look at. -/
def filesToRead (c : CommandLine) : List Path :=
  c.settings.toList ++ [⟨Settings.fileName⟩] ++
    (c.binaryDirectory.toList.map (·.join Cache.fileName)) ++ c.log.toList ++ c.command.map .mk

/-- The directories in which a run can look for files. -/
def directoriesToSearch (c : CommandLine) : List Path :=
  c.baseDirectories ⟨"."⟩ ++ c.orphans.toList ++ [⟨"."⟩]

/-- What is at a place, with its content only if that is wanted. -/
def nodeAt (wanted : List Location) (loc : Location) : IO (Option (Location × Node)) := do
  let path := (← IO.currentDir) / pathOf loc
  if ← path.isDir then return some (loc, .directory)
  if !(← path.pathExists) then return none
  if wanted.contains loc then
    try
      return some (loc, .file (← IO.FS.readBinFile path).toList)
    catch _ => return some (loc, .file [])
  return some (loc, .file [])

/-- What is under a directory, as many levels down as the number says. -/
def nodesUnder (wanted : List Location) : Nat → Location → IO (List (Location × Node))
  | 0, _ => return []
  | depth + 1, loc => do
    let path := (← IO.currentDir) / pathOf loc
    if !(← path.isDir) then return []
    let entries ← try path.readDir catch _ => pure #[]
    let mut nodes := []
    for entry in entries do
      let place := loc ++ [entry.fileName]
      match ← nodeAt wanted place with
      | some (p, .directory) => nodes := (p, .directory) :: nodes ++ (← nodesUnder wanted depth p)
      | some n => nodes := n :: nodes
      | none => pure ()
    return nodes

/-- The number of levels of directories that are looked at. -/
def maxDepth : Nat := 32

/-- The disk that a run can look at. -/
def takeUp (c : CommandLine) : IO Disk := do
  let cwd := locationOf (← IO.currentDir).toString
  let wanted := (filesToRead c).map (placeOf cwd)
  let roots := ((directoriesToSearch c).map (placeOf cwd)).eraseDups
  let mut disk : Disk := { nodes := [], cwd := cwd }
  for loc in roots ++ wanted do
    for n in List.range (loc.length + 1) do
      if let some (p, node) ← nodeAt wanted (loc.take n) then disk := disk.put p node
  let mut nodes := []
  for root in roots do
    nodes := nodes ++ (← nodesUnder wanted maxDepth root)
  return { disk with nodes := nodes ++ disk.nodes }

/-- Makes the changes from one disk to another in the system. -/
def carryOver (before after : Disk) : IO Unit := do
  for (loc, _) in before.nodes do
    if (after.node? loc).isNone then
      try IO.FS.removeFile (pathOf loc) catch _ => pure ()
  for (loc, node) in after.nodes.reverse do
    if before.node? loc != some node then
      match node with
      | .directory => IO.FS.createDirAll (pathOf loc)
      | .file content => IO.FS.writeBinFile (pathOf loc) ⟨content.toArray⟩

/-- The variables that a run looks at. -/
def environment : IO Environment := do
  let mut env : Environment := {}
  for name in ["TMPDIR", Settings.encodingVariable, Settings.grammarsVariable] do
    if let some value ← IO.getEnv name then env := env.set name value
  return env

end BuildDiagnostics.Main

open BuildDiagnostics BuildDiagnostics.Main in
/-- Runs the program on the arguments. -/
def main (args : List String) : IO UInt32 := do
  let c := (CommandLine.ofArguments args).toOption.getD {}
  let disk ← takeUp c
  let result := Program.run disk (← environment) args {}
  IO.print result.transcript.output
  IO.eprint result.transcript.error
  carryOver disk result.disk
  return result.code.toUInt32
