import CfgPatch.Invocation

/-!
# The program

What the program does is decided in `CfgPatch.Invocation` and `CfgPatch.Project`. Here the
part of the disk that a request is about is read, and what came of the request is written and
printed.
-/

namespace CfgPatch

/-- Adds what is at a path, which begins with a slash, to a disk. What cannot be read is left
out. -/
partial def readInto (disk : Disk) (path : Text) : IO Disk := do
  let here := (← IO.currentDir) / String.ofList path
  let loc := Disk.lexical path
  if ← here.isDir then
    if disk.dirs.contains loc then return disk
    let entries ← try here.readDir catch _ => pure #[]
    entries.foldlM (fun disk entry => readInto disk (Path.join path entry.fileName.toList))
      { disk with dirs := loc :: disk.dirs }
  else if (← here.pathExists) && !disk.isFile loc then
    try return { disk with files := (loc, ← IO.FS.readBinFile here) :: disk.files }
    catch _ => return disk
  else return disk

/-- Adds the files and directories on the way to a path, without what is in them. -/
def readWay (disk : Disk) (path : Text) : IO Disk := do
  let way := (List.range (path.length + 1)).filterMap fun n =>
    if path[n]? = some '/' then some (path.take n) else none
  way.foldlM (fun disk path => do
    if ← ((← IO.currentDir) / String.ofList path).isDir then
      return { disk with dirs := disk.dirs ++ [Disk.lexical path] }
    else readInto disk path) disk

/-- The part of the disk that a request is about: the settings, the sources, and the directory
to write to. -/
def readDisk (request : Request) (cwd : Text) : IO Disk := do
  let settingsPath := Path.join cwd Settings.fileName
  let start ← readInto ⟨[], [Disk.lexical cwd]⟩ settingsPath
  let settings := (readSettings start cwd).toOption.getD {}
  let srcDir := request.srcDir settings cwd
  let outDir := ((request.outDir <|> settings.outDir).map (Path.join cwd)).toList
  let disk ← (srcDir :: outDir ++ [settingsPath]).foldlM readInto ⟨[], []⟩
  (srcDir :: outDir).foldlM readWay disk

/-- The path of a location, which begins with a slash. -/
def pathOf (loc : Location) : String := "/" ++ String.ofList (Path.ofComponents (loc.drop 1))

/-- Makes the directories and writes the files that one disk has and another has not, or not
so. -/
def writeChanges (before after : Disk) : IO Unit := do
  for loc in after.dirs do
    if !before.isDir loc then IO.FS.createDirAll (pathOf loc)
  for (loc, content) in after.files do
    if before.file? loc != some content then IO.FS.writeBinFile (pathOf loc) content

/-- Runs the program on the words behind its name; the result is its exit status. -/
def run (words : List String) : IO UInt32 := do
  match Invocation.parse (words.map String.toList) with
  | .error e =>
    IO.eprintln e.message
    IO.eprint usage
    return 2
  | .ok invocation =>
    let cwd := (← IO.currentDir).toString.toList
    let disk ← readDisk invocation.request cwd
    let transcript := invocation.action.run invocation.request cwd disk
    writeChanges disk transcript.disk
    IO.print transcript.stdout
    for line in invocation.noteLines transcript.notes ++ transcript.stderr do
      IO.eprintln line
    match transcript.failure with
    | none => return 0
    | some reason =>
      IO.eprintln ("\nError: " ++ reason ++ "\n")
      return 1

end CfgPatch

/-- The program. -/
def main (words : List String) : IO UInt32 := CfgPatch.run words
