import CfgPatch.Disk
import CfgPatch.Report
import CfgPatch.Settings

/-!
# Projects

A project is a working directory with sources and, possibly, a settings file. Two things can
be done with it: to check its directives, which reads and sorts them, and to apply them, which
writes the merged sources to a directory or to the standard output.

Both are functions from what is on the disk to what is printed and written.
-/

namespace CfgPatch

open Text

/-! ## Requests and transcripts -/

/-- How a report is printed. -/
inductive Format where
  | text
  | json
deriving DecidableEq, Repr

/-- What is asked for on the command line. -/
structure Request where
  /-- The directory with the sources; settings say which if this does not. -/
  path : Option Text := none
  /-- The known mods; those of the settings if there are none. -/
  mods : List Text := []
  /-- The directory to write to; settings say which if this does not. -/
  outDir : Option Text := none
  /-- Whether merged sources are printed even if there is a directory to write to. -/
  toStdout : Bool := false
  format : Format := .text
deriving DecidableEq, Repr

/-- What came of a request. -/
structure Transcript where
  /-- Why the request failed, if it did. -/
  failure : Option String := none
  stdout : String := ""
  /-- What is printed on the other channel, in order; a line may be several. -/
  stderr : List String := []
  notes : List Note := []
  /-- The disk as it was left. -/
  disk : Disk

namespace Transcript

/-- Prints on the standard output. -/
def print (t : Transcript) (s : String) : Transcript := { t with stdout := t.stdout ++ s }

/-- Prints lines on the other channel. -/
def warn (t : Transcript) (lines : List String) : Transcript :=
  { t with stderr := t.stderr ++ lines }

/-- Ends with a failure. -/
def fail (t : Transcript) (reason : String) : Transcript := { t with failure := some reason }

end Transcript

/-! ## Reading a project -/

/-- The known mods of a request: those it names, without blanks, or else those of the
settings. -/
def Request.knownMods (r : Request) (s : Settings) : List Text :=
  if r.mods.isEmpty then s.knownMods else (r.mods.map trim).filter (!·.isEmpty)

/-- The directory with the sources of a request. -/
def Request.srcDir (r : Request) (s : Settings) (cwd : Text) : Text :=
  Path.join cwd (r.path.getD s.srcDir)

/-- The settings of the project in a directory. -/
def readSettings (disk : Disk) (cwd : Text) : Except String Settings :=
  let path := Path.join cwd Settings.fileName
  match disk.locate? path with
  | none => .ok {}
  | some loc =>
    match disk.file? loc with
    | none => .error DiskError.isADirectory.message
    | some content =>
      match Disk.text? content with
      | none => .error DiskError.notText.message
      | some text =>
        match Settings.parse? text with
        | some s => .ok s
        | none => .error ("Invalid " ++ String.ofList path)

/-- The sources below a directory, or the directory itself if it is a source file: their
paths and locations, in order. -/
def findSources (disk : Disk) (srcDir : Text) (loc : Location) (extension : Text) :
    List (Text × Location) :=
  ((disk.filesUnder loc).filter fun file =>
    ((file.getLast?.bind Path.extension?).any (sameLetters extension ·))).map fun file =>
      let below := file.drop loc.length
      (below.foldl Path.join srcDir, file)

/-- The sources of a project, loaded. -/
structure Sources where
  catalog : Catalog := Catalog.empty
  /-- The number of sources that could not be parsed. -/
  failures : Nat := 0
  /-- A line for each of those. -/
  lines : List String := []
  /-- A note for each field that stands in no node. -/
  notes : List Note := []

/-- Loads one source. -/
def Sources.load (s : Sources) (name text : Text) : Sources :=
  match s.catalog.load name text with
  | .ok (loaded, catalog) =>
    { s with catalog := catalog, notes := s.notes ++ loaded.loose.map Note.looseField }
  | .error e =>
    { s with failures := s.failures + 1,
             lines := s.lines ++ [String.ofList name ++ ": " ++ e.message] }

/-- Loads sources in order; the error is the path of one that is no text, with what was
loaded before it. -/
def loadSources (disk : Disk) (srcDir : Text) :
    Sources → List (Text × Location) → Except (Text × Sources) Sources
  | s, [] => .ok s
  | s, (path, loc) :: rest =>
    match (disk.file? loc).bind Disk.text? with
    | none => .error (path, s)
    | some text => loadSources disk srcDir (s.load (Path.relative srcDir path) text) rest

/-- A project that has been read. -/
structure Loaded where
  settings : Settings
  sources : Sources

/-- Reads the project of a request, or says how the request ends. -/
def readProject (r : Request) (cwd : Text) (disk : Disk) : Except Transcript Loaded :=
  let start : Transcript := { disk := disk }
  match readSettings disk cwd with
  | .error reason => .error (start.fail reason)
  | .ok settings =>
    let srcDir := r.srcDir settings cwd
    match disk.locate? srcDir with
    | none => .error (start.fail ("Source directory does not exist: " ++ String.ofList srcDir))
    | some loc =>
      match loadSources disk srcDir {} (findSources disk srcDir loc settings.extension) with
      | .error (path, s) =>
        .error (({ start with notes := s.notes }.warn s.lines).fail
          ("Cannot read " ++ String.ofList path))
      | .ok s => .ok ⟨settings, s⟩

/-! ## Printing -/

/-- Prints the report on a run. -/
def Transcript.report (t : Transcript) (format : Format) (events : List Event) : Transcript :=
  match format with
  | .text => t.warn ((reportLines events).map ("  " ++ ·) ++ [summaryLine events])
  | .json => t.print (String.ofList (Json.write 0 (reportJson events)) ++ "\n")

/-- Fails if there were errors. -/
def Transcript.conclude (t : Transcript) (errors : Nat) (doing : String) : Transcript :=
  if errors = 0 then t else t.fail (toString errors ++ " errors " ++ doing)

/-! ## Checking -/

/-- Sorts the directives of a project and reports on them. -/
def check (r : Request) (cwd : Text) (disk : Disk) : Transcript :=
  match readProject r cwd disk with
  | .error t => t
  | .ok ⟨settings, sources⟩ =>
    let start : Transcript := { disk := disk, notes := sources.notes, stderr := sources.lines }
    match extract .calm (r.knownMods settings) sources.catalog .empty with
    | .error i => start.fail (exceptionText i.reason)
    | .ok x =>
      let events := x.journal.events
      let t := { start with notes := start.notes ++ x.journal.notes }
      let t := match r.format with
        | .text =>
          t.print (String.join (x.agenda.summary.map (· ++ "\n")) ++
            toString x.catalog.size ++ " data entries\n")
        | .json => t
      (t.report r.format events).conclude (sources.failures + failureCount events) "in patches"

/-! ## Applying -/

/-- Writes the files of a catalog below a directory: how many were written, or why that
failed, and the disk as it was left. -/
def writeFiles (outDir : Text) : List (Text × List Node) → Nat → Disk → Except DiskError Nat × Disk
  | [], count, disk => (.ok count, disk)
  | (path, nodes) :: rest, count, disk =>
    let components := Path.components (Path.join outDir path)
    match Disk.makeDirs components.dropLast.reverse disk with
    | (some e, disk) => (.error e, disk)
    | (none, disk) =>
      -- An empty path ends in a slash behind the directory, and so names no file.
      if path.isEmpty then (.error .isADirectory, disk)
      else
        match disk.writeFile components (String.ofList (Catalog.fileText nodes)).toUTF8 with
        | .error e => (.error e, disk)
        | .ok disk => writeFiles outDir rest (count + 1) disk

/-- Writes the result of a run to a directory, or prints it. -/
def Transcript.deliver (t : Transcript) (r : Request) (outDir : Option Text) (cwd : Text)
    (catalog : Catalog) : Transcript :=
  match if r.toStdout then none else outDir with
  | some out =>
    let out := Path.join cwd out
    match writeFiles out catalog.filled 0 t.disk with
    | (.ok count, disk) =>
      { t with disk := disk }.warn
        ["✓ Wrote " ++ toString count ++ " files to " ++ String.ofList out]
    | (.error e, disk) => { t with disk := disk }.fail e.message
  | none =>
    match r.format with
    | .text => t.print (String.ofList catalog.merged)
    | .json => t

/-- Applies the directives of a project, reports on it, and delivers the result. -/
def apply (r : Request) (cwd : Text) (disk : Disk) : Transcript :=
  match readProject r cwd disk with
  | .error t => t
  | .ok ⟨settings, sources⟩ =>
    let start : Transcript := { disk := disk, notes := sources.notes, stderr := sources.lines }
    match patch .calm settings.options (r.knownMods settings) sources.catalog
        (Journal.empty.note .loaded) with
    | .error i => start.fail (exceptionText i.reason)
    | .ok (catalog, journal) =>
      let events := journal.events
      let t := { start with notes := start.notes ++ journal.notes }.report r.format events
      let t := t.deliver r (r.outDir <|> settings.outDir) cwd catalog
      if t.failure.isSome then t
      else t.conclude (sources.failures + failureCount events) "while patching"

end CfgPatch
