import CfgPatch.Path

/-!
# Files and directories

A project is read from and written to a disk, which is a list of files with their content.
Every file has a location, the components that lead to it. The directories are those that
the files are in, and some that may be empty.
-/

namespace CfgPatch

open Text

/-- The components that lead to a file or directory. -/
abbrev Location := List Text

/-- Files with their content, and directories that may have no files. -/
structure Disk where
  files : List (Location × ByteArray)
  dirs : List Location

/-- Why a file or directory cannot be made. -/
inductive DiskError where
  /-- There is nothing at a place on the way. -/
  | notFound
  /-- A file stands where a directory should be. -/
  | fileExists
  /-- A file stands on the way. -/
  | notADirectory
  /-- A directory stands where a file should be. -/
  | isADirectory
  /-- The content of a file is no text. -/
  | notText
deriving DecidableEq, Repr

/-- The wording of an error. -/
def DiskError.message : DiskError → String
  | notFound => "No such file or directory (os error 2)"
  | fileExists => "File exists (os error 17)"
  | notADirectory => "Not a directory (os error 20)"
  | isADirectory => "Is a directory (os error 21)"
  | notText => "stream did not contain valid UTF-8"

namespace Disk

/-! ## Looking -/

/-- The content of a file. -/
def file? (disk : Disk) (loc : Location) : Option ByteArray :=
  (disk.files.find? (·.1 = loc)).map (·.2)

/-- Whether there is a file. -/
def isFile (disk : Disk) (loc : Location) : Bool := (disk.file? loc).isSome

/-- Whether there is a directory. The root always is one. -/
def isDir (disk : Disk) (loc : Location) : Bool :=
  loc.isEmpty || loc = [['/']] || disk.dirs.any loc.isPrefixOf ||
    disk.files.any fun f => loc.isPrefixOf f.1 && loc != f.1

/-- Whether there is a file or directory. -/
def exists? (disk : Disk) (loc : Location) : Bool := disk.isFile loc || disk.isDir loc

/-- Goes one step on from a location, which has to be a directory. Two dots lead to the
directory it is in, and from the root to the root. -/
def step (disk : Disk) (loc : Location) (segment : Text) : Except DiskError Location :=
  if disk.isDir loc then
    if segment.isEmpty || segment = ['.'] then .ok loc
    else if segment = ['.', '.'] then .ok (if loc = [['/']] then loc else loc.dropLast)
    else .ok (loc ++ [segment])
  else if disk.isFile loc then .error .notADirectory
  else .error .notFound

/-- The location that components lead to; there may be nothing at the end. -/
def walk (disk : Disk) (components : List Text) : Except DiskError Location :=
  components.foldlM disk.step []

/-- The location at the end of a path, if there is a file or directory. -/
def locate? (disk : Disk) (path : Text) : Option Location := do
  let segments := if path.head? = some '/' then ['/'] :: split '/' path.tail else split '/' path
  let loc ← (disk.walk segments).toOption
  if disk.exists? loc then some loc else none

/-- The location at the end of a path whether or not anything is there. -/
def lexical (path : Text) : Location :=
  (Path.components path).foldl
    (fun loc c => if c = ['.', '.'] then loc.dropLast else if c = ['.'] then loc else loc ++ [c]) []

/-- The text of a file. -/
def text? (content : ByteArray) : Option Text := (String.fromUTF8? content).map String.toList

/-- The files in a directory and those in it, in the order of their names. -/
def filesUnder (disk : Disk) (loc : Location) : List Location :=
  ((disk.files.map (·.1)).filter loc.isPrefixOf).mergeSort fun a b => !b.lex a isBefore

/-! ## Writing -/

/-- Makes a directory, unless there is something already. -/
def makeDir (disk : Disk) (components : List Text) : Except DiskError Disk := do
  let loc ← disk.walk components
  if disk.exists? loc then .error .fileExists else .ok { disk with dirs := disk.dirs ++ [loc] }

/-- Makes a directory if there is none. -/
def ensureDir (disk : Disk) (components : List Text) : Except DiskError Disk :=
  match disk.makeDir components with
  | .ok disk => .ok disk
  | .error e => if (disk.walk components).toOption.any disk.isDir then .ok disk else .error e

/-- Makes a directory and those on the way to it: where one on the way is missing, what leads
there is made first. The last component comes first. What has been made stays if there is an
error. -/
def makeDirs : (reversed : List Text) → Disk → Option DiskError × Disk
  | [], disk => (none, disk)
  | last :: front, disk =>
    let components := (last :: front).reverse
    match disk.ensureDir components with
    | .ok disk => (none, disk)
    | .error .notFound =>
      match makeDirs front disk with
      | (none, disk) =>
        match disk.ensureDir components with
        | .ok disk => (none, disk)
        | .error e => (some e, disk)
      | failed => failed
    | .error e => (some e, disk)

/-- Writes a file whose directory exists. -/
def writeFile (disk : Disk) (components : List Text) (content : ByteArray) :
    Except DiskError Disk := do
  let loc ← disk.walk components
  if disk.isDir loc then .error .isADirectory
  else .ok { disk with files := disk.files.filter (·.1 ≠ loc) ++ [(loc, content)] }

end Disk

end CfgPatch
