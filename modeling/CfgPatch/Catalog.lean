import CfgPatch.Arena
import CfgPatch.Cfg.Writer

/-!
# The catalog

A catalog holds the root nodes of any number of source files, in the order in which they
were loaded. It is a sound arena: what is known here of an entry is its file and its node, and
its number is the one it was given when it came.

An entry's URL names it in messages: the path of its file without the extension, a slash,
and the name of its node.
-/

namespace CfgPatch

open Text

/-! ## Source files -/

/-- A file name without its extension; a dot at the very front begins no extension. -/
def withoutExtension (name : Text) : Text :=
  match splitLast? (· == '.') name with
  | some (c :: stem, _) => c :: stem
  | _ => name

/-- Drops every `./` in front of a path. -/
def dropHere : Text → Text
  | '.' :: '/' :: t => dropHere t
  | t => t

/-- The URL of the file at a path: slashes forward, no `./` in front, no extension. -/
def fileUrl (path : Text) : Text :=
  let path := dropHere (path.map fun c => if c = '\\' then '/' else c)
  match splitLast? (· == '/') path with
  | some (dir, name) => dir ++ '/' :: withoutExtension name
  | none => withoutExtension path

/-! ## Files and entries -/

/-- A sound arena of source files and entries. -/
structure Catalog extends Arena where
  sound : toArena.Sound
deriving DecidableEq, Repr

namespace Catalog

/-- The catalog with no files and no entries. -/
def empty : Catalog := ⟨.empty, .empty⟩

/-- Registers a file; a path that is known already keeps its number. -/
def addFile (cat : Catalog) (path : Text) : FileId × Catalog :=
  ((cat.toArena.addFile path).1, ⟨(cat.toArena.addFile path).2, cat.sound.addFile path⟩)

/-- The URL of a file; none if the number is unknown. -/
def fileUrl? (cat : Catalog) (file : FileId) : Option Text := cat.files[file]?.map fileUrl

/-- The URL of a node with the given name in a file. -/
def urlFor (cat : Catalog) (file : FileId) (name : Text) : Text :=
  match cat.fileUrl? file with
  | some url => url ++ '/' :: name
  | none => name

/-- The entry with the given number, if it is there. -/
def get? (cat : Catalog) (id : EntryId) : Option Entry := (cat.toArena.get? id).map (·.entry)

/-- Appends an entry. Its number is the number of slots there were before. -/
def addEntry (cat : Catalog) (entry : Entry) : Catalog :=
  ⟨(cat.toArena.addEntry entry).2, cat.sound.addEntry entry⟩

/-- Removes an entry, if it is there. -/
def remove (cat : Catalog) (id : EntryId) : Catalog :=
  ⟨(cat.toArena.remove id).2, cat.sound.remove id⟩

/-- Replaces the node of an entry, if it is there. -/
def setNode (cat : Catalog) (id : EntryId) (node : Node) : Catalog :=
  ⟨cat.toArena.setNode id node, cat.sound.setNode id node⟩

/-- The entries that are there, with their numbers, in order. -/
def entries (cat : Catalog) : List (EntryId × Entry) :=
  cat.occupied.map fun slot => (slot.id, slot.entry)

/-- The numbers of the entries that are there, in order. -/
def ids (cat : Catalog) : List EntryId := cat.entries.map Prod.fst

/-- The nodes of the entries that are there, in order. -/
def nodes (cat : Catalog) : List Node := cat.entries.map (·.2.node)

/-- The entries of one file, in order. -/
def entriesIn (cat : Catalog) (file : FileId) : List (EntryId × Entry) :=
  cat.entries.filter (·.2.file = file)

/-- The URL of an entry that is there. -/
def url? (cat : Catalog) (id : EntryId) : Option Text :=
  (cat.get? id).map fun e => cat.urlFor e.file e.node.name

/-- Reads a source and appends its nodes under the given path. -/
def load (cat : Catalog) (path source : Text) : Except Cfg.Error (Arena.Loaded × Catalog) :=
  let result := cat.toArena.load path source
  result.1.map fun loaded => (loaded, ⟨result.2, cat.sound.load path source⟩)

/-! ## Merged output -/

/-- The files that have entries, each with the nodes it holds, in order. -/
def filled (cat : Catalog) : List (Text × List Node) :=
  (cat.files.zipIdx.map fun (path, file) => (path, (cat.entriesIn file).map (·.2.node))).filter
    fun (_, nodes) => !nodes.isEmpty

/-- The text a file's nodes are written as. -/
def fileText (nodes : List Node) : Text := Cfg.write Cfg.tab nodes

/-- The whole catalog as one document, each file under a comment with its path. -/
def merged (cat : Catalog) : Text :=
  cat.filled.flatMap fun (path, nodes) =>
    "// ".toList ++ path ++ '\n' :: fileText nodes ++ ['\n']

end Catalog

end CfgPatch
