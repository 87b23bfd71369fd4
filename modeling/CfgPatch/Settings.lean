import CfgPatch.Apply
import CfgPatch.Json.Reader

/-!
# Settings

A project can have a settings file in JSON. Each setting has a default, settings that are not
known do not count, and a known one may be given only once and only with a value of its kind.
Settings can also be given as an array, in the order in which they are declared.
-/

namespace CfgPatch

/-- The settings of a project. -/
structure Settings where
  /-- The directory that is searched for sources. -/
  srcDir : Text := ".".toList
  /-- The known mods, in order. -/
  knownMods : List Text := []
  /-- The directory to which merged files are written. -/
  outDir : Option Text := none
  /-- How many rounds a looping edit may take. -/
  maxRounds : Nat := defaultMaxRounds
  /-- The extension of sources. -/
  extension : Text := "cfg".toList
deriving DecidableEq, Repr

namespace Settings

/-- The name of the settings file. -/
def fileName : Text := "treepatch.config.json".toList

/-! ## Members of an object -/

/-- The value of a setting in an object, if it is given; `none` if it is given twice. -/
def member? (members : List (Json × Json)) (key : String) : Option (Option Json) :=
  match members.filter fun m => m.1.text? = some key.toList with
  | [] => some none
  | [(_, v)] => some (some v)
  | _ => none

/-- The values of settings, in the order of the given keys. -/
def values? (keys : List String) : Json → Option (List (Option Json))
  | .object members =>
    if members.all (·.1.text?.isSome) then keys.mapM (member? members) else none
  | .array items =>
    if items.length ≤ keys.length then
      some (items.map some ++ List.replicate (keys.length - items.length) none)
    else none
  | _ => none

/-- What a setting says: its default unless a value is given, which has to be of its kind. -/
def read? {α : Type} (default : α) (decode : Json → Option α) : Option Json → Option α
  | none => some default
  | some v => decode v

/-! ## Reading -/

/-- The keys of the settings of a project, in the order of declaration. -/
def keys : List String := ["srcDir", "knownMods", "outDir", "maxLoopIterations", "extension"]

/-- A text, or `null` for none. -/
def optionalText? : Json → Option (Option Text)
  | .null => some none
  | v => v.text?.map some

/-- The settings of a project, from JSON. -/
def ofJson? (json : Json) : Option Settings := do
  match ← values? keys json with
  | [srcDir, knownMods, outDir, maxRounds, extension] =>
    let base : Settings := {}
    some {
      srcDir := ← read? base.srcDir Json.text? srcDir
      knownMods := ← read? base.knownMods Json.texts? knownMods
      outDir := ← read? base.outDir optionalText? outDir
      maxRounds := ← read? base.maxRounds Json.index? maxRounds
      extension := ← read? base.extension Json.text? extension }
  | _ => none

/-- Reads the text of a settings file. -/
def parse? (text : Text) : Option Settings := (Json.parse? text).bind ofJson?

/-- The options for a run. -/
def options (s : Settings) : Options := ⟨s.maxRounds⟩

end Settings

namespace Options

/-- The options of a run, from JSON. -/
def ofJson? (json : Json) : Option Options := do
  match ← Settings.values? ["maxLoopIterations"] json with
  | [maxRounds] => some ⟨← Settings.read? defaultMaxRounds Json.index? maxRounds⟩
  | _ => none

/-- Reads options. -/
def parse? (text : Text) : Option Options := (Json.parse? text).bind ofJson?

end Options

end CfgPatch
