import CfgPatch.Project

/-!
# Invocations

The words behind the name of the program say what is to be done: an action, the directory with
the sources, and options. An option that takes a value is followed by it, as a word of its own
or behind an equals sign.
-/

namespace CfgPatch

open Text

/-- What can be done with a project. -/
inductive Action where
  /-- Apply the directives and deliver the result. -/
  | apply
  /-- Sort the directives and report on them. -/
  | check
deriving DecidableEq, Repr

/-- What comes of an action. -/
def Action.run : Action → Request → (cwd : Text) → Disk → Transcript
  | apply => CfgPatch.apply
  | check => CfgPatch.check

/-- An action with its request. -/
structure Invocation where
  action : Action
  request : Request := {}
  /-- Whether all notes are printed, and not the warnings alone. -/
  verbose : Bool := false
deriving DecidableEq, Repr

/-- Why an invocation cannot be read. -/
inductive UsageError where
  /-- No words at all. -/
  | noAction
  /-- A first word that is no action. -/
  | unknownAction (word : Text)
  /-- An option that there is not. -/
  | unknownOption (word : Text)
  /-- An option at the end that needs a value. -/
  | missingValue (option : Text)
  /-- A format that there is not. -/
  | unknownFormat (word : Text)
  /-- A directory behind the first one. -/
  | secondPath (word : Text)
deriving DecidableEq, Repr

/-- The wording of an error. -/
def UsageError.message : UsageError → String
  | noAction => "an action is missing"
  | unknownAction word => "unknown action '" ++ String.ofList word ++ "'"
  | unknownOption word => "unknown option '" ++ String.ofList word ++ "'"
  | missingValue option => "option '" ++ String.ofList option ++ "' needs a value"
  | unknownFormat word => "unknown format '" ++ String.ofList word ++ "'"
  | secondPath word => "unexpected directory '" ++ String.ofList word ++ "'"

/-- How the program is invoked. -/
def usage : String :=
  "apply [PATH] [--mods A,B] [--out-dir DIR] [--stdout] [--format text|json] [--verbose]\n" ++
    "check [PATH] [--mods A,B] [--format text|json] [--verbose]\n"

/-! ## Options -/

/-- The options with a value. -/
inductive ValueOption where
  /-- Names of mods, with commas in between. -/
  | mods
  | outDir
  | format
deriving DecidableEq, Repr

/-- The option with a value that goes by a name. -/
def ValueOption.ofName? (name : Text) : Option ValueOption :=
  match String.ofList name with
  | "-m" | "--mods" => some .mods
  | "-o" | "--out-dir" => some .outDir
  | "-f" | "--format" => some .format
  | _ => none

namespace Invocation

/-- Takes an option with its value into account. -/
def setValue (i : Invocation) (option : ValueOption) (value : Text) :
    Except UsageError Invocation :=
  let r := i.request
  match option with
  | .mods => .ok { i with request := { r with mods := r.mods ++ split ',' value } }
  | .outDir => .ok { i with request := { r with outDir := some value } }
  | .format =>
    match String.ofList value with
    | "text" => .ok { i with request := { r with format := .text } }
    | "json" => .ok { i with request := { r with format := .json } }
    | _ => .error (.unknownFormat value)

/-- Takes a word into account that is no option with a value: an option without one, or the
directory with the sources. -/
def setWord (i : Invocation) (word : Text) : Except UsageError Invocation :=
  match String.ofList word with
  | "--stdout" => .ok { i with request := { i.request with toStdout := true } }
  | "-v" | "--verbose" => .ok { i with verbose := true }
  | _ =>
    if word.head? = some '-' then .error (.unknownOption word)
    else if i.request.path.isSome then .error (.secondPath word)
    else .ok { i with request := { i.request with path := some word } }

/-- Takes words into account in order; `waiting` is an option whose value is to come. -/
def setWords (i : Invocation) (waiting : Option (ValueOption × Text)) :
    List Text → Except UsageError Invocation
  | [] =>
    match waiting with
    | some (_, name) => .error (.missingValue name)
    | none => .ok i
  | word :: words =>
    match waiting with
    | some (option, _) => do
      let i ← i.setValue option word
      i.setWords none words
    | none =>
      let name := word.takeWhile (· != '=')
      match ValueOption.ofName? name, word.dropWhile (· != '=') with
      | some option, [] => i.setWords (some (option, name)) words
      | some option, _ :: value => do
        let i ← i.setValue option value
        i.setWords none words
      | none, _ => do
        let i ← i.setWord word
        i.setWords none words

/-- Reads an invocation. -/
def parse : List Text → Except UsageError Invocation
  | [] => .error .noAction
  | word :: words =>
    match String.ofList word with
    | "apply" => setWords { action := .apply } none words
    | "check" => setWords { action := .check } none words
    | _ => .error (.unknownAction word)

/-- The lines that are printed besides the report: the notes, as far as they are asked for. -/
def noteLines (i : Invocation) (notes : List Note) : List String :=
  (notes.filter fun n => i.verbose || n.isWarning).map fun n =>
    (if n.isWarning then "WARN " else "INFO ") ++ n.message

end Invocation

end CfgPatch
