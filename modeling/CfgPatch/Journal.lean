import CfgPatch.Directive
import CfgPatch.Pass

/-!
# The journal of a run

Everything that happens in a run is told to a listener, one event at a time, and noted in
the journal. A listener may fail instead of taking an event. The step that told it is then
interrupted; an interruption carries the journal as it was at that moment, so nothing that
was told before is lost. A failed call is kept in the journal as a call, but not as an event.

Notes are a second, quieter channel: they trace what a run does and nobody can fail on them.
-/

namespace CfgPatch

/-! ## Events -/

/-- What is wrong with an entry, or with a directive as it is applied. -/
inductive Problem where
  /-- Brackets of the name do not balance. -/
  | unbalancedName
  /-- A command of bodies in front of a root node. -/
  | reservedCommand (command : BodyCommand)
  /-- A pass segment on a node that is no directive. -/
  | passOnData
  /-- More than one pass segment. -/
  | severalPasses
  /-- A pass segment with a mod too many or too few. -/
  | malformedPass (keyword : Keyword)
  /-- A name that makes no directive. -/
  | badDirective (error : PatchError)
  /-- Constraints that cannot be read. -/
  | badConstraints (error : PatchError)
  /-- A body that cannot be applied to a target. -/
  | failed (error : PatchError) (target : Text)
  /-- A copy that goes by the same name as what it is a copy of. -/
  | sameName (target : Text)
deriving DecidableEq, Repr

/-- What was being done when a listener failed. -/
inductive Activity where
  /-- Deciding what an entry is. -/
  | sorting
  /-- Applying a directive to a target. -/
  | applying (target : Text)
deriving DecidableEq, Repr

/-- What a run tells its listener. -/
inductive Event where
  /-- A directive was found. -/
  | added
  /-- A directive has been applied to all of its targets. -/
  | applied
  /-- A directive is about to be applied to a target. -/
  | updating (target patch : Ref)
  /-- A copy of a target is about to be appended. -/
  | copying (source patch : Ref)
  /-- A target is about to be removed. -/
  | deleting (target patch : Ref)
  /-- The pass of a directive belongs to a mod that is not known. -/
  | missingMod (entry : Ref) (phase : Phase)
  /-- Something is wrong with an entry or a directive. -/
  | error (entry : Ref) (problem : Problem)
  /-- The listener failed with the given reason. -/
  | exception (entry : Ref) (activity : Activity) (reason : Text)
deriving DecidableEq, Repr

/-- The wording of a problem of the entry with the given URL. -/
def Problem.message (url : Text) : Problem → String
  | unbalancedName =>
    "Error - node name does not have balanced brackets (or a space - if so replace with ?):\n" ++
      String.ofList url
  | reservedCommand command =>
    "Error - " ++ command.word ++ " command (" ++ command.symbol.toString ++
      ") is not valid on a root node: " ++ String.ofList url
  | passOnData =>
    "Error - pass specifier detected on an insert node (not a patch): " ++ String.ofList url
  | severalPasses => "Error - more than one pass specifier on a node: " ++ String.ofList url
  | malformedPass keyword =>
    "Error - malformed :" ++ keyword.word ++ " patch specifier detected: " ++ String.ofList url
  | badDirective e => "Error - " ++ e.message ++ ": " ++ String.ofList url
  | badConstraints e => "Error - " ++ e.message ++ " in " ++ String.ofList url
  | failed e target =>
    "Error - " ++ e.message ++ " when applying " ++ String.ofList url ++ " to " ++
      String.ofList target
  | sameName target =>
    "Error - when applying copy " ++ String.ofList url ++ " to " ++ String.ofList target ++
      " - the copy needs to have a different name than the parent (use @name = xxx)"

/-- The wording of an activity that concerns the entry with the given URL. -/
def Activity.message (url : Text) : Activity → String
  | sorting => "Exception while parsing pass for config: " ++ String.ofList url
  | applying target =>
    "Exception while applying " ++ String.ofList url ++ " to " ++ String.ofList target

/-- The wording of the reason why a listener failed. -/
def exceptionText (reason : Text) : String := "panic: " ++ String.ofList reason

/-! ## Notes -/

/-- What a run traces. -/
inductive Note where
  /-- The sources of a project have been read. -/
  | loaded
  /-- A field of a source stands in no node. -/
  | looseField (f : Field)
  /-- Every entry has been sorted. -/
  | sorted
  /-- The directives of a pass are about to be applied. -/
  | pass (pass : Pass)
  /-- An edit is about to be repeated. -/
  | looping (patch target : Text)
  /-- A directive has no command. -/
  | noCommand (patch : Text)
deriving DecidableEq, Repr

/-- Whether a note is a warning. -/
def Note.isWarning : Note → Bool
  | looseField _ | noCommand _ => true
  | _ => false

/-- The wording of a note. -/
def Note.message : Note → String
  | loaded => "Loaded sources"
  | looseField f =>
    "Ignoring top-level value " ++ String.ofList f.name ++ " = " ++ String.ofList f.value
  | sorted => "Extraction complete"
  | pass _ => "Applying pass"
  | looping patch target =>
    "Looping on " ++ String.ofList patch ++ " to " ++ String.ofList target
  | noCommand patch => "Invalid command encountered on a patch: " ++ String.ofList patch

/-! ## Listeners and the journal -/

/-- A call to a listener. -/
structure Call where
  event : Event
  /-- Whether the listener took the event; if not, it failed. -/
  taken : Bool
deriving DecidableEq, Repr

/-- A listener: the reason why it fails on an event, if it does, which may depend on the calls
before it, the latest first. -/
structure Listener where
  refusal : List Call → Event → Option Text

/-- The listener that never fails. -/
def Listener.calm : Listener := ⟨fun _ _ => none⟩

/-- The listener that fails on one of the events of some kind, counted from zero. -/
def Listener.failingAt (isKind : Event → Bool) (nth : Nat) (reason : Text) : Listener :=
  ⟨fun past e => if isKind e && past.countP (isKind ·.event) == nth then some reason else none⟩

/-- What has happened in a run so far, the latest first. -/
structure Journal where
  /-- The calls to the listener. -/
  calls : List Call
  /-- The notes. -/
  trace : List Note
deriving DecidableEq, Repr

/-- A step that ended because the listener failed. -/
structure Interruption where
  reason : Text
  journal : Journal
deriving DecidableEq, Repr

namespace Journal

/-- The journal before anything has happened. -/
def empty : Journal := ⟨[], []⟩

/-- The events that the listener took, in order. -/
def events (j : Journal) : List Event := ((j.calls.filter (·.taken)).map (·.event)).reverse

/-- The notes, in order. -/
def notes (j : Journal) : List Note := j.trace.reverse

/-- Adds a note. -/
def note (j : Journal) (n : Note) : Journal := { j with trace := n :: j.trace }

/-- Tells the listener of an event. -/
def tell (l : Listener) (j : Journal) (e : Event) : Except Interruption Journal :=
  match l.refusal j.calls e with
  | none => .ok { j with calls := ⟨e, true⟩ :: j.calls }
  | some reason => .error ⟨reason, { j with calls := ⟨e, false⟩ :: j.calls }⟩

/-- Tells the listener of several events in order. -/
def tellAll (l : Listener) (j : Journal) (es : List Event) : Except Interruption Journal :=
  es.foldlM (tell l) j

end Journal

end CfgPatch
