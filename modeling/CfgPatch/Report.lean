import CfgPatch.Journal
import CfgPatch.Json.Writer

/-!
# Reports

A report tells what a run found and did: as lines for a reader, which leave the bookkeeping
out, or as JSON with every event.
-/

namespace CfgPatch

open Json

/-! ## Counts -/

/-- Whether an event is a failure. -/
def Event.isFailure : Event → Bool
  | .error .. | .exception .. => true
  | _ => false

/-- Whether an event is an error. -/
def Event.isError : Event → Bool
  | .error .. => true
  | _ => false

/-- Whether an event is an exception. -/
def Event.isException : Event → Bool
  | .exception .. => true
  | _ => false

/-- The number of directives found. -/
def addedCount (es : List Event) : Nat := es.countP (· == .added)

/-- The number of directives applied. -/
def appliedCount (es : List Event) : Nat := es.countP (· == .applied)

/-- The number of failures. -/
def failureCount (es : List Event) : Nat := es.countP Event.isFailure

/-- Whether there are failures. -/
def hasFailures (es : List Event) : Bool := es.any Event.isFailure

/-! ## Lines -/

/-- The line for an event; bookkeeping has none. -/
def Event.line? : Event → Option String
  | .error entry problem => some ("✗ " ++ problem.message entry.url)
  | .exception entry activity reason =>
    some ("✗ " ++ activity.message entry.url ++ ": " ++ exceptionText reason)
  | .missingMod entry phase =>
    some ("- " ++ String.ofList entry.url ++ " skipped, :" ++ phase.keyword ++
      " mod is not installed")
  | _ => none

/-- The lines for events, in order. -/
def reportLines (es : List Event) : List String := es.filterMap Event.line?

/-- The line that sums events up. -/
def summaryLine (es : List Event) : String :=
  (if failureCount es = 0 then "✓ " else "⚠ ") ++ toString (addedCount es) ++
    " patches found, " ++ toString (appliedCount es) ++ " applied, " ++
    toString (failureCount es) ++ " errors"

/-! ## JSON -/

/-- A reference as JSON. -/
def Ref.toJson (r : Ref) : Json :=
  ofMembers [("id", match r.id with
    | some n => ofNat n
    | none => .null), ("url", .string r.url)]

/-- The word for a phase in JSON. -/
def Phase.word (p : Phase) : String := String.ofList (p.keyword.toList.map Char.toLower)

/-- An event as JSON. -/
def Event.toJson : Event → Json
  | .added => ofMembers [("event", ofString "patch_added")]
  | .applied => ofMembers [("event", ofString "patch_applied")]
  | .updating target patch =>
    ofMembers [("event", ofString "applying_update"), ("target", target.toJson),
      ("patch", patch.toJson)]
  | .copying source patch =>
    ofMembers [("event", ofString "applying_copy"), ("original", source.toJson),
      ("patch", patch.toJson)]
  | .deleting target patch =>
    ofMembers [("event", ofString "applying_delete"), ("target", target.toJson),
      ("patch", patch.toJson)]
  | .missingMod entry phase =>
    ofMembers [("event", ofString "needs_unsatisfied"), ("entry", entry.toJson),
      ("pass", ofString phase.word)]
  | .error entry problem =>
    ofMembers [("event", ofString "error"), ("entry", entry.toJson),
      ("message", ofString (problem.message entry.url))]
  | .exception entry activity reason =>
    ofMembers [("event", ofString "exception"), ("entry", entry.toJson),
      ("message", ofString (activity.message entry.url)),
      ("error", ofString (exceptionText reason))]

/-- The report on events as JSON. -/
def reportJson (es : List Event) : Json :=
  ofMembers [("patchesAdded", ofNat (addedCount es)), ("patchesApplied", ofNat (appliedCount es)),
    ("errors", ofNat (failureCount es)), ("events", .array (es.map Event.toJson))]

end CfgPatch
