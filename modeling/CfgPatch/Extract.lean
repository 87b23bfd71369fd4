import CfgPatch.Agenda
import CfgPatch.Journal

/-!
# Extracting directives

Every entry of a catalog is either data, which stays, or a directive, which leaves the
catalog for the agenda, or it is rejected: it leaves the catalog and does not arrive on the
agenda, and the listener is told why. An entry over which the listener fails is rejected
too, and extraction goes on with the next one.
-/

namespace CfgPatch

open Text

/-! ## Sorting one entry -/

/-- What becomes of an entry. -/
inductive Verdict where
  /-- It is data and stays. -/
  | keep
  /-- It is rejected. -/
  | drop
  /-- It is a directive of a pass; its name is given without its pass segment. -/
  | patch (pass : Pass) (name : Text)
deriving DecidableEq, Repr

/-- The events and the verdict for the directive `ref` whose name, which begins with a
command, was scanned with the given result. -/
def assessDirective (agenda : Agenda) (ref : Ref) (scan : PassScan) : List Event × Verdict :=
  let several := if scan.count > 1 then [Event.error ref .severalPasses] else []
  let malformed := scan.malformed.map fun k => Event.error ref (.malformedPass k)
  if scan.count > 1 || !scan.malformed.isEmpty then (several ++ malformed, .drop)
  else
    match Header.parse scan.stripped.tail with
    | .error e => ([.error ref (.badDirective e)], .drop)
    | .ok _ =>
      match scan.passes with
      | [] => ([], .patch .legacy scan.stripped)
      | pass :: _ =>
        match agenda.canonical? pass, pass with
        | some pass, _ => ([], .patch pass scan.stripped)
        | none, .mod phase _ => ([.missingMod ref phase], .drop)
        | none, _ => ([], .drop)

/-- The events and the verdict for the entry `ref` with the given name. -/
def assess (agenda : Agenda) (ref : Ref) (name : Text) : List Event × Verdict :=
  if !Brackets.balanced name then ([.error ref .unbalancedName], .drop)
  else
    match Verb.ofSymbol (name.headD ' ') with
    | .own command => ([.error ref (.reservedCommand command)], .keep)
    | .insert =>
      (if (scanPasses name).count > 0 then [.error ref .passOnData] else [], .keep)
    | .shared _ => assessDirective agenda ref (scanPasses name)

/-! ## Sorting a catalog -/

/-- The state of an extraction. -/
structure Extraction where
  catalog : Catalog
  agenda : Agenda
  journal : Journal
deriving DecidableEq, Repr

namespace Extraction

/-- Takes an entry out of the catalog. -/
def drop (x : Extraction) (id : EntryId) : Extraction :=
  { x with catalog := x.catalog.remove id }

/-- Tells the listener of an event. -/
def tell (l : Listener) (x : Extraction) (e : Event) : Except Interruption Extraction :=
  (x.journal.tell l e).map fun j => { x with journal := j }

/-- Moves an entry from the catalog to the agenda. -/
def enlist (l : Listener) (x : Extraction) (id : EntryId) (entry : Entry) (ref : Ref)
    (pass : Pass) (name : Text) : Except Interruption Extraction :=
  let x := x.drop id
  let url := (x.catalog.fileUrl? entry.file).getD []
  match Directive.ofNode entry.file url (some id) { entry.node with name := name } with
  | .error e => x.tell l (.error ref (.badDirective e))
  | .ok d =>
    match x.agenda.push? pass d with
    | none => .ok x
    | some agenda => { x with agenda := agenda }.tell l .added

/-- Sorts one entry. -/
def step (l : Listener) (x : Extraction) (id : EntryId) : Except Interruption Extraction :=
  match x.catalog.get? id with
  | none => .ok x
  | some entry =>
    let ref : Ref := ⟨some id, x.catalog.urlFor entry.file entry.node.name⟩
    let (events, verdict) := assess x.agenda ref entry.node.name
    match x.journal.tellAll l events with
    | .error i =>
      ({ x with journal := i.journal }.tell l (.exception ref .sorting i.reason)).map
        (Extraction.drop · id)
    | .ok j =>
      let x := { x with journal := j }
      match verdict with
      | .keep => .ok x
      | .drop => .ok (x.drop id)
      | .patch pass name => x.enlist l id entry ref pass name

end Extraction

/-- Sorts the entries of a catalog, in order, given the known mods. -/
def extract (l : Listener) (mods : List Text) (catalog : Catalog) (journal : Journal) :
    Except Interruption Extraction :=
  (catalog.ids.foldlM (Extraction.step l) ⟨catalog, Agenda.ofMods mods, journal⟩).map fun x =>
    { x with journal := x.journal.note .sorted }

end CfgPatch
