import CfgPatch.Body.Edit
import CfgPatch.Extract

/-!
# Applying directives

The directives of the agenda are applied pass by pass. For each one the catalog is looked
through for targets as it is at that moment, so a directive sees what those before it have
done. Copies that a directive makes stand behind the entries it looks through and are none of
its own targets.

A target is replaced, copied or removed only when the whole of the work on it has succeeded.
One that fails stays as it is, the listener is told, and the next one has its turn. If the
listener itself fails while a target is being worked on, the directive goes no further.
-/

namespace CfgPatch

/-! ## Options -/

/-- The number of rounds that an edit may take if nothing else is said. -/
def defaultMaxRounds : Nat := 1000

/-- The settings of a run. -/
structure Options where
  /-- How many rounds a looping edit may take on one target; the first one is always taken. -/
  maxRounds : Nat := defaultMaxRounds
deriving DecidableEq, Repr

/-- How many rounds follow the first one. -/
def Options.moreRounds (o : Options) : Nat := o.maxRounds - 1

/-! ## One target -/

namespace Directive

/-- Edits a node in rounds: once or, if the directive loops, as long as the result satisfies
the constraints. `more` is how many rounds may follow this one, and `done` how many came
before it. -/
def editRounds (l : Listener) (d : Directive) (constraints : Constraints) (scope : Scope)
    (target : Ref) (more done : Nat) (j : Journal) (node : Node) :
    Except Interruption (Journal × Except PatchError Node) := do
  let j ← j.tell l (.updating target d.ref)
  match (Body.apply scope d.node node).toExcept with
  | .error e => .ok (j, .error e)
  | .ok edited =>
    if d.isLoop && constraints.satisfiedBy edited then
      match more with
      | 0 => .ok (j, .error (.loopLimit (done + 1)))
      | more + 1 =>
        d.editRounds l constraints scope target more (done + 1)
          (j.note (.looping d.url target.url)) edited
    else .ok (j, .ok edited)

/-- Edits an entry. -/
def edit (l : Listener) (o : Options) (d : Directive) (constraints : Constraints)
    (catalog : Catalog) (j : Journal) (id : EntryId) (target : Ref) (node : Node) :
    Except Interruption (Journal × Except PatchError Catalog) :=
  (d.editRounds l constraints ⟨catalog, node⟩ target o.moreRounds 0 j node).map
    fun (j, result) => (j, result.map (catalog.setNode id))

/-- Appends an edited copy of an entry, unless it goes by the same name as the entry. -/
def copy (l : Listener) (d : Directive) (catalog : Catalog) (j : Journal) (target : Ref)
    (node : Node) : Except Interruption (Journal × Except PatchError Catalog) :=
  match (Body.apply ⟨catalog, node⟩ d.node node).toExcept with
  | .error e => .ok (j, .error e)
  | .ok duplicate =>
    if duplicate.label? = node.label? then
      (j.tell l (.error d.ref (.sameName target.url))).map fun j => (j, .ok catalog)
    else
      (j.tell l (.copying target d.ref)).map fun j =>
        (j, .ok (catalog.addEntry ⟨d.file, duplicate⟩))

/-- Removes an entry. -/
def delete (l : Listener) (d : Directive) (catalog : Catalog) (j : Journal) (id : EntryId)
    (target : Ref) : Except Interruption (Journal × Except PatchError Catalog) :=
  (j.tell l (.deleting target d.ref)).map fun j => (j, .ok (catalog.remove id))

/-- Does what the command says to one entry. -/
def visit (l : Listener) (o : Options) (d : Directive) (command : Command)
    (constraints : Constraints) (catalog : Catalog) (j : Journal) (id : EntryId) (target : Ref)
    (node : Node) : Except Interruption (Journal × Except PatchError Catalog) :=
  match command with
  | .edit => d.edit l o constraints catalog j id target node
  | .copy => d.copy l catalog j target node
  | .delete => d.delete l catalog j id target

/-! ## All targets -/

/-- Whether a node is a target: its name, the selector and the constraints. -/
def isTarget (d : Directive) (constraints : Constraints) (node : Node) : Bool :=
  d.targets node && constraints.satisfiedBy node

/-- Visits those of the numbered entries that are targets, in order. -/
def visitAll (l : Listener) (o : Options) (d : Directive) (command : Command)
    (constraints : Constraints) :
    List EntryId → Catalog → Journal → Except Interruption (Catalog × Journal)
  | [], catalog, j => .ok (catalog, j)
  | id :: ids, catalog, j =>
    match catalog.get? id with
    | none => d.visitAll l o command constraints ids catalog j
    | some entry =>
      if d.isTarget constraints entry.node then
        let target : Ref := ⟨some id, catalog.urlFor entry.file entry.node.name⟩
        match d.visit l o command constraints catalog j id target entry.node with
        | .error i =>
          (i.journal.tell l (.exception d.ref (.applying target.url) i.reason)).map fun j =>
            (catalog, j)
        | .ok (j, .ok catalog) => d.visitAll l o command constraints ids catalog j
        | .ok (j, .error e) =>
          match j.tell l (.error d.ref (.failed e target.url)) with
          | .error i => .error i
          | .ok j => d.visitAll l o command constraints ids catalog j
      else d.visitAll l o command constraints ids catalog j

/-- Applies a directive to all of its targets. One without a command is passed over. -/
def apply (l : Listener) (o : Options) (d : Directive) (catalog : Catalog) (j : Journal) :
    Except Interruption (Catalog × Journal) :=
  match d.command with
  | none => .ok (catalog, j.note (.noCommand d.url))
  | some command => do
    let (catalog, j) ← match d.constraints with
      | .ok constraints => d.visitAll l o command constraints catalog.ids catalog j
      | .error e => (j.tell l (.error d.ref (.badConstraints e))).map fun j => (catalog, j)
    (j.tell l .applied).map fun j => (catalog, j)

end Directive

/-! ## The whole agenda -/

/-- Applies directives one after another. -/
def applyAll (l : Listener) (o : Options) (ds : List Directive) (catalog : Catalog)
    (j : Journal) : Except Interruption (Catalog × Journal) :=
  ds.foldlM (fun s d => d.apply l o s.1 s.2) (catalog, j)

/-- Applies the directives of a pass. -/
def applyPass (l : Listener) (o : Options) (pass : Pass) (ds : List Directive)
    (catalog : Catalog) (j : Journal) : Except Interruption (Catalog × Journal) :=
  applyAll l o ds catalog (j.note (.pass pass))

/-- Applies the directives of an agenda. -/
def applyAgenda (l : Listener) (o : Options) (a : Agenda) (catalog : Catalog) (j : Journal) :
    Except Interruption (Catalog × Journal) :=
  a.filled.foldlM (fun s bucket => applyPass l o bucket.1 bucket.2 s.1 s.2) (catalog, j)

/-- Extracts the directives of a catalog and applies them. -/
def patch (l : Listener) (o : Options) (mods : List Text) (catalog : Catalog) (j : Journal) :
    Except Interruption (Catalog × Journal) := do
  let x ← extract l mods catalog j
  applyAgenda l o x.agenda x.catalog x.journal

end CfgPatch
