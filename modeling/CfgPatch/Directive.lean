import CfgPatch.Catalog
import CfgPatch.Constraint

/-!
# Directives

A directive is a root node whose name begins with a command: `@PART[000]:HAS[#aaa]` edits,
`+PART[000]` copies and `-PART[000]` deletes the entries that the rest of the name, a header
without an index, is about. Its constraints are kept as text; they are read when the
directive is applied.
-/

namespace CfgPatch

/-- An entry or a directive as messages name it. A directive that was never an entry has no
number. -/
structure Ref where
  id : Option EntryId
  url : Text
deriving DecidableEq, Repr

/-- A directive, read and ready to be applied. -/
structure Directive where
  /-- The command; a node whose name begins with no command has none. -/
  command : Option Command
  /-- What it is about. -/
  header : Header
  /-- The node, whose body is applied to the targets. -/
  node : Node
  /-- The file it came from. -/
  file : FileId
  /-- The entry it was. -/
  source : Option EntryId
  /-- How messages name it. -/
  url : Text
deriving DecidableEq, Repr

namespace Directive

/-- Reads a directive from a node whose pass segments have been taken out. -/
def ofNode (file : FileId) (fileUrl : Text) (source : Option EntryId) (node : Node) :
    Except PatchError Directive :=
  match Header.parse node.name.tail with
  | .error e => .error e
  | .ok header =>
    if header.index.isSome then .error (.invalidName node.name .rootIndex)
    else
      .ok {
        command := node.name.head?.bind Command.ofSymbol?
        header := header
        node := node
        file := file
        source := source
        url := fileUrl ++ '/' :: node.name }

/-- The selector, read. -/
def selector (d : Directive) : Option Selector := d.header.selector.map Selector.parse

/-- The constraints, read; there may be none. -/
def constraints (d : Directive) : Except PatchError Constraints :=
  match d.header.constraints with
  | none => .ok []
  | some text => Constraints.parse text

/-- How messages name the directive. -/
def ref (d : Directive) : Ref := ⟨d.source, d.url⟩

/-- Whether an edit repeats while its constraints hold. -/
def isLoop (d : Directive) : Bool := d.node.hasChild loopMarker

/-- Whether a node has the name and satisfies the selector, the constraints apart. -/
def targets (d : Directive) (node : Node) : Bool := node.isMatch d.header.type d.selector

end Directive

end CfgPatch
