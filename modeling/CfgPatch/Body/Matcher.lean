import CfgPatch.Constraint

/-!
# Picking nodes from a list

A header read in full picks nodes from a list: those with its name that satisfy its selector
and its constraints, and of these the ones its index is about.
-/

namespace CfgPatch

/-- A header with its selector and constraints read. -/
structure Matcher where
  type : Text
  selector : Option Selector
  constraints : Constraints
  index : Option Index
deriving Repr

namespace Matcher

/-- Reads a matcher. -/
def parse (text : Text) : Except PatchError Matcher :=
  match Header.parse text with
  | .error e => .error e
  | .ok header =>
    let selector := header.selector.map Selector.parse
    match header.constraints with
    | none => .ok ⟨header.type, selector, [], header.index⟩
    | some inner =>
      (Constraints.parse inner).map fun constraints =>
        ⟨header.type, selector, constraints, header.index⟩

/-- Whether a node is a match, the index apart. -/
def accepts (m : Matcher) (node : Node) : Bool :=
  node.isMatch m.type m.selector && m.constraints.satisfiedBy node

/-- The positions of the nodes of a list that are picked. -/
def positions (m : Matcher) (nodes : List Node) : List Nat :=
  Index.pick m.index (Index.positions m.accepts nodes)

/-- The nodes of a list that are picked. -/
def pick (m : Matcher) (nodes : List Node) : List Node :=
  Index.pick m.index (nodes.filter m.accepts)

end Matcher

end CfgPatch
