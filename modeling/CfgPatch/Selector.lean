import CfgPatch.Node

/-!
# Selectors

A selector picks nodes by their `name` value: it is a list of patterns between bars, any of
which may match. In a pattern `*` and `?` each stand for exactly one character and every
other character stands for itself.
-/

namespace CfgPatch

open Text

/-- Whether a text matches a pattern. -/
def wildcardMatch : (pattern text : Text) → Bool
  | [], [] => true
  | p :: pattern, c :: text => (p == '*' || p == '?' || p == c) && wildcardMatch pattern text
  | _, _ => false

/-- Alternative patterns for the name of a node. -/
structure Selector where
  alternatives : List Text
deriving DecidableEq, Repr

namespace Selector

/-- Reads the patterns between the bars; blanks around a pattern do not count. -/
def parse (text : Text) : Selector := ⟨(split '|' text).map trim⟩

/-- Whether a name satisfies the selector. A node that has no name never does. -/
def accepts (s : Selector) : Option Text → Bool
  | some name => s.alternatives.any (wildcardMatch · name)
  | none => false

end Selector

/-- Whether a node has the given name and satisfies the selector, if there is one. -/
def Node.isMatch (node : Node) (type : Text) (selector : Option Selector) : Bool :=
  node.name == type && selector.all (·.accepts node.label?)

end CfgPatch
