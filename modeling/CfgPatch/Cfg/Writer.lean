import CfgPatch.Node

/-!
# Writing the cfg format

A node is written as its name, its fields and its children between braces on lines of their
own, each level indented once more than the one around it.
-/

namespace CfgPatch.Cfg

/-- The indentation of files that this library writes. -/
def tab : Text := ['\t']

/-- The indentation `indent`, `depth` times. -/
def margin (indent : Text) (depth : Nat) : Text := (List.replicate depth indent).flatten

/-- A line of a document: how often it is indented, and what stands on it. -/
structure Line where
  depth : Nat
  content : Text
deriving DecidableEq, Repr

/-- The line as text, with its end. -/
def Line.text (indent : Text) (line : Line) : Text :=
  margin indent line.depth ++ line.content ++ ['\n']

/-- What stands on the line of a field. -/
def fieldText (f : Field) : Text := f.name ++ " = ".toList ++ f.value

mutual

/-- The lines of a node at the given depth. -/
def nodeLines (depth : Nat) : Node → List Line
  | ⟨name, _, fields, children⟩ =>
    ⟨depth, name⟩ :: ⟨depth, ['{']⟩ ::
      (fields.map (fun f => ⟨depth + 1, fieldText f⟩) ++ lines (depth + 1) children ++
        [⟨depth, ['}']⟩])

/-- The lines of nodes one after another at the given depth. -/
def lines (depth : Nat) : List Node → List Line
  | [] => []
  | node :: nodes => nodeLines depth node ++ lines depth nodes

end

/-- Nodes as the text of a document. -/
def write (indent : Text) (nodes : List Node) : Text := (lines 0 nodes).flatMap (Line.text indent)

end CfgPatch.Cfg
