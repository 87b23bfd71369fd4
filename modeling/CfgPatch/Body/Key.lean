import CfgPatch.Header
import CfgPatch.Operator

/-!
# Keys of a body

The key of a field in a body says what is to be done: a command in front, the name of the
values it is about, an index behind a comma, and an operator behind a blank. Only the name is
always there, and only an edit may have an operator.
-/

namespace CfgPatch

open Text

/-- A key, read. -/
structure Key where
  verb : Verb
  /-- The character of the command. -/
  symbol : Char
  name : Text
  index : Option Index
  operator : Operator
deriving DecidableEq, Repr

namespace Key

/-- Cuts the operator off a key. -/
def cutOperator (raw : Text) : Text × Operator :=
  match splitLast? isBlank raw with
  | some (head, [c]) =>
    match Operator.ofSymbol? c with
    | some op => (trimEnd head, op)
    | none => (raw, .assign)
  | _ => (raw, .assign)

/-- Cuts the index off a key; `raw` is the text that messages quote. -/
def cutIndex (raw t : Text) : Except PatchError (Text × Option Index) :=
  match splitLast? (· == ',') t with
  | some (name, index) => (Index.parse raw index).map fun index => (trim name, some index)
  | none => .ok (trim t, none)

/-- Reads a key. -/
def parse (key : Text) : Except PatchError Key :=
  let raw := trim key
  let (head, operator) := cutOperator raw
  let (verb, symbol, rest) := Verb.cut head
  match cutIndex raw rest with
  | .error e => .error e
  | .ok (name, index) =>
    if name.isEmpty then .error (.invalidName raw .missingKey)
    else if operator ≠ .assign ∧ verb ≠ .shared .edit then
      .error (.operatorNotAllowed raw operator.symbol)
    else .ok ⟨verb, symbol, name, index, operator⟩

end Key

end CfgPatch
