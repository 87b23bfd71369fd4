import CfgPatch.Body.Key
import CfgPatch.Body.Outcome
import CfgPatch.Body.Reference

/-!
# Applying a body to a node

The fields of a body are applied before its children, each in order.

| field            | effect                                                    |
|------------------|-----------------------------------------------------------|
| `key = v`        | appends `key`, or inserts it in front of the one the index names |
| `@key op = v`    | changes the picked values                                 |
| `-key`, `!key`   | removes the picked values                                 |
| `%key = v`       | changes the first value, or appends one                   |
| `&key = v`       | appends unless there is one                               |
| `|_ = NAME`      | renames the node                                          |
| `*key = path`    | appends the value at the end of a path                    |

Children are picked by header. Without a command the child is new; `@`, `-`, `!`, `%` and `&`
do for nodes what they do for values, `+` and `$` append an edited copy of each picked child,
and `#path` appends an edited copy of the node at the end of a path. The body of a child is
applied to every node that it edits or makes.
-/

namespace CfgPatch

open Text

namespace Body

/-! ## Fields -/

/-- Whether a field goes by a name. -/
def isNamed (name : Text) (f : Field) : Bool := f.name = name

/-- Edits the fields of a node. -/
def editFields (node : Node) (f : List Field → Outcome (List Field)) : Outcome Node :=
  (f node.fields).within fun fields => { node with fields := fields }

/-- Changes the value of a field by an operator. -/
def operate (op : Operator) (operand : Text) (f : Field) : Outcome Field :=
  match op.apply f.value operand with
  | .ok value => .done { f with value := value }
  | .error e => .stopped e f

/-- Does what a key says to the fields, or to the name, of a node. `raw` is the key as it is
written. -/
def applyKey (scope : Scope) (key : Key) (raw value : Text) (node : Node) : Outcome Node :=
  let positions := Index.positions (isNamed key.name) node.fields
  match key.verb with
  | .insert =>
    let position := match key.index with
      | some (.nth n) => positions[n]?
      | _ => none
    editFields node fun fs => .done (Picked.insert ⟨key.name, value⟩ position fs)
  | .shared .edit =>
    editFields node (Picked.edit (operate key.operator value) (Index.pick key.index positions))
  | .shared .delete =>
    editFields node fun fs => .done (Picked.remove (Index.pick key.index positions) fs)
  | .shared .copy => .stopped (.commandNotAllowed "copy" key.symbol .value) node
  | .own .replace =>
    editFields node fun fs => .done (Picked.replace ⟨key.name, value⟩ positions.head? fs)
  | .own .create =>
    .done (if node.hasField key.name then node else node.addField key.name value)
  | .own .rename =>
    if key.name = ['_'] then .done { node with name := trim value }
    else .stopped (.invalidName raw .badRename) node
  | .own .special =>
    match Reference.value scope (trim value) with
    | .ok value => .done (node.addField key.name value)
    | .error e => .stopped e node
  | .own .paste => .stopped (.commandNotAllowed "paste" key.symbol .value) node

/-- Applies a field of a body. -/
def applyField (scope : Scope) (f : Field) (node : Node) : Outcome Node :=
  match Key.parse f.name with
  | .ok key => applyKey scope key f.name f.value node
  | .error e => .stopped e node

/-- Applies the fields of a body in order. -/
def applyFields (scope : Scope) : List Field → Node → Outcome Node
  | [], node => .done node
  | f :: fs, node => (applyField scope f node).andThen (applyFields scope fs)

/-! ## Children -/

/-- Edits the children of a node. -/
def editChildren (node : Node) (f : List Node → Outcome (List Node)) : Outcome Node :=
  (f node.children).within fun children => { node with children := children }

/-- Goes on with what was read or found, or stops with the node as it is. -/
def attempt {α : Type} (node : Node) (x : Except PatchError α) (f : α → Outcome Node) :
    Outcome Node :=
  match x with
  | .ok a => f a
  | .error e => .stopped e node

/-- A new node with the given name, made by the child of a body that `edit` applies. -/
def build (type : Text) (child : Node) (edit : Node → Outcome Node) : Except PatchError Node :=
  (edit { Node.ofName type with id := child.id }).toExcept

/-- Appends edited copies of the children at some positions, one after another. -/
def appendCopies (edit : Node → Outcome Node) : List Nat → Node → Outcome Node
  | [], node => .done node
  | i :: is, node =>
    match node.children[i]? with
    | none => appendCopies edit is node
    | some source =>
      attempt node (edit source).toExcept fun copy => appendCopies edit is (node.addChild copy)

/-- Applies a child of a body, whose own body is applied by `edit`. -/
def applyChild (scope : Scope) (child : Node) (edit : Node → Outcome Node) (node : Node) :
    Outcome Node :=
  let (verb, symbol, rest) := Verb.cut child.name
  match verb with
  | .insert =>
    attempt node (build child.name child edit) fun new => .done (node.addChild new)
  | .shared .edit =>
    attempt node (Matcher.parse rest) fun m =>
      editChildren node (Picked.edit edit (m.positions node.children))
  | .shared .delete =>
    attempt node (Matcher.parse rest) fun m =>
      editChildren node fun cs => .done (Picked.remove (m.positions node.children) cs)
  | .shared .copy =>
    attempt node (Matcher.parse rest) fun m => appendCopies edit (m.positions node.children) node
  | .own .replace =>
    attempt node (Matcher.parse rest) fun m =>
      attempt node (build m.type child edit) fun new =>
        editChildren node fun cs =>
          .done (Picked.replace new (m.positions node.children).head? cs)
  | .own .create =>
    attempt node (Matcher.parse rest) fun m =>
      if (m.positions node.children).isEmpty then
        attempt node (build m.type child edit) fun new => .done (node.addChild new)
      else .done node
  | .own .paste =>
    attempt node (Reference.node scope (trim rest)) fun found =>
      attempt node (edit found).toExcept fun copy => .done (node.addChild copy)
  | .own .rename => .stopped (.commandNotAllowed "rename" symbol .node) node
  | .own .special => .stopped (.commandNotAllowed "special" symbol .node) node

/-! ## Bodies -/

mutual

/-- Applies a body to a node. -/
def apply (scope : Scope) : (body : Node) → Node → Outcome Node
  | ⟨_, _, fields, children⟩, node =>
    (applyFields scope fields node).andThen (applyChildren scope children)

/-- Applies the children of a body in order. The loop marker is not one of them. -/
def applyChildren (scope : Scope) : List Node → Node → Outcome Node
  | [], node => .done node
  | child :: rest, node =>
    if child.name = loopMarker then applyChildren scope rest node
    else
      (applyChild scope child (apply scope child) node).andThen (applyChildren scope rest)

end

end Body

end CfgPatch
