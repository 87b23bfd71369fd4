import CfgPatch.Text

/-!
# Nodes

A configuration tree is made of named nodes. A node holds fields, which are pairs of a name
and a value, and child nodes. Both lists are ordered and a name may occur several times in
either, so every look-up here speaks of the *first* occurrence unless it says otherwise.

A node may also carry an identifier. Nothing in this library reads it; it travels with the
node through every change.
-/

namespace CfgPatch

/-- A named value. -/
structure Field where
  name : Text
  value : Text
deriving DecidableEq, Repr, Inhabited

/-- A node of a configuration tree. -/
structure Node where
  name : Text
  id : Option Text
  fields : List Field
  children : List Node
deriving Repr, Inhabited

namespace Node

/-! ## Equality -/

mutual

/-- Decides whether two nodes are equal. -/
def decEq : (a b : Node) → Decidable (a = b)
  | ⟨n, i, fs, cs⟩, ⟨n', i', fs', cs'⟩ =>
    if h : n = n' ∧ i = i' ∧ fs = fs' then
      match decEqList cs cs' with
      | isTrue hc => isTrue (by simp [h, hc])
      | isFalse hc => isFalse (by simp [hc])
    else isFalse (by simp only [Node.mk.injEq]; exact fun e => h ⟨e.1, e.2.1, e.2.2.1⟩)

/-- Decides whether two lists of nodes are equal. -/
def decEqList : (as bs : List Node) → Decidable (as = bs)
  | [], [] => isTrue rfl
  | [], _ :: _ => isFalse (by simp)
  | _ :: _, [] => isFalse (by simp)
  | a :: as, b :: bs =>
    match decEq a b, decEqList as bs with
    | isTrue h, isTrue hs => isTrue (by rw [h, hs])
    | isFalse h, _ => isFalse (by simp [h])
    | _, isFalse hs => isFalse (by simp [hs])

end

instance : DecidableEq Node := decEq

/-! ## Building -/

/-- A node with a name and nothing else. -/
def ofName (name : Text) : Node := ⟨name, none, [], []⟩

/-- Appends a field. -/
def addField (node : Node) (name value : Text) : Node :=
  { node with fields := node.fields ++ [⟨name, value⟩] }

/-- Appends a child. -/
def addChild (node child : Node) : Node :=
  { node with children := node.children ++ [child] }

/-! ## Fields -/

/-- The values stored under a name, in order. -/
def valuesOf (node : Node) (name : Text) : List Text :=
  (node.fields.filter (·.name = name)).map (·.value)

/-- The first value stored under a name. -/
def value? (node : Node) (name : Text) : Option Text :=
  (node.fields.find? (·.name = name)).map (·.value)

/-- Whether a value is stored under a name. -/
def hasField (node : Node) (name : Text) : Bool := node.fields.any (·.name = name)

/-- Overwrites the first field of a list that has the given name, if there is one. -/
def setFirst (name value : Text) : List Field → List Field
  | [] => []
  | f :: fs => if f.name = name then ⟨name, value⟩ :: fs else f :: setFirst name value fs

/-- Overwrites the first value stored under a name; `none` when there is none. -/
def setValue? (node : Node) (name value : Text) : Option Node :=
  if node.hasField name then some { node with fields := setFirst name value node.fields }
  else none

/-- The key whose first value selectors look at. -/
def nameKey : Text := "name".toList

/-- The node's own name as selectors see it: its first `name` value. -/
def label? (node : Node) : Option Text := node.value? nameKey

/-! ## Children -/

/-- The first child with the given name. -/
def child? (node : Node) (name : Text) : Option Node := node.children.find? (·.name = name)

/-- The children with the given name, in order. -/
def childrenOf (node : Node) (name : Text) : List Node := node.children.filter (·.name = name)

/-- Whether there is a child with the given name. -/
def hasChild (node : Node) (name : Text) : Bool := node.children.any (·.name = name)

end Node

end CfgPatch
