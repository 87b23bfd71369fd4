import CfgPatch.Body.Matcher
import CfgPatch.Catalog

/-!
# Reference paths

A body can refer to nodes and values elsewhere by a path of headers with slashes in between.
A path that begins with `@` starts at the first entry of the catalog that its first segment
picks; any other starts at the root node that is being patched, as it was before. Empty
segments do not count. The path of a value ends in a key, which may carry an index.
-/

namespace CfgPatch

open Text Brackets

/-- What the body of a directive can see besides the node it edits. -/
structure Scope where
  /-- The catalog as it is when the node is visited. -/
  catalog : Catalog
  /-- The root node being patched, unmodified. -/
  root : Node

namespace Reference

/-- The segments of a path. -/
def segments (path : Text) : List Text := splitOutside (· == '/') path

/-- Descends from a node along segments; `path` is the text that messages quote. -/
def descend (path : Text) (node : Node) : List Text → Except PatchError Node
  | [] => .ok node
  | segment :: rest =>
    let segment := trim segment
    if segment.isEmpty then descend path node rest
    else
      match Matcher.parse segment with
      | .error e => .error e
      | .ok m =>
        match m.pick node.children with
        | child :: _ => descend path child rest
        | [] => .error (.unresolved path)

/-- The node that segments lead to. -/
def follow (scope : Scope) (path : Text) : List Text → Except PatchError Node
  | ('@' :: header) :: rest =>
    match Matcher.parse header with
    | .error e => .error e
    | .ok m =>
      match m.pick scope.catalog.nodes with
      | root :: _ => descend path root rest
      | [] => .error (.unresolved path)
  | segments => descend path scope.root segments

/-- The node at the end of a path. -/
def node (scope : Scope) (path : Text) : Except PatchError Node :=
  follow scope path (segments path)

/-- The value with a key in a node; the key may carry an index. -/
def valueIn (path key : Text) (node : Node) : Except PatchError Text :=
  let found (name : Text) (index : Option Index) : Except PatchError Text :=
    match Index.pick index (node.valuesOf (trim name)) with
    | value :: _ => .ok value
    | [] => .error (.unresolved path)
  match splitLast? (· == ',') key with
  | none => found key none
  | some (name, index) =>
    match Index.parse key index with
    | .error e => .error e
    | .ok index => found name (some index)

/-- The value at the end of a path. -/
def value (scope : Scope) (path : Text) : Except PatchError Text :=
  let parts := segments path
  let key := parts.getLastD []
  match parts.dropLast with
  | [] => valueIn path key scope.root
  | way =>
    match follow scope path way with
    | .error e => .error e
    | .ok node => valueIn path key node

end Reference

end CfgPatch
