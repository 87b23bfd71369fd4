import CfgPatch.Text

/-!
# Paths

A path is a text with slashes. Its components are what stands between them: empty ones do
not count, and neither does a single dot unless the path begins with it. A path that begins
with a slash has that slash as its first component.
-/

namespace CfgPatch.Path

open Text

/-- The components of the part of a path behind its beginning. -/
def innerComponents (segments : List Text) : List Text :=
  segments.filter fun s => !s.isEmpty && s != ['.']

/-- The components of a path. -/
def components (path : Text) : List Text :=
  match split '/' path with
  | [] => []
  | first :: rest =>
    if first.isEmpty then
      if path.isEmpty then [] else ['/'] :: innerComponents rest
    else first :: innerComponents rest

/-- Components with slashes in between. -/
def ofComponents (cs : List Text) : Text := List.intercalate ['/'] cs

/-- A path as seen from a directory: the part below it, or all of it if it is not below. -/
def relative (dir path : Text) : Text :=
  let cs := components path
  ofComponents (((components dir).isPrefixOf? cs).getD cs)

/-- The path that leads from `base` along `path`; a path that begins with a slash does not
need a base. -/
def join (base path : Text) : Text :=
  if path.head? = some '/' then path
  else if base.isEmpty || base.getLast? = some '/' then base ++ path
  else base ++ '/' :: path

/-- The extension of a file name; a dot at the very front begins none. -/
def extension? (name : Text) : Option Text :=
  match splitLast? (· == '.') name with
  | some (_ :: _, extension) => some extension
  | _ => none

end CfgPatch.Path
