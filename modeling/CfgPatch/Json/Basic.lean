import CfgPatch.Text

/-!
# JSON

JSON values, with the members of an object in order. A number is kept as it is written. A
string may hold an escape that names no character; such a string is well-formed, but it has
no text.
-/

namespace CfgPatch

/-- A JSON value. -/
inductive Json where
  | null
  | bool (b : Bool)
  /-- A number, as it is written. -/
  | number (literal : Text)
  | string (s : Text)
  /-- A string with an escape that names no character. -/
  | textless
  | array (items : List Json)
  | object (members : List (Json × Json))
deriving Repr

namespace Json

/-- The text of a string. -/
def text? : Json → Option Text
  | string s => some s
  | _ => none

/-- The value of an unsigned integer that is no larger than an index can be. -/
def index? : Json → Option Nat
  | number literal => if literal.all Char.isDigit then Text.readIndex? literal else none
  | _ => none

/-- The texts of an array of strings. -/
def texts? : Json → Option (List Text)
  | array items => items.mapM text?
  | _ => none

/-- A number that is a natural one. -/
def ofNat (n : Nat) : Json := number (Text.ofNat n)

/-- A string with the given text. -/
def ofString (s : String) : Json := string s.toList

/-- An object whose keys are given as strings. -/
def ofMembers (members : List (String × Json)) : Json :=
  object (members.map fun m => (ofString m.1, m.2))

end Json

end CfgPatch
