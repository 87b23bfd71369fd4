import CfgPatch.Json.Basic

/-!
# Writing JSON

Values are written over several lines, each level of arrays and objects indented by two
blanks more than the one around it; an empty array or object stays on its line.
-/

namespace CfgPatch.Json

/-- A hexadecimal numeral of four digits. -/
def hex4 (n : Nat) : Text :=
  let digits := Nat.toDigits 16 n
  List.replicate (4 - digits.length) '0' ++ digits

/-- How a character is written in a string. Only quotes, backslashes and control characters
are escaped. -/
def escape (c : Char) : Text :=
  if c = '"' then ['\\', '"']
  else if c = '\\' then ['\\', '\\']
  else if c = '\x08' then ['\\', 'b']
  else if c = '\x0C' then ['\\', 'f']
  else if c = '\n' then ['\\', 'n']
  else if c = '\r' then ['\\', 'r']
  else if c = '\t' then ['\\', 't']
  else if c.toNat < 0x20 then '\\' :: 'u' :: hex4 c.toNat
  else [c]

/-- A text in quotes. -/
def quote (t : Text) : Text := '"' :: t.flatMap escape ++ ['"']

/-- A new line with the indentation of a level. -/
def newLine (depth : Nat) : Text := '\n' :: List.replicate (2 * depth) ' '

/-- Texts in brackets, each on a line of its own one level deeper. -/
def block (opening closing : Char) (depth : Nat) : List Text → Text
  | [] => [opening, closing]
  | items =>
    opening :: newLine (depth + 1) ++
      List.intercalate (',' :: newLine (depth + 1)) items ++ newLine depth ++ [closing]

mutual

/-- A value, written at the given depth. -/
def write (depth : Nat) : Json → Text
  | .null => "null".toList
  | .bool true => "true".toList
  | .bool false => "false".toList
  | .number literal => literal
  | .string s => quote s
  | .textless => quote []
  | .array items => block '[' ']' depth (writeItems (depth + 1) items)
  | .object members => block '{' '}' depth (writeMembers (depth + 1) members)

/-- The items of an array, written at the given depth. -/
def writeItems (depth : Nat) : List Json → List Text
  | [] => []
  | v :: vs => write depth v :: writeItems depth vs

/-- The members of an object, written at the given depth. -/
def writeMembers (depth : Nat) : List (Json × Json) → List Text
  | [] => []
  | (key, v) :: ms => (write depth key ++ ':' :: ' ' :: write depth v) :: writeMembers depth ms

end

end CfgPatch.Json
