import CfgPatch.Regex.CharSet
import CfgPatch.Text

/-!
# Tables of character properties

A property is a row of a table: its names, and what its characters are. The rows list code
points in hexadecimal notation, single ones or ranges with a hyphen, with blanks in between.
A row may also be put together from other properties.
-/

namespace CfgPatch.Regex.Unicode

/-- A property of characters: those that `ranges` lists and those of the properties that
`plus` names, but none that `holes` lists or that has a property that `minus` names. -/
structure PropertyRow where
  /-- The names of the property. -/
  names : String
  /-- Code points that have the property. -/
  ranges : String := ""
  /-- Code points that do not have the property. -/
  holes : String := ""
  /-- The names of properties whose characters have this one too. -/
  plus : String := ""
  /-- The names of properties whose characters do not have this one. -/
  minus : String := ""

/-! ## Reading -/

/-- The value of a hexadecimal digit; zero for any other character. -/
def hexDigit (c : Char) : Nat :=
  if c.isDigit then c.toNat - '0'.toNat
  else if 'a' ≤ c && c ≤ 'f' then c.toNat - 'a'.toNat + 10
  else if 'A' ≤ c && c ≤ 'F' then c.toNat - 'A'.toNat + 10
  else 0

/-- The value of a hexadecimal numeral. -/
def hexValue (t : Text) : Nat := t.foldl (fun n c => 16 * n + hexDigit c) 0

/-- The words of a table's text, which blanks separate. -/
def words (s : String) : List Text :=
  (Text.split ' ' (s.toList.map fun c => if c = '\n' then ' ' else c)).filter (!·.isEmpty)

/-- The characters a table's text lists. -/
def listed (s : String) : CharSet :=
  CharSet.ofRanges <| (words s).map fun word =>
    match Text.split '-' word with
    | [low, high] => ⟨hexValue low, hexValue high⟩
    | _ => ⟨hexValue word, hexValue word⟩

/-! ## Looking up -/

/-- A name as it is compared: lower case, without spaces, hyphens, underscores, characters
beyond ASCII and an `is` in front. -/
def looseName (t : Text) : Text :=
  let keep (t : Text) : Text :=
    (t.filter fun c => c.toNat < 0x80 && c != ' ' && c != '-' && c != '_').map Char.toLower
  match t with
  | a :: b :: rest =>
    if a.toLower = 'i' && b.toLower = 's' then
      -- `isc` is a name of its own.
      if keep rest = ['c'] then ['i', 's', 'c'] else keep rest
    else keep t
  | _ => keep t

namespace PropertyRow

/-- Whether a property goes by a name, which is given in loose form. -/
def isNamed (row : PropertyRow) (name : Text) : Bool := (words row.names).any (looseName · = name)

/-- The characters of a property; `part` finds those of the properties it is made of. -/
def toSet (row : PropertyRow) (part : Text → Option CharSet) : CharSet :=
  let parts (names : String) := (words names).filterMap fun name => part (looseName name)
  let most := CharSet.unions (listed row.ranges :: parts row.plus)
  if row.minus.isEmpty && row.holes.isEmpty then most
  else most.diff (CharSet.unions (listed row.holes :: parts row.minus))

end PropertyRow

/-- The characters of a property by its name in loose form. The properties that it is made of
are those of the rows below its own, or else `part` finds them. -/
def find? (part : Text → Option CharSet) : List PropertyRow → (name : Text) → Option CharSet
  | [], _ => none
  | row :: rows, name =>
    if row.isNamed name then some (row.toSet fun name => find? part rows name <|> part name)
    else find? part rows name

end CfgPatch.Regex.Unicode
