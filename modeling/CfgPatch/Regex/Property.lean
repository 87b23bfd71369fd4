import CfgPatch.Regex.Unicode.Category
import CfgPatch.Regex.Unicode.Script
import CfgPatch.Regex.Unicode.ScriptExtension
import CfgPatch.Regex.Unicode.Binary
import CfgPatch.Regex.Unicode.Age
import CfgPatch.Regex.Unicode.Break
import CfgPatch.Regex.Unicode.CaseFold

/-!
# Character properties by name

The classes of a regular expression name properties of characters. A name alone stands for a
binary property, a general category or a script; the other properties are named together with
one of their values. Names match loosely, without regard to case, spaces, hyphens and
underscores, and an `is` in front does not count.
-/

namespace CfgPatch.Regex

open Unicode (looseName listed words)

/-! ## Properties

The functions here take names in loose form. -/

/-- Every character that has a general category of its own. -/
def assigned : CharSet :=
  CharSet.unions (Unicode.categoryRows.map fun row => listed row.ranges)

/-- The characters of a general category or a group of them. -/
def category? (name : Text) : Option CharSet :=
  if name = "any".toList then some CharSet.full
  else if name = "assigned".toList then some assigned
  else if name = "ascii".toList then some CharSet.ascii
  else if name = "cn".toList || name = "unassigned".toList then some assigned.compl
  else if name = "c".toList || name = "other".toList then
    some (CharSet.unions (["l", "m", "n", "p", "s", "z"].filterMap fun s =>
      listedCategory? s.toList)).compl
  else listedCategory? name
where
  /-- The characters of a row. -/
  listedCategory? (name : Text) : Option CharSet :=
    Unicode.find? (fun _ => none) Unicode.categoryRows name

/-- The characters of a script. -/
def script? (name : Text) : Option CharSet :=
  Unicode.find? (fun _ => none) Unicode.scriptRows name

/-- The characters that a script uses. -/
def scriptExtension? (name : Text) : Option CharSet := do
  let row ← Unicode.scriptRows.find? (·.isNamed name)
  let shared := CharSet.unions (Unicode.sharedRows.map fun shared => listed shared.ranges)
  let used := Unicode.sharedRows.filter fun shared =>
    (words shared.names).any fun script => row.isNamed (looseName script)
  some (CharSet.unions ((listed row.ranges).diff shared :: used.map fun row => listed row.ranges))

/-- The characters that have a binary property. -/
def binary? (name : Text) : Option CharSet := Unicode.find? category? Unicode.binaryRows name

/-- The characters there are since a version. -/
def age? (name : Text) : Option CharSet :=
  let older := Unicode.ageRows.takeWhile (!·.isNamed name)
  match Unicode.ageRows.drop older.length with
  | [] => none
  | row :: _ => some (CharSet.unions ((older ++ [row]).map fun row => listed row.ranges))

/-- The characters that play a part in the division of texts. -/
def break? (rows : List Unicode.PropertyRow) (name : Text) : Option CharSet :=
  Unicode.find? (fun name => binary? name <|> category? name <|> script? name) rows name

/-! ## Names -/

/-- The characters that a class with a single name stands for. -/
def propertyNamed? (name : Text) : Option CharSet :=
  let name := looseName name
  let binary := if name = "cf".toList || name = "sc".toList || name = "lc".toList then none
    else binary? name
  binary <|> category? name <|> script? name

/-- The properties that have values, by their names in loose form. -/
def valuedProperties : List (List String × (Text → Option CharSet)) := [
  (["gc", "generalcategory"], category?),
  (["sc", "script"], script?),
  (["scx", "scriptextensions"], scriptExtension?),
  (["age"], age?),
  (["gcb", "graphemeclusterbreak"], break? Unicode.graphemeBreakRows),
  (["wb", "wordbreak"], break? Unicode.wordBreakRows),
  (["sb", "sentencebreak"], break? Unicode.sentenceBreakRows)]

/-- The characters for which a property has a value, both given by name. -/
def propertyValue? (property value : Text) : Option CharSet :=
  let property := looseName property
  (valuedProperties.find? fun p => p.1.any (·.toList = property)).bind fun p =>
    p.2 (looseName value)

/-! ## Classes used everywhere -/

/-- The decimal digits of all scripts. -/
def digits : CharSet := (category? "nd".toList).getD CharSet.empty

/-- The blank characters. -/
def blanks : CharSet := (binary? "whitespace".toList).getD CharSet.empty

/-- The letters of all scripts. -/
def letters : CharSet := (binary? "alphabetic".toList).getD CharSet.empty

/-- The numbers of all scripts. -/
def numbers : CharSet := (category? "n".toList).getD CharSet.empty

/-- The characters of words: letters, marks, decimal digits, connectors and joiners. -/
def wordChars : CharSet :=
  CharSet.unions ([letters, digits] ++ (binary? "joinc".toList).toList ++
    ["m", "pc"].filterMap fun s => category? s.toList)

/-! ## Case -/

/-- The sets of code points that differ in case alone. -/
def foldGroups : List (List Nat) :=
  (words Unicode.foldGroups).map fun group => (Text.split '=' group).map Unicode.hexValue

/-- The set with every character that differs from one of its own in case alone. -/
def CharSet.ignoreCase (s : CharSet) : CharSet :=
  CharSet.ofRanges (s.ranges ++
    (foldGroups.filter (·.any s.containsCode)).flatten.map fun n => ⟨n, n⟩)

end CfgPatch.Regex
