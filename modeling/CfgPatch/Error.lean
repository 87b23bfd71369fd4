import CfgPatch.Command
import CfgPatch.Regex.Size

/-!
# What can be wrong with a patch

An error of a patch names its cause. The wording is in `PatchError.message` alone.
-/

namespace CfgPatch

/-- Why a name cannot be read. -/
inductive NameFault where
  /-- Nothing in front of the selector and the segments. -/
  | missingType
  /-- A `:HAS` with no list in brackets. -/
  | bareHas
  /-- A second `:HAS`. -/
  | repeatedHas
  /-- A colon with no letters behind it. -/
  | emptySegment
  /-- Text that begins no segment and no index. -/
  | unexpected (rest : Text)
  /-- An index on a directive. -/
  | rootIndex
  /-- A key with a command, an index or an operator and no name. -/
  | missingKey
  /-- A rename of anything but the node itself. -/
  | badRename
deriving DecidableEq, Repr

/-- Why an atom of a constraint list cannot be read. -/
inductive ConstraintFault where
  /-- Nothing between two separators. -/
  | empty
  /-- A first character that makes no atom. -/
  | badSymbol
  /-- An index on a node atom. -/
  | index
  /-- A bracket that the last character does not close. -/
  | unclosed
  /-- A comparison with something that is no number. -/
  | notANumber (operand : Text)
  /-- A value atom with no key. -/
  | missingKey
deriving DecidableEq, Repr

/-- The kinds of item a command can be on. -/
inductive ItemKind where
  | value
  | node
deriving DecidableEq, Repr

/-- Why a directive cannot be read or applied. -/
inductive PatchError where
  /-- A bracket without its partner. -/
  | unbalanced (name : Text)
  /-- A name that does not follow its grammar. -/
  | invalidName (name : Text) (fault : NameFault)
  /-- A constraint that does not follow its grammar. -/
  | invalidConstraint (atom : Text) (fault : ConstraintFault)
  /-- A command on an item that cannot carry it. -/
  | commandNotAllowed (command : String) (symbol : Char) (kind : ItemKind)
  /-- An operator without the edit command. -/
  | operatorNotAllowed (key : Text) (symbol : Char)
  /-- An index that is neither `*` nor a number. -/
  | invalidIndex (key index : Text)
  /-- A text that is no finite number. -/
  | notANumber (text : Text)
  /-- A calculation whose result is no finite number. -/
  | notFinite (current : Text) (symbol : Char) (operand : Text)
  /-- An operand that is no pattern and replacement. -/
  | malformedReplacement (operand : Text)
  /-- A regular expression that is refused. -/
  | invalidRegex (pattern : Text) (why : Regex.Refusal)
  /-- A path that leads nowhere. -/
  | unresolved (path : Text)
  /-- An edit that repeats without an end. -/
  | loopLimit (rounds : Nat)
deriving DecidableEq, Repr

/-- The wording of a fault of a name. -/
def NameFault.message : NameFault → String
  | missingType => "missing type name"
  | bareHas => ":HAS needs a bracketed list"
  | repeatedHas => "more than one :HAS block"
  | emptySegment => "empty ':' segment"
  | unexpected rest => "unexpected '" ++ String.ofList rest ++ "' after the type name"
  | rootIndex => "an index is only valid on nested nodes"
  | missingKey => "missing value name"
  | badRename => "rename is written as |_ = NEWNAME"

/-- The wording of a fault of a constraint. -/
def ConstraintFault.message : ConstraintFault → String
  | empty => "empty atom"
  | badSymbol => "atoms must start with #, ~, @ or !"
  | index => "index is not allowed here"
  | unclosed => "expected ']' at the end"
  | notANumber operand => "'" ++ String.ofList operand ++ "' is not a number"
  | missingKey => "missing value name"

/-- The word for a kind of item. -/
def ItemKind.word : ItemKind → String
  | value => "value"
  | node => "node"

/-- The wording of an error. -/
def PatchError.message : PatchError → String
  | unbalanced name => "unbalanced brackets in '" ++ String.ofList name ++ "'"
  | invalidName name fault =>
    "invalid node name '" ++ String.ofList name ++ "': " ++ fault.message
  | invalidConstraint atom fault =>
    "invalid constraint '" ++ String.ofList atom ++ "': " ++ fault.message
  | commandNotAllowed command symbol kind =>
    command ++ " command (" ++ symbol.toString ++ ") is not valid on a " ++ kind.word
  | operatorNotAllowed key symbol =>
    "operator '" ++ symbol.toString ++ "' on '" ++ String.ofList key ++
      "' is only valid with the edit command (@)"
  | invalidIndex key index =>
    "invalid index '" ++ String.ofList index ++ "' in '" ++ String.ofList key ++ "'"
  | notANumber text => "cannot parse '" ++ String.ofList text ++ "' as a number"
  | notFinite current symbol operand =>
    "'" ++ String.ofList current ++ "' " ++ symbol.toString ++ " '" ++ String.ofList operand ++
      "' is not a finite number"
  | malformedReplacement operand =>
    "malformed regex replacement '" ++ String.ofList operand ++
      "', expected :pattern:replacement:"
  | invalidRegex pattern why =>
    "invalid regex '" ++ String.ofList pattern ++ "': " ++ why.message
  | unresolved path => "reference '" ++ String.ofList path ++ "' could not be resolved"
  | loopLimit rounds => "loop did not terminate after " ++ toString rounds ++ " iterations"

end CfgPatch
