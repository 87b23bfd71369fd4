import CfgPatch.Text

/-!
# Commands

The first character of a name can be a command. Three commands mean the same everywhere:
edit, copy and delete. On a root node they make it a directive. Inside the body of a
directive there are five more, and a name that begins with none of the characters stands
for an insertion.
-/

namespace CfgPatch

/-! ## Commands of a directive -/

/-- What a directive does to each of its targets. -/
inductive Command where
  | edit
  | copy
  | delete
deriving DecidableEq, Repr

/-- The command a character stands for. -/
def Command.ofSymbol? : Char → Option Command
  | '@' => some .edit
  | '+' | '$' => some .copy
  | '-' | '!' => some .delete
  | _ => none

/-! ## Commands of a body -/

/-- Commands that only an item of a body can carry. -/
inductive BodyCommand where
  | replace
  | create
  | rename
  | paste
  | special
deriving DecidableEq, Repr

namespace BodyCommand

/-- The command a character stands for. -/
def ofSymbol? : Char → Option BodyCommand
  | '%' => some .replace
  | '&' => some .create
  | '|' => some .rename
  | '#' => some .paste
  | '*' => some .special
  | _ => none

/-- The character a command is written as. -/
def symbol : BodyCommand → Char
  | replace => '%'
  | create => '&'
  | rename => '|'
  | paste => '#'
  | special => '*'

theorem ofSymbol?_symbol (c : BodyCommand) : ofSymbol? c.symbol = some c := by
  cases c <;> rfl

/-- The word for a command. -/
def word : BodyCommand → String
  | replace => "replace"
  | create => "create"
  | rename => "rename"
  | paste => "paste"
  | special => "special"

end BodyCommand

/-! ## Items of a body -/

/-- What an item of a body asks for. -/
inductive Verb where
  /-- No command: the item is new. -/
  | insert
  /-- A command that directives have as well. -/
  | shared (command : Command)
  /-- A command of bodies alone. -/
  | own (command : BodyCommand)
deriving DecidableEq, Repr

/-- The verb a character in front of a name stands for. -/
def Verb.ofSymbol (c : Char) : Verb :=
  match Command.ofSymbol? c, BodyCommand.ofSymbol? c with
  | some command, _ => .shared command
  | none, some command => .own command
  | none, none => .insert

/-- The verb of a name, the character that stands for it, and the name without it; an
insertion keeps its first character. -/
def Verb.cut : Text → Verb × Char × Text
  | [] => (.insert, ' ', [])
  | c :: t =>
    match Verb.ofSymbol c with
    | .insert => (.insert, c, c :: t)
    | verb => (verb, c, t)

/-- The child of a body that makes an edit repeat while its constraints hold. -/
def loopMarker : Text := "MM_PATCH_LOOP".toList

end CfgPatch
