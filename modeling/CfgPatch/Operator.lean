import CfgPatch.Error
import CfgPatch.Number.Decimal
import CfgPatch.Regex.Replace

/-!
# Operators on values

An edit of a value may carry an operator, which computes the new value from the current one
and an operand: four kinds of arithmetic, powers, and the replacement of what matches a
regular expression. Arithmetic is done on finite numbers only, and a result that is none is
an error; what is written is the plain form of the result.
-/

namespace CfgPatch

open Text

/-- How an edit computes a new value. -/
inductive Operator where
  | assign
  | multiply
  | divide
  | add
  | subtract
  | power
  | replaceMatches
deriving DecidableEq, Repr

namespace Operator

/-- The operator a character stands for behind a key. -/
def ofSymbol? : Char → Option Operator
  | '*' => some .multiply
  | '/' => some .divide
  | '+' => some .add
  | '-' => some .subtract
  | '!' => some .power
  | '^' => some .replaceMatches
  | _ => none

/-- The character that messages show for an operator. -/
def symbol : Operator → Char
  | assign => '='
  | multiply => '*'
  | divide => '/'
  | add => '+'
  | subtract => '-'
  | power => '!'
  | replaceMatches => '^'

theorem ofSymbol?_symbol (op : Operator) (h : op ≠ .assign) : ofSymbol? op.symbol = some op := by
  cases op with
  | assign => exact absurd rfl h
  | _ => rfl

end Operator

/-! ## Numbers -/

/-- Reads a finite number; blanks around it do not count. -/
def readNumber (text : Text) : Except PatchError Binary64 :=
  match Binary64.parse? (trim text) with
  | some x => if x.isFinite then .ok x else .error (.notANumber text)
  | none => .error (.notANumber text)

/-- The number of a text, written in its plain form. -/
def normalizeNumber (text : Text) : Except PatchError Text :=
  (readNumber text).map Binary64.toPlainText

/-- Calculates with the numbers of two texts; `symbol` is what messages show. -/
def calculate (symbol : Char) (f : Binary64 → Binary64 → Binary64) (current operand : Text) :
    Except PatchError Text :=
  match readNumber current, readNumber operand with
  | .error e, _ => .error e
  | _, .error e => .error e
  | .ok x, .ok y =>
    let result := f x y
    if result.isFinite then .ok result.toPlainText
    else .error (.notFinite current symbol operand)

/-! ## Replacing matches -/

/-- Replaces matches. The first character of the operand delimits the regular expression and
the template behind it; whatever follows the template does not count. -/
def replaceByOperand (current operand : Text) : Except PatchError Text :=
  match operand with
  | [] => .error (.malformedReplacement operand)
  | delimiter :: t =>
    match split delimiter t with
    | pattern :: template :: _ =>
      match Regex.replaceAll pattern template current with
      | .ok result => .ok result
      | .error refusal => .error (.invalidRegex pattern refusal)
    | _ => .error (.malformedReplacement operand)

/-- The new value that an operator computes from the current one. -/
def Operator.apply (op : Operator) (current operand : Text) : Except PatchError Text :=
  match op with
  | .assign => .ok operand
  | .replaceMatches => replaceByOperand current operand
  | .multiply => calculate op.symbol .mul current operand
  | .divide => calculate op.symbol .div current operand
  | .add => calculate op.symbol .add current operand
  | .subtract => calculate op.symbol .sub current operand
  | .power => calculate op.symbol .pow current operand

end CfgPatch
