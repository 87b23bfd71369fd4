import CfgPatch.Header
import CfgPatch.Number.Decimal
import CfgPatch.Selector

/-!
# Constraints

A constraint list is a conjunction of atoms with `,` or `&` in between, outside all brackets.

| atom                 | holds when                                                |
|----------------------|-----------------------------------------------------------|
| `#key`               | there is a value named `key`                              |
| `#key[pattern]`      | some value named `key` matches the pattern                |
| `#key[>10]`          | some value named `key` is a number that compares so       |
| `~key...`            | the `#` atom does not hold                                |
| `@TYPE[sel]:HAS[..]` | some child of that name satisfies selector and constraints |
| `!TYPE[sel]:HAS[..]` | the `@` atom does not hold                                |

Atoms nest whole lists in brackets. A list that is being read is never longer than the text
it comes from, which is why reading ends.
-/

namespace CfgPatch

open Text Brackets

/-! ## Comparisons -/

/-- How two numbers compare. -/
inductive Comparison where
  | eq
  | ne
  | lt
  | le
  | gt
  | ge
deriving DecidableEq, Repr

namespace Comparison

/-- Reads a comparison in front of a text: the comparison, and the text behind it. -/
def cut? : Text → Option (Comparison × Text)
  | '<' :: '=' :: t => some (.le, t)
  | '>' :: '=' :: t => some (.ge, t)
  | '!' :: '=' :: t => some (.ne, t)
  | '<' :: t => some (.lt, t)
  | '>' :: t => some (.gt, t)
  | '=' :: t => some (.eq, t)
  | _ => none

/-- Whether two numbers compare so. -/
def holds : Comparison → Binary64 → Binary64 → Bool
  | eq, x, y => x.eq y
  | ne, x, y => !x.eq y
  | lt, x, y => x.lt y
  | le, x, y => x.lt y || x.eq y
  | gt, x, y => y.lt x
  | ge, x, y => y.lt x || x.eq y

end Comparison

/-! ## Atoms -/

/-- What a value atom asks of a value. -/
inductive ValueTest where
  /-- Nothing more than to be there. -/
  | present
  /-- To match a pattern. -/
  | like (pattern : Text)
  /-- To be a number that compares with another one in a certain way. -/
  | compares (comparison : Comparison) (operand : Binary64)
deriving DecidableEq, Repr

/-- Whether a value passes a test. -/
def ValueTest.accepts : ValueTest → Text → Bool
  | present, _ => true
  | like pattern, value => wildcardMatch pattern value
  | compares comparison operand, value =>
    (Binary64.parse? (trim value)).any (comparison.holds · operand)

/-- An atom of a constraint list. -/
inductive Atom where
  /-- Some value under a key passes a test, or none does. -/
  | value (key : Text) (test : ValueTest) (negated : Bool)
  /-- Some child satisfies a name, a selector and a list of atoms, or none does. -/
  | node (type : Text) (selector : Option Selector) (nested : List Atom) (negated : Bool)
deriving Repr

/-- A constraint list, all of whose atoms have to hold. -/
abbrev Constraints := List Atom

mutual

/-- Whether an atom holds of a node. -/
def Atom.holds (node : Node) : Atom → Bool
  | .value key test negated => (node.valuesOf key).any test.accepts != negated
  | .node type selector nested negated =>
    (node.children.any fun child => child.isMatch type selector && allHold child nested) != negated

/-- Whether every atom of a list holds of a node. -/
def allHold (node : Node) : List Atom → Bool
  | [] => true
  | atom :: atoms => atom.holds node && allHold node atoms

end

/-- Whether a node satisfies a constraint list. -/
def Constraints.satisfiedBy (constraints : Constraints) (node : Node) : Bool :=
  allHold node constraints

/-! ## Reading value atoms -/

/-- What stands in the brackets of a value atom. -/
def ValueTest.parse (atom inner : Text) : Except PatchError ValueTest :=
  if inner.isEmpty then .ok .present
  else
    match Comparison.cut? inner with
    | some (comparison, operand) =>
      match Binary64.parse? (trim operand) with
      | some x => .ok (.compares comparison x)
      | none => .error (.invalidConstraint atom (.notANumber operand))
    | none => .ok (.like inner)

/-- The text without its last character, if that is a closing bracket. -/
def dropClosing? (t : Text) : Option Text :=
  if t.getLast? = some ']' then some t.dropLast else none

/-- Reads a value atom; `body` is the atom without its first character. -/
def parseValueAtom (atom body : Text) (negated : Bool) : Except PatchError Atom := do
  let key := trim (body.takeWhile (· != '['))
  let test ← match body.dropWhile (· != '[') with
    | [] => .ok .present
    | _ :: t =>
      match dropClosing? t with
      | some inner => ValueTest.parse atom inner
      | none => .error (.invalidConstraint atom .unclosed)
  if key.isEmpty then .error (.invalidConstraint atom .missingKey)
  else .ok (.value key test negated)

/-! ## Reading lists -/

/-- Whether a character separates atoms. -/
def isAtomSeparator (c : Char) : Bool := c == ',' || c == '&'

/-- The texts of the atoms of a list. -/
def atomTexts (t : Text) : List Text := splitOutside isAtomSeparator t

mutual

/-- Reads an atom. -/
def Atom.parse : Text → Except PatchError Atom
  | [] => .error (.invalidConstraint [] .empty)
  | c :: body =>
    let atom := c :: body
    if c = '#' || c = '~' then parseValueAtom atom body (c == '~')
    else if c = '@' || c = '!' then
      match hh : Header.parse body with
      | .error e => .error e
      | .ok header =>
        if header.index.isSome then .error (.invalidConstraint atom .index)
        else
          match hc : header.constraints with
          | none => .ok (.node header.type (header.selector.map Selector.parse) [] (c == '!'))
          | some inner =>
            have : inner.length < body.length := Header.length_constraints_lt hh hc
            match Atom.parseAll (atomTexts inner) with
            | .error e => .error e
            | .ok nested =>
              .ok (.node header.type (header.selector.map Selector.parse) nested (c == '!'))
    else .error (.invalidConstraint atom .badSymbol)
termination_by t => (t.length, 0)
decreasing_by
  simp only [Prod.lex_def, List.length_cons]
  have := totalLength_splitFrom_le isAtomSeparator 0 inner
  exact .inl (Nat.lt_succ_of_le (Nat.le_trans this (Nat.le_of_lt ‹_›)))

/-- Reads atoms in order; blanks around an atom do not count. -/
def Atom.parseAll : List Text → Except PatchError (List Atom)
  | [] => .ok []
  | t :: ts =>
    match Atom.parse (trim t) with
    | .error e => .error e
    | .ok atom => (Atom.parseAll ts).map (atom :: ·)
termination_by ts => (totalLength ts, ts.length + 1)
decreasing_by
  · have := length_trim_le t
    simp only [Prod.lex_def, totalLength]
    omega
  · simp only [Prod.lex_def, totalLength, List.length_cons]
    omega

end

/-- Reads a constraint list. -/
def Constraints.parse (t : Text) : Except PatchError Constraints := Atom.parseAll (atomTexts t)

end CfgPatch
