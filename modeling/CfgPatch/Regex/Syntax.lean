import CfgPatch.Regex.CharSet
import CfgPatch.Text

/-!
# Regular expressions

A regular expression is read with all its flags taken into account, so the tree holds no
flags: a character that may stand in either case is a set of both, a dot is the set of what
it stands for, and a repetition says itself whether it is greedy.
-/

namespace CfgPatch.Regex

/-- A condition on the place between two characters. -/
inductive Look where
  /-- The start of the text. -/
  | textStart
  /-- The end of the text. -/
  | textEnd
  /-- The start of a line; `carriage` counts a carriage return as a line end too. -/
  | lineStart (carriage : Bool)
  /-- The end of a line. -/
  | lineEnd (carriage : Bool)
  /-- A word begins or ends here. -/
  | wordEdge (word : CharSet)
  /-- No word begins or ends here. -/
  | noWordEdge (word : CharSet)
  /-- A word begins here. -/
  | wordStart (word : CharSet)
  /-- A word ends here. -/
  | wordEnd (word : CharSet)
  /-- No character of a word stands in front. -/
  | noWordBefore (word : CharSet)
  /-- No character of a word stands behind. -/
  | noWordAfter (word : CharSet)
deriving DecidableEq, Repr

/-- A regular expression. -/
inductive Expr where
  /-- Matches the empty text. -/
  | empty
  /-- Matches a text, which is not empty. -/
  | text (chars : Text)
  /-- Matches one character of a set. -/
  | one (set : CharSet)
  /-- Matches the empty text where a condition holds. -/
  | look (condition : Look)
  /-- Remembers what `body` matched under a number. -/
  | group (number : Nat) (body : Expr)
  /-- Matches one expression and then the other. -/
  | seq (first second : Expr)
  /-- Matches either expression and tries the first one first. -/
  | alt (first second : Expr)
  /-- Matches `body` repeatedly, `least` times or more, and at most `most` times if there is a
  limit; a greedy repetition tries to go on before it tries to stop. -/
  | repeated (body : Expr) (least : Nat) (most : Option Nat) (greedy : Bool)
deriving DecidableEq, Repr

/-- A regular expression as it was read. -/
structure Pattern where
  /-- The expression. -/
  expr : Expr
  /-- The number of each group that has a name. -/
  names : List (Text × Nat)

namespace Expr

/-! ## Lengths

What is known of the lengths of matches. A part that can never match makes both bounds of the
whole unknown. -/

/-- The number of characters that every match has at least, if it is known. -/
def minLength : Expr → Option Nat
  | .empty | .look _ => some 0
  | .text chars => some chars.length
  | .one set => if set.ranges.isEmpty then none else some 1
  | .group _ body => body.minLength
  | .seq a b => do return (← a.minLength) + (← b.minLength)
  | .alt a b => do return min (← a.minLength) (← b.minLength)
  | .repeated body least _ _ => body.minLength.map (least * ·)

/-- The number of characters that every match has at most, if there is a bound. -/
def maxLength : Expr → Option Nat
  | .empty | .look _ => some 0
  | .text chars => some chars.length
  | .one set => if set.ranges.isEmpty then none else some 1
  | .group _ body => body.maxLength
  | .seq a b => do return (← a.maxLength) + (← b.maxLength)
  | .alt a b => do return max (← a.maxLength) (← b.maxLength)
  | .repeated body _ most _ => do return (← most) * (← body.maxLength)

/-- Whether every match holds a character. -/
def consumes (e : Expr) : Bool := e.minLength.any (0 < ·)

/-- Whether every match is empty. -/
def isWidthless (e : Expr) : Bool := e.maxLength = some 0

/-! ## Sequences and choices

An expression is put together in one form: what follows one another hangs in a row to the
right, without the empty expression and with neighbouring texts joined, and so do the choices;
where the choices are characters, a set takes their place, and what all choices begin with
stands in front of them. -/

/-- The expression of a set: a set of one character is a text. -/
def ofSet (s : CharSet) : Expr :=
  match s.ranges with
  | [r] => if r.low = r.high then .text [Char.ofNat r.low] else .one s
  | _ => .one s

/-- The expressions that follow one another. -/
def parts : Expr → List Expr
  | .empty => []
  | .seq a b => a.parts ++ b.parts
  | e => [e]

/-- Puts an expression in front of others, and joins it with the first one if both are
texts. -/
def joinText (e : Expr) (es : List Expr) : List Expr :=
  match e, es with
  | .text s, .text t :: es => .text (s ++ t) :: es
  | e, es => e :: es

/-- Expressions that follow one another, as they are. -/
def row (es : List Expr) : Expr :=
  match es.reverse with
  | [] => .empty
  | last :: front => front.foldl (fun rest e => .seq e rest) last

/-- The expression that matches expressions one after the other. -/
def ofParts (es : List Expr) : Expr := row ((es.flatMap parts).foldr joinText [])

/-- The expressions that a choice is between. -/
def choices : Expr → List Expr
  | .alt a b => a.choices ++ b.choices
  | e => [e]

/-- Expressions to choose from, as they are; without any, nothing matches. -/
def choice (es : List Expr) : Expr :=
  match es.reverse with
  | [] => .one CharSet.empty
  | last :: front => front.foldl (fun rest e => .alt e rest) last

/-- The character of a text that has one. -/
def char? : Expr → Option Char
  | .text [c] => some c
  | _ => none

/-- The set of an expression that is one. -/
def set? : Expr → Option CharSet
  | .one s => some s
  | _ => none

/-- The expression that matches any of several, where those that are all characters, or all
sets, are one set. -/
def ofSimpleChoices (es : List Expr) : Expr :=
  let es := es.flatMap choices
  if es.length ≤ 1 then choice es
  else
    match es.mapM char?, es.mapM set? with
    | some cs, _ => ofSet (CharSet.unions (cs.map CharSet.single))
    | _, some sets => ofSet (CharSet.unions sets)
    | none, none => choice es

/-- What two lists begin with. -/
def commonStart : List Expr → List Expr → List Expr
  | a :: as, b :: bs => if a = b then a :: commonStart as bs else []
  | _, _ => []

/-- What several sequences of two parts or more begin with; nothing if there are others among
the expressions. -/
def sharedStart (es : List Expr) : List Expr :=
  let rows := es.map parts
  if rows.any (·.length < 2) then []
  else
    match rows with
    | [] => []
    | first :: rest => rest.foldl commonStart first

/-- The expression that matches any of several and tries them in order. -/
def ofChoices (es : List Expr) : Expr :=
  match ofSimpleChoices es with
  | .alt a b =>
    let es := choices (.alt a b)
    let start := sharedStart es
    if start.isEmpty then .alt a b
    else ofParts (start ++ [ofSimpleChoices (es.map fun e => ofParts (e.parts.drop start.length))])
  | e => e

/-- The expression that matches another one repeatedly. More than one match of the empty text
is of no use. -/
def ofRepeated (body : Expr) (least : Nat) (most : Option Nat) (greedy : Bool) : Expr :=
  let (least, most) :=
    if body.isWidthless then (min least 1, some ((most.getD 1).min 1)) else (least, most)
  if least = 0 && most = some 0 then .empty
  else if least = 1 && most = some 1 then body
  else .repeated body least most greedy

end Expr

end CfgPatch.Regex
