import Std.Data.HashMap
import CfgPatch.Regex.Syntax
import CfgPatch.Regex.Utf8

/-!
# The size of an expression

How large an expression is counts by the automata that read it as bytes: one from the front to
the back and one the other way. A state takes 32 bytes, and a state with several ways out takes
some more for each. An expression is refused if one of its automata is too large, and the
counting stops there; so it ends soon however often something is to be repeated.

An automaton for a set of characters shares what the ends of its byte sequences have in common.
The states that can be shared are kept in a table with few slots, where a later state takes the
slot of an earlier one; a state that has lost its slot is made again.
-/

namespace CfgPatch.Regex

/-- The number of bytes beyond which an automaton is refused. -/
def maxSize : Nat := 10485760

/-- Why an expression is refused. -/
inductive Refusal where
  /-- It does not follow the grammar. -/
  | malformed
  /-- It has an automaton that would take more than `maxSize` bytes. -/
  | tooLarge
deriving DecidableEq, Repr

/-- The wording of a refusal. -/
def Refusal.message : Refusal → String
  | malformed => "<regex error>"
  | tooLarge => "Compiled regex exceeds size limit of " ++ toString maxSize ++ " bytes."

/-- The way in which an automaton reads. -/
inductive Direction where
  | forward
  | backward
deriving DecidableEq, Repr

/-! ## Counting -/

/-- What has been counted: the states, which are numbered in this order, and the bytes for ways
out. -/
structure Tally where
  states : Nat
  exits : Nat
deriving DecidableEq, Repr

namespace Tally

/-- The bytes of what has been counted. -/
def bytes (t : Tally) : Nat := 32 * t.states + t.exits

/-- Counts more, unless it becomes too large. -/
def grow (t : Tally) (states exits : Nat) : Option Tally :=
  let t : Tally := ⟨t.states + states, t.exits + exits⟩
  if t.bytes ≤ maxSize then some t else none

/-- The bytes for a way out to a choice. -/
def choiceExit : Nat := 4

/-- The bytes for a way out with a range of bytes, where a state has several. -/
def rangeExit : Nat := 8

/-- Counts something a number of times. -/
def times (count : Tally → Option Tally) : Nat → Tally → Option Tally
  | 0, t => some t
  | n + 1, t =>
    match count t with
    | none => none
    | some t => times count n t

end Tally

/-! ## Sets -/

/-- States that can be shared: by slot, what identifies the last state that was put there, and
its number. -/
abbrev SharedStates (Key : Type) := Std.HashMap Nat (Key × Nat)

/-- The slot for some numbers, of a table with `slots` slots. -/
def slotOf (slots : Nat) (numbers : List Nat) : Nat :=
  let start : UInt64 := 14695981039346656037
  let hash := numbers.foldl (fun h n => (h ^^^ UInt64.ofNat n) * 1099511628211) start
  hash.toNat % slots

/-- A tally with states that can be shared. -/
structure Sharing (Key : Type) where
  tally : Tally
  known : SharedStates Key := ∅

/-- The number of the state that a key identifies: that of a known state, or else that of a new
one with the given bytes for its ways out. -/
def Sharing.state {Key : Type} [DecidableEq Key] (s : Sharing Key) (slot : Nat) (key : Key)
    (exits : Nat) : Option (Nat × Sharing Key) :=
  let make : Option (Nat × Sharing Key) := do
    let tally ← s.tally.grow 1 exits
    some (s.tally.states, ⟨tally, s.known.insert slot (key, s.tally.states)⟩)
  match s.known[slot]? with
  | some (known, number) => if known = key then some (number, s) else make
  | none => make

/-- A way out: a range of bytes and the number of the state it leads to. -/
abbrev Exit := ByteRange × Nat

/-- Counts the states that read some sequences, which have at most `depth` ranges each and end
in the state `target`: the number of the first state. States with the same ways out are
shared. -/
def countSequences (target : Nat) : (depth : Nat) → List (List ByteRange) → Sharing (List Exit) →
    Option (Nat × Sharing (List Exit))
  | 0, _, s => some (target, s)
  | depth + 1, sequences, s => do
    let branches := sequences.splitBy fun a b => a.head? == b.head?
    let (exits, s) ← branches.foldlM (fun (exits, s) branch =>
      match branch with
      | (r :: _ :: _) :: _ => do
        let (next, s) ← countSequences target depth (branch.map List.tail) s
        some ((r, next) :: exits, s)
      | [r] :: _ => some ((r, target) :: exits, s)
      | _ => some (exits, s)) ([], s)
    let exits := exits.reverse
    let slot := slotOf 10000 (exits.flatMap fun (r, next) => [r.low, r.high, next])
    s.state slot exits (Tally.rangeExit * exits.length)

/-- Counts the states that read a sequence from its end, which are those from `last` on: the
number of the state for the last range. A state is shared by sequences that begin in the same
way. -/
def countBackward (last : Nat) : List ByteRange → Sharing (Nat × ByteRange) →
    Option (Nat × Sharing (Nat × ByteRange))
  | [], s => some (last, s)
  | r :: rest, s => do
    let (state, s) ← s.state (slotOf 1000 [last, r.low, r.high]) (last, r) 0
    countBackward state rest s

/-- Counts the states for a set. -/
def CharSet.tally (direction : Direction) (s : CharSet) (t : Tally) : Option Tally :=
  if s.isAscii then t.grow 2 (Tally.rangeExit * s.ranges.length)
  else
    match direction with
    | .forward => do
      let (_, sharing) ← countSequences t.states 4 s.byteSequences { tally := ← t.grow 1 0 }
      some sharing.tally
    | .backward => do
      let last := t.states + 1
      let sharing ← s.byteSequences.foldlM (fun sharing sequence => do
        let (_, sharing) ← countBackward last sequence sharing
        some { sharing with tally := ← sharing.tally.grow 0 Tally.choiceExit })
        { tally := ← t.grow 2 0 }
      some sharing.tally

/-! ## Choices between texts -/

/-- The stretches of a list of byte sequences between the empty ones. Of empty sequences at the
front only the first one counts. -/
def stretches (before : List (List (List Nat))) (current : List (List Nat)) :
    List (List Nat) → List (List (List Nat))
  | [] => (current.reverse :: before).reverse
  | [] :: rest =>
    if current.isEmpty && !before.isEmpty && before.all List.isEmpty then
      stretches before current rest
    else stretches (current.reverse :: before) [] rest
  | bytes :: rest => stretches before (bytes :: current) rest

/-- The states and the bytes for ways out of a tree that tells apart byte sequences of at most
`depth` bytes, and prefers those that are earlier in the list. -/
def treeSize : (depth : Nat) → List (List Nat) → Nat × Nat
  | 0, _ => (0, 0)
  | depth + 1, sequences =>
    if sequences.all List.isEmpty then (0, 0)
    else
      let parts := (stretches [] [] sequences).map fun part =>
        let heads := (part.filterMap List.head?).eraseDups
        heads.map fun b => (part.filter (·.head? = some b)).map List.tail
      let below := parts.flatten.map (treeSize depth)
      let full := (parts.filter (!·.isEmpty)).length
      let ranges := (parts.map fun part =>
        if part.length ≤ 1 then 0 else Tally.rangeExit * part.length).sum
      (full + 1 + (below.map (·.1)).sum,
        ranges + Tally.choiceExit * (full + (parts.length - 1)) + (below.map (·.2)).sum)

/-- Counts the states for a choice between texts. -/
def tallyTexts (direction : Direction) (texts : List Text) (t : Tally) : Option Tally := do
  let sequences := texts.map fun chars =>
    let bytes := chars.flatMap fun c => utf8Bytes c.toNat
    match direction with
    | .forward => bytes
    | .backward => bytes.reverse
  let depth := (sequences.map List.length).foldl max 0
  let (states, exits) := treeSize (depth + 1) sequences
  (← t.grow 1 0).grow states exits

/-! ## Expressions -/

namespace Expr

/-- The text of an expression that is one. -/
def text? : Expr → Option Text
  | .text chars => some chars
  | _ => none

/-- Counts what connects an alternative with the ones before it. -/
def joinAlternative (earlier : Nat) (t : Tally) : Option Tally :=
  match earlier with
  | 0 => some t
  | 1 => t.grow 2 (2 * Tally.choiceExit)
  | _ => t.grow 0 Tally.choiceExit

/-- Counts the states for an expression, which is an alternative with a number of earlier
ones. -/
def tally (direction : Direction) : Expr → (earlier : Nat) → Tally → Option Tally
  | .empty, earlier, t => do joinAlternative earlier (← t.grow 1 0)
  | .text chars, earlier, t => do
    joinAlternative earlier (← t.grow (chars.flatMap fun c => utf8Bytes c.toNat).length 0)
  | .one set, earlier, t => do joinAlternative earlier (← set.tally direction t)
  | .look _, earlier, t => do joinAlternative earlier (← t.grow 1 0)
  | .group _ body, earlier, t =>
    match direction with
    | .forward => do
      joinAlternative earlier (← (← body.tally direction 0 (← t.grow 1 0)).grow 1 0)
    | .backward => do joinAlternative earlier (← body.tally direction 0 t)
  | .seq a b, earlier, t =>
    match direction with
    | .forward => do joinAlternative earlier (← b.tally direction 0 (← a.tally direction 0 t))
    | .backward => do joinAlternative earlier (← a.tally direction 0 (← b.tally direction 0 t))
  | .alt a b, earlier, t =>
    match if earlier = 0 then (choices (.alt a b)).mapM text? else none with
    | some texts => tallyTexts direction texts t
    | none => do
      b.tally direction (earlier + 1) (← joinAlternative earlier (← a.tally direction 0 t))
  | .repeated body least most _, earlier, t => do
    let count := body.tally direction 0
    let fork (t : Tally) : Option Tally := t.grow 1 (2 * Tally.choiceExit)
    joinAlternative earlier <| ←
      match least, most with
      | 0, none =>
        if body.consumes then do count (← fork t)
        else do (← fork (← fork (← count t))).grow 1 0
      | least, none => do fork (← Tally.times count least t)
      | 0, some 1 => do (← count (← fork t)).grow 1 0
      | least, some most => do
        let t ← if least = 0 then t.grow 1 0 else Tally.times count least t
        if least = most then some t
        else Tally.times (fun t => do count (← fork t)) (most - least) (← t.grow 1 0)

/-- Whether an expression matches only where a condition holds at the place where an automaton
begins. -/
def demands (direction : Direction) (condition : Look) : Expr → Bool
  | .empty | .text _ | .one _ => false
  | .look other => other = condition
  | .group _ body => body.demands direction condition
  | .seq a b =>
    match direction with
    | .forward => a.demands direction condition || (a.isWidthless && b.demands direction condition)
    | .backward => b.demands direction condition || (b.isWidthless && a.demands direction condition)
  | .alt a b => a.demands direction condition && b.demands direction condition
  | .repeated body least _ _ => least != 0 && body.demands direction condition

/-- Counts the states of the automaton for an expression. It begins with a loop that skips
bytes, unless a match begins where the text begins. -/
def automaton (direction : Direction) (e : Expr) : Option Tally := do
  let edge := match direction with
    | .forward => Look.textStart
    | .backward => Look.textEnd
  let start : Tally := ⟨0, 0⟩
  let start ← if e.demands direction edge then start.grow 1 0
    else start.grow 3 (2 * Tally.choiceExit + Tally.rangeExit)
  (← (Expr.group 0 e).tally direction 0 start).grow 1 0

/-- Whether both automata for an expression are small enough. -/
def fits (e : Expr) : Bool := (e.automaton .forward).isSome && (e.automaton .backward).isSome

end Expr

end CfgPatch.Regex
