import CfgPatch.Regex.Program

/-!
# Searching

A match is looked for from left to right, and of the matches at one place the one that the
expression prefers is taken. The search keeps the ways that are still open on a stack, the
preferred one on top; in the beginning these are the places where a match may begin. A pair of
an instruction and a place that has been tried once is not tried again, since it would fail
again. Every step takes a way off the stack, and a pair that is tried for the first time puts
at most two on it; so the number of steps is bounded by the number of pairs and of places.
-/

namespace CfgPatch.Regex

/-! ## Conditions -/

/-- Whether the character at a place is in a set. -/
def isAt (set : CharSet) (c : Option Char) : Bool := c.any set.contains

/-- Whether a condition holds between two characters; at an end of the text one is missing. -/
def Look.holds : Look → (before after : Option Char) → Bool
  | .textStart, before, _ => before.isNone
  | .textEnd, _, after => after.isNone
  | .lineStart false, before, _ => before.all (· == '\n')
  | .lineStart true, before, after =>
    before.all fun c => c == '\n' || (c == '\r' && after != some '\n')
  | .lineEnd false, _, after => after.all (· == '\n')
  | .lineEnd true, before, after =>
    after.all fun c => c == '\r' || (c == '\n' && before != some '\r')
  | .wordEdge word, before, after => isAt word before != isAt word after
  | .noWordEdge word, before, after => isAt word before == isAt word after
  | .wordStart word, before, after => !isAt word before && isAt word after
  | .wordEnd word, before, after => isAt word before && !isAt word after
  | .noWordBefore word, before, _ => !isAt word before
  | .noWordAfter word, _, after => !isAt word after

/-! ## Running a program -/

/-- A way that is open: an instruction, a place, and what was remembered on the way there,
the latest first. -/
structure Thread where
  pc : Nat
  place : Nat
  saved : List (Nat × Nat)

/-- Follows open ways until one of them accepts. -/
def follow (program : Program) (text : Array Char) : (budget : Nat) → (tried : Array Bool) →
    List Thread → Option (List (Nat × Nat))
  | 0, _, _ => none
  | _, _, [] => none
  | budget + 1, tried, thread :: threads =>
    let width := text.size + 1
    let key := thread.pc * width + thread.place
    if tried.getD key true then follow program text budget tried threads
    else
      let tried := tried.setIfInBounds key true
      let go (offset : Int) (place : Nat) (saved : List (Nat × Nat)) : Thread :=
        ⟨(thread.pc + offset).toNat, place, saved⟩
      match program.code[thread.pc]? with
      | none => follow program text budget tried threads
      | some .accept => some thread.saved
      | some (.take set) =>
        if isAt set text[thread.place]? then
          follow program text budget tried (go 1 (thread.place + 1) thread.saved :: threads)
        else follow program text budget tried threads
      | some (.look condition) =>
        let before := if thread.place = 0 then none else text[thread.place - 1]?
        if condition.holds before text[thread.place]? then
          follow program text budget tried (go 1 thread.place thread.saved :: threads)
        else follow program text budget tried threads
      | some (.save slot) =>
        follow program text budget tried
          (go 1 thread.place ((slot, thread.place) :: thread.saved) :: threads)
      | some (.jump offset) =>
        follow program text budget tried (go offset thread.place thread.saved :: threads)
      | some (.fork first second) =>
        follow program text budget tried
          (go first thread.place thread.saved :: go second thread.place thread.saved :: threads)

/-! ## Matches -/

/-- A match: for each group that took part, the places where its match begins and ends. -/
structure Match where
  saved : List (Nat × Nat)

namespace Match

/-- The place in a slot. -/
def slot? (m : Match) (slot : Nat) : Option Nat := (m.saved.find? (·.1 = slot)).map (·.2)

/-- The range that a group matched. -/
def group? (m : Match) (n : Nat) : Option (Nat × Nat) :=
  match m.slot? (2 * n), m.slot? (2 * n + 1) with
  | some a, some b => some (a, b)
  | _, _ => none

/-- Where the match begins. -/
def start (m : Match) : Nat := (m.slot? 0).getD 0

/-- Where the match ends. -/
def stop (m : Match) : Nat := (m.slot? 1).getD 0

end Match

/-- The leftmost match that begins at a place or behind it. -/
def Program.find? (program : Program) (text : Array Char) (place : Nat) : Option Match :=
  let pairs := program.code.size * (text.size + 1)
  let starts := (List.range' place (text.size + 1 - place)).map fun start => ⟨0, start, []⟩
  (follow program text (2 * pairs + starts.length + 1) (Array.replicate pairs false) starts).map
    Match.mk

end CfgPatch.Regex
