/-!
# Sets of characters

A set of characters is a list of ranges of code points. The operations keep it in normal
form: in ascending order, with a gap between each two ranges.
-/

namespace CfgPatch.Regex

/-- The code points from `low` to `high`, both included. -/
structure CodeRange where
  low : Nat
  high : Nat
deriving DecidableEq, Repr

/-- A set of characters, as ranges of code points. -/
structure CharSet where
  ranges : List CodeRange
deriving DecidableEq, Repr

namespace CharSet

/-- The largest code point. -/
def maxCode : Nat := 0x10FFFF

/-- Whether the set holds a code point. -/
def containsCode (s : CharSet) (n : Nat) : Bool := s.ranges.any fun r => r.low ≤ n && n ≤ r.high

/-- Whether the set holds a character. -/
def contains (s : CharSet) (c : Char) : Bool := s.containsCode c.toNat

/-! ## Building -/

/-- Joins ranges in ascending order that touch or overlap. -/
def merge : List CodeRange → List CodeRange
  | [] => []
  | r :: rs => go r rs
where
  /-- Joins ranges to the one before them. -/
  go (r : CodeRange) : List CodeRange → List CodeRange
    | [] => [r]
    | s :: rs =>
      if s.low ≤ r.high + 1 then go ⟨r.low, max r.high s.high⟩ rs else r :: go s rs

/-- The set of the code points of some ranges. -/
def ofRanges (rs : List CodeRange) : CharSet :=
  ⟨merge (rs.mergeSort fun r s => r.low ≤ s.low)⟩

/-- The empty set. -/
def empty : CharSet := ⟨[]⟩

/-- The set of every character. -/
def full : CharSet := ⟨[⟨0, maxCode⟩]⟩

/-- The set of one character. -/
def single (c : Char) : CharSet := ⟨[⟨c.toNat, c.toNat⟩]⟩

/-- The set of the characters from `a` to `b`. -/
def between (a b : Char) : CharSet := ofRanges [⟨a.toNat, b.toNat⟩]

/-- The ASCII characters. -/
def ascii : CharSet := ⟨[⟨0, 0x7F⟩]⟩

/-! ## Operations -/

/-- The characters of either set. -/
def union (a b : CharSet) : CharSet := ofRanges (a.ranges ++ b.ranges)

/-- The characters of any of the sets. -/
def unions (sets : List CharSet) : CharSet := ofRanges (sets.flatMap (·.ranges))

/-- The code point of the next character; the surrogates are no characters. -/
def next (n : Nat) : Nat := if n = 0xD7FF then 0xE000 else n + 1

/-- The code point of the character before. -/
def previous (n : Nat) : Nat := if n = 0xE000 then 0xD7FF else n - 1

/-- The ranges between ranges in ascending order, from `start` on, as `between` makes them. -/
def gaps (between : Nat → Nat → List CodeRange) (start : Nat) : List CodeRange → List CodeRange
  | [] => if start ≤ maxCode then [⟨start, maxCode⟩] else []
  | r :: rs =>
    let rest := gaps between (next r.high) rs
    if start = 0 && r.low = 0 then rest else between start (previous r.low) ++ rest

/-- The characters that are not in the set. Where two ranges of the set meet at the
surrogates, there is no character between them, and the complement holds the two characters
that meet there. -/
def compl (s : CharSet) : CharSet := ⟨gaps (fun a b => [⟨min a b, max a b⟩]) 0 s.ranges⟩

/-- The ranges that two lists of ranges in ascending order have in common. -/
def common : List CodeRange → List CodeRange → List CodeRange
  | [], _ => []
  | _, [] => []
  | r :: rs, s :: ss =>
    let rest := if r.high < s.high then common rs (s :: ss) else common (r :: rs) ss
    let low := max r.low s.low
    let high := min r.high s.high
    if low ≤ high then ⟨low, high⟩ :: rest else rest
termination_by rs ss => rs.length + ss.length

/-- The characters of both sets. -/
def inter (a b : CharSet) : CharSet := ⟨common a.ranges b.ranges⟩

/-- The characters of the first set that are not in the second. -/
def diff (a b : CharSet) : CharSet :=
  a.inter ⟨gaps (fun a b => if a ≤ b then [⟨a, b⟩] else []) 0 b.ranges⟩

/-- The characters of exactly one of the sets. -/
def symmDiff (a b : CharSet) : CharSet := (a.union b).diff (a.inter b)

/-- Whether the set has no character outside ASCII. -/
def isAscii (s : CharSet) : Bool := s.ranges.all (·.high ≤ 0x7F)

end CharSet

end CfgPatch.Regex
