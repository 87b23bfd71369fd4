import CfgPatch.Regex.CharSet

/-!
# Characters as bytes

A set of characters is a set of sequences of bytes. It can be written as a list of sequences of
ranges of bytes, each of which stands for every choice of one byte from each of its ranges.
-/

namespace CfgPatch.Regex

/-- The bytes from `low` to `high`, both included. -/
structure ByteRange where
  low : Nat
  high : Nat
deriving DecidableEq, Repr

/-- The bytes of a character. -/
def utf8Bytes (n : Nat) : List Nat :=
  if n < 0x80 then [n]
  else if n < 0x800 then [0xC0 + n / 0x40, 0x80 + n % 0x40]
  else if n < 0x10000 then [0xE0 + n / 0x1000, 0x80 + n / 0x40 % 0x40, 0x80 + n % 0x40]
  else
    [0xF0 + n / 0x40000, 0x80 + n / 0x1000 % 0x40, 0x80 + n / 0x40 % 0x40, 0x80 + n % 0x40]

namespace CodeRange

/-- The ranges of characters that have the same number of bytes. -/
def evenLength : List CodeRange :=
  [⟨0, 0x7F⟩, ⟨0x80, 0x7FF⟩, ⟨0x800, 0xD7FF⟩, ⟨0xE000, 0xFFFF⟩, ⟨0x10000, CharSet.maxCode⟩]

/-- Cuts off the end of a range, so that the rest ends with a whole block of `size`. -/
def cutEnd (size : Nat) (r : CodeRange) : List CodeRange :=
  if r.low / size = r.high / size || r.high % size + 1 = size then [r]
  else
    let start := r.high - r.high % size
    [⟨r.low, start - 1⟩, ⟨start, r.high⟩]

/-- Cuts a range that reaches over several blocks of `size` into whole blocks and what is in
front of and behind them. -/
def cutBlocks (size : Nat) (r : CodeRange) : List CodeRange :=
  if r.low / size = r.high / size then [r]
  else if r.low % size = 0 then r.cutEnd size
  else
    let start := r.low - r.low % size + size
    ⟨r.low, start - 1⟩ :: cutEnd size ⟨start, r.high⟩

/-- The sequences of byte ranges for a range of characters, in ascending order. -/
def byteSequences (r : CodeRange) : List (List ByteRange) :=
  let even := CharSet.common [r] evenLength
  let cut := even.flatMap fun r =>
    if r.high < 0x80 then [r]
    else ((r.cutBlocks 0x40).flatMap (cutBlocks 0x1000)).flatMap (cutBlocks 0x40000)
  cut.map fun r => List.zipWith ByteRange.mk (utf8Bytes r.low) (utf8Bytes r.high)

end CodeRange

/-- The sequences of byte ranges for a set of characters, in ascending order. -/
def CharSet.byteSequences (s : CharSet) : List (List ByteRange) :=
  s.ranges.flatMap CodeRange.byteSequences

end CfgPatch.Regex
