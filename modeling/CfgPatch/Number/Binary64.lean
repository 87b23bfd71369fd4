/-!
# Binary64 numbers

Numbers are those of the IEEE 754 format with 64 bits. A finite one is `± mantissa · 2 ^ exponent`
with natural mantissa, so sums, products and quotients are computed exactly on integers and
rounded once, to the nearest number of the format, a tie going to the even mantissa. Nothing
here depends on the processor except powers, which no finite rule computes.

Values that the operations build are in *normal form*: the mantissa is below `2 ^ 53`, the
exponent at least `-1074`, and a mantissa below `2 ^ 52` has that least exponent.
-/

namespace CfgPatch

/-- A number of the format. The sign of zero is kept; a number that is none has no sign. -/
inductive Binary64 where
  /-- `mantissa · 2 ^ exponent`, negated if `negative`. -/
  | finite (negative : Bool) (mantissa : Nat) (exponent : Int)
  /-- An infinity. -/
  | infinite (negative : Bool)
  /-- The result of an undefined operation. -/
  | nan
deriving DecidableEq, Repr

/-! ## Rounding -/

/-- The natural number nearest to `num / den`; a tie goes to the even one. -/
def roundHalfEven (num den : Nat) : Nat :=
  let q := num / den
  let r := num % den
  if 2 * r < den || (2 * r == den && q % 2 == 0) then q else q + 1

/-- A ratio divided by `base ^ e`, again as a ratio. -/
def scaleDown (base : Nat) (num den : Nat) (e : Int) : Nat × Nat :=
  if e ≥ 0 then (num, den * Nat.pow base e.toNat) else (num * Nat.pow base (-e).toNat, den)

/-- The integer `e` with `2 ^ e ≤ num / den < 2 ^ (e + 1)`, for a positive ratio. -/
def floorLog2 (num den : Nat) : Int :=
  let e := (num.log2 : Int) - (den.log2 : Int)
  let (n, d) := scaleDown 2 num den e
  if d ≤ n then e else e - 1

namespace Binary64

/-- The number of bits of a mantissa behind the first one. -/
def fractionBits : Nat := 52

/-- The least mantissa of a number that is not too small to have all bits. -/
def leastFull : Nat := Nat.pow 2 fractionBits

/-- The least exponent. -/
def minExponent : Int := -1074

/-- The largest exponent. -/
def maxExponent : Int := 971

/-- The number of the format nearest to `num / den`, negated if `negative`. -/
def ofRatio (negative : Bool) (num den : Nat) : Binary64 :=
  if num = 0 then finite negative 0 minExponent
  else
    let e := max (floorLog2 num den - fractionBits) minExponent
    let (n, d) := scaleDown 2 num den e
    let m := roundHalfEven n d
    let (m, e) := if m = 2 * leastFull then (leastFull, e + 1) else (m, e)
    if e > maxExponent then infinite negative else finite negative m e

/-- The number of the format nearest to `mantissa · 2 ^ exponent`. -/
def ofDyadic (negative : Bool) (mantissa : Nat) (exponent : Int) : Binary64 :=
  let (n, d) := scaleDown 2 mantissa 1 (-exponent)
  ofRatio negative n d

/-- The number of the format nearest to `digits · 10 ^ exponent`. -/
def ofDecimal (negative : Bool) (digits : Nat) (exponent : Int) : Binary64 :=
  let (n, d) := scaleDown 10 digits 1 (-exponent)
  ofRatio negative n d

/-- Whether a number is finite. -/
def isFinite : Binary64 → Bool
  | finite .. => true
  | _ => false

/-- Whether a number is a zero of either sign. -/
def isZero : Binary64 → Bool
  | finite _ m _ => m == 0
  | _ => false

/-! ## Arithmetic -/

/-- The mantissa with its sign. -/
def signed (negative : Bool) (m : Nat) : Int := if negative then -(m : Int) else m

/-- Two finite numbers as integers in units of the same power of two, whose exponent comes
third. -/
def align (n₁ : Bool) (m₁ : Nat) (e₁ : Int) (n₂ : Bool) (m₂ : Nat) (e₂ : Int) :
    Int × Int × Int :=
  let e := min e₁ e₂
  (signed n₁ (m₁ * Nat.pow 2 (e₁ - e).toNat), signed n₂ (m₂ * Nat.pow 2 (e₂ - e).toNat), e)

/-- The number with the other sign. -/
def neg : Binary64 → Binary64
  | finite n m e => finite (!n) m e
  | infinite n => infinite (!n)
  | nan => nan

/-- The sum. A sum of zeros is negative only if both are. -/
def add : Binary64 → Binary64 → Binary64
  | finite n₁ m₁ e₁, finite n₂ m₂ e₂ =>
    let (a, b, e) := align n₁ m₁ e₁ n₂ m₂ e₂
    let sum := a + b
    if sum = 0 then finite (n₁ && n₂) 0 minExponent
    else ofDyadic (sum < 0) sum.natAbs e
  | infinite n₁, infinite n₂ => if n₁ = n₂ then infinite n₁ else nan
  | infinite n, finite .. | finite .., infinite n => infinite n
  | _, _ => nan

/-- The difference. -/
def sub (x y : Binary64) : Binary64 := add x (neg y)

/-- The product. -/
def mul : Binary64 → Binary64 → Binary64
  | finite n₁ m₁ e₁, finite n₂ m₂ e₂ => ofDyadic (n₁ != n₂) (m₁ * m₂) (e₁ + e₂)
  | infinite n₁, infinite n₂ => infinite (n₁ != n₂)
  | infinite n₁, finite n₂ m _ | finite n₂ m _, infinite n₁ =>
    if m = 0 then nan else infinite (n₁ != n₂)
  | _, _ => nan

/-- The quotient. A zero divides a zero into no number and all else into an infinity. -/
def div : Binary64 → Binary64 → Binary64
  | finite n₁ m₁ e₁, finite n₂ m₂ e₂ =>
    if m₂ = 0 then if m₁ = 0 then nan else infinite (n₁ != n₂)
    else
      let (n, d) := scaleDown 2 m₁ m₂ (e₂ - e₁)
      ofRatio (n₁ != n₂) n d
  | infinite n₁, finite n₂ _ _ => infinite (n₁ != n₂)
  | finite n₁ _ _, infinite n₂ => finite (n₁ != n₂) 0 minExponent
  | _, _ => nan

/-! ## Order -/

/-- Whether the numbers are equal; zeros of both signs are, and `nan` equals nothing. -/
def eq : Binary64 → Binary64 → Bool
  | finite n₁ m₁ e₁, finite n₂ m₂ e₂ =>
    let (a, b, _) := align n₁ m₁ e₁ n₂ m₂ e₂
    a == b
  | infinite n₁, infinite n₂ => n₁ == n₂
  | _, _ => false

/-- Whether the first number is below the second; `nan` is below and above nothing. -/
def lt : Binary64 → Binary64 → Bool
  | finite n₁ m₁ e₁, finite n₂ m₂ e₂ =>
    let (a, b, _) := align n₁ m₁ e₁ n₂ m₂ e₂
    a < b
  | infinite n₁, infinite n₂ => n₁ && !n₂
  | infinite n, finite .. => n
  | finite .., infinite n => !n
  | _, _ => false

/-! ## Bits and powers -/

/-- The bit of a machine word that holds the sign. -/
def signBit : Nat := Nat.pow 2 63

/-- The number as a machine word in the interchange format. -/
def toBits : Binary64 → UInt64
  | finite n m e =>
    let magnitude := if m < leastFull then m
      else (e - minExponent + 1).toNat * leastFull + (m - leastFull)
    UInt64.ofNat ((if n then signBit else 0) + magnitude)
  | infinite n => if n then 0xFFF0000000000000 else 0x7FF0000000000000
  | nan => 0x7FF8000000000000

/-- The number a machine word stands for. -/
def ofBits (bits : UInt64) : Binary64 :=
  let n := bits.toNat
  let negative := n ≥ signBit
  let biased := n % signBit / leastFull
  let fraction := n % leastFull
  if biased = 2047 then if fraction = 0 then infinite negative else nan
  else if biased = 0 then finite negative fraction minExponent
  else finite negative (leastFull + fraction) (minExponent + (biased - 1 : Nat))

/-- The power, as the processor's library computes it. -/
def pow (x y : Binary64) : Binary64 :=
  ofBits (Float.pow (Float.ofBits x.toBits) (Float.ofBits y.toBits)).toBits

end Binary64

end CfgPatch
