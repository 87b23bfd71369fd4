import CfgPatch.Number.Binary64
import CfgPatch.Text

/-!
# Decimal notation of binary64 numbers

Reading takes a decimal to the nearest number of the format. Writing has two forms. The
*shortest* form has the fewest digits that read back as the same number, and of those the
ones nearest to it. The *plain* form first rounds to fifteen significant digits, so that the
noise of a calculation does not show, and then writes the shortest form of what that reads
back as. Both are positional, with no exponent whatever the size of the number.
-/

namespace CfgPatch.Binary64

open Text

/-! ## Reading -/

/-- A numeral cut into its digits before and behind the point and its exponent. -/
structure Numeral where
  whole : Text
  fraction : Text
  exponent : Int
deriving DecidableEq, Repr

/-- Reads a sign: whether it is a minus, and the text behind it. -/
def readSign : Text → Bool × Text
  | '-' :: t => (true, t)
  | '+' :: t => (false, t)
  | t => (false, t)

/-- Reads the exponent of a numeral to the end of the text. -/
def readExponent? : Text → Option Int
  | [] => some 0
  | c :: t =>
    let (negative, digits) := readSign t
    if c.toLower = 'e' && !digits.isEmpty && digits.all Char.isDigit then
      some (if negative then -(digitsValue digits : Int) else digitsValue digits)
    else none

/-- Reads a numeral with no sign: digits, possibly with a point among them or at either end,
and possibly an exponent. -/
def readNumeral? (t : Text) : Option Numeral :=
  let whole := t.takeWhile Char.isDigit
  let rest := t.dropWhile Char.isDigit
  let (fraction, rest) := match rest with
    | '.' :: r => (r.takeWhile Char.isDigit, r.dropWhile Char.isDigit)
    | _ => ([], rest)
  if whole.isEmpty && fraction.isEmpty then none
  else (readExponent? rest).map fun exponent => ⟨whole, fraction, exponent⟩

/-- The number of decimal digits of a natural number. -/
def digitCount (n : Nat) : Nat := (ofNat n).length

/-- Beyond this many digits before the point a number is infinite, and with this many zeros
behind it a number is zero. -/
def decimalRange : Int := 400

/-- The number of the format nearest to a numeral. -/
def Numeral.toBinary64 (negative : Bool) (n : Numeral) : Binary64 :=
  let digits := digitsValue (n.whole ++ n.fraction)
  let exponent := n.exponent - n.fraction.length
  if digits = 0 then finite negative 0 minExponent
  else
    let size := exponent + digitCount digits
    if size > decimalRange then infinite negative
    else if size < -decimalRange then finite negative 0 minExponent
    else ofDecimal negative digits exponent

/-- Reads a number: a numeral or the word for an infinity or for no number, in any case,
with an optional sign. -/
def parse? (t : Text) : Option Binary64 :=
  let (negative, t) := readSign t
  let word := t.map Char.toLower
  if word = "inf".toList || word = "infinity".toList then some (infinite negative)
  else if word = "nan".toList then some nan
  else (readNumeral? t).map (Numeral.toBinary64 negative)

/-! ## Decimal size -/

/-- The integer `p` with `10 ^ p ≤ num / den < 10 ^ (p + 1)`, for a positive ratio. -/
def floorLog10 (num den : Nat) : Int :=
  if den ≤ num then (digitCount (num / den) : Int) - 1
  else
    let k := digitCount (den / num)
    if den ≤ num * Nat.pow 10 (k - 1) then -((k - 1 : Nat) : Int) else -(k : Int)

/-! ## Digits -/

/-- A positive decimal, `digits · 10 ^ exponent`. -/
structure Decimal where
  digits : Nat
  exponent : Int
deriving DecidableEq, Repr

/-- The number rounded to `count` significant digits, a tie going to the even digit. -/
def roundTo (count mantissa : Nat) (exponent : Int) : Decimal :=
  let (num, den) := scaleDown 2 mantissa 1 (-exponent)
  let unit := floorLog10 num den - ((count : Int) - 1)
  let (n, d) := scaleDown 10 num den unit
  ⟨roundHalfEven n d, unit⟩

/-- The reals that round to a finite number, as bounds in quarters of a unit of its last
place, and whether they include the bounds. -/
def roundingInterval (mantissa : Nat) (exponent : Int) : Nat × Nat × Bool :=
  let low := if mantissa = leastFull && exponent > minExponent then 4 * mantissa - 1
    else 4 * mantissa - 2
  (low, 4 * mantissa + 2, mantissa % 2 == 0)

/-- The decimal with `count` digits that lies nearest to a number among those that read back
as it, if there is one; of two that are equally near it is the larger. -/
def nearest? (count mantissa : Nat) (exponent : Int) : Option Decimal :=
  let (low, high, closed) := roundingInterval mantissa exponent
  let (num, den) := scaleDown 2 (4 * mantissa) 1 (2 - exponent)
  let unit := floorLog10 num den - ((count : Int) - 1)
  -- All four are compared in the same unit, a fraction of `den · 10 ^ unit`.
  let (n, d) := scaleDown 10 num den unit
  let (lowN, _) := scaleDown 2 low 1 (2 - exponent)
  let (lowN, _) := scaleDown 10 lowN den unit
  let (highN, _) := scaleDown 2 high 1 (2 - exponent)
  let (highN, _) := scaleDown 10 highN den unit
  let inside (x : Nat) : Bool :=
    if closed then lowN ≤ x * d && x * d ≤ highN else lowN < x * d && x * d < highN
  let below := n / d
  let above := below + 1
  match inside below, inside above with
  | true, true => if n - below * d < above * d - n then some ⟨below, unit⟩ else some ⟨above, unit⟩
  | true, false => some ⟨below, unit⟩
  | false, true => some ⟨above, unit⟩
  | false, false => none

/-- Enough digits to tell any two numbers of the format apart. -/
def enoughDigits : Nat := 17

/-- The shortest decimal that reads back as a positive number, and the nearest of those. -/
def shortest (mantissa : Nat) (exponent : Int) : Decimal :=
  ((List.range' 1 enoughDigits).findSome? (nearest? · mantissa exponent)).getD
    (roundTo enoughDigits mantissa exponent)

/-! ## Writing -/

/-- A decimal in positional notation. -/
def Decimal.positional (x : Decimal) : Text :=
  let all := ofNat x.digits
  let digits := (all.reverse.dropWhile (· == '0')).reverse
  let exponent := x.exponent + (all.length - digits.length : Nat)
  if exponent ≥ 0 then digits ++ List.replicate exponent.toNat '0'
  else
    let places := (-exponent).toNat
    if places < digits.length then
      digits.take (digits.length - places) ++ '.' :: digits.drop (digits.length - places)
    else '0' :: '.' :: List.replicate (places - digits.length) '0' ++ digits

/-- A minus in front of a negative number. -/
def withSign (negative : Bool) (t : Text) : Text := if negative then '-' :: t else t

/-- The shortest form of a number. -/
def toText : Binary64 → Text
  | finite negative m e =>
    withSign negative (if m = 0 then ['0'] else (shortest m e).positional)
  | infinite negative => withSign negative "inf".toList
  | nan => "NaN".toList

/-- The number of digits of the plain form. -/
def plainDigits : Nat := 15

/-- The number with the noise beyond fifteen significant digits rounded away. -/
def denoise : Binary64 → Binary64
  | finite negative m e =>
    if m = 0 then finite negative 0 minExponent
    else
      let x := roundTo plainDigits m e
      ofDecimal negative x.digits x.exponent
  | x => x

/-- The plain form of a number; zero has no sign. -/
def toPlainText (x : Binary64) : Text :=
  let x := x.denoise
  if x.isZero then ['0'] else x.toText

end CfgPatch.Binary64
