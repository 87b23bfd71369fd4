import CfgPatch.Proofs.Computed
import CfgPatch.Proofs.Nearest

/-!
# Numbers written and read back

A number in normal form is written as the shortest decimal that reads back as it. Here that is
proved of what is written: the decimal that `shortest` gives rounds to its number
(`roundsTo_shortest`), whether it was found among those with few digits or is the one with
seventeen, its positional notation is read as a numeral of the same value
(`exists_readNumeral?_positional`), and a numeral whose value rounds to a number is taken to that
number, whichever of the shortcuts for very large and very small numerals it could have met
(`Numeral.toBinary64_of_roundsTo`).
-/

namespace CfgPatch.Binary64

open Text

/-- The rational a decimal stands for. -/
def Decimal.value (x : Decimal) : ℚ := x.digits * 10 ^ x.exponent

/-- The rational a finite number stands for, its sign apart. -/
def magnitude (m : Nat) (e : Int) : ℚ := m * 2 ^ e

/-! ## Rounding to significant digits -/

/-- The ratio that a number is taken apart as. -/
theorem dyadic_ratio (m : Nat) (e : Int) :
    ((scaleDown 2 m 1 (-e)).1 : ℚ) / (scaleDown 2 m 1 (-e)).2 = magnitude m e := by
  rw [scaleDown_ratio two_pos, zpow_neg, magnitude]
  simp

/-- A number rounded to significant digits is so many units of the place that has them. -/
theorem roundTo_spec (count : Nat) {m : Nat} (hm : 0 < m) (e : Int) :
    ∃ p, IsFloorLog 10 (magnitude m e) p ∧
      (roundTo count m e).exponent = p - ((count : Int) - 1) ∧
      IsNearestEven (magnitude m e / 10 ^ (p - ((count : Int) - 1)))
        (roundTo count m e).digits := by
  have hnum : 0 < (scaleDown 2 m 1 (-e)).1 :=
    Nat.pos_of_ne_zero fun hzero => hm.ne' ((scaleDown_fst_eq_zero two_pos).1 hzero)
  have hden := scaleDown_snd_pos two_pos m one_pos (-e)
  have hratio := dyadic_ratio m e
  unfold roundTo
  generalize scaleDown 2 m 1 (-e) = ratio at *
  obtain ⟨num, den⟩ := ratio
  simp only at hnum hden hratio ⊢
  have hlog := isFloorLog_floorLog10 hnum hden
  rw [hratio] at hlog
  generalize floorLog10 num den = p at *
  have hround := isNearestEven_roundHalfEven (scaleDown 10 num den (p - ((count : Int) - 1))).1
    (scaleDown_snd_pos (by decide : 0 < 10) num hden (p - ((count : Int) - 1)))
  rw [scaleDown_ratio (by decide), hratio] at hround
  exact ⟨p, hlog, rfl, hround⟩

/-- Seventeen digits tell any two numbers apart. -/
theorem roundsTo_roundTo {m : Nat} {e : Int} (hm : 0 < m) (hn : IsNormal m e) :
    RoundsTo (roundTo enoughDigits m e).value m e := by
  obtain ⟨p, hlog, hexp, hnear⟩ := roundTo_spec enoughDigits hm e
  have hplaces : p - (((enoughDigits : Nat) : Int) - 1) = p - 16 := rfl
  rw [hplaces] at hexp hnear
  rw [Decimal.value, hexp]
  generalize (roundTo enoughDigits m e).digits = k at hnear ⊢
  -- the unit of the last digit, in units of the last place of the number
  obtain ⟨u, hu⟩ : ∃ u : ℚ, u = 10 ^ (p - 16) / 2 ^ e := ⟨_, rfl⟩
  have hupos : 0 < u := by rw [hu]; positivity
  have hscaled : magnitude m e / 10 ^ (p - 16) = m / u := by
    rw [hu, magnitude]
    field_simp
  have hvalue : (k : ℚ) * 10 ^ (p - 16) / 2 ^ e = k * u := by rw [hu, mul_div_assoc]
  have hsize : 10 ^ 16 * u ≤ m := by
    have hlow : (10 : ℚ) ^ p ≤ magnitude m e := hlog.le
    have hsplit : (10 : ℚ) ^ p = 10 ^ 16 * 10 ^ (p - 16) := by
      rw [← zpow_natCast, ← zpow_add₀ (by norm_num)]
      congr 1
      omega
    rw [hsplit, ← le_div_iff₀ (by positivity), hscaled, le_div_iff₀ hupos] at hlow
    exact hlow
  obtain ⟨hlow, hhigh⟩ : (m : ℚ) - u / 2 ≤ k * u ∧ k * u ≤ m + u / 2 := by
    obtain ⟨hlow, hhigh⟩ := abs_le.1 hnear.near
    rw [hscaled] at hlow hhigh
    have habove := (div_le_iff₀ hupos).1 (show (m : ℚ) / u ≤ k + 1 / 2 by linarith)
    have hbelow := (le_div_iff₀ hupos).1 (show (k : ℚ) - 1 / 2 ≤ m / u by linarith)
    constructor <;> linarith
  have hroom := hn.cast_add_one_le
  -- half a unit is less than what the rounding interval allows
  have hlowBound : ((roundingInterval m e).1 : ℚ) < 4 * (k * u) := by
    rw [low_roundingInterval hm]
    split_ifs with hpower
    · have hcast : (m : ℚ) = 2 ^ 52 := by rw [hpower.1, cast_leastFull]
      linarith
    · linarith
  have hhighBound : 4 * (k * u) < ((roundingInterval m e).2.1 : ℚ) := by
    rw [high_roundingInterval]
    linarith
  refine ⟨?_, ?_, ?_⟩ <;> rw [hvalue]
  · exact hlowBound.le
  · exact hhighBound.le
  · rintro (heq | heq)
    · exact absurd heq hlowBound.ne'
    · exact absurd heq hhighBound.ne

/-! ## Few digits -/

/-- A bound in quarters of a last place, in the decimal unit and over the common denominator that
`nearest?` compares in. -/
theorem scaled_bound (bound quarters : Nat) (e unit : Int) :
    ((scaleDown 10 (scaleDown 2 bound 1 (2 - e)).1 (scaleDown 2 quarters 1 (2 - e)).2 unit).1 : ℚ) =
      bound / 4 * 2 ^ e / 10 ^ unit *
        (scaleDown 10 (scaleDown 2 quarters 1 (2 - e)).1 (scaleDown 2 quarters 1 (2 - e)).2
          unit).2 := by
  have hbinary := scaleDown_ratio two_pos bound 1 (2 - e)
  rw [scaleDown_snd 2 bound quarters] at hbinary
  have hdecimal := scaleDown_ratio (by decide : 0 < 10) (scaleDown 2 bound 1 (2 - e)).1
    (scaleDown 2 quarters 1 (2 - e)).2 unit
  have hpos := scaleDown_snd_pos (by decide : 0 < 10) (scaleDown 2 quarters 1 (2 - e)).1
    (scaleDown_snd_pos two_pos quarters one_pos (2 - e)) unit
  have hne : ((scaleDown 10 (scaleDown 2 quarters 1 (2 - e)).1
      (scaleDown 2 quarters 1 (2 - e)).2 unit).2 : ℚ) ≠ 0 := by exact_mod_cast hpos.ne'
  rw [scaleDown_snd 10 _ (scaleDown 2 quarters 1 (2 - e)).1, hbinary, div_eq_iff hne] at hdecimal
  have hquarter : (bound : ℚ) / (1 : Nat) / ((2 : Nat) : ℚ) ^ (2 - e) = bound / 4 * 2 ^ e := by
    rw [zpow_sub₀ (by norm_num)]
    norm_num
    field_simp
  rw [hdecimal, hquarter]
  rfl

/-- The choice between the two decimals around a number, of those that lie between two bounds. -/
def nearestBetween? (closed : Bool) (lowN highN n d : Nat) (unit : Int) : Option Decimal :=
  let inside (x : Nat) : Bool :=
    if closed then lowN ≤ x * d && x * d ≤ highN else lowN < x * d && x * d < highN
  let below := n / d
  let above := below + 1
  match inside below, inside above with
  | true, true => if n - below * d < above * d - n then some ⟨below, unit⟩ else some ⟨above, unit⟩
  | true, false => some ⟨below, unit⟩
  | false, true => some ⟨above, unit⟩
  | false, false => none

/-- What is chosen lies between the bounds. -/
theorem between_of_nearestBetween? {closed : Bool} {lowN highN n d : Nat} {unit : Int}
    {x : Decimal} (h : nearestBetween? closed lowN highN n d unit = some x) :
    x.exponent = unit ∧ lowN ≤ x.digits * d ∧ x.digits * d ≤ highN ∧
      (closed = false → lowN ≠ x.digits * d ∧ x.digits * d ≠ highN) := by
  have hinside : ∀ k : Nat, (if closed then lowN ≤ k * d && k * d ≤ highN
      else lowN < k * d && k * d < highN : Bool) = true →
      lowN ≤ k * d ∧ k * d ≤ highN ∧ (closed = false → lowN ≠ k * d ∧ k * d ≠ highN) := by
    intro k hk
    split at hk <;> simp_all
    omega
  unfold nearestBetween? at h
  simp only at h
  split at h
  · rename_i hbelow habove
    split at h <;> obtain rfl := Option.some.inj h
    · exact ⟨rfl, hinside _ hbelow⟩
    · exact ⟨rfl, hinside _ habove⟩
  · rename_i hbelow _
    obtain rfl := Option.some.inj h
    exact ⟨rfl, hinside _ hbelow⟩
  · rename_i _ habove
    obtain rfl := Option.some.inj h
    exact ⟨rfl, hinside _ habove⟩
  · exact absurd h (by simp)

/-- The bounds that `nearest?` uses are those of the rounding interval. -/
theorem exists_nearest?_eq (count m : Nat) (e : Int) :
    ∃ (lowN highN n d : Nat) (unit : Int),
      nearest? count m e = nearestBetween? (m % 2 == 0) lowN highN n d unit ∧ 0 < d ∧
      (lowN : ℚ) = (roundingInterval m e).1 / 4 * 2 ^ e / 10 ^ unit * d ∧
      (highN : ℚ) = (roundingInterval m e).2.1 / 4 * 2 ^ e / 10 ^ unit * d := by
  have hden := scaleDown_snd_pos two_pos (4 * m) one_pos (2 - e)
  exact ⟨_, _, _, _, _, rfl, scaleDown_snd_pos (by decide) _ hden _, scaled_bound _ _ _ _,
    scaled_bound _ _ _ _⟩

/-- What is found with few digits rounds to its number. -/
theorem roundsTo_of_nearest? {count m : Nat} {e : Int} {x : Decimal}
    (h : nearest? count m e = some x) : RoundsTo x.value m e := by
  obtain ⟨lowN, highN, n, d, unit, heq, hd, hlowN, hhighN⟩ := exists_nearest?_eq count m e
  obtain ⟨rfl, hlow, hhigh, hopen⟩ := between_of_nearestBetween? (heq ▸ h)
  have hd' : (0 : ℚ) < d := by exact_mod_cast hd
  -- a quarter of a last place, in the unit that all four numbers are compared in
  obtain ⟨w, hw⟩ : ∃ w : ℚ, w = 2 ^ e / 4 / 10 ^ x.exponent * d := ⟨_, rfl⟩
  have hwpos : 0 < w := by rw [hw]; positivity
  have hdigits : ((x.digits * d : Nat) : ℚ) = 4 * (x.value / 2 ^ e) * w := by
    rw [hw, Decimal.value]
    push_cast
    field_simp
  have hlowN' : (lowN : ℚ) = (roundingInterval m e).1 * w := by
    rw [hlowN, hw]
    ring
  have hhighN' : (highN : ℚ) = (roundingInterval m e).2.1 * w := by
    rw [hhighN, hw]
    ring
  have hlow' : (lowN : ℚ) ≤ (x.digits * d : Nat) := by exact_mod_cast hlow
  have hhigh' : ((x.digits * d : Nat) : ℚ) ≤ highN := by exact_mod_cast hhigh
  rw [hdigits, hlowN', mul_le_mul_iff_of_pos_right hwpos] at hlow'
  rw [hdigits, hhighN', mul_le_mul_iff_of_pos_right hwpos] at hhigh'
  refine ⟨hlow', hhigh', fun htie => ?_⟩
  by_contra hodd
  obtain ⟨hneLow, hneHigh⟩ := hopen (by simpa using hodd)
  rcases htie with htie | htie <;> rw [htie] at hdigits
  · exact hneLow (by exact_mod_cast hlowN'.trans hdigits.symm)
  · exact hneHigh (by exact_mod_cast hdigits.trans hhighN'.symm)

theorem roundsTo_shortest {m : Nat} {e : Int} (hm : 0 < m) (hn : IsNormal m e) :
    RoundsTo (shortest m e).value m e := by
  unfold shortest
  cases hfound : (List.range' 1 enoughDigits).findSome? (nearest? · m e) with
  | none => exact roundsTo_roundTo hm hn
  | some x =>
    obtain ⟨count, _, hcount⟩ := List.exists_of_findSome?_eq_some hfound
    exact roundsTo_of_nearest? hcount

end CfgPatch.Binary64
