import CfgPatch.Number.Decimal
import Mathlib.Algebra.Order.Field.Power
import Mathlib.Data.Rat.Cast.Order
import Mathlib.Tactic.FieldSimp
import Mathlib.Tactic.Linarith
import Mathlib.Tactic.Positivity
import Mathlib.Tactic.Qify

/-!
# Rounding and sizes

Numbers are rounded on pairs of natural numbers. Here the pairs are read as rationals, and each
of the integer operations gets the one law that later proofs use: `scaleDown` divides by a power,
`roundHalfEven` gives the nearest natural number (`IsNearestEven`), of which there is only one, and
`floorLog2` and `floorLog10` give the place of the first digit (`IsFloorLog`), with which powers
are compared.
-/

namespace CfgPatch

open Text

/-! ## Scaling -/

/-- The denominator does not depend on the numerator. -/
theorem scaleDown_snd (base num num' den : Nat) (e : Int) :
    (scaleDown base num den e).2 = (scaleDown base num' den e).2 := by
  unfold scaleDown
  split <;> rfl

theorem scaleDown_snd_pos {base : Nat} (hbase : 0 < base) (num : Nat) {den : Nat} (hden : 0 < den)
    (e : Int) : 0 < (scaleDown base num den e).2 := by
  unfold scaleDown
  split
  · exact Nat.mul_pos hden (Nat.pow_pos hbase)
  · exact hden

theorem scaleDown_fst_eq_zero {base : Nat} (hbase : 0 < base) {num den : Nat} {e : Int} :
    (scaleDown base num den e).1 = 0 ↔ num = 0 := by
  unfold scaleDown
  split
  · rfl
  · exact Nat.mul_eq_zero.trans (or_iff_left (Nat.pow_pos hbase).ne')

/-- Scaling divides a ratio by a power. -/
theorem scaleDown_ratio {base : Nat} (hbase : 0 < base) (num den : Nat) (e : Int) :
    ((scaleDown base num den e).1 : ℚ) / (scaleDown base num den e).2 =
      num / den / (base : ℚ) ^ e := by
  have hne : (base : ℚ) ≠ 0 := by exact_mod_cast hbase.ne'
  unfold scaleDown
  split
  next he =>
    obtain ⟨n, rfl⟩ := Int.eq_ofNat_of_zero_le he
    simp [div_div]
  next he =>
    obtain ⟨n, rfl⟩ : ∃ n : Nat, e = -n := ⟨(-e).toNat, by omega⟩
    simp [mul_div_right_comm]

/-! ## Rounding to natural numbers -/

/-- The natural number nearest to a rational, and the even one of two that are equally near. -/
structure IsNearestEven (r : ℚ) (k : Nat) : Prop where
  near : |r - k| ≤ 1 / 2
  even : |r - k| = 1 / 2 → k % 2 = 0

theorem IsNearestEven.not_lt {r : ℚ} {j k : Nat} (hj : IsNearestEven r j)
    (hk : IsNearestEven r k) : ¬j < k := by
  intro hlt
  have hjk : (j : ℚ) + 1 ≤ k := by exact_mod_cast hlt
  have hlow := abs_le.1 hj.near
  have hhigh := abs_le.1 hk.near
  -- the rational lies midway between two neighbours, of which one is odd
  have hnext : k = j + 1 := by
    have heq : (k : ℚ) = j + 1 := by linarith
    exact_mod_cast heq
  have heven := hj.even (by rw [abs_of_nonneg] <;> linarith)
  have hodd := hk.even (by rw [abs_of_nonpos] <;> linarith)
  omega

theorem IsNearestEven.unique {r : ℚ} {j k : Nat} (hj : IsNearestEven r j)
    (hk : IsNearestEven r k) : j = k :=
  Nat.le_antisymm (Nat.not_lt.1 (hk.not_lt hj)) (Nat.not_lt.1 (hj.not_lt hk))

theorem isNearestEven_roundHalfEven (num : Nat) {den : Nat} (hden : 0 < den) :
    IsNearestEven (num / den) (roundHalfEven num den) := by
  have hpos : (0 : ℚ) < den := by exact_mod_cast hden
  have hnum : (num : ℚ) / den - (num / den : Nat) = (num % den : Nat) / den := by
    have hdiv : (num : ℚ) = den * (num / den : Nat) + (num % den : Nat) := by
      exact_mod_cast (Nat.div_add_mod num den).symm
    rw [eq_div_iff hpos.ne', sub_mul, div_mul_cancel₀ _ hpos.ne']
    linarith
  have hmod : num % den < den := Nat.mod_lt num hden
  unfold roundHalfEven
  simp only [Bool.or_eq_true, decide_eq_true_eq, Bool.and_eq_true, beq_iff_eq]
  generalize num / den = q at *
  generalize num % den = r at *
  -- the fraction is compared with a half as the remainder is with half of the divisor
  have hfrac : 0 ≤ (r : ℚ) / den := by positivity
  have hlt : (r : ℚ) / den < 1 := (div_lt_one hpos).2 (by exact_mod_cast hmod)
  have hle : (r : ℚ) / den ≤ 1 / 2 ↔ 2 * r ≤ den := by
    rw [div_le_div_iff₀ hpos two_pos, ← Nat.cast_le (α := ℚ)]
    push_cast
    constructor <;> intro h <;> linarith
  have heq : (r : ℚ) / den = 1 / 2 ↔ 2 * r = den := by
    rw [div_eq_div_iff hpos.ne' two_ne_zero, ← Nat.cast_inj (R := ℚ)]
    push_cast
    constructor <;> intro h <;> linarith
  split
  next hdown =>
    constructor
    · rw [hnum, abs_of_nonneg hfrac, hle]
      omega
    · rw [hnum, abs_of_nonneg hfrac, heq]
      omega
  next hup =>
    have habs : |(num : ℚ) / den - (q + 1 : Nat)| = 1 - r / den := by
      rw [Nat.cast_succ, ← sub_sub, hnum, abs_of_neg (by linarith), neg_sub]
    constructor
    · rw [habs]
      have hhalf : 1 / 2 ≤ (r : ℚ) / den := by
        by_contra hno
        have hsmall := hle.1 (not_le.1 hno).le
        have htie := heq.2 (by omega)
        linarith
      linarith
    · rw [habs]
      intro htie
      have hhalf := heq.1 (by linarith)
      omega

/-! ## The place of the first digit -/

/-- The integer part of a logarithm. -/
structure IsFloorLog (base : Nat) (r : ℚ) (e : Int) : Prop where
  le : (base : ℚ) ^ e ≤ r
  lt : r < (base : ℚ) ^ (e + 1)

/-- Comparing with powers is comparing with the integer part of the logarithm. -/
theorem IsFloorLog.zpow_le_iff {base : Nat} (hbase : 1 < base) {r : ℚ} {e k : Int}
    (h : IsFloorLog base r e) : (base : ℚ) ^ k ≤ r ↔ k ≤ e := by
  have hone : (1 : ℚ) < base := by exact_mod_cast hbase
  constructor
  · intro hk
    exact Int.lt_add_one_iff.1 ((zpow_lt_zpow_iff_right₀ hone).1 (hk.trans_lt h.lt))
  · intro hk
    exact (zpow_le_zpow_right₀ hone.le hk).trans h.le

/-- A logarithm known up to one is settled by one comparison. -/
theorem IsFloorLog.of_two {base : Nat} {r : ℚ} {e : Int} (hlow : (base : ℚ) ^ (e - 1) ≤ r)
    (hhigh : r < (base : ℚ) ^ (e + 1)) :
    IsFloorLog base r (if (base : ℚ) ^ e ≤ r then e else e - 1) := by
  split
  next h => exact ⟨h, hhigh⟩
  next h => exact ⟨hlow, by simpa using h⟩

/-- A ratio is at least a power if, divided by it, it is at least one. -/
theorem scaleDown_le_iff {base : Nat} (hbase : 0 < base) (num : Nat) {den : Nat} (hden : 0 < den)
    (e : Int) : (scaleDown base num den e).2 ≤ (scaleDown base num den e).1 ↔
      (base : ℚ) ^ e ≤ num / den := by
  have hpow : (0 : ℚ) < (base : ℚ) ^ e := zpow_pos (by exact_mod_cast hbase) e
  have hpos : (0 : ℚ) < (scaleDown base num den e).2 := by
    exact_mod_cast scaleDown_snd_pos hbase num hden e
  rw [← one_le_div hpow, ← scaleDown_ratio hbase, one_le_div hpos, Nat.cast_le]

theorem isFloorLog_floorLog2 {num den : Nat} (hnum : 0 < num) (hden : 0 < den) :
    IsFloorLog 2 (num / den) (floorLog2 num den) := by
  have hden' : (0 : ℚ) < den := by exact_mod_cast hden
  have hbits : ∀ n : Nat, 0 < n →
      (2 : ℚ) ^ (n.log2 : Int) ≤ n ∧ (n : ℚ) < 2 ^ (n.log2 + 1 : Int) := by
    intro n hn
    refine ⟨?_, ?_⟩
    · rw [zpow_natCast]
      exact_mod_cast Nat.log2_self_le hn.ne'
    · have hlt : n < 2 ^ (n.log2 + 1) := Nat.lt_log2_self
      exact_mod_cast hlt
  obtain ⟨hnumLow, hnumHigh⟩ := hbits num hnum
  obtain ⟨hdenLow, hdenHigh⟩ := hbits den hden
  have hlow : ((2 : Nat) : ℚ) ^ ((num.log2 : Int) - den.log2 - 1) ≤ num / den := by
    rw [le_div_iff₀ hden', sub_sub, Nat.cast_two, zpow_sub₀ two_ne_zero, div_mul_eq_mul_div,
      div_le_iff₀ (by positivity)]
    exact mul_le_mul hnumLow hdenHigh.le hden'.le (by positivity)
  have hhigh : (num : ℚ) / den < ((2 : Nat) : ℚ) ^ ((num.log2 : Int) - den.log2 + 1) := by
    rw [div_lt_iff₀ hden', sub_add_eq_add_sub, Nat.cast_two, zpow_sub₀ two_ne_zero,
      div_mul_eq_mul_div, lt_div_iff₀ (by positivity)]
    exact mul_lt_mul hnumHigh hdenLow (by positivity) (by positivity)
  have hlog := IsFloorLog.of_two hlow hhigh
  unfold floorLog2
  simpa only [scaleDown_le_iff two_pos num hden] using hlog

/-! ### Decimal digits -/

theorem pos_digitCount (n : Nat) : 0 < Binary64.digitCount n :=
  List.length_pos_iff.2 Nat.toDigits_ne_nil

theorem lt_pow_digitCount (n : Nat) : n < 10 ^ Binary64.digitCount n :=
  (Nat.length_toDigits_le_iff (by decide) (pos_digitCount n)).1 le_rfl

theorem pow_digitCount_le {n : Nat} (h : 0 < n) : 10 ^ (Binary64.digitCount n - 1) ≤ n := by
  rcases Nat.eq_zero_or_pos (Binary64.digitCount n - 1) with hone | hmore
  · rw [hone]
    exact h
  · refine Nat.not_lt.1 fun hlt => ?_
    have hshort := (Nat.length_toDigits_le_iff (by decide) hmore).2 hlt
    have hsame : (Nat.toDigits 10 n).length = Binary64.digitCount n := rfl
    omega

/-- The digits of the whole part of a ratio above one. -/
theorem isFloorLog_digitCount {num den : Nat} (hden : 0 < den) (h : den ≤ num) :
    IsFloorLog 10 (num / den) (Binary64.digitCount (num / den) - 1) := by
  have hden' : (0 : ℚ) < den := by exact_mod_cast hden
  have hpos := pos_digitCount (num / den)
  have hlow := pow_digitCount_le (Nat.div_pos h hden)
  have hhigh := lt_pow_digitCount (num / den)
  constructor
  · have hexp : (Binary64.digitCount (num / den) : Int) - 1 =
        (Binary64.digitCount (num / den) - 1 : Nat) := by omega
    rw [hexp, zpow_natCast, le_div_iff₀ hden']
    exact_mod_cast (Nat.le_div_iff_mul_le hden).1 hlow
  · rw [sub_add_cancel, zpow_natCast, div_lt_iff₀ hden']
    exact_mod_cast (Nat.div_lt_iff_lt_mul hden).1 hhigh

theorem isFloorLog_floorLog10 {num den : Nat} (hnum : 0 < num) (hden : 0 < den) :
    IsFloorLog 10 (num / den) (Binary64.floorLog10 num den) := by
  unfold Binary64.floorLog10
  split
  next h => exact isFloorLog_digitCount hden h
  next h =>
    -- below one, the digits are those of the reciprocal
    have hrecip := isFloorLog_digitCount hnum (not_le.1 h).le
    have hpos := pos_digitCount (den / num)
    generalize Binary64.digitCount (den / num) = k at hrecip hpos
    have hratio : (num : ℚ) / den = ((den : ℚ) / num)⁻¹ := (inv_div _ _).symm
    have hdiv : (0 : ℚ) < den / num := by positivity
    have hk : ((k - 1 : Nat) : Int) = k - 1 := by omega
    have hlow : ((10 : Nat) : ℚ) ^ (-((k - 1 : Nat) : Int) - 1) ≤ num / den := by
      rw [hratio, show -((k - 1 : Nat) : Int) - 1 = -k by omega, zpow_neg]
      have hlt := hrecip.lt
      rw [sub_add_cancel] at hlt
      exact inv_anti₀ hdiv hlt.le
    have hle : (num : ℚ) / den ≤ ((10 : Nat) : ℚ) ^ (-((k - 1 : Nat) : Int)) := by
      rw [hratio, hk, zpow_neg]
      exact inv_anti₀ (by positivity) hrecip.le
    have hhigh : ((10 : Nat) : ℚ) ^ (-((k - 1 : Nat) : Int)) < 10 ^ (-((k - 1 : Nat) : Int) + 1) :=
      zpow_lt_zpow_right₀ (by norm_num) (by omega)
    have hlog := IsFloorLog.of_two hlow (hle.trans_lt hhigh)
    have htest : den ≤ num * Nat.pow 10 (k - 1) ↔
        ((10 : Nat) : ℚ) ^ (-((k - 1 : Nat) : Int)) ≤ num / den := by
      have hden' : (0 : ℚ) < den := by exact_mod_cast hden
      rw [le_div_iff₀ hden', zpow_neg, zpow_natCast, inv_mul_le_iff₀ (by positivity), mul_comm]
      exact_mod_cast Iff.rfl
    rw [if_congr htest rfl (show -(k : Int) = -((k - 1 : Nat) : Int) - 1 by omega)]
    exact hlog

end CfgPatch
