import CfgPatch.Proofs.Rounding
import Mathlib.Tactic.NormNum

/-!
# The number nearest to a ratio

`ofRatio` takes a ratio to the number of the format that is nearest to it. It is settled by two
things: the place of the last bit (`IsLastPlace`) and the number of units of that place
(`IsNearestEven`). From these follow the three facts that the rest of the library uses. A ratio in
the rounding interval of a number in normal form gives that number (`ofRatio_of_roundsTo`), what
comes out is in normal form (`ofRatio_cases`), and it is finite just below the midpoint
between the largest number and the power of two behind it (`isFinite_ofRatio`).
-/

namespace CfgPatch.Binary64

/-! ## Normal form -/

/-- A finite number as the operations build it. -/
structure IsNormal (m : Nat) (e : Int) : Prop where
  lt : m < 2 * leastFull
  low : minExponent ≤ e
  high : e ≤ maxExponent
  /-- Only the smallest numbers lack bits. -/
  full : m < leastFull → e = minExponent

theorem cast_leastFull : (leastFull : ℚ) = 2 ^ 52 := by
  have heq : leastFull = 2 ^ 52 := rfl
  rw [heq]
  norm_num

theorem IsNormal.cast_add_one_le {m : Nat} {e : Int} (h : IsNormal m e) : (m : ℚ) + 1 ≤ 2 ^ 53 := by
  have hlt : (m : ℚ) + 1 ≤ 2 * leastFull := by exact_mod_cast h.lt
  rw [cast_leastFull] at hlt
  linarith

/-- A rational in units of a place is compared with a power of two as the rational itself with a
power further up. -/
theorem div_lt_pow_iff {r : ℚ} {e : Int} (k : Nat) :
    r / 2 ^ e < 2 ^ k ↔ r < (2 : ℚ) ^ (e + k) := by
  rw [div_lt_iff₀ (by positivity), zpow_add₀ two_ne_zero, zpow_natCast, mul_comm]

theorem pow_le_div_iff {r : ℚ} {e : Int} (k : Nat) :
    2 ^ k ≤ r / 2 ^ e ↔ (2 : ℚ) ^ (e + k) ≤ r := by
  rw [← not_lt, div_lt_pow_iff, not_lt]

/-! ## The place of the last bit -/

/-- The exponent of the last bit that a number near a positive rational can have. -/
structure IsLastPlace (r : ℚ) (e : Int) : Prop where
  low : minExponent ≤ e
  /-- There is room for the first bit. -/
  lt : r / 2 ^ e < 2 ^ 53
  /-- No bit is given away. -/
  full : e = minExponent ∨ 2 ^ 52 ≤ r / 2 ^ e

theorem isLastPlace_iff {num den : Nat} (hnum : 0 < num) (hden : 0 < den) {e : Int} :
    IsLastPlace (num / den) e ↔ max (floorLog2 num den - fractionBits) minExponent = e := by
  have hlog := isFloorLog_floorLog2 hnum hden
  have hlt : (num : ℚ) / den / 2 ^ e < 2 ^ 53 ↔ floorLog2 num den < e + 53 := by
    rw [div_lt_pow_iff, ← not_le, ← Nat.cast_two, hlog.zpow_le_iff one_lt_two, not_le]
    rfl
  have hle : 2 ^ 52 ≤ (num : ℚ) / den / 2 ^ e ↔ e + 52 ≤ floorLog2 num den := by
    rw [pow_le_div_iff, ← Nat.cast_two, hlog.zpow_le_iff one_lt_two]
    rfl
  have hbits : (fractionBits : Int) = 52 := rfl
  rw [hbits]
  constructor
  · rintro ⟨hlow, hroom, hfull⟩
    rw [hlt] at hroom
    rw [hle] at hfull
    omega
  · intro he
    exact ⟨by omega, hlt.2 (by omega), by rw [hle]; omega⟩

/-- The number with a last place and a number of units of it, which may carry into the next
place. -/
def ofUnits (negative : Bool) (k : Nat) (e : Int) : Binary64 :=
  if k = 2 * leastFull then
    if e + 1 > maxExponent then infinite negative else finite negative leastFull (e + 1)
  else if e > maxExponent then infinite negative else finite negative k e

theorem ofRatio_eq (negative : Bool) {num den : Nat} (hnum : 0 < num) (hden : 0 < den) {e : Int}
    {k : Nat} (he : IsLastPlace (num / den) e) (hk : IsNearestEven (num / den / 2 ^ e) k) :
    ofRatio negative num den = ofUnits negative k e := by
  have hround : roundHalfEven (scaleDown 2 num den e).1 (scaleDown 2 num den e).2 = k := by
    refine (isNearestEven_roundHalfEven _ (scaleDown_snd_pos two_pos num hden e)).unique ?_
    rw [scaleDown_ratio two_pos]
    exact hk
  unfold ofRatio ofUnits
  simp only [(isLastPlace_iff hnum hden).1 he, hround, hnum.ne', if_false]
  split <;> rfl

/-- Every positive ratio has a last place and a nearest number of units of it. -/
theorem exists_ofRatio_eq (negative : Bool) {num den : Nat} (hnum : 0 < num) (hden : 0 < den) :
    ∃ e k, IsLastPlace (num / den) e ∧ IsNearestEven (num / den / 2 ^ e) k ∧
      ofRatio negative num den = ofUnits negative k e := by
  obtain ⟨e, he⟩ : ∃ e, max (floorLog2 num den - fractionBits) minExponent = e := ⟨_, rfl⟩
  have hplace := (isLastPlace_iff hnum hden).2 he
  have hk := isNearestEven_roundHalfEven (scaleDown 2 num den e).1
    (scaleDown_snd_pos two_pos num hden e)
  rw [scaleDown_ratio two_pos] at hk
  exact ⟨e, _, hplace, hk, ofRatio_eq negative hnum hden hplace hk⟩

/-! ## What rounds to a number -/

theorem low_roundingInterval {m : Nat} (hm : 0 < m) (e : Int) :
    ((roundingInterval m e).1 : ℚ) =
      if m = leastFull ∧ minExponent < e then 4 * (m : ℚ) - 1 else 4 * m - 2 := by
  have hone : 1 ≤ 4 * m := by omega
  have htwo : 2 ≤ 4 * m := by omega
  simp only [roundingInterval, Bool.and_eq_true, decide_eq_true_eq, gt_iff_lt]
  split_ifs <;> push_cast [hone, htwo] <;> rfl

theorem high_roundingInterval (m : Nat) (e : Int) :
    ((roundingInterval m e).2.1 : ℚ) = 4 * m + 2 := by
  simp [roundingInterval]

/-- A rational rounds to a positive number in normal form. -/
structure RoundsTo (r : ℚ) (m : Nat) (e : Int) : Prop where
  low : ((roundingInterval m e).1 : ℚ) ≤ 4 * (r / 2 ^ e)
  high : 4 * (r / 2 ^ e) ≤ (roundingInterval m e).2.1
  /-- The bounds belong to an even mantissa. -/
  closed : 4 * (r / 2 ^ e) = (roundingInterval m e).1 ∨
    4 * (r / 2 ^ e) = (roundingInterval m e).2.1 → m % 2 = 0

namespace RoundsTo

variable {r : ℚ} {m : Nat} {e : Int}

theorem pos (h : RoundsTo r m e) (hm : 0 < m) : 0 < r := by
  have hlow := h.low
  have hm' : (1 : ℚ) ≤ m := by exact_mod_cast hm
  rw [low_roundingInterval hm] at hlow
  have hdiv : 0 < r / 2 ^ e := by
    split_ifs at hlow <;> linarith
  exact (div_pos_iff_of_pos_right (by positivity)).1 hdiv

/-- What rounds to a number is within half a unit of it. -/
theorem isNearestEven (h : RoundsTo r m e) (hm : 0 < m) : IsNearestEven (r / 2 ^ e) m := by
  obtain ⟨hlow, hhigh, hclosed⟩ := h
  rw [high_roundingInterval] at hhigh hclosed
  have hhalf : 4 * (m : ℚ) - 2 ≤ (roundingInterval m e).1 := by
    rw [low_roundingInterval hm]
    split_ifs <;> linarith
  refine ⟨abs_le.2 ⟨by linarith, by linarith⟩, fun htie => hclosed ?_⟩
  rcases eq_or_eq_neg_of_abs_eq htie with htie | htie
  · exact .inr (by linarith)
  · exact .inl (by linarith)

/-- Right below a power of two the numbers are twice as dense. -/
theorem below_power (h : RoundsTo r m e) (hn : IsNormal m e) (he : e ≠ minExponent)
    (hlt : r / 2 ^ e < 2 ^ 52) : m = leastFull ∧ 2 ^ 52 - 1 / 4 ≤ r / 2 ^ e := by
  have hlow := h.low
  have hfull : leastFull ≤ m := not_lt.1 fun hm => he (hn.full hm)
  have hcast := cast_leastFull
  have hpos : 0 < m := lt_of_lt_of_le (by decide) hfull
  rw [low_roundingInterval hpos] at hlow
  have hm : m = leastFull := by
    refine le_antisymm (not_lt.1 fun hmore => ?_) hfull
    have hmore' : (leastFull : ℚ) + 1 ≤ m := by exact_mod_cast hmore
    split_ifs at hlow <;> linarith
  rw [if_pos ⟨hm, lt_of_le_of_ne hn.low (Ne.symm he)⟩, hm] at hlow
  exact ⟨hm, by linarith⟩

end RoundsTo

/-- A ratio that rounds to a number in normal form is taken to that number. -/
theorem ofRatio_of_roundsTo (negative : Bool) {num den m : Nat} {e : Int} (hden : 0 < den)
    (hm : 0 < m) (hn : IsNormal m e) (h : RoundsTo (num / den) m e) :
    ofRatio negative num den = finite negative m e := by
  have hnum : 0 < num := by
    have hpos := h.pos hm
    exact Nat.pos_of_ne_zero fun hzero => by simp [hzero] at hpos
  have hunits := h.isNearestEven hm
  have hroom := hn.cast_add_one_le
  by_cases hfull : e = minExponent ∨ 2 ^ 52 ≤ (num : ℚ) / den / 2 ^ e
  · -- the number and the ratio have the same last place
    have hplace : IsLastPlace (num / den) e :=
      ⟨hn.low, by linarith [(abs_le.1 hunits.near).2], hfull⟩
    rw [ofRatio_eq negative hnum hden hplace hunits, ofUnits, if_neg hn.lt.ne,
      if_neg (not_lt.2 hn.high)]
  · -- the ratio lies below the power of two that is the number, and is rounded up to it
    rw [not_or, not_le] at hfull
    obtain ⟨rfl, hlow⟩ := h.below_power hn hfull.1 hfull.2
    have hdouble : (num : ℚ) / den / 2 ^ (e - 1) = 2 * (num / den / 2 ^ e) := by
      rw [zpow_sub_one₀ two_ne_zero]
      field_simp
    have hplace : IsLastPlace (num / den) (e - 1) := by
      refine ⟨by have := hn.low; omega, ?_, .inr ?_⟩ <;> rw [hdouble] <;> linarith
    have hunits : IsNearestEven (num / den / 2 ^ (e - 1)) (2 * leastFull) := by
      rw [hdouble]
      refine ⟨?_, fun _ => by omega⟩
      rw [Nat.cast_mul, cast_leastFull, Nat.cast_two, abs_le]
      constructor <;> linarith
    rw [ofRatio_eq negative hnum hden hplace hunits, ofUnits, if_pos rfl, sub_add_cancel,
      if_neg (not_lt.2 hn.high)]

/-! ## What comes out -/

theorem ofRatio_zero (negative : Bool) (den : Nat) :
    ofRatio negative 0 den = finite negative 0 minExponent := rfl

theorem isNormal_zero : IsNormal 0 minExponent := ⟨by decide, le_rfl, by decide, fun _ => rfl⟩

/-- The units of a last place give a number in normal form, or too large a one. -/
theorem ofUnits_cases {r : ℚ} (negative : Bool) {k : Nat} {e : Int} (he : IsLastPlace r e)
    (hk : IsNearestEven (r / 2 ^ e) k) :
    (∃ m e', ofUnits negative k e = finite negative m e' ∧ IsNormal m e') ∨
      ofUnits negative k e = infinite negative := by
  obtain ⟨hlow, hhigh⟩ := abs_le.1 hk.near
  have hmost : k ≤ 2 * leastFull := by
    have hlt : (k : ℚ) < (2 * leastFull + 1 : Nat) := by
      have hroom := he.lt
      push_cast
      rw [cast_leastFull]
      linarith
    exact Nat.lt_succ_iff.1 (by exact_mod_cast hlt)
  unfold ofUnits
  split_ifs with hcarry hover hover
  · exact .inr rfl
  · have hplace := he.low
    exact .inl ⟨leastFull, e + 1, rfl, by decide, by omega, not_lt.1 hover,
      fun hlt => absurd hlt (lt_irrefl _)⟩
  · exact .inr rfl
  · refine .inl ⟨k, e, rfl, lt_of_le_of_ne hmost hcarry, he.low, not_lt.1 hover, fun hlt => ?_⟩
    refine he.full.resolve_right fun hfull => ?_
    have hless : (k : ℚ) + 1 ≤ leastFull := by exact_mod_cast hlt
    rw [cast_leastFull] at hless
    linarith

/-- A ratio is taken to a number in normal form with the sign that was asked for, or to an
infinity. -/
theorem ofRatio_cases (negative : Bool) (num : Nat) {den : Nat} (hden : 0 < den) :
    (∃ m e, ofRatio negative num den = finite negative m e ∧ IsNormal m e) ∨
      ofRatio negative num den = infinite negative := by
  rcases Nat.eq_zero_or_pos num with rfl | hnum
  · exact .inl ⟨0, minExponent, rfl, isNormal_zero⟩
  · obtain ⟨e, k, hplace, hk, heq⟩ := exists_ofRatio_eq negative hnum hden
    rw [heq]
    exact ofUnits_cases negative hplace hk

/-- The midpoint between the largest number and the power of two behind it. -/
def overflow : ℚ := (2 ^ 53 - 1 / 2) * 2 ^ maxExponent

theorem isFinite_ofUnits {r : ℚ} {negative : Bool} {k : Nat} {e : Int} (he : IsLastPlace r e)
    (hk : IsNearestEven (r / 2 ^ e) k) : (ofUnits negative k e).isFinite ↔ r < overflow := by
  have hmax : maxExponent = 971 := rfl
  have hcast : ((2 * leastFull : Nat) : ℚ) = 2 ^ 53 := by
    rw [Nat.cast_mul, cast_leastFull, Nat.cast_two, ← pow_succ']
  have hover : r < overflow ↔ r / 2 ^ (971 : Int) < 2 ^ 53 - 1 / 2 := by
    rw [div_lt_iff₀ (by positivity)]
    rfl
  have hfinite : (ofUnits negative k e).isFinite ↔
      e < 971 ∨ e = 971 ∧ k ≠ 2 * leastFull := by
    unfold ofUnits
    split_ifs <;> simp only [isFinite] <;> simp <;> omega
  rw [hfinite, hover]
  rcases lt_trichotomy e 971 with hlt | rfl | hgt
  · -- all numbers of this place are small
    have hroom := (div_lt_pow_iff 53).1 he.lt
    have hpow : (2 : ℚ) ^ (e + (53 : Nat)) ≤ 2 ^ ((971 : Int) + (52 : Nat)) :=
      zpow_le_zpow_right₀ one_le_two (by omega)
    have hsmall := (div_lt_pow_iff 52).2 (hroom.trans_le hpow)
    exact iff_of_true (.inl hlt) (by linarith)
  · -- the largest numbers: whether they carry is decided at the midpoint
    simp only [lt_irrefl, false_or, true_and]
    constructor
    · intro hne
      by_contra hge
      refine hne (hk.unique ⟨?_, fun _ => by omega⟩)
      have hroom := he.lt
      rw [hcast, abs_le]
      constructor <;> linarith
    · rintro hlt rfl
      have hlow := (abs_le.1 hk.near).1
      rw [hcast] at hlow
      linarith
  · have hfull := he.full.resolve_left (by rintro rfl; exact absurd hgt (by decide))
    have hpow : (2 : ℚ) ^ ((971 : Int) + (53 : Nat)) ≤ 2 ^ (e + (52 : Nat)) :=
      zpow_le_zpow_right₀ one_le_two (by omega)
    have hlarge := (pow_le_div_iff 53).2 (hpow.trans ((pow_le_div_iff 52).1 hfull))
    exact iff_of_false (by omega) (by linarith)

/-- A ratio is taken to a finite number if and only if it is below the midpoint. -/
theorem isFinite_ofRatio (negative : Bool) (num : Nat) {den : Nat} (hden : 0 < den) :
    (ofRatio negative num den).isFinite ↔ (num : ℚ) / den < overflow := by
  rcases Nat.eq_zero_or_pos num with rfl | hnum
  · rw [ofRatio_zero]
    refine iff_of_true rfl ?_
    rw [Nat.cast_zero, zero_div, overflow]
    positivity
  · obtain ⟨e, k, hplace, hk, heq⟩ := exists_ofRatio_eq negative hnum hden
    rw [heq, isFinite_ofUnits hplace hk]

/-! ## Decimals -/

/-- The ratio that a decimal is rounded as. -/
theorem ofDecimal_ratio (digits : Nat) (exponent : Int) :
    ((scaleDown 10 digits 1 (-exponent)).1 : ℚ) / (scaleDown 10 digits 1 (-exponent)).2 =
      digits * 10 ^ exponent := by
  rw [scaleDown_ratio (by decide), zpow_neg]
  simp

theorem ofDecimal_of_roundsTo (negative : Bool) {digits m : Nat} {exponent e : Int} (hm : 0 < m)
    (hn : IsNormal m e) (h : RoundsTo (digits * 10 ^ exponent) m e) :
    ofDecimal negative digits exponent = finite negative m e := by
  rw [← ofDecimal_ratio] at h
  exact ofRatio_of_roundsTo negative (scaleDown_snd_pos (by decide) _ one_pos _) hm hn h

theorem isFinite_ofDecimal (negative : Bool) (digits : Nat) (exponent : Int) :
    (ofDecimal negative digits exponent).isFinite ↔
      (digits : ℚ) * 10 ^ exponent < overflow := by
  rw [← ofDecimal_ratio]
  exact isFinite_ofRatio negative _ (scaleDown_snd_pos (by decide) _ one_pos _)

theorem ofDecimal_cases (negative : Bool) (digits : Nat) (exponent : Int) :
    (∃ m e, ofDecimal negative digits exponent = finite negative m e ∧ IsNormal m e) ∨
      ofDecimal negative digits exponent = infinite negative :=
  ofRatio_cases negative _ (scaleDown_snd_pos (by decide) _ one_pos _)

end CfgPatch.Binary64
