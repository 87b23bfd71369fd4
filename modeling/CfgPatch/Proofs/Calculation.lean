import CfgPatch.Proofs.Numerals

/-!
# What a calculation writes

An arithmetic operator reads two finite numbers and refuses a result that is not finite. What it
writes is the plain form of the result, rounded to fifteen significant digits, and this second
rounding is not looked at again. It is harmless almost everywhere: the text is read back as the
rounded result. Only the very largest numbers, from `1.797693134862315 · 10 ^ 308` on, are rounded
up to a decimal that is none of the format. For these the word for an infinity is written, which
no operator reads (`Operator.apply_arithmetic`).
-/

namespace CfgPatch

open Text

namespace Binary64

/-! ## Fifteen digits -/

/-- From here on a number rounded to fifteen digits is none of the format. -/
def plainOverflow : ℚ := 1797693134862315 * 10 ^ (293 : Int)

/-- The midpoint behind the largest number lies between two numbers of fifteen digits. -/
theorem overflow_bounds : 1797693134862310 * (10 : ℚ) ^ (293 : Int) < overflow ∧
    overflow < 1797693134862320 * 10 ^ (293 : Int) := by
  have hover : overflow = ((2 ^ 54 - 1) * 2 ^ 970 : Nat) := by
    have hpow : (2 : ℚ) ^ maxExponent = 2 ^ 970 * 2 := by
      rw [← pow_succ, ← zpow_natCast]
      rfl
    rw [overflow, hpow, Nat.cast_mul, Nat.cast_pow, Nat.cast_two]
    generalize (2 : ℚ) ^ 970 = x
    norm_num
    ring
  have hlow : 1797693134862310 * 10 ^ 293 < (2 ^ 54 - 1) * 2 ^ 970 := by decide +kernel
  have hhigh : (2 ^ 54 - 1) * 2 ^ 970 < 1797693134862320 * 10 ^ 293 := by decide +kernel
  rw [hover]
  exact ⟨by exact_mod_cast hlow, by exact_mod_cast hhigh⟩

/-- At the place where fifteen digits end for the largest numbers, what is rounded up to the
midpoint or beyond is what lies at or above the bound: the tie goes to the even digit, up. -/
theorem mul_lt_overflow_iff {t : ℚ} {k : Nat} (h : IsNearestEven t k) {unit : ℚ} (hunit : 0 < unit)
    (hlow : 179769313486231 * unit < overflow) (hhigh : overflow < 179769313486232 * unit) :
    k * unit < overflow ↔ t * unit < 359538626972463 / 2 * unit := by
  obtain ⟨hnearLow, hnearHigh⟩ := abs_le.1 h.near
  rw [mul_lt_mul_iff_of_pos_right hunit]
  constructor
  · intro hk
    have hlt : k < 179769313486232 := by
      have hless := lt_of_mul_lt_mul_right (hk.trans hhigh) hunit.le
      exact_mod_cast hless
    have hle : (k : ℚ) ≤ 179769313486231 := by exact_mod_cast Nat.lt_succ_iff.1 hlt
    refine lt_of_le_of_ne (by linarith) fun htie => ?_
    have hmost : k = 179769313486231 := by
      have hge : (179769313486231 : ℚ) ≤ k := by linarith
      exact le_antisymm (by exact_mod_cast hle) (by exact_mod_cast hge)
    have heven := h.even (by rw [htie, hmost]; norm_num)
    omega
  · intro ht
    have hlt : k < 179769313486232 := by
      have hless : (k : ℚ) < 179769313486232 := by linarith
      exact_mod_cast hless
    have hle : (k : ℚ) ≤ 179769313486231 := by exact_mod_cast Nat.lt_succ_iff.1 hlt
    exact (mul_le_mul_of_nonneg_right hle hunit.le).trans_lt hlow

/-- A positive number rounded to fifteen digits is too large if it was at the bound or above. -/
theorem value_roundTo_lt_iff {m : Nat} (hm : 0 < m) (e : Int) :
    (roundTo plainDigits m e).value < overflow ↔ magnitude m e < plainOverflow := by
  obtain ⟨p, hlog, hexp, hnear⟩ := roundTo_spec plainDigits hm e
  have hplaces : p - (((plainDigits : Nat) : Int) - 1) = p - 14 := rfl
  rw [hplaces] at hexp hnear
  rw [Decimal.value, hexp]
  generalize (roundTo plainDigits m e).digits = k at hnear ⊢
  -- the number is `t` units of its fifteenth digit
  obtain ⟨unit, hunit⟩ : ∃ unit : ℚ, unit = 10 ^ (p - 14) := ⟨_, rfl⟩
  have hpos : 0 < unit := by rw [hunit]; positivity
  obtain ⟨t, ht⟩ : ∃ t : ℚ, magnitude m e = t * unit := ⟨magnitude m e / unit, by field_simp⟩
  have hsplit : ∀ i : Nat, (10 : ℚ) ^ (p - 14 + i) = 10 ^ i * unit := by
    intro i
    rw [hunit, zpow_add₀ (by norm_num), zpow_natCast, mul_comm]
  have htLow : 10 ^ 14 ≤ t := by
    have hle : (10 : ℚ) ^ (p - 14 + (14 : Nat)) ≤ magnitude m e := by simpa using hlog.le
    rw [hsplit, ht] at hle
    exact le_of_mul_le_mul_right hle hpos
  have htHigh : t < 10 ^ 15 := by
    have hlt : magnitude m e < (10 : ℚ) ^ (p - 14 + (15 : Nat)) := by
      have hplace : p - 14 + ((15 : Nat) : Int) = p + 1 := by omega
      rw [hplace]
      exact hlog.lt
    rw [hsplit, ht] at hlt
    exact lt_of_mul_lt_mul_right hlt hpos.le
  rw [← hunit, ht, mul_div_cancel_right₀ _ hpos.ne'] at hnear
  rw [← hunit, ht, plainOverflow]
  obtain ⟨hnearLow, hnearHigh⟩ := abs_le.1 hnear.near
  obtain ⟨hlow, hhigh⟩ := overflow_bounds
  have hten : (10 : ℚ) ^ (294 : Int) = 10 * 10 ^ (293 : Int) := by
    rw [← zpow_one_add₀ (by norm_num)]
    rfl
  have hhundred : (10 : ℚ) ^ (295 : Int) = 10 * 10 ^ (294 : Int) := by
    rw [← zpow_one_add₀ (by norm_num)]
    rfl
  have hmono : ∀ i j : Int, i ≤ j → (10 : ℚ) ^ i ≤ 10 ^ j := fun i j =>
    zpow_le_zpow_right₀ (by norm_num)
  rcases lt_trichotomy p 308 with hlt | rfl | hgt
  · -- smaller by a digit at least
    have hle := hmono (p - 14) 293 (by omega)
    rw [← hunit] at hle
    generalize (10 : ℚ) ^ (293 : Int) = place at *
    have hk := mul_le_mul_of_nonneg_right (show (k : ℚ) ≤ 10 ^ 15 + 1 by linarith) hpos.le
    have ht' := mul_le_mul_of_nonneg_right htHigh.le hpos.le
    exact iff_of_true (by linarith only [hk, hle, hpos, hlow])
      (by linarith only [ht', hle, hpos])
  · have hplace : unit = 10 * 10 ^ (293 : Int) := hunit.trans hten
    generalize (10 : ℚ) ^ (293 : Int) = place at *
    have hbound : 1797693134862315 * place = 359538626972463 / 2 * unit := by
      rw [hplace]
      ring
    rw [hbound]
    exact mul_lt_overflow_iff hnear hpos (by linarith only [hplace, hlow])
      (by linarith only [hplace, hhigh])
  · -- larger by a digit at least
    have hle := hmono 295 (p - 14) (by omega)
    rw [← hunit, hhundred, hten] at hle
    generalize (10 : ℚ) ^ (293 : Int) = place at *
    have hk := mul_le_mul_of_nonneg_right (show (10 : ℚ) ^ 14 - 1 ≤ k by linarith) hpos.le
    have ht' := mul_le_mul_of_nonneg_right htLow hpos.le
    exact iff_of_false (by linarith only [hk, hle, hpos, hhigh])
      (by linarith only [ht', hle, hpos])

theorem denoise_finite (negative : Bool) (m : Nat) (e : Int) :
    (finite negative m e).denoise = if m = 0 then finite negative 0 minExponent
      else ofDecimal negative (roundTo plainDigits m e).digits
        (roundTo plainDigits m e).exponent := rfl

/-- Rounded to fifteen digits, a finite number stays finite if it is below the bound. -/
theorem isFinite_denoise_iff (negative : Bool) (m : Nat) (e : Int) :
    (finite negative m e).denoise.isFinite ↔ magnitude m e < plainOverflow := by
  rw [denoise_finite]
  split_ifs with hm
  · refine iff_of_true rfl ?_
    rw [hm, magnitude, plainOverflow, Nat.cast_zero, zero_mul]
    positivity
  · rw [isFinite_ofDecimal]
    exact value_roundTo_lt_iff (Nat.pos_of_ne_zero hm) e

/-- What a finite number is rounded to is in normal form, or an infinity. -/
theorem denoise_cases (negative : Bool) (m : Nat) (e : Int) :
    (∃ m' e', (finite negative m e).denoise = finite negative m' e' ∧ IsNormal m' e') ∨
      (finite negative m e).denoise = infinite negative := by
  rw [denoise_finite]
  split_ifs with hm
  · exact .inl ⟨0, minExponent, rfl, isNormal_zero⟩
  · exact ofDecimal_cases negative _ _

/-! ## Reading the plain form -/

/-- The number that the plain form of a number stands for: the rounded one, with no sign if it is
zero. -/
def plain (x : Binary64) : Binary64 :=
  if x.denoise.isZero then finite false 0 minExponent else x.denoise

theorem trim_toPlainText (x : Binary64) : trim x.toPlainText = x.toPlainText := by
  have hvalue := isValue_toPlainText x
  exact trim_eq_self hvalue.first fun c hc =>
    hvalue.not_isBlank (List.mem_of_getLast? hc) (hvalue.last c hc)

/-- The plain form of a finite number is read as the number it stands for, unless the number was
too large for fifteen digits. -/
theorem readNumber_toPlainText (negative : Bool) (m : Nat) (e : Int) :
    readNumber (finite negative m e).toPlainText =
      if magnitude m e < plainOverflow then .ok (finite negative m e).plain
      else .error (.notANumber (finite negative m e).toPlainText) := by
  simp only [← isFinite_denoise_iff negative]
  rw [readNumber, trim_toPlainText, plain, toPlainText]
  obtain ⟨m', e', hdenoise, hn⟩ | hdenoise := denoise_cases negative m e
  · rw [hdenoise]
    rcases Nat.eq_zero_or_pos m' with rfl | hm'
    · rfl
    · have hzero : (finite negative m' e').isZero = false := by simpa [isZero] using hm'.ne'
      simp [hzero, parse?_toText negative hm' hn, isFinite]
  · rw [hdenoise]
    cases negative <;> rfl

end Binary64

/-! ## Operators -/

/-- The function of two numbers that an arithmetic operator computes. -/
def Operator.function? : Operator → Option (Binary64 → Binary64 → Binary64)
  | .multiply => some .mul
  | .divide => some .div
  | .add => some .add
  | .subtract => some .sub
  | .power => some .pow
  | .assign | .replaceMatches => none

theorem Operator.apply_eq_calculate {op : Operator} {f : Binary64 → Binary64 → Binary64}
    (hop : op.function? = some f) (current operand : Text) :
    op.apply current operand = calculate op.symbol f current operand := by
  cases op with
  | assign | replaceMatches => exact absurd hop (by simp [function?])
  | multiply | divide | add | subtract | power =>
    obtain rfl := Option.some.inj hop
    rfl

/-- A text is read as a finite number, or refused with the text itself. -/
theorem readNumber_cases (text : Text) :
    (∃ negative m e, readNumber text = .ok (.finite negative m e)) ∨
      readNumber text = .error (.notANumber text) := by
  unfold readNumber
  cases Binary64.parse? (trim text) with
  | none => exact .inr rfl
  | some x =>
    cases x with
    | finite negative m e => exact .inl ⟨negative, m, e, rfl⟩
    | infinite negative => exact .inr rfl
    | nan => exact .inr rfl

/-- An arithmetic operator either refuses, for an operand that is no finite number or for a result
that is none, or writes the plain form of the result. That text is read back as the number it
stands for, except that a result too large for fifteen digits is written as an infinity, which is
read as no number. -/
theorem Operator.apply_arithmetic {op : Operator} {f : Binary64 → Binary64 → Binary64}
    (hop : op.function? = some f) (current operand : Text) :
    match op.apply current operand with
    | .ok s => ∃ x y negative m e, readNumber current = .ok x ∧ readNumber operand = .ok y ∧
        f x y = .finite negative m e ∧ s = (f x y).toPlainText ∧
        readNumber s = if Binary64.magnitude m e < Binary64.plainOverflow
          then .ok (f x y).plain else .error (.notANumber s)
    | .error refusal =>
        readNumber current = .error refusal ∨ readNumber operand = .error refusal ∨
        ∃ x y, readNumber current = .ok x ∧ readNumber operand = .ok y ∧
          (f x y).isFinite = false ∧ refusal = .notFinite current op.symbol operand := by
  rw [apply_eq_calculate hop, calculate]
  obtain ⟨n₁, m₁, e₁, hcurrent⟩ | hcurrent := readNumber_cases current
  · obtain ⟨n₂, m₂, e₂, hoperand⟩ | hoperand := readNumber_cases operand
    · rw [hcurrent, hoperand]
      simp only
      cases hresult : f (.finite n₁ m₁ e₁) (.finite n₂ m₂ e₂) with
      | finite negative m e =>
        have hread := Binary64.readNumber_toPlainText negative m e
        exact ⟨_, _, negative, m, e, rfl, rfl, hresult, by rw [hresult], by rwa [hresult]⟩
      | infinite negative => exact .inr (.inr ⟨_, _, rfl, rfl, by rw [hresult]; rfl, rfl⟩)
      | nan => exact .inr (.inr ⟨_, _, rfl, rfl, by rw [hresult]; rfl, rfl⟩)
    · rw [hcurrent, hoperand]
      exact .inr (.inl rfl)
  · rw [hcurrent]
    exact .inl rfl

theorem Operator.apply_arithmetic_eightTimesTwo :
    Operator.multiply.function? = some .mul ∧
      Operator.multiply.apply "8".toList "2".toList = .ok "16".toList ∧
      ∃ x y negative m e, readNumber "8".toList = .ok x ∧ readNumber "2".toList = .ok y ∧
        x.mul y = .finite negative m e ∧ "16".toList = (x.mul y).toPlainText ∧
        readNumber "16".toList = if Binary64.magnitude m e < Binary64.plainOverflow
          then .ok (x.mul y).plain else .error (.notANumber "16".toList) := by
  have happly : Operator.multiply.apply "8".toList "2".toList = .ok "16".toList := rfl
  have hresult := Operator.apply_arithmetic (show Operator.multiply.function? = some .mul from rfl)
    "8".toList "2".toList
  rw [happly] at hresult
  exact ⟨rfl, happly, hresult⟩

/-- The largest number, times one, is written as a text that no operator reads. -/
theorem Operator.apply_not_always_readable :
    ¬∀ (op : Operator) (current operand s : Text), op.function?.isSome →
      op.apply current operand = .ok s → ∃ x, readNumber s = .ok x := by
  intro h
  have hsome : (Operator.multiply.apply "1.7976931348623157e308".toList "1".toList).toOption =
      some "inf".toList := by decide +kernel
  cases happly : Operator.multiply.apply "1.7976931348623157e308".toList "1".toList with
  | error refusal =>
    rw [happly] at hsome
    exact absurd hsome (by simp [Except.toOption])
  | ok s =>
    rw [happly] at hsome
    obtain rfl : s = "inf".toList := Option.some.inj hsome
    obtain ⟨x, hx⟩ := h .multiply _ _ _ rfl happly
    have hrefused : readNumber "inf".toList = .error (.notANumber "inf".toList) := rfl
    rw [hrefused] at hx
    exact absurd hx (by simp)

end CfgPatch
