import CfgPatch.Proofs.Computed
import CfgPatch.Proofs.Decimals

/-!
# Numbers in texts

A decimal in positional notation is read as a numeral of the same value
(`exists_readNumeral?_positional`), and a numeral whose value rounds to a number in normal form is
taken to that number, whichever of the shortcuts for very large and very small numerals it meets
(`Numeral.toBinary64_of_roundsTo`). With the decimals that numbers are written as, this closes the
circle: the text of a number is read as that number (`parse?_toText`).
-/

namespace CfgPatch

namespace Text

theorem digitsValue_append_zeros (t : Text) (k : Nat) :
    digitsValue (t ++ List.replicate k '0') = digitsValue t * 10 ^ k := by
  have hvalue : ∀ t : Text, digitsValue t = Nat.ofDigitChars 10 t 0 := fun _ => rfl
  rw [hvalue, hvalue, Nat.ofDigitChars_append, Nat.ofDigitChars_replicate_zero, mul_comm]

theorem digitsValue_zeros_append (k : Nat) (t : Text) :
    digitsValue (List.replicate k '0' ++ t) = digitsValue t := by
  have hvalue : ∀ t : Text, digitsValue t = Nat.ofDigitChars 10 t 0 := fun _ => rfl
  rw [hvalue, hvalue, Nat.ofDigitChars_append, Nat.ofDigitChars_replicate_zero, mul_zero]

end Text

namespace Binary64

open Text

/-! ## Numerals -/

/-- The rational a numeral stands for. -/
def Numeral.value (n : Numeral) : ℚ :=
  digitsValue (n.whole ++ n.fraction) * 10 ^ (n.exponent - n.fraction.length)

theorem readNumeral?_whole {whole : Text} (hne : whole ≠ []) (hdigits : ∀ c ∈ whole, c.isDigit) :
    readNumeral? whole = some ⟨whole, [], 0⟩ := by
  have htake := List.takeWhile_eq_self_iff.2 hdigits
  have hdrop := List.dropWhile_eq_nil_iff.2 hdigits
  simp [readNumeral?, htake, hdrop, hne, readExponent?]

theorem readNumeral?_point {whole fraction : Text} (hne : whole ≠ [])
    (hwhole : ∀ c ∈ whole, c.isDigit) (hfraction : ∀ c ∈ fraction, c.isDigit) :
    readNumeral? (whole ++ '.' :: fraction) = some ⟨whole, fraction, 0⟩ := by
  have hpoint : ¬('.').isDigit := by decide
  have htake : (whole ++ '.' :: fraction).takeWhile Char.isDigit = whole := by
    rw [List.takeWhile_append_of_pos hwhole, List.takeWhile_cons_of_neg hpoint, List.append_nil]
  have hdrop : (whole ++ '.' :: fraction).dropWhile Char.isDigit = '.' :: fraction := by
    rw [List.dropWhile_append_of_pos hwhole, List.dropWhile_cons_of_neg hpoint]
  have htake' := List.takeWhile_eq_self_iff.2 hfraction
  have hdrop' := List.dropWhile_eq_nil_iff.2 hfraction
  simp [readNumeral?, htake, hdrop, htake', hdrop', hne, readExponent?]

/-! ## Positional notation -/

/-- Digits without zeros at the end, written out with the power of ten they are multiplied by. -/
def layout (digits : Text) (exponent : Int) : Text :=
  if exponent ≥ 0 then digits ++ List.replicate exponent.toNat '0'
  else
    let places := (-exponent).toNat
    if places < digits.length then
      digits.take (digits.length - places) ++ '.' :: digits.drop (digits.length - places)
    else '0' :: '.' :: List.replicate (places - digits.length) '0' ++ digits

theorem isDigit_of_mem_zeros {k : Nat} {c : Char} (h : c ∈ List.replicate k '0') : c.isDigit := by
  rw [List.eq_of_mem_replicate h]
  decide

/-- Digits written out are read as a numeral of their value. -/
theorem exists_readNumeral?_layout {digits : Text} (hne : digits ≠ [])
    (hdigits : ∀ c ∈ digits, c.isDigit) (exponent : Int) :
    ∃ n, readNumeral? (layout digits exponent) = some n ∧
      n.value = digitsValue digits * 10 ^ exponent := by
  unfold layout
  split
  next hexp =>
    -- zeros behind the digits
    obtain ⟨k, rfl⟩ := Int.eq_ofNat_of_zero_le hexp
    refine ⟨_, readNumeral?_whole (by simp [hne]) (fun c hc => ?_), ?_⟩
    · rcases List.mem_append.1 hc with hc | hc
      · exact hdigits c hc
      · exact isDigit_of_mem_zeros hc
    · simp [Numeral.value, digitsValue_append_zeros]
  next hexp =>
    obtain ⟨places, rfl⟩ : ∃ places : Nat, exponent = -places := ⟨(-exponent).toNat, by omega⟩
    simp only [neg_neg, Int.toNat_natCast]
    split
    next hplaces =>
      -- a point among the digits
      refine ⟨_, readNumeral?_point ?_ (fun c hc => hdigits c (List.mem_of_mem_take hc))
        (fun c hc => hdigits c (List.mem_of_mem_drop hc)), ?_⟩
      · rw [Ne, List.take_eq_nil_iff]
        exact fun h => h.elim (by omega) hne
      · have hlength : digits.length - (digits.length - places) = places := by omega
        simp [Numeral.value, hlength]
    next hplaces =>
      -- zeros in front of the digits
      have hzeros : ∀ c ∈ List.replicate (places - digits.length) '0' ++ digits, c.isDigit := by
        intro c hc
        rcases List.mem_append.1 hc with hc | hc
        · exact isDigit_of_mem_zeros hc
        · exact hdigits c hc
      refine ⟨_, readNumeral?_point (List.cons_ne_nil '0' []) (by simp) hzeros, ?_⟩
      have hlength : places - digits.length + digits.length = places := by omega
      have hvalue := digitsValue_zeros_append (places - digits.length + 1) digits
      rw [List.replicate_succ] at hvalue
      simpa [Numeral.value, hlength] using hvalue

/-- A positive decimal is written as the digits of its numeral without the zeros at the end. -/
theorem exists_positional_eq {x : Decimal} (h : 0 < x.digits) :
    ∃ digits k, digits ≠ [] ∧ (∀ c ∈ digits, c.isDigit) ∧ digitsValue digits * 10 ^ k = x.digits ∧
      x.positional = layout digits (x.exponent + (k : Nat)) := by
  have hall : (ofNat x.digits).rdropWhile (· == '0') ++ List.replicate
      ((ofNat x.digits).length - ((ofNat x.digits).rdropWhile (· == '0')).length) '0' =
        ofNat x.digits := by
    have happend : (ofNat x.digits).rdropWhile (· == '0') ++
        (ofNat x.digits).rtakeWhile (· == '0') = ofNat x.digits :=
      List.rdropWhile_append_rtakeWhile
    have hlength := congr_arg List.length happend
    rw [List.length_append] at hlength
    have hzeros : (ofNat x.digits).rtakeWhile (· == '0') =
        List.replicate ((ofNat x.digits).rtakeWhile (· == '0')).length '0' :=
      List.eq_replicate_of_mem fun c hc => by simpa using List.mem_rtakeWhile_imp hc
    rw [← hlength, Nat.add_sub_cancel_left, ← hzeros]
    exact happend
  have hvalue : digitsValue (ofNat x.digits) = x.digits := digitsValue_ofNat _
  rw [← hall, digitsValue_append_zeros] at hvalue
  refine ⟨(ofNat x.digits).rdropWhile (· == '0'), _, ?_, ?_, hvalue, rfl⟩
  · intro hnil
    rw [hnil] at hvalue
    simp [digitsValue] at hvalue
    omega
  · exact fun c hc => isDigit_of_mem_ofNat ((List.rdropWhile_prefix _ _).subset hc)

/-- The positional notation of a positive decimal is read as a numeral of its value. -/
theorem exists_readNumeral?_positional {x : Decimal} (h : 0 < x.digits) :
    ∃ n, readNumeral? x.positional = some n ∧ n.value = x.value := by
  obtain ⟨digits, k, hne, hdigits, hvalue, hpositional⟩ := exists_positional_eq h
  obtain ⟨n, hread, hn⟩ := exists_readNumeral?_layout hne hdigits (x.exponent + k)
  refine ⟨n, hpositional ▸ hread, ?_⟩
  rw [hn, Decimal.value, ← hvalue, add_comm, zpow_add₀ (by norm_num), zpow_natCast]
  push_cast
  ring

/-! ## The number of a numeral -/

/-- What rounds to a positive number is neither too small nor too large for the format. -/
theorem RoundsTo.bounds {r : ℚ} {m : Nat} {e : Int} (hm : 0 < m) (hn : IsNormal m e)
    (h : RoundsTo r m e) : (2 : ℚ) ^ (-1075 : Int) ≤ r ∧ r < 2 ^ (1024 : Int) := by
  obtain ⟨hlow, hhigh⟩ := abs_le.1 (h.isNearestEven hm).near
  have hone : (1 : ℚ) ≤ m := by exact_mod_cast hm
  have hroom := hn.cast_add_one_le
  constructor
  · have hhalf : (2 : ℚ) ^ (-1075 : Int) ≤ 2 ^ (e - 1) := by
      have hplace := hn.low
      exact zpow_le_zpow_right₀ one_le_two (by simp only [minExponent] at hplace; omega)
    have hle : (1 : ℚ) / 2 ≤ r / 2 ^ e := by linarith
    rw [le_div_iff₀ (by positivity), div_mul_eq_mul_div, one_mul] at hle
    rw [zpow_sub_one₀ two_ne_zero, ← div_eq_mul_inv] at hhalf
    exact hhalf.trans hle
  · have hlt := (div_lt_pow_iff (e := e) 53).1 (show r / 2 ^ e < 2 ^ 53 by linarith)
    have hplace := hn.high
    simp only [maxExponent] at hplace
    exact hlt.trans_le (zpow_le_zpow_right₀ one_le_two (by omega))

/-- The first digit of a natural number, in powers of ten. -/
theorem digitCount_bounds {n : Nat} (h : 0 < n) :
    (10 : ℚ) ^ ((digitCount n : Int) - 1) ≤ n ∧ (n : ℚ) < 10 ^ (digitCount n : Int) := by
  have hlog := isFloorLog_digitCount one_pos (show 1 ≤ n from h)
  simp only [Nat.div_one, Nat.cast_one, div_one] at hlog
  exact ⟨hlog.le, by simpa using hlog.lt⟩

/-- A numeral whose value rounds to a positive number in normal form is taken to that number. -/
theorem Numeral.toBinary64_of_roundsTo (negative : Bool) {n : Numeral} {m : Nat} {e : Int}
    (hm : 0 < m) (hn : IsNormal m e) (h : RoundsTo n.value m e) :
    n.toBinary64 negative = finite negative m e := by
  obtain ⟨hlow, hhigh⟩ := h.bounds hm hn
  unfold toBinary64
  rw [Numeral.value] at h hlow hhigh
  generalize digitsValue (n.whole ++ n.fraction) = digits at h hlow hhigh ⊢
  generalize n.exponent - (n.fraction.length : Int) = exponent at h hlow hhigh ⊢
  have hdigits : 0 < digits := by
    have hpos := h.pos hm
    exact Nat.pos_of_ne_zero fun hzero => by simp [hzero] at hpos
  obtain ⟨hfirst, hbound⟩ := digitCount_bounds hdigits
  have hpow : (0 : ℚ) < 10 ^ exponent := by positivity
  -- neither shortcut can apply
  have hsize : exponent + digitCount digits ≤ decimalRange := by
    by_contra hlarge
    have hle : (10 : ℚ) ^ (400 : Int) ≤ digits * 10 ^ exponent := by
      refine le_trans ?_ (mul_le_mul_of_nonneg_right hfirst hpow.le)
      rw [← zpow_add₀ (by norm_num)]
      refine zpow_le_zpow_right₀ (by norm_num) ?_
      simp only [decimalRange] at hlarge
      omega
    have hrange : (2 : ℚ) ^ (1024 : Int) ≤ 10 ^ (400 : Int) := by
      have hnat : 2 ^ 1024 ≤ 10 ^ 400 := by decide +kernel
      exact_mod_cast hnat
    exact absurd (hrange.trans hle) (not_le.2 hhigh)
  have hsize' : -decimalRange ≤ exponent + digitCount digits := by
    by_contra hsmall
    have hle : (digits : ℚ) * 10 ^ exponent < 10 ^ (-401 : Int) := by
      refine lt_of_lt_of_le (mul_lt_mul_of_pos_right hbound hpow) ?_
      rw [← zpow_add₀ (by norm_num)]
      refine zpow_le_zpow_right₀ (by norm_num) ?_
      simp only [decimalRange] at hsmall
      omega
    have hrange : (10 : ℚ) ^ (-401 : Int) ≤ 2 ^ (-1075 : Int) := by
      have hnat : 2 ^ 1075 ≤ 10 ^ 401 := by decide +kernel
      rw [zpow_neg, zpow_neg]
      refine inv_anti₀ (by positivity) ?_
      exact_mod_cast hnat
    exact absurd (hle.trans_le hrange) (not_lt.2 hlow)
  simp only [hdigits.ne', if_false, not_lt.2 hsize, not_lt.2 hsize']
  exact ofDecimal_of_roundsTo negative hm hn h

/-! ## Numbers -/

/-- What begins with a digit or a point is a numeral and no word. -/
theorem parse?_withSign (negative : Bool) {c : Char} {t : Text} {n : Numeral}
    (hc : c.isDigit ∨ c = '.') (h : readNumeral? (c :: t) = some n) :
    parse? (withSign negative (c :: t)) = some (n.toBinary64 negative) := by
  have hne : ∀ d : Char, ¬d.isDigit → d ≠ '.' → c ≠ d := by
    rintro d hd hpoint rfl
    exact hc.elim hd hpoint
  have hlower : c.toLower = c := by
    refine Char.toLower_eq_of_not_isUpper fun hupper => ?_
    rcases hc with hc | rfl
    · simp only [Char.isDigit, Char.isUpper, Bool.and_eq_true, decide_eq_true_eq, ge_iff_le,
        UInt32.le_iff_toNat_le] at hc hupper
      simp at hc hupper
      omega
    · exact absurd hupper (by decide)
  have hsign : readSign (withSign negative (c :: t)) = (negative, c :: t) := by
    cases negative with
    | true => rfl
    | false =>
      simp [withSign, readSign, hne '-' (by decide) (by decide), hne '+' (by decide) (by decide)]
  have hword : ∀ d w, ¬d.isDigit → d ≠ '.' → (c :: t).map Char.toLower ≠ d :: w := by
    intro d w hd hpoint heq
    rw [List.map_cons, hlower] at heq
    exact hne d hd hpoint (List.cons.inj heq).1
  unfold parse?
  rw [hsign]
  simp only
  rw [if_neg, if_neg, h]
  · rfl
  · exact hword 'n' _ (by decide) (by decide)
  · simp only [Bool.or_eq_true, decide_eq_true_eq, not_or]
    exact ⟨hword 'i' _ (by decide) (by decide), hword 'i' _ (by decide) (by decide)⟩

/-- The text of a number in normal form is read as that number. -/
theorem parse?_toText (negative : Bool) {m : Nat} {e : Int} (hm : 0 < m) (hn : IsNormal m e) :
    parse? (finite negative m e).toText = some (finite negative m e) := by
  have hround := roundsTo_shortest hm hn
  have hdigits : 0 < (shortest m e).digits := by
    have hpos := hround.pos hm
    exact Nat.pos_of_ne_zero fun hzero => by simp [Decimal.value, hzero] at hpos
  obtain ⟨n, hread, hvalue⟩ := exists_readNumeral?_positional hdigits
  have hchars := isDigit_of_mem_positional (shortest m e)
  rw [toText, if_neg hm.ne']
  cases htext : (shortest m e).positional with
  | nil => simp [htext, readNumeral?] at hread
  | cons c t =>
    rw [htext] at hread hchars
    rw [parse?_withSign negative (hchars c (List.mem_cons_self ..)) hread,
      Numeral.toBinary64_of_roundsTo negative hm hn (hvalue ▸ hround)]

end Binary64

end CfgPatch
