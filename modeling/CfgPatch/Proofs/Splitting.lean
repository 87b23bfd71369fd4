import CfgPatch.Header
import CfgPatch.Proofs.Trim
import Mathlib.Tactic

/-!
# Cutting texts that were put together

Keys are cut at their last comma, paths and constraint lists at separators outside of all
brackets, and indexes are read from decimal numerals. Here is what these give back of a text that
was put together from pieces: the pieces, if no piece has in it what the text is cut at. For cuts
outside of brackets this means that a piece may have separators, as long as brackets of its own
enclose them (`HasOutside`).
-/

namespace CfgPatch

namespace Text

/-! ## The last separator -/

variable {p : Char → Bool} {a b t : Text} {c : Char}

theorem splitLast?_eq_none_iff : splitLast? p t = none ↔ ∀ c ∈ t, ¬p c := by
  induction t with
  | nil => simp [splitLast?]
  | cons c t ih =>
    rw [splitLast?, List.forall_mem_cons, ← ih]
    cases splitLast? p t <;> simp

/-- A text is cut where nothing behind separates. -/
theorem splitLast?_append_cons (hc : p c) (hb : ∀ d ∈ b, ¬p d) :
    splitLast? p (a ++ c :: b) = some (a, b) := by
  induction a with
  | nil => rw [List.nil_append, splitLast?, splitLast?_eq_none_iff.2 hb, if_pos hc]
  | cons d a ih => rw [List.cons_append, splitLast?, ih]

theorem exists_append_of_splitLast? (h : splitLast? p t = some (a, b)) :
    ∃ c, t = a ++ c :: b ∧ p c := by
  induction t generalizing a with
  | nil => exact absurd h (by simp [splitLast?])
  | cons d t ih =>
    rw [splitLast?] at h
    cases hrest : splitLast? p t with
    | some found =>
      rw [hrest] at h
      obtain ⟨rfl, rfl⟩ := Prod.mk.inj (Option.some.inj h)
      obtain ⟨c, rfl, hc⟩ := ih hrest
      exact ⟨c, rfl, hc⟩
    | none =>
      rw [hrest] at h
      split_ifs at h with hd
      obtain ⟨rfl, rfl⟩ := Prod.mk.inj (Option.some.inj h)
      exact ⟨d, rfl, hd⟩

theorem isPrefix_of_splitLast? (h : splitLast? p t = some (a, b)) : a <+: t := by
  obtain ⟨c, rfl, _⟩ := exists_append_of_splitLast? h
  exact List.prefix_append ..

/-! ## Numerals -/

theorem isDigit_of_mem_ofNat {n : Nat} (h : c ∈ ofNat n) : c.isDigit :=
  Nat.isDigit_of_mem_toDigits (by decide) (by decide) h

theorem ofNat_ne_nil (n : Nat) : ofNat n ≠ [] := Nat.toDigits_ne_nil

theorem not_isBlank_of_isDigit (h : c.isDigit) : ¬isBlank c := by
  have hcode : 48 ≤ c.toNat ∧ c.toNat ≤ 57 := by
    simpa [Char.isDigit, UInt32.le_iff_toNat_le] using h
  simp [isBlank]
  omega

theorem digitsValue_ofNat (n : Nat) : digitsValue (ofNat n) = n := by
  -- the two ways to read a list of digits are one and the same fold
  have hvalue : digitsValue (ofNat n) = Nat.ofDigitChars 10 (Nat.toDigits 10 n) 0 := rfl
  rw [hvalue]
  simp

/-- Without blanks at its ends, a numeral is as it was. -/
theorem trim_ofNat (n : Nat) : trim (ofNat n) = ofNat n :=
  trim_eq_self (fun _ hc => not_isBlank_of_isDigit (isDigit_of_mem_ofNat (List.mem_of_head? hc)))
    fun _ hc => not_isBlank_of_isDigit (isDigit_of_mem_ofNat (List.mem_of_getLast? hc))

/-- A numeral is read as its number, if that is not too large for an index. -/
theorem readIndex?_ofNat (n : Nat) :
    readIndex? (ofNat n) = if n ≤ maxIndex then some n else none := by
  have hdigits : ∀ c ∈ ofNat n, c.isDigit := fun c hc => isDigit_of_mem_ofNat hc
  have hplus : ∀ r, ofNat n ≠ '+' :: r := by
    intro r hr
    have hbad : ('+').isDigit := hdigits '+' (by rw [hr]; simp)
    exact absurd hbad (by decide)
  unfold readIndex?
  split
  · rename_i r hr
    exact absurd hr (hplus r)
  · simp only [digitsValue_ofNat]
    rw [if_neg (by simpa [ofNat_ne_nil] using hdigits)]

end Text

open Text

theorem Index.parse_ofNat (key : Text) (n : Nat) :
    Index.parse key (ofNat n) =
      if n ≤ maxIndex then .ok (.nth n) else .error (.invalidIndex key (ofNat n)) := by
  have hevery : ofNat n ≠ ['*'] := by
    intro hstar
    have hbad : ('*').isDigit := isDigit_of_mem_ofNat (n := n) (by rw [hstar]; simp)
    exact absurd hbad (by decide)
  simp only [Index.parse, trim_ofNat, readIndex?_ofNat]
  rw [if_neg hevery]
  split_ifs <;> rfl

/-! ## Separators outside of brackets -/

namespace Brackets

variable {isSeparator : Char → Bool} {c : Char} {t u : Text} {depth : Nat}

/-- In a text that begins `depth` deep a separator stands outside of all brackets. -/
def HasOutside (isSeparator : Char → Bool) (depth : Nat) (t : Text) : Prop :=
  ∃ front c back, t = front ++ c :: back ∧ isSeparator c ∧ depthAfter? depth front = some 0

/-- Behind a character the count of open brackets goes on, unless the character closes a bracket
that was never opened. -/
theorem depthAfter?_cons (h : c = ']' → depth ≠ 0) :
    depthAfter? depth (c :: t) = depthAfter? (depthBehind depth c) t := by
  cases depth with
  | zero =>
    have hclose : c ≠ ']' := fun hc => h hc rfl
    simp only [depthAfter?, depthBehind, if_neg hclose]
    split_ifs <;> rfl
  | succ d =>
    simp only [depthAfter?, depthBehind]
    split_ifs <;> rfl

theorem ne_zero_of_depthAfter? (h : (depthAfter? depth (c :: t)).isSome) : c = ']' → depth ≠ 0 := by
  rintro rfl rfl
  simp [depthAfter?] at h

theorem depthAfter?_of_no_brackets (h : ∀ c ∈ t, c ≠ '[' ∧ c ≠ ']') :
    depthAfter? depth t = some depth := by
  induction t with
  | nil => rfl
  | cons c t ih =>
    obtain ⟨⟨hopen, hclose⟩, hrest⟩ := List.forall_mem_cons.1 h
    have hsame : depthBehind depth c = depth := by rw [depthBehind, if_neg hopen, if_neg hclose]
    rw [depthAfter?_cons fun hc => absurd hc hclose, hsame, ih hrest]

/-- The brackets of a text are counted from where those in front of it have led to. -/
theorem depthAfter?_append (depth : Nat) (t u : Text) :
    depthAfter? depth (t ++ u) = (depthAfter? depth t).bind fun d => depthAfter? d u := by
  fun_induction depthAfter? depth t with
  | case1 => rfl
  | case2 depth t ih => simpa [depthAfter?] using ih
  | case3 => simp [depthAfter?]
  | case4 t depth _ ih => simpa [depthAfter?] using ih
  | case5 depth c t hopen hclose ih => simpa [depthAfter?, hopen, hclose] using ih

/-- Outside of all brackets stands the first character, if no bracket is open, and what stands there
behind it, unless it closes a bracket that was never opened. -/
theorem hasOutside_cons_iff :
    HasOutside isSeparator depth (c :: t) ↔
      depth = 0 ∧ isSeparator c ∨
        (c = ']' → depth ≠ 0) ∧ HasOutside isSeparator (depthBehind depth c) t := by
  constructor
  · rintro ⟨front, d, back, htext, hd, hfront⟩
    cases front with
    | nil =>
      obtain ⟨rfl, rfl⟩ := List.cons.inj htext
      exact .inl ⟨Option.some.inj hfront, hd⟩
    | cons e front =>
      obtain ⟨rfl, rfl⟩ := List.cons.inj htext
      have hdepth := ne_zero_of_depthAfter? (by rw [hfront]; rfl)
      exact .inr ⟨hdepth, front, d, back, rfl, hd, by rwa [← depthAfter?_cons hdepth]⟩
  · rintro (⟨rfl, hc⟩ | ⟨hdepth, front, d, back, rfl, hd, hfront⟩)
    · exact ⟨[], c, t, rfl, hc, rfl⟩
    · exact ⟨c :: front, d, back, rfl, hd, by rw [depthAfter?_cons hdepth, hfront]⟩

instance decidableHasOutside :
    (depth : Nat) → (t : Text) → Decidable (HasOutside isSeparator depth t)
  | _, [] => isFalse fun ⟨_, _, _, htext, _⟩ => absurd htext (by simp)
  | depth, c :: t =>
    have : Decidable (HasOutside isSeparator (depthBehind depth c) t) := decidableHasOutside _ t
    decidable_of_iff _ hasOutside_cons_iff.symm

/-- A text is not cut within its brackets. -/
theorem splitFrom_eq_singleton (hbrackets : (depthAfter? depth t).isSome)
    (houtside : ¬HasOutside isSeparator depth t) : splitFrom isSeparator depth t = [t] := by
  induction t generalizing depth with
  | nil => rfl
  | cons c t ih =>
    have hdepth := ne_zero_of_depthAfter? hbrackets
    obtain ⟨hfirst, hbehind⟩ := not_or.1 (mt hasOutside_cons_iff.2 houtside)
    have hrest : ¬HasOutside isSeparator (depthBehind depth c) t := fun h => hbehind ⟨hdepth, h⟩
    have hhere : ¬(depth = 0 && c != '[' && c != ']' && isSeparator c) := by
      intro h
      simp only [Bool.and_eq_true, decide_eq_true_eq] at h
      obtain ⟨⟨⟨hzero, _⟩, _⟩, hc⟩ := h
      exact hfirst ⟨hzero, hc⟩
    rw [splitFrom, if_neg hhere, ih (by rwa [← depthAfter?_cons hdepth]) hrest]

/-- A text is cut where all brackets are closed and a separator follows. -/
theorem splitFrom_append_cons (hbrackets : depthAfter? depth t = some 0) (hc : isSeparator c)
    (hopen : c ≠ '[') (hclose : c ≠ ']') :
    splitFrom isSeparator depth (t ++ c :: u) =
      splitFrom isSeparator depth t ++ splitFrom isSeparator 0 u := by
  induction t generalizing depth with
  | nil =>
    obtain rfl : depth = 0 := by simpa [depthAfter?] using hbrackets
    have hhere : (decide (0 = 0) && c != '[' && c != ']' && isSeparator c) = true := by
      simp [hc, hopen, hclose]
    have hcut : splitFrom isSeparator 0 (c :: u) = [] :: splitFrom isSeparator 0 u := by
      rw [splitFrom, if_pos hhere]
    rw [List.nil_append, hcut]
    rfl
  | cons d t ih =>
    have hdepth := ne_zero_of_depthAfter? (by rw [hbrackets]; rfl)
    rw [List.cons_append, splitFrom, splitFrom]
    have hrest := ih (by rwa [← depthAfter?_cons hdepth])
    split_ifs with hhere
    · -- a separator leaves the depth at zero
      simp only [Bool.and_eq_true, decide_eq_true_eq, bne_iff_ne] at hhere
      obtain ⟨⟨⟨rfl, hd⟩, hd'⟩, _⟩ := hhere
      rw [depthBehind, if_neg hd, if_neg hd'] at hrest
      rw [hrest, List.cons_append]
    · rw [hrest]
      cases hrest : splitFrom isSeparator (depthBehind depth d) t with
      | nil => exact absurd hrest (splitFrom_ne_nil _ _ _)
      | cons piece pieces => rfl

end Brackets

end CfgPatch
