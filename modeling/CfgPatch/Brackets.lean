import CfgPatch.Text

/-!
# Square brackets

Names of nodes nest texts in square brackets. This module says when brackets balance, finds
the bracket that closes an open one, and cuts a text at separators that stand outside all
brackets. The depth of a place is the number of brackets open there; a closing bracket with
none to close leaves it at zero.
-/

namespace CfgPatch.Brackets

open Text

/-- The number of brackets open after a text that begins `depth` deep; none if some bracket
closes one that was never opened. -/
def depthAfter? (depth : Nat) : Text → Option Nat
  | [] => some depth
  | c :: t =>
    if c = '[' then depthAfter? (depth + 1) t
    else if c = ']' then
      match depth with
      | 0 => none
      | d + 1 => depthAfter? d t
    else depthAfter? depth t

/-- Whether every bracket of a text has its partner. -/
def balanced (t : Text) : Bool := depthAfter? 0 t == some 0

/-- Cuts a text that begins `depth` deep at the bracket that brings it back outside: the
text in front of that bracket and the text behind it. -/
def close? (depth : Nat) : Text → Option (Text × Text)
  | [] => none
  | c :: t =>
    if c = '[' then (close? (depth + 1) t).map fun (a, b) => (c :: a, b)
    else if c = ']' then
      match depth with
      | 0 => none
      | 1 => some ([], t)
      | d + 2 => (close? (d + 1) t).map fun (a, b) => (c :: a, b)
    else (close? depth t).map fun (a, b) => (c :: a, b)

/-- What `close?` cuts is the text, with the closing bracket in between. -/
theorem eq_append_of_close? {depth : Nat} {t a b : Text} (h : close? depth t = some (a, b)) :
    t = a ++ ']' :: b := by
  fun_induction close? depth t generalizing a with
  | case1 => simp at h
  | case2 d t ih =>
    obtain ⟨⟨x, y⟩, hxy, e⟩ := Option.map_eq_some_iff.1 h
    simp only [Prod.mk.injEq] at e
    obtain ⟨rfl, rfl⟩ := e
    simp [ih hxy]
  | case3 => simp at h
  | case4 => simp_all
  | case5 t d _ ih =>
    obtain ⟨⟨x, y⟩, hxy, e⟩ := Option.map_eq_some_iff.1 h
    simp only [Prod.mk.injEq] at e
    obtain ⟨rfl, rfl⟩ := e
    simp [ih hxy]
  | case6 d c t _ _ ih =>
    obtain ⟨⟨x, y⟩, hxy, e⟩ := Option.map_eq_some_iff.1 h
    simp only [Prod.mk.injEq] at e
    obtain ⟨rfl, rfl⟩ := e
    simp [ih hxy]

/-- A bracket group at the front of a text: what it holds and what follows it. -/
def group? : Text → Option (Text × Text)
  | '[' :: t => close? 1 t
  | _ => none

theorem eq_append_of_group? {t inner rest : Text} (h : group? t = some (inner, rest)) :
    t = '[' :: (inner ++ ']' :: rest) := by
  unfold group? at h
  split at h
  · rw [eq_append_of_close? h]
  · simp at h

/-- The byte at which the bracket stands that closes the one at byte `start`. -/
def closingByte? (t : Text) (start : Nat) : Option Nat :=
  (close? 0 (dropBytes start t)).map fun (a, _) => start + utf8Length a

/-- The depth behind a character that stands `depth` deep. -/
def depthBehind (depth : Nat) (c : Char) : Nat :=
  if c = '[' then depth + 1 else if c = ']' then depth - 1 else depth

/-- Cuts a text that begins `depth` deep at the separators outside all brackets; there is
always at least one piece. -/
def splitFrom (isSeparator : Char → Bool) (depth : Nat) : Text → List Text
  | [] => [[]]
  | c :: t =>
    if depth = 0 && c != '[' && c != ']' && isSeparator c then
      [] :: splitFrom isSeparator 0 t
    else
      match splitFrom isSeparator (depthBehind depth c) t with
      | [] => [[c]]
      | piece :: pieces => (c :: piece) :: pieces

/-- Cuts a text at the separators outside all brackets. -/
def splitOutside (isSeparator : Char → Bool) (t : Text) : List Text :=
  splitFrom isSeparator 0 t

theorem splitFrom_ne_nil (p : Char → Bool) (depth : Nat) (t : Text) :
    splitFrom p depth t ≠ [] := by
  fun_induction splitFrom p depth t <;> simp_all

/-- Together the pieces are no longer than the text they were cut from. -/
theorem totalLength_splitFrom_le (p : Char → Bool) (depth : Nat) (t : Text) :
    totalLength (splitFrom p depth t) ≤ t.length := by
  fun_induction splitFrom p depth t with
  | case1 => exact Nat.le_refl _
  | case2 d c t hsep ih =>
    simp only [totalLength, List.length_cons, List.length_nil]
    omega
  | case3 d c t hsep hnil => exact absurd hnil (splitFrom_ne_nil _ _ _)
  | case4 d c t hsep x xs hx ih =>
    rw [hx] at ih
    simp only [totalLength, List.length_cons] at ih ⊢
    omega

end CfgPatch.Brackets
