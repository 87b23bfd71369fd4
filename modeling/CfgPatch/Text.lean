/-!
# Text

A text is a list of characters, so that every scanner of this library is a recursion on
the text it reads and every law about it is an induction on the same list. Strings appear
only where messages are worded for a reader.

Blank characters are those with the Unicode property `White_Space`; letters and digits are
the ASCII ones, because keywords, indexes and numbers are written in ASCII alone.
-/

namespace CfgPatch

/-- Text, read character by character. -/
abbrev Text := List Char

namespace Text

/-! ## Measuring and comparing -/

/-- The number of bytes of the text in UTF-8. -/
def utf8Length : Text → Nat
  | [] => 0
  | c :: t => c.utf8Size + utf8Length t

@[simp] theorem utf8Length_nil : utf8Length [] = 0 := rfl

@[simp] theorem utf8Length_cons (c : Char) (t : Text) :
    utf8Length (c :: t) = c.utf8Size + utf8Length t := rfl

theorem utf8Length_append (s t : Text) : utf8Length (s ++ t) = utf8Length s + utf8Length t := by
  induction s with
  | nil => simp
  | cons c s ih => simp [ih, Nat.add_assoc]

theorem utf8Length_pos {t : Text} (h : t ≠ []) : 0 < utf8Length t := by
  obtain ⟨c, t, rfl⟩ := List.exists_cons_of_ne_nil h
  have hsize := c.utf8Size_pos
  rw [utf8Length_cons]
  omega

/-- The number of characters of several texts together. -/
def totalLength : List Text → Nat
  | [] => 0
  | t :: ts => t.length + totalLength ts

/-- Whether a text comes before another in the order of code points. -/
def isBefore (s t : Text) : Bool := s.lex t fun c d => c.toNat < d.toNat

/-- The text after its first `n` bytes; a character that the cut would split is kept out. -/
def dropBytes : Nat → Text → Text
  | _, [] => []
  | 0, t => t
  | n + 1, c :: t => dropBytes (n + 1 - c.utf8Size) t

/-- Behind the bytes of its front stands the rest of a text. -/
theorem dropBytes_utf8Length (s t : Text) : dropBytes (utf8Length s) (s ++ t) = t := by
  induction s with
  | nil => cases t <;> rfl
  | cons c s ih =>
    obtain ⟨n, hn⟩ := Nat.exists_eq_succ_of_ne_zero (Nat.pos_iff_ne_zero.1 c.utf8Size_pos)
    have hbytes : utf8Length (c :: s) = n + utf8Length s + 1 := by
      rw [utf8Length_cons]
      omega
    have hrest : n + utf8Length s + 1 - c.utf8Size = utf8Length s := by omega
    rw [hbytes, List.cons_append, dropBytes, hrest, ih]

/-! ## Blanks -/

/-- Whether a character has the Unicode property `White_Space`. -/
def isBlank (c : Char) : Bool :=
  let n := c.toNat
  (9 ≤ n && n ≤ 13) || n == 0x20 || n == 0x85 || n == 0xA0 || n == 0x1680 ||
  (0x2000 ≤ n && n ≤ 0x200A) || n == 0x2028 || n == 0x2029 || n == 0x202F ||
  n == 0x205F || n == 0x3000

/-- The text without the blanks in front. -/
def trimStart (t : Text) : Text := t.dropWhile isBlank

/-- The text without the blanks behind. -/
def trimEnd : Text → Text
  | [] => []
  | c :: t =>
    match trimEnd t with
    | [] => if isBlank c then [] else [c]
    | d :: r => c :: d :: r

/-- The text without the blanks at either end. -/
def trim (t : Text) : Text := trimEnd (trimStart t)

theorem length_trimStart_le (t : Text) : (trimStart t).length ≤ t.length :=
  (List.dropWhile_sublist _).length_le

theorem length_trimEnd_le (t : Text) : (trimEnd t).length ≤ t.length := by
  fun_induction trimEnd t <;> simp_all

theorem length_trim_le (t : Text) : (trim t).length ≤ t.length :=
  Nat.le_trans (length_trimEnd_le _) (length_trimStart_le t)

/-! ## Cutting -/

/-- Cuts the text at every occurrence of `sep`; there is always at least one piece. -/
def split (sep : Char) : Text → List Text
  | [] => [[]]
  | c :: t =>
    if c = sep then [] :: split sep t
    else
      match split sep t with
      | [] => [[c]]
      | piece :: pieces => (c :: piece) :: pieces

/-- The text before and after the last character that satisfies `p`. -/
def splitLast? (p : Char → Bool) : Text → Option (Text × Text)
  | [] => none
  | c :: t =>
    match splitLast? p t with
    | some (before, after) => some (c :: before, after)
    | none => if p c then some ([], t) else none

/-! ## Letters and case -/

/-- Equality of two texts up to the case of ASCII letters. -/
def sameLetters (s t : Text) : Bool := s.map Char.toLower == t.map Char.toLower

theorem sameLetters_iff {s t : Text} :
    sameLetters s t ↔ s.map Char.toLower = t.map Char.toLower := by
  simp [sameLetters]

/-! ## Decimal numerals -/

/-- The value of a list of decimal digits, the first one the most significant. -/
def digitsValue (t : Text) : Nat := t.foldl (fun n c => 10 * n + (c.toNat - '0'.toNat)) 0

/-- The largest index that can be written. -/
def maxIndex : Nat := 0xFFFFFFFFFFFFFFFF

/-- Reads an unsigned decimal numeral, an optional `+` in front, up to `maxIndex`. -/
def readIndex? (t : Text) : Option Nat :=
  let digits := match t with
    | '+' :: r => r
    | _ => t
  if digits.isEmpty || !digits.all Char.isDigit then none
  else
    let n := digitsValue digits
    if n ≤ maxIndex then some n else none

/-- The decimal numeral of a natural number. -/
def ofNat (n : Nat) : Text := Nat.toDigits 10 n

end Text

end CfgPatch
