import CfgPatch.Text
import Mathlib.Data.List.DropRight

/-!
# Laws of trimming

Trimming takes blanks from both ends of a text and nothing else: what is left is a piece of
the text, begins and ends with no blank, and is the whole text if that did so already. Blanks
put around a text are trimmed away with those that were there.
-/

namespace CfgPatch.Text

/-! ## The two ends -/

theorem mem_head?_of_isPrefix {s t : Text} (h : s <+: t) {c : Char} (hc : c ∈ s.head?) :
    c ∈ t.head? := by
  obtain ⟨rest, rfl⟩ := h
  exact List.mem_head?_append_of_mem_head? hc

theorem mem_getLast?_of_isSuffix {s t : Text} (h : s <:+ t) {c : Char} (hc : c ∈ s.getLast?) :
    c ∈ t.getLast? := by
  obtain ⟨front, rfl⟩ := h
  exact List.mem_getLast?_append_of_mem_getLast? hc

theorem trimEnd_eq (t : Text) : trimEnd t = t.rdropWhile isBlank := by
  induction t with
  | nil => rfl
  | cons c t ih =>
    -- the first character is left if anything behind it is
    have hcons : (c :: t).rdropWhile isBlank =
        if t.rdropWhile isBlank = [] then [c].rdropWhile isBlank
        else c :: t.rdropWhile isBlank := by
      simp only [List.rdropWhile, List.reverse_cons, List.dropWhile_append]
      by_cases h : t.reverse.dropWhile isBlank = [] <;> simp [h]
    rw [trimEnd, ih, hcons]
    cases h : t.rdropWhile isBlank with
    | nil => simp [List.rdropWhile_singleton]
    | cons d r => simp

theorem trimStart_append_of_blank {a : Text} (ha : ∀ c ∈ a, isBlank c) (t : Text) :
    trimStart (a ++ t) = trimStart t :=
  List.dropWhile_append_of_pos ha

theorem trimEnd_append_of_blank {b : Text} (hb : ∀ c ∈ b, isBlank c) (t : Text) :
    trimEnd (t ++ b) = trimEnd t := by
  rw [trimEnd_eq, trimEnd_eq, List.rdropWhile, List.reverse_append,
    List.dropWhile_append_of_pos (by simpa using hb), List.rdropWhile]

theorem trimStart_eq_self {t : Text} (h : ∀ c ∈ t.head?, ¬isBlank c) : trimStart t = t := by
  cases t with
  | nil => rfl
  | cons c t => exact List.dropWhile_cons_of_neg (h c rfl)

theorem trimEnd_eq_self {t : Text} (h : ∀ c ∈ t.getLast?, ¬isBlank c) : trimEnd t = t := by
  rw [trimEnd_eq, List.rdropWhile_eq_self_iff]
  exact fun hne => h _ (List.getLast?_eq_some_getLast hne)

/-! ## Both ends at once -/

theorem trim_isPrefix_trimStart (t : Text) : trim t <+: trimStart t := by
  rw [trim, trimEnd_eq]
  exact List.rdropWhile_prefix _ _

/-- What is left is a piece of the text. -/
theorem trim_isInfix (t : Text) : trim t <:+: t :=
  (trim_isPrefix_trimStart t).isInfix.trans (List.dropWhile_suffix _).isInfix

/-- What is left begins with no blank. -/
theorem not_isBlank_head_trim {t : Text} : ∀ c ∈ (trim t).head?, ¬isBlank c := by
  intro c hc
  have hhead := mem_head?_of_isPrefix (trim_isPrefix_trimStart t) hc
  have hnot := List.head?_dropWhile_not isBlank t
  rw [trimStart] at hhead
  rw [Option.mem_def.1 hhead] at hnot
  simpa using hnot

/-- What is left ends with no blank. -/
theorem not_isBlank_getLast_trim {t : Text} : ∀ c ∈ (trim t).getLast?, ¬isBlank c := by
  intro c hc
  rw [trim, trimEnd_eq] at hc
  obtain ⟨hne, rfl⟩ := List.mem_getLast?_eq_getLast hc
  exact List.rdropWhile_last_not _ _ hne

/-- What is trimmed away are blanks. -/
theorem isBlank_or_mem_trim {t : Text} {c : Char} (h : c ∈ t) : isBlank c ∨ c ∈ trim t := by
  rw [← List.takeWhile_append_dropWhile (p := isBlank) (l := t), List.mem_append] at h
  rcases h with hfront | hstart
  · exact .inl (List.mem_takeWhile_imp hfront)
  · have hends := List.rdropWhile_append_rtakeWhile (p := isBlank) (l := t.dropWhile isBlank)
    rw [← hends, List.mem_append] at hstart
    rw [trim, trimEnd_eq, trimStart]
    exact hstart.symm.imp_left List.mem_rtakeWhile_imp

/-- Only blanks can be trimmed away altogether. -/
theorem trim_eq_nil_iff {t : Text} : trim t = [] ↔ ∀ c ∈ t, isBlank c := by
  rw [trim, trimEnd_eq, List.rdropWhile_eq_nil_iff, trimStart]
  constructor
  · intro h
    by_contra hne
    have hdrop : t.dropWhile isBlank ≠ [] := fun hnil => hne (List.dropWhile_eq_nil_iff.1 hnil)
    have hnot := List.head_dropWhile_not isBlank hdrop
    rw [h _ (List.head_mem hdrop)] at hnot
    exact absurd hnot (by simp)
  · exact fun h c hc => h c ((List.dropWhile_suffix _).subset hc)

/-- A text with no blank in front is trimmed at its end only. -/
theorem trim_isPrefix {t : Text} (h : ∀ c ∈ t.head?, ¬isBlank c) : trim t <+: t := by
  simpa [trimStart_eq_self h] using trim_isPrefix_trimStart t

/-- A text with no blank behind is trimmed at its front only. -/
theorem trim_isSuffix {t : Text} (h : ∀ c ∈ t.getLast?, ¬isBlank c) : trim t <:+ t := by
  have hstart : trimStart t <:+ t := List.dropWhile_suffix _
  rw [trim, trimEnd_eq_self fun c hc => h c (mem_getLast?_of_isSuffix hstart hc)]
  exact hstart

/-- A text with no blank at either end stays as it is. -/
theorem trim_eq_self {t : Text} (hfirst : ∀ c ∈ t.head?, ¬isBlank c)
    (hlast : ∀ c ∈ t.getLast?, ¬isBlank c) : trim t = t := by
  rw [trim, trimStart_eq_self hfirst, trimEnd_eq_self hlast]

@[simp] theorem trim_trim (t : Text) : trim (trim t) = trim t :=
  trim_eq_self not_isBlank_head_trim not_isBlank_getLast_trim

/-- Blanks around a text are trimmed away. -/
theorem trim_blanks_around {a b : Text} (ha : ∀ c ∈ a, isBlank c) (hb : ∀ c ∈ b, isBlank c)
    {t : Text} (hfirst : ∀ c ∈ t.head?, ¬isBlank c) (hlast : ∀ c ∈ t.getLast?, ¬isBlank c) :
    trim (a ++ t ++ b) = t := by
  rw [List.append_assoc, trim, trimStart_append_of_blank ha]
  cases t with
  | nil =>
    rw [List.nil_append, trimStart, List.dropWhile_eq_nil_iff.2 hb]
    rfl
  | cons c t =>
    rw [trimStart_eq_self (by simpa using hfirst), trimEnd_append_of_blank hb,
      trimEnd_eq_self hlast]

end CfgPatch.Text
