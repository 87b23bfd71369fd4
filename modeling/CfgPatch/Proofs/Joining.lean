import CfgPatch.Proofs.Clauses

/-!
# Parts and what stands between them

Constraint lists and reference paths are parts with separators in between. Cutting a text outside of
its brackets undoes the joining of parts, for every set of separators that has no bracket in it:
the parts and the separators that were cut out make up the text again, and parts whose brackets
balance and enclose all of their separators are given back as they were, empty ones included.
-/

namespace CfgPatch.Brackets

open Text

/-- A text in parts: the first one, and the others with the separators in front of them. -/
structure Parted where
  first : Text
  rest : List (Char × Text)
deriving DecidableEq, Repr

namespace Parted

variable {isSeparator : Char → Bool} {depth : Nat} {c : Char} {t : Text} {w : Parted}

/-- The parts, in order. -/
def parts (w : Parted) : List Text := w.first :: w.rest.map Prod.snd

/-- The separators, in order. -/
def separators (w : Parted) : List Char := w.rest.map Prod.fst

/-- The parts with their separators in between. -/
def text (w : Parted) : Text := w.first ++ w.rest.flatMap fun p => p.1 :: p.2

theorem length_parts (w : Parted) : w.parts.length = w.separators.length + 1 := by
  simp [parts, separators]

theorem text_cons (first : Text) (p : Char × Text) (rest : List (Char × Text)) :
    text ⟨first, p :: rest⟩ = first ++ p.1 :: text ⟨p.2, rest⟩ := by
  simp [text]

/-- The parts are what a cut leaves of a text that begins `depth` deep and closes its brackets: each
part closes the brackets that are open in front of it, and has no separator outside of them. -/
structure IsCut (isSeparator : Char → Bool) (depth : Nat) (w : Parted) : Prop where
  first_closes : depthAfter? depth w.first = some 0
  first_whole : ¬HasOutside isSeparator depth w.first
  rest : ∀ p ∈ w.rest, balanced p.2 ∧ ¬HasOutside isSeparator 0 p.2

theorem IsCut.forall_parts (h : w.IsCut isSeparator 0) :
    ∀ a ∈ w.parts, balanced a ∧ ¬HasOutside isSeparator 0 a := by
  refine List.forall_mem_cons.2 ⟨⟨balanced_iff.2 h.first_closes, h.first_whole⟩, ?_⟩
  exact List.forall_mem_map.2 h.rest

/-- Where a separator outside of all brackets is cut out, an empty part ends. -/
theorem IsCut.separate (h : w.IsCut isSeparator 0) :
    IsCut isSeparator 0 ⟨[], (c, w.first) :: w.rest⟩ where
  first_closes := rfl
  first_whole := by rintro ⟨front, d, back, htext, _⟩; simp at htext
  rest := List.forall_mem_cons.2 ⟨⟨balanced_iff.2 h.first_closes, h.first_whole⟩, h.rest⟩

/-- Any other character belongs to the part that goes on behind it. -/
theorem IsCut.keep (h : w.IsCut isSeparator (depthBehind depth c)) (hdepth : c = ']' → depth ≠ 0)
    (hkept : ¬(depth = 0 ∧ isSeparator c)) : IsCut isSeparator depth ⟨c :: w.first, w.rest⟩ where
  first_closes := by rw [depthAfter?_cons hdepth, h.first_closes]
  first_whole := by
    rw [hasOutside_cons_iff]
    exact not_or.2 ⟨hkept, fun hbehind => h.first_whole hbehind.2⟩
  rest := h.rest

/-! ## Cutting and joining -/

/-- A text is cut into parts that make it up together with the separators, and the parts are whole
if the text closes its brackets. -/
theorem exists_splitFrom (hopen : ¬isSeparator '[') (hclose : ¬isSeparator ']') (depth : Nat)
    (t : Text) :
    ∃ w : Parted, splitFrom isSeparator depth t = w.parts ∧ w.text = t ∧
      (∀ c ∈ w.separators, isSeparator c) ∧
        (depthAfter? depth t = some 0 → w.IsCut isSeparator depth) := by
  fun_induction splitFrom isSeparator depth t with
  | case1 depth =>
    refine ⟨⟨[], []⟩, rfl, rfl, by simp [separators], fun h => ⟨h, ?_, by simp⟩⟩
    rintro ⟨front, c, back, htext, _⟩
    simp at htext
  | case2 depth c t hcut ih =>
    -- the separator stands outside of all brackets
    simp only [Bool.and_eq_true, decide_eq_true_eq, bne_iff_ne] at hcut
    obtain ⟨⟨⟨rfl, hc⟩, hc'⟩, hseparator⟩ := hcut
    obtain ⟨w, hparts, rfl, hall, hiscut⟩ := ih
    refine ⟨⟨[], (c, w.first) :: w.rest⟩, by rw [hparts]; rfl, text_cons [] _ _, ?_, fun h => ?_⟩
    · exact List.forall_mem_cons.2 ⟨hseparator, hall⟩
    · have hsame : depthBehind 0 c = 0 := by rw [depthBehind, if_neg hc, if_neg hc']
      rw [depthAfter?_cons fun h => absurd h hc', hsame] at h
      exact (hiscut h).separate
  | case3 depth c t _ hnil => exact absurd hnil (splitFrom_ne_nil _ _ _)
  | case4 depth c t hkept piece pieces hpieces ih =>
    obtain ⟨w, hparts, rfl, hall, hiscut⟩ := ih
    obtain ⟨rfl, rfl⟩ := List.cons.inj (hpieces.symm.trans hparts)
    refine ⟨⟨c :: w.first, w.rest⟩, rfl, rfl, hall, fun h => ?_⟩
    have hdepth := ne_zero_of_depthAfter? (by rw [h]; rfl)
    rw [depthAfter?_cons hdepth] at h
    refine (hiscut h).keep hdepth ?_
    rintro ⟨rfl, hseparator⟩
    -- it separates and is no bracket, so it would have been cut out
    have hbrackets : c ≠ '[' ∧ c ≠ ']' := by
      constructor <;> rintro rfl
      · exact hopen hseparator
      · exact hclose hseparator
    exact hkept (by simp [hbrackets, hseparator])

/-- A text that was put together from whole parts is cut into these parts. -/
theorem splitOutside_text (hopen : ¬isSeparator '[') (hclose : ¬isSeparator ']')
    (hparts : ∀ a ∈ w.parts, balanced a ∧ ¬HasOutside isSeparator 0 a)
    (hseparators : ∀ c ∈ w.separators, isSeparator c) :
    splitOutside isSeparator w.text = w.parts := by
  obtain ⟨first, rest⟩ := w
  induction rest generalizing first with
  | nil =>
    obtain ⟨⟨hbalanced, hwhole⟩, _⟩ := List.forall_mem_cons.1 hparts
    have hfirst := splitFrom_eq_singleton (by rw [balanced_iff.1 hbalanced]; rfl) hwhole
    simpa [text, parts, splitOutside] using hfirst
  | cons p rest ih =>
    obtain ⟨⟨hbalanced, hwhole⟩, hbehind⟩ := List.forall_mem_cons.1 hparts
    obtain ⟨hp, hrest⟩ := List.forall_mem_cons.1 hseparators
    have hne : p.1 ≠ '[' ∧ p.1 ≠ ']' := by
      constructor <;> intro hc <;> rw [hc] at hp
      · exact hopen hp
      · exact hclose hp
    have hfirst := splitFrom_eq_singleton (by rw [balanced_iff.1 hbalanced]; rfl) hwhole
    rw [text_cons, splitOutside, splitFrom_append_cons (balanced_iff.1 hbalanced) hp hne.1 hne.2,
      hfirst]
    exact congrArg (first :: ·) (ih p.2 hbehind hrest)

/-- Cutting is the inverse of joining. Whatever the text, its parts make it up again with the
separators that were cut out; the parts of a balanced text are balanced and have no separator
outside of brackets; and a join of such parts is cut into exactly these. -/
theorem split_inverts_join (hopen : ¬isSeparator '[') (hclose : ¬isSeparator ']') :
    (∀ t, ∃ w : Parted, splitOutside isSeparator t = w.parts ∧ w.text = t ∧
      (∀ c ∈ w.separators, isSeparator c) ∧ w.parts.length = w.separators.length + 1) ∧
    (∀ t, balanced t → ∀ a ∈ splitOutside isSeparator t,
      balanced a ∧ ¬HasOutside isSeparator 0 a) ∧
    ∀ w : Parted, (∀ a ∈ w.parts, balanced a ∧ ¬HasOutside isSeparator 0 a) →
      (∀ c ∈ w.separators, isSeparator c) → splitOutside isSeparator w.text = w.parts := by
  refine ⟨fun t => ?_, fun t ht => ?_, fun w => splitOutside_text hopen hclose⟩
  · obtain ⟨w, hparts, htext, hseparators, _⟩ := exists_splitFrom hopen hclose 0 t
    exact ⟨w, hparts, htext, hseparators, w.length_parts⟩
  · obtain ⟨w, hparts, _, _, hcut⟩ := exists_splitFrom hopen hclose 0 t
    rw [splitOutside, hparts]
    exact (hcut (balanced_iff.1 ht)).forall_parts

/-- Three parts, one with separators in its brackets and one that is empty. -/
def threeParts : Parted := ⟨"#a[x,y]".toList, [(',', []), ('&', "~f".toList)]⟩

theorem split_inverts_join_threeParts :
    (¬isAtomSeparator '[' ∧ ¬isAtomSeparator ']') ∧
      atomTexts "#a[x,y],&~f".toList = ["#a[x,y]".toList, [], "~f".toList] := by
  have hbrackets : ¬isAtomSeparator '[' ∧ ¬isAtomSeparator ']' := by decide
  have hseparators : threeParts.separators.all isAtomSeparator := by decide
  obtain ⟨_, _, hjoin⟩ := split_inverts_join hbrackets.1 hbrackets.2
  exact ⟨hbrackets, hjoin threeParts (by decide) (List.all_eq_true.1 hseparators)⟩

end Parted

end CfgPatch.Brackets
