import CfgPatch.Proofs.Pushes
import CfgPatch.Proofs.Stripping
import Mathlib

/-!
# Names whose pass segments are in other letters

The keyword of a pass segment and the name of its mod may be written in letters of either case. A
name is respelled if the case of some of these letters changes, and nothing else (`Respelled`). The
scanner of passes walks over a name and over a respelling of it from segment to segment alike
(`Respelled.clause`): what is left without the segments is the same text, and the segments are the
same up to the case of the mods (`Respelled.lower_scanPasses`).
-/

namespace CfgPatch

open Text Brackets

/-! ## Letters of either case -/

namespace Text

variable {c d : Char} {s t : Text}

/-- Only letters have a case. -/
theorem toLower_eq_iff (hd : ¬d.isAlpha) : c.toLower = d ↔ c = d := by
  have hsame : ∀ {x : Char}, ¬x.isAlpha → x.toLower = x := by
    intro x hx
    refine Char.toLower_eq_of_not_isUpper fun hup => hx ?_
    simp [Char.isAlpha, hup]
  constructor
  · intro h
    have hc : ¬c.isAlpha := by rwa [← Char.isAlpha_toLower_eq_isAlpha, h]
    rwa [hsame hc] at h
  · rintro rfl
    exact hsame hd

theorem not_isBlank_of_isAlpha (h : c.isAlpha) : ¬isBlank c := by
  have hcode : 65 ≤ c.toNat ∧ c.toNat ≤ 90 ∨ 97 ≤ c.toNat ∧ c.toNat ≤ 122 := by
    simpa [Char.isAlpha, Char.isUpper, Char.isLower, UInt32.le_iff_toNat_le] using h
  simp [isBlank]
  omega

theorem isBlank_toLower (c : Char) : isBlank c.toLower = isBlank c := by
  by_cases hc : c.isAlpha
  · have hlower : c.toLower.isAlpha := by rwa [Char.isAlpha_toLower_eq_isAlpha]
    rw [Bool.eq_false_iff.2 (not_isBlank_of_isAlpha hc),
      Bool.eq_false_iff.2 (not_isBlank_of_isAlpha hlower)]
  · rw [(toLower_eq_iff hc).2 rfl]

theorem lower_eq_nil_iff : t.lower = [] ↔ t = [] := List.map_eq_nil_iff

@[simp] theorem lower_lower (t : Text) : t.lower.lower = t.lower := by
  simp [lower]

theorem lower_trim (t : Text) : (trim t).lower = trim t.lower := by
  have hblank : isBlank ∘ Char.toLower = isBlank := funext isBlank_toLower
  simp only [trim, trimStart, trimEnd_eq, lower, List.rdropWhile, List.dropWhile_map,
    ← List.map_reverse, hblank]

theorem isAlpha_congr (h : sameLetters s t) (hs : ∀ a ∈ s, a.isAlpha) : ∀ a ∈ t, a.isAlpha := by
  intro a ha
  have hmem : a.toLower ∈ s.lower := by
    rw [sameLetters_iff_lower.1 h]
    exact List.mem_map_of_mem ha
  obtain ⟨b, hb, hlower⟩ := List.mem_map.1 hmem
  rw [← Char.isAlpha_toLower_eq_isAlpha, ← hlower, Char.isAlpha_toLower_eq_isAlpha]
  exact hs b hb

end Text

namespace Brackets

variable {s t : Text}

theorem depthAfter?_lower (depth : Nat) (t : Text) :
    depthAfter? depth t.lower = depthAfter? depth t := by
  have hopen : ∀ c : Char, c.toLower = '[' ↔ c = '[' := fun _ => toLower_eq_iff (by decide)
  have hclose : ∀ c : Char, c.toLower = ']' ↔ c = ']' := fun _ => toLower_eq_iff (by decide)
  fun_induction depthAfter? depth t with
  | case1 => rfl
  | case2 depth t ih => simpa [lower, depthAfter?, hopen] using ih
  | case3 => simp [lower, depthAfter?]
  | case4 t depth h ih => simpa [lower, depthAfter?, hopen, hclose] using ih
  | case5 depth c t ho hc ih => simpa [lower, depthAfter?, hopen, hclose, ho, hc] using ih

theorem balanced_congr (h : s.lower = t.lower) : balanced s = balanced t := by
  rw [balanced, balanced, ← depthAfter?_lower, h, depthAfter?_lower]

end Brackets

/-! ## Segments of either case -/

/-- A segment with the name of its mod in small letters. -/
def Segment.lower : Segment → Segment
  | .pass p => .pass p.lower
  | .malformed k => .malformed k

/-- A scan with the names of mods in small letters. -/
def PassScan.lower (s : PassScan) : PassScan := { s with segments := s.segments.map Segment.lower }

theorem Keyword.isAlpha_word (k : Keyword) : ∀ a ∈ k.word.toList, a.isAlpha := by
  have hall : all.all fun k => k.word.toList.all Char.isAlpha := by decide
  exact List.all_eq_true.1 (List.all_eq_true.1 hall k k.mem_all)

theorem Keyword.lower_reading (k : Keyword) {a b : Option Text}
    (h : Option.Rel (fun s t => sameLetters s t) a b) :
    (k.reading a).lower = (k.reading b).lower := by
  cases h with
  | none => rfl
  | @some s t hsame =>
    have htrim : (trim s).lower = (trim t).lower := by
      rw [lower_trim, lower_trim, sameLetters_iff_lower.1 hsame]
    have hempty : trim s = [] ↔ trim t = [] := by
      rw [← lower_eq_nil_iff, htrim, lower_eq_nil_iff]
    cases k with
    | phase p =>
      by_cases hs : trim s = []
      · simp [reading, pass?, hs, hempty.1 hs]
      · simp [reading, pass?, hs, mt hempty.2 hs, Segment.lower, Pass.lower, htrim]
    | _ => rfl

/-- A clause with a keyword of passes, and the same in letters of either case. -/
structure Clause.Respells (c d : Clause) : Prop where
  keyword : ∃ k : Keyword, sameLetters c.word k.word.toList
  word : sameLetters c.word d.word
  content : Option.Rel (fun s t => sameLetters s t) c.content d.content

/-- Behind `depth` open brackets a text is respelled: the case of letters may change in pass
segments outside of brackets, each of them a keyword and no more letters, with or without the
bracket group behind it, and anything else is kept. -/
inductive Respelled : Nat → Text → Text → Prop
  | nil {depth : Nat} : Respelled depth [] []
  | keep {depth : Nat} {c : Char} {s t : Text} (rest : Respelled (depthBehind depth c) s t) :
      Respelled depth (c :: s) (c :: t)
  | segment {c d : Clause} {s t : Text} (written : c.IsWritten) (respells : c.Respells d)
      (ends : ∀ a ∈ (bracketed c.content ++ s).head?, ¬a.isAlpha) (rest : Respelled 0 s t) :
      Respelled 0 (c.text ++ s) (d.text ++ t)

/-- A clause read in two ways is the same clause, unless it is read without the bracket group that
stands behind its word. -/
theorem Clause.IsWritten.eq_or_bare {c c' : Clause} {s s' : Text} (hc : c.IsWritten)
    (hend : c.EndsBefore s) (hc' : c'.IsWritten)
    (hends : ∀ a ∈ (bracketed c'.content ++ s').head?, ¬a.isAlpha)
    (h : c.text ++ s = c'.text ++ s') :
    c' = c ∧ s' = s ∨ c' = ⟨c.word, none⟩ ∧ s' = bracketed c.content ++ s := by
  rw [text_append, text_append] at h
  have hbehind := (List.cons.inj h).2
  have hword : c.word = c'.word := by
    have hletters := congrArg (List.takeWhile Char.isAlpha) hbehind
    rwa [hc.takeWhile_word hend, List.takeWhile_append_of_pos hc'.letters,
      (takeWhile_of_head hends).1, List.append_nil] at hletters
  rw [hword] at hbehind
  have hbehind := List.append_cancel_left hbehind
  cases hcontent : c'.content with
  | none =>
    rw [hcontent, bracketed, List.nil_append] at hbehind
    exact .inr ⟨by rw [Clause.mk.injEq]; exact ⟨hword.symm, hcontent⟩, hbehind.symm⟩
  | some inner =>
    have hcut : group? (bracketed (some inner) ++ s') = some (inner, s') := by
      simpa [bracketed] using group?_append (hc'.balanced inner hcontent) s'
    rw [← hcontent, ← hbehind, hc.group?_content hend] at hcut
    obtain ⟨_, hsome, heq⟩ := Option.map_eq_some_iff.1 hcut
    obtain ⟨rfl, rfl⟩ := Prod.mk.inj heq
    exact .inl ⟨by rw [Clause.mk.injEq, hcontent, hsome]; exact ⟨hword.symm, rfl⟩, rfl⟩

namespace Clause.Respells

variable {c d : Clause} {s t : Text}

theorem lower_bracketed (h : c.Respells d) :
    (bracketed c.content).lower = (bracketed d.content).lower := by
  have hcontent := h.content
  generalize c.content = a, d.content = b at hcontent ⊢
  cases hcontent with
  | none => rfl
  | some hsame =>
    have hlower := sameLetters_iff_lower.1 hsame
    simp only [lower] at hlower
    simp [bracketed, lower, hlower]

theorem lower_text (h : c.Respells d) : c.text.lower = d.text.lower := by
  have hword := sameLetters_iff_lower.1 h.word
  have hcontent := h.lower_bracketed
  simp only [lower] at hword hcontent
  simp [text, lower, hword, hcontent]

theorem isWritten (h : c.Respells d) (hc : c.IsWritten) : d.IsWritten := by
  refine ⟨isAlpha_congr h.word hc.letters, ?_⟩
  have hcontent := h.content
  have hbalanced := hc.balanced
  generalize c.content = a, d.content = b at hcontent hbalanced ⊢
  cases hcontent with
  | none => simp
  | some hsame =>
    rintro _ ⟨rfl⟩
    rw [← balanced_congr (sameLetters_iff_lower.1 hsame)]
    exact hbalanced _ rfl

theorem content_eq_none_iff (h : c.Respells d) : c.content = none ↔ d.content = none := by
  have hcontent := h.content
  generalize c.content = a, d.content = b at hcontent ⊢
  cases hcontent <;> simp

theorem endsBefore (h : c.Respells d) (hc : c.EndsBefore s) (hhead : s.head? = t.head?) :
    d.EndsBefore t :=
  fun hnone a ha => hc (h.content_eq_none_iff.2 hnone) a (hhead ▸ ha)

/-- Both name the same pass, or both name none. -/
theorem segment? (h : c.Respells d) :
    ∃ s t, c.segment? = some s ∧ d.segment? = some t ∧ s.lower = t.lower := by
  obtain ⟨k, hk⟩ := h.keyword
  have hd : sameLetters d.word k.word.toList := sameLetters_trans (sameLetters_symm h.word) hk
  refine ⟨k.reading c.content, k.reading d.content, ?_, ?_, k.lower_reading h.content⟩
  · rw [Clause.segment?, Keyword.ofWord?_eq_some_iff.2 hk]
    rfl
  · rw [Clause.segment?, Keyword.ofWord?_eq_some_iff.2 hd]
    rfl

end Clause.Respells

namespace Respelled

variable {depth d : Nat} {a : Char} {c : Clause} {s t u : Text}

theorem refl (depth : Nat) (s : Text) : Respelled depth s s := by
  induction s generalizing depth with
  | nil => exact .nil
  | cons c s ih => exact .keep (ih _)

/-- What stands in front of a respelled text is kept. -/
theorem keep_append (hdepth : depthAfter? depth u = some d) (h : Respelled d s t) :
    Respelled depth (u ++ s) (u ++ t) := by
  induction u generalizing depth with
  | nil =>
    obtain rfl := Option.some.inj hdepth
    exact h
  | cons c u ih =>
    rw [depthAfter?_cons (ne_zero_of_depthAfter? (by rw [hdepth]; rfl))] at hdepth
    exact .keep (ih hdepth)

/-- A segment with a bracket group at the end of a name is respelled. -/
theorem of_segment (k : Keyword) (front word inner word' inner' : Text)
    (hfront : balanced front) (hword : sameLetters word k.word.toList)
    (hword' : sameLetters word word') (hinner : balanced inner)
    (hinner' : sameLetters inner inner') :
    Respelled 0 (front ++ Clause.text ⟨word, some inner⟩)
      (front ++ Clause.text ⟨word', some inner'⟩) := by
  rw [← List.append_nil (Clause.text ⟨word, _⟩), ← List.append_nil (Clause.text ⟨word', _⟩)]
  refine .keep_append (balanced_iff.1 hfront) (.segment
    ⟨isAlpha_congr (sameLetters_symm hword) k.isAlpha_word, ?_⟩
    ⟨⟨k, hword⟩, hword', .some hinner'⟩ ?_ .nil)
  · rintro _ ⟨rfl⟩
    exact hinner
  · rintro _ ⟨rfl⟩
    decide

/-- A first character is kept, or it is the colon of a segment. -/
theorem cons_cases (h : Respelled depth (a :: s) t) :
    (∃ u, t = a :: u ∧ Respelled (depthBehind depth a) s u) ∨
      (depth = 0 ∧ a = ':') ∧ ∃ (c d : Clause) (rest u : Text), a :: s = c.text ++ rest ∧
        t = d.text ++ u ∧ c.IsWritten ∧ c.Respells d ∧
        (∀ b ∈ (bracketed c.content ++ rest).head?, ¬b.isAlpha) ∧ Respelled 0 rest u := by
  generalize htext : a :: s = whole at h
  cases h with
  | nil => exact absurd htext (by simp)
  | keep rest =>
    obtain ⟨rfl, rfl⟩ := List.cons.inj htext
    exact .inl ⟨_, rfl, rest⟩
  | segment written respells ends rest =>
    obtain ⟨rfl, _⟩ := List.cons.inj htext
    exact .inr ⟨⟨rfl, rfl⟩, _, _, _, _, rfl, rfl, written, respells, ends, rest⟩

theorem eq_nil_of_nil (h : Respelled depth [] t) : t = [] := by
  generalize htext : ([] : Text) = whole at h
  cases h with
  | nil => rfl
  | keep _ => exact absurd htext (by simp)
  | segment => exact absurd htext (by simp [Clause.text])

theorem head?_eq (h : Respelled depth s t) : s.head? = t.head? := by
  cases h <;> rfl

/-- A respelling says the same up to case. -/
theorem lower_eq (h : Respelled depth s t) : s.lower = t.lower := by
  induction h with
  | nil => rfl
  | keep _ ih => exact congrArg (_ :: ·) ih
  | segment _ respells _ _ ih =>
    have htext := respells.lower_text
    simp only [lower] at ih htext
    simp [lower, ih, htext]

theorem balanced_eq (h : Respelled depth s t) : balanced s = balanced t := balanced_congr h.lower_eq

/-- A text in which no colon stands outside of brackets is kept. -/
theorem append (h : Respelled depth (s ++ t) u) (hdepth : depthAfter? depth s = some d)
    (hcolon : ¬HasOutside (· == ':') depth s) : ∃ v, u = s ++ v ∧ Respelled d t v := by
  induction s generalizing depth u with
  | nil =>
    obtain rfl := Option.some.inj hdepth
    exact ⟨u, rfl, h⟩
  | cons a s ih =>
    have hclose := ne_zero_of_depthAfter? (by rw [hdepth]; rfl)
    obtain ⟨hfirst, hbehind⟩ := not_or.1 (mt hasOutside_cons_iff.2 hcolon)
    rcases h.cons_cases with ⟨v, rfl, hrest⟩ | ⟨⟨rfl, rfl⟩, _⟩
    · rw [depthAfter?_cons hclose] at hdepth
      obtain ⟨v, rfl, hv⟩ := ih hrest hdepth fun hout => hbehind ⟨hclose, hout⟩
      exact ⟨v, rfl, hv⟩
    · exact absurd ⟨rfl, rfl⟩ hfirst

/-- A clause is kept, or it is a pass segment and respelled. -/
theorem clause (h : Respelled 0 (c.text ++ s) t) (hc : c.IsWritten) (hend : c.EndsBefore s) :
    ∃ (d : Clause) (u : Text), t = d.text ++ u ∧ (d = c ∨ c.Respells d) ∧ Respelled 0 s u := by
  rw [Clause.text_append] at h
  rcases h.cons_cases with ⟨u, rfl, hrest⟩ |
    ⟨-, c', d', rest, u, htext, rfl, hc', hrespells, hends, hrest⟩
  · have hbalanced : depthAfter? 0 (c.word ++ bracketed c.content) = some 0 := by
      have := balanced_iff.1 hc.balanced_text
      rwa [Clause.text, depthAfter?_cons (by decide)] at this
    rw [← List.append_assoc] at hrest
    obtain ⟨v, rfl, hv⟩ := hrest.append hbalanced hc.not_hasOutside
    exact ⟨c, v, rfl, .inl rfl, hv⟩
  · rw [← Clause.text_append] at htext
    rcases hc.eq_or_bare hend hc' hends htext with ⟨rfl, rfl⟩ | ⟨rfl, rfl⟩
    · exact ⟨d', u, rfl, .inr hrespells, hrest⟩
    · -- only the word was respelled, and a bracket group behind it was kept
      have hnone : d'.content = none := hrespells.content_eq_none_iff.1 rfl
      have hgroup := balanced_iff.1 (balanced_bracketed hc.balanced)
      have hcolon : ¬HasOutside (· == ':') 0 (bracketed c.content) :=
        not_hasOutside_bracketed hc.balanced (by decide)
      obtain ⟨v, rfl, hv⟩ := hrest.append hgroup hcolon
      refine ⟨⟨d'.word, c.content⟩, v, ?_, .inr ⟨hrespells.keyword, hrespells.word, ?_⟩, hv⟩
      · simp [Clause.text, hnone, bracketed]
      · cases c.content with
        | none => exact .none
        | some inner => exact .some (sameLetters_refl inner)

/-- The scanner of passes finds the same in a text and in a respelling of it, up to the case of
mods. -/
theorem lower_scanPassesFrom (h : Respelled depth s t) (hs : depthAfter? depth s = some 0) :
    (scanPassesFrom depth s).lower = (scanPassesFrom depth t).lower := by
  induction hlength : s.length using Nat.strong_induction_on generalizing depth s t with
  | _ n ih =>
    cases s with
    | nil => rw [h.eq_nil_of_nil]
    | cons a s =>
      have hclose := ne_zero_of_depthAfter? (by rw [hs]; rfl)
      rw [depthAfter?_cons hclose] at hs
      rw [List.length_cons] at hlength
      by_cases hcolon : a = ':' ∧ depth = 0
      · -- from clause to clause
        obtain ⟨rfl, rfl⟩ := hcolon
        obtain ⟨c, rest, rfl, hc, hend, hbalanced⟩ := Clause.exists_of_balanced (balanced_iff.2 hs)
        have hshort : rest.length < n := by
          simp only [List.length_append] at hlength
          omega
        rw [← Clause.text_append] at h ⊢
        obtain ⟨d, u, rfl, hd, hu⟩ := h.clause hc hend
        have hrest := ih rest.length hshort hu (balanced_iff.1 hbalanced) rfl
        rcases hd with rfl | hd
        · have hend' : d.EndsBefore u := fun hnone => hu.head?_eq ▸ hend hnone
          rw [scanPassesFrom_clause hc hend, scanPassesFrom_clause hc hend']
          cases d.segment? with
          | none => exact congrArg (PassScan.keepAll d.text) hrest
          | some segment => exact congrArg (PassScan.found segment.lower) hrest
        · obtain ⟨x, y, hx, hy, hxy⟩ := hd.segment?
          rw [scanPassesFrom_clause hc hend, scanPassesFrom_clause (hd.isWritten hc)
            (hd.endsBefore hend hu.head?_eq), hx, hy]
          exact congrArg₂ PassScan.found hxy hrest
      · rcases h.cons_cases with ⟨u, rfl, hu⟩ | ⟨⟨rfl, rfl⟩, _⟩
        · have hhere : ¬(a = ':' && depth = 0) := by simpa using hcolon
          rw [scanPassesFrom, scanPassesFrom, if_neg hhere, if_neg hhere]
          exact congrArg (PassScan.keep a) (ih s.length (by omega) hu hs rfl)
        · exact absurd ⟨rfl, rfl⟩ hcolon

theorem lower_scanPasses (h : Respelled 0 s t) (hs : balanced s) :
    (scanPasses s).lower = (scanPasses t).lower :=
  h.lower_scanPassesFrom (balanced_iff.1 hs)

end Respelled

end CfgPatch
