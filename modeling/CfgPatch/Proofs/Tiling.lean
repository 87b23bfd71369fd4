import CfgPatch.Proofs.Scanning
import Mathlib.Data.List.DropRight
import Mathlib.Order.Bounds.Basic
import Mathlib.Order.Nat
import Mathlib.Data.Nat.Find

/-!
# The tokens of a source tile it

A source without strays is covered by its tokens, save for its comments and the blanks between
the tokens, and no two tokens overlap. Here a token is put back where it stands (`Site`): the
text in front of it, the token, and the text behind it. The sites of a source are computed from
its lexemes, one shift for each step of the scanner, and their spans are those that `spans`
gives out.

What a comment is, is said of lines and not of the scanner: a character is commented if its line
has a double slash at or in front of it (`IsCommented`). The scanner carries one flag along
instead, and `commentedAt_iff` says that this comes to the same.
-/

namespace CfgPatch.Cfg

open Text

/-! ## Comments by lines -/

/-- What stands in front of a place on its line. -/
def lineFront (before : Text) : Text := before.rtakeWhile (· ≠ '\n')

/-- What stands behind a place on its line. -/
def lineBack (behind : Text) : Text := behind.takeWhile (· ≠ '\n')

/-- A double slash stands behind the first `n` characters of a line. -/
def SlashesAt (line : Text) (n : Nat) : Prop := ['/', '/'] <+: line.drop n

/-- A character other than a line end is commented if it stands at or behind the first slash of
the leftmost double slash of its line. -/
def IsCommented (before : Text) (c : Char) (behind : Text) : Prop :=
  c ≠ '\n' ∧ ∃ n, IsLeast {n | SlashesAt (lineFront before ++ c :: lineBack behind) n} n ∧
    n ≤ (lineFront before).length

theorem lineFront_of_notMem {q : Text} (h : '\n' ∉ q) : lineFront q = q := by
  refine List.rtakeWhile_eq_self_iff.2 fun d hd => ?_
  simpa using ne_of_mem_of_not_mem hd h

theorem lineFront_append_line (p : Text) {q : Text} (h : '\n' ∉ q) :
    lineFront (p ++ '\n' :: q) = q := by
  induction q using List.reverseRecOn with
  | nil => simp [lineFront]
  | append_singleton q d ih =>
    simp only [List.mem_append, List.mem_singleton, not_or] at h
    have hfront := ih h.1
    rw [lineFront] at hfront ⊢
    rw [← List.cons_append, ← List.append_assoc, List.rtakeWhile_concat, hfront,
      if_pos (by simpa using Ne.symm h.2)]

theorem slashesAt_zero {c : Char} {t : Text} :
    SlashesAt (c :: t) 0 ↔ c = '/' ∧ t.head? = some '/' := by
  cases t with
  | nil => simp [SlashesAt]
  | cons d t => simp [SlashesAt, eq_comm]

theorem commentedBehind_eq_true {commented : Bool} {c : Char} {t : Text} (hc : c ≠ '\n') :
    commentedBehind commented c t = true ↔ commented = true ∨ SlashesAt (c :: t) 0 := by
  simp [commentedBehind, hc, slashesAt_zero]

/-- Whether a character is inside a comment, in a text that may begin inside one: the flag that
the scanner carries along, read behind the character. -/
def commentedAt (commented : Bool) : Text → Char → Text → Bool
  | [], c, behind => commentedBehind commented c behind
  | d :: before, c, behind =>
    commentedAt (commentedBehind commented d (before ++ c :: behind)) before c behind

theorem commentedAt_newline (commented : Bool) (before behind : Text) :
    commentedAt commented before '\n' behind = false := by
  induction before generalizing commented with
  | nil => simp [commentedAt, commentedBehind]
  | cons d before ih => exact ih _

/-- A line end ends every comment. -/
theorem commentedAt_append_line (commented : Bool) (p q : Text) (c : Char) (behind : Text) :
    commentedAt commented (p ++ '\n' :: q) c behind = commentedAt false q c behind := by
  induction p generalizing commented with
  | nil => simp [commentedAt, commentedBehind]
  | cons d p ih => exact ih _

/-- On one line, a character is commented if a comment was open before or a double slash stands at
or in front of it. -/
theorem commentedAt_line {commented : Bool} {q : Text} {c : Char} {behind : Text} (hq : '\n' ∉ q)
    (hc : c ≠ '\n') : commentedAt commented q c behind = true ↔
      commented = true ∨ ∃ n ≤ q.length, SlashesAt (q ++ c :: lineBack behind) n := by
  induction q generalizing commented with
  | nil =>
    have hhead : (lineBack behind).head? = some '/' ↔ behind.head? = some '/' := by
      cases behind with
      | nil => rfl
      | cons d t => by_cases hd : d = '\n' <;> simp [lineBack, hd]
    rw [commentedAt, commentedBehind_eq_true hc]
    simp [slashesAt_zero, hhead]
  | cons d q ih =>
    simp only [List.mem_cons, not_or] at hq
    have hhead : (q ++ c :: lineBack behind).head? = (q ++ c :: behind).head? := by cases q <;> rfl
    rw [commentedAt, ih hq.2, commentedBehind_eq_true (Ne.symm hq.1), or_assoc, slashesAt_zero,
      ← hhead, ← slashesAt_zero]
    refine or_congr_right ⟨?_, ?_⟩
    · rintro (hslashes | ⟨n, hn, hslashes⟩)
      · exact ⟨0, Nat.zero_le _, hslashes⟩
      · exact ⟨n + 1, Nat.succ_le_succ hn, hslashes⟩
    · rintro ⟨_ | n, hn, hslashes⟩
      · exact .inl hslashes
      · exact .inr ⟨n, Nat.le_of_succ_le_succ hn, hslashes⟩

/-- The flag of the scanner tells the commented characters. -/
theorem commentedAt_iff {before : Text} {c : Char} {behind : Text} :
    commentedAt false before c behind = true ↔ IsCommented before c behind := by
  by_cases hc : c = '\n'
  · simp [hc, commentedAt_newline, IsCommented]
  have hline : commentedAt false before c behind = commentedAt false (lineFront before) c behind ∧
      '\n' ∉ lineFront before := by
    by_cases hmem : '\n' ∈ before
    · obtain ⟨q, p, hreverse, hq⟩ := List.eq_append_cons_of_mem (List.mem_reverse.2 hmem)
      obtain rfl : before = p.reverse ++ '\n' :: q.reverse := by
        rw [← before.reverse_reverse, hreverse]
        simp
      rw [← List.mem_reverse] at hq
      rw [lineFront_append_line _ hq]
      exact ⟨commentedAt_append_line false _ _ c behind, hq⟩
    · rw [lineFront_of_notMem hmem]
      exact ⟨rfl, hmem⟩
  rw [hline.1, commentedAt_line hline.2 hc, IsCommented]
  simp only [Bool.false_eq_true, false_or, hc, ne_eq, not_false_eq_true, true_and]
  constructor
  · -- of all double slashes up to the character, the leftmost one
    rintro ⟨n, hn, hslashes⟩
    classical
    have hexists : ∃ n, SlashesAt (lineFront before ++ c :: lineBack behind) n := ⟨n, hslashes⟩
    refine ⟨Nat.find hexists, ⟨Nat.find_spec hexists, fun m hm => Nat.find_min' hexists hm⟩, ?_⟩
    exact (Nat.find_min' hexists hslashes).trans hn
  · rintro ⟨n, hleast, hn⟩
    exact ⟨n, hn, hleast.1⟩

/-! ## The first stray -/

/-- A stray that no comment hides stands at a place of a text. The flag says that the text begins
inside a comment. -/
structure IsStrayAt (commented : Bool) (t before : Text) (c : Char) (behind : Text) : Prop where
  eq : t = before ++ c :: behind
  stray : isStray c
  uncommented : commentedAt commented before c behind = false

theorem ne_newline_of_isStray {c : Char} (h : isStray c) : c ≠ '\n' := by
  rintro rfl
  exact absurd h (by decide)

/-- The flag of the scanner is not changed by a stray. -/
theorem commentedBehind_of_isStray {c : Char} (h : isStray c) (commented : Bool) (t : Text) :
    commentedBehind commented c t = commented :=
  commentedBehind_of_skipped (ne_newline_of_isStray h) (by simp [h]) t

theorem isStrayAt_nil {commented : Bool} {c d : Char} {t behind : Text} :
    IsStrayAt commented (d :: t) [] c behind ↔
      d = c ∧ t = behind ∧ isStray d ∧ commented = false := by
  constructor
  · rintro ⟨heq, hstray, huncommented⟩
    obtain ⟨rfl, rfl⟩ := List.cons.inj heq
    rw [commentedAt, commentedBehind_of_isStray hstray] at huncommented
    exact ⟨rfl, rfl, hstray, huncommented⟩
  · rintro ⟨rfl, rfl, hstray, rfl⟩
    exact ⟨rfl, hstray, commentedBehind_of_isStray hstray false t⟩

theorem isStrayAt_cons {commented : Bool} {c d e : Char} {t before behind : Text} :
    IsStrayAt commented (d :: t) (e :: before) c behind ↔
      d = e ∧ IsStrayAt (commentedBehind commented d t) t before c behind := by
  constructor
  · rintro ⟨heq, hstray, huncommented⟩
    obtain ⟨rfl, rfl⟩ := List.cons.inj heq
    exact ⟨rfl, rfl, hstray, huncommented⟩
  · rintro ⟨rfl, rfl, hstray, huncommented⟩
    exact ⟨rfl, hstray, huncommented⟩

theorem not_isStrayAt_of_firstStray? {commented : Bool} {t : Text}
    (h : firstStray? commented t = none) (before : Text) (c : Char) (behind : Text) :
    ¬IsStrayAt commented t before c behind := by
  induction t generalizing commented before with
  | nil => exact fun hstray => by simpa using hstray.eq
  | cons d t ih =>
    obtain ⟨hhead, htail⟩ := firstStray?_cons_eq_none.1 h
    cases before with
    | nil =>
      rw [isStrayAt_nil]
      rintro ⟨_, _, hstray, rfl⟩
      exact absurd (hhead hstray) Bool.false_ne_true
    | cons e before =>
      rw [isStrayAt_cons]
      exact fun hstray => ih htail before hstray.2

/-- What is found is a stray, and no stray stands in front of it. -/
theorem isStrayAt_of_firstStray? {commented : Bool} {t : Text} {n : Nat} {c : Char}
    (h : firstStray? commented t = some (n, c)) :
    ∃ before behind, IsStrayAt commented t before c behind ∧ n = utf8Length before ∧
      ∀ before' c' behind', IsStrayAt commented t before' c' behind' →
        before.length ≤ before'.length := by
  induction t generalizing commented n with
  | nil => simp [firstStray?] at h
  | cons d t ih =>
    rw [firstStray?] at h
    split at h
    next hhead =>
      obtain ⟨rfl, rfl⟩ := Prod.mk.inj (Option.some.inj h)
      rw [Bool.and_eq_true, Bool.not_eq_true'] at hhead
      exact ⟨[], t, isStrayAt_nil.2 ⟨rfl, rfl, hhead.2, hhead.1⟩, rfl, fun _ _ _ _ => Nat.zero_le _⟩
    next hhead =>
      obtain ⟨⟨m, d'⟩, htail, hfound⟩ := Option.map_eq_some_iff.1 h
      obtain ⟨rfl, rfl⟩ := Prod.mk.inj hfound
      obtain ⟨before, behind, hstray, rfl, hfirst⟩ := ih htail
      refine ⟨d :: before, behind, isStrayAt_cons.2 ⟨rfl, hstray⟩, rfl, ?_⟩
      rintro (_ | ⟨e, before'⟩) c' behind' hstray'
      · -- the character in front is no stray
        rw [isStrayAt_nil] at hstray'
        exact absurd (by simp [hstray'.2.2]) hhead
      · exact Nat.succ_le_succ (hfirst before' c' behind' (isStrayAt_cons.1 hstray').2)

/-! ## Sites -/

/-- A token where it stands in a text. -/
structure Site where
  before : Text
  token : Token
  behind : Text
deriving DecidableEq, Repr

namespace Site

/-- The text a site is a part of. -/
def source (s : Site) : Text := s.before ++ s.token.text ++ s.behind

/-- The bytes of the token. -/
def span (s : Site) : Span :=
  ⟨utf8Length s.before, utf8Length s.before + utf8Length s.token.text⟩

/-- The site once more text is put in front. -/
def prepend (p : Text) (s : Site) : Site := { s with before := p ++ s.before }

/-- The token holds the byte `n` of the text. -/
def Covers (s : Site) (n : Nat) : Prop := s.span.start ≤ n ∧ n < s.span.stop

@[simp] theorem token_prepend (p : Text) (s : Site) : (s.prepend p).token = s.token := rfl

@[simp] theorem behind_prepend (p : Text) (s : Site) : (s.prepend p).behind = s.behind := rfl

theorem start_prepend (p : Text) (s : Site) :
    (s.prepend p).span.start = utf8Length p + s.span.start := utf8Length_append p s.before

theorem stop_prepend (p : Text) (s : Site) :
    (s.prepend p).span.stop = utf8Length p + s.span.stop := by
  simp only [span, prepend, utf8Length_append, Nat.add_assoc]

theorem covers_prepend {p : Text} {s : Site} {n : Nat} :
    (s.prepend p).Covers (utf8Length p + n) ↔ s.Covers n := by
  simp only [Covers, start_prepend, stop_prepend]
  omega

theorem not_covers_prepend {p : Text} (s : Site) {n : Nat} (h : n < utf8Length p) :
    ¬(s.prepend p).Covers n := by
  simp only [Covers, start_prepend]
  omega

end Site

/-- The sites of the tokens of lexemes, with a text behind the last one. -/
def sitesOf (rest : Text) : List Lexeme → List Site
  | [] => []
  | x :: xs =>
    ⟨x.gap, x.token, xs.flatMap Lexeme.text ++ rest⟩ :: (sitesOf rest xs).map (Site.prepend x.text)

/-- The sites of the tokens of a source. -/
def Lexed.sites (l : Lexed) : List Site := sitesOf l.rest l.lexemes

/-- A site is a lexeme with the lexemes in front of it and behind it. -/
theorem mem_sitesOf {rest : Text} {ls : List Lexeme} {s : Site} :
    s ∈ sitesOf rest ls ↔ ∃ xs x ys, ls = xs ++ x :: ys ∧
      s = ⟨xs.flatMap Lexeme.text ++ x.gap, x.token, ys.flatMap Lexeme.text ++ rest⟩ := by
  induction ls generalizing s with
  | nil => simp [sitesOf]
  | cons l ls ih =>
    rw [sitesOf, List.mem_cons, List.mem_map]
    constructor
    · rintro (rfl | ⟨s, hs, rfl⟩)
      · exact ⟨[], l, ls, rfl, rfl⟩
      · obtain ⟨xs, x, ys, rfl, rfl⟩ := ih.1 hs
        exact ⟨l :: xs, x, ys, rfl, by simp [Site.prepend]⟩
    · rintro ⟨_ | ⟨l', xs⟩, x, ys, heq, rfl⟩
      · obtain ⟨rfl, rfl⟩ := List.cons.inj heq
        exact .inl rfl
      · obtain ⟨rfl, rfl⟩ := List.cons.inj heq
        exact .inr ⟨_, ih.2 ⟨xs, x, ys, rfl, rfl⟩, by simp [Site.prepend]⟩

theorem source_of_mem_sites {l : Lexed} {s : Site} (h : s ∈ l.sites) : s.source = l.text := by
  obtain ⟨xs, x, ys, hls, rfl⟩ := mem_sitesOf.1 h
  simp [Site.source, Lexed.text, hls, Lexeme.text]

theorem map_token_sitesOf (rest : Text) (ls : List Lexeme) :
    (sitesOf rest ls).map Site.token = ls.map Lexeme.token := by
  induction ls with
  | nil => rfl
  | cons x xs ih =>
    have hsame : Site.token ∘ Site.prepend x.text = Site.token := rfl
    rw [sitesOf, List.map_cons, List.map_map, hsame, ih, List.map_cons]

/-- The spans of lexemes are those of their sites, counted from where the first one begins. -/
theorem spans_eq_map_sitesOf (pos : Nat) (rest : Text) (ls : List Lexeme) :
    spans pos ls = (sitesOf rest ls).map fun s => ⟨pos + s.span.start, pos + s.span.stop⟩ := by
  induction ls generalizing pos with
  | nil => rfl
  | cons x xs ih =>
    rw [spans, sitesOf, List.map_cons, List.map_map, ih]
    refine congr_arg₂ _ ?_ (List.map_congr_left fun s _ => ?_)
    · simp only [Site.span, Nat.add_assoc]
    · simp only [Function.comp, Site.start_prepend, Site.stop_prepend, Lexeme.text,
        utf8Length_append, Nat.add_assoc]

theorem spans_eq_map_sites (l : Lexed) : spans 0 l.lexemes = l.sites.map Site.span := by
  simp [spans_eq_map_sitesOf 0 l.rest, Lexed.sites]

/-- A token ends before the next one begins. -/
theorem pairwise_sitesOf (rest : Text) (ls : List Lexeme) :
    (sitesOf rest ls).Pairwise fun a b => a.span.stop ≤ b.span.start := by
  induction ls with
  | nil => exact .nil
  | cons x xs ih =>
    refine List.pairwise_cons.2 ⟨?_, ?_⟩
    · intro s hs
      obtain ⟨s, _, rfl⟩ := List.mem_map.1 hs
      rw [Site.start_prepend, Lexeme.text, utf8Length_append]
      exact Nat.le_add_right _ _
    · refine List.pairwise_map.2 (ih.imp fun h => ?_)
      rw [Site.stop_prepend, Site.start_prepend]
      exact Nat.add_le_add_left h _

/-! ## The sites after one step -/

theorem sites_skip (c : Char) (l : Lexed) : (l.skip c).sites = l.sites.map (Site.prepend [c]) := by
  rcases l with ⟨_ | ⟨x, xs⟩, r⟩
  · rfl
  · simp [Lexed.skip, Lexed.sites, sitesOf, Site.prepend, Lexeme.text]

theorem sites_push (token : Token) (l : Lexed) : (l.push token).sites =
    ⟨[], token, l.text⟩ :: l.sites.map (Site.prepend token.text) := by
  simp [Lexed.push, Lexed.sites, sitesOf, Lexeme.text, Lexed.text]

/-- A character either lengthens the word that follows at once, or is a word of its own. -/
theorem sites_extend (c : Char) (l : Lexed) :
    (∃ w behind ss, l.sites = ⟨[], .word w, behind⟩ :: ss ∧
      (l.extend c).sites = ⟨[], .word (c :: w), behind⟩ :: ss.map (Site.prepend [c])) ∨
    ((∀ w, l.lexemes.head? ≠ some ⟨[], .word w⟩) ∧
      (l.extend c).sites = ⟨[], .word [c], l.text⟩ :: l.sites.map (Site.prepend [c])) := by
  unfold Lexed.extend
  split
  · rename_i w xs hls
    refine .inl ⟨w, xs.flatMap Lexeme.text ++ l.rest, (sitesOf l.rest xs).map (Site.prepend w), ?_⟩
    simp [Lexed.sites, sitesOf, hls, Lexeme.text, Token.text, Site.prepend]
  · rename_i hne
    refine .inr ⟨fun w hw => ?_, sites_push _ l⟩
    obtain ⟨xs, hls⟩ := List.head?_eq_some_iff.1 hw
    exact hne w xs hls

/-! ## What the tokens cover -/

/-- The byte `n` of a source is part of one of its tokens. -/
def Covered (sites : List Site) (n : Nat) : Prop := ∃ s ∈ sites, s.Covers n

theorem covered_cons {s : Site} {ss : List Site} {n : Nat} :
    Covered (s :: ss) n ↔ s.Covers n ∨ Covered ss n := by
  simp [Covered]

/-- What a token at the front of a source covers. -/
theorem covers_front {token : Token} {behind : Text} {n : Nat} :
    Site.Covers ⟨[], token, behind⟩ n ↔ n < utf8Length token.text := by
  simp [Site.Covers, Site.span]

theorem covered_prepend {c : Char} {ss : List Site} {n : Nat} :
    Covered (ss.map (Site.prepend [c])) (c.utf8Size + n) ↔ Covered ss n := by
  have hshift : ∀ s : Site, (s.prepend [c]).Covers (c.utf8Size + n) ↔ s.Covers n := fun s =>
    Site.covers_prepend (p := [c])
  simp only [Covered, List.mem_map, exists_exists_and_eq_and, hshift]

theorem not_covered_prepend (c : Char) (ss : List Site) :
    ¬Covered (ss.map (Site.prepend [c])) 0 := by
  have hsize : 0 < utf8Length [c] := by simpa using c.utf8Size_pos
  rintro ⟨s, hs, hcovers⟩
  obtain ⟨s, _, rfl⟩ := List.mem_map.1 hs
  exact Site.not_covers_prepend s hsize hcovers

theorem covered_push {token : Token} {c : Char} (htext : token.text = [c]) (l : Lexed) (n : Nat) :
    Covered (l.push token).sites 0 ∧
      (Covered (l.push token).sites (c.utf8Size + n) ↔ Covered l.sites n) := by
  have hsize := c.utf8Size_pos
  rw [sites_push, htext]
  simp only [covered_cons, covers_front, covered_prepend, htext, utf8Length_cons, utf8Length_nil]
  exact ⟨.inl (by omega), or_iff_right (by omega)⟩

theorem covered_extend (c : Char) (l : Lexed) (n : Nat) :
    Covered (l.extend c).sites 0 ∧
      (Covered (l.extend c).sites (c.utf8Size + n) ↔ Covered l.sites n) := by
  have hsize := c.utf8Size_pos
  obtain ⟨w, behind, ss, hsites, hextend⟩ | ⟨_, hextend⟩ := sites_extend c l
  · rw [hextend, hsites]
    simp only [covered_cons, covers_front, covered_prepend, Token.text, utf8Length_cons,
      Nat.add_lt_add_iff_left, and_true]
    exact .inl (by omega)
  · rw [hextend]
    simp only [covered_cons, covers_front, covered_prepend, Token.text, utf8Length_cons,
      utf8Length_nil]
    exact ⟨.inl (by omega), or_iff_right (by omega)⟩

/-- The first character of a source is part of a token if it is no gap and begins no comment, and
what is covered behind it does not depend on it. -/
theorem covered_scan_cons {commented : Bool} {c : Char} {t : Text}
    (h : isStray c → commented = true) (n : Nat) :
    (Covered (scan commented (c :: t)).sites 0 ↔
      commentedBehind commented c t = false ∧ ¬isGap c) ∧
    (Covered (scan commented (c :: t)).sites (c.utf8Size + n) ↔
      Covered (scan (commentedBehind commented c t) t).sites n) := by
  generalize hl : scan commented (c :: t) = l
  cases hl ▸ scanStep commented c t with
  | skip _ hskip =>
    rw [sites_skip]
    refine ⟨iff_of_false (not_covered_prepend c _) ?_, covered_prepend⟩
    rintro ⟨hbehind, hgap⟩
    have hstray : isStray c := by simpa [hbehind, hgap] using hskip
    rw [commentedBehind_of_isStray hstray, h hstray] at hbehind
    exact absurd hbehind (by decide)
  | push token hword htext hbehind =>
    rw [hbehind]
    obtain ⟨d, hd, _, hgap⟩ := Token.exists_text_eq hword
    obtain rfl : c = d := by simpa [htext] using hd
    exact ⟨iff_of_true (covered_push htext _ n).1 ⟨rfl, hgap⟩, (covered_push htext _ n).2⟩
  | extend hchar hbehind =>
    rw [hbehind]
    have hgap : ¬isGap c := by
      simp only [isWordChar, Bool.and_eq_true, Bool.not_eq_true'] at hchar
      simp [hchar]
    exact ⟨iff_of_true (covered_extend c _ n).1 ⟨rfl, hgap⟩, (covered_extend c _ n).2⟩

/-- A character of a source without strays is part of a token if and only if it is not in a
comment and can be in no gap. -/
theorem covered_scan_iff {commented : Bool} {before : Text} {c : Char} {behind : Text}
    (h : firstStray? commented (before ++ c :: behind) = none) :
    Covered (scan commented (before ++ c :: behind)).sites (utf8Length before) ↔
      commentedAt commented before c behind = false ∧ ¬isGap c := by
  induction before generalizing commented with
  | nil => exact (covered_scan_cons (firstStray?_cons_eq_none.1 h).1 0).1
  | cons d before ih =>
    obtain ⟨hhead, htail⟩ := firstStray?_cons_eq_none.1 h
    exact (covered_scan_cons hhead _).2.trans (ih htail)

/-! ## Words are maximal -/

/-- A source that begins with a character of a word begins with a word. -/
theorem head?_lexemes_of_isWordChar {c : Char} {t : Text} (h : isWordChar c) :
    ∃ w, (scan false (c :: t)).lexemes.head? = some ⟨[], .word w⟩ := by
  generalize hl : scan false (c :: t) = l
  cases hl ▸ scanStep false c t with
  | skip _ hskip =>
    simp only [isWordChar, Bool.and_eq_true, Bool.not_eq_true', bne_iff_ne] at h
    have hbehind : commentedBehind false c t = false :=
      commentedBehind_of_outside fun hc => absurd hc h.1.1.1.2
    simp [hbehind, h] at hskip
  | push token hword htext =>
    obtain ⟨d, hd, hchar, _⟩ := Token.exists_text_eq hword
    obtain rfl : c = d := by simpa [htext] using hd
    exact absurd h hchar
  | extend =>
    unfold Lexed.extend
    split
    · exact ⟨_, rfl⟩
    · exact ⟨_, rfl⟩

/-- No character of a word stands right behind a word. -/
theorem not_isWordChar_behind {commented : Bool} {t : Text} {s : Site} {w : Text}
    (hs : s ∈ (scan commented t).sites) (hw : s.token = .word w) :
    ∀ d ∈ s.behind.head?, ¬isWordChar d := by
  induction t generalizing commented s w with
  | nil => simp [scan, Lexed.sites, sitesOf] at hs
  | cons c t ih =>
    generalize hl : scan commented (c :: t) = l at hs
    cases hl ▸ scanStep commented c t with
    | skip =>
      rw [sites_skip] at hs
      obtain ⟨s, hmem, rfl⟩ := List.mem_map.1 hs
      rw [Site.behind_prepend]
      exact ih hmem hw
    | push token hword =>
      rw [sites_push] at hs
      obtain rfl | hs := List.mem_cons.1 hs
      · exact absurd hw (hword w)
      · obtain ⟨s, hmem, rfl⟩ := List.mem_map.1 hs
        rw [Site.behind_prepend]
        exact ih hmem hw
    | extend =>
      obtain ⟨v, behind, ss, hsites, hextend⟩ | ⟨hnone, hextend⟩ := sites_extend c (scan false t)
      all_goals
        rw [hextend] at hs
        obtain rfl | hs := List.mem_cons.1 hs
      · -- the word ends where it ended before
        exact ih (s := ⟨[], .word v, behind⟩) (hsites ▸ List.mem_cons_self ..) rfl
      · obtain ⟨s, hmem, rfl⟩ := List.mem_map.1 hs
        rw [Site.behind_prepend]
        exact ih (hsites ▸ List.mem_cons_of_mem _ hmem) hw
      · rw [text_scan]
        rintro d hd hchar
        obtain ⟨t', rfl⟩ := List.head?_eq_some_iff.1 hd
        obtain ⟨v, hv⟩ := head?_lexemes_of_isWordChar (t := t') hchar
        exact hnone v hv
      · obtain ⟨s, hmem, rfl⟩ := List.mem_map.1 hs
        rw [Site.behind_prepend]
        exact ih hmem hw

/-- No character of a word stands right in front of a word. -/
theorem not_isWordChar_before {commented : Bool} {t : Text} {s : Site} {w : Text}
    (h : firstStray? commented t = none) (hs : s ∈ (scan commented t).sites)
    (hw : s.token = .word w) : ∀ d ∈ s.before.getLast?, ¬isWordChar d := by
  have hproper := (scan_proper h).all
  obtain ⟨xs, x, ys, hls, rfl⟩ := mem_sitesOf.1 hs
  have hx := hproper x (by simp [hls])
  rintro d hd hchar
  rcases List.eq_nil_or_concat x.gap with hgap | ⟨gap, e, hgap⟩
  · rcases List.eq_nil_or_concat xs with rfl | ⟨xs, y, rfl⟩
    · simp [hgap] at hd
    by_cases hword : ∃ v, y.token = .word v
    · -- a word in front would have this one right behind it
      obtain ⟨v, hv⟩ := hword
      obtain ⟨hne, hchars⟩ := hx.word w hw
      obtain ⟨e, w, rfl⟩ := List.exists_cons_of_ne_nil hne
      have hsite : ⟨xs.flatMap Lexeme.text ++ y.gap, y.token,
          (x :: ys).flatMap Lexeme.text ++ (scan commented t).rest⟩ ∈ (scan commented t).sites :=
        mem_sitesOf.2 ⟨xs, y, x :: ys, by simp [hls], rfl⟩
      refine not_isWordChar_behind hsite hv e ?_ (hchars e (List.mem_cons_self ..))
      have hw : x.token = .word (e :: w) := hw
      simp [Lexeme.text, hgap, hw, Token.text]
    · obtain ⟨e, htext, he, _⟩ := Token.exists_text_eq fun v hv => hword ⟨v, hv⟩
      simp only [hgap, List.concat_eq_append, List.flatMap_append, List.flatMap_cons,
        List.flatMap_nil, Lexeme.text, htext, List.append_nil, ← List.append_assoc,
        List.getLast?_concat, Option.mem_some_iff] at hd
      exact he (hd ▸ hchar)
  · simp only [hgap, List.concat_eq_append, ← List.append_assoc, List.getLast?_concat,
      Option.mem_some_iff] at hd
    have hgapChar : isGap d := hx.gap (by simp_all) d (by simp [hgap, hd])
    simp [isWordChar, hgapChar] at hchar

/-! ## The tiling -/

/-- A run of characters with a property that goes on neither in front nor behind. -/
structure IsMaximalRun (p : Char → Prop) (before run behind : Text) : Prop where
  all : ∀ c ∈ run, p c
  before : ∀ c ∈ before.getLast?, ¬p c
  behind : ∀ c ∈ behind.head?, ¬p c

/-- The characters that words are made of. -/
def IsWordCharacter (c : Char) : Prop := ¬isBlank c ∧ c ∉ [byteOrderMark, '{', '}', '=', '/']

theorem isWordChar_iff {c : Char} : isWordChar c ↔ IsWordCharacter c := by
  constructor
  · intro h
    refine ⟨not_isBlank_of_isWordChar h, ?_⟩
    simp only [isWordChar, isGap, Bool.and_eq_true, Bool.not_eq_true', bne_iff_ne,
      Bool.or_eq_false_iff, beq_eq_false_iff_ne] at h
    simp [h]
  · rintro ⟨hblank, hother⟩
    have hblanks : [' ', '\t', '\r', '\x0C', '\n'].all isBlank := by decide
    have hne : ∀ d ∈ [' ', '\t', '\r', '\x0C', '\n'], c ≠ d := fun d hd hc =>
      hblank (hc ▸ List.all_eq_true.1 hblanks d hd)
    simp only [List.mem_cons, List.not_mem_nil, or_false, not_or] at hother
    simp only [List.forall_mem_cons] at hne
    simp [isWordChar, isGap, isStray, hblank, hother, hne]

/-- The sites of the tokens of a source tile it. -/
structure IsTiling (source : Text) (sites : List Site) : Prop where
  /-- Each token is the part of the source at its span. -/
  source_eq : ∀ s ∈ sites, s.source = source
  nonempty : ∀ s ∈ sites, s.span.start < s.span.stop
  /-- The spans follow one another and do not overlap. -/
  ordered : sites.Pairwise fun a b => a.span.start < b.span.start ∧ a.span.stop ≤ b.span.start
  word : ∀ s ∈ sites, ∀ w, s.token = .word w → IsMaximalRun IsWordCharacter s.before w s.behind
  /-- A character outside of all tokens is in a comment or in a gap, and no other one is. -/
  covered : ∀ before c behind, source = before ++ c :: behind →
    (¬Covered sites (utf8Length before) ↔
      IsCommented before c behind ∨ c ∈ [' ', '\t', '\r', '\x0C', byteOrderMark])
  /-- A line end, a brace, an equals sign or a slash outside of comments is a token of its own. -/
  alone : ∀ before c behind token, source = before ++ c :: behind → ¬IsCommented before c behind →
    (∀ w, token ≠ .word w) → token.text = [c] → ⟨before, token, behind⟩ ∈ sites

/-- What stands at a byte that a token covers is a part of the token. -/
theorem Site.exists_of_covers {s : Site} {before : Text} {c : Char} {behind : Text}
    (hsource : s.source = before ++ c :: behind) (h : s.Covers (utf8Length before)) :
    ∃ u v, before = s.before ++ u ∧ s.token.text = u ++ c :: v ∧ behind = v ++ s.behind := by
  simp only [Covers, span] at h
  have hbefore : ∃ u, before = s.before ++ u ∧ s.token.text ++ s.behind = u ++ c :: behind := by
    rw [source, List.append_assoc] at hsource
    obtain ⟨u, hu, hrest⟩ | ⟨u, hu, hrest⟩ := List.append_eq_append_iff.1 hsource
    · exact ⟨u, hu, hrest⟩
    · -- the site begins no later than the byte
      rw [hu, utf8Length_append] at h
      obtain rfl : u = [] := by
        by_contra hne
        have hpos := utf8Length_pos hne
        omega
      exact ⟨[], by simpa using hu.symm, by simpa using hrest.symm⟩
  obtain ⟨u, rfl, hu⟩ := hbefore
  rw [utf8Length_append] at h
  obtain ⟨v, rfl, -⟩ | ⟨v, htext, hv⟩ := List.append_eq_append_iff.1 hu
  · rw [utf8Length_append] at h
    omega
  · cases v with
    | nil =>
      rw [htext, List.append_nil] at h
      omega
    | cons d v =>
      obtain ⟨rfl, rfl⟩ := List.cons.inj hv
      exact ⟨u, v, rfl, htext, rfl⟩

theorem isGap_iff {c : Char} : isGap c ↔ c ∈ [' ', '\t', '\r', '\x0C', byteOrderMark] := by
  simp [isGap, or_assoc]

section Scanned

variable {source : Text} (h : firstStray? false source = none)

include h

/-- A word is not empty, and made of its characters. -/
theorem word_of_mem_sites {s : Site} {w : Text} (hs : s ∈ (scan false source).sites)
    (hw : s.token = .word w) : w ≠ [] ∧ ∀ c ∈ w, isWordChar c := by
  obtain ⟨xs, x, ys, hls, rfl⟩ := mem_sitesOf.1 hs
  exact ((scan_proper h).all x (by simp [hls])).word w hw

theorem start_lt_stop_of_mem_sites {s : Site} (hs : s ∈ (scan false source).sites) :
    s.span.start < s.span.stop := by
  refine Nat.lt_add_of_pos_right (utf8Length_pos ?_)
  by_cases hword : ∃ w, s.token = .word w
  · obtain ⟨w, hw⟩ := hword
    rw [hw]
    exact (word_of_mem_sites h hs hw).1
  · obtain ⟨c, hc, _⟩ := Token.exists_text_eq fun w hw => hword ⟨w, hw⟩
    simp [hc]

/-- A character that only a token of its own can hold is one, if it is not in a comment. -/
theorem mem_sites_of_not_word {before : Text} {c : Char} {behind : Text} {token : Token}
    (hsource : source = before ++ c :: behind) (hcomment : ¬IsCommented before c behind)
    (hword : ∀ w, token ≠ .word w) (hc : token.text = [c]) :
    ⟨before, token, behind⟩ ∈ (scan false source).sites := by
  obtain ⟨d, hd, hchar, hgap⟩ := Token.exists_text_eq hword
  obtain rfl : c = d := by simpa [hc] using hd
  obtain ⟨s, hs, hcovers⟩ : Covered (scan false source).sites (utf8Length before) := by
    rw [← commentedAt_iff, Bool.not_eq_true] at hcomment
    subst hsource
    exact (covered_scan_iff h).2 ⟨hcomment, hgap⟩
  have heq : s.source = before ++ c :: behind := by
    rw [source_of_mem_sites hs, text_scan, hsource]
  obtain ⟨u, v, rfl, htext, rfl⟩ := s.exists_of_covers heq hcovers
  by_cases hw : ∃ w, s.token = .word w
  · -- words have no such character
    obtain ⟨w, hw⟩ := hw
    have hmem : c ∈ w := by simpa [hw, Token.text] using congr_arg (c ∈ ·) htext
    exact absurd ((word_of_mem_sites h hs hw).2 c hmem) hchar
  · have hplain : ∀ w, s.token ≠ .word w := fun w hw' => hw ⟨w, hw'⟩
    obtain ⟨e, he, _⟩ := Token.exists_text_eq hplain
    rw [he] at htext
    obtain ⟨rfl, rfl, rfl⟩ : u = [] ∧ e = c ∧ v = [] := by
      cases u <;> simp_all
    obtain rfl := Token.eq_of_text_eq hplain hword (he.trans hc.symm)
    simpa using hs

theorem isTiling_scan : IsTiling source (scan false source).sites where
  source_eq := fun s hs => by rw [source_of_mem_sites hs, text_scan]
  nonempty := fun s hs => start_lt_stop_of_mem_sites h hs
  ordered := (pairwise_sitesOf _ _).imp_of_mem fun ha _ hle =>
    ⟨(start_lt_stop_of_mem_sites h ha).trans_le hle, hle⟩
  word := fun s hs w hw => by
    refine ⟨fun c hc => ?_, fun c hc => ?_, fun c hc => ?_⟩ <;> rw [← isWordChar_iff]
    · exact (word_of_mem_sites h hs hw).2 c hc
    · exact not_isWordChar_before h hs hw c hc
    · exact not_isWordChar_behind hs hw c hc
  covered := fun before c behind hsource => by
    subst hsource
    rw [covered_scan_iff h, ← commentedAt_iff, ← isGap_iff]
    cases commentedAt false before c behind <;> simp
  alone := fun before c behind token hsource hcomment hword hc =>
    mem_sites_of_not_word h hsource hcomment hword hc

end Scanned

/-! ## Tokenizing -/

/-- A blank that the format has no place for stands outside of comments. -/
structure IsMisplaced (source before : Text) (c : Char) (behind : Text) : Prop where
  eq : source = before ++ c :: behind
  blank : isBlank c ∧ c ∉ [' ', '\t', '\r', '\n', '\x0C']
  uncommented : ¬IsCommented before c behind

theorem isStray_iff {c : Char} :
    isStray c ↔ isBlank c ∧ c ∉ [' ', '\t', '\r', '\n', '\x0C'] := by
  have hmark : ¬isBlank byteOrderMark := by decide
  have hne : isBlank c → c ≠ byteOrderMark := fun hc heq => hmark (heq ▸ hc)
  simp only [isStray, isGap, Bool.and_eq_true, Bool.not_eq_true', Bool.or_eq_false_iff,
    beq_eq_false_iff_ne, bne_iff_ne, List.mem_cons, List.not_mem_nil, or_false, not_or]
  tauto

theorem isStrayAt_iff {source before : Text} {c : Char} {behind : Text} :
    IsStrayAt false source before c behind ↔ IsMisplaced source before c behind := by
  constructor
  · rintro ⟨heq, hstray, hcomment⟩
    refine ⟨heq, isStray_iff.1 hstray, ?_⟩
    rw [← commentedAt_iff, hcomment]
    exact Bool.false_ne_true
  · rintro ⟨heq, hblank, hcomment⟩
    rw [← commentedAt_iff, Bool.not_eq_true] at hcomment
    exact ⟨heq, isStray_iff.2 hblank, hcomment⟩

/-- A source is refused for the first blank outside of comments that the format has no place for,
and the error has the bytes of that character. A source without one is tiled by its tokens. -/
theorem tokenize_tiles (source : Text) :
    match tokenize source with
    | .error (span, c) => ∃ before behind, IsMisplaced source before c behind ∧
        span = ⟨utf8Length before, utf8Length before + c.utf8Size⟩ ∧
        ∀ before' c' behind', IsMisplaced source before' c' behind' →
          before.length ≤ before'.length
    | .ok l => (∀ before c behind, ¬IsMisplaced source before c behind) ∧
        ∃ sites : List Site, sites.map Site.token = l.lexemes.map Lexeme.token ∧
          sites.map Site.span = spans 0 l.lexemes ∧ IsTiling source sites := by
  rw [tokenize]
  cases hfirst : firstStray? false source with
  | some found =>
    obtain ⟨n, c⟩ := found
    obtain ⟨before, behind, hstray, rfl, hleast⟩ := isStrayAt_of_firstStray? hfirst
    exact ⟨before, behind, isStrayAt_iff.1 hstray, rfl, fun _ _ _ hstray' =>
      hleast _ _ _ (isStrayAt_iff.2 hstray')⟩
  | none =>
    refine ⟨fun before c behind hstray => ?_, (scan false source).sites, ?_, ?_, ?_⟩
    · exact not_isStrayAt_of_firstStray? hfirst before c behind (isStrayAt_iff.2 hstray)
    · exact map_token_sitesOf _ _
    · exact (spans_eq_map_sites _).symm
    · exact isTiling_scan hfirst

end CfgPatch.Cfg
