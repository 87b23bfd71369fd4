import CfgPatch.Cfg.Token
import Mathlib.Data.List.Chain

/-!
# What a scan gives

Two kinds of laws. The first say what the lexemes of a source look like: a word is made of
word characters, a gap holds comments only in front of a line end, and two slashes never touch
(`scan_proper`). The second cut a source in two: behind a separator scanning goes on as if
nothing had stood in front of it (`scan_append`), so that a text made of whole lines has the
same lexemes wherever it stands (`Cut`).
-/

namespace CfgPatch.Cfg

open Text

/-! ## Classes of characters -/

/-- Whether a character can be part of a word. -/
def isWordChar (c : Char) : Bool :=
  !isGap c && !isStray c && c != '\n' && c != '/' && c != '{' && c != '}' && c != '='

/-- A blank is a gap, a line end, or out of place. -/
theorem isGap_of_isBlank {c : Char} (hblank : isBlank c) (hline : c ≠ '\n')
    (hstray : ¬isStray c) : isGap c := by
  simp only [isStray, hblank, Bool.true_and, Bool.and_eq_true, Bool.not_eq_true', bne_iff_ne,
    not_and, not_not] at hstray
  by_contra hgap
  exact hline (hstray (by simpa using hgap))

theorem not_isBlank_of_isWordChar {c : Char} (h : isWordChar c) : ¬isBlank c := by
  simp only [isWordChar, Bool.and_eq_true, Bool.not_eq_true', bne_iff_ne] at h
  obtain ⟨⟨⟨⟨⟨⟨hgap, hstray⟩, hline⟩, _⟩, _⟩, _⟩, _⟩ := h
  intro hblank
  rw [isGap_of_isBlank hblank hline (by simp [hstray])] at hgap
  exact absurd hgap (by simp)

theorem ne_newline_of_isWordChar {c : Char} (h : isWordChar c) : c ≠ '\n' := by
  rintro rfl
  exact absurd h (by decide)

theorem ne_slash_of_isGap {c : Char} (h : isGap c) : c ≠ '/' := by
  rintro rfl
  exact absurd h (by decide)

theorem ne_newline_of_isGap {c : Char} (h : isGap c) : c ≠ '\n' := by
  rintro rfl
  exact absurd h (by decide)

theorem not_isStray_of_isGap {c : Char} (h : isGap c) : ¬isStray c := by simp [isStray, h]

theorem chars_of_isGap {c : Char} (h : isGap c) : c ≠ '\n' ∧ c ≠ '{' ∧ c ≠ '}' ∧ ¬isStray c := by
  refine ⟨ne_newline_of_isGap h, ?_, ?_, not_isStray_of_isGap h⟩ <;>
    · rintro rfl
      exact absurd h (by decide)

/-! ## Comments -/

/-- Whether the text behind a character is inside a comment. -/
def commentedBehind (commented : Bool) (c : Char) (t : Text) : Bool :=
  c != '\n' && (commented || (c == '/' && t.head? == some '/'))

theorem firstStray?_cons_eq_none {commented : Bool} {c : Char} {t : Text} :
    firstStray? commented (c :: t) = none ↔
      (isStray c → commented = true) ∧ firstStray? (commentedBehind commented c t) t = none := by
  rw [firstStray?]
  cases commented <;> cases hstray : isStray c <;> simp [commentedBehind]

/-- Outside of comments only a double slash begins one. -/
theorem commentedBehind_of_outside {c : Char} {t : Text} (h : c = '/' → t.head? ≠ some '/') :
    commentedBehind false c t = false := by
  by_cases hc : c = '/'
  · have hhead : (t.head? == some '/') = false := by simpa using h hc
    simp [commentedBehind, hc, hhead]
  · simp [commentedBehind, hc]

/-- A character that is stepped over begins no comment and ends none. -/
theorem commentedBehind_of_skipped {commented : Bool} {c : Char} (hline : c ≠ '\n')
    (hskip : (commented || isGap c || isStray c) = true) (t : Text) :
    commentedBehind commented c t = commented := by
  cases commented with
  | true => simp [commentedBehind, hline]
  | false =>
    refine commentedBehind_of_outside fun hc => ?_
    rw [hc] at hskip
    exact absurd hskip (by decide)

/-! ## One step of the scanner -/

/-- A token that is no word is written with one character, that no word and no gap holds. -/
theorem Token.exists_text_eq {token : Token} (h : ∀ w, token ≠ .word w) :
    ∃ c, token.text = [c] ∧ ¬isWordChar c ∧ ¬isGap c := by
  cases token with
  | word w => exact absurd rfl (h w)
  | openBrace => exact ⟨'{', rfl, by decide, by decide⟩
  | closeBrace => exact ⟨'}', rfl, by decide, by decide⟩
  | equals => exact ⟨'=', rfl, by decide, by decide⟩
  | newline => exact ⟨'\n', rfl, by decide, by decide⟩
  | slash => exact ⟨'/', rfl, by decide, by decide⟩

/-- Two tokens that are no words and are written alike are the same. -/
theorem Token.eq_of_text_eq {a b : Token} (ha : ∀ w, a ≠ .word w) (hb : ∀ w, b ≠ .word w)
    (h : a.text = b.text) : a = b := by
  cases a <;> cases b <;> simp_all [Token.text]

/-- A character in front of what was scanned behind it. A slash here is not the first of two, as
that one is inside the comment that it begins. -/
def Lexed.put (inComment : Bool) (c : Char) (l : Lexed) : Lexed :=
  if c = '\n' then l.push .newline
  else if inComment || isGap c || isStray c then l.skip c
  else if c = '/' then l.push .slash
  else if c = '{' then l.push .openBrace
  else if c = '}' then l.push .closeBrace
  else if c = '=' then l.push .equals
  else l.extend c

/-- The scanner reads one character, and the text behind it on its own. -/
theorem scan_cons (commented : Bool) (c : Char) (t : Text) :
    scan commented (c :: t) =
      (scan (commentedBehind commented c t) t).put (commentedBehind commented c t) c := by
  rw [scan, Lexed.put]
  by_cases hline : c = '\n'
  · simp [hline, commentedBehind]
  rw [if_neg hline, if_neg hline]
  by_cases hskip : (commented || isGap c || isStray c) = true
  · rw [if_pos hskip, commentedBehind_of_skipped hline hskip, if_pos hskip]
  rw [if_neg hskip]
  simp only [Bool.or_eq_true, not_or, Bool.not_eq_true] at hskip
  obtain ⟨⟨rfl, hgap⟩, hstray⟩ := hskip
  by_cases hslash : c = '/'
  · subst hslash
    by_cases hhead : t.head? = some '/'
    · simp [commentedBehind, hhead]
    · rw [commentedBehind_of_outside fun _ => hhead, if_pos rfl, if_neg hhead]
      rfl
  · rw [commentedBehind_of_outside fun hc => absurd hc hslash, if_neg hslash, if_neg hslash]
    simp [hgap, hstray]

/-- What the scanner does with a character: it steps over it, makes a token of it, or puts it to
a word. -/
inductive ScanStep (commented : Bool) (c : Char) (t : Text) : Lexed → Prop
  | skip (hline : c ≠ '\n') (h : (commentedBehind commented c t || isGap c || isStray c) = true) :
      ScanStep commented c t ((scan (commentedBehind commented c t) t).skip c)
  | push (token : Token) (hword : ∀ w, token ≠ .word w) (htext : token.text = [c])
      (h : commentedBehind commented c t = false) :
      ScanStep commented c t ((scan false t).push token)
  | extend (hchar : isWordChar c) (h : commentedBehind commented c t = false) :
      ScanStep commented c t ((scan false t).extend c)

theorem scanStep (commented : Bool) (c : Char) (t : Text) :
    ScanStep commented c t (scan commented (c :: t)) := by
  rw [scan_cons, Lexed.put]
  by_cases hline : c = '\n'
  · have hbehind : commentedBehind commented c t = false := by simp [commentedBehind, hline]
    rw [if_pos hline, hbehind]
    exact .push .newline (by simp) (by simp [hline, Token.text]) hbehind
  rw [if_neg hline]
  by_cases hskip : (commentedBehind commented c t || isGap c || isStray c) = true
  · rw [if_pos hskip]
    exact .skip hline hskip
  rw [if_neg hskip]
  simp only [Bool.or_eq_true, not_or, Bool.not_eq_true] at hskip
  obtain ⟨⟨hbehind, hgap⟩, hstray⟩ := hskip
  rw [hbehind]
  split_ifs with hslash hopen hclose hequals
  · exact .push .slash (by simp) (by simp [hslash, Token.text]) hbehind
  · exact .push .openBrace (by simp) (by simp [hopen, Token.text]) hbehind
  · exact .push .closeBrace (by simp) (by simp [hclose, Token.text]) hbehind
  · exact .push .equals (by simp) (by simp [hequals, Token.text]) hbehind
  · -- all that is left is a character of a word
    refine .extend ?_ hbehind
    simp [isWordChar, hgap, hstray, hline, hslash, hopen, hclose, hequals]

/-- Outside of a comment the text behind a character is in one only if a comment begins. -/
theorem eq_false_of_commentedBehind {commented : Bool} {c : Char} {t : Text}
    (h : commentedBehind commented c t = false) (hline : c ≠ '\n') :
    commented = false ∧ (c = '/' → t.head? ≠ some '/') := by
  simpa [commentedBehind, hline] using h

/-! ## What the lexemes of a source look like -/

theorem lexemes_skip (c : Char) (l : Lexed) :
    (l.skip c).lexemes = l.lexemes.modifyHead fun x => { x with gap := c :: x.gap } := by
  rcases l with ⟨_ | ⟨x, xs⟩, r⟩ <;> rfl

/-- A token is written with characters of the source. -/
theorem mem_of_mem_lexemes {commented : Bool} {t : Text} {l : Lexeme} {c : Char}
    (hl : l ∈ (scan commented t).lexemes) (hc : c ∈ l.token.text) : c ∈ t := by
  rw [← text_scan commented t, Lexed.text, List.mem_append, List.mem_flatMap]
  exact .inl ⟨l, hl, List.mem_append_right _ hc⟩

/-- A source whose first lexeme has no gap begins with the token of that lexeme. -/
theorem head?_of_lexemes {commented : Bool} {t : Text} {token : Token} {ls : List Lexeme}
    (h : (scan commented t).lexemes = ⟨[], token⟩ :: ls) (hne : token.text ≠ []) :
    t.head? = token.text.head? := by
  have htext := text_scan commented t
  rw [Lexed.text, h, List.flatMap_cons, Lexeme.text, List.nil_append, List.append_assoc] at htext
  rw [← htext, List.head?_append]
  obtain ⟨c, w, hw⟩ := List.exists_cons_of_ne_nil hne
  rw [hw]
  rfl

/-- What a lexeme of a source without strays is like. -/
structure Lexeme.IsProper (l : Lexeme) : Prop where
  /-- Only a line end can have a comment in front. -/
  gap : l.token ≠ .newline → ∀ c ∈ l.gap, isGap c
  word : ∀ w, l.token = .word w → w ≠ [] ∧ ∀ c ∈ w, isWordChar c

/-- A lexeme can stand behind another: two slashes never touch. -/
def Lexeme.CanFollow (a b : Lexeme) : Prop := ¬(a.token = .slash ∧ b = ⟨[], .slash⟩)

theorem Lexeme.isProper_of_token {token : Token} (h : ∀ w, token ≠ .word w) :
    Lexeme.IsProper ⟨[], token⟩ where
  gap := by simp
  word := fun w hw => absurd hw (h w)

/-- What the lexemes of a source without strays are like. -/
structure Lexed.IsProper (commented : Bool) (l : Lexed) : Prop where
  all : ∀ x ∈ l.lexemes, x.IsProper
  apart : l.lexemes.IsChain Lexeme.CanFollow
  /-- A comment goes on to the end of its line. -/
  comment : commented = true → ∀ x ∈ l.lexemes.head?, x.token = .newline

namespace Lexed.IsProper

variable {l : Lexed}

theorem nil (commented : Bool) : Lexed.IsProper commented ⟨[], []⟩ where
  all := by simp
  apart := .nil
  comment := by simp

/-- A token of its own, that cannot touch what follows it in the wrong way. -/
theorem push (h : l.IsProper false) {commented : Bool} {token : Token}
    (hword : ∀ w, token ≠ .word w)
    (hslash : token = .slash → l.lexemes.head? ≠ some ⟨[], .slash⟩)
    (hline : commented = true → token = .newline) : (l.push token).IsProper commented where
  all := by
    intro x hx
    rcases List.mem_cons.1 hx with rfl | hx
    · exact Lexeme.isProper_of_token hword
    · exact h.all x hx
  apart := by
    refine List.isChain_cons.2 ⟨?_, h.apart⟩
    rintro x hx ⟨htoken, rfl⟩
    exact hslash htoken hx
  comment := fun hcommented x hx => by
    obtain rfl := Option.some.inj hx
    exact hline hcommented

/-- A character of a gap, or of a comment. -/
theorem skip {commented : Bool} (h : l.IsProper commented) {c : Char}
    (hc : commented = true ∨ isGap c) (outside : Bool) (hout : outside = true → commented = true) :
    (l.skip c).IsProper outside where
  all := by
    intro x hx
    rw [lexemes_skip] at hx
    cases hls : l.lexemes with
    | nil => simp [hls] at hx
    | cons y ys =>
      have hy : y.IsProper := h.all y (by simp [hls])
      rw [hls, List.modifyHead_cons, List.mem_cons] at hx
      rcases hx with rfl | hx
      · refine ⟨fun hne d hd => ?_, hy.word⟩
        rcases List.mem_cons.1 hd with rfl | hd
        · rcases hc with hcommented | hgap
          · -- in a comment the next token is the end of the line
            exact absurd (h.comment hcommented y (by simp [hls])) hne
          · exact hgap
        · exact hy.gap hne d hd
      · exact h.all x (by simp [hls, hx])
  apart := by
    rw [lexemes_skip]
    cases hls : l.lexemes with
    | nil => exact .nil
    | cons y ys =>
      have happart := h.apart
      rw [hls, List.isChain_cons] at happart
      exact List.isChain_cons.2 happart
  comment := by
    intro htrue x hx
    rw [lexemes_skip] at hx
    cases hls : l.lexemes with
    | nil => simp [hls] at hx
    | cons y ys =>
      rw [hls] at hx
      obtain rfl := Option.some.inj hx
      exact h.comment (hout htrue) y (by simp [hls])

/-- A character of a word. -/
theorem extend (h : l.IsProper false) {c : Char} (hc : isWordChar c) :
    (l.extend c).IsProper false := by
  unfold Lexed.extend
  split
  · rename_i w xs hls
    have hall := h.all
    have happart := h.apart
    rw [hls] at hall happart
    refine ⟨?_, ?_, by simp⟩
    · intro x hx
      rcases List.mem_cons.1 hx with rfl | hx
      · obtain ⟨_, hw⟩ := (hall _ (List.mem_cons_self ..)).word w rfl
        refine ⟨by simp, fun w' hw' => ?_⟩
        obtain rfl := Token.word.inj hw'
        refine ⟨by simp, fun d hd => ?_⟩
        rcases List.mem_cons.1 hd with rfl | hd
        · exact hc
        · exact hw d hd
      · exact hall x (List.mem_cons_of_mem _ hx)
    · refine List.isChain_cons.2 ⟨fun x _ hbad => ?_, (List.isChain_cons.1 happart).2⟩
      exact absurd hbad.1 (by simp)
  · refine ⟨?_, ?_, by simp⟩
    · intro x hx
      rcases List.mem_cons.1 hx with rfl | hx
      · refine ⟨by simp, fun w' hw' => ?_⟩
        obtain rfl := Token.word.inj hw'
        exact ⟨by simp, by simpa using hc⟩
      · exact h.all x hx
    · refine List.isChain_cons.2 ⟨fun x _ hbad => ?_, h.apart⟩
      exact absurd hbad.1 (by simp)

end Lexed.IsProper

theorem scan_proper {commented : Bool} {t : Text} (h : firstStray? commented t = none) :
    (scan commented t).IsProper commented := by
  induction t generalizing commented with
  | nil => exact .nil commented
  | cons c t ih =>
    obtain ⟨hstray, htail⟩ := firstStray?_cons_eq_none.1 h
    have hproper := ih htail
    generalize hl : scan commented (c :: t) = l
    cases hl ▸ scanStep commented c t with
    | skip hline hskip =>
      have hcomment : commented = true → commentedBehind commented c t = true := by
        rintro rfl
        simp [commentedBehind, hline]
      refine hproper.skip ?_ commented hcomment
      rw [Bool.or_eq_true, Bool.or_eq_true] at hskip
      rcases hskip with (hbehind | hgap) | hs
      · exact .inl hbehind
      · exact .inr hgap
      · -- strays stand in comments only
        exact .inl (hcomment (hstray hs))
    | push token hword htext hbehind =>
      rw [hbehind] at hproper
      refine hproper.push hword (fun hslash hhead => ?_) fun hcommented => ?_
      · -- a slash that another one follows begins a comment
        obtain rfl : '/' = c := by simpa [hslash, Token.text] using htext
        obtain ⟨ls, hls⟩ := List.head?_eq_some_iff.1 hhead
        exact (eq_false_of_commentedBehind hbehind (by decide)).2 rfl
          (head?_of_lexemes hls (by simp [Token.text]))
      · have hline : c = '\n' := by
          by_contra hline
          exact absurd hcommented (by simp [(eq_false_of_commentedBehind hbehind hline).1])
        exact Token.eq_of_text_eq hword (by simp) (by rw [htext, hline]; rfl)
    | extend hchar hbehind =>
      rw [hbehind] at hproper
      rw [(eq_false_of_commentedBehind hbehind (ne_newline_of_isWordChar hchar)).1]
      exact hproper.extend hchar

/-! ## Texts without comments -/

/-- No two slashes touch, so that no comment begins. -/
def Uncommented (t : Text) : Prop := t.IsChain fun c d => ¬(c = '/' ∧ d = '/')

instance (t : Text) : Decidable (Uncommented t) :=
  inferInstanceAs (Decidable (t.IsChain fun c d => ¬(c = '/' ∧ d = '/')))

theorem Uncommented.of_cons {c : Char} {t : Text} (h : Uncommented (c :: t)) :
    (c = '/' → t.head? ≠ some '/') ∧ Uncommented t := by
  obtain ⟨hhead, htail⟩ := List.isChain_cons.1 h
  exact ⟨fun hc hd => hhead '/' hd ⟨hc, rfl⟩, htail⟩

theorem Uncommented.of_isInfix {s t : Text} (h : Uncommented t) (hs : s <:+: t) : Uncommented s :=
  List.IsChain.infix h hs

theorem Uncommented.of_forall_ne {t : Text} (h : ∀ c ∈ t, c ≠ '/') : Uncommented t := by
  induction t with
  | nil => exact .nil
  | cons c t ih =>
    refine List.isChain_cons.2 ⟨fun d _ hslashes => ?_, ih fun d hd => ?_⟩
    · exact h c (List.mem_cons_self ..) hslashes.1
    · exact h d (List.mem_cons_of_mem c hd)

/-- Two texts put together hold no comment if no slash of one touches a slash of the other. -/
theorem Uncommented.append {s t : Text} (hs : Uncommented s) (ht : Uncommented t)
    (h : s.getLast? = some '/' → t.head? ≠ some '/') : Uncommented (s ++ t) := by
  refine List.isChain_append.2 ⟨hs, ht, ?_⟩
  rintro c hc d hd ⟨rfl, rfl⟩
  exact h hc hd

/-- A text is without comments if and only if no double slash occurs in it. -/
theorem uncommented_iff {t : Text} : Uncommented t ↔ ¬['/', '/'] <:+: t := by
  constructor
  · intro h hslashes
    have := h.of_isInfix hslashes
    revert this
    decide
  · intro h
    induction t with
    | nil => exact .nil
    | cons c t ih =>
      refine List.isChain_cons.2 ⟨?_, ih fun ht => h (ht.trans (List.suffix_cons c t).isInfix)⟩
      rintro d hd ⟨rfl, rfl⟩
      obtain ⟨t', rfl⟩ := List.head?_eq_some_iff.1 hd
      exact h (List.prefix_append ['/', '/'] t').isInfix

theorem firstStray?_of_forall {commented : Bool} {t : Text} (h : ∀ c ∈ t, ¬isStray c) :
    firstStray? commented t = none := by
  induction t generalizing commented with
  | nil => rfl
  | cons c t ih =>
    exact firstStray?_cons_eq_none.2 ⟨fun hc => absurd hc (h c (List.mem_cons_self ..)),
      ih fun d hd => h d (List.mem_cons_of_mem c hd)⟩

theorem rest_skip (c : Char) (l : Lexed) :
    (l.skip c).rest = if l.lexemes = [] then c :: l.rest else l.rest := by
  rcases l with ⟨_ | ⟨x, xs⟩, r⟩ <;> rfl

@[simp] theorem rest_push (token : Token) (l : Lexed) : (l.push token).rest = l.rest := rfl

@[simp] theorem rest_extend (c : Char) (l : Lexed) : (l.extend c).rest = l.rest := by
  unfold Lexed.extend
  split <;> rfl

/-- Without comments only gap characters are left behind the last token. -/
theorem isGap_of_mem_rest {t : Text} (h : Uncommented t) (hstray : ∀ c ∈ t, ¬isStray c) :
    ∀ c ∈ (scan false t).rest, isGap c := by
  induction t with
  | nil => simp [scan]
  | cons c t ih =>
    have hrest := ih h.of_cons.2 fun d hd => hstray d (List.mem_cons_of_mem c hd)
    have hbehind := commentedBehind_of_outside h.of_cons.1
    generalize hl : scan false (c :: t) = l
    cases hl ▸ scanStep false c t with
    | skip _ hskip =>
      have hgap : isGap c := by
        rw [hbehind, Bool.false_or, Bool.or_eq_true] at hskip
        exact hskip.resolve_right (hstray c (List.mem_cons_self ..))
      rw [hbehind, rest_skip]
      split
      · simpa [hgap] using hrest
      · exact hrest
    | push => simpa using hrest
    | extend => simpa using hrest

/-- Nothing is left behind the last token of a text that does not end in a gap. -/
theorem rest_eq_nil {t : Text} (h : Uncommented t) (hstray : ∀ c ∈ t, ¬isStray c)
    (hlast : ∀ c ∈ t.getLast?, ¬isGap c) : (scan false t).rest = [] := by
  rcases List.eq_nil_or_concat (scan false t).rest with hnil | ⟨front, c, hrest⟩
  · exact hnil
  · have htext : (scan false t).lexemes.flatMap Lexeme.text ++ (front ++ [c]) = t := by
      rw [← List.concat_eq_append, ← hrest]
      exact text_scan false t
    have hend : t.getLast? = some c := by
      rw [← htext, ← List.append_assoc, List.getLast?_concat]
    exact absurd (isGap_of_mem_rest h hstray c (by simp [hrest])) (hlast c hend)

theorem exists_lexemes_extend (c : Char) (l : Lexed) :
    ∃ token ls, (l.extend c).lexemes = ⟨[], token⟩ :: ls := by
  unfold Lexed.extend
  split <;> exact ⟨_, _, rfl⟩

/-- A text that begins with no gap begins with its first token. -/
theorem exists_lexemes_cons {c : Char} {t : Text} (h : Uncommented (c :: t)) (hgap : ¬isGap c)
    (hstray : ¬isStray c) :
    ∃ token ls, (scan false (c :: t)).lexemes = ⟨[], token⟩ :: ls := by
  generalize hl : scan false (c :: t) = l
  cases hl ▸ scanStep false c t with
  | skip _ hskip => simp [commentedBehind_of_outside h.of_cons.1, hgap, hstray] at hskip
  | push => exact ⟨_, _, rfl⟩
  | extend => exact exists_lexemes_extend c _

/-! ## One text behind another -/

namespace Lexed

/-- What a text is cut into if another one stands behind it: the gap that the first one ends in
is a part of the first gap of the second. -/
def append (a b : Lexed) : Lexed :=
  match b.lexemes with
  | [] => ⟨a.lexemes, a.rest ++ b.rest⟩
  | l :: ls => ⟨a.lexemes ++ ⟨a.rest ++ l.gap, l.token⟩ :: ls, b.rest⟩

theorem nil_append (b : Lexed) : append ⟨[], []⟩ b = b := by
  rcases b with ⟨_ | ⟨x, xs⟩, r⟩ <;> rfl

theorem push_append (token : Token) (a b : Lexed) :
    (a.push token).append b = (a.append b).push token := by
  rcases b with ⟨_ | ⟨x, xs⟩, r⟩ <;> rfl

theorem skip_append (c : Char) (a b : Lexed) : (a.skip c).append b = (a.append b).skip c := by
  rcases a with ⟨_ | ⟨y, ys⟩, r'⟩ <;> rcases b with ⟨_ | ⟨x, xs⟩, r⟩ <;> rfl

/-- A word cannot go on in a text that begins with no word. -/
theorem extend_append (c : Char) (a : Lexed) {b : Lexed}
    (h : ∀ w, b.lexemes.head? ≠ some ⟨[], .word w⟩) :
    (a.extend c).append b = (a.append b).extend c := by
  rcases b with ⟨_ | ⟨⟨g, token⟩, xs⟩, r⟩
  · rcases a with ⟨_ | ⟨⟨_ | ⟨d, g⟩, _ | _ | _ | _ | _ | w⟩, ys⟩, r'⟩ <;> rfl
  · rcases a with ⟨_ | ⟨⟨_ | ⟨d, g⟩, _ | _ | _ | _ | _ | w⟩, ys⟩, _ | ⟨d', r'⟩⟩
    case nil.nil =>
      -- the two texts touch, and the second one begins with a gap or with no word
      rcases g with _ | ⟨d, g⟩
      · cases token with
        | word w => exact absurd rfl (h w)
        | _ => rfl
      · rfl
    all_goals rfl

end Lexed

/-- A character is put in front in the same way, whatever stands behind, if no word goes on. -/
theorem Lexed.put_append (inComment : Bool) (c : Char) (a : Lexed) {b : Lexed}
    (h : ∀ w, b.lexemes.head? ≠ some ⟨[], .word w⟩) :
    (a.put inComment c).append b = (a.append b).put inComment c := by
  unfold put
  split_ifs
  · exact push_append _ a b
  · exact skip_append c a b
  · exact push_append _ a b
  · exact push_append _ a b
  · exact push_append _ a b
  · exact push_append _ a b
  · exact extend_append c a h

/-- Whether a text that may begin inside a comment ends inside one. -/
def commentedAfter (commented : Bool) : Text → Bool
  | [] => commented
  | c :: t => commentedAfter (commentedBehind commented c t) t

theorem Uncommented.commentedAfter {t : Text} (h : Uncommented t) :
    commentedAfter false t = false := by
  induction t with
  | nil => rfl
  | cons c t ih =>
    rw [Cfg.commentedAfter, commentedBehind_of_outside h.of_cons.1, ih h.of_cons.2]

/-- A character that no token can hold, save a line end. -/
def IsSeparator (c : Char) : Prop := c = '\n' ∨ isGap c

theorem IsSeparator.ne_slash {c : Char} (h : IsSeparator c) : c ≠ '/' := by
  rcases h with rfl | h
  · decide
  · exact ne_slash_of_isGap h

/-- No word stands right at the front of a text that begins with a separator. -/
theorem IsSeparator.head?_lexemes_ne {s : Char} (hs : IsSeparator s) (commented : Bool) (t : Text)
    (w : Text) : (scan commented (s :: t)).lexemes.head? ≠ some ⟨[], .word w⟩ := by
  intro h
  rw [scan] at h
  by_cases hline : s = '\n'
  · rw [if_pos hline] at h
    exact absurd h (by simp [Lexed.push])
  · have hgap : (commented || isGap s || isStray s) = true := by simp [hs.resolve_left hline]
    rw [if_neg hline, if_pos hgap, lexemes_skip] at h
    cases hls : (scan commented t).lexemes <;> simp [hls] at h

/-- A separator behind a text begins no comment with it. -/
theorem commentedBehind_append {s : Char} (hs : IsSeparator s) (commented : Bool) (c : Char)
    (x t : Text) : commentedBehind commented c (x ++ s :: t) = commentedBehind commented c x := by
  cases x with
  | nil =>
    have hslash : (s == '/') = false := by simpa using hs.ne_slash
    simp [commentedBehind, hslash]
  | cons d x => rfl

/-- Behind a separator scanning goes on as if nothing stood in front, comments apart. -/
theorem scan_append {s : Char} (hs : IsSeparator s) (commented : Bool) (x t : Text) :
    scan commented (x ++ s :: t) =
      (scan commented x).append (scan (commentedAfter commented x) (s :: t)) := by
  induction x generalizing commented with
  | nil => exact (Lexed.nil_append _).symm
  | cons c x ih =>
    rw [List.cons_append, scan_cons, commentedBehind_append hs, ih, scan_cons commented c x,
      commentedAfter,
      -- a word ends in front of the separator
      Lexed.put_append _ c _ (hs.head?_lexemes_ne _ t)]

/-- Behind a separator strays are looked for as if nothing stood in front, comments apart. -/
theorem firstStray?_append_eq_none {s : Char} (hs : IsSeparator s) {commented : Bool}
    {x t : Text} :
    firstStray? commented (x ++ s :: t) = none ↔ firstStray? commented x = none ∧
      firstStray? (commentedAfter commented x) (s :: t) = none := by
  induction x generalizing commented with
  | nil => simp [firstStray?, commentedAfter]
  | cons c x ih =>
    rw [List.cons_append, firstStray?_cons_eq_none, firstStray?_cons_eq_none,
      commentedBehind_append hs, ih, commentedAfter, and_assoc]

/-! ## To the end of a comment -/

theorem scan_comment {t : Text} (h : '\n' ∉ t) : scan true t = ⟨[], t⟩ := by
  induction t with
  | nil => rfl
  | cons c t ih =>
    rw [List.mem_cons, not_or] at h
    rw [scan, if_neg (Ne.symm h.1), Bool.true_or, Bool.true_or, if_pos rfl, ih h.2]
    rfl

theorem firstStray?_comment {t : Text} (h : '\n' ∉ t) : firstStray? true t = none := by
  induction t with
  | nil => rfl
  | cons c t ih =>
    rw [List.mem_cons, not_or] at h
    have hbehind : commentedBehind true c t = true := by simp [commentedBehind, Ne.symm h.1]
    rw [firstStray?_cons_eq_none, hbehind]
    exact ⟨fun _ => rfl, ih h.2⟩

/-- A comment is a gap from its slashes on. -/
theorem scan_slashes {t : Text} (h : '\n' ∉ t) :
    scan false ('/' :: '/' :: t) = ⟨[], '/' :: '/' :: t⟩ := by
  have htail : '\n' ∉ '/' :: t := by simp [h]
  have hhead : ('/' :: t).head? = some '/' := rfl
  rw [scan, if_neg (by decide), if_neg (by decide), if_pos rfl, if_pos hhead, scan_comment htail]
  rfl

theorem firstStray?_slashes {t : Text} (h : '\n' ∉ t) :
    firstStray? false ('/' :: '/' :: t) = none := by
  have htail : '\n' ∉ '/' :: t := by simp [h]
  rw [firstStray?_cons_eq_none]
  exact ⟨fun hstray => absurd hstray (by decide), firstStray?_comment htail⟩

/-! ## Whole lines -/

/-- A line end ends every comment. -/
theorem scan_newline (commented : Bool) (t : Text) :
    scan commented ('\n' :: t) = (scan false t).push .newline := by
  rw [scan, if_pos rfl]

theorem scan_append_line (commented : Bool) (x t : Text) :
    scan commented (x ++ '\n' :: t) =
      (scan commented x).append ((scan false t).push .newline) := by
  rw [scan_append (.inl rfl), scan_newline]

theorem firstStray?_newline_eq_none {commented : Bool} {t : Text} :
    firstStray? commented ('\n' :: t) = none ↔ firstStray? false t = none := by
  have hplain : ¬isStray '\n' := by decide
  have hbehind : commentedBehind commented '\n' t = false := by simp [commentedBehind]
  rw [firstStray?_cons_eq_none, hbehind]
  exact and_iff_right fun h => absurd h hplain

/-- A text has a stray in its first line or behind it. -/
theorem firstStray?_append_line {commented : Bool} {x t : Text} :
    firstStray? commented (x ++ '\n' :: t) = none ↔
      firstStray? commented x = none ∧ firstStray? false t = none := by
  rw [firstStray?_append_eq_none (.inl rfl), firstStray?_newline_eq_none]

/-- A text is cut into the same lexemes wherever it stands, and is followed by no gap. -/
structure Cut (x : Text) (ls : List Lexeme) : Prop where
  scan_append : ∀ t, scan false (x ++ t) = ⟨ls ++ (scan false t).lexemes, (scan false t).rest⟩
  clean : ∀ t, firstStray? false t = none → firstStray? false (x ++ t) = none

theorem Cut.nil : Cut [] [] where
  scan_append := fun _ => rfl
  clean := fun _ h => h

theorem Cut.append {x y : Text} {ls ms : List Lexeme} (hx : Cut x ls) (hy : Cut y ms) :
    Cut (x ++ y) (ls ++ ms) where
  scan_append := fun t => by
    rw [List.append_assoc, hx.scan_append, hy.scan_append, List.append_assoc]
  clean := fun t ht => by
    rw [List.append_assoc]
    exact hx.clean _ (hy.clean t ht)

/-- A line is cut into its lexemes and the end of the line. -/
theorem Cut.line {x : Text} (h : firstStray? false x = none) :
    Cut (x ++ ['\n']) ((scan false x).lexemes ++ [⟨(scan false x).rest, .newline⟩]) where
  scan_append := fun t => by
    rw [List.append_assoc, List.singleton_append, scan_append_line]
    simp [Lexed.append, Lexed.push]
  clean := fun t ht => by
    rw [List.append_assoc]
    exact firstStray?_append_line.2 ⟨h, ht⟩

theorem Cut.tokenize {x : Text} {ls : List Lexeme} (h : Cut x ls) : tokenize x = .ok ⟨ls, []⟩ := by
  have hclean : firstStray? false x = none := by simpa using h.clean [] rfl
  have hscan : scan false x = ⟨ls, []⟩ := by simpa [scan] using h.scan_append []
  rw [Cfg.tokenize, hclean, hscan]

/-- Gap characters in front of a text become a part of its first gap. -/
theorem scan_gap_append {m : Text} (hm : ∀ c ∈ m, isGap c) (x : Text) :
    scan false (m ++ x) = Lexed.append ⟨[], m⟩ (scan false x) := by
  induction m with
  | nil => exact (Lexed.nil_append _).symm
  | cons c m ih =>
    have hc := hm c (List.mem_cons_self ..)
    have hgap : (false || isGap c || isStray c) = true := by simp [hc]
    rw [List.cons_append, scan, if_neg (ne_newline_of_isGap hc), if_pos hgap,
      ih fun d hd => hm d (List.mem_cons_of_mem c hd), ← Lexed.skip_append]
    rfl

end CfgPatch.Cfg
