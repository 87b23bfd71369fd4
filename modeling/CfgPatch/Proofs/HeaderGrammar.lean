import CfgPatch.Proofs.Spelling

/-!
# The grammar of headers

The texts that are read as headers are those of a grammar, and no others. The grammar is said here
without the reader: what may stand in which place (`Header.Spelling.IsGrammatical`), and what the
header then is (`Header.IsReadOff`), which of all clauses depends on the one that lists constraints
alone. A header that was read can be written down again, in the plainest of the ways that lead to it
(`Header.render`). The only texts that are refused for their brackets are those whose brackets do
not balance; the reader looks for closing brackets twice more, and always finds them
(`Header.parseRest_ne_unbalanced`).
-/

namespace CfgPatch

open Text Brackets

/-! ## Numerals -/

namespace Index

variable {t : Text} {i : Index} {n : Nat}

/-- What the text of an index says, blanks at its ends apart: a star means every match, and a
decimal numeral of 64 bits, perhaps with a plus in front, the match with that number. -/
inductive Denotes (t : Text) : Index → Prop
  | every (star : trim t = ['*']) : Denotes t .every
  | nth {sign digits : Text} (split : trim t = sign ++ digits) (plus : sign = [] ∨ sign = ['+'])
      (nonempty : digits ≠ []) (decimal : ∀ c ∈ digits, c.isDigit)
      (fits : digitsValue digits < 2 ^ 64) : Denotes t (.nth (digitsValue digits))

theorem readIndex?_eq_some_iff : readIndex? t = some n ↔ ∃ sign digits : Text,
    t = sign ++ digits ∧ (sign = [] ∨ sign = ['+']) ∧ digits ≠ [] ∧ (∀ c ∈ digits, c.isDigit) ∧
      digitsValue digits < 2 ^ 64 ∧ digitsValue digits = n := by
  -- behind the sign the digits are read, whatever the sign was
  have hdigits : ∀ digits : Text,
      (if digits.isEmpty || !digits.all Char.isDigit then none
        else if digitsValue digits ≤ maxIndex then some (digitsValue digits) else none) = some n ↔
      digits ≠ [] ∧ (∀ c ∈ digits, c.isDigit) ∧ digitsValue digits < 2 ^ 64 ∧
        digitsValue digits = n := by
    intro digits
    have hfits : digitsValue digits ≤ maxIndex ↔ digitsValue digits < 2 ^ 64 := by
      rw [maxIndex]
      omega
    by_cases hempty : digits = []
    · simp [hempty]
    · by_cases hall : ∀ c ∈ digits, c.isDigit
      · have htest : (digits.isEmpty || !digits.all Char.isDigit) = false := by
          simpa [hempty] using hall
        simpa [htest, hempty, hfits] using fun _ _ => hall
      · have htest : (digits.isEmpty || !digits.all Char.isDigit) = true := by
          simpa [hempty] using hall
        simp [htest, hall]
  have hplus : ¬('+').isDigit := by decide
  unfold readIndex?
  split
  · rename_i digits
    rw [hdigits]
    constructor
    · exact fun h => ⟨['+'], digits, rfl, .inr rfl, h⟩
    · rintro ⟨sign, rest, hsplit, rfl | rfl, hne, hall, hrest⟩
      · exact absurd (hall '+' (by rw [← List.nil_append rest, ← hsplit]; simp)) hplus
      · obtain ⟨_, rfl⟩ := List.cons.inj hsplit
        exact ⟨hne, hall, hrest⟩
  · rename_i hother
    rw [hdigits]
    constructor
    · exact fun h => ⟨[], t, rfl, .inl rfl, h⟩
    · rintro ⟨sign, rest, rfl, rfl | rfl, h⟩
      · exact h
      · exact absurd rfl (hother rest)

theorem spells_iff_denotes : Spells t i ↔ Denotes t i := by
  constructor
  · intro h
    cases i with
    | every => exact .every h
    | nth n =>
      obtain ⟨sign, digits, hsplit, hsign, hne, hall, hfits, rfl⟩ := readIndex?_eq_some_iff.1 h
      exact .nth hsplit hsign hne hall hfits
  · rintro (hstar | ⟨hsplit, hsign, hne, hall, hfits⟩)
    · exact hstar
    · exact readIndex?_eq_some_iff.2 ⟨_, _, hsplit, hsign, hne, hall, hfits, rfl⟩

/-- The plainest text of an index. -/
def text : Index → Text
  | every => ['*']
  | nth n => ofNat n

/-- An index that has been read can be written plainly. -/
theorem Spells.text (h : Spells t i) : Spells i.text i := by
  cases i with
  | every => rfl
  | nth n =>
    obtain ⟨_, _, _, _, _, _, hfits, rfl⟩ := readIndex?_eq_some_iff.1 h
    rw [Spells, Index.text, trim_ofNat, readIndex?_ofNat, if_pos]
    rw [maxIndex]
    omega

end Index

namespace Header

/-! ## The grammar -/

variable {header result : Header} {w : Spelling} {t name other : Text}

/-- What the grammar asks of the parts of a header: a type with a name in it and none of the
characters that begin another part; balanced texts in brackets; words of letters behind colons, of
which one at most is `HAS`, and that with a list in brackets; an index. -/
structure Spelling.IsGrammatical (w : Spelling) : Prop where
  type_plain : ∀ c ∈ w.type, c ∉ ['[', ']', ':', ',']
  type_named : trim w.type ≠ []
  selector : ∀ s ∈ w.selector, balanced s
  words : ∀ c ∈ w.clauses, c.word ≠ [] ∧ ∀ a ∈ c.word, a.isAlpha
  contents : ∀ c ∈ w.clauses, ∀ inner ∈ c.content, balanced inner
  has_once : w.clauses.countP isHas ≤ 1
  has_content : ∀ c ∈ w.clauses, isHas c → c.content.isSome
  index : ∀ i ∈ w.index, ∃ index, Index.Denotes i index

/-- The header is what the parts say; of the clauses, only the one that lists constraints says
anything. -/
structure IsReadOff (header : Header) (w : Spelling) : Prop where
  type : header.type = trim w.type
  selector : header.selector = w.selector
  constraints : header.constraints = (w.clauses.find? isHas).bind Clause.content
  index : Option.Rel Index.Denotes w.index header.index

/-- What is grammatical says something. -/
theorem Spelling.IsGrammatical.exists_isReadOff (h : w.IsGrammatical) :
    ∃ header : Header, header.IsReadOff w := by
  obtain ⟨index, hindex⟩ : ∃ index, Option.Rel Index.Denotes w.index index := by
    cases hw : w.index with
    | none => exact ⟨none, .none⟩
    | some i =>
      obtain ⟨index, hi⟩ := h.index i hw
      exact ⟨some index, .some hi⟩
  exact ⟨⟨trim w.type, w.selector, (w.clauses.find? isHas).bind Clause.content, index⟩,
    rfl, rfl, rfl, hindex⟩

/-- Lists of constraints, of which there is one at most, and what is read of them. -/
theorem constraints_iff {found : Option Text} {lists : List Clause} :
    found.toList.map some = lists.map Clause.content ↔
      lists.length ≤ 1 ∧ (∀ c ∈ lists, c.content.isSome) ∧
        found = lists.head?.bind Clause.content := by
  match lists with
  | [] => cases found <;> simp
  | [c] => cases found <;> cases hcontent : c.content <;> simp [hcontent]
  | _ :: _ :: _ => cases found <;> simp

theorem mem_endings_iff {c : Char} : ¬endsType c ∧ c ≠ ']' ↔ c ∉ ['[', ']', ':', ','] := by
  simp [endsType]
  tauto

/-- The reader follows the grammar. -/
theorem reads_iff : header.Reads w ↔ w.IsGrammatical ∧ header.IsReadOff w := by
  have hrel : Option.Rel Index.Spells w.index header.index ↔
      Option.Rel Index.Denotes w.index header.index := by
    have hsame : Index.Spells = Index.Denotes :=
      funext fun _ => funext fun _ => propext Index.spells_iff_denotes
    rw [hsame]
  have hlists : header.constraints.toList.map some =
      (none : Option Text).toList.map some ++ (w.clauses.filter isHas).map Clause.content ↔
        w.clauses.countP isHas ≤ 1 ∧ (∀ c ∈ w.clauses, isHas c → c.content.isSome) ∧
          header.constraints = (w.clauses.find? isHas).bind Clause.content := by
    rw [Option.toList_none, List.map_nil, List.nil_append, constraints_iff,
      List.countP_eq_length_filter, List.head?_filter]
    simp only [List.mem_filter, and_imp]
  constructor
  · rintro ⟨hplain, hnamed, hselector, htype, hsame, hwritten, hconstraints, hindex⟩
    obtain ⟨honce, hcontent, hfound⟩ := hlists.1 hconstraints
    refine ⟨⟨fun c hc => mem_endings_iff.1 (hplain c hc), hnamed, hselector,
      fun c hc => ⟨(hwritten c hc).2, (hwritten c hc).1.letters⟩,
      fun c hc => (hwritten c hc).1.balanced, honce, hcontent, fun i hi => ?_⟩,
      ⟨htype, hsame, hfound, hrel.1 hindex⟩⟩
    rw [Option.mem_def.1 hi] at hindex
    cases hheader : header.index with
    | none => rw [hheader] at hindex; nomatch hindex
    | some index =>
      rw [hheader] at hindex
      cases hindex with
      | some hspells => exact ⟨index, Index.spells_iff_denotes.1 hspells⟩
  · rintro ⟨h, hread⟩
    refine ⟨fun c hc => mem_endings_iff.2 (h.type_plain c hc), h.type_named, h.selector,
      hread.type, hread.selector, fun c hc => ⟨⟨(h.words c hc).2, h.contents c hc⟩,
        (h.words c hc).1⟩, hlists.2 ⟨h.has_once, h.has_content, hread.constraints⟩,
      hrel.2 hread.index⟩

/-! ## Writing a header -/

/-- The parts of a header in their plainest form. -/
def spelling (header : Header) : Spelling where
  type := header.type
  selector := header.selector
  clauses := header.constraints.toList.map fun inner => ⟨hasKeyword, some inner⟩
  index := header.index.map Index.text

/-- The header as text. -/
def render (header : Header) : Text := header.spelling.text

/-- A header that was read from some text says what is written in its plainest form. -/
theorem Reads.spelling (h : header.Reads w) : header.Reads header.spelling := by
  obtain ⟨hplain, hnamed, hselector, htype, hsame, hwritten, hconstraints, hindex⟩ := h
  have htype : header.type = trim w.type := htype
  have hsame : header.selector = w.selector := hsame
  refine ⟨fun c hc => ?_, ?_, ?_, ?_, rfl, fun c hc => ?_, ?_, ?_⟩
  · rw [Header.spelling, htype] at hc
    exact hplain c ((trim_isInfix _).subset hc)
  · rw [Header.spelling, htype, trim_trim]
    exact hnamed
  · rw [Header.spelling, hsame]
    exact hselector
  · show header.type = trim header.type
    rw [htype, trim_trim]
  · -- the list of constraints stood in a clause
    obtain ⟨inner, hinner, rfl⟩ := List.mem_map.1 hc
    have hmem : some inner ∈ (w.clauses.filter isHas).map Clause.content := by
      rw [Option.toList_none, List.map_nil, List.nil_append] at hconstraints
      rw [← hconstraints]
      exact List.mem_map_of_mem hinner
    obtain ⟨c, hc, hcontent⟩ := List.mem_map.1 hmem
    have hletters : ∀ a ∈ hasKeyword, a.isAlpha := List.all_eq_true.1 (by decide)
    refine ⟨⟨hletters, ?_⟩, List.cons_ne_nil _ _⟩
    rintro _ ⟨rfl⟩
    exact (hwritten c (List.mem_of_mem_filter hc)).1.balanced _ hcontent
  · cases hfound : header.constraints with
    | none => simp [Header.spelling, hfound]
    | some inner =>
      have hhas : isHas ⟨hasKeyword, some inner⟩ := sameLetters_refl hasKeyword
      simp [Header.spelling, hfound, hhas]
  · rw [Header.spelling]
    generalize w.index = written, header.index = index at hindex
    cases hindex with
    | none => exact .none
    | some hspells => exact .some hspells.text

/-! ## Brackets that do not balance -/

theorem indexParse_ne_unbalanced : Index.parse name t ≠ .error (.unbalanced other) := by
  rw [Index.parse]
  split
  · simp
  · split <;> simp

/-- Where brackets balance, the reader finds all that it looks for. -/
theorem parseRest_ne_unbalanced (h : balanced t) :
    parseRest name header t ≠ .error (.unbalanced other) := by
  have hbehind : ∀ {u : Text}, balanced (':' :: u) → ∃ content rest,
      segmentContent name (u.dropWhile Char.isAlpha) = .ok (content, rest) ∧ balanced rest := by
    intro u hu
    obtain ⟨c, rest, rfl, hc, hend, hrest⟩ := Clause.exists_of_balanced (balanced_colon_iff.1 hu)
    rw [hc.dropWhile_word hend, segmentContent_clause name hc hend]
    exact ⟨_, _, rfl, hrest⟩
  have hbalanced : ∀ {u rest : Text} {content : Option Text}, balanced (':' :: u) →
      segmentContent name (u.dropWhile Char.isAlpha) = .ok (content, rest) → balanced rest := by
    intro u rest content hu hsegment
    obtain ⟨_, _, hok, hrest⟩ := hbehind hu
    rw [hsegment] at hok
    obtain ⟨_, rfl⟩ := Prod.mk.inj (Except.ok.inj hok)
    exact hrest
  fun_induction parseRest name header t with
  | case2 header u e herror =>
    obtain ⟨content, rest, hok, _⟩ := hbehind h
    rw [hok] at herror
    exact absurd herror (by simp)
  | case5 header u _ rest _ inner hsegment _ _ _ ih => exact ih (hbalanced h hsegment)
  | case7 header u _ content rest hsegment _ _ _ ih => exact ih (hbalanced h hsegment)
  | case8 header u =>
    cases hi : Index.parse name u with
    | ok i => simp [Except.map]
    | error e =>
      simp only [Except.map, ne_eq, Except.error.injEq]
      rintro rfl
      exact indexParse_ne_unbalanced hi
  | _ => simp

/-- A text is refused for its brackets if and only if they do not balance. -/
theorem parse_unbalanced_iff :
    (∃ name, parse t = .error (.unbalanced name)) ↔ ¬balanced t := by
  constructor
  · rintro ⟨name, h⟩ hbalanced
    have hsplit : t.takeWhile (!endsType ·) ++ t.dropWhile (!endsType ·) = t :=
      List.takeWhile_append_dropWhile
    have hplain : ∀ c ∈ t.takeWhile (!endsType ·), c ≠ '[' := by
      rintro c hc rfl
      exact absurd (List.mem_takeWhile_imp hc) (by decide)
    have hclose := ne_close_of_balanced_append (hsplit ▸ hbalanced) hplain
    have hrest : balanced (t.dropWhile (!endsType ·)) := by
      rw [← hsplit, balanced_append_iff
        (balanced_of_no_brackets fun c hc => ⟨hplain c hc, hclose c hc⟩)] at hbalanced
      exact hbalanced
    rw [parse, if_pos hbalanced] at h
    simp only at h
    by_cases hempty : (trim (t.takeWhile (!endsType ·))).isEmpty
    · rw [if_pos hempty] at h
      exact absurd h (by simp)
    rw [if_neg hempty] at h
    split at h
    · rename_i u hu
      rw [hu] at hrest
      obtain ⟨inner, rest, hgroup⟩ := exists_group?_of_balanced hrest rfl
      have hcut : close? 1 u = some (inner, rest) := hgroup
      obtain ⟨hinner, htext⟩ := eq_bracketed_of_group? hgroup
      rw [htext, balanced_append_iff (balanced_bracketed hinner)] at hrest
      simp only [hcut] at h
      exact parseRest_ne_unbalanced hrest h
    · exact parseRest_ne_unbalanced hrest h
  · intro h
    exact ⟨t, by rw [parse, if_neg h]⟩

/-! ## What is accepted -/

/-- A text is read as a header if and only if it follows the grammar, and then the header is what
stands there. What has been read can be written down and read again. A text is refused for its
brackets if and only if they do not balance. -/
theorem parse_exact (t : Text) :
    ((∃ header, parse t = .ok header) ↔ ∃ w : Spelling, w.text = t ∧ w.IsGrammatical) ∧
    (∀ w : Spelling, w.text = t → w.IsGrammatical →
      ∀ header, parse t = .ok header ↔ header.IsReadOff w) ∧
    (∀ header, parse t = .ok header → parse header.render = .ok header) ∧
    ((∃ name, parse t = .error (.unbalanced name)) ↔ ¬balanced t) := by
  refine ⟨⟨?_, ?_⟩, ?_, ?_, parse_unbalanced_iff⟩
  · rintro ⟨header, h⟩
    obtain ⟨w, rfl, hreads⟩ := parse_ok_iff.1 h
    exact ⟨w, rfl, (reads_iff.1 hreads).1⟩
  · rintro ⟨w, rfl, hw⟩
    obtain ⟨header, hread⟩ := hw.exists_isReadOff
    exact ⟨header, (reads_iff.2 ⟨hw, hread⟩).parse_text⟩
  · rintro w rfl hw header
    constructor
    · -- the parts say something, and only one header is read
      intro h
      obtain ⟨other, hother⟩ := hw.exists_isReadOff
      have hparse := (reads_iff.2 ⟨hw, hother⟩).parse_text
      rwa [Except.ok.inj (h.symm.trans hparse)]
    · exact fun hread => (reads_iff.2 ⟨hw, hread⟩).parse_text
  · intro header h
    obtain ⟨w, _, hreads⟩ := parse_ok_iff.1 h
    exact hreads.spelling.parse_text

/-- A header with blanks, nested brackets, a clause that is read over, and a signed index. -/
def signedIndex : Text := " PART [a[b]]:NEEDS[x]:has[#m], +07".toList

theorem parse_exact_signedIndex :
    let header : Header := ⟨"PART".toList, some "a[b]".toList, some "#m".toList, some (.nth 7)⟩
    ∃ w : Spelling, w.text = signedIndex ∧ w.IsGrammatical ∧ header.IsReadOff w ∧
      parse header.render = .ok header ∧ header.render = "PART[a[b]]:HAS[#m],7".toList := by
  intro header
  have hread : parse signedIndex = .ok header := by decide +kernel
  obtain ⟨haccepted, hresult, hrender, _⟩ := parse_exact signedIndex
  obtain ⟨w, htext, hgrammar⟩ := haccepted.1 ⟨header, hread⟩
  exact ⟨w, htext, hgrammar, (hresult w htext hgrammar header).1 hread, hrender header hread,
    by decide +kernel⟩

end Header

end CfgPatch
