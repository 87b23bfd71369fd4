import CfgPatch.Proofs.Clauses

/-!
# Headers as they are written

A header is written as a type, a selector in brackets, clauses, and an index behind a comma; all
but the type may be missing (`Header.Spelling`). A text is read as a header if and only if it is
written like this and the header says what stands there: the clauses whose word is `HAS` are one
with a bracket group or none, and all other clauses say nothing (`Header.parse_ok_iff`).
-/

namespace CfgPatch

open Text Brackets

/-! ## Indexes -/

namespace Index

variable {key t : Text} {i : Index} {n : Nat}

/-- The text of an index, blanks at its ends apart, is a star or a numeral. -/
def Spells (t : Text) : Index → Prop
  | .every => trim t = ['*']
  | .nth n => readIndex? (trim t) = some n

theorem parse_ok_iff : parse key t = .ok i ↔ Spells t i := by
  have hstar : readIndex? ['*'] = none := by decide
  unfold parse
  by_cases htrim : trim t = ['*']
  · cases i <;> simp [Spells, htrim, hstar]
  · cases i <;> cases hread : readIndex? (trim t) <;> simp [Spells, htrim, hread]

theorem isDigit_of_readIndex? (h : readIndex? t = some n) : ∀ c ∈ t, c = '+' ∨ c.isDigit := by
  have hdigits : ∀ digits : Text, ¬(digits.isEmpty || !digits.all Char.isDigit) →
      ∀ c ∈ digits, c.isDigit := by
    intro digits hall
    simp only [Bool.or_eq_true, Bool.not_eq_true', not_or, Bool.not_eq_false] at hall
    exact List.all_eq_true.1 hall.2
  unfold readIndex? at h
  split at h
  · rename_i digits
    simp only at h
    split_ifs at h with hnone
    exact List.forall_mem_cons.2 ⟨.inl rfl, fun c hc => .inr (hdigits digits hnone c hc)⟩
  · simp only at h
    split_ifs at h with hnone
    exact fun c hc => .inr (hdigits t hnone c hc)

/-- An index has no brackets and no colons. -/
theorem Spells.plain (h : Spells t i) : ∀ c ∈ t, (c ≠ '[' ∧ c ≠ ']') ∧ c ≠ ':' := by
  intro c hc
  rcases isBlank_or_mem_trim hc with hblank | hc
  · refine ⟨⟨?_, ?_⟩, ?_⟩ <;> rintro rfl <;> exact absurd hblank (by decide)
  · cases i with
    | every =>
      rw [Spells] at h
      rw [h, List.mem_singleton] at hc
      subst hc
      decide
    | nth n =>
      rcases isDigit_of_readIndex? h c hc with rfl | hdigit
      · decide
      · refine ⟨⟨?_, ?_⟩, ?_⟩ <;> rintro rfl <;> exact absurd hdigit (by decide)

end Index

namespace Header

/-! ## The parts of a header -/

/-- Whether a clause lists constraints. -/
def isHas (c : Clause) : Bool := sameLetters c.word hasKeyword

/-- An index as it is written, if there is one. -/
def indexText : Option Text → Text
  | none => []
  | some i => ',' :: i

/-- What is written behind the type and the selector. -/
def ending (clauses : List Clause) (index : Option Text) : Text :=
  clauses.flatMap Clause.text ++ indexText index

/-- A header as it is written. -/
structure Spelling where
  type : Text
  selector : Option Text
  clauses : List Clause
  index : Option Text
deriving DecidableEq, Repr

/-- The text that is written. -/
def Spelling.text (w : Spelling) : Text :=
  w.type ++ (bracketed w.selector ++ ending w.clauses w.index)

/-- With what is written behind the type and the selector, a header becomes the header `result`:
the constraints are those of the one clause that lists any, and no header has two such clauses. -/
structure Extends (header : Header) (clauses : List Clause) (index : Option Text)
    (result : Header) : Prop where
  type : result.type = header.type
  selector : result.selector = header.selector
  written : ∀ c ∈ clauses, c.IsWritten ∧ c.word ≠ []
  constraints : result.constraints.toList.map some =
    header.constraints.toList.map some ++ (clauses.filter isHas).map Clause.content
  index : Option.Rel Index.Spells index result.index

/-- A header says what is written. -/
structure Reads (header : Header) (w : Spelling) : Prop where
  plain : ∀ c ∈ w.type, ¬endsType c ∧ c ≠ ']'
  named : trim w.type ≠ []
  balanced : ∀ s ∈ w.selector, balanced s
  extends_type : Extends ⟨trim w.type, w.selector, none, none⟩ w.clauses w.index header

variable {name t rest : Text} {header result : Header} {c : Clause} {clauses : List Clause}
  {content index : Option Text} {w : Spelling}

theorem ending_cons (c : Clause) (clauses : List Clause) (index : Option Text) :
    ending (c :: clauses) index = c.text ++ ending clauses index := by
  rw [ending, List.flatMap_cons, List.append_assoc]
  rfl

/-- What stands behind the selector begins with a colon or a comma. -/
theorem head?_ending : ∀ a ∈ (ending clauses index).head?, a = ':' ∨ a = ',' := by
  intro a ha
  cases clauses with
  | nil =>
    cases index with
    | none => exact absurd ha (by simp [ending, indexText])
    | some i =>
      obtain rfl := Option.some.inj ha
      exact .inr rfl
  | cons c clauses =>
    rw [ending_cons] at ha
    obtain rfl := Option.some.inj ha
    exact .inl rfl

theorem endsBefore_ending : c.EndsBefore (ending clauses index) := by
  intro _ a ha
  rcases head?_ending a ha with rfl | rfl <;> decide

/-! ## Clauses and indexes -/

/-- A header with no list of constraints goes on as if it had the one that a clause gives it. -/
theorem extends_cons_iff :
    Extends header (c :: clauses) index result ↔ (c.IsWritten ∧ c.word ≠ []) ∧
      if isHas c then ∃ inner, c.content = some inner ∧ header.constraints = none ∧
        Extends { header with constraints := some inner } clauses index result
      else Extends header clauses index result := by
  -- a header has one list of constraints at most, so there was none in front of this one
  have hone : ∀ {result : Option Text} {more : List (Option Text)},
      result.toList.map some = header.constraints.toList.map some ++ c.content :: more ↔
        ∃ inner, c.content = some inner ∧ header.constraints = none ∧
          result.toList.map some = some inner :: more := by
    intro result more
    cases result <;> cases header.constraints <;> cases c.content <;> simp
  constructor
  · rintro ⟨htype, hselector, hwritten, hconstraints, hindex⟩
    obtain ⟨hc, hwritten⟩ := List.forall_mem_cons.1 hwritten
    refine ⟨hc, ?_⟩
    split_ifs with hhas
    · rw [List.filter_cons_of_pos hhas, List.map_cons, hone] at hconstraints
      obtain ⟨inner, hcontent, hnone, hmore⟩ := hconstraints
      exact ⟨inner, hcontent, hnone, htype, hselector, hwritten, hmore, hindex⟩
    · rw [List.filter_cons_of_neg hhas] at hconstraints
      exact ⟨htype, hselector, hwritten, hconstraints, hindex⟩
  · rintro ⟨hc, hrest⟩
    split_ifs at hrest with hhas
    · obtain ⟨inner, hcontent, hnone, htype, hselector, hwritten, hmore, hindex⟩ := hrest
      refine ⟨htype, hselector, List.forall_mem_cons.2 ⟨hc, hwritten⟩, ?_, hindex⟩
      rw [List.filter_cons_of_pos hhas, List.map_cons, hone]
      exact ⟨inner, hcontent, hnone, hmore⟩
    · obtain ⟨htype, hselector, hwritten, hconstraints, hindex⟩ := hrest
      refine ⟨htype, hselector, List.forall_mem_cons.2 ⟨hc, hwritten⟩, ?_, hindex⟩
      rwa [List.filter_cons_of_neg hhas]

/-- Without further clauses a header is complete but for its index. -/
theorem extends_nil_iff : Extends header [] index result ↔
    ∃ i, Option.Rel Index.Spells index i ∧ result = { header with index := i } := by
  constructor
  · rintro ⟨htype, hselector, _, hconstraints, hindex⟩
    refine ⟨result.index, hindex, ?_⟩
    have hsame : result.constraints = header.constraints := by
      cases hresult : result.constraints <;> cases hheader : header.constraints <;>
        simp_all
    cases result
    simp_all
  · rintro ⟨i, hi, rfl⟩
    exact ⟨rfl, rfl, by simp, by simp, hi⟩

/-- Behind the letters of a clause its bracket group is read. -/
theorem segmentContent_clause (name : Text) (hc : c.IsWritten) (hend : c.EndsBefore rest) :
    segmentContent name (bracketed c.content ++ rest) = .ok (c.content, rest) := by
  rw [segmentContent, hc.group?_content hend]
  simp only [hend.head?_eq_iff]
  cases c.content <;> rfl

/-- What is read behind a colon is a clause. -/
theorem clause_of_segmentContent
    (h : segmentContent name (t.dropWhile Char.isAlpha) = .ok (content, rest)) :
    (⟨t.takeWhile Char.isAlpha, content⟩ : Clause).IsWritten ∧
      ':' :: t = (⟨t.takeWhile Char.isAlpha, content⟩ : Clause).text ++ rest := by
  have hbehind : (∀ inner ∈ content, Brackets.balanced inner) ∧
      t.dropWhile Char.isAlpha = bracketed content ++ rest := by
    unfold segmentContent at h
    split_ifs at h
    · split at h
      · rename_i hgroup
        obtain ⟨rfl, rfl⟩ := Prod.mk.inj (Except.ok.inj h)
        exact eq_bracketed_of_group? hgroup
      · exact absurd h (by simp)
    · obtain ⟨rfl, rfl⟩ := Prod.mk.inj (Except.ok.inj h)
      exact ⟨by simp, rfl⟩
  refine ⟨⟨fun _ => Clause.isAlpha_of_mem_takeWhile, hbehind.1⟩, ?_⟩
  rw [Clause.text_append, ← hbehind.2, List.takeWhile_append_dropWhile]

/-- The step of the reader at a clause. -/
theorem parseRest_clause (hc : c.IsWritten) (hend : c.EndsBefore rest) :
    parseRest name header (c.text ++ rest) =
      if isHas c then
        match c.content, header.constraints with
        | none, _ => .error (.invalidName name .bareHas)
        | some _, some _ => .error (.invalidName name .repeatedHas)
        | some inner, none => parseRest name { header with constraints := some inner } rest
      else if c.word.isEmpty then .error (.invalidName name .emptySegment)
      else parseRest name header rest := by
  have hsegment := segmentContent_clause name hc hend
  rw [← hc.dropWhile_word hend] at hsegment
  rw [Clause.text_append, parseRest, if_pos rfl]
  simp only [hc.takeWhile_word hend]
  split
  · rename_i e herror
    rw [hsegment] at herror
    exact absurd herror (by simp)
  · rename_i content rest' hok
    rw [hsegment] at hok
    obtain ⟨rfl, rfl⟩ := Prod.mk.inj (Except.ok.inj hok)
    obtain ⟨word, content⟩ := c
    obtain ⟨type, selector, constraints, index⟩ := header
    cases content <;> cases constraints <;> rfl

/-- The reader takes nothing but clauses and an index. -/
theorem exists_ending_of_parseRest (hindex : header.index = none)
    (h : parseRest name header t = .ok result) :
    ∃ clauses index, t = ending clauses index ∧ Extends header clauses index result := by
  fun_induction parseRest name header t with
  | case1 header =>
    obtain rfl := Except.ok.inj h
    exact ⟨[], none, rfl, extends_nil_iff.2 ⟨none, .none, by rw [← hindex]⟩⟩
  | case5 header t word rest hhas inner hsegment hnone _ _ ih =>
    -- a clause that lists constraints, the first of them
    obtain ⟨clauses, index, rfl, hextends⟩ := ih hindex h
    obtain ⟨hwritten, htext⟩ := clause_of_segmentContent hsegment
    have hhas : isHas ⟨t.takeWhile Char.isAlpha, some inner⟩ := hhas
    have hne : t.takeWhile Char.isAlpha ≠ [] := by
      intro hnil
      rw [isHas, hnil] at hhas
      exact absurd (a := sameLetters [] hasKeyword = true) hhas (by decide)
    refine ⟨_ :: clauses, index, by rw [htext, ending_cons], ?_⟩
    rw [extends_cons_iff, if_pos hhas]
    exact ⟨⟨hwritten, hne⟩, inner, rfl, hnone, hextends⟩
  | case7 header t word content rest hsegment hhas hempty _ ih =>
    -- any other clause; it leaves the header as it is
    obtain ⟨clauses, index, rfl, hextends⟩ := ih hindex h
    obtain ⟨hwritten, htext⟩ := clause_of_segmentContent hsegment
    have hhas : ¬isHas ⟨t.takeWhile Char.isAlpha, content⟩ := hhas
    have hne : t.takeWhile Char.isAlpha ≠ [] := fun hnil => hempty (List.isEmpty_iff.2 hnil)
    refine ⟨_ :: clauses, index, by rw [htext, ending_cons], ?_⟩
    rw [extends_cons_iff, if_neg hhas]
    exact ⟨⟨hwritten, hne⟩, hextends⟩
  | case8 header t =>
    -- a comma ends the clauses, and all that is behind it is the index
    cases hi : Index.parse name t with
    | error e =>
      rw [hi] at h
      exact absurd h (by simp [Except.map])
    | ok i =>
      rw [hi] at h
      obtain rfl := Except.ok.inj h
      exact ⟨[], some t, rfl, extends_nil_iff.2 ⟨some i, .some (Index.parse_ok_iff.1 hi), rfl⟩⟩
  | _ => simp_all

/-- The reader takes all clauses and the index. -/
theorem Extends.parseRest_ending (hindex : header.index = none)
    (h : Extends header clauses index result) :
    parseRest name header (ending clauses index) = .ok result := by
  induction clauses generalizing header with
  | nil =>
    obtain ⟨i, hi, rfl⟩ := extends_nil_iff.1 h
    cases hi with
    | none => rw [ending, List.flatMap_nil, indexText, List.append_nil, parseRest, ← hindex]
    | @some text i hi =>
      have htext : ending [] (some text) = ',' :: text := rfl
      rw [htext, parseRest, if_neg (by decide), if_pos rfl, Index.parse_ok_iff.2 hi]
      rfl
  | cons c clauses ih =>
    obtain ⟨⟨hwritten, hne⟩, hrest⟩ := extends_cons_iff.1 h
    rw [ending_cons, parseRest_clause hwritten endsBefore_ending]
    split_ifs at hrest ⊢ with hhas hempty
    · obtain ⟨inner, hcontent, hnone, hrest⟩ := hrest
      rw [hcontent, hnone]
      exact ih hindex hrest
    · exact absurd (List.isEmpty_iff.1 hempty) hne
    · exact ih hindex hrest

/-! ## Whole headers -/

/-- The index of a header has neither brackets nor colons. -/
theorem plain_indexText {i : Option Index} (h : Option.Rel Index.Spells index i) :
    ∀ c ∈ indexText index, (c ≠ '[' ∧ c ≠ ']') ∧ c ≠ ':' := by
  cases h with
  | none => simp [indexText]
  | some hi => exact List.forall_mem_cons.2 ⟨by decide, hi.plain⟩

theorem Extends.balanced_ending (h : Extends header clauses index result) :
    Brackets.balanced (ending clauses index) := by
  have hclauses : Brackets.balanced (clauses.flatMap Clause.text) :=
    balanced_flatMap fun c hc => (h.written c hc).1.balanced_text
  rw [ending, balanced_append_iff hclauses]
  exact balanced_of_no_brackets fun c hc => (plain_indexText h.index c hc).1

theorem Reads.balanced_type (h : header.Reads w) : Brackets.balanced w.type := by
  refine balanced_of_no_brackets fun c hc => ⟨?_, (h.plain c hc).2⟩
  rintro rfl
  exact (h.plain _ hc).1 (by decide)

/-- The brackets of a header close. -/
theorem Reads.balanced_text (h : header.Reads w) : Brackets.balanced w.text := by
  rw [Spelling.text, balanced_append_iff h.balanced_type,
    balanced_append_iff (balanced_bracketed h.balanced)]
  exact h.extends_type.balanced_ending

/-- The type reaches to where the selector, a clause or the index begins. -/
theorem endsType_of_head? :
    ∀ a ∈ (bracketed w.selector ++ ending w.clauses w.index).head?, endsType a := by
  intro a ha
  cases hselector : w.selector with
  | none =>
    rw [hselector] at ha
    rcases head?_ending a ha with rfl | rfl <;> decide
  | some s =>
    rw [hselector] at ha
    obtain rfl := Option.some.inj ha
    decide

/-- What is read as a header is written as one. -/
theorem exists_reads_of_parse (h : parse t = .ok header) :
    ∃ w : Spelling, w.text = t ∧ header.Reads w := by
  have hsplit : t.takeWhile (!endsType ·) ++ t.dropWhile (!endsType ·) = t :=
    List.takeWhile_append_dropWhile
  have hends : ∀ c ∈ t.takeWhile (!endsType ·), ¬endsType c := fun c hc => by
    simpa using List.mem_takeWhile_imp hc
  unfold parse at h
  split_ifs at h with hbalanced
  simp only at h
  split_ifs at h with hempty
  have hnamed : trim (t.takeWhile (!endsType ·)) ≠ [] := fun hnil =>
    hempty (List.isEmpty_iff.2 hnil)
  rw [← hsplit] at hbalanced
  have hclose := ne_close_of_balanced_append hbalanced fun c hc hopen =>
    hends c hc (by rw [hopen]; rfl)
  have hplain : ∀ c ∈ t.takeWhile (!endsType ·), ¬endsType c ∧ c ≠ ']' := fun c hc =>
    ⟨hends c hc, hclose c hc⟩
  split at h
  · rename_i u hu
    split at h
    · rename_i s rest hcut
      obtain ⟨clauses, index, rfl, hextends⟩ := exists_ending_of_parseRest rfl h
      have hgroup : group? (t.dropWhile (!endsType ·)) = some (s, ending clauses index) := by
        rw [hu]
        exact hcut
      obtain ⟨hselector, htext⟩ := eq_bracketed_of_group? hgroup
      exact ⟨⟨_, some s, clauses, index⟩, by rw [Spelling.text, ← htext, hsplit], hplain, hnamed,
        hselector, hextends⟩
    · exact absurd h (by simp)
  · obtain ⟨clauses, index, hending, hextends⟩ := exists_ending_of_parseRest rfl h
    exact ⟨⟨_, none, clauses, index⟩, by rw [Spelling.text, bracketed, List.nil_append, ← hending,
      hsplit], hplain, hnamed, by simp, hextends⟩

/-- What is written as a header is read as it. -/
theorem Reads.parse_text (h : header.Reads w) : parse w.text = .ok header := by
  have htype : ∀ c ∈ w.type, (!endsType c) = true := fun c hc => by simpa using (h.plain c hc).1
  have hends : ∀ a ∈ (bracketed w.selector ++ ending w.clauses w.index).head?,
      ¬(!endsType a) = true := fun a ha => by simpa using endsType_of_head? a ha
  obtain ⟨htake, hdrop⟩ := Clause.takeWhile_of_head hends
  have hrest : ∀ name, parseRest name ⟨trim w.type, w.selector, none, none⟩
      (ending w.clauses w.index) = .ok header := fun _ => h.extends_type.parseRest_ending rfl
  rw [parse, if_pos h.balanced_text, Spelling.text, List.takeWhile_append_of_pos htype, htake,
    List.dropWhile_append_of_pos htype, hdrop, List.append_nil]
  simp only
  rw [if_neg (by simpa using h.named)]
  cases hselector : w.selector with
  | none =>
    rw [hselector] at hrest
    rw [bracketed, List.nil_append]
    split
    · rename_i u hu
      have hopen := head?_ending '[' (by rw [hu]; rfl)
      exact absurd hopen (by decide)
    · exact hrest _
  | some s =>
    rw [hselector] at hrest
    have hcut : close? 1 (s ++ [']'] ++ ending w.clauses w.index) =
        some (s, ending w.clauses w.index) := by
      rw [List.append_assoc]
      exact close?_append (balanced_iff.1 (h.balanced s hselector)) _
    simp only [bracketed, List.cons_append, hcut]
    exact hrest _

/-- A text is read as a header if and only if it is written as one, and says what stands there. -/
theorem parse_ok_iff : parse t = .ok header ↔ ∃ w : Spelling, w.text = t ∧ header.Reads w := by
  constructor
  · exact exists_reads_of_parse
  · rintro ⟨w, rfl, hreads⟩
    exact hreads.parse_text

end Header

end CfgPatch
