import CfgPatch.Proofs.Assessment
import CfgPatch.Proofs.Spelling

/-!
# Headers without their pass segments

The scanner of passes walks over a name character by character and counts brackets; the reader of
headers walks from part to part. On a header both see the same parts: no colon stands outside of
brackets but in front of a clause, so what the scanner takes out are the clauses with a keyword of
passes, each of them whole (`Header.Reads.scanPasses_text`). None of them lists constraints, so the
header that is left says what it said before (`Header.Reads.withoutPasses`).
-/

namespace CfgPatch

open Text Brackets

/-! ## Scanning part by part -/

/-- Puts a text in front that belongs to no segment. -/
def PassScan.keepAll (a : Text) (s : PassScan) : PassScan := { s with stripped := a ++ s.stripped }

/-- What a clause says about passes, if its word is a keyword of passes. -/
def Clause.segment? (c : Clause) : Option Segment :=
  (Keyword.ofWord? c.word).map fun k => k.reading c.content

section Scanning

variable {depth d : Nat} {a rest : Text} {c : Clause}

/-- A text in which no colon stands outside of brackets is kept as it is. -/
theorem scanPassesFrom_append (h : depthAfter? depth a = some d)
    (hcolon : ¬HasOutside (· == ':') depth a) (rest : Text) :
    scanPassesFrom depth (a ++ rest) = (scanPassesFrom d rest).keepAll a := by
  induction a generalizing depth with
  | nil =>
    obtain rfl := Option.some.inj h
    rfl
  | cons c a ih =>
    have hdepth := ne_zero_of_depthAfter? (by rw [h]; rfl)
    obtain ⟨hfirst, hbehind⟩ := not_or.1 (mt hasOutside_cons_iff.2 hcolon)
    have hhere : ¬(c = ':' && depth = 0) := by
      simpa [and_comm] using hfirst
    rw [depthAfter?_cons hdepth] at h
    rw [List.cons_append, scanPassesFrom, if_neg hhere, ih h fun hout => hbehind ⟨hdepth, hout⟩]
    rfl

theorem scanPassesFrom_plain (h : ∀ c ∈ a, (c ≠ '[' ∧ c ≠ ']') ∧ c ≠ ':') (rest : Text) :
    scanPassesFrom 0 (a ++ rest) = (scanPassesFrom 0 rest).keepAll a := by
  have hcolon : ¬HasOutside (· == ':') 0 a :=
    not_hasOutside_of_forall fun c hc => by simpa using (h c hc).2
  exact scanPassesFrom_append (depthAfter?_of_no_brackets fun c hc => (h c hc).1) hcolon rest

/-- A clause is taken out whole if its word is a keyword of passes, and else it is kept whole. -/
theorem scanPassesFrom_clause (hc : c.IsWritten) (hend : c.EndsBefore rest) :
    scanPassesFrom 0 (c.text ++ rest) =
      match c.segment? with
      | some s => (scanPassesFrom 0 rest).found s
      | none => (scanPassesFrom 0 rest).keepAll c.text := by
  rw [Clause.text_append, scanPassesFrom, if_pos (by decide), hc.takeWhile_word hend,
    Clause.segment?]
  cases hword : Keyword.ofWord? c.word with
  | some k =>
    simp only [hc.dropWhile_word hend, Keyword.complete_eq hc hend]
    rfl
  | none =>
    have hbalanced : depthAfter? 0 (c.word ++ bracketed c.content) = some 0 :=
      balanced_iff.1 (balanced_colon_iff.1 hc.balanced_text)
    simp only [← List.append_assoc, scanPassesFrom_append hbalanced hc.not_hasOutside]
    rfl

end Scanning

namespace Header

variable {c : Char} {t : Text} {header result : Header} {clauses : List Clause}
  {index : Option Text} {w : Spelling}

/-- The header as it is written without its pass segments. -/
def Spelling.withoutPasses (w : Spelling) : Spelling :=
  { w with clauses := w.clauses.filter fun c => c.segment?.isNone }

/-- The pass segments of a header, in order. -/
def Spelling.segments (w : Spelling) : List Segment := w.clauses.filterMap Clause.segment?

/-- Behind the selector the clauses with a keyword of passes are taken out, and nothing else. -/
theorem Extends.scanPassesFrom_ending (h : Extends header clauses index result) :
    scanPassesFrom 0 (ending clauses index) =
      ⟨ending (clauses.filter fun c => c.segment?.isNone) index,
        clauses.filterMap Clause.segment?⟩ := by
  -- what the header says of its constraints changes from clause to clause and plays no part here
  have hwritten := h.written
  have hplain := plain_indexText h.index
  clear h
  induction clauses with
  | nil =>
    have hindex := scanPassesFrom_plain hplain []
    rw [List.append_nil] at hindex
    rw [ending, List.flatMap_nil, List.nil_append, hindex]
    simp [scanPassesFrom, PassScan.keepAll, ending]
  | cons c clauses ih =>
    obtain ⟨⟨hc, _⟩, hwritten⟩ := List.forall_mem_cons.1 hwritten
    rw [ending_cons, scanPassesFrom_clause hc endsBefore_ending, ih hwritten]
    cases hsegment : c.segment? with
    | none => simp [hsegment, ending_cons, PassScan.keepAll]
    | some s => simp [hsegment, PassScan.found]

/-- Of a header behind a command, the scanner takes out the pass segments, and nothing else. -/
theorem Reads.scanPasses_text (h : header.Reads w) (hc : c ∈ commandSymbols) :
    scanPasses (c :: w.text) = ⟨c :: w.withoutPasses.text, w.segments⟩ := by
  have hsymbol : (c ≠ '[' ∧ c ≠ ']') ∧ c ≠ ':' := by
    have hall : ∀ c ∈ commandSymbols, (c ≠ '[' ∧ c ≠ ']') ∧ c ≠ ':' := by
      simp [commandSymbols]
    exact hall c hc
  have htype : ∀ a ∈ w.type, (a ≠ '[' ∧ a ≠ ']') ∧ a ≠ ':' := by
    intro a ha
    obtain ⟨hends, hclose⟩ := h.plain a ha
    refine ⟨⟨?_, hclose⟩, ?_⟩ <;> rintro rfl <;> exact hends (by decide)
  have hselector : depthAfter? 0 (bracketed w.selector) = some 0 :=
    balanced_iff.1 (balanced_bracketed h.balanced)
  have hcolon : ¬HasOutside (· == ':') 0 (bracketed w.selector) :=
    not_hasOutside_bracketed h.balanced (by decide)
  rw [scanPasses, Spelling.text, ← List.cons_append,
    scanPassesFrom_plain (List.forall_mem_cons.2 ⟨hsymbol, htype⟩),
    scanPassesFrom_append hselector hcolon, h.extends_type.scanPassesFrom_ending]
  rfl

/-- No keyword of passes is that of constraint lists. -/
theorem segment?_eq_none_of_isHas {c : Clause} (h : isHas c) : c.segment? = none := by
  have hword : ∀ k : Keyword, ¬sameLetters hasKeyword k.word.toList := by
    have hall : ∀ k ∈ Keyword.all, ¬sameLetters hasKeyword k.word.toList := by decide
    exact fun k => hall k k.mem_all
  rw [Clause.segment?, Option.map_eq_none_iff]
  cases hfound : Keyword.ofWord? c.word with
  | none => rfl
  | some k =>
    exact absurd (sameLetters_trans (sameLetters_symm h) (Keyword.ofWord?_eq_some_iff.1 hfound))
      (hword k)

/-- A header says the same without its pass segments. -/
theorem Reads.withoutPasses (h : header.Reads w) : header.Reads w.withoutPasses := by
  obtain ⟨hplain, hnamed, hbalanced, htype, hselector, hwritten, hconstraints, hindex⟩ := h
  refine ⟨hplain, hnamed, hbalanced, htype, hselector, ?_, ?_, hindex⟩
  · exact fun c hc => hwritten c (List.mem_of_mem_filter hc)
  · rw [hconstraints, Spelling.withoutPasses, List.filter_filter]
    congr 2
    refine List.filter_congr fun c _ => ?_
    cases hhas : isHas c with
    | false => simp
    | true => simp [segment?_eq_none_of_isHas hhas]

/-- The scanner of passes and the reader of headers agree on the parts of a name. Of what is read as
a header, behind any command, the scanner takes out the clauses with a keyword of passes, wherever
they stand and whatever they say, and what is left is read as the same header. -/
theorem parse_stripped (h : parse t = .ok header) (hc : c ∈ commandSymbols) :
    ∃ w : Spelling, w.text = t ∧ header.Reads w ∧
      (scanPasses (c :: t)).stripped = c :: w.withoutPasses.text ∧
      (scanPasses (c :: t)).segments = w.segments ∧
      parse w.withoutPasses.text = .ok header := by
  obtain ⟨w, rfl, hreads⟩ := parse_ok_iff.1 h
  have hscan := hreads.scanPasses_text hc
  exact ⟨w, rfl, hreads, congrArg PassScan.stripped hscan, congrArg PassScan.segments hscan,
    hreads.withoutPasses.parse_text⟩

/-- A header with pass segments on either side of its constraints, two of them malformed. -/
def severalSegments : Text := "PART[a]:FOR[x]:HAS[#m[1]]:LAST:First[z]:NEEDS[y],2".toList

theorem parse_stripped_severalSegments :
    parse severalSegments =
      .ok ⟨"PART".toList, some "a".toList, some "#m[1]".toList, some (.nth 2)⟩ ∧
    '@' ∈ commandSymbols ∧
    ∃ rest, (scanPasses ('@' :: severalSegments)).stripped = '@' :: rest ∧
      rest = "PART[a]:HAS[#m[1]]:NEEDS[y],2".toList ∧
      (scanPasses ('@' :: severalSegments)).segments =
        [.pass (.mod .during "x".toList), .malformed (.phase .last), .malformed .first] ∧
      parse rest = .ok ⟨"PART".toList, some "a".toList, some "#m[1]".toList, some (.nth 2)⟩ := by
  have hread : parse severalSegments =
      .ok ⟨"PART".toList, some "a".toList, some "#m[1]".toList, some (.nth 2)⟩ := by
    decide +kernel
  have hsymbol : '@' ∈ commandSymbols := by decide
  obtain ⟨w, _, _, hstripped, _, hparse⟩ := parse_stripped hread hsymbol
  have hscan : (scanPasses ('@' :: severalSegments)).stripped =
      '@' :: "PART[a]:HAS[#m[1]]:NEEDS[y],2".toList := by
    decide +kernel
  refine ⟨hread, hsymbol, _, hstripped, ?_, by decide +kernel, hparse⟩
  exact (List.cons.inj (hstripped.symm.trans hscan)).2

end Header

end CfgPatch
