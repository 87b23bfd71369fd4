import CfgPatch.Proofs.Clauses

/-!
# Names in pieces

Scanning a name cuts it at its pass segments. Here the cut is described without the scanner: a
name is the text in front of its first pass segment and then, again and again, a pass segment and
the text behind it up to the next (`Dissection`), no text that is kept has a bracket whose partner
is not in it, and no pass segment is left out (`Dissection.IsExact`). Every balanced name has such
a dissection, and what the scanner gives is read off from it (`exists_dissection`).
-/

namespace CfgPatch

open Text Brackets

/-! ## Places of pass segments -/

/-- Outside of all brackets, behind the text `before`, there is a colon in the text `t`, and the
letters behind it spell a keyword. -/
def ShowsPassAt (depth : Nat) (t before : Text) : Prop :=
  ∃ after, t = before ++ ':' :: after ∧ depthAfter? depth before = some 0 ∧
    ∃ k : Keyword, sameLetters (after.takeWhile Char.isAlpha) k.word.toList

section Places

variable {depth d : Nat} {a t before : Text} {c : Clause}

/-- Places behind a text are places of what stands behind it. -/
theorem showsPassAt_append_iff (h : depthAfter? depth a = some d) :
    ShowsPassAt depth (a ++ t) (a ++ before) ↔ ShowsPassAt d t before := by
  rw [ShowsPassAt, ShowsPassAt, depthAfter?_append, h, Option.bind_some]
  simp only [List.append_assoc, List.append_cancel_left_eq]

/-- A clause has a pass segment at its front, or it is passed over whole. -/
theorem ShowsPassAt.of_clause (h : ShowsPassAt 0 (c.text ++ t) before) (hc : c.IsWritten) :
    before = [] ∨ ∃ behind, before = c.text ++ behind ∧ ShowsPassAt 0 t behind := by
  obtain ⟨after, htext, hdepth, hk⟩ := h
  cases before with
  | nil => exact .inl rfl
  | cons e before =>
    rw [Clause.text_append, ← List.append_assoc] at htext
    obtain ⟨rfl, hbehind⟩ := List.cons.inj htext
    refine .inr ?_
    rcases List.append_eq_append_iff.1 hbehind with ⟨mid, rfl, rfl⟩ | ⟨mid, hmid, hafter⟩
    · refine ⟨mid, rfl, after, rfl, ?_, hk⟩
      have hbalanced := hc.balanced_text
      rw [← List.cons_append] at hdepth
      exact (depthAfter?_append_of_balanced hbalanced 0 mid).symm.trans hdepth
    · cases mid with
      | nil =>
        rw [List.append_nil] at hmid
        refine ⟨[], by rw [Clause.text, hmid, List.append_nil], after, hafter.symm, rfl, hk⟩
      | cons e mid =>
        obtain ⟨rfl, _⟩ := List.cons.inj hafter
        refine absurd ⟨before, ':', mid, hmid, rfl, ?_⟩ hc.not_hasOutside
        rwa [depthAfter?_cons (by decide)] at hdepth

end Places

/-! ## Dissections -/

/-- A pass segment of a name and the text behind it, up to the next one. -/
structure Piece where
  keyword : Keyword
  clause : Clause
  behind : Text
deriving DecidableEq, Repr

namespace Piece

/-- The piece as it is written. -/
def text (p : Piece) : Text := p.clause.text ++ p.behind

/-- The pass that the segment names, if it is well-formed. -/
def pass? (p : Piece) : Option Pass := p.keyword.pass? p.clause.content

/-- The keyword of the segment, if it is malformed. -/
def malformed? (p : Piece) : Option Keyword := if p.pass?.isNone then some p.keyword else none

/-- The segment is a whole clause whose word is its keyword in letters of either case, and the text
behind it closes the brackets that it opens. -/
structure IsSound (p : Piece) : Prop where
  spelled : sameLetters p.clause.word p.keyword.word.toList
  written : p.clause.IsWritten
  ends : p.clause.EndsBefore p.behind
  balanced : Brackets.balanced p.behind

end Piece

/-- A name in pieces: the text in front of the first pass segment, and then piece by piece. -/
structure Dissection where
  front : Text
  pieces : List Piece
deriving DecidableEq, Repr

namespace Dissection

/-- The name that is in pieces. -/
def name (d : Dissection) : Text := d.front ++ d.pieces.flatMap Piece.text

/-- What is left of the name without its pass segments. -/
def kept (d : Dissection) : Text := d.front ++ d.pieces.flatMap Piece.behind

/-- What a scan of the name gives. -/
def scan (d : Dissection) : PassScan :=
  ⟨d.kept, d.pieces.map fun p => p.keyword.reading p.clause.content⟩

/-- The name begins `depth` deep and is cut at its pass segments, at all of them and nowhere
else. -/
structure IsExact (depth : Nat) (d : Dissection) : Prop where
  front_closes : depthAfter? depth d.front = some 0
  sound : ∀ p ∈ d.pieces, p.IsSound
  complete : ∀ before, ShowsPassAt depth d.name before →
    ∃ ps p qs, d.pieces = ps ++ p :: qs ∧ before = name ⟨d.front, ps⟩

end Dissection

namespace Dissection

theorem name_cons (front : Text) (p : Piece) (ps : List Piece) :
    name ⟨front, p :: ps⟩ = front ++ (p.clause.text ++ name ⟨p.behind, ps⟩) := by
  simp [name, Piece.text]

theorem kept_cons (front : Text) (p : Piece) (ps : List Piece) :
    kept ⟨front, p :: ps⟩ = front ++ kept ⟨p.behind, ps⟩ := rfl

variable {depth : Nat} {c : Char} {t : Text} {d : Dissection}

/-- A character at which no pass segment begins is kept. -/
theorem IsExact.keep (h : d.IsExact (depthBehind depth c)) (hdepth : c = ']' → depth ≠ 0)
    (hplain : ¬ShowsPassAt depth (c :: d.name) []) :
    IsExact depth ⟨c :: d.front, d.pieces⟩ := by
  refine ⟨by rw [depthAfter?_cons hdepth, h.front_closes], h.sound, fun before hbefore => ?_⟩
  cases before with
  | nil => exact absurd hbefore hplain
  | cons e before =>
    obtain ⟨after, htext, _⟩ := id hbefore
    obtain ⟨rfl, _⟩ := List.cons.inj htext
    have hone : depthAfter? depth [c] = some (depthBehind depth c) := by
      rw [depthAfter?_cons hdepth]
      rfl
    obtain ⟨ps, p, qs, hpieces, rfl⟩ := h.complete before
      ((showsPassAt_append_iff (a := [c]) hone).1 hbefore)
    exact ⟨ps, p, qs, hpieces, rfl⟩

/-- A pass segment is cut off at the end of its clause. -/
theorem IsExact.cut {k : Keyword} {c : Clause} (h : d.IsExact 0) (hc : c.IsWritten)
    (hend : c.EndsBefore d.name) (hk : sameLetters c.word k.word.toList) :
    IsExact 0 ⟨[], ⟨k, c, d.front⟩ :: d.pieces⟩ := by
  have hfront : c.EndsBefore d.front := by
    intro hnone a ha
    exact hend hnone a (List.mem_head?_append_of_mem_head? ha)
  refine ⟨rfl, List.forall_mem_cons.2 ⟨⟨hk, hc, hfront, ?_⟩, h.sound⟩, fun before hbefore => ?_⟩
  · exact balanced_iff.2 h.front_closes
  · rw [name_cons, List.nil_append] at hbefore
    rcases hbefore.of_clause hc with rfl | ⟨behind, rfl, hbehind⟩
    · exact ⟨[], _, d.pieces, rfl, rfl⟩
    · obtain ⟨ps, p, qs, hpieces, rfl⟩ := h.complete behind hbehind
      refine ⟨⟨k, c, d.front⟩ :: ps, p, qs, by rw [hpieces]; rfl, ?_⟩
      rw [name_cons, List.nil_append]

end Dissection

/-- Every text that closes its brackets has an exact dissection, which gives what is scanned. -/
theorem exists_dissection (depth : Nat) (t : Text) (h : depthAfter? depth t = some 0) :
    ∃ d : Dissection, d.IsExact depth ∧ d.name = t ∧ scanPassesFrom depth t = d.scan := by
  fun_induction scanPassesFrom depth t with
  | case1 depth =>
    refine ⟨⟨[], []⟩, ⟨h, by simp, fun before hbefore => ?_⟩, rfl, rfl⟩
    obtain ⟨after, htext, _⟩ := hbefore
    simp [Dissection.name] at htext
  | case2 depth c t hcolon k hk _ ih =>
    simp only [Bool.and_eq_true, decide_eq_true_eq] at hcolon
    obtain ⟨rfl, rfl⟩ := hcolon
    rw [depthAfter?_cons (by decide)] at h
    obtain ⟨clause, rest, rfl, hclause, hend, hrest⟩ := Clause.exists_of_balanced (balanced_iff.2 h)
    rw [hclause.takeWhile_word hend] at hk
    rw [hclause.dropWhile_word hend, Keyword.complete_eq hclause hend] at ih ⊢
    obtain ⟨d, hd, rfl, hscan⟩ := ih (balanced_iff.1 hrest)
    refine ⟨_, hd.cut hclause hend (Keyword.ofWord?_eq_some_iff.1 hk), ?_, ?_⟩
    · rw [Dissection.name_cons, List.nil_append, Clause.text_append]
    · rw [hscan]
      rfl
  | case3 depth c t hcolon hnone ih =>
    simp only [Bool.and_eq_true, decide_eq_true_eq] at hcolon
    obtain ⟨rfl, rfl⟩ := hcolon
    rw [depthAfter?_cons (by decide)] at h
    obtain ⟨d, hd, rfl, hscan⟩ := ih h
    have hd : d.IsExact (depthBehind 0 ':') := hd
    refine ⟨_, hd.keep (by decide) ?_, rfl, by rw [hscan]; rfl⟩
    rintro ⟨after, htext, _, k, hk⟩
    obtain ⟨_, rfl⟩ := List.cons.inj htext
    rw [Keyword.ofWord?_eq_some_iff.2 hk] at hnone
    exact absurd hnone (by simp)
  | case4 depth c t hother ih =>
    have hdepth := ne_zero_of_depthAfter? (by rw [h]; rfl)
    rw [depthAfter?_cons hdepth] at h
    obtain ⟨d, hd, rfl, hscan⟩ := ih h
    refine ⟨_, hd.keep hdepth ?_, rfl, by rw [hscan]; rfl⟩
    rintro ⟨after, htext, hzero, _⟩
    obtain ⟨rfl, _⟩ := List.cons.inj htext
    obtain rfl := Option.some.inj hzero
    exact hother (by simp)

namespace Dissection

variable {d : Dissection} {before after t inner front : Text} {ps : List Piece} {p : Piece}

/-! ## What becomes of the pieces -/

theorem passes_scan (d : Dissection) : d.scan.passes = d.pieces.filterMap Piece.pass? := by
  rw [PassScan.passes, scan, List.filterMap_map]
  refine List.filterMap_congr fun p _ => ?_
  simp only [Function.comp_apply, Keyword.reading, Piece.pass?]
  cases p.keyword.pass? p.clause.content <;> rfl

theorem malformed_scan (d : Dissection) :
    d.scan.malformed = d.pieces.filterMap Piece.malformed? := by
  rw [PassScan.malformed, scan, List.filterMap_map]
  refine List.filterMap_congr fun p _ => ?_
  rw [Function.comp_apply, Keyword.reading, Piece.malformed?, Piece.pass?]
  cases hpass : p.keyword.pass? p.clause.content <;> simp

theorem IsExact.balanced_front (h : d.IsExact 0) : balanced d.front :=
  balanced_iff.2 h.front_closes

theorem IsExact.balanced_kept (h : d.IsExact 0) : balanced d.kept := by
  rw [kept, balanced_append_iff h.balanced_front]
  exact balanced_flatMap fun p hp => (h.sound p hp).balanced

theorem balanced_flatMap_text (h : ∀ p ∈ ps, p.IsSound) : balanced (ps.flatMap Piece.text) := by
  refine balanced_flatMap fun p hp => ?_
  rw [Piece.text, balanced_append_iff (h p hp).written.balanced_text]
  exact (h p hp).balanced

/-- Pieces begin with a colon, so that a clause that ends in front of a text ends there as well if
pieces follow. -/
theorem endsBefore_append {c : Clause} (h : c.EndsBefore t) (ps : List Piece) :
    c.EndsBefore (t ++ ps.flatMap Piece.text) := by
  intro hnone a ha
  cases t with
  | nil =>
    cases ps with
    | nil => exact absurd ha (by simp)
    | cons p ps =>
      obtain rfl := Option.some.inj ha
      decide
  | cons b t => exact h hnone a ha

/-- Pass segments begin at the places of the pieces, and nowhere else. -/
theorem IsExact.showsPassAt_iff (h : d.IsExact 0) :
    ShowsPassAt 0 d.name before ↔
      ∃ ps p qs, d.pieces = ps ++ p :: qs ∧ before = name ⟨d.front, ps⟩ := by
  refine ⟨h.complete before, ?_⟩
  rintro ⟨ps, p, qs, hpieces, rfl⟩
  have hsound : ∀ q ∈ ps ++ p :: qs, q.IsSound := hpieces ▸ h.sound
  have hp := hsound p (by simp)
  have hbefore : balanced (name ⟨d.front, ps⟩) := by
    rw [name, balanced_append_iff h.balanced_front]
    exact balanced_flatMap_text fun q hq => hsound q (List.mem_append_left _ hq)
  have hname : d.name = name ⟨d.front, ps⟩ ++ (p.clause.text ++ (p.behind ++
      qs.flatMap Piece.text)) := by
    simp [name, hpieces, Piece.text]
  refine ⟨_, by rw [hname, Clause.text_append], balanced_iff.1 hbefore, p.keyword, ?_⟩
  rw [hp.written.takeWhile_word (endsBefore_append hp.ends qs)]
  exact hp.spelled

/-- The text `t` that stands in the name behind `before` is part of a pass segment. -/
def Removes (d : Dissection) (before t : Text) : Prop :=
  ∃ ps p qs u v, d.pieces = ps ++ p :: qs ∧ before = name ⟨d.front, ps⟩ ++ u ∧
    p.clause.text = u ++ (t ++ v)

/-- The text `t` that stands in the name behind `before` is left as it is: up to where the next
pass segment begins, the name and what is left of it end alike. -/
def Keeps (d : Dissection) (before t : Text) : Prop :=
  ∃ ps qs u v, d.pieces = ps ++ qs ∧ name ⟨d.front, ps⟩ = before ++ (t ++ v) ∧
    kept ⟨d.front, ps⟩ = u ++ (t ++ v)

theorem Removes.cons (h : Removes ⟨p.behind, ps⟩ before t) (front : Text) :
    Removes ⟨front, p :: ps⟩ (front ++ (p.clause.text ++ before)) t := by
  obtain ⟨as, q, bs, u, v, hpieces, rfl, htext⟩ := h
  refine ⟨p :: as, q, bs, u, v, congrArg (p :: ·) hpieces, ?_, htext⟩
  rw [name_cons, List.append_assoc, List.append_assoc]

theorem Keeps.cons (h : Keeps ⟨p.behind, ps⟩ before t) (front : Text) :
    Keeps ⟨front, p :: ps⟩ (front ++ (p.clause.text ++ before)) t := by
  obtain ⟨as, bs, u, v, hpieces, hname, hkept⟩ := h
  refine ⟨p :: as, bs, front ++ u, v, congrArg (p :: ·) hpieces, ?_, ?_⟩
  · rw [name_cons, hname, List.append_assoc, List.append_assoc]
  · rw [kept_cons, hkept, List.append_assoc]

/-- A bracket group belongs to a pass segment, or it is left as it is. -/
theorem removes_or_keeps (hps : ∀ p ∈ ps, p.IsSound) (hfront : balanced front)
    (hinner : balanced inner)
    (h : name ⟨front, ps⟩ = before ++ (bracketed (some inner) ++ after)) :
    Removes ⟨front, ps⟩ before (bracketed (some inner)) ∨
      Keeps ⟨front, ps⟩ before (bracketed (some inner)) := by
  induction ps generalizing front before with
  | nil =>
    rw [name, List.flatMap_nil, List.append_nil] at h
    exact .inr ⟨[], [], before, after, rfl, by simpa [name] using h, by simpa [kept] using h⟩
  | cons p ps ih =>
    obtain ⟨hp, hrest⟩ := List.forall_mem_cons.1 hps
    rw [name_cons] at h
    rcases group_cases hfront hinner h with ⟨v, rfl⟩ | ⟨mid, rfl, hmid⟩
    · exact .inr ⟨[], p :: ps, before, v, rfl, List.append_nil _, List.append_nil _⟩
    rcases group_cases hp.written.balanced_text hinner hmid with ⟨v, hv⟩ | ⟨more, rfl, hmore⟩
    · exact .inl ⟨[], p, ps, mid, v, rfl, by simp [name], hv⟩
    · exact (ih hrest hp.balanced hmore).imp (Removes.cons · front) (Keeps.cons · front)

end Dissection

/-! ## Scanning a balanced name -/

/-- What a scan takes out of a balanced name are its pass segments, all of them and nothing else:
the name can be cut into pieces, at the colons outside of brackets behind which a keyword stands, so
that what is left is what stands between the segments, the segments are told in their order by what
they say, and every bracket group belongs to a segment or is left as it is. -/
theorem scanPasses_dissects {name : Text} (h : balanced name) :
    ∃ d : Dissection, d.IsExact 0 ∧ d.name = name ∧ (scanPasses name).stripped = d.kept ∧
      (scanPasses name).count = d.pieces.length ∧
      (scanPasses name).passes = d.pieces.filterMap Piece.pass? ∧
      (scanPasses name).malformed = d.pieces.filterMap Piece.malformed? ∧
      (∀ before, ShowsPassAt 0 name before ↔
        ∃ ps p qs, d.pieces = ps ++ p :: qs ∧ before = Dissection.name ⟨d.front, ps⟩) ∧
      (∀ before inner after, name = before ++ (bracketed (some inner) ++ after) → balanced inner →
        d.Removes before (bracketed (some inner)) ∨ d.Keeps before (bracketed (some inner))) ∧
      balanced (scanPasses name).stripped := by
  obtain ⟨d, hd, rfl, hscan⟩ := exists_dissection 0 name (balanced_iff.1 h)
  rw [scanPasses, hscan]
  refine ⟨d, hd, rfl, rfl, ?_, d.passes_scan, d.malformed_scan, fun _ => hd.showsPassAt_iff, ?_,
    hd.balanced_kept⟩
  · rw [PassScan.count, Dissection.scan, List.length_map]
  · exact fun before inner after hname hinner =>
      Dissection.removes_or_keeps hd.sound hd.balanced_front hinner hname

/-- A name with three pass segments, of which the last is malformed; what looks like another one
stands in brackets, and a longer word is none. -/
def threePasses : Text := "@PART:HAS[@M:FOR[x]]:first:LAST[ Mod ]:After:FORWARD".toList

theorem scanPasses_dissects_threePasses :
    balanced threePasses ∧
    (scanPasses threePasses).stripped = "@PART:HAS[@M:FOR[x]]:FORWARD".toList ∧
    ∃ d : Dissection, d.IsExact 0 ∧ d.name = threePasses ∧ d.pieces.length = 3 ∧
      d.kept = "@PART:HAS[@M:FOR[x]]:FORWARD".toList ∧
      d.pieces.filterMap Piece.pass? = [.first, .mod .last "Mod".toList] ∧
      d.pieces.filterMap Piece.malformed? = [.phase .after] := by
  have hbalanced : balanced threePasses := by decide +kernel
  have hstripped : (scanPasses threePasses).stripped = "@PART:HAS[@M:FOR[x]]:FORWARD".toList := by
    decide +kernel
  obtain ⟨d, hd, hname, hkept, hcount, hpasses, hmalformed, _⟩ :=
    scanPasses_dissects hbalanced
  refine ⟨hbalanced, hstripped, d, hd, hname, ?_, ?_, ?_, ?_⟩
  · rw [← hcount]
    decide +kernel
  · rw [← hkept, hstripped]
  · rw [← hpasses]
    decide +kernel
  · rw [← hmalformed]
    decide +kernel

end CfgPatch
