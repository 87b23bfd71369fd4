import CfgPatch.Proofs.Dissection
import CfgPatch.Proofs.Extraction

/-!
# Scanning a stripped name again

Taking the pass segments out of a name brings together what stood on either side of them. If
letters meet there (`Dissection.Joins`), they can spell a keyword that was not in the name, and a
second scan finds a pass segment; this is the only way for it to find any
(`Dissection.IsExact.shows_kept_iff`). Letters meet only behind a segment with a bracket group,
since behind any other the letters end by themselves.
-/

namespace CfgPatch

open Text Brackets

/-! ## Names without pass segments -/

/-- A balanced text is left as it is by a scan if no pass segment begins in it. -/
theorem scanPasses_eq_self_iff {t : Text} (h : balanced t) :
    scanPasses t = ⟨t, []⟩ ↔ ∀ before, ¬ShowsPassAt 0 t before := by
  obtain ⟨⟨front, pieces⟩, hd, rfl, hscan⟩ := exists_dissection 0 t (balanced_iff.1 h)
  rw [scanPasses, hscan]
  cases pieces with
  | nil =>
    have hname : Dissection.name ⟨front, []⟩ = Dissection.kept ⟨front, []⟩ := rfl
    rw [hname]
    refine iff_of_true rfl fun before hbefore => ?_
    obtain ⟨ps, p, qs, hpieces, _⟩ := hd.showsPassAt_iff.1 hbefore
    simp at hpieces
  | cons p ps =>
    refine iff_of_false (by simp [Dissection.scan]) fun hnone => ?_
    exact hnone _ (hd.showsPassAt_iff.2 ⟨[], p, ps, rfl, rfl⟩)

/-- The scan of a balanced text that finds no segment leaves the text as it is. -/
theorem scanPasses_eq_self_of_count {t : Text} (h : balanced t)
    (hcount : (scanPasses t).count = 0) : scanPasses t = ⟨t, []⟩ := by
  obtain ⟨⟨front, pieces⟩, _, rfl, hscan⟩ := exists_dissection 0 t (balanced_iff.1 h)
  rw [scanPasses, hscan, PassScan.count, Dissection.scan, List.length_map,
    List.length_eq_zero_iff] at hcount
  obtain rfl : pieces = [] := hcount
  rw [scanPasses, hscan]
  rfl

namespace Dissection

variable {d : Dissection} {front before after t : Text} {p : Piece} {ps : List Piece}

/-! ## Letters that meet -/

/-- Taking out the pass segments joins letters to a keyword: behind a colon outside of brackets
stand the last letters of what is kept so far, perhaps none, and with the first letters of what is
kept from there on they spell a keyword. -/
def Joins (d : Dissection) : Prop :=
  ∃ ps qs before word, d.pieces = ps ++ qs ∧ kept ⟨d.front, ps⟩ = before ++ ':' :: word ∧
    depthAfter? 0 before = some 0 ∧ (∀ c ∈ word, c.isAlpha) ∧
    (qs.flatMap Piece.behind).takeWhile Char.isAlpha ≠ [] ∧
    ∃ k : Keyword,
      sameLetters (word ++ (qs.flatMap Piece.behind).takeWhile Char.isAlpha) k.word.toList

theorem Joins.cons (hfront : balanced front) (h : Joins ⟨p.behind, ps⟩) :
    Joins ⟨front, p :: ps⟩ := by
  obtain ⟨as, bs, before, word, hpieces, hkept, hdepth, hspelled⟩ := h
  refine ⟨p :: as, bs, front ++ before, word, congrArg (p :: ·) hpieces, ?_, ?_, hspelled⟩
  · rw [kept_cons, hkept, List.append_assoc]
  · rwa [depthAfter?_append_of_balanced hfront]

/-- What stands behind the first segment of a name is cut as it is in the name. -/
theorem IsExact.tail (h : IsExact 0 ⟨front, p :: ps⟩) : IsExact 0 ⟨p.behind, ps⟩ := by
  obtain ⟨hp, hps⟩ := List.forall_mem_cons.1 h.sound
  refine ⟨balanced_iff.1 hp.balanced, hps, fun before hbefore => ?_⟩
  have hclause : depthAfter? 0 (front ++ p.clause.text) = some 0 := by
    rw [depthAfter?_append_of_balanced h.balanced_front]
    exact balanced_iff.1 hp.written.balanced_text
  have hwhole := (showsPassAt_append_iff hclause).2 hbefore
  rw [List.append_assoc, ← name_cons] at hwhole
  obtain ⟨as, q, bs, hpieces, hplace⟩ := h.complete _ hwhole
  cases as with
  | nil =>
    have hlength := congrArg List.length hplace
    simp [name, Clause.text] at hlength
  | cons a as =>
    obtain ⟨rfl, rfl⟩ := List.cons.inj hpieces
    rw [name_cons, List.append_assoc] at hplace
    exact ⟨as, q, bs, rfl, List.append_cancel_left (List.append_cancel_left hplace)⟩

/-- The letters at the front of two texts together are those of the first, unless the first has
nothing but letters and more follow in the second. -/
theorem takeWhile_isAlpha_append {a b : Text}
    (h : ¬((∀ c ∈ a, c.isAlpha) ∧ b.takeWhile Char.isAlpha ≠ [])) :
    (a ++ b).takeWhile Char.isAlpha = a.takeWhile Char.isAlpha := by
  by_cases hall : ∀ c ∈ a, c.isAlpha
  · have hb : b.takeWhile Char.isAlpha = [] := by
      by_contra hne
      exact h ⟨hall, hne⟩
    rw [List.takeWhile_append_of_pos hall, hb, List.append_nil, List.takeWhile_eq_self_iff.2 hall]
  · have hshort : (a.takeWhile Char.isAlpha).length ≠ a.length := fun hlength =>
      hall (List.takeWhile_eq_self_iff.1 ((List.takeWhile_sublist _).eq_of_length hlength))
    rw [List.takeWhile_append, if_neg hshort]

/-- In a text that is kept no keyword begins that ends in front of the next segment. -/
theorem IsExact.meets {word : Text} (h : IsExact 0 ⟨before ++ ':' :: word, p :: ps⟩)
    (hshows : ShowsPassAt 0 (kept ⟨before ++ ':' :: word, p :: ps⟩) before) :
    (∀ c ∈ word, c.isAlpha) ∧ (kept ⟨p.behind, ps⟩).takeWhile Char.isAlpha ≠ [] := by
  by_contra hends
  obtain ⟨after, htext, hdepth, k, hk⟩ := hshows
  rw [kept_cons, List.append_assoc] at htext
  obtain ⟨_, rfl⟩ := List.cons.inj (List.append_cancel_left htext)
  have hname : name ⟨before ++ ':' :: word, p :: ps⟩ =
      before ++ ':' :: (word ++ (p.clause.text ++ name ⟨p.behind, ps⟩)) := by
    rw [name_cons, List.append_assoc]
    rfl
  -- the keyword is in the name as well, so that a segment would begin in front of the first one
  have hclause : ¬((∀ c ∈ word, c.isAlpha) ∧
      (p.clause.text ++ name ⟨p.behind, ps⟩).takeWhile Char.isAlpha ≠ []) := by
    rintro ⟨_, hne⟩
    exact hne (List.takeWhile_cons_of_neg (by decide))
  rw [List.append_eq, takeWhile_isAlpha_append hends, ← takeWhile_isAlpha_append hclause] at hk
  obtain ⟨as, q, bs, _, hplace⟩ := h.complete before ⟨_, hname, hdepth, k, hk⟩
  have hlength := congrArg List.length hplace
  simp [name] at hlength

/-- A keyword that begins in what is kept is one that the name did not have. -/
theorem IsExact.joins_of_shows (h : d.IsExact 0) (hshows : ShowsPassAt 0 d.kept before) :
    d.Joins := by
  obtain ⟨front, pieces⟩ := d
  induction pieces generalizing front before with
  | nil =>
    have hname : kept ⟨front, []⟩ = name ⟨front, []⟩ := rfl
    rw [hname] at hshows
    obtain ⟨ps, p, qs, hpieces, _⟩ := h.complete before hshows
    simp at hpieces
  | cons p ps ih =>
    have hbehind : ∀ mid, before = front ++ mid → Joins ⟨front, p :: ps⟩ := by
      rintro mid rfl
      rw [kept_cons, showsPassAt_append_iff h.front_closes] at hshows
      exact (ih p.behind h.tail hshows).cons h.balanced_front
    obtain ⟨after, htext, hdepth, k, hk⟩ := id hshows
    rw [kept_cons] at htext
    rcases List.append_eq_append_iff.1 htext with ⟨mid, hmid, _⟩ | ⟨mid, rfl, hafter⟩
    · exact hbehind mid hmid
    · cases mid with
      | nil => exact hbehind [] (by simp)
      | cons c word =>
        obtain ⟨rfl, rfl⟩ := List.cons.inj hafter
        obtain ⟨hword, hmore⟩ := h.meets hshows
        refine ⟨[], p :: ps, before, word, rfl, List.append_nil _, hdepth, hword, hmore, k, ?_⟩
        rwa [List.append_eq, List.takeWhile_append_of_pos hword] at hk

theorem Joins.exists_shows (h : d.Joins) : ∃ before, ShowsPassAt 0 d.kept before := by
  obtain ⟨ps, qs, before, word, hpieces, hkept, hdepth, hword, _, k, hk⟩ := h
  have hwhole : d.kept = before ++ ':' :: (word ++ qs.flatMap Piece.behind) := by
    have hsplit : d.kept = kept ⟨d.front, ps⟩ ++ qs.flatMap Piece.behind := by
      simp [kept, hpieces]
    rw [hsplit, hkept, List.append_assoc]
    rfl
  refine ⟨before, _, hwhole, hdepth, k, ?_⟩
  rwa [List.takeWhile_append_of_pos hword]

/-- What is kept shows a pass segment if and only if letters meet and spell a keyword. -/
theorem IsExact.shows_kept_iff (h : d.IsExact 0) :
    (∃ before, ShowsPassAt 0 d.kept before) ↔ d.Joins :=
  ⟨fun ⟨_, hshows⟩ => h.joins_of_shows hshows, Joins.exists_shows⟩

/-- What is kept of some pieces begins with no letter if the texts behind their segments do not. -/
theorem takeWhile_flatMap_behind {qs : List Piece}
    (h : ∀ q ∈ qs, ∀ c ∈ q.behind.head?, ¬c.isAlpha) :
    (qs.flatMap Piece.behind).takeWhile Char.isAlpha = [] := by
  induction qs with
  | nil => rfl
  | cons q qs ih =>
    obtain ⟨hq, hrest⟩ := List.forall_mem_cons.1 h
    rw [List.flatMap_cons]
    cases hbehind : q.behind with
    | nil => exact ih hrest
    | cons c t => exact List.takeWhile_cons_of_neg (hq c (by rw [hbehind]; rfl))

/-- No letters meet if none stands directly behind the bracket group of a segment. -/
theorem not_joins_of_forall (hsound : ∀ p ∈ d.pieces, p.IsSound)
    (h : ∀ p ∈ d.pieces, p.clause.content.isSome → ∀ c ∈ p.behind.head?, ¬c.isAlpha) :
    ¬d.Joins := by
  rintro ⟨ps, qs, _, _, hpieces, _, _, _, hne, _⟩
  refine hne (takeWhile_flatMap_behind fun q hq c hc => ?_)
  have hmem : q ∈ d.pieces := hpieces ▸ List.mem_append_right _ hq
  cases hcontent : q.clause.content with
  | none => exact ((hsound q hmem).ends hcontent c hc).1
  | some inner => exact h q hmem (by rw [hcontent]; rfl) c hc

/-- What is kept is left as it is by a second scan if no letters meet. -/
theorem IsExact.scanPasses_kept_iff (h : d.IsExact 0) :
    scanPasses d.kept = ⟨d.kept, []⟩ ↔ ¬d.Joins := by
  rw [scanPasses_eq_self_iff h.balanced_kept, ← h.shows_kept_iff, not_exists]

end Dissection

/-! ## The names of directives -/

variable {l : Listener}

/-- A second scan finds no pass segment in what the first has left of a balanced name if and only if
no letters have met to spell a keyword, as they never have if none stands directly behind the
bracket group of a segment. The same goes for the names of the directives on the agenda. -/
theorem rescan_clean_iff (hl : l.NeverFails) (mods : List Text) (cat : Catalog) (j : Journal) :
    (∀ name, balanced name → ∃ d : Dissection, d.IsExact 0 ∧ d.name = name ∧
      (scanPasses name).stripped = d.kept ∧
      (scanPasses (scanPasses name).stripped = ⟨(scanPasses name).stripped, []⟩ ↔ ¬d.Joins) ∧
      ((∀ p ∈ d.pieces, p.clause.content.isSome → ∀ c ∈ p.behind.head?, ¬c.isAlpha) →
        ¬d.Joins)) ∧
    ∃ x, extract l mods cat j = .ok x ∧ ∀ p ∈ x.agenda.contents,
      ∃ id entry, ∃ d : Dissection, cat.get? id = some entry ∧ d.IsExact 0 ∧
        d.name = entry.node.name ∧ p.2.node.name = d.kept ∧
        ((scanPasses p.2.node.name).count = 0 ↔ ¬d.Joins) := by
  constructor
  · intro name hname
    obtain ⟨d, hd, rfl, hscan⟩ := exists_dissection 0 name (balanced_iff.1 hname)
    have hkept : (scanPasses d.name).stripped = d.kept := congrArg PassScan.stripped hscan
    rw [hkept]
    exact ⟨d, hd, rfl, rfl, hd.scanPasses_kept_iff, Dissection.not_joins_of_forall hd.sound⟩
  · refine ⟨_, extract_eq hl mods cat j, fun p hp => ?_⟩
    obtain ⟨⟨id, entry⟩, hmem, hadmits⟩ := List.mem_filterMap.1
      ((Agenda.contents_perm (cat.sound_agenda mods)).mem_iff.1 hp)
    have hnode := (Agenda.isMadeFrom_of_admit? hadmits).2.2
    have hbalanced := (Entry.isDirective_iff.1 (Agenda.of_admit? hadmits).1).1
    obtain ⟨d, hd, hdname, hscan⟩ := exists_dissection 0 entry.node.name (balanced_iff.1 hbalanced)
    have hkept : p.2.node.name = d.kept := by
      rw [hnode]
      exact congrArg PassScan.stripped hscan
    refine ⟨id, entry, d, Catalog.mem_entries.1 hmem, hd, hdname, hkept, ?_⟩
    rw [hkept, ← hd.scanPasses_kept_iff]
    exact ⟨scanPasses_eq_self_of_count hd.balanced_kept, fun hself => by rw [hself]; rfl⟩

/-- A directive with a pass segment in the middle of a word. -/
def splitKeyword : Text := "@PART:FI:FOR[x]RST".toList

/-- A catalog with that directive alone. -/
def splitKeywordOnly : Catalog :=
  .ofEntries ["a.cfg".toList] [⟨0, splitKeyword, none, [], []⟩]

/-- The letters on either side of the segment meet and spell a keyword. -/
theorem rescan_clean_iff_splitKeyword :
    Listener.calm.NeverFails ∧ balanced splitKeyword ∧
    (∃ d : Dissection, d.IsExact 0 ∧ d.name = splitKeyword ∧ d.Joins) ∧
    ∃ x, extract .calm ["x".toList] splitKeywordOnly .empty = .ok x ∧
      x.agenda.contents.map (·.2.node.name) = ["@PART:FIRST".toList] := by
  have hbalanced : balanced splitKeyword := by decide +kernel
  obtain ⟨hnames, x, hx, hdirectives⟩ := rescan_clean_iff Listener.calm_neverFails ["x".toList]
    splitKeywordOnly .empty
  obtain ⟨d, hd, hname, _, hclean, _⟩ := hnames splitKeyword hbalanced
  refine ⟨Listener.calm_neverFails, hbalanced, ⟨d, hd, hname, ?_⟩, x, hx, ?_⟩
  · have hfinds : scanPasses (scanPasses splitKeyword).stripped ≠
        ⟨(scanPasses splitKeyword).stripped, []⟩ := by decide +kernel
    exact not_not.1 (mt hclean.2 hfinds)
  · obtain rfl := Except.ok.inj ((extract_eq Listener.calm_neverFails _ _ _).symm.trans hx)
    decide +kernel

/-- It is not so that a second scan never finds anything, nor that no directive on the agenda shows
a pass segment in its name. -/
theorem rescan_not_always_clean :
    (¬∀ name, balanced name → (scanPasses (scanPasses name).stripped).count = 0 ∧
      (scanPasses (scanPasses name).stripped).stripped = (scanPasses name).stripped) ∧
    ¬∀ x, extract .calm ["x".toList] splitKeywordOnly .empty = .ok x →
      ∀ p ∈ x.agenda.contents, (scanPasses p.2.node.name).count = 0 := by
  constructor
  · intro h
    exact absurd (h splitKeyword (by decide +kernel)).1 (by decide +kernel)
  · intro h
    have hfinds : ¬∀ p ∈ (splitKeywordOnly.agenda ["x".toList]).contents,
        (scanPasses p.2.node.name).count = 0 := by decide +kernel
    exact hfinds (h _ (extract_eq Listener.calm_neverFails _ _ _))

end CfgPatch
