import CfgPatch.Proofs.HeaderGrammar

/-!
# Partners of brackets

The partner of an open bracket stands where the text from the bracket on is balanced for the first
time. Looking for it means counting open brackets up to a place where none is left, and that place
is the partner (`closingByte?_eq_some_iff`); there is none if and only if no text from the bracket on
is balanced. In a balanced text every open bracket has a partner, so that what the reader of headers
and the scanner of passes keep ready for a bracket that nothing closes is never of use there: the
reader never complains of such a bracket, and the scanner gives the same whatever it were to do with
one (`scanPassesOr_of_balanced`).
-/

namespace CfgPatch

/-! ## Slices -/

namespace Text

variable {t s a b a' b' : Text} {start stop : Nat}

theorem utf8Length_le_of_isPrefix (h : s <+: t) : utf8Length s ≤ utf8Length t := by
  obtain ⟨rest, rfl⟩ := h
  rw [utf8Length_append]
  exact Nat.le_add_right _ _

/-- From the byte `start` up to the byte `stop` the text `t` is the text `s`. -/
def IsSlice (t : Text) (start stop : Nat) (s : Text) : Prop :=
  ∃ front back, t = front ++ (s ++ back) ∧ utf8Length front = start ∧ start + utf8Length s = stop

/-- A text has only one cut at each byte. -/
theorem append_inj_of_utf8Length (h : a ++ b = a' ++ b') (hlength : utf8Length a = utf8Length a') :
    a = a' ∧ b = b' := by
  have hnil : ∀ {u v : Text}, utf8Length (u ++ v) = utf8Length u → v = [] := by
    intro u v huv
    by_contra hne
    have hpos := utf8Length_pos hne
    rw [utf8Length_append] at huv
    omega
  rcases List.append_eq_append_iff.1 h with ⟨mid, rfl, rfl⟩ | ⟨mid, rfl, rfl⟩
  · obtain rfl := hnil hlength.symm
    simp
  · obtain rfl := hnil hlength
    simp

/-- The slices behind a text are what the text behind it begins with. -/
theorem isSlice_append_iff :
    IsSlice (a ++ b) (utf8Length a) stop s ↔ s <+: b ∧ utf8Length a + utf8Length s = stop := by
  constructor
  · rintro ⟨front, back, htext, hfront, hstop⟩
    obtain ⟨_, rfl⟩ := append_inj_of_utf8Length htext hfront.symm
    exact ⟨List.prefix_append s back, hstop⟩
  · rintro ⟨⟨back, rfl⟩, hstop⟩
    exact ⟨a, back, rfl, rfl, hstop⟩

end Text

open Text

namespace Brackets

variable {t front back inner rest group : Text} {start stop : Nat}

/-! ## The bracket that closes another -/

/-- The text from the byte `start` on, the byte `stop` included, is balanced. -/
def IsBalancedThrough (t : Text) (start stop : Nat) : Prop :=
  start ≤ stop ∧ ∃ s, IsSlice t start (stop + 1) s ∧ balanced s

/-- Looking for the partner of a bracket comes to the same as cutting off its group. -/
theorem closingByte?_append (front back : Text) :
    closingByte? (front ++ '[' :: back) (utf8Length front) =
      (group? ('[' :: back)).map fun g => utf8Length front + (1 + utf8Length g.1) := by
  have hopen : close? 0 ('[' :: back) =
      (group? ('[' :: back)).map fun g => ('[' :: g.1, g.2) := rfl
  rw [closingByte?, dropBytes_utf8Length, hopen, Option.map_map]
  rfl

theorem utf8Length_bracketed (inner : Text) :
    utf8Length (bracketed (some inner)) = utf8Length inner + 2 := by
  have hbrackets : ('[').utf8Size = 1 ∧ (']').utf8Size = 1 := by decide
  simp only [bracketed, utf8Length_cons, utf8Length_append, utf8Length_nil, hbrackets.1,
    hbrackets.2]
  omega

/-- A balanced text that begins as a bracket group does begins with the whole group. -/
theorem isPrefix_of_balanced (hinner : balanced inner) (hgroup : balanced group) (hne : group ≠ [])
    (h : group <+: bracketed (some inner) ++ rest) : bracketed (some inner) <+: group := by
  obtain ⟨back, hback⟩ := h
  have hback : group ++ back = [] ++ (bracketed (some inner) ++ rest) := hback
  rcases group_cases hgroup hinner hback with ⟨more, rfl⟩ | ⟨mid, hmid, _⟩
  · exact List.prefix_append _ more
  · exact absurd (List.append_eq_nil_iff.1 hmid.symm).1 hne

/-- What stands behind a text is balanced through a byte if a balanced text ends there. -/
theorem isBalancedThrough_append_iff :
    IsBalancedThrough (front ++ back) (utf8Length front) stop ↔ ∃ group, group <+: back ∧
      group ≠ [] ∧ balanced group ∧ utf8Length front + utf8Length group = stop + 1 := by
  simp only [IsBalancedThrough, isSlice_append_iff]
  constructor
  · rintro ⟨hle, group, ⟨hfrom, hstop⟩, hbalanced⟩
    refine ⟨group, hfrom, ?_, hbalanced, hstop⟩
    rintro rfl
    rw [utf8Length_nil] at hstop
    omega
  · rintro ⟨group, hfrom, hne, hbalanced, hstop⟩
    have hpos := utf8Length_pos hne
    exact ⟨by omega, group, ⟨hfrom, hstop⟩, hbalanced⟩

/-- What is cut off as the group of a bracket ends where the text from the bracket on is balanced
for the first time. -/
theorem isLeast_of_group? (h : group? back = some (inner, rest)) :
    IsLeast {stop | IsBalancedThrough (front ++ back) (utf8Length front) stop}
      (utf8Length front + (1 + utf8Length inner)) := by
  obtain ⟨hinner, rfl⟩ := eq_bracketed_of_group? h
  have hlength := utf8Length_bracketed inner
  constructor
  · refine isBalancedThrough_append_iff.2 ⟨bracketed (some inner), List.prefix_append _ rest,
      List.cons_ne_nil _ _, balanced_bracketed hinner, ?_⟩
    omega
  · intro stop hstop
    obtain ⟨group, hfrom, hne, hgroup, hstop⟩ := isBalancedThrough_append_iff.1 hstop
    have hle := utf8Length_le_of_isPrefix
      (isPrefix_of_balanced (hinner inner rfl) hgroup hne hfrom)
    omega

/-- A bracket has a group if some text from it on is balanced. -/
theorem exists_group?_of_isBalancedThrough
    (h : IsBalancedThrough (front ++ '[' :: back) (utf8Length front) stop) :
    ∃ inner rest, group? ('[' :: back) = some (inner, rest) := by
  obtain ⟨group, ⟨more, hmore⟩, hne, hgroup, _⟩ := isBalancedThrough_append_iff.1 h
  have hhead : group.head? = some '[' := by
    rw [← List.head?_append_of_ne_nil group hne, hmore]
    rfl
  obtain ⟨inner, rest, hcut⟩ := exists_group?_of_balanced hgroup hhead
  have htext := eq_append_of_group? hcut
  refine ⟨inner, rest ++ more, ?_⟩
  rw [← hmore, htext]
  simpa using group?_append (balanced_of_group? hcut) (rest ++ more)

/-- The partner of a bracket stands where the text from the bracket on is balanced for the first
time, and what stands between the two is balanced as well. -/
theorem closingByte?_eq_some_iff :
    closingByte? (front ++ '[' :: back) (utf8Length front) = some stop ↔
      IsLeast {n | IsBalancedThrough (front ++ '[' :: back) (utf8Length front) n} stop := by
  rw [closingByte?_append]
  constructor
  · intro h
    obtain ⟨⟨inner, rest⟩, hgroup, rfl⟩ := Option.map_eq_some_iff.1 h
    exact isLeast_of_group? hgroup
  · intro h
    obtain ⟨inner, rest, hgroup⟩ := exists_group?_of_isBalancedThrough h.1
    rw [hgroup, Option.map_some, (isLeast_of_group? hgroup).unique h]

theorem closingByte?_eq_none_iff :
    closingByte? (front ++ '[' :: back) (utf8Length front) = none ↔
      ∀ n, ¬IsBalancedThrough (front ++ '[' :: back) (utf8Length front) n := by
  constructor
  · intro h n hn
    obtain ⟨inner, rest, hgroup⟩ := exists_group?_of_isBalancedThrough hn
    rw [closingByte?_append, hgroup] at h
    exact absurd h (by simp)
  · intro h
    by_contra hsome
    obtain ⟨stop, hstop⟩ := Option.ne_none_iff_exists'.1 hsome
    exact h stop (closingByte?_eq_some_iff.1 hstop).1

/-- What stands between a bracket and its partner is balanced. -/
theorem exists_balanced_between
    (h : closingByte? (front ++ '[' :: back) (utf8Length front) = some stop) :
    ∃ inner, IsSlice (front ++ '[' :: back) (utf8Length front + 1) stop inner ∧
      balanced inner := by
  rw [closingByte?_append] at h
  obtain ⟨⟨inner, rest⟩, hgroup, rfl⟩ := Option.map_eq_some_iff.1 h
  refine ⟨inner, ⟨front ++ ['['], ']' :: rest, ?_, ?_, Nat.add_assoc ..⟩,
    balanced_of_group? hgroup⟩
  · rw [eq_append_of_group? hgroup, List.append_assoc]
    rfl
  · rw [utf8Length_append]
    rfl

/-- Every bracket that opens in a balanced text has its partner. -/
theorem closingByte?_ne_none (h : balanced (front ++ '[' :: back)) :
    closingByte? (front ++ '[' :: back) (utf8Length front) ≠ none := by
  rw [balanced_iff, depthAfter?_append] at h
  obtain ⟨depth, _, hrest⟩ := Option.bind_eq_some_iff.1 h
  obtain ⟨inner, rest, hgroup⟩ := exists_group?_of_depthAfter? hrest (Nat.zero_le depth)
  rw [closingByte?_append, hgroup]
  exact Option.some_ne_none _

/-- A bracket opens at the front of the text, and nothing closes it. -/
def isUnclosed (t : Text) : Bool := t.head? == some '[' && (closingByte? t 0).isNone

theorem isUnclosed_iff : isUnclosed t ↔ t.head? = some '[' ∧ group? t = none := by
  rw [isUnclosed, Bool.and_eq_true, beq_iff_eq, Option.isNone_iff_eq_none]
  refine and_congr_right fun hhead => ?_
  obtain ⟨back, rfl⟩ := List.head?_eq_some_iff.1 hhead
  have hcut : closingByte? ('[' :: back) 0 =
      (group? ('[' :: back)).map fun g => 0 + (1 + utf8Length g.1) := closingByte?_append [] back
  rw [hcut, Option.map_eq_none_iff]

theorem not_isUnclosed_of_balanced (h : balanced t) : ¬isUnclosed t := by
  intro hunclosed
  obtain ⟨hhead, hnone⟩ := isUnclosed_iff.1 hunclosed
  obtain ⟨inner, rest, hgroup⟩ := exists_group?_of_balanced h hhead
  rw [hnone] at hgroup
  exact absurd hgroup (by simp)

end Brackets

open Brackets

/-! ## Scans that meet a bracket without a partner -/

/-- Takes the pass segments out of a text as `scanPassesFrom` does, but for a keyword with a bracket
behind it that nothing closes: what becomes of the keyword and the text behind it is up to
`unclosed`. -/
def scanPassesOr (unclosed : Keyword → Text → PassScan) (depth : Nat) : Text → PassScan
  | [] => ⟨[], []⟩
  | c :: t =>
    if c = ':' && depth = 0 then
      match Keyword.ofWord? (t.takeWhile Char.isAlpha) with
      | some k =>
        have : (k.complete (t.dropWhile Char.isAlpha)).2.length < (c :: t).length :=
          Nat.lt_succ_of_le (Nat.le_trans (k.length_complete_le _)
            (List.dropWhile_sublist _).length_le)
        if isUnclosed (t.dropWhile Char.isAlpha) then unclosed k (t.dropWhile Char.isAlpha)
        else
          (scanPassesOr unclosed 0 (k.complete (t.dropWhile Char.isAlpha)).2).found
            (k.complete (t.dropWhile Char.isAlpha)).1
      | none => (scanPassesOr unclosed depth t).keep c
    else (scanPassesOr unclosed (depthBehind depth c) t).keep c
termination_by t => t.length
decreasing_by
  · exact this
  all_goals exact Nat.lt_succ_self _

/-- What becomes of a keyword with a bracket that nothing closes: the segment is malformed either
way, and it reaches to the end of the text behind `:FIRST` and `:FINAL`, while behind the keywords
of mods the scan goes on at the bracket. -/
def runOn : Keyword → Text → PassScan
  | .phase p, t => (scanPassesFrom 0 t).found (.malformed (.phase p))
  | k, _ => ⟨[], [.malformed k]⟩

section Fallbacks

variable {depth : Nat} {k : Keyword} {t : Text}

theorem found_complete_of_isUnclosed (h : isUnclosed t) :
    (scanPassesFrom 0 (k.complete t).2).found (k.complete t).1 = runOn k t := by
  obtain ⟨hhead, hnone⟩ := isUnclosed_iff.1 h
  have hfixed : ∀ p, Keyword.complete.ofFixed k t p = (.malformed k, []) := by
    intro p
    rw [Keyword.complete.ofFixed, if_pos hhead, hnone]
  have hend : scanPassesFrom 0 [] = ⟨[], []⟩ := by rw [scanPassesFrom]
  cases k with
  | first =>
    rw [Keyword.complete, hfixed, hend]
    rfl
  | final =>
    rw [Keyword.complete, hfixed, hend]
    rfl
  | phase p =>
    rw [Keyword.complete, hnone]
    rfl

/-- The scanner runs on where a bracket is not closed. -/
theorem scanPassesOr_runOn (depth : Nat) (t : Text) :
    scanPassesOr runOn depth t = scanPassesFrom depth t := by
  fun_induction scanPassesOr runOn depth t with
  | case1 depth => rw [scanPassesFrom]
  | case2 depth c t hcolon k hk _ hunclosed =>
    rw [scanPassesFrom, if_pos hcolon]
    simp only [hk]
    exact (found_complete_of_isUnclosed hunclosed).symm
  | case3 depth c t hcolon k hk _ hclosed ih =>
    rw [scanPassesFrom, if_pos hcolon]
    simp only [hk]
    rw [ih]
  | case4 depth c t hcolon hnone ih =>
    rw [scanPassesFrom, if_pos hcolon]
    simp only [hnone]
    rw [ih]
  | case5 depth c t hother ih => rw [scanPassesFrom, if_neg hother, ih]

/-- Where every bracket is closed, the scan never asks what to do with one that is not. -/
theorem scanPassesOr_of_closed (unclosed : Keyword → Text → PassScan)
    (h : depthAfter? depth t = some 0) : scanPassesOr unclosed depth t = scanPassesFrom depth t := by
  -- behind a colon outside of all brackets the text is balanced
  have hbehind : ∀ {c : Char} {depth : Nat} {t : Text}, (c = ':' && depth = 0) = true →
      depthAfter? depth (c :: t) = some 0 → balanced t := by
    intro c depth t hcolon h
    simp only [Bool.and_eq_true, decide_eq_true_eq] at hcolon
    obtain ⟨rfl, rfl⟩ := hcolon
    exact balanced_colon_iff.1 (balanced_iff.2 h)
  fun_induction scanPassesOr unclosed depth t with
  | case1 depth => rw [scanPassesFrom]
  | case2 depth c t hcolon k hk _ hunclosed =>
    have hrest := Clause.balanced_dropWhile (hbehind hcolon h)
    exact absurd hunclosed (not_isUnclosed_of_balanced hrest)
  | case3 depth c t hcolon k hk _ hclosed ih =>
    rw [scanPassesFrom, if_pos hcolon]
    simp only [hk]
    rw [ih (balanced_iff.1 (k.balanced_complete (hbehind hcolon h)))]
  | case4 depth c t hcolon hnone ih =>
    have hzero : depth = 0 := by simpa using (Bool.and_eq_true_iff.1 hcolon).2
    rw [scanPassesFrom, if_pos hcolon]
    simp only [hnone]
    rw [ih (by rw [hzero]; exact balanced_iff.1 (hbehind hcolon h))]
  | case5 depth c t hother ih =>
    rw [depthAfter?_cons (ne_zero_of_depthAfter? (by rw [h]; rfl))] at h
    rw [scanPassesFrom, if_neg hother, ih h]

end Fallbacks

/-! ## Partners in every text -/

/-- The look-up gives the partner of a bracket: it stands where the text from the bracket on is
balanced for the first time, what is in between is balanced, and none is given if and only if there
is none. In a balanced text all brackets have partners, so that a header is never refused for want
of one, and a scan, which elsewhere runs on, gives the same whatever it were to do without one. -/
theorem closing_finds_partner (t : Text) :
    (∀ start, IsSlice t start (start + 1) ['['] →
      (∀ stop, closingByte? t start = some stop ↔
        IsLeast {n | IsBalancedThrough t start n} stop) ∧
      (∀ stop, closingByte? t start = some stop →
        ∃ inner, IsSlice t (start + 1) stop inner ∧ balanced inner) ∧
      (closingByte? t start = none ↔ ∀ n, ¬IsBalancedThrough t start n)) ∧
    scanPassesOr runOn 0 t = scanPasses t ∧
    (balanced t →
      (∀ start, IsSlice t start (start + 1) ['['] → closingByte? t start ≠ none) ∧
      (∀ name, Header.parse t ≠ .error (.unbalanced name)) ∧
      ∀ unclosed, scanPassesOr unclosed 0 t = scanPasses t) := by
  refine ⟨?_, scanPassesOr_runOn 0 t, fun hbalanced => ⟨?_, ?_, ?_⟩⟩
  · rintro _ ⟨front, back, rfl, rfl, _⟩
    exact ⟨fun _ => closingByte?_eq_some_iff, fun _ => exists_balanced_between,
      closingByte?_eq_none_iff⟩
  · rintro _ ⟨front, back, rfl, rfl, _⟩
    exact closingByte?_ne_none hbalanced
  · intro name hrefused
    exact Header.parse_unbalanced_iff.1 ⟨name, hrefused⟩ hbalanced
  · exact fun unclosed => scanPassesOr_of_closed unclosed (balanced_iff.1 hbalanced)

/-- A name with nested brackets behind letters of two bytes, and a bracket behind `:FIRST`. -/
def nestedName : Text := "@Ä[é[x]]:FIRST[y]".toList

theorem closing_finds_partner_nestedName :
    IsSlice nestedName 3 4 ['['] ∧ balanced nestedName ∧
      IsLeast {n | IsBalancedThrough nestedName 3 n} 9 ∧
      (∃ inner, IsSlice nestedName 4 9 inner ∧ balanced inner) ∧
      (∀ name, Header.parse nestedName ≠ .error (.unbalanced name)) ∧
      scanPassesOr (fun _ _ => ⟨[], []⟩) 0 nestedName = ⟨"@Ä[é[x]]".toList, [.malformed .first]⟩ := by
  have hopen : IsSlice nestedName 3 4 ['['] :=
    ⟨"@Ä".toList, "é[x]]:FIRST[y]".toList, by decide, by decide, by decide⟩
  have hbalanced : balanced nestedName := by decide
  have hclose : closingByte? nestedName 3 = some 9 := by decide
  have hscan : scanPasses nestedName = ⟨"@Ä[é[x]]".toList, [.malformed .first]⟩ := by
    decide +kernel
  obtain ⟨hpartner, _, hreaders⟩ := closing_finds_partner nestedName
  obtain ⟨hleast, hbetween, _⟩ := hpartner 3 hopen
  obtain ⟨_, hparse, hsame⟩ := hreaders hbalanced
  exact ⟨hopen, hbalanced, (hleast 9).1 hclose, hbetween 9 hclose, hparse,
    (hsame _).trans hscan⟩

/-- What a scan does with a bracket that nothing closes shows in a text that is not balanced. -/
example : scanPassesOr (fun _ _ => ⟨[], []⟩) 0 ":FIRST[y".toList ≠ scanPasses ":FIRST[y".toList := by
  decide +kernel

end CfgPatch
