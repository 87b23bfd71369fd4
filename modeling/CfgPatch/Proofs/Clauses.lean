import CfgPatch.Pass
import CfgPatch.Proofs.Agenda
import CfgPatch.Proofs.Splitting

/-!
# Clauses of a name

Behind the type and the selector of a name come clauses, each a colon, a word and perhaps a text
in brackets. The scanner that takes the pass segments out of a name and the reader of headers both
walk from clause to clause: a clause ends where its letters and the bracket group behind them end
(`Clause.EndsBefore`), and every balanced text behind a colon begins with the rest of exactly one
clause (`Clause.exists_of_balanced`). What is said of brackets first is what both need of them:
`close?` cuts a text at the bracket behind a balanced text, and nowhere else.
-/

namespace CfgPatch

open Text

/-! ## Balanced texts -/

namespace Brackets

variable {depth k d : Nat} {t a b inner rest : Text}

theorem balanced_iff : balanced t ↔ depthAfter? 0 t = some 0 := by simp [balanced]

theorem depthBehind_add {c : Char} (h : c = ']' → depth ≠ 0) (k : Nat) :
    depthBehind (depth + k) c = depthBehind depth c + k := by
  unfold depthBehind
  split_ifs with hopen hclose
  · omega
  · have := h hclose
    omega
  · rfl

/-- Brackets that close when some are open close just as well when more are. -/
theorem depthAfter?_add (h : depthAfter? depth t = some d) (k : Nat) :
    depthAfter? (depth + k) t = some (d + k) := by
  induction t generalizing depth with
  | nil =>
    obtain rfl := Option.some.inj h
    rfl
  | cons c t ih =>
    have hdepth := ne_zero_of_depthAfter? (by rw [h]; rfl)
    have hmore : c = ']' → depth + k ≠ 0 := fun hc hzero => hdepth hc (by omega)
    rw [depthAfter?_cons hdepth] at h
    rw [depthAfter?_cons hmore, depthBehind_add hdepth]
    exact ih h

theorem depthAfter?_of_balanced (h : balanced t) (depth : Nat) :
    depthAfter? depth t = some depth := by
  simpa using depthAfter?_add (balanced_iff.1 h) depth

theorem depthAfter?_append_of_balanced (h : balanced a) (depth : Nat) (b : Text) :
    depthAfter? depth (a ++ b) = depthAfter? depth b := by
  rw [depthAfter?_append, depthAfter?_of_balanced h]
  rfl

theorem balanced_append_iff (h : balanced a) : balanced (a ++ b) ↔ balanced b := by
  rw [balanced_iff, balanced_iff, depthAfter?_append_of_balanced h]

theorem balanced_of_no_brackets (h : ∀ c ∈ t, c ≠ '[' ∧ c ≠ ']') : balanced t :=
  balanced_iff.2 (depthAfter?_of_no_brackets h)

theorem balanced_colon_iff : balanced (':' :: t) ↔ balanced t := by
  rw [balanced_iff, balanced_iff, depthAfter?_cons (by decide)]
  rfl

/-- In front of the first opening bracket of a balanced text no bracket closes. -/
theorem ne_close_of_balanced_append (h : balanced (a ++ b)) (ha : ∀ c ∈ a, c ≠ '[') :
    ∀ c ∈ a, c ≠ ']' := by
  have hdepth : (depthAfter? 0 a).isSome := by
    rw [balanced_iff, depthAfter?_append] at h
    obtain ⟨d, hd, _⟩ := Option.bind_eq_some_iff.1 h
    exact Option.isSome_iff_exists.2 ⟨d, hd⟩
  clear h
  induction a with
  | nil => simp
  | cons c a ih =>
    obtain ⟨hopen, ha⟩ := List.forall_mem_cons.1 ha
    have hclose : c ≠ ']' := fun hc => ne_zero_of_depthAfter? hdepth hc rfl
    have hsame : depthBehind 0 c = 0 := by rw [depthBehind, if_neg hopen, if_neg hclose]
    rw [depthAfter?_cons fun hc => absurd hc hclose, hsame] at hdepth
    exact List.forall_mem_cons.2 ⟨hclose, ih ha hdepth⟩

theorem balanced_flatMap {α : Type} {xs : List α} {f : α → Text}
    (h : ∀ x ∈ xs, balanced (f x)) : balanced (xs.flatMap f) := by
  induction xs with
  | nil => rfl
  | cons x xs ih =>
    obtain ⟨hx, hxs⟩ := List.forall_mem_cons.1 h
    rw [List.flatMap_cons, balanced_append_iff hx]
    exact ih hxs

/-! ## Bracket groups -/

/-- A text is cut at its first character if that closes the only open bracket, and otherwise where
the text behind is cut. -/
theorem close?_cons (depth : Nat) (c : Char) (t : Text) :
    close? (depth + 1) (c :: t) =
      if c = ']' ∧ depth = 0 then some ([], t)
      else (close? (depthBehind (depth + 1) c) t).map fun (a, b) => (c :: a, b) := by
  cases depth with
  | zero => by_cases hopen : c = '[' <;> by_cases hclose : c = ']' <;>
      simp_all [close?, depthBehind]
  | succ d => by_cases hopen : c = '[' <;> by_cases hclose : c = ']' <;>
      simp_all [close?, depthBehind]

/-- A text is cut behind what closes all brackets but one. -/
theorem close?_append (h : depthAfter? depth a = some 0) (b : Text) :
    close? (depth + 1) (a ++ ']' :: b) = some (a, b) := by
  induction a generalizing depth with
  | nil =>
    obtain rfl := Option.some.inj h
    rfl
  | cons c a ih =>
    have hdepth := ne_zero_of_depthAfter? (by rw [h]; rfl)
    rw [depthAfter?_cons hdepth] at h
    rw [List.cons_append, close?_cons, if_neg fun hc => hdepth hc.1 hc.2, depthBehind_add hdepth,
      ih h]
    rfl

/-- In front of the bracket at which a text is cut, all brackets but one are closed. -/
theorem depthAfter?_of_close? (h : close? (depth + 1) t = some (a, b)) :
    depthAfter? depth a = some 0 := by
  induction t generalizing depth a with
  | nil => exact absurd h (by simp [close?])
  | cons c t ih =>
    rw [close?_cons] at h
    split_ifs at h with hfirst
    · obtain ⟨rfl, rfl⟩ := Prod.mk.inj (Option.some.inj h)
      rw [hfirst.2]
      rfl
    · have hdepth : c = ']' → depth ≠ 0 := fun hc hzero => hfirst ⟨hc, hzero⟩
      obtain ⟨⟨front, back⟩, hcut, heq⟩ := Option.map_eq_some_iff.1 h
      obtain ⟨rfl, rfl⟩ := Prod.mk.inj heq
      rw [depthBehind_add hdepth] at hcut
      rw [depthAfter?_cons hdepth]
      exact ih hcut

/-- A text is cut at some bracket if in the end fewer are open than the cut leaves open. -/
theorem isSome_close? (h : depthAfter? (depth + 1 + k) t = some d) (hd : d ≤ k) :
    (close? (depth + 1) t).isSome := by
  induction t generalizing depth with
  | nil =>
    obtain rfl := Option.some.inj h
    omega
  | cons c t ih =>
    rw [close?_cons]
    split_ifs with hfirst
    · rfl
    · have hdepth : c = ']' → depth ≠ 0 := fun hc hzero => hfirst ⟨hc, hzero⟩
      rw [depthAfter?_cons fun _ => by omega, Nat.add_assoc, depthBehind_add hdepth,
        ← Nat.add_assoc] at h
      rw [depthBehind_add hdepth, Option.isSome_map]
      exact ih h

/-- A text in brackets is a group of its own, whatever follows. -/
theorem group?_append (h : balanced inner) (rest : Text) :
    group? ('[' :: (inner ++ ']' :: rest)) = some (inner, rest) :=
  close?_append (balanced_iff.1 h) rest

theorem balanced_of_group? (h : group? t = some (inner, rest)) : balanced inner := by
  rw [eq_append_of_group? h] at h
  exact balanced_iff.2 (depthAfter?_of_close? h)

/-- An open bracket begins a group if in the end no more brackets are open than in front of it. -/
theorem exists_group?_of_depthAfter? (h : depthAfter? depth ('[' :: t) = some d) (hd : d ≤ depth) :
    ∃ inner rest, group? ('[' :: t) = some (inner, rest) := by
  have hopen : depthAfter? (0 + 1 + depth) t = some d := by
    rw [Nat.zero_add, Nat.add_comm]
    exact h
  obtain ⟨⟨inner, rest⟩, hcut⟩ := Option.isSome_iff_exists.1 (isSome_close? hopen hd)
  exact ⟨inner, rest, hcut⟩

/-- In a balanced text a bracket at the front begins a group. -/
theorem exists_group?_of_balanced (h : balanced t) (hhead : t.head? = some '[') :
    ∃ inner rest, group? t = some (inner, rest) := by
  obtain ⟨u, rfl⟩ := List.head?_eq_some_iff.1 hhead
  exact exists_group?_of_depthAfter? (balanced_iff.1 h) (Nat.le_refl 0)

/-- A text in brackets, if there is one. -/
def bracketed : Option Text → Text
  | none => []
  | some inner => '[' :: (inner ++ [']'])

/-- A bracket group at the front of a text holds a balanced text, and the rest follows it. -/
theorem eq_bracketed_of_group? (h : group? t = some (inner, rest)) :
    (∀ i ∈ some inner, balanced i) ∧ t = bracketed (some inner) ++ rest := by
  refine ⟨by simpa using balanced_of_group? h, ?_⟩
  rw [eq_append_of_group? h]
  simp [bracketed]

theorem balanced_bracketed {content : Option Text} (h : ∀ inner ∈ content, balanced inner) :
    balanced (bracketed content) := by
  cases content with
  | none => rfl
  | some inner =>
    have hinner := depthAfter?_append_of_balanced (h inner rfl) 1 [']']
    exact balanced_iff.2 hinner

theorem not_hasOutside_of_forall {isSeparator : Char → Bool} (h : ∀ c ∈ t, ¬isSeparator c) :
    ¬HasOutside isSeparator depth t := by
  rintro ⟨front, c, back, rfl, hc, _⟩
  exact h c (by simp) hc

/-- What stands outside of brackets in two texts together does so in the one or in the other. -/
theorem HasOutside.of_append {isSeparator : Char → Bool}
    (h : HasOutside isSeparator depth (a ++ b)) : HasOutside isSeparator depth a ∨
      ∃ d, depthAfter? depth a = some d ∧ HasOutside isSeparator d b := by
  obtain ⟨front, c, back, htext, hc, hfront⟩ := h
  rcases List.append_eq_append_iff.1 htext with ⟨mid, rfl, rfl⟩ | ⟨mid, rfl, hback⟩
  · rw [depthAfter?_append] at hfront
    obtain ⟨d, hd, hmid⟩ := Option.bind_eq_some_iff.1 hfront
    exact .inr ⟨d, hd, mid, c, back, rfl, hc, hmid⟩
  · cases mid with
    | nil =>
      rw [List.append_nil]
      exact .inr ⟨0, hfront, [], c, back, hback.symm, hc, rfl⟩
    | cons e mid =>
      obtain ⟨rfl, _⟩ := List.cons.inj hback
      exact .inl ⟨front, c, mid, rfl, hc, hfront⟩

/-- Within a bracket group more brackets are open than in front of it. -/
theorem exists_depthAfter?_within (h : balanced inner) {front : Text} (hfront : front <+: inner) :
    ∃ more, ∀ depth, depthAfter? depth ('[' :: front) = some (depth + more + 1) := by
  obtain ⟨rest, rfl⟩ := hfront
  have hinner := balanced_iff.1 h
  rw [depthAfter?_append] at hinner
  obtain ⟨more, hmore, _⟩ := Option.bind_eq_some_iff.1 hinner
  refine ⟨more, fun depth => ?_⟩
  rw [depthAfter?_cons fun hc => absurd hc (by decide), depthBehind, if_pos rfl]
  simpa [Nat.add_comm, Nat.add_left_comm, Nat.add_assoc] using depthAfter?_add hmore (depth + 1)

/-- What stands in front of a character of a bracket group, but for the first, begins with the
bracket that opens the group and goes on with what it holds. -/
theorem exists_isPrefix_of_group {front back : Text} {c : Char}
    (h : bracketed (some inner) = front ++ c :: back) (hne : front ≠ []) :
    ∃ within, front = '[' :: within ∧ within <+: inner := by
  cases front with
  | nil => exact absurd rfl hne
  | cons e within =>
    obtain ⟨rfl, htail⟩ := List.cons.inj h
    have htail : inner ++ [']'] = within ++ c :: back := htail
    have hlength := congrArg List.length htail
    refine ⟨within, rfl, List.prefix_of_prefix_length_le (htail ▸ List.prefix_append within _)
      (List.prefix_append inner [']']) ?_⟩
    simp only [List.length_append, List.length_cons, List.length_nil] at hlength
    omega

/-- Nothing in brackets stands outside of them. -/
theorem not_hasOutside_bracketed {content : Option Text} (h : ∀ inner ∈ content, balanced inner)
    {isSeparator : Char → Bool} (hopen : ¬isSeparator '[') :
    ¬HasOutside isSeparator 0 (bracketed content) := by
  rintro ⟨front, c, back, htext, hc, hfront⟩
  cases content with
  | none => simp [bracketed] at htext
  | some inner =>
    by_cases hne : front = []
    · subst hne
      obtain ⟨rfl, _⟩ := List.cons.inj htext
      exact hopen hc
    · obtain ⟨within, rfl, hwithin⟩ := exists_isPrefix_of_group htext hne
      obtain ⟨more, hmore⟩ := exists_depthAfter?_within (h inner rfl) hwithin
      rw [hmore] at hfront
      exact absurd hfront (by simp)

/-- A bracket group stands in one of two texts whole, if the first closes its brackets. -/
theorem group_cases (ha : balanced a) (hinner : balanced inner) {before after : Text}
    (h : a ++ b = before ++ (bracketed (some inner) ++ after)) :
    (∃ rest, a = before ++ (bracketed (some inner) ++ rest)) ∨
      ∃ mid, before = a ++ mid ∧ b = mid ++ (bracketed (some inner) ++ after) := by
  rcases List.append_eq_append_iff.1 h with ⟨mid, hbefore, hb⟩ | ⟨mid, rfl, hmid⟩
  · exact .inr ⟨mid, hbefore, hb⟩
  rcases List.append_eq_append_iff.1 hmid with ⟨rest, rfl, _⟩ | ⟨rest, hgroup, rfl⟩
  · exact .inl ⟨rest, rfl⟩
  -- the end of `a` would be within the group
  cases rest with
  | nil => exact .inl ⟨[], by rw [hgroup, List.append_nil, List.append_nil]⟩
  | cons c rest =>
    by_cases hne : mid = []
    · subst hne
      exact .inr ⟨[], by simp, by rw [hgroup]; rfl⟩
    · obtain ⟨within, rfl, hwithin⟩ := exists_isPrefix_of_group hgroup hne
      obtain ⟨more, hmore⟩ := exists_depthAfter?_within hinner hwithin
      have hclosed := balanced_iff.1 ha
      rw [depthAfter?_append] at hclosed
      obtain ⟨d, _, hd⟩ := Option.bind_eq_some_iff.1 hclosed
      rw [hmore] at hd
      exact absurd hd (by simp)

end Brackets

open Brackets

/-! ## Clauses -/

/-- A clause of a name: a word behind a colon, and the content of the bracket group behind that. -/
structure Clause where
  word : Text
  content : Option Text
deriving DecidableEq, Repr

namespace Clause

variable {c : Clause} {t rest : Text}

/-- The clause as it is written. -/
def text (c : Clause) : Text := ':' :: (c.word ++ bracketed c.content)

/-- Words are written in letters, and what brackets hold is balanced. -/
structure IsWritten (c : Clause) : Prop where
  letters : ∀ a ∈ c.word, a.isAlpha
  balanced : ∀ inner ∈ c.content, balanced inner

/-- In front of the text `rest` the clause ends: if it has no bracket group, then neither more
letters nor a bracket group follow. -/
def EndsBefore (c : Clause) (rest : Text) : Prop :=
  c.content = none → ∀ a ∈ rest.head?, ¬a.isAlpha ∧ a ≠ '['

theorem text_append (c : Clause) (rest : Text) :
    c.text ++ rest = ':' :: (c.word ++ (bracketed c.content ++ rest)) := by
  simp [text]

theorem isAlpha_ne_bracket {a : Char} (h : a.isAlpha) : a ≠ '[' ∧ a ≠ ']' := by
  constructor <;> rintro rfl <;> exact absurd h (by decide)

theorem IsWritten.balanced_text (h : c.IsWritten) : Brackets.balanced c.text := by
  have hword : Brackets.balanced (':' :: c.word) := by
    refine balanced_of_no_brackets (List.forall_mem_cons.2 ⟨by decide, fun a ha => ?_⟩)
    exact isAlpha_ne_bracket (h.letters a ha)
  rw [text, ← List.cons_append, balanced_append_iff hword]
  exact balanced_bracketed h.balanced

/-- Behind the colon of a clause no other colon stands outside of brackets. -/
theorem IsWritten.not_hasOutside (h : c.IsWritten) :
    ¬HasOutside (· == ':') 0 (c.word ++ bracketed c.content) := by
  have hword : ∀ a ∈ c.word, ¬(a == ':') := by
    intro a ha hcolon
    rw [beq_iff_eq] at hcolon
    exact absurd (hcolon ▸ h.letters a ha) (by decide)
  intro hout
  rcases hout.of_append with hout | ⟨d, hd, hout⟩
  · exact not_hasOutside_of_forall hword hout
  · rw [depthAfter?_of_no_brackets fun a ha => isAlpha_ne_bracket (h.letters a ha)] at hd
    obtain rfl := Option.some.inj hd
    exact not_hasOutside_bracketed h.balanced (by decide) hout

/-- Where a clause ends, what stands behind its word begins with no letter. -/
theorem EndsBefore.not_isAlpha_head (h : c.EndsBefore rest) :
    ∀ a ∈ (bracketed c.content ++ rest).head?, ¬a.isAlpha := by
  cases hcontent : c.content with
  | none => exact fun a ha => (h hcontent a ha).1
  | some inner =>
    intro a ha
    obtain rfl := Option.some.inj ha
    decide

theorem takeWhile_of_head {p : Char → Bool} (h : ∀ a ∈ rest.head?, ¬p a) :
    rest.takeWhile p = [] ∧ rest.dropWhile p = rest := by
  cases rest with
  | nil => exact ⟨rfl, rfl⟩
  | cons a rest =>
    have ha := h a rfl
    exact ⟨List.takeWhile_cons_of_neg ha, List.dropWhile_cons_of_neg ha⟩

/-- The letters behind the colon of a clause are its word. -/
theorem IsWritten.takeWhile_word (h : c.IsWritten) (hend : c.EndsBefore rest) :
    (c.word ++ (bracketed c.content ++ rest)).takeWhile Char.isAlpha = c.word := by
  rw [List.takeWhile_append_of_pos h.letters,
    (takeWhile_of_head hend.not_isAlpha_head).1, List.append_nil]

theorem IsWritten.dropWhile_word (h : c.IsWritten) (hend : c.EndsBefore rest) :
    (c.word ++ (bracketed c.content ++ rest)).dropWhile Char.isAlpha =
      bracketed c.content ++ rest := by
  rw [List.dropWhile_append_of_pos h.letters,
    (takeWhile_of_head hend.not_isAlpha_head).2]

theorem EndsBefore.head?_eq_iff (h : c.EndsBefore rest) :
    (bracketed c.content ++ rest).head? = some '[' ↔ c.content.isSome := by
  cases hcontent : c.content with
  | none => simpa [bracketed] using fun hhead => (h hcontent _ hhead).2 rfl
  | some inner => simp [bracketed]

/-- The bracket group behind the word of a clause is that of the clause. -/
theorem IsWritten.group?_content (h : c.IsWritten) (hend : c.EndsBefore rest) :
    group? (bracketed c.content ++ rest) = c.content.map fun inner => (inner, rest) := by
  cases hcontent : c.content with
  | none =>
    have hhead : rest.head? ≠ some '[' := fun hhead => (hend hcontent _ hhead).2 rfl
    rw [bracketed, List.nil_append]
    unfold group?
    split
    · exact absurd rfl hhead
    · rfl
  | some inner =>
    have hgroup := group?_append (h.balanced inner hcontent) rest
    simpa [bracketed] using hgroup

theorem isAlpha_of_mem_takeWhile {a : Char} (h : a ∈ t.takeWhile Char.isAlpha) : a.isAlpha :=
  List.all_eq_true.1 List.all_takeWhile a h

/-- The letters at the front of a balanced text have no bracket in them. -/
theorem balanced_dropWhile (h : Brackets.balanced t) :
    Brackets.balanced (t.dropWhile Char.isAlpha) := by
  have hword : Brackets.balanced (t.takeWhile Char.isAlpha) :=
    balanced_of_no_brackets fun a ha => isAlpha_ne_bracket (isAlpha_of_mem_takeWhile ha)
  rwa [← List.takeWhile_append_dropWhile (p := Char.isAlpha) (l := t),
    balanced_append_iff hword] at h

/-- Behind a colon outside of all brackets stands the rest of a clause. -/
theorem exists_of_balanced (h : Brackets.balanced t) :
    ∃ (c : Clause) (rest : Text), t = c.word ++ (bracketed c.content ++ rest) ∧ c.IsWritten ∧
      c.EndsBefore rest ∧ Brackets.balanced rest := by
  have hletters : ∀ a ∈ t.takeWhile Char.isAlpha, a.isAlpha := fun _ => isAlpha_of_mem_takeWhile
  have hsplit : t = t.takeWhile Char.isAlpha ++ t.dropWhile Char.isAlpha :=
    List.takeWhile_append_dropWhile.symm
  have hbehind := balanced_dropWhile h
  by_cases hhead : (t.dropWhile Char.isAlpha).head? = some '['
  · obtain ⟨inner, rest, hgroup⟩ := exists_group?_of_balanced hbehind hhead
    obtain ⟨hcontent, htext⟩ := eq_bracketed_of_group? hgroup
    refine ⟨⟨t.takeWhile Char.isAlpha, some inner⟩, rest, by rw [← htext]; exact hsplit,
      ⟨hletters, hcontent⟩, fun hnone => absurd hnone (by simp), ?_⟩
    rwa [htext, balanced_append_iff (balanced_bracketed hcontent)] at hbehind
  · refine ⟨⟨t.takeWhile Char.isAlpha, none⟩, t.dropWhile Char.isAlpha, hsplit,
      ⟨hletters, by simp⟩, fun _ a ha => ⟨?_, ?_⟩, hbehind⟩
    · have := List.head?_dropWhile_not Char.isAlpha t
      rw [ha] at this
      simpa using this
    · rintro rfl
      exact hhead ha

end Clause

/-! ## Keywords -/

namespace Keyword

variable {k : Keyword} {w : Text} {c : Clause} {rest : Text}

/-- The pass that a segment with a keyword names: `FIRST` and `FINAL` name one without a bracket
group, and the other keywords with one that holds the name of a mod. -/
def pass? : Keyword → Option Text → Option Pass
  | .first, none => some .first
  | .final, none => some .final
  | .phase p, some inner => if trim inner = [] then none else some (.mod p (trim inner))
  | _, _ => none

/-- What a segment says: the pass that it names, or else that it is malformed. -/
def reading (k : Keyword) (content : Option Text) : Segment :=
  match k.pass? content with
  | some p => .pass p
  | none => .malformed k

theorem mem_all (k : Keyword) : k ∈ all := by
  cases k with
  | phase p => cases p <;> decide
  | _ => decide

/-- No two keywords are the same up to case. -/
theorem eq_of_sameLetters_word {k k' : Keyword}
    (h : sameLetters k.word.toList k'.word.toList) : k = k' := by
  have hall : ∀ k ∈ all, ∀ k' ∈ all, sameLetters k.word.toList k'.word.toList → k = k' := by
    decide
  exact hall k (mem_all k) k' (mem_all k') h

theorem ofWord?_eq_some_iff : ofWord? w = some k ↔ sameLetters w k.word.toList := by
  constructor
  · exact fun h => List.find?_some (p := fun k : Keyword => sameLetters w k.word.toList) h
  · intro h
    obtain ⟨k', hk'⟩ : ∃ k', ofWord? w = some k' :=
      Option.isSome_iff_exists.1 (List.find?_isSome.2 ⟨k, mem_all k, h⟩)
    have hword : sameLetters w k'.word.toList :=
      List.find?_some (p := fun k : Keyword => sameLetters w k.word.toList) hk'
    rw [hk', eq_of_sameLetters_word (sameLetters_trans (sameLetters_symm hword) h)]

/-- A segment is read to the end of its clause. -/
theorem complete_eq (h : c.IsWritten) (hend : c.EndsBefore rest) :
    k.complete (bracketed c.content ++ rest) = (k.reading c.content, rest) := by
  have hgroup := h.group?_content hend
  have hfixed : ∀ p, complete.ofFixed k (bracketed c.content ++ rest) p =
      if c.content.isSome then (.malformed k, rest) else (.pass p, rest) := by
    intro p
    rw [complete.ofFixed, hgroup]
    simp only [hend.head?_eq_iff]
    cases c.content <;> rfl
  cases k with
  | first =>
    rw [complete, hfixed]
    cases c.content <;> rfl
  | final =>
    rw [complete, hfixed]
    cases c.content <;> rfl
  | phase p =>
    rw [complete, hgroup]
    cases hcontent : c.content with
    | none => rfl
    | some inner =>
      by_cases hname : trim inner = [] <;> simp [reading, pass?, hname]

/-- What a keyword leaves of a balanced text is balanced. -/
theorem balanced_complete (k : Keyword) {t : Text} (h : balanced t) :
    balanced (k.complete (t.dropWhile Char.isAlpha)).2 := by
  obtain ⟨c, rest, rfl, hc, hend, hrest⟩ := Clause.exists_of_balanced h
  rwa [hc.dropWhile_word hend, complete_eq hc hend]

end Keyword

end CfgPatch
