import CfgPatch.Proofs.Conjunction
import CfgPatch.Proofs.Spelling

/-!
# Atoms of a constraint list

A constraint list nests further lists in the brackets of its node atoms, and it is read if and only
if each atom of it can be read, at whatever depth it stands (`Constraints.exists_parse_iff`). A
value atom is a key, and behind that nothing or a text that begins with the first bracket and whose
last character is a closing one. These two need not be partners: the group that the first bracket
opens may close early, and then more groups follow (`ClosesEarly`), all of which go into the
pattern.
-/

namespace CfgPatch

open Text Brackets

/-! ## Blanks and brackets -/

theorem Text.exists_blanks_around (t : Text) : ∃ a b : Text,
    t = a ++ (trim t ++ b) ∧ (∀ c ∈ a, isBlank c) ∧ ∀ c ∈ b, isBlank c := by
  refine ⟨t.takeWhile isBlank, (trimStart t).rtakeWhile isBlank, ?_,
    fun _ => List.mem_takeWhile_imp,
    fun _ => List.mem_rtakeWhile_imp⟩
  rw [trim, trimEnd_eq, List.rdropWhile_append_rtakeWhile, trimStart,
    List.takeWhile_append_dropWhile]

theorem Brackets.balanced_of_blanks {a : Text} (h : ∀ c ∈ a, isBlank c) : balanced a := by
  refine balanced_of_no_brackets fun c hc => ?_
  constructor <;> rintro rfl <;> exact absurd (h _ hc) (by decide)

theorem Brackets.balanced_trim {t : Text} (h : balanced t) : balanced (trim t) := by
  obtain ⟨a, b, htext, ha, hb⟩ := exists_blanks_around t
  have hinner : balanced (trim t ++ b) := by
    rwa [htext, balanced_append_iff (balanced_of_blanks ha)] at h
  rw [balanced_iff, depthAfter?_append] at hinner
  obtain ⟨d, hd, hbehind⟩ := Option.bind_eq_some_iff.1 hinner
  rw [depthAfter?_of_balanced (balanced_of_blanks hb)] at hbehind
  rw [balanced_iff, hd, hbehind]

/-! ## Groups that close early -/

/-- The first group of a text in brackets closes before the text ends, and what follows is balanced
for itself. -/
def ClosesEarly (inner : Text) : Prop :=
  ∃ front back, inner = front ++ ']' :: back ∧ balanced front ∧ balanced (back ++ [']'])

/-- The text in balanced brackets is balanced, or its first group closes early, but not both. -/
theorem balanced_iff_not_closesEarly {inner : Text} (h : balanced (bracketed (some inner))) :
    balanced inner ↔ ¬ClosesEarly inner := by
  constructor
  · rintro hinner ⟨front, back, rfl, hfront, _⟩
    rw [balanced_append_iff hfront] at hinner
    exact absurd hinner (by simp [balanced, depthAfter?])
  · intro hlate
    obtain ⟨front, rest, hgroup⟩ := exists_group?_of_balanced h rfl
    have hfront := balanced_of_group? hgroup
    have htext : inner ++ [']'] = front ++ ']' :: rest :=
      List.cons.inj (eq_append_of_group? hgroup) |>.2
    rcases List.eq_nil_or_concat rest with rfl | ⟨back, c, rfl⟩
    · rwa [List.append_cancel_right htext]
    -- the bracket at the end closes another group
    rw [List.concat_eq_append, ← List.cons_append, ← List.append_assoc] at htext
    obtain ⟨rfl, hlast⟩ := List.append_inj' htext rfl
    obtain rfl : ']' = c := List.head_eq_of_cons_eq hlast
    refine absurd ⟨front, back, rfl, hfront, ?_⟩ hlate
    obtain ⟨_, hbracketed⟩ := eq_bracketed_of_group? hgroup
    rwa [hbracketed, balanced_append_iff (balanced_bracketed (by simpa using hfront)),
      List.concat_eq_append] at h

/-! ## Value atoms -/

/-- A value atom as it is written: whether it is negated, its key, and the text in its brackets. -/
structure ValueAtom where
  negated : Bool
  key : Text
  content : Option Text
deriving DecidableEq, Repr

/-- What the text in the brackets of a value atom asks of a value. -/
inductive Asks : Option Text → ValueTest → Prop
  | bare : Asks none .present
  | empty : Asks (some []) .present
  | compares {inner operand : Text} {comparison : Comparison} {x : Binary64}
      (cut : Comparison.cut? inner = some (comparison, operand))
      (number : Binary64.parse? (trim operand) = some x) :
      Asks (some inner) (.compares comparison x)
  | like {pattern : Text} (nonempty : pattern ≠ []) (cut : Comparison.cut? pattern = none) :
      Asks (some pattern) (.like pattern)

/-- What stands in brackets is read as what it asks. -/
theorem asks_some_iff {atom inner : Text} {test : ValueTest} :
    ValueTest.parse atom inner = .ok test ↔ Asks (some inner) test := by
  rw [ValueTest.parse]
  constructor
  · intro h
    split_ifs at h with hempty
    · obtain rfl := Except.ok.inj h
      obtain rfl := List.isEmpty_iff.1 hempty
      exact .empty
    · split at h
      · rename_i comparison operand hcut
        split at h
        · rename_i x hnumber
          obtain rfl := Except.ok.inj h
          exact .compares hcut hnumber
        · exact absurd h (by simp)
      · rename_i hcut
        obtain rfl := Except.ok.inj h
        exact .like (fun hnil => hempty (List.isEmpty_iff.2 hnil)) hcut
  · rintro (_ | _ | ⟨hcut, hnumber⟩ | ⟨hne, hcut⟩)
    · rfl
    · have hempty : ¬inner.isEmpty := by
        intro hnil
        rw [List.isEmpty_iff.1 hnil] at hcut
        exact absurd hcut (by simp [Comparison.cut?])
      rw [if_neg hempty, hcut]
      simp only [hnumber]
    · rw [if_neg (by simpa using hne), hcut]

namespace ValueAtom

variable {w : ValueAtom} {atom : Atom} {body : Text} {c : Char}

/-- The atom as it is written. -/
def text (w : ValueAtom) : Text :=
  (if w.negated then '~' else '#') :: (w.key ++ bracketed w.content)

/-- The atom says what is written: no bracket stands in the key, the key has a name in it, and what
stands in brackets asks something. -/
structure Reads (w : ValueAtom) (atom : Atom) : Prop where
  plain : ∀ c ∈ w.key, c ≠ '['
  named : trim w.key ≠ []
  asks : ∃ test, Asks w.content test ∧ atom = .value (trim w.key) test w.negated

/-- The text in front of the first bracket, and what follows it. -/
theorem cut_body (h : ∀ c ∈ w.key, c ≠ '[') :
    (w.key ++ bracketed w.content).takeWhile (· != '[') = w.key ∧
      (w.key ++ bracketed w.content).dropWhile (· != '[') = bracketed w.content := by
  have hkey : ∀ c ∈ w.key, (c != '[') = true := fun c hc => by simpa using h c hc
  have hbehind : ∀ c ∈ (bracketed w.content).head?, ¬(c != '[') = true := by
    cases w.content with
    | none => simp [bracketed]
    | some inner =>
      intro c hc
      obtain rfl := Option.some.inj hc
      decide
  obtain ⟨htake, hdrop⟩ := Clause.takeWhile_of_head hbehind
  rw [List.takeWhile_append_of_pos hkey, htake, List.append_nil,
    List.dropWhile_append_of_pos hkey, hdrop]
  exact ⟨rfl, rfl⟩

theorem dropClosing?_eq_some_iff {t inner : Text} :
    dropClosing? t = some inner ↔ t = inner ++ [']'] := by
  rw [dropClosing?]
  constructor
  · intro h
    split_ifs at h with hlast
    obtain ⟨front, rfl⟩ := List.getLast?_eq_some_iff.1 hlast
    rw [List.dropLast_concat] at h
    rw [Option.some.inj h]
  · rintro rfl
    simp

/-- What stands behind the key goes to a closing bracket at the end, or else the atom is refused. -/
theorem exists_content_or_unclosed (body : Text) :
    (∃ key content, body = key ++ bracketed content ∧ ∀ c ∈ key, c ≠ '[') ∨
      ∀ whole negated,
        parseValueAtom whole body negated = .error (.invalidConstraint whole .unclosed) := by
  have hplain : ∀ c ∈ body.takeWhile (· != '['), c ≠ '[' := fun c hc => by
    simpa using List.mem_takeWhile_imp hc
  have hsplit : body.takeWhile (· != '[') ++ body.dropWhile (· != '[') = body :=
    List.takeWhile_append_dropWhile
  cases hrest : body.dropWhile (· != '[') with
  | nil =>
    rw [hrest] at hsplit
    exact .inl ⟨_, none, hsplit.symm, hplain⟩
  | cons d t =>
    have hopen : d = '[' := by simpa [hrest] using List.head?_dropWhile_not (· != '[') body
    cases hclose : dropClosing? t with
    | none =>
      refine .inr fun whole negated => ?_
      simp only [parseValueAtom, hrest, hclose]
      rfl
    | some inner =>
      rw [hrest, hopen, dropClosing?_eq_some_iff.1 hclose] at hsplit
      exact .inl ⟨_, some inner, hsplit.symm, hplain⟩

/-- A key with brackets behind it is read if it has a name in it and what stands in the brackets
asks something. -/
theorem parseValueAtom_text_iff (hplain : ∀ c ∈ w.key, c ≠ '[') (whole : Text) :
    parseValueAtom whole (w.key ++ bracketed w.content) w.negated = .ok atom ↔ w.Reads atom := by
  obtain ⟨htake, hdrop⟩ := cut_body hplain
  have hreads : w.Reads atom ↔ trim w.key ≠ [] ∧
      ∃ test, Asks w.content test ∧ atom = .value (trim w.key) test w.negated :=
    ⟨fun h => ⟨h.named, h.asks⟩, fun h => ⟨hplain, h.1, h.2⟩⟩
  -- the brackets are read first, and then the key
  have hread : ∀ read : Except PatchError ValueTest,
      (∀ test, read = .ok test ↔ Asks w.content test) →
      ((read.bind fun test => if (trim w.key).isEmpty then
            .error (.invalidConstraint whole .missingKey)
          else .ok (.value (trim w.key) test w.negated)) = .ok atom ↔ w.Reads atom) := by
    intro read hasks
    rw [hreads]
    simp only [← hasks]
    cases read with
    | error e => simp [Except.bind]
    | ok test =>
      by_cases hkey : trim w.key = []
      · simp [hkey, Except.bind]
      · simpa [hkey, Except.bind] using eq_comm
  rw [parseValueAtom, htake, hdrop]
  cases hcontent : w.content with
  | none =>
    refine hread (.ok .present) fun test => ?_
    rw [hcontent]
    constructor
    · rintro ⟨⟩
      exact .bare
    · rintro ⟨⟩
      rfl
  | some inner =>
    have hclose : dropClosing? (inner ++ [']']) = some inner := dropClosing?_eq_some_iff.2 rfl
    simp only [bracketed, hclose]
    exact hread (ValueTest.parse whole inner) fun test => by rw [hcontent, asks_some_iff]

end ValueAtom

/-! ## Atoms at any depth -/

namespace Atom

variable {a body h t : Text} {c : Char} {atom : Atom} {atoms : List Atom} {ts : List Text}

theorem parse_value_iff : parse (c :: body) = .ok atom ∧ (c = '#' ∨ c = '~') ↔
    ∃ w : ValueAtom, w.text = c :: body ∧ w.Reads atom := by
  have hvalue : ∀ c, c = '#' ∨ c = '~' →
      parse (c :: body) = parseValueAtom (c :: body) body (c == '~') := by
    intro c hc
    rw [parse]
    exact if_pos (by simpa using hc)
  constructor
  · rintro ⟨h, hc⟩
    rw [hvalue c hc] at h
    rcases ValueAtom.exists_content_or_unclosed body with ⟨key, content, rfl, hplain⟩ | hunclosed
    · refine ⟨⟨c == '~', key, content⟩, ?_,
        (ValueAtom.parseValueAtom_text_iff (w := ⟨c == '~', key, content⟩) hplain _).1 h⟩
      rcases hc with rfl | rfl <;> rfl
    · rw [hunclosed] at h
      exact absurd h (by simp)
  · rintro ⟨w, htext, hreads⟩
    obtain ⟨hc, rfl⟩ := List.cons.inj htext
    have hsymbol : (c = '#' ∨ c = '~') ∧ (c == '~') = w.negated := by
      rw [← hc]
      cases w.negated <;> decide
    rw [hvalue c hsymbol.1, hsymbol.2, ValueAtom.parseValueAtom_text_iff hreads.plain]
    exact ⟨hreads, hsymbol.1⟩

theorem parse_node_iff (hc : c = '@' ∨ c = '!') : parse (c :: h) = .ok atom ↔
    ∃ header nested, Header.parse h = .ok header ∧ header.index = none ∧
      header.readConstraints = .ok nested ∧
        atom = .node header.type (header.selector.map Selector.parse) nested (c == '!') := by
  rw [Header.atomParse h hc]
  cases hheader : Header.parse h with
  | error e => simp
  | ok header =>
    cases hindex : header.index with
    | some index => simp [hindex]
    | none => cases hnested : header.readConstraints <;> simp [hindex, hnested, Except.map, eq_comm]

/-- An atom is read as a value atom, or as a node atom with the list that its header holds. -/
theorem parse_reads_iff : parse a = .ok atom ↔
    (∃ w : ValueAtom, w.text = a ∧ w.Reads atom) ∨
      ∃ c h header nested, a = c :: h ∧ (c = '@' ∨ c = '!') ∧ Header.parse h = .ok header ∧
        header.index = none ∧ header.readConstraints = .ok nested ∧
          atom = .node header.type (header.selector.map Selector.parse) nested (c == '!') := by
  constructor
  · intro h
    cases a with
    | nil => exact absurd h (by simp [parse])
    | cons c body =>
      by_cases hvalue : c = '#' ∨ c = '~'
      · exact .inl (parse_value_iff.1 ⟨h, hvalue⟩)
      · by_cases hnode : c = '@' ∨ c = '!'
        · obtain ⟨header, nested, hread⟩ := (parse_node_iff hnode).1 h
          exact .inr ⟨c, body, header, nested, rfl, hnode, hread⟩
        · rw [parse] at h
          simp only [Bool.or_eq_true, decide_eq_true_eq, hvalue, hnode, if_false] at h
          exact absurd h (by simp)
  · rintro (⟨w, rfl, hreads⟩ | ⟨c, h, header, nested, rfl, hc, hread⟩)
    · exact (parse_value_iff.2 ⟨w, rfl, hreads⟩).1
    · exact (parse_node_iff hc).2 ⟨header, nested, hread⟩

theorem mem_parseAll_iff (h : parseAll ts = .ok atoms) :
    atom ∈ atoms ↔ ∃ t ∈ ts, parse (trim t) = .ok atom := by
  induction ts generalizing atoms with
  | nil =>
    obtain rfl := Except.ok.inj (parseAll.eq_1.symm.trans h)
    simp
  | cons t ts ih =>
    rw [parseAll] at h
    cases hfirst : parse (trim t) with
    | error e => simp [hfirst] at h
    | ok first =>
      cases hrest : parseAll ts with
      | error e => simp [hfirst, hrest, Except.map] at h
      | ok rest =>
        rw [hfirst, hrest] at h
        obtain rfl := Except.ok.inj h
        rw [List.mem_cons, ih hrest, List.exists_mem_cons_iff, hfirst, Except.ok.injEq]
        exact or_congr eq_comm Iff.rfl

/-- The atom is one of a list, or of a list that a node atom of it nests, and so on. -/
inductive IsIn (atom : Atom) : List Atom → Prop
  | here {atoms : List Atom} (member : atom ∈ atoms) : IsIn atom atoms
  | within {atoms nested : List Atom} {type : Text} {selector : Option Selector} {negated : Bool}
      (member : .node type selector nested negated ∈ atoms) (inside : IsIn atom nested) :
      IsIn atom atoms

end Atom

/-- The text is that of an atom of a list, less the blanks at its ends, or of an atom of the list in
the brackets of a node atom of it, and so on. -/
inductive StandsIn (a : Text) : Text → Prop
  | here {t b : Text} (member : b ∈ atomTexts t) (trimmed : trim b = a) : StandsIn a t
  | within {t b h inner : Text} {c : Char} {header : Header} (member : b ∈ atomTexts t)
      (trimmed : trim b = c :: h) (node : c = '@' ∨ c = '!') (parse : Header.parse h = .ok header)
      (list : header.constraints = some inner) (inside : StandsIn a inner) : StandsIn a t

/-- An atom that is read if the lists in it are: a value atom that asks something, or a node atom
with a header that has no index. -/
inductive IsAtom : Text → Prop
  | value {w : ValueAtom} {atom : Atom} (reads : w.Reads atom) : IsAtom w.text
  | node {c : Char} {h : Text} {header : Header} (symbol : c = '@' ∨ c = '!')
      (parse : Header.parse h = .ok header) (index : header.index = none) : IsAtom (c :: h)

section Depth

variable {a t : Text} {atom : Atom} {cs : Constraints}

theorem length_le_totalLength {ts : List Text} (h : t ∈ ts) : t.length ≤ totalLength ts := by
  induction ts with
  | nil => simp at h
  | cons u ts ih =>
    rw [totalLength]
    rcases List.mem_cons.1 h with rfl | h
    · omega
    · have := ih h
      omega

/-- The list in the brackets of an atom is shorter than the list that the atom stands in. -/
theorem length_nested_lt {b h inner : Text} {c : Char} {header : Header} (hb : b ∈ atomTexts t)
    (htrim : trim b = c :: h) (hparse : Header.parse h = .ok header)
    (hlist : header.constraints = some inner) : inner.length < t.length := by
  have hinner := Header.length_constraints_lt hparse hlist
  have hatom := length_trim_le b
  have hwhole := Nat.le_trans (length_le_totalLength hb) (totalLength_splitFrom_le _ _ t)
  rw [htrim, List.length_cons] at hatom
  omega

theorem Constraints.exists_parse_iff_members (t : Text) : (∃ cs, Constraints.parse t = .ok cs) ↔
    ∀ b ∈ atomTexts t, ∃ atom, Atom.parse (trim b) = .ok atom := by
  have hall := Atom.exists_parseAll_iff (atomTexts t) fun _ => True
  simp only [implies_true, and_true] at hall
  exact hall

/-- A list is read if and only if each atom in it is one, at whatever depth it stands. -/
theorem Constraints.exists_parse_iff (t : Text) :
    (∃ cs, Constraints.parse t = .ok cs) ↔ ∀ a, StandsIn a t → IsAtom a := by
  constructor
  · rintro hread a hin
    induction hin with
    | @here t b hb htrim =>
      obtain ⟨atom, hatom⟩ := (exists_parse_iff_members t).1 hread b hb
      rw [htrim] at hatom
      rcases Atom.parse_reads_iff.1 hatom with ⟨w, rfl, hw⟩ | ⟨c, h, header, _, rfl, hc, hh, hi, _⟩
      · exact .value hw
      · exact .node hc hh hi
    | @within t b h inner c header hb htrim hc hparse hlist _ ih =>
      obtain ⟨atom, hatom⟩ := (exists_parse_iff_members t).1 hread b hb
      rw [htrim] at hatom
      obtain ⟨header', nested, hparse', _, hnested, _⟩ := (Atom.parse_node_iff hc).1 hatom
      obtain rfl := Except.ok.inj (hparse.symm.trans hparse')
      rw [Header.readConstraints, hlist] at hnested
      exact ih ⟨nested, hnested⟩
  · intro hall
    induction hlength : t.length using Nat.strong_induction_on generalizing t with
    | _ n ih =>
      rw [exists_parse_iff_members]
      intro b hb
      have hatom := hall (trim b) (.here hb rfl)
      generalize htrim : trim b = a at hatom ⊢
      cases hatom with
      | @value w atom hreads => exact ⟨atom, Atom.parse_reads_iff.2 (.inl ⟨w, rfl, hreads⟩)⟩
      | @node c h header hc hparse hindex =>
        obtain ⟨nested, hnested⟩ : ∃ nested, header.readConstraints = .ok nested := by
          cases hlist : header.constraints with
          | none => exact ⟨[], by rw [Header.readConstraints, hlist]⟩
          | some inner =>
            have hshorter := length_nested_lt hb htrim hparse hlist
            have hinside : ∀ a, StandsIn a inner → IsAtom a := fun a ha =>
              hall a (.within hb htrim hc hparse hlist ha)
            obtain ⟨nested, hnested⟩ := ih _ (hlength ▸ hshorter) inner hinside rfl
            exact ⟨nested, by rw [Header.readConstraints, hlist]; exact hnested⟩
        exact ⟨_, (Atom.parse_node_iff hc).2 ⟨header, nested, hparse, hindex, hnested, rfl⟩⟩

theorem not_isIn_nil : ¬atom.IsIn [] := by
  rintro (hmember | ⟨hmember, _⟩) <;> simp at hmember

/-- A list holds, at whatever depth, the value atoms that stand in its text. -/
theorem Constraints.value_isIn_iff (hparse : Constraints.parse t = .ok cs) {key : Text}
    {test : ValueTest} {negated : Bool} :
    (Atom.value key test negated).IsIn cs ↔
      ∃ w : ValueAtom, StandsIn w.text t ∧ w.Reads (.value key test negated) := by
  constructor
  · intro hin
    induction hin generalizing t with
    | here hmember =>
      obtain ⟨b, hb, hread⟩ := (Atom.mem_parseAll_iff hparse).1 hmember
      rcases Atom.parse_reads_iff.1 hread with ⟨w, htext, hw⟩ | ⟨_, _, _, _, _, _, _, _, _, hnode⟩
      · exact ⟨w, .here hb htext.symm, hw⟩
      · exact absurd hnode (by simp)
    | within hmember hinside ih =>
      obtain ⟨b, hb, hread⟩ := (Atom.mem_parseAll_iff hparse).1 hmember
      rcases Atom.parse_reads_iff.1 hread with ⟨w, _, hw⟩ |
        ⟨c, h, header, nested, htrim, hc, hheader, _, hnested, hnode⟩
      · obtain ⟨_, _, hvalue⟩ := hw.asks
        exact absurd hvalue (by simp)
      obtain ⟨_, _, rfl, _⟩ := Atom.node.inj hnode
      cases hlist : header.constraints with
      | none =>
        rw [Header.readConstraints, hlist] at hnested
        obtain rfl := Except.ok.inj hnested
        exact absurd hinside not_isIn_nil
      | some inner =>
        rw [Header.readConstraints, hlist] at hnested
        obtain ⟨w, hstands, hw⟩ := ih hnested
        exact ⟨w, .within hb htrim hc hheader hlist hstands, hw⟩
  · rintro ⟨w, hstands, hw⟩
    generalize htext : w.text = a at hstands
    induction hstands generalizing cs with
    | @here t b hb htrim =>
      refine .here ((Atom.mem_parseAll_iff hparse).2 ⟨b, hb, ?_⟩)
      exact Atom.parse_reads_iff.2 (.inl ⟨w, htext.trans htrim.symm, hw⟩)
    | @within t b h inner c header hb htrim hc hheader hlist _ ih =>
      obtain ⟨atom, hread⟩ := (Constraints.exists_parse_iff_members t).1 ⟨cs, hparse⟩ b hb
      have hmember := (Atom.mem_parseAll_iff hparse).2 ⟨b, hb, hread⟩
      rw [htrim] at hread
      obtain ⟨header', nested, hheader', _, hnested, rfl⟩ := (Atom.parse_node_iff hc).1 hread
      obtain rfl := Except.ok.inj (hheader.symm.trans hheader')
      rw [Header.readConstraints, hlist] at hnested
      exact .within hmember (ih hnested)

end Depth

/-! ## Balanced lists -/

section Balanced

variable {a t : Text}

/-- The constraints in a header are balanced. -/
theorem Header.balanced_constraints {h inner : Text} {header : Header}
    (hparse : Header.parse h = .ok header) (hlist : header.constraints = some inner) :
    balanced inner := by
  obtain ⟨w, _, hreads⟩ := Header.parse_ok_iff.1 hparse
  have hlists : [some inner] = (w.clauses.filter Header.isHas).map Clause.content := by
    simpa [hlist] using hreads.extends_type.constraints
  have hcontent : some inner ∈ (w.clauses.filter Header.isHas).map Clause.content := by
    rw [← hlists]
    exact List.mem_singleton_self _
  obtain ⟨clause, hclause, hcontent⟩ := List.mem_map.1 hcontent
  have hwritten := (hreads.extends_type.written clause (List.mem_of_mem_filter hclause)).1
  exact hwritten.balanced inner hcontent

/-- The brackets of an atom balance, if those of the list do. -/
theorem StandsIn.balanced (h : StandsIn a t) (ht : balanced t) : balanced a := by
  have hmember : ∀ {t b : Text}, Brackets.balanced t → b ∈ atomTexts t →
      Brackets.balanced (trim b) := by
    intro t b ht hb
    have hopen : ¬isAtomSeparator '[' := by decide
    have hclose : ¬isAtomSeparator ']' := by decide
    obtain ⟨w, hparts, _, _, hcut⟩ := Parted.exists_splitFrom hopen hclose 0 t
    rw [atomTexts, splitOutside, hparts] at hb
    exact balanced_trim ((hcut (balanced_iff.1 ht)).forall_parts b hb).1
  induction h with
  | here hb htrim => exact htrim ▸ hmember ht hb
  | within _ _ _ hparse hlist _ ih => exact ih (Header.balanced_constraints hparse hlist)

/-- Behind the key of a value atom whose brackets balance, the brackets balance. -/
theorem ValueAtom.balanced_content {w : ValueAtom} (hplain : ∀ c ∈ w.key, c ≠ '[')
    (h : balanced w.text) : balanced (bracketed w.content) := by
  have hfront : ∀ c ∈ (if w.negated then '~' else '#') :: w.key, c ≠ '[' := by
    refine List.forall_mem_cons.2 ⟨?_, hplain⟩
    cases w.negated <;> decide
  rw [ValueAtom.text, ← List.cons_append] at h
  have hclose := ne_close_of_balanced_append h hfront
  rwa [balanced_append_iff (balanced_of_no_brackets fun c hc => ⟨hfront c hc, hclose c hc⟩)] at h

end Balanced

namespace Constraints

variable {t : Text}

/-- What a balanced list makes of its value atoms. The list is read if and only if each atom in it
is one, at whatever depth it stands. A value atom is a key with a name in it and no bracket, and
behind it nothing or a text from its first bracket to a closing bracket at its end; that text is
balanced, unless the group that the first bracket opens closes early. Either way all of it is the
pattern, or what else it asks for, and what the atoms of the list ask for is all that is stored. -/
theorem valueAtoms_of_balanced (hbalanced : balanced t) :
    ((∃ cs, Constraints.parse t = .ok cs) ↔ ∀ a, StandsIn a t → IsAtom a) ∧
    (∀ w : ValueAtom, StandsIn w.text t → (∀ c ∈ w.key, c ≠ '[') →
      ∀ inner ∈ w.content, balanced inner ↔ ¬ClosesEarly inner) ∧
    ∀ cs, Constraints.parse t = .ok cs → ∀ key test negated,
      (Atom.value key test negated).IsIn cs ↔
        ∃ w : ValueAtom, StandsIn w.text t ∧ w.Reads (.value key test negated) := by
  refine ⟨exists_parse_iff t, fun w hstands hplain inner hinner => ?_,
    fun cs hparse _ _ _ => value_isIn_iff hparse⟩
  have hcontent := ValueAtom.balanced_content hplain (hstands.balanced hbalanced)
  rw [Option.mem_def.1 hinner] at hcontent
  exact balanced_iff_not_closesEarly hcontent

/-- A list with a value atom whose first group closes early, and another one in a list within. -/
def twoGroups : Text := "#a[b][c],@M:HAS[~x]".toList

theorem parse_twoGroups : Constraints.parse twoGroups =
    .ok [.value ['a'] (.like "b][c".toList) false,
      .node ['M'] none [.value ['x'] .present true] false] := by
  have htexts : atomTexts twoGroups = ["#a[b][c]".toList, "@M:HAS[~x]".toList] := by decide
  have hfirst : Atom.parse (trim "#a[b][c]".toList) =
      .ok (.value ['a'] (.like "b][c".toList) false) := by cbv
  have hheader : Header.parse "M:HAS[~x]".toList = .ok ⟨['M'], none, some "~x".toList, none⟩ := by
    decide +kernel
  have htrim : trim "@M:HAS[~x]".toList = '@' :: "M:HAS[~x]".toList := by decide
  have hsecond : Atom.parse (trim "@M:HAS[~x]".toList) =
      .ok (.node ['M'] none [.value ['x'] .present true] false) := by
    rw [htrim, Header.atomParse_eq hheader rfl (.inl rfl)]
    cbv
  rw [Constraints.parse, htexts]
  simp only [Atom.parseAll, hfirst, hsecond]
  rfl

theorem valueAtoms_of_balanced_twoGroups :
    balanced twoGroups ∧ ClosesEarly "b][c".toList ∧
      ∃ w : ValueAtom, StandsIn w.text twoGroups ∧ w.Reads (.value ['x'] .present true) := by
  have hbalanced : balanced twoGroups := by decide
  obtain ⟨_, hbrackets, hstored⟩ := valueAtoms_of_balanced hbalanced
  have hfirst : StandsIn (ValueAtom.text ⟨false, ['a'], some "b][c".toList⟩) twoGroups :=
    .here (b := "#a[b][c]".toList) (by decide) (by decide)
  have hearly := hbrackets _ hfirst (by simp) _ rfl
  refine ⟨hbalanced, not_not.1 (mt hearly.2 (by decide)), ?_⟩
  exact (hstored _ parse_twoGroups _ _ _).1 (.within (List.mem_of_getLast? rfl) (.here (by simp)))

/-- The pattern of a value atom that is read need not be balanced, though the list is. -/
theorem pattern_not_always_balanced :
    ¬∀ t cs, balanced t → Constraints.parse t = .ok cs → ∀ key pattern negated,
      (Atom.value key (.like pattern) negated).IsIn cs → balanced pattern := by
  intro hall
  have hpattern := hall twoGroups _ (by decide) parse_twoGroups ['a'] "b][c".toList false
    (.here (by simp))
  exact absurd hpattern (by decide)

end Constraints

end CfgPatch
