import CfgPatch.Proofs.Joining
import CfgPatch.Proofs.Matching

/-!
# Constraint lists as conjunctions

A constraint list is cut at the separators outside of its brackets, however deep the lists in it
are nested (`Conjunction.atomTexts_text`). Hence it is read as its members are when each of them is
read alone: it is refused for the first member that is, and otherwise asks of a node all that they
ask. Neither their order nor what separates them matters to that. A member with the other character
of its kind in front is read in the same way and asks for the opposite (`Opposes.reads`).
-/

namespace CfgPatch

open Text Brackets

/-! ## Lists of atoms -/

/-- The first member of a list for which `Q` holds, with `P` for all before it, is the head or one
of the tail. -/
theorem exists_first_cons_iff {α : Type} {P Q : α → Prop} {x : α} {xs : List α} :
    (∃ before y behind, x :: xs = before ++ y :: behind ∧ (∀ b ∈ before, P b) ∧ Q y) ↔
      Q x ∨ P x ∧ ∃ before y behind, xs = before ++ y :: behind ∧ (∀ b ∈ before, P b) ∧ Q y := by
  constructor
  · rintro ⟨before, y, behind, hsplit, hbefore, hy⟩
    cases before with
    | nil =>
      obtain ⟨rfl, rfl⟩ := List.cons.inj hsplit
      exact .inl hy
    | cons b before =>
      obtain ⟨rfl, rfl⟩ := List.cons.inj hsplit
      obtain ⟨hx, hbefore⟩ := List.forall_mem_cons.1 hbefore
      exact .inr ⟨hx, before, y, behind, rfl, hbefore, hy⟩
  · rintro (hx | ⟨hx, before, y, behind, rfl, hbefore, hy⟩)
    · exact ⟨[], x, xs, rfl, by simp, hx⟩
    · exact ⟨x :: before, y, behind, rfl, List.forall_mem_cons.2 ⟨hx, hbefore⟩, hy⟩

namespace Atom

variable {ts : List Text} {e : PatchError}

/-- A list is read if each of its members is, and what holds of its atoms holds of theirs. -/
theorem exists_parseAll_iff (ts : List Text) (P : Atom → Prop) :
    (∃ atoms, parseAll ts = .ok atoms ∧ ∀ atom ∈ atoms, P atom) ↔
      ∀ t ∈ ts, ∃ atom, parse (trim t) = .ok atom ∧ P atom := by
  induction ts with
  | nil => simp [parseAll]
  | cons t ts ih =>
    rw [List.forall_mem_cons, ← ih, parseAll]
    cases hfirst : parse (trim t) with
    | error e => simp
    | ok atom =>
      cases hrest : parseAll ts with
      | error e => simp [Except.map]
      | ok atoms => simp [Except.map]

/-- A list is refused for the first of its members that is refused. -/
theorem parseAll_eq_error_iff :
    parseAll ts = .error e ↔ ∃ before t behind, ts = before ++ t :: behind ∧
      (∀ b ∈ before, ∃ atom, parse (trim b) = .ok atom) ∧ parse (trim t) = .error e := by
  induction ts with
  | nil => simp [parseAll]
  | cons t ts ih =>
    rw [exists_first_cons_iff, ← ih, parseAll]
    cases hfirst : parse (trim t) with
    | error e' => simp
    | ok atom => cases parseAll ts <;> simp [Except.map]

/-! ## Negation -/

/-- The atom that holds where this one does not. -/
def negate : Atom → Atom
  | .value key test negated => .value key test !negated
  | .node type selector nested negated => .node type selector nested !negated

@[simp] theorem holds_negate (atom : Atom) (node : Node) :
    atom.negate.holds node = !atom.holds node := by
  cases atom <;> simp [negate, holds]

end Atom

/-- A text is read as a list that the node satisfies. -/
def Constraints.Satisfied (t : Text) (node : Node) : Prop :=
  ∃ cs, Constraints.parse t = .ok cs ∧ cs.satisfiedBy node

/-! ## Members of a list -/

namespace Brackets

variable {isSeparator : Char → Bool} {c d : Char} {a b : Text} {depth : Nat}

theorem depthAfter?_exchange (hc : c ≠ '[' ∧ c ≠ ']') (hd : d ≠ '[' ∧ d ≠ ']') :
    depthAfter? depth (a ++ c :: b) = depthAfter? depth (a ++ d :: b) := by
  simp [depthAfter?_append, depthAfter?, hc, hd]

/-- Where a character stands that is neither a bracket nor a separator, another one may. -/
theorem hasOutside_exchange (hc : (c ≠ '[' ∧ c ≠ ']') ∧ ¬isSeparator c)
    (hd : (d ≠ '[' ∧ d ≠ ']') ∧ ¬isSeparator d) :
    HasOutside isSeparator depth (a ++ c :: b) ↔ HasOutside isSeparator depth (a ++ d :: b) := by
  induction a generalizing depth with
  | nil =>
    rw [List.nil_append, List.nil_append, hasOutside_cons_iff, hasOutside_cons_iff]
    simp [depthBehind, hc, hd]
  | cons e a ih =>
    rw [List.cons_append, List.cons_append, hasOutside_cons_iff, hasOutside_cons_iff, ih]

end Brackets

/-- A text that can stand in a list: its brackets balance and enclose all of its separators. -/
structure IsMember (a : Text) : Prop where
  balanced : balanced a
  whole : ¬HasOutside isAtomSeparator 0 a

namespace IsMember

variable {a : Text} {node : Node}

theorem depthAfter? (h : IsMember a) : depthAfter? 0 a = some 0 := balanced_iff.1 h.balanced

theorem atomTexts (h : IsMember a) : atomTexts a = [a] :=
  splitFrom_eq_singleton (by rw [h.depthAfter?]; rfl) h.whole

/-- Alone, a member is a list of one atom. -/
theorem parse (h : IsMember a) :
    Constraints.parse a = (Atom.parse (trim a)).map fun atom => [atom] := by
  rw [Constraints.parse, h.atomTexts, Atom.parseAll, Atom.parseAll]
  cases Atom.parse (trim a) <;> rfl

theorem exists_parse_iff (h : IsMember a) :
    (∃ cs, Constraints.parse a = .ok cs) ↔ ∃ atom, Atom.parse (trim a) = .ok atom := by
  rw [h.parse]
  cases Atom.parse (trim a) <;> simp [Except.map]

theorem satisfied_iff (h : IsMember a) : Constraints.Satisfied a node ↔
    ∃ atom, Atom.parse (trim a) = .ok atom ∧ atom.holds node := by
  rw [Constraints.Satisfied, h.parse]
  cases Atom.parse (trim a) <;> simp [Except.map, Constraints.satisfiedBy, allHold]

end IsMember

/-! ## Joined lists -/

/-- Texts that are joined into a list, each but the first with the separator in front of it. -/
structure Conjunction where
  first : Text
  rest : List (Char × Text)
  first_isMember : IsMember first
  rest_isMember : ∀ p ∈ rest, isAtomSeparator p.1 ∧ IsMember p.2

namespace Conjunction

variable {w : Conjunction} {node : Node} {e : PatchError}

/-- The texts that are joined. -/
def members (w : Conjunction) : List Text := w.first :: w.rest.map Prod.snd

/-- The list as it is written. -/
def text (w : Conjunction) : Text := w.first ++ w.rest.flatMap fun p => p.1 :: p.2

theorem isMember_of_mem {a : Text} (h : a ∈ w.members) : IsMember a := by
  rcases List.mem_cons.1 h with rfl | h
  · exact w.first_isMember
  · obtain ⟨p, hp, rfl⟩ := List.mem_map.1 h
    exact (w.rest_isMember p hp).2

/-- A list is cut into the texts that were joined. -/
theorem atomTexts_text (w : Conjunction) : atomTexts w.text = w.members := by
  have hmembers : ∀ a ∈ w.members, balanced a ∧ ¬HasOutside isAtomSeparator 0 a :=
    fun _ ha => ⟨(isMember_of_mem ha).balanced, (isMember_of_mem ha).whole⟩
  exact Parted.splitOutside_text (w := ⟨w.first, w.rest⟩) (by decide) (by decide) hmembers
    (List.forall_mem_map.2 fun p hp => (w.rest_isMember p hp).1)

theorem exists_parse_iff : (∃ cs, Constraints.parse w.text = .ok cs) ↔
    ∀ a ∈ w.members, ∃ cs, Constraints.parse a = .ok cs := by
  have hall := Atom.exists_parseAll_iff w.members fun _ => True
  simp only [implies_true, and_true] at hall
  rw [Constraints.parse, atomTexts_text, hall]
  exact forall₂_congr fun a ha => (isMember_of_mem ha).exists_parse_iff.symm

theorem satisfied_text : Constraints.Satisfied w.text node ↔
    ∀ a ∈ w.members, Constraints.Satisfied a node := by
  have hall := Atom.exists_parseAll_iff w.members fun atom => atom.holds node
  have htext : Constraints.Satisfied w.text node ↔ ∃ atoms,
      Atom.parseAll w.members = .ok atoms ∧ ∀ atom ∈ atoms, atom.holds node := by
    simp only [Constraints.Satisfied, Constraints.parse, atomTexts_text, Constraints.satisfiedBy,
      allHold_iff]
  rw [htext, hall]
  exact forall₂_congr fun a ha => (isMember_of_mem ha).satisfied_iff.symm

theorem parse_eq_error_iff : Constraints.parse w.text = .error e ↔
    ∃ before a behind, w.members = before ++ a :: behind ∧
      (∀ b ∈ before, ∃ cs, Constraints.parse b = .ok cs) ∧ Constraints.parse a = .error e := by
  rw [Constraints.parse, atomTexts_text, Atom.parseAll_eq_error_iff]
  refine exists₃_congr fun before a behind => and_congr_right fun hsplit => ?_
  have hmember : ∀ b ∈ before ++ a :: behind, IsMember b := by
    rw [← hsplit]
    exact fun b hb => isMember_of_mem hb
  obtain ⟨hbefore, hbehind⟩ := List.forall_mem_append.1 hmember
  refine and_congr (forall₂_congr fun b hb => (hbefore b hb).exists_parse_iff.symm) ?_
  rw [(hbehind a List.mem_cons_self).parse]
  cases Atom.parse (trim a) <;> simp [Except.map]

end Conjunction

/-! ## Opposite members -/

/-- What the brackets of a value atom ask for does not depend on the atom; an error quotes it. -/
theorem ValueTest.parse_cases (inner : Text) :
    (∃ test, ∀ atom, parse atom inner = .ok test) ∨
      ∃ fault, ∀ atom, parse atom inner = .error (.invalidConstraint atom fault) := by
  by_cases hempty : inner.isEmpty
  · exact .inl ⟨.present, fun atom => by rw [parse, if_pos hempty]⟩
  cases hcut : Comparison.cut? inner with
  | none => exact .inl ⟨.like inner, fun atom => by rw [parse, if_neg hempty, hcut]⟩
  | some found =>
    obtain ⟨comparison, operand⟩ := found
    cases hnumber : Binary64.parse? (trim operand) with
    | some x =>
      exact .inl ⟨.compares comparison x, fun atom => by simp [parse, hempty, hcut, hnumber]⟩
    | none => exact .inr ⟨.notANumber operand, fun atom => by simp [parse, hempty, hcut, hnumber]⟩

/-- Whether a value atom is negated makes no difference to how it is read. -/
theorem parseValueAtom_cases (body : Text) :
    (∃ key test, ∀ atom negated, parseValueAtom atom body negated = .ok (.value key test negated)) ∨
      ∃ fault, ∀ atom negated,
        parseValueAtom atom body negated = .error (.invalidConstraint atom fault) := by
  -- the brackets are read before anything is said about the key
  have hbrackets : (∃ test, ∀ atom negated, parseValueAtom atom body negated =
      if (trim (body.takeWhile (· != '['))).isEmpty then
        .error (.invalidConstraint atom .missingKey)
      else .ok (.value (trim (body.takeWhile (· != '['))) test negated)) ∨
      ∃ fault, ∀ atom negated,
        parseValueAtom atom body negated = .error (.invalidConstraint atom fault) := by
    cases hrest : body.dropWhile (· != '[') with
    | nil => exact .inl ⟨.present, fun atom negated => by rw [parseValueAtom, hrest]; rfl⟩
    | cons c t =>
      cases hclose : dropClosing? t with
      | none =>
        refine .inr ⟨.unclosed, fun atom negated => ?_⟩
        simp only [parseValueAtom, hrest, hclose]
        rfl
      | some inner =>
        rcases ValueTest.parse_cases inner with ⟨test, htest⟩ | ⟨fault, hfault⟩
        · refine .inl ⟨test, fun atom negated => ?_⟩
          simp only [parseValueAtom, hrest, hclose, htest]
          rfl
        · refine .inr ⟨fault, fun atom negated => ?_⟩
          simp only [parseValueAtom, hrest, hclose, hfault]
          rfl
  rcases hbrackets with ⟨test, htest⟩ | hfault
  · by_cases hkey : (trim (body.takeWhile (· != '['))).isEmpty
    · exact .inr ⟨.missingKey, fun atom negated => by rw [htest, if_pos hkey]⟩
    · exact .inl ⟨_, test, fun atom negated => by rw [htest, if_neg hkey]⟩
  · exact .inr hfault

/-- Two texts that differ in a character in front: the one asks for something, the other for the
absence of the same thing. -/
inductive Opposes : Text → Text → Prop
  | intro {lead body : Text} {c d : Char} (blank : ∀ b ∈ lead, isBlank b)
      (kind : c = '#' ∧ d = '~' ∨ c = '@' ∧ d = '!') :
      Opposes (lead ++ c :: body) (lead ++ d :: body)

/-- Two texts are read alike: as an atom and its negation, or neither of them, for the same reason
and up to the text that is quoted. -/
inductive Opposite (t u : Text) :
    Except PatchError Constraints → Except PatchError Constraints → Prop
  | read (atom : Atom) : Opposite t u (.ok [atom]) (.ok [atom.negate])
  | refused (e : PatchError) : Opposite t u (.error e) (.error e)
  | quoted (fault : ConstraintFault) : Opposite t u
      (.error (.invalidConstraint t fault)) (.error (.invalidConstraint u fault))

namespace Opposes

variable {a b body : Text} {node : Node}

theorem isMember (h : Opposes a b) (ha : IsMember a) : IsMember b := by
  obtain ⟨_, hkind⟩ := h
  rename_i c d _
  have hplain : ((c ≠ '[' ∧ c ≠ ']') ∧ ¬isAtomSeparator c) ∧
      (d ≠ '[' ∧ d ≠ ']') ∧ ¬isAtomSeparator d := by
    rcases hkind with ⟨rfl, rfl⟩ | ⟨rfl, rfl⟩ <;> decide
  constructor
  · rw [balanced_iff, depthAfter?_exchange hplain.2.1 hplain.1.1]
    exact ha.depthAfter?
  · rw [hasOutside_exchange hplain.2 hplain.1]
    exact ha.whole

theorem reads_value : Opposite ('#' :: body) ('~' :: body)
    ((Atom.parse ('#' :: body)).map fun atom => [atom])
    ((Atom.parse ('~' :: body)).map fun atom => [atom]) := by
  have hpresent : Atom.parse ('#' :: body) = parseValueAtom ('#' :: body) body false := by
    rw [Atom.parse]
    rfl
  have habsent : Atom.parse ('~' :: body) = parseValueAtom ('~' :: body) body true := by
    rw [Atom.parse]
    rfl
  rw [hpresent, habsent]
  rcases parseValueAtom_cases body with ⟨key, test, hread⟩ | ⟨fault, hfault⟩
  · rw [hread, hread]
    exact .read (.value key test false)
  · rw [hfault, hfault]
    exact .quoted fault

theorem reads_node : Opposite ('@' :: body) ('!' :: body)
    ((Atom.parse ('@' :: body)).map fun atom => [atom])
    ((Atom.parse ('!' :: body)).map fun atom => [atom]) := by
  rw [Header.atomParse body (.inl rfl), Header.atomParse body (.inr rfl)]
  cases Header.parse body with
  | error e => exact .refused e
  | ok header =>
    simp only
    split_ifs
    · exact .quoted .index
    · cases header.readConstraints with
      | error e => exact .refused e
      | ok nested =>
        exact .read (.node header.type (header.selector.map Selector.parse) nested false)

/-- The blanks in front and behind are all that is trimmed. -/
theorem trim_lead {lead : Text} {c : Char} (hlead : ∀ b ∈ lead, isBlank b) (hc : ¬isBlank c) :
    trim (lead ++ c :: body) = c :: trimEnd body := by
  rw [trim, trimStart_append_of_blank hlead, trimStart_eq_self (by simpa using hc), trimEnd]
  cases trimEnd body with
  | nil => exact if_neg hc
  | cons => rfl

theorem reads (h : Opposes a b) (ha : IsMember a) :
    Opposite (trim a) (trim b) (Constraints.parse a) (Constraints.parse b) := by
  rw [ha.parse, (h.isMember ha).parse]
  obtain ⟨hlead, ⟨rfl, rfl⟩ | ⟨rfl, rfl⟩⟩ := h
  · rw [trim_lead hlead (by decide), trim_lead hlead (by decide)]
    exact reads_value
  · rw [trim_lead hlead (by decide), trim_lead hlead (by decide)]
    exact reads_node

end Opposes

/-- One of two opposite lists is satisfied. -/
theorem Opposite.satisfied_iff {a b t u : Text} {node : Node}
    (h : Opposite t u (Constraints.parse a) (Constraints.parse b))
    (hread : ∃ cs, Constraints.parse a = .ok cs) :
    Constraints.Satisfied b node ↔ ¬Constraints.Satisfied a node := by
  obtain ⟨cs, hcs⟩ := hread
  rw [Constraints.Satisfied, Constraints.Satisfied]
  generalize Constraints.parse a = x, Constraints.parse b = y at h hcs
  subst hcs
  cases h with
  | read atom => simp [Constraints.satisfiedBy, allHold]

namespace Conjunction

/-- A list is read as its members are. It is refused for the first member that is refused alone, and
otherwise a node satisfies it if and only if it satisfies each member; so neither the order nor the
separators matter. The opposite of a member can stand in its place; it is read or refused as the
member is, and says the same but for the negation. -/
theorem read_memberwise (w : Conjunction) :
    ((∃ cs, Constraints.parse w.text = .ok cs) ↔
      ∀ a ∈ w.members, ∃ cs, Constraints.parse a = .ok cs) ∧
    (∀ e, Constraints.parse w.text = .error e ↔
      ∃ before a behind, w.members = before ++ a :: behind ∧
        (∀ b ∈ before, ∃ cs, Constraints.parse b = .ok cs) ∧ Constraints.parse a = .error e) ∧
    (∀ node, Constraints.Satisfied w.text node ↔
      ∀ a ∈ w.members, Constraints.Satisfied a node) ∧
    (∀ v : Conjunction, v.members.Perm w.members → ∀ node,
      Constraints.Satisfied v.text node ↔ Constraints.Satisfied w.text node) ∧
    (∀ a ∈ w.members, ∀ b, Opposes a b →
      IsMember b ∧ Opposite (trim a) (trim b) (Constraints.parse a) (Constraints.parse b) ∧
        ((∃ cs, Constraints.parse a = .ok cs) → ∀ node,
          Constraints.Satisfied b node ↔ ¬Constraints.Satisfied a node)) := by
  refine ⟨exists_parse_iff, fun _ => parse_eq_error_iff, fun _ => satisfied_text,
    fun v hperm node => ?_, fun a ha b hopposes => ?_⟩
  · rw [satisfied_text, satisfied_text]
    exact ⟨fun h a ha => h a (hperm.mem_iff.2 ha), fun h a ha => h a (hperm.mem_iff.1 ha)⟩
  · have hmember := isMember_of_mem ha
    have hreads := hopposes.reads hmember
    exact ⟨hopposes.isMember hmember, hreads, fun hread _ => hreads.satisfied_iff hread⟩

/-- A list in whose first member a separator stands in brackets. -/
def twoMembers : Conjunction where
  first := "#x[a,b]".toList
  rest := [('&', " @Y".toList)]
  first_isMember := ⟨by decide, by decide⟩
  rest_isMember := List.forall_mem_singleton.2 ⟨by decide, by decide, by decide⟩

/-- The same list, the other way round and with the other separator. -/
def twoMembersSwapped : Conjunction where
  first := " @Y".toList
  rest := [(',', "#x[a,b]".toList)]
  first_isMember := ⟨by decide, by decide⟩
  rest_isMember := List.forall_mem_singleton.2 ⟨by decide, by decide, by decide⟩

theorem read_memberwise_twoMembers :
    twoMembersSwapped.members.Perm twoMembers.members ∧
    (∀ node, Constraints.Satisfied " @Y,#x[a,b]".toList node ↔
      Constraints.Satisfied "#x[a,b]& @Y".toList node) ∧
    Opposes " @Y".toList " !Y".toList ∧ IsMember " !Y".toList := by
  obtain ⟨_, _, _, horder, hopposite⟩ := read_memberwise twoMembers
  have hperm : twoMembersSwapped.members.Perm twoMembers.members := .swap ..
  have hopposes : Opposes " @Y".toList " !Y".toList :=
    @Opposes.intro " ".toList "Y".toList '@' '!' (List.forall_mem_singleton.2 (by decide))
      (.inr ⟨rfl, rfl⟩)
  refine ⟨hperm, horder twoMembersSwapped hperm, hopposes, ?_⟩
  exact (hopposite _ (List.mem_of_getLast? rfl) _ hopposes).1

end Conjunction

end CfgPatch
