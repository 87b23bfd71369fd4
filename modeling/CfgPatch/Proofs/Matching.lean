import CfgPatch.Body.Matcher
import CfgPatch.Directive
import CfgPatch.Proofs.Picking
import CfgPatch.Proofs.Splitting
import Mathlib.Tactic.TFAE

/-!
# What a header asks of a node

A header stands in the name of a directive, in the name of a child of a body and in a node atom of
a constraint list, and each of them is read in a place of its own. What a header asks of a node is
said here once (`Header.Fits`). A directive is about the nodes that fit, a child of a body picks
among them, the atom `@` holds of a node when some child fits, and the atom `!` when none does.

Constraint lists are cut into atoms and the blanks around an atom are dropped before its header is
read, so an atom has the header that was written only if that has no blanks at its ends and no
separator outside of brackets (`Header.constraintsParse_eq`).
-/

namespace CfgPatch

open Text Brackets

/-! ## Lists of atoms -/

theorem allHold_iff {node : Node} {atoms : List Atom} :
    allHold node atoms ↔ ∀ atom ∈ atoms, atom.holds node := by
  induction atoms with
  | nil => simp [allHold]
  | cons atom atoms ih => rw [allHold, Bool.and_eq_true, ih, List.forall_mem_cons]

theorem Selector.accepts_iff {s : Selector} {label : Option Text} :
    s.accepts label ↔ ∃ name ∈ label, ∃ pattern ∈ s.alternatives, wildcardMatch pattern name := by
  cases label with
  | none => simp [accepts]
  | some name => simp [accepts]

namespace Header

/-! ## Fitting -/

/-- The constraints of a header, read; there may be none. -/
def readConstraints (header : Header) : Except PatchError Constraints :=
  match header.constraints with
  | none => .ok []
  | some inner => Constraints.parse inner

/-- A node fits a header: it has the name, a pattern of the selector matches its label, and all of
the constraints hold of it. -/
structure Fits (header : Header) (cs : Constraints) (node : Node) : Prop where
  named : node.name = header.type
  selected : ∀ selector ∈ header.selector, ∃ label ∈ node.label?,
    ∃ pattern ∈ (Selector.parse selector).alternatives, wildcardMatch pattern label
  constrained : ∀ atom ∈ cs, atom.holds node

variable {header : Header} {cs : Constraints} {h : Text}

/-- The test that all of the readers make. -/
theorem fits_iff {node : Node} :
    header.Fits cs node ↔
      node.isMatch header.type (header.selector.map Selector.parse) && cs.satisfiedBy node := by
  have hselected : (header.selector.map Selector.parse).all (·.accepts node.label?) ↔
      ∀ selector ∈ header.selector, ∃ label ∈ node.label?,
        ∃ pattern ∈ (Selector.parse selector).alternatives, wildcardMatch pattern label := by
    cases header.selector with
    | none => simp
    | some selector => simpa using Selector.accepts_iff
  rw [Bool.and_eq_true, Node.isMatch, Bool.and_eq_true, beq_iff_eq, hselected,
    Constraints.satisfiedBy, allHold_iff]
  exact ⟨fun ⟨hname, hsel, hall⟩ => ⟨⟨hname, hsel⟩, hall⟩,
    fun ⟨⟨hname, hsel⟩, hall⟩ => ⟨hname, hsel, hall⟩⟩

/-! ## Directives and bodies -/

/-- The targets of a directive are the nodes that fit. -/
theorem fits_iff_targets (d : Directive) {node : Node} :
    d.header.Fits cs node ↔ d.targets node ∧ cs.satisfiedBy node := by
  rw [fits_iff, Bool.and_eq_true]
  rfl

theorem ofNode_eq (hparse : parse h = .ok header) (hindex : header.index = none) {node : Node}
    (hname : node.name = '@' :: h) (file : FileId) (url : Text) (source : Option EntryId) :
    Directive.ofNode file url source node =
      .ok ⟨some .edit, header, node, file, source, url ++ '/' :: node.name⟩ := by
  simp [Directive.ofNode, hname, hparse, hindex, Command.ofSymbol?]

theorem matcherParse_eq (hparse : parse h = .ok header) :
    Matcher.parse h = header.readConstraints.map fun cs =>
      ⟨header.type, header.selector.map Selector.parse, cs, header.index⟩ := by
  simp only [Matcher.parse, hparse, readConstraints]
  cases header.constraints <;> rfl

/-- An only child is picked if it fits. -/
theorem fits_iff_positions {node parent : Node} (hindex : header.index = none)
    (hchildren : parent.children = [node]) :
    header.Fits cs node ↔
      Matcher.positions ⟨header.type, header.selector.map Selector.parse, cs, header.index⟩
        parent.children = [0] := by
  rw [fits_iff, hchildren, hindex, Matcher.positions, Index.positions_cons, Index.positions_nil,
    Matcher.accepts]
  split_ifs with hfits
  · simp [hfits, Index.pick]
  · simp [hfits, Index.pick]

/-! ## Atoms -/

theorem balanced_of_parse (hparse : parse h = .ok header) : balanced h := by
  by_contra hnot
  rw [parse, if_neg hnot] at hparse
  exact absurd hparse (by simp)

variable {c : Char}

/-- A node atom is read by reading its header, and then the list in that. -/
theorem atomParse (h : Text) (hc : c = '@' ∨ c = '!') :
    Atom.parse (c :: h) =
      match parse h with
      | .error e => .error e
      | .ok header =>
        if header.index.isSome then .error (.invalidConstraint (c :: h) .index)
        else header.readConstraints.map fun nested =>
          .node header.type (header.selector.map Selector.parse) nested (c == '!') := by
  have hvalue : ¬(c = '#' || c = '~') := by rcases hc with rfl | rfl <;> decide
  have hnode : c = '@' || c = '!' := by simpa using hc
  rw [Atom.parse]
  simp only [if_neg hvalue, if_pos hnode]
  split
  · rename_i e herror
    rw [herror]
  · rename_i header hread
    rw [hread]
    simp only [readConstraints]
    split_ifs with hindex
    · rfl
    · split
      · rename_i hnone
        rw [hnone]
        rfl
      · rename_i inner hinner
        simp only [hinner, Constraints.parse]
        cases Atom.parseAll (atomTexts inner) <;> rfl

/-- Without an index, reading an atom is reading the constraints of its header. -/
theorem atomParse_eq (hparse : parse h = .ok header) (hindex : header.index = none)
    (hc : c = '@' ∨ c = '!') :
    Atom.parse (c :: h) = header.readConstraints.map fun nested =>
      .node header.type (header.selector.map Selector.parse) nested (c == '!') := by
  simp [atomParse h hc, hparse, hindex]

theorem atomTexts_eq (hparse : parse h = .ok header) (hwhole : ¬HasOutside isAtomSeparator 0 h)
    (hc : c = '@' ∨ c = '!') : atomTexts (c :: h) = [c :: h] := by
  have hbalanced : depthAfter? 0 h = some 0 := by simpa [balanced] using balanced_of_parse hparse
  -- the character in front opens and closes nothing, so every depth is as in the header
  have hclose : c = ']' → 0 ≠ 0 := by rcases hc with rfl | rfl <;> decide
  have hbehind : depthBehind 0 c = 0 := by rcases hc with rfl | rfl <;> rfl
  have hseparates : ¬isAtomSeparator c := by rcases hc with rfl | rfl <;> decide
  refine splitFrom_eq_singleton ?_ ?_
  · rw [depthAfter?_cons hclose, hbehind, hbalanced]
    rfl
  · rw [hasOutside_cons_iff, hbehind]
    exact not_or.2 ⟨fun hfirst => hseparates hfirst.2, fun hrest => hwhole hrest.2⟩

theorem trim_atom (htrim : trim h = h) (hc : c = '@' ∨ c = '!') : trim (c :: h) = c :: h := by
  have hblank : ¬isBlank c := by rcases hc with rfl | rfl <;> decide
  refine trim_eq_self (by simpa using hblank) ?_
  cases h with
  | nil => simpa using hblank
  | cons d t =>
    rw [List.getLast?_cons_cons, ← htrim]
    exact not_isBlank_getLast_trim

/-- A list that is a character and a header is the one atom with that header. -/
theorem constraintsParse_eq (hparse : parse h = .ok header) (hindex : header.index = none)
    (htrim : trim h = h) (hwhole : ¬HasOutside isAtomSeparator 0 h) (hc : c = '@' ∨ c = '!') :
    Constraints.parse (c :: h) = header.readConstraints.map fun nested =>
      [.node header.type (header.selector.map Selector.parse) nested (c == '!')] := by
  rw [Constraints.parse, atomTexts_eq hparse hwhole hc, Atom.parseAll, trim_atom htrim hc,
    atomParse_eq hparse hindex hc, Atom.parseAll]
  cases header.readConstraints <;> rfl

/-- An atom asks for a child that fits, and a negated one that there is none. -/
theorem holds_node_iff {negated : Bool} {parent : Node} :
    (Atom.node header.type (header.selector.map Selector.parse) cs negated).holds parent ↔
      ((∃ child ∈ parent.children, header.Fits cs child) ↔ ¬negated) := by
  have hany : (parent.children.any fun child =>
      child.isMatch header.type (header.selector.map Selector.parse) && allHold child cs) ↔
        ∃ child ∈ parent.children, header.Fits cs child := by
    simp only [List.any_eq_true, fits_iff]
    rfl
  rw [Atom.holds, ← hany]
  cases negated <;> simp

/-! ## Agreement -/

/-- All readers of a header agree on the nodes that fit: the directive that edits them, the child of
a body that edits them, and the two node atoms on a parent with no other child. -/
theorem readers_agree (hparse : parse h = .ok header) (hindex : header.index = none)
    (htrim : trim h = h) (hwhole : ¬HasOutside isAtomSeparator 0 h)
    (hcs : header.readConstraints = .ok cs) {directive : Node} (hname : directive.name = '@' :: h)
    (file : FileId) (url : Text) (source : Option EntryId) :
    ∃ d m present absent,
      Directive.ofNode file url source directive = .ok d ∧ d.constraints = .ok cs ∧
      Verb.cut directive.name = (.shared .edit, '@', h) ∧ Matcher.parse h = .ok m ∧
      Constraints.parse ('@' :: h) = .ok [present] ∧ Constraints.parse ('!' :: h) = .ok [absent] ∧
      ∀ node parent : Node, parent.children = [node] →
        [header.Fits cs node, d.targets node ∧ cs.satisfiedBy node, m.accepts node,
          m.positions parent.children = [0], present.holds parent, ¬absent.holds parent].TFAE := by
  refine ⟨_, _, _, _, ofNode_eq hparse hindex hname file url source, hcs, by rw [hname]; rfl,
    by rw [matcherParse_eq hparse, hcs]; rfl,
    by rw [constraintsParse_eq hparse hindex htrim hwhole (.inl rfl), hcs]; rfl,
    by rw [constraintsParse_eq hparse hindex htrim hwhole (.inr rfl), hcs]; rfl, ?_⟩
  intro node parent hchildren
  -- each of the readers is compared with what the header asks
  tfae_have 1 ↔ 2 := fits_iff_targets ⟨_, header, _, _, _, _⟩
  tfae_have 1 ↔ 3 := fits_iff
  tfae_have 1 ↔ 4 := fits_iff_positions hindex hchildren
  tfae_have 1 ↔ 5 := by simp [holds_node_iff, hchildren]
  tfae_have 1 ↔ 6 := by simp [holds_node_iff, hchildren]
  tfae_finish

/-- A header for parts whose names are an `a` and another character, which have a value `x` and a
module without a value `y`. -/
def nestedHeader : Header :=
  ⟨"PART".toList, some "a*".toList, some "#x,@MODULE:HAS[~y]".toList, none⟩

/-- Its constraints. -/
def nestedConstraints : Constraints :=
  [.value ['x'] .present false,
    .node "MODULE".toList none [.value ['y'] .present true] false]

/-- A list is cut at its separators, and not at those of the lists in it. -/
theorem readConstraints_nestedHeader : nestedHeader.readConstraints = .ok nestedConstraints := by
  have htexts : atomTexts "#x,@MODULE:HAS[~y]".toList =
      ["#x".toList, "@MODULE:HAS[~y]".toList] := by decide
  have hmodule : Atom.parse "@MODULE:HAS[~y]".toList =
      .ok (.node "MODULE".toList none [.value ['y'] .present true] false) := by
    have hinner : parse "MODULE:HAS[~y]".toList =
        .ok ⟨"MODULE".toList, none, some "~y".toList, none⟩ := by decide +kernel
    exact (atomParse_eq hinner rfl (.inl rfl)).trans (by cbv)
  have hvalue : Atom.parse "#x".toList = .ok (.value ['x'] .present false) := by cbv
  have htrim : trim "#x".toList = "#x".toList := by decide
  have htrim' : trim "@MODULE:HAS[~y]".toList = "@MODULE:HAS[~y]".toList := by decide
  rw [readConstraints, nestedHeader]
  simp only [Constraints.parse, htexts, Atom.parseAll, htrim, htrim', hvalue, hmodule]
  rfl

/-- The part that the header is for: it has a name of two letters, a value `x` and a module. -/
theorem readers_agree_nestedHeader :
    let h : Text := "PART[a*]:HAS[#x,@MODULE:HAS[~y]]".toList
    let part : Node := ⟨"PART".toList, none, [⟨"name".toList, "ab".toList⟩, ⟨['x'], ['1']⟩],
      [.ofName "MODULE".toList]⟩
    let parent : Node := { part with children := [part] }
    ∃ m present absent,
      Matcher.parse h = .ok m ∧ m.accepts part ∧
      Constraints.parse ('@' :: h) = .ok [present] ∧ present.holds parent ∧
      Constraints.parse ('!' :: h) = .ok [absent] ∧ ¬absent.holds parent := by
  intro h part parent
  have hparse : parse h = .ok nestedHeader := by decide +kernel
  have hname : (Node.ofName ('@' :: h)).name = '@' :: h := rfl
  obtain ⟨_, m, present, absent, _, _, _, hm, hpresent, habsent, hagree⟩ :=
    readers_agree hparse rfl (by decide) (by decide) readConstraints_nestedHeader hname 0 [] none
  have hfits : nestedHeader.Fits nestedConstraints part := fits_iff.2 (by decide +kernel)
  have hall := hagree part parent rfl
  exact ⟨m, present, absent, hm, (hall.out 0 2).1 hfits, hpresent, (hall.out 0 4).1 hfits,
    habsent, (hall.out 0 5).1 hfits⟩

end Header

end CfgPatch
