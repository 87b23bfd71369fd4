import CfgPatch.Proofs.Naming
import CfgPatch.Proofs.Picking
import Mathlib.Data.List.Sort

/-!
# What an item of a body does to children

An item of a body that speaks of children picks some of them by its header. Which ones these are
is told by their positions in the list as it was when the item had its turn (`Matcher.places`):
the list is edited, appended to and cut down at these positions afterwards, and an edit may well
make of a child something that the header no longer matches. `Body.ChildEffect` says for every
command what the list becomes, and `applyChild_effect` that it does, with the rest of the node as
it was.
-/

namespace CfgPatch

open Text

/-! ## The positions that are picked -/

namespace Index

variable {α : Type} {isMatch : α → Bool} {xs : List α} {x : α} {i : Nat}

/-- The number of a match is the number of the matches in front of it. -/
theorem getElem?_positions_count (hx : xs[i]? = some x) (hmatch : isMatch x) :
    (positions isMatch xs)[(xs.take i).countP isMatch]? = some i := by
  have hmem : i ∈ positions isMatch xs := mem_positions.2 ⟨x, hx, hmatch⟩
  obtain ⟨rank, hrank⟩ := List.mem_iff_getElem?.1 hmem
  obtain ⟨as, y, bs, rfl, rfl, _, rfl⟩ := exists_append_of_getElem?_positions hrank
  rw [List.take_left, List.countP_eq_length_filter]
  exact hrank

end Index

namespace Matcher

/-- Whether the node at a position of a list is picked: it is a match, and the index is about the
number of matches in front of it. -/
def picksAt (m : Matcher) (nodes : List Node) (i : Nat) : Bool :=
  nodes[i]?.any m.accepts && Index.picks m.index ((nodes.take i).countP m.accepts)

/-- The positions of the nodes of a list that are picked, from the front to the back. -/
def places (m : Matcher) (nodes : List Node) : List Nat :=
  (List.range nodes.length).filter (m.picksAt nodes)

variable {m : Matcher} {nodes : List Node} {i : Nat}

theorem lt_length_of_mem_places (h : i ∈ m.places nodes) : i < nodes.length :=
  List.mem_range.1 (List.mem_filter.1 h).1

theorem places_pairwise (m : Matcher) (nodes : List Node) : (m.places nodes).Pairwise (· < ·) :=
  List.pairwise_lt_range.filter _

theorem positions_pairwise (m : Matcher) (nodes : List Node) :
    (m.positions nodes).Pairwise (· < ·) :=
  (Index.positions_pairwise m.accepts nodes).sublist (Index.pick_sublist m.index _)

theorem mem_positions_iff : i ∈ m.positions nodes ↔ m.picksAt nodes i := by
  have hnodup := Index.positions_nodup m.accepts nodes
  rw [picksAt, positions]
  cases hx : nodes[i]? with
  | none =>
    have hnot : i ∉ Index.pick m.index (Index.positions m.accepts nodes) := by
      intro hmem
      obtain ⟨x, hfound, _⟩ := Index.mem_positions.1 (Index.mem_of_mem_pick hmem)
      exact absurd (hfound.symm.trans hx) (by simp)
    simp [hnot]
  | some x =>
    by_cases hmatch : m.accepts x
    · have hrank := Index.getElem?_positions_count hx hmatch
      rw [Index.mem_pick_iff m.index hnodup hrank]
      simp [hmatch]
    · have hnot : i ∉ Index.pick m.index (Index.positions m.accepts nodes) := by
        intro hmem
        obtain ⟨y, hy, hyes⟩ := Index.mem_positions.1 (Index.mem_of_mem_pick hmem)
        obtain rfl := Option.some.inj (hx.symm.trans hy)
        exact hmatch hyes
      simp [hnot, hmatch]

theorem mem_places_iff : i ∈ m.places nodes ↔ m.picksAt nodes i := by
  rw [places, List.mem_filter, List.mem_range, and_iff_right_iff_imp]
  intro hpicked
  obtain ⟨x, hx, _⟩ := Index.mem_positions.1 (Index.mem_of_mem_pick (mem_positions_iff.2 hpicked))
  exact (List.getElem?_eq_some_iff.1 hx).1

theorem positions_eq_places (m : Matcher) (nodes : List Node) :
    m.positions nodes = m.places nodes :=
  (m.positions_pairwise nodes).eq_of_mem_iff (m.places_pairwise nodes) fun _ =>
    mem_positions_iff.trans mem_places_iff.symm

end Matcher

/-! ## Leaving out positions -/

namespace Picked

variable {α β : Type}

theorem map_remove (g : α → β) (is : List Nat) (xs : List α) :
    (remove is xs).map g = remove is (xs.map g) := by
  induction is with
  | nil => rfl
  | cons i is ih => rw [remove_cons, remove_cons, ← ih, List.eraseIdx_map]

/-- What is left without the members at some positions is the members at the others. -/
theorem remove_eq_filter {is : List Nat} {xs : List α} (hsorted : is.Pairwise (· < ·))
    (hlt : ∀ i ∈ is, i < xs.length) :
    remove is xs = (xs.zipIdx.filter (·.2 ∉ is)).map (·.1) := by
  -- among members that know their positions, the ones at the positions are matches
  let atPlace : α × Nat → Bool := fun p => p.2 ∈ is
  have hplaces : Index.positions atPlace xs.zipIdx = is := by
    refine (Index.positions_pairwise _ _).eq_of_mem_iff hsorted fun i => ?_
    simp only [Index.mem_positions, List.getElem?_zipIdx, Option.map_eq_some_iff, atPlace]
    constructor
    · rintro ⟨_, ⟨x, _, rfl⟩, hmem⟩
      simpa using hmem
    · intro hmem
      have hi : i < xs.length := hlt i hmem
      exact ⟨(xs[i], 0 + i), ⟨_, List.getElem?_eq_getElem hi, rfl⟩, by simpa using hmem⟩
  have hremove := congrArg (List.map (·.1)) (remove_positions atPlace xs.zipIdx)
  rw [hplaces, map_remove, List.zipIdx_map_fst] at hremove
  rw [hremove]
  simp [atPlace]

end Picked

theorem Node.mk_eta (node : Node) :
    Node.mk node.name node.id node.fields node.children = node := by
  cases node
  rfl

namespace Body

variable {scope : Scope} {node node' : Node} {edit : Node → Outcome Node}

/-! ## Steps that are complete -/

theorem attempt_eq_done {α : Type} {x : Except PatchError α} {f : α → Outcome Node} :
    attempt node x f = .done node' ↔ ∃ a, x = .ok a ∧ f a = .done node' := by
  cases x <;> simp [attempt]

theorem toExcept_eq_ok {α : Type} {o : Outcome α} {a : α} : o.toExcept = .ok a ↔ o = .done a := by
  cases o <;> simp [Outcome.toExcept]

/-- A new node is what the body of a child makes of a node with its type and nothing else. -/
theorem build_eq_ok {type : Text} {child new : Node} :
    build type child edit = .ok new ↔ edit ⟨type, child.id, [], []⟩ = .done new :=
  toExcept_eq_ok

/-- The node apart from its children is not touched when these are edited. -/
theorem editChildren_eq_done {f : List Node → Outcome (List Node)} :
    editChildren node f = .done node' ↔
      ∃ cs, f node.children = .done cs ∧ { node with children := cs } = node' :=
  Outcome.within_eq_done

/-- Copies stand behind the children there were, one for each position. -/
theorem appendCopies_eq_done {is : List Nat} {old : List Node} (hlt : ∀ i ∈ is, i < old.length)
    (hold : old <+: node.children) (h : appendCopies edit is node = .done node') :
    ∃ copies, node' = { node with children := node.children ++ copies } ∧
      List.Forall₂ (fun i copy => ∃ x, old[i]? = some x ∧ edit x = .done copy) is copies := by
  induction is generalizing node with
  | nil =>
    obtain rfl := Outcome.done.inj h
    exact ⟨[], by rw [List.append_nil, node.mk_eta], .nil⟩
  | cons i is ih =>
    obtain ⟨hi, hrest⟩ := List.forall_mem_cons.1 hlt
    -- what is copied is one of the children there were
    have hsource : node.children[i]? = some old[i] := by
      obtain ⟨more, hmore⟩ := hold
      rw [← hmore, List.getElem?_append_left hi, List.getElem?_eq_getElem hi]
    rw [appendCopies, hsource] at h
    obtain ⟨copy, hcopy, h⟩ := attempt_eq_done.1 h
    have hkept : old <+: (node.addChild copy).children := hold.trans (List.prefix_append ..)
    obtain ⟨copies, rfl, hcopies⟩ := ih hrest hkept h
    refine ⟨copy :: copies, by simp [Node.addChild], .cons ⟨old[i], ?_, ?_⟩ hcopies⟩
    · exact List.getElem?_eq_getElem hi
    · exact toExcept_eq_ok.1 hcopy

/-! ## What the children become -/

/-- The node that a child of a body makes, if it makes a new one of the given type. -/
def IsFresh (scope : Scope) (child : Node) (type : Text) (new : Node) : Prop :=
  apply scope child ⟨type, child.id, [], []⟩ = .done new

/-- What the children of a node become by a child of a body that can be applied. The positions
are those in the list as it was before. -/
def ChildEffect (scope : Scope) (child : Node) (old new : List Node) : Prop :=
  let rest := (Verb.cut child.name).2.2
  match (Verb.cut child.name).1 with
  | .insert => ∃ node, IsFresh scope child child.name node ∧ new = old ++ [node]
  | .shared .edit =>
    ∃ m, Matcher.parse rest = .ok m ∧ new.length = old.length ∧
      ∀ i x, old[i]? = some x → ∃ y, new[i]? = some y ∧
        if i ∈ m.places old then apply scope child x = .done y else y = x
  | .shared .delete =>
    ∃ m, Matcher.parse rest = .ok m ∧
      new = (old.zipIdx.filter (·.2 ∉ m.places old)).map (·.1)
  | .shared .copy =>
    ∃ m copies, Matcher.parse rest = .ok m ∧ new = old ++ copies ∧
      List.Forall₂ (fun i copy => ∃ x, old[i]? = some x ∧ apply scope child x = .done copy)
        (m.places old) copies
  | .own .replace =>
    ∃ m node, Matcher.parse rest = .ok m ∧ IsFresh scope child m.type node ∧
      new = match m.places old with
        | [] => old ++ [node]
        | i :: _ => old.set i node
  | .own .create =>
    ∃ m, Matcher.parse rest = .ok m ∧
      if m.places old = [] then ∃ node, IsFresh scope child m.type node ∧ new = old ++ [node]
      else new = old
  | .own .paste =>
    ∃ found copy, Reference.node scope (trim rest) = .ok found ∧
      apply scope child found = .done copy ∧ new = old ++ [copy]
  | .own .rename | .own .special => False

/-! ## Command by command -/

section Command

variable {child : Node} {symbol : Char} {rest : Text}
  (h : applyChild scope child (apply scope child) node = .done node')

include h

/-- A child without a command stands behind all children as a new node. -/
theorem applyChild_insert (hcut : Verb.cut child.name = (.insert, symbol, rest)) :
    ∃ new, ChildEffect scope child node.children new ∧ { node with children := new } = node' := by
  simp only [applyChild, hcut] at h
  obtain ⟨fresh, hfresh, h⟩ := attempt_eq_done.1 h
  refine ⟨_, ?_, Outcome.done.inj h⟩
  simp only [ChildEffect, hcut]
  exact ⟨fresh, build_eq_ok.1 hfresh, rfl⟩

/-- An edit changes each of the children that are picked on its own and leaves the others. -/
theorem applyChild_edit (hcut : Verb.cut child.name = (.shared .edit, symbol, rest)) :
    ∃ new, ChildEffect scope child node.children new ∧ { node with children := new } = node' := by
  simp only [applyChild, hcut] at h
  obtain ⟨m, hm, h⟩ := attempt_eq_done.1 h
  obtain ⟨new, hedit, hnode⟩ := editChildren_eq_done.1 h
  rw [Matcher.positions_eq_places] at hedit
  have hnodup : (m.places node.children).Nodup := (m.places_pairwise _).imp Nat.ne_of_lt
  obtain ⟨hlen, hget⟩ := Picked.getElem?_edit hnodup hedit
  refine ⟨new, ?_, hnode⟩
  simp only [ChildEffect, hcut]
  refine ⟨m, hm, hlen, fun i x hx => ?_⟩
  obtain ⟨hkept, hedited⟩ := hget i x hx
  by_cases hi : i ∈ m.places node.children
  · obtain ⟨y, hy, hnew⟩ := hedited hi
    exact ⟨y, hnew, by rw [if_pos hi]; exact hy⟩
  · exact ⟨x, hkept hi, by rw [if_neg hi]⟩

/-- A deletion leaves out the children that are picked. -/
theorem applyChild_delete (hcut : Verb.cut child.name = (.shared .delete, symbol, rest)) :
    ∃ new, ChildEffect scope child node.children new ∧ { node with children := new } = node' := by
  simp only [applyChild, hcut] at h
  obtain ⟨m, hm, h⟩ := attempt_eq_done.1 h
  obtain ⟨new, hremove, hnode⟩ := editChildren_eq_done.1 h
  obtain rfl := Outcome.done.inj hremove
  refine ⟨_, ?_, hnode⟩
  simp only [ChildEffect, hcut]
  refine ⟨m, hm, ?_⟩
  rw [Matcher.positions_eq_places]
  exact Picked.remove_eq_filter (m.places_pairwise _) fun i => Matcher.lt_length_of_mem_places

/-- Copies of the children that are picked, each edited on its own, stand behind all children. -/
theorem applyChild_copy (hcut : Verb.cut child.name = (.shared .copy, symbol, rest)) :
    ∃ new, ChildEffect scope child node.children new ∧ { node with children := new } = node' := by
  simp only [applyChild, hcut] at h
  obtain ⟨m, hm, h⟩ := attempt_eq_done.1 h
  rw [Matcher.positions_eq_places] at h
  obtain ⟨copies, rfl, hcopies⟩ := appendCopies_eq_done
    (fun i => Matcher.lt_length_of_mem_places) List.prefix_rfl h
  refine ⟨_, ?_, rfl⟩
  simp only [ChildEffect, hcut]
  exact ⟨m, copies, hm, rfl, hcopies⟩

/-- A new node takes the place of the first child that is picked; if there is none, it stands
behind all children. -/
theorem applyChild_replace (hcut : Verb.cut child.name = (.own .replace, symbol, rest)) :
    ∃ new, ChildEffect scope child node.children new ∧ { node with children := new } = node' := by
  simp only [applyChild, hcut] at h
  obtain ⟨m, hm, h⟩ := attempt_eq_done.1 h
  obtain ⟨fresh, hfresh, h⟩ := attempt_eq_done.1 h
  obtain ⟨new, hreplace, hnode⟩ := editChildren_eq_done.1 h
  obtain rfl := Outcome.done.inj hreplace
  refine ⟨_, ?_, hnode⟩
  simp only [ChildEffect, hcut]
  refine ⟨m, fresh, hm, build_eq_ok.1 hfresh, ?_⟩
  rw [Matcher.positions_eq_places]
  cases m.places node.children <;> rfl

/-- A new node stands behind all children, unless some child is picked. -/
theorem applyChild_create (hcut : Verb.cut child.name = (.own .create, symbol, rest)) :
    ∃ new, ChildEffect scope child node.children new ∧ { node with children := new } = node' := by
  simp only [applyChild, hcut] at h
  obtain ⟨m, hm, h⟩ := attempt_eq_done.1 h
  rw [Matcher.positions_eq_places] at h
  simp only [ChildEffect, hcut]
  by_cases hnone : m.places node.children = []
  · rw [if_pos (by rw [hnone]; rfl)] at h
    obtain ⟨fresh, hfresh, h⟩ := attempt_eq_done.1 h
    refine ⟨_, ⟨m, hm, ?_⟩, Outcome.done.inj h⟩
    rw [if_pos hnone]
    exact ⟨fresh, build_eq_ok.1 hfresh, rfl⟩
  · rw [if_neg (by simpa using hnone)] at h
    refine ⟨node.children, ⟨m, hm, ?_⟩, node.mk_eta.trans (Outcome.done.inj h)⟩
    rw [if_neg hnone]

/-- An edited copy of the node at the end of a path stands behind all children. -/
theorem applyChild_paste (hcut : Verb.cut child.name = (.own .paste, symbol, rest)) :
    ∃ new, ChildEffect scope child node.children new ∧ { node with children := new } = node' := by
  simp only [applyChild, hcut] at h
  obtain ⟨found, hfound, h⟩ := attempt_eq_done.1 h
  obtain ⟨copy, hcopy, h⟩ := attempt_eq_done.1 h
  refine ⟨_, ?_, Outcome.done.inj h⟩
  simp only [ChildEffect, hcut]
  exact ⟨found, copy, hfound, toExcept_eq_ok.1 hcopy, rfl⟩

end Command

/-! ## Every command -/

/-- A child of a body that can be applied to a node touches the children of the node and nothing
else, and of these the ones that are picked in the list as it was, as its command says. -/
theorem applyChild_effect {child : Node}
    (h : applyChild scope child (apply scope child) node = .done node') :
    node'.name = node.name ∧ node'.id = node.id ∧ node'.fields = node.fields ∧
      ChildEffect scope child node.children node'.children := by
  have heffect : ∃ new, ChildEffect scope child node.children new ∧
      { node with children := new } = node' := by
    cases hcut : Verb.cut child.name with
    | mk verb cut =>
      obtain ⟨symbol, rest⟩ := cut
      -- to rename and to fetch are about values
      have hfails : verb = .own .rename ∨ verb = .own .special → False := by
        rintro (rfl | rfl) <;> simp [applyChild, hcut] at h
      cases verb with
      | insert => exact applyChild_insert h hcut
      | shared command =>
        cases command with
        | edit => exact applyChild_edit h hcut
        | copy => exact applyChild_copy h hcut
        | delete => exact applyChild_delete h hcut
      | own command =>
        cases command with
        | replace => exact applyChild_replace h hcut
        | create => exact applyChild_create h hcut
        | paste => exact applyChild_paste h hcut
        | rename => exact (hfails (.inl rfl)).elim
        | special => exact (hfails (.inr rfl)).elim
  obtain ⟨new, hnew, rfl⟩ := heffect
  exact ⟨rfl, rfl, rfl, hnew⟩

/-- A part with a tank between its two modules. -/
def twoModules : Node where
  name := "PART".toList
  id := none
  fields := []
  children := [
    ⟨"MODULE".toList, none, [⟨['a'], ['1']⟩], []⟩,
    ⟨"TANK".toList, none, [], []⟩,
    ⟨"MODULE".toList, none, [⟨['a'], ['2']⟩], []⟩]

/-- Copies every module and adds a value to each copy. -/
def copyModules : Node := ⟨"+MODULE,*".toList, none, [⟨['b'], ['3']⟩], []⟩

/-- Every module is copied, but none of the copies, although these are modules as well. -/
theorem applyChild_effect_twoModules :
    let scope : Scope := ⟨.empty, twoModules⟩
    let m : Matcher := ⟨"MODULE".toList, none, [], some .every⟩
    let copies : List Node := [
      ⟨"MODULE".toList, none, [⟨['a'], ['1']⟩, ⟨['b'], ['3']⟩], []⟩,
      ⟨"MODULE".toList, none, [⟨['a'], ['2']⟩, ⟨['b'], ['3']⟩], []⟩]
    let node' : Node := { twoModules with children := twoModules.children ++ copies }
    Matcher.parse "MODULE,*".toList = .ok m ∧
    m.places twoModules.children = [0, 2] ∧ m.places node'.children = [0, 2, 3, 4] ∧
    applyChild scope copyModules (apply scope copyModules) twoModules = .done node' ∧
    node'.fields = twoModules.fields ∧
    ChildEffect scope copyModules twoModules.children node'.children := by
  intro scope m copies node'
  have happly : applyChild scope copyModules (apply scope copyModules) twoModules =
      .done node' := by decide +kernel
  obtain ⟨_, _, hfields, heffect⟩ := applyChild_effect happly
  exact ⟨by cbv, by decide +kernel, by decide +kernel, happly, hfields, heffect⟩

end Body

end CfgPatch
