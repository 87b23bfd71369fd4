import CfgPatch.Proofs.Locality

/-!
# How a looping edit ends

The body of an edit with a loop marker is applied to a target again and again, as long as the
result satisfies the constraints. The rounds are numbered from one, and their number is limited.
There are three ways for them to end (`LoopEnd`), of which exactly one comes about: the result of
a round no longer satisfies the constraints, and that is what the entry becomes; the body fails in
a round; or the last round that is allowed has a result that asks for another one. In the latter
two the entry is left as it was, however many rounds had come to something.
-/

namespace CfgPatch

/-! ## The three ways to end -/

/-- A way for the rounds of an edit to end. -/
inductive LoopEnd where
  /-- A round comes to a node that does not satisfy the constraints. -/
  | settles (round : Nat) (node : Node)
  /-- The body fails in a round. -/
  | fails (round : Nat) (error : PatchError)
  /-- All rounds that are allowed come to nodes that satisfy the constraints. -/
  | exhausted

/-- A round comes to a node, which satisfies the constraints. -/
def Directive.Satisfies (d : Directive) (cs : Constraints) (scope : Scope) (round : Nat) : Prop :=
  ∃ x, Body.repeated scope d.node round scope.root = .ok x ∧ cs.satisfiedBy x

/-- A looping edit goes on for as long as the constraints are satisfied. -/
theorem Directive.goesOn_iff {d : Directive} (hloop : d.isLoop) {cs : Constraints} {x : Node} :
    d.goesOn cs x ↔ cs.satisfiedBy x := by
  rw [goesOn, hloop, Bool.true_and]

namespace LoopEnd

/-- The rounds of an edit end in this way. References are looked up in the scope of the target,
whose root is the node as it was before the first round. -/
def Holds (d : Directive) (cs : Constraints) (scope : Scope) (limit : Nat) : LoopEnd → Prop
  | .settles k node =>
    0 < k ∧ k ≤ limit ∧ (∀ i, 0 < i → i < k → d.Satisfies cs scope i) ∧
      Body.repeated scope d.node k scope.root = .ok node ∧ ¬cs.satisfiedBy node
  | .fails k e =>
    0 < k ∧ k ≤ limit ∧ (∀ i, 0 < i → i < k → d.Satisfies cs scope i) ∧
      ∃ x, Body.repeated scope d.node (k - 1) scope.root = .ok x ∧
        (Body.apply scope d.node x).toExcept = .error e
  | .exhausted => ∀ i, 0 < i → i ≤ limit → d.Satisfies cs scope i

/-- The number of rounds that are taken. -/
def rounds (limit : Nat) : LoopEnd → Nat
  | .settles k _ | .fails k _ => k
  | .exhausted => limit

/-- What an edit results in. -/
def result (limit : Nat) : LoopEnd → Except PatchError Node
  | .settles _ node => .ok node
  | .fails _ e => .error e
  | .exhausted => .error (.loopLimit limit)

/-- The node that an edit leaves in the place of the given one. -/
def leaves (node : Node) : LoopEnd → Node
  | .settles _ edited => edited
  | .fails .. | .exhausted => node

/-- The turn of a target. -/
def turn (d : Directive) (limit : Nat) (cat : Catalog) (id : EntryId) (entry : Entry)
    (w : LoopEnd) : Turn where
  target := id
  before := cat
  after :=
    match w with
    | .settles _ edited => cat.setNode id edited
    | .fails .. | .exhausted => cat
  events :=
    let announced : List Event :=
      .replicate (w.rounds limit) (.updating (cat.refOf id entry) d.ref)
    match w with
    | .settles .. => announced
    | .fails _ e => announced ++ [.error d.ref (.failed e (cat.refOf id entry).url)]
    | .exhausted =>
      announced ++ [.error d.ref (.failed (.loopLimit limit) (cat.refOf id entry).url)]
  notes := .replicate (w.rounds limit - 1) (.looping d.url (cat.refOf id entry).url)

variable {d : Directive} {cs : Constraints} {scope : Scope} {limit : Nat}

/-- The entry becomes what the last round has come to, or stays. -/
theorem get?_after_turn {cat : Catalog} {id : EntryId} {entry : Entry}
    (hget : cat.get? id = some entry) (w : LoopEnd) :
    (w.turn d limit cat id entry).after.get? id = some ⟨entry.file, w.leaves entry.node⟩ := by
  cases w with
  | settles k edited => simp [turn, leaves, Catalog.get?_setNode, hget]
  | fails k e => exact hget
  | exhausted => exact hget

/-! ## One way and no other -/

/-- The ways to end are the ways in which rounds end. -/
theorem Holds.rounds_of_isLoop (hloop : d.isLoop) {w : LoopEnd} {more : Nat}
    (h : w.Holds d cs scope (more + 1)) :
    d.Rounds cs scope more 0 scope.root (w.rounds (more + 1)) (w.result (more + 1)) := by
  have hagain : ∀ i, d.Satisfies cs scope i →
      ∃ x, Body.repeated scope d.node i scope.root = .ok x ∧ d.goesOn cs x :=
    fun i ⟨x, hx, hsat⟩ => ⟨x, hx, (Directive.goesOn_iff hloop).2 hsat⟩
  cases w with
  | settles k node =>
    obtain ⟨hpos, hle, hbefore, hnode, hstop⟩ := h
    refine ⟨hpos, hle, fun i hi hlt => hagain i (hbefore i hi hlt), .inl ⟨hnode, ?_⟩⟩
    rintro x hx hgoes
    obtain rfl := Except.ok.inj hx
    exact hstop ((Directive.goesOn_iff hloop).1 hgoes)
  | fails k e =>
    obtain ⟨hpos, hle, hbefore, x, hx, hfails⟩ := h
    obtain ⟨k, rfl⟩ := Nat.exists_eq_succ_of_ne_zero (Nat.ne_of_gt hpos)
    refine ⟨hpos, hle, fun i hi hlt => hagain i (hbefore i hi hlt), .inl ⟨?_, nofun⟩⟩
    rw [rounds, Body.repeated_succ_eq_bind]
    rw [Nat.succ_sub_one] at hx
    rw [hx]
    exact hfails
  | exhausted =>
    refine ⟨Nat.succ_pos _, Nat.le_refl _, fun i hi hlt => ?_, .inr ⟨rfl, ?_, ?_⟩⟩
    · exact hagain i (h i hi (Nat.le_of_lt hlt))
    · rw [rounds, Nat.zero_add]
      rfl
    · exact hagain _ (h _ (Nat.succ_pos more) (Nat.le_refl _))

/-- Rounds do not end in two ways. -/
theorem Holds.unique (hloop : d.isLoop) {w w' : LoopEnd} {more : Nat}
    (h : w.Holds d cs scope (more + 1)) (h' : w'.Holds d cs scope (more + 1)) : w = w' := by
  have hends := h.rounds_of_isLoop hloop
  obtain ⟨hcount, hresult⟩ := hends.unique (h'.rounds_of_isLoop hloop)
  -- what remains is to tell the limit from a failure of the body in the last round
  have hlast : ∀ e, ¬(LoopEnd.Holds d cs scope (more + 1) (.fails (more + 1) e) ∧
      LoopEnd.Holds d cs scope (more + 1) .exhausted) := by
    rintro e ⟨⟨_, _, _, x, hx, hfails⟩, hall⟩
    obtain ⟨y, hy, _⟩ := hall (more + 1) (Nat.succ_pos more) (Nat.le_refl _)
    rw [Nat.add_sub_cancel] at hx
    rw [Body.repeated_succ_eq_bind, hx, Except.bind, hfails] at hy
    exact absurd hy (by simp)
  cases w with
  | settles k node =>
    cases w' with
    | settles k' node' =>
      obtain rfl : k = k' := hcount
      obtain rfl := Except.ok.inj hresult
      rfl
    | fails => exact absurd hresult (by simp [result])
    | exhausted => exact absurd hresult (by simp [result])
  | fails k e =>
    cases w' with
    | settles => exact absurd hresult (by simp [result])
    | fails k' e' =>
      obtain rfl : k = k' := hcount
      obtain rfl := Except.error.inj hresult
      rfl
    | exhausted =>
      obtain rfl : k = more + 1 := hcount
      exact absurd ⟨h, h'⟩ (hlast e)
  | exhausted =>
    cases w' with
    | settles => exact absurd hresult (by simp [result])
    | fails k' e' =>
      obtain rfl : more + 1 = k' := hcount
      exact absurd ⟨h', h⟩ (hlast e')
    | exhausted => rfl

/-- Rounds end in one of the ways. -/
theorem exists_holds_of_rounds (hloop : d.isLoop) {more k : Nat} {r : Except PatchError Node}
    (h : d.Rounds cs scope more 0 scope.root k r) :
    ∃ w : LoopEnd, w.Holds d cs scope (more + 1) ∧ k = w.rounds (more + 1) ∧
      r = w.result (more + 1) := by
  have hbefore : ∀ i, 0 < i → i < k → d.Satisfies cs scope i := by
    intro i hi hlt
    obtain ⟨x, hx, hgoes⟩ := h.again i hi hlt
    exact ⟨x, hx, (Directive.goesOn_iff hloop).1 hgoes⟩
  rcases h.ends with ⟨hend, hstop⟩ | ⟨rfl, rfl, x, hx, hgoes⟩
  · cases r with
    | ok node =>
      refine ⟨.settles k node, ⟨h.pos, h.within, hbefore, hend, fun hsat => ?_⟩, rfl, rfl⟩
      exact hstop node rfl ((Directive.goesOn_iff hloop).2 hsat)
    | error e =>
      refine ⟨.fails k e, ⟨h.pos, h.within, hbefore, ?_⟩, rfl, rfl⟩
      have hpos := h.pos
      obtain ⟨k, rfl⟩ := Nat.exists_eq_succ_of_ne_zero (Nat.ne_of_gt hpos)
      -- the rounds before the last one have come to something
      obtain ⟨x, hx⟩ : ∃ x, Body.repeated scope d.node k scope.root = .ok x := by
        rcases Nat.eq_zero_or_pos k with rfl | hk
        · exact ⟨scope.root, rfl⟩
        · obtain ⟨x, hx, _⟩ := hbefore k hk (Nat.lt_succ_self k)
          exact ⟨x, hx⟩
      rw [Body.repeated_succ_eq_bind, hx] at hend
      exact ⟨x, hx, hend⟩
  · refine ⟨.exhausted, fun i hi hle => ?_, rfl, by rw [Nat.zero_add]; rfl⟩
    rcases Nat.lt_or_eq_of_le hle with hlt | rfl
    · exact hbefore i hi hlt
    · exact ⟨x, hx, (Directive.goesOn_iff hloop).1 hgoes⟩

end LoopEnd

/-! ## The turns of a looping edit -/

variable {l : Listener} {o : Options} {d : Directive} {cs : Constraints}

/-- A turn of a looping edit ends in one of the three ways. -/
theorem Turn.Ends.exists_loopEnd (hloop : d.isLoop) {t : Turn} (h : t.Ends o d cs .edit)
    {entry : Entry} (hget : t.before.get? t.target = some entry) :
    ∃ w : LoopEnd, w.Holds d cs ⟨t.before, entry.node⟩ (o.moreRounds + 1) ∧
      t = w.turn d (o.moreRounds + 1) t.before t.target entry := by
  rcases h with h | h
  · cases h with
    | edit there rounds =>
      obtain rfl := Option.some.inj (hget.symm.trans there)
      obtain ⟨w, hw, rfl, hresult⟩ := LoopEnd.exists_holds_of_rounds hloop rounds
      refine ⟨w, hw, ?_⟩
      cases w with
      | settles k node =>
        obtain rfl := Except.ok.inj hresult
        rfl
      | fails => exact absurd hresult (by simp [LoopEnd.result])
      | exhausted => exact absurd hresult (by simp [LoopEnd.result])
  · cases h with
    | edit there rounds =>
      obtain rfl := Option.some.inj (hget.symm.trans there)
      obtain ⟨w, hw, rfl, hresult⟩ := LoopEnd.exists_holds_of_rounds hloop rounds
      refine ⟨w, hw, ?_⟩
      cases w with
      | settles => exact absurd hresult (by simp [LoopEnd.result])
      | fails k e =>
        obtain rfl := Except.error.inj hresult
        rfl
      | exhausted =>
        obtain rfl := Except.error.inj hresult
        rfl

/-- Without constraints there is always another round to ask for. -/
theorem LoopEnd.Holds.ne_settles {scope : Scope} {limit : Nat} {w : LoopEnd}
    (h : w.Holds d [] scope limit) (k : Nat) (node : Node) : w ≠ .settles k node := by
  rintro rfl
  obtain ⟨_, _, _, _, hstop⟩ := h
  exact hstop rfl

/-- An edit with a loop marker gives each target one turn, which ends in exactly one of three
ways. In round `k` the constraints are no longer satisfied: then `k` rounds are announced, all
but the first are noted, and the entry becomes what they have come to. Or the body fails in a
round, or as many rounds are taken as are allowed, at least one: then one error is told, and the
entry stays as it was. -/
theorem apply_loop (hl : l.NeverFails) (o : Options) (hedit : d.command = some .edit)
    (hloop : d.isLoop) (cat : Catalog) (j : Journal) :
    (∀ e, d.constraints = .error e → d.apply l o cat j =
      .ok (cat, j.add [.error d.ref (.badConstraints e), .applied] [])) ∧
    ∀ cs, d.constraints = .ok cs → ∃ ts last,
      d.apply l o cat j =
        .ok (last, j.add (ts.flatMap (·.events) ++ [.applied]) (ts.flatMap (·.notes))) ∧
      Turn.Lead cat ts last ∧ ts.map (·.target) = d.targetIds cs cat ∧
      ∀ t ∈ ts, ∃ entry, cat.get? t.target = some entry ∧
        t.before.get? t.target = some entry ∧ d.isTarget cs entry.node ∧
        ∃ w : LoopEnd, w.Holds d cs ⟨t.before, entry.node⟩ (max 1 o.maxRounds) ∧
          (∀ w' : LoopEnd, w'.Holds d cs ⟨t.before, entry.node⟩ (max 1 o.maxRounds) → w' = w) ∧
          t = w.turn d (max 1 o.maxRounds) t.before t.target entry ∧
          last.get? t.target = some ⟨entry.file, w.leaves entry.node⟩ ∧
          (d.header.constraints = none → ∀ k node, w ≠ .settles k node) := by
  refine ⟨fun e he => Directive.apply_of_badConstraints hl hedit he cat j, fun cs hcs => ?_⟩
  obtain ⟨ts, last, hlead, hall, htargets, hrun⟩ :=
    Directive.apply_turns (o := o) hl hedit hcs cat j
  have hlimit : max 1 o.maxRounds = o.moreRounds + 1 := by
    rw [Options.moreRounds]
    omega
  have hnodup : (ts.map (·.target)).Nodup := by
    rw [htargets, Directive.targetIds_eq]
    exact (Catalog.ids_nodup cat).filter _
  rw [hlimit]
  refine ⟨ts, last, hrun, hlead, htargets, fun t ht => ?_⟩
  have hid : t.target ∈ d.targetIds cs cat := htargets ▸ List.mem_map_of_mem ht
  obtain ⟨entry, hget, htarget⟩ := Directive.mem_targetIds.1 hid
  obtain ⟨hbefore, hafter⟩ := hlead.get?_target_of_edits hall hnodup ht
  have hthere : t.before.get? t.target = some entry := hbefore.trans hget
  obtain ⟨w, hw, hturn⟩ := (hall t ht).exists_loopEnd hloop hthere
  refine ⟨entry, hget, hthere, htarget, w, hw, fun w' hw' => hw'.unique hloop hw, hturn, ?_, ?_⟩
  · rw [hafter, hturn]
    exact LoopEnd.get?_after_turn hthere w
  · intro hnone
    have hnil : cs = [] := by
      rw [Directive.constraints, hnone] at hcs
      exact (Except.ok.inj hcs).symm
    subst hnil
    exact hw.ne_settles

/-- An edit that takes one `a` from each part that has one, until there is none. -/
def peel : Directive where
  command := some .edit
  header := ⟨"PART".toList, none, some "#a".toList, none⟩
  node := ⟨"@PART:HAS[#a]".toList, none, [⟨"-a".toList, []⟩], [.ofName loopMarker]⟩
  file := 0
  source := none
  url := "a/@PART:HAS[#a]".toList

/-- A part with some fields. -/
def partHolding (fields : List Field) : Node := ⟨"PART".toList, none, fields, []⟩

/-- A part with two values of `a`, and nothing else. -/
def doublePart : Catalog :=
  .ofEntries ["a.cfg".toList] [⟨0, partHolding [⟨['a'], ['1']⟩, ⟨['b'], ['3']⟩, ⟨['a'], ['2']⟩]⟩]

/-- Two rounds are just enough to take both values away; with fewer, both values stay. -/
theorem apply_loop_doublePart :
    Listener.calm.NeverFails ∧ peel.command = some .edit ∧ peel.isLoop ∧
    (∃ (t : Turn) (last : Catalog), peel.apply .calm ⟨2⟩ doublePart .empty =
        .ok (last, Journal.empty.add (t.events ++ [.applied]) t.notes) ∧
      t.events.length = 2 ∧ t.notes.length = 1 ∧
      last.get? 0 = some ⟨0, partHolding [⟨['b'], ['3']⟩]⟩) ∧
    ∃ (t : Turn) (last : Catalog), peel.apply .calm ⟨0⟩ doublePart .empty =
        .ok (last, Journal.empty.add (t.events ++ [.applied]) t.notes) ∧
      t.events.length = 2 ∧ t.notes = [] ∧ last.get? 0 = doublePart.get? 0 := by
  have hcs : peel.constraints = .ok [.value ['a'] .present false] := by cbv
  have htargets : peel.targetIds [.value ['a'] .present false] doublePart = [0] := by
    decide +kernel
  -- there is one turn, and it begins with the catalog as it is
  have hturn : ∀ o : Options, ∃ (t : Turn) (last : Catalog) (entry : Entry) (w : LoopEnd),
      peel.apply .calm o doublePart .empty =
        .ok (last, Journal.empty.add (t.events ++ [.applied]) t.notes) ∧
      doublePart.get? 0 = some entry ∧
      (∀ w' : LoopEnd, w'.Holds peel [.value ['a'] .present false] ⟨doublePart, entry.node⟩
        (max 1 o.maxRounds) → w' = w) ∧
      t = w.turn peel (max 1 o.maxRounds) doublePart 0 entry ∧
      last.get? 0 = some ⟨entry.file, w.leaves entry.node⟩ := by
    intro o
    obtain ⟨ts, last, hrun, hlead, hids, hall⟩ :=
      (apply_loop Listener.calm_neverFails o (d := peel) rfl rfl doublePart .empty).2 _ hcs
    rw [htargets] at hids
    have hlength : ts.length = 1 := by simpa using congrArg List.length hids
    obtain ⟨t, rfl⟩ := List.length_eq_one_iff.1 hlength
    obtain ⟨hbefore, _⟩ := hlead
    have hid : t.target = 0 := by simpa using hids
    obtain ⟨entry, hget, _, _, w, _, hunique, hturn, hlast, _⟩ :=
      hall t (List.mem_singleton_self t)
    rw [hbefore, hid] at hturn
    rw [hbefore] at hunique
    rw [hid] at hget hlast
    refine ⟨t, last, entry, w, ?_, hget, hunique, hturn, hlast⟩
    simpa using hrun
  have hget : doublePart.get? 0 =
      some ⟨0, partHolding [⟨['a'], ['1']⟩, ⟨['b'], ['3']⟩, ⟨['a'], ['2']⟩]⟩ := rfl
  refine ⟨Listener.calm_neverFails, rfl, rfl, ?_, ?_⟩
  · obtain ⟨t, last, entry, w, hrun, hentry, hunique, rfl, hlast⟩ := hturn ⟨2⟩
    obtain rfl := Option.some.inj (hget.symm.trans hentry)
    obtain rfl := hunique (.settles 2 (partHolding [⟨['b'], ['3']⟩])) (by
      refine ⟨by decide, by decide, fun i hpos hlt => ?_, by decide +kernel, by decide +kernel⟩
      obtain rfl : i = 1 := by omega
      exact ⟨partHolding [⟨['b'], ['3']⟩, ⟨['a'], ['2']⟩], by decide +kernel, by decide +kernel⟩)
    exact ⟨_, last, hrun, rfl, rfl, hlast⟩
  · obtain ⟨t, last, entry, w, hrun, hentry, hunique, rfl, hlast⟩ := hturn ⟨0⟩
    obtain rfl := Option.some.inj (hget.symm.trans hentry)
    obtain rfl := hunique .exhausted (by
      intro i hpos hle
      obtain rfl : i = 1 := Nat.le_antisymm hle hpos
      exact ⟨partHolding [⟨['b'], ['3']⟩, ⟨['a'], ['2']⟩], by decide +kernel, by decide +kernel⟩)
    exact ⟨_, last, hrun, rfl, rfl, hlast.trans hget.symm⟩

end CfgPatch
