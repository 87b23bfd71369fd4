import CfgPatch.Apply
import CfgPatch.Proofs.Journal
import CfgPatch.Proofs.Outcomes

/-!
# The rounds of an edit

An edit applies the body of its directive to a node once or, if the directive loops, again
and again while the result satisfies the constraints, but never more often than the settings
allow. `Body.repeated` is the body applied a given number of times, and `Directive.Rounds`
says when an edit ends and with what. References are looked up in the same scope in every
round: the catalog and the node as they were before the first one.
-/

namespace CfgPatch

/-! ## A body applied several times -/

namespace Body

/-- A node after a body has been applied to it a number of times. -/
def repeated (scope : Scope) (body : Node) : Nat → Node → Except PatchError Node
  | 0, node => .ok node
  | k + 1, node =>
    match (apply scope body node).toExcept with
    | .error e => .error e
    | .ok edited => repeated scope body k edited

theorem repeated_succ_of_error {scope : Scope} {body node : Node} {e : PatchError}
    (h : (apply scope body node).toExcept = .error e) (k : Nat) :
    repeated scope body (k + 1) node = .error e := by
  rw [repeated, h]

theorem repeated_succ_of_ok {scope : Scope} {body node edited : Node}
    (h : (apply scope body node).toExcept = .ok edited) (k : Nat) :
    repeated scope body (k + 1) node = repeated scope body k edited := by
  rw [repeated, h]

/-- The last application is to what the ones before it have come to. -/
theorem repeated_succ_eq_bind (scope : Scope) (body node : Node) (k : Nat) :
    repeated scope body (k + 1) node =
      (repeated scope body k node).bind fun x => (apply scope body x).toExcept := by
  induction k generalizing node with
  | zero =>
    rw [repeated, repeated, Except.bind]
    cases (apply scope body node).toExcept <;> rfl
  | succ k ih =>
    rw [repeated, repeated]
    cases (apply scope body node).toExcept with
    | error e => rfl
    | ok edited => exact ih edited

/-- What every application of a body keeps is kept by any number of them. -/
theorem repeated_ensures {P : Node → Prop} {scope : Scope} {body node result : Node} {k : Nat}
    (hstep : ∀ node, P node → (apply scope body node).Ensures P) (hnode : P node)
    (h : repeated scope body k node = .ok result) : P result := by
  induction k generalizing node with
  | zero =>
    obtain rfl := Except.ok.inj h
    exact hnode
  | succ k ih =>
    cases happly : (apply scope body node).toExcept with
    | error e =>
      rw [repeated_succ_of_error happly] at h
      exact absurd h (by simp)
    | ok edited =>
      rw [repeated_succ_of_ok happly] at h
      exact ih ((hstep node hnode).of_toExcept happly) h

end Body

/-! ## When an edit ends -/

namespace Directive

/-- Whether an edit that has come to a node is for another round. -/
def goesOn (d : Directive) (cs : Constraints) (node : Node) : Bool :=
  d.isLoop && cs.satisfiedBy node

/-- An edit of `node` ends in round `k` with `result`, where `more` rounds may follow the first
and `done` came before it. -/
structure Rounds (d : Directive) (cs : Constraints) (scope : Scope) (more done : Nat)
    (node : Node) (k : Nat) (result : Except PatchError Node) : Prop where
  pos : 0 < k
  within : k ≤ more + 1
  /-- Every round before the last has a result that asks for another. -/
  again : ∀ i, 0 < i → i < k → ∃ x, Body.repeated scope d.node i node = .ok x ∧ d.goesOn cs x
  /-- The last round fails, or its result asks for no other, or there is no other to be had. -/
  ends : (Body.repeated scope d.node k node = result ∧ ∀ x, result = .ok x → ¬d.goesOn cs x) ∨
    (k = more + 1 ∧ result = .error (.loopLimit (done + k)) ∧
      ∃ x, Body.repeated scope d.node k node = .ok x ∧ d.goesOn cs x)

namespace Rounds

variable {d : Directive} {cs : Constraints} {scope : Scope} {more done k : Nat}
  {node edited : Node}

theorem failed {e : PatchError} (h : (Body.apply scope d.node node).toExcept = .error e) :
    d.Rounds cs scope more done node 1 (.error e) where
  pos := Nat.one_pos
  within := Nat.le_add_left ..
  again := fun i hpos hlt => absurd hpos (by omega)
  ends := .inl ⟨Body.repeated_succ_of_error h 0, by simp⟩

theorem settled (h : (Body.apply scope d.node node).toExcept = .ok edited)
    (hstop : ¬d.goesOn cs edited) : d.Rounds cs scope more done node 1 (.ok edited) where
  pos := Nat.one_pos
  within := Nat.le_add_left ..
  again := fun i hpos hlt => absurd hpos (by omega)
  ends := by
    refine .inl ⟨Body.repeated_succ_of_ok h 0, fun x hx => ?_⟩
    obtain rfl := Except.ok.inj hx
    exact hstop

theorem exhausted (h : (Body.apply scope d.node node).toExcept = .ok edited)
    (hgo : d.goesOn cs edited) :
    d.Rounds cs scope 0 done node 1 (.error (.loopLimit (done + 1))) where
  pos := Nat.one_pos
  within := Nat.le_refl 1
  again := fun i hpos hlt => absurd hpos (by omega)
  ends := .inr ⟨rfl, rfl, edited, Body.repeated_succ_of_ok h 0, hgo⟩

theorem next {result : Except PatchError Node}
    (h : (Body.apply scope d.node node).toExcept = .ok edited) (hgo : d.goesOn cs edited)
    (hrest : d.Rounds cs scope more (done + 1) edited k result) :
    d.Rounds cs scope (more + 1) done node (k + 1) result where
  pos := Nat.succ_pos k
  within := Nat.succ_le_succ hrest.within
  again := by
    intro i hpos hlt
    obtain ⟨i, rfl⟩ := Nat.exists_eq_succ_of_ne_zero (Nat.ne_of_gt hpos)
    rw [Body.repeated_succ_of_ok h]
    rcases Nat.eq_zero_or_pos i with rfl | hi
    · exact ⟨edited, rfl, hgo⟩
    · exact hrest.again i hi (Nat.lt_of_succ_lt_succ hlt)
  ends := by
    rw [Body.repeated_succ_of_ok h]
    rcases hrest.ends with hend | ⟨hk, hresult, hx⟩
    · exact .inl hend
    · refine .inr ⟨by rw [hk], ?_, hx⟩
      rw [hresult, Nat.add_assoc, Nat.add_comm 1 k]

/-- An edit that succeeds has applied its body once in every round. -/
theorem repeated_eq (h : d.Rounds cs scope more done node k (.ok edited)) :
    Body.repeated scope d.node k node = .ok edited := by
  rcases h.ends with ⟨hrepeated, _⟩ | ⟨_, hlimit, _⟩
  · exact hrepeated
  · exact absurd hlimit (by simp)

/-- No account of an edit goes on behind the end of another. -/
theorem le_of_rounds {k' : Nat} {result result' : Except PatchError Node}
    (h : d.Rounds cs scope more done node k result)
    (h' : d.Rounds cs scope more done node k' result') : k' ≤ k := by
  refine Nat.le_of_not_lt fun hlt => ?_
  -- the second account goes on where the first one ends
  obtain ⟨x, hx, hgo⟩ := h'.again k h.pos hlt
  rcases h.ends with ⟨hend, hstop⟩ | ⟨hk, _, _⟩
  · exact hstop x (hend.symm.trans hx) hgo
  · have hwithin := h'.within
    omega

/-- An edit ends in one way only. -/
theorem unique {k' : Nat} {result result' : Except PatchError Node}
    (h : d.Rounds cs scope more done node k result)
    (h' : d.Rounds cs scope more done node k' result') : k = k' ∧ result = result' := by
  obtain rfl : k = k' := Nat.le_antisymm (h'.le_of_rounds h) (h.le_of_rounds h')
  refine ⟨rfl, ?_⟩
  rcases h.ends with ⟨hend, hstop⟩ | ⟨_, hlimit, x, hx, hgo⟩
  · rcases h'.ends with ⟨hend', _⟩ | ⟨_, _, x, hx, hgo⟩
    · exact hend.symm.trans hend'
    · exact absurd hgo (hstop x (hend.symm.trans hx))
  · rcases h'.ends with ⟨hend', hstop'⟩ | ⟨_, hlimit', _⟩
    · exact absurd hgo (hstop' x (hend'.symm.trans hx))
    · rw [hlimit, hlimit']

end Rounds

/-! ## Announcing the rounds -/

/-- A round that is announced is the last one, or the edit goes on from its result. Which of
the two it is does not depend on the listener. -/
theorem editRounds_first (d : Directive) (cs : Constraints) (scope : Scope) (target : Ref)
    (more done : Nat) (node : Node) :
    (∃ result, d.Rounds cs scope more done node 1 result ∧
      ∀ l j, Journal.tell l j (.updating target d.ref) =
          .ok (j.add [.updating target d.ref] []) →
        d.editRounds l cs scope target more done j node =
          .ok (j.add [.updating target d.ref] [], result)) ∨
    ∃ rest edited, more = rest + 1 ∧ (Body.apply scope d.node node).toExcept = .ok edited ∧
      d.goesOn cs edited ∧
      ∀ l j, Journal.tell l j (.updating target d.ref) =
          .ok (j.add [.updating target d.ref] []) →
        d.editRounds l cs scope target more done j node =
          d.editRounds l cs scope target rest (done + 1)
            (j.add [.updating target d.ref] [.looping d.url target.url]) edited := by
  cases happly : (Body.apply scope d.node node).toExcept with
  | error e =>
    refine .inl ⟨_, .failed happly, fun l j htell => ?_⟩
    rw [editRounds, htell, happly]
    rfl
  | ok edited =>
    by_cases hgo : d.goesOn cs edited
    · have htest : (d.isLoop && cs.satisfiedBy edited) = true := hgo
      cases more with
      | zero =>
        refine .inl ⟨_, .exhausted happly hgo, fun l j htell => ?_⟩
        rw [editRounds, htell, happly]
        simp only [bind, Except.bind, htest, if_true]
      | succ rest =>
        refine .inr ⟨rest, edited, rfl, rfl, hgo, fun l j htell => ?_⟩
        rw [editRounds, htell, happly]
        simp only [bind, Except.bind, htest, if_true]
        rw [Journal.note_eq_add, Journal.add_add]
        rfl
    · have htest : ¬(d.isLoop && cs.satisfiedBy edited) = true := hgo
      refine .inl ⟨_, .settled happly hgo, fun l j htell => ?_⟩
      rw [editRounds, htell, happly]
      simp only [bind, Except.bind, if_neg htest]

/-- An edit is over before a round if the listener fails on its announcement. -/
theorem editRounds_of_tell_eq_error {l : Listener} {d : Directive} {target : Ref} {j : Journal}
    {i : Interruption} (h : j.tell l (.updating target d.ref) = .error i) (cs : Constraints)
    (scope : Scope) (more done : Nat) (node : Node) :
    d.editRounds l cs scope target more done j node = .error i := by
  rw [editRounds, h]
  rfl

/-- An edit ends as its rounds say, unless the listener fails on an announcement. Every round
is announced, and every round but the first is noted. -/
theorem editRounds_rounds (d : Directive) (cs : Constraints) (scope : Scope) (target : Ref)
    (more done : Nat) (node : Node) :
    ∃ k result, d.Rounds cs scope more done node k result ∧ ∀ l j,
      d.editRounds l cs scope target more done j node =
        .ok (j.add (.replicate k (.updating target d.ref))
          (.replicate (k - 1) (.looping d.url target.url)), result) ∨
      ¬l.Takes (.updating target d.ref) ∧ ∃ i < k, ∃ reason,
        d.editRounds l cs scope target more done j node =
          .error ⟨reason, j.extend
            (.replicate i (Event.updating target d.ref).taken ++
              [(Event.updating target d.ref).refused])
            (.replicate i (.looping d.url target.url))⟩ := by
  -- a round that is not the last uses up one of `more` and begins with what it leaves
  induction more using Nat.strongRecOn generalizing done node with
  | ind more ih =>
    rcases editRounds_first d cs scope target more done node with
      ⟨result, hrounds, hrun⟩ | ⟨rest, edited, rfl, happly, hgo, hrun⟩
    · refine ⟨1, result, hrounds, fun l j => ?_⟩
      rcases Journal.tell_cases l j (.updating target d.ref) with
        htell | ⟨hrefuses, reason, htell⟩
      · exact .inl (hrun l j htell)
      · exact .inr ⟨hrefuses, 0, Nat.one_pos, reason, editRounds_of_tell_eq_error htell ..⟩
    · obtain ⟨k, result, hrest, hnext⟩ := ih rest (Nat.lt_succ_self rest) (done + 1) edited
      refine ⟨k + 1, result, .next happly hgo hrest, fun l j => ?_⟩
      rcases Journal.tell_cases l j (.updating target d.ref) with
        htell | ⟨hrefuses, reason, htell⟩
      · rw [hrun l j htell]
        rcases hnext l (j.add [.updating target d.ref] [.looping d.url target.url]) with
          hend | ⟨hrefuses, i, hlt, reason, hcut⟩
        · obtain ⟨k, rfl⟩ := Nat.exists_eq_succ_of_ne_zero (Nat.ne_of_gt hrest.pos)
          refine .inl ?_
          rw [hend, Journal.add_add]
          rfl
        · refine .inr ⟨hrefuses, i + 1, Nat.succ_lt_succ hlt, reason, ?_⟩
          rw [hcut, Journal.add, Journal.extend_extend]
          rfl
      · exact .inr ⟨hrefuses, 0, Nat.succ_pos k, reason, editRounds_of_tell_eq_error htell ..⟩

end Directive

end CfgPatch
