import CfgPatch.Proofs.Locality

/-!
# Directives that commute

Two local edits or deletions about nodes of different types can be applied in either order. What
either of them does to an entry depends on the node of that entry alone (`get?_apply`), it does
nothing to a node of another type (`effect_of_name_ne`), and as long as no body renames its
target, what one of them leaves of a node has the type that the node had, so that the other has
nothing to do with it before or after (`effect_bind_of_name_ne`).
-/

namespace CfgPatch.Directive

variable {o : Options} {d d' : Directive} {cs : Constraints} {node result : Node}

/-! ## What a directive does to a node -/

/-- A node of another type is no target. -/
theorem not_isTarget_of_name_ne (h : node.name ≠ d.header.type) : d.isTarget cs node = false := by
  have hname : (node.name == d.header.type) = false := by simpa using h
  rw [isTarget, targets, Node.isMatch, hname, Bool.false_and, Bool.false_and]

theorem effect_of_name_ne (h : node.name ≠ d.header.type) : d.effect o node = some node := by
  rw [effect]
  cases d.constraints with
  | error e => rfl
  | ok cs =>
    have htarget : d.isTarget cs node = false := not_isTarget_of_name_ne h
    rcases d.command with _ | _ | _ | _ <;> simp [htarget]

theorem name_edited (hname : Body.KeepsName d.node) : (d.edited o cs node).name = node.name := by
  obtain ⟨_, result, hrounds, hedited⟩ := exists_rounds_edited o d cs node
  rw [hedited]
  cases result with
  | error e => rfl
  | ok left => exact Body.name_repeated hname hrounds.repeated_eq

/-- What is left of a node goes by the same name. -/
theorem name_of_effect (hname : Body.KeepsName d.node) (h : d.effect o node = some result) :
    result.name = node.name := by
  rw [effect] at h
  split at h
  · obtain rfl := Option.some.inj h
    split_ifs
    · exact name_edited hname
    · rfl
  · split_ifs at h
    obtain rfl := Option.some.inj h
    rfl
  · obtain rfl := Option.some.inj h
    rfl

/-! ## One directive after another -/

/-- A directive about another type does nothing to what is left of a node. -/
theorem effect_bind_of_name_ne (hname : Body.KeepsName d.node)
    (h : node.name ≠ d'.header.type) :
    (d.effect o node).bind (d'.effect o) = d.effect o node := by
  cases heffect : d.effect o node with
  | none => rfl
  | some left =>
    have hleft : left.name ≠ d'.header.type := by
      rw [name_of_effect hname heffect]
      exact h
    rw [Option.bind_some, effect_of_name_ne hleft]

theorem effect_comm (htypes : d.header.type ≠ d'.header.type) (hname : Body.KeepsName d.node)
    (hname' : Body.KeepsName d'.node) (node : Node) :
    (d.effect o node).bind (d'.effect o) = (d'.effect o node).bind (d.effect o) := by
  -- a node is of one of the two types or of none, and so is what is left of it
  by_cases htype : node.name = d.header.type
  · have hne : node.name ≠ d'.header.type := htype ▸ htypes
    rw [effect_bind_of_name_ne hname hne, effect_of_name_ne hne, Option.bind_some]
  · rw [effect_bind_of_name_ne hname' htype, effect_of_name_ne htype, Option.bind_some]

/-- Local edits and deletions about different types, none of which renames its targets, lead to
the same catalog in either order. -/
theorem apply_comm {l l' : Listener} (hl : l.NeverFails) (hl' : l'.NeverFails) (o : Options)
    (hcommand : d.command = some .edit ∨ d.command = some .delete)
    (hcommand' : d'.command = some .edit ∨ d'.command = some .delete)
    (htypes : d.header.type ≠ d'.header.type)
    (hlocal : d.node.Everywhere Body.IsLocal) (hlocal' : d'.node.Everywhere Body.IsLocal)
    (hname : Body.KeepsName d.node) (hname' : Body.KeepsName d'.node) (cat : Catalog)
    (j j' : Journal) :
    ∃ mid mid' last j₁ j₂ j₁' j₂',
      d.apply l o cat j = .ok (mid, j₁) ∧ d'.apply l o mid j₁ = .ok (last, j₂) ∧
      d'.apply l' o cat j' = .ok (mid', j₁') ∧ d.apply l' o mid' j₁' = .ok (last, j₂') := by
  obtain ⟨mid, j₁, hrun₁, hfiles₁, hlen₁, hget₁⟩ := get?_apply hl o hlocal hcommand cat j
  obtain ⟨last, j₂, hrun₂, hfiles₂, hlen₂, hget₂⟩ := get?_apply hl o hlocal' hcommand' mid j₁
  obtain ⟨mid', j₁', hrun₁', hfiles₁', hlen₁', hget₁'⟩ :=
    get?_apply hl' o hlocal' hcommand' cat j'
  obtain ⟨last', j₂', hrun₂', hfiles₂', hlen₂', hget₂'⟩ :=
    get?_apply hl' o hlocal hcommand mid' j₁'
  have hlast : last = last' := by
    refine Catalog.ext_get? ?_ ?_ fun id => ?_
    · rw [hfiles₂, hfiles₁, hfiles₂', hfiles₁']
    · rw [hlen₂, hlen₁, hlen₂', hlen₁']
    · rw [hget₂, hget₁, hget₂', hget₁']
      cases hget : cat.get? id with
      | none => rfl
      | some entry =>
        have hcomm := effect_comm (o := o) htypes hname hname' entry.node
        -- the file of the entry stays, and its node has both done to it
        have hboth : ∀ e e' : Directive,
            ((e.effect o entry.node).map (Entry.mk entry.file)).bind
                (fun x => (e'.effect o x.node).map (Entry.mk x.file)) =
              ((e.effect o entry.node).bind (e'.effect o)).map (Entry.mk entry.file) := by
          intro e e'
          cases e.effect o entry.node <;> rfl
        rw [Option.bind_some, Option.bind_some, hboth, hboth, hcomm]
  exact ⟨mid, mid', last, j₁, j₂, j₁', j₂', hrun₁, hrun₂, hrun₁', hlast ▸ hrun₂'⟩

end CfgPatch.Directive

namespace CfgPatch

/-- The deletion of all tanks. -/
def deleteTanks : Directive :=
  { aboutParts '-' none with
    header := ⟨"TANK".toList, none, none, none⟩
    node := .ofName "-TANK".toList }

/-- Fetching a value in parts and deleting tanks: the two parts are left, both with the value. -/
theorem apply_comm_fetchName_deleteTanks :
    Listener.calm.NeverFails ∧ fetchName.command = some .edit ∧
    deleteTanks.command = some .delete ∧
    fetchName.header.type ≠ deleteTanks.header.type ∧
    fetchName.node.Everywhere Body.IsLocal ∧ deleteTanks.node.Everywhere Body.IsLocal ∧
    Body.KeepsName fetchName.node ∧ Body.KeepsName deleteTanks.node ∧
    ∃ mid mid' last j₁ j₂ j₁' j₂',
      fetchName.apply .calm {} twoParts .empty = .ok (mid, j₁) ∧
      deleteTanks.apply .calm {} mid j₁ = .ok (last, j₂) ∧
      deleteTanks.apply .calm {} twoParts .empty = .ok (mid', j₁') ∧
      fetchName.apply .calm {} mid' j₁' = .ok (last, j₂') ∧
      last.nodes.map (·.value? "label".toList) = [some "x".toList, some "y".toList] := by
  have htypes : fetchName.header.type ≠ deleteTanks.header.type := by decide
  have hempty : deleteTanks.node.Everywhere Body.IsLocal :=
    .intro ⟨fun _ h => absurd h List.not_mem_nil, fun _ h => absurd h List.not_mem_nil⟩
      fun _ h => absurd h List.not_mem_nil
  have hedit : fetchName.command = some .edit := rfl
  have hdelete : deleteTanks.command = some .delete := rfl
  have hname : Body.KeepsName fetchName.node := by decide
  have hname' : Body.KeepsName deleteTanks.node := by decide
  obtain ⟨mid, mid', last, j₁, j₂, j₁', j₂', hrun₁, hrun₂, hrun₁', hrun₂'⟩ :=
    Directive.apply_comm Listener.calm_neverFails Listener.calm_neverFails {} (.inl hedit)
      (.inr hdelete) htypes fetchName_isLocal hempty hname hname' twoParts .empty .empty
  have hlabels : ((fetchName.apply .calm {} twoParts .empty).bind fun r =>
      deleteTanks.apply .calm {} r.1 r.2).toOption.map (fun r =>
        r.1.nodes.map (·.value? "label".toList)) = some [some "x".toList, some "y".toList] := by
    decide +kernel
  simp only [hrun₁, Except.bind, hrun₂, Except.toOption, Option.map_some, Option.some.injEq]
    at hlabels
  exact ⟨Listener.calm_neverFails, hedit, hdelete, htypes, fetchName_isLocal, hempty, hname, hname', mid,
    mid', last, j₁, j₂, j₁', j₂', hrun₁, hrun₂, hrun₁', hrun₂', hlabels⟩

end CfgPatch
