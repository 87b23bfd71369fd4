import CfgPatch.Proofs.Frame
import CfgPatch.Proofs.Naming

/-!
# Edits that look at their target only

The body of a directive is given the whole catalog, as it is when a target has its turn, with
what the same directive has done to the targets before. But it looks there in one case only:
where a reference path begins with `@`. A body with no such path is *local* (`Body.IsLocal`). It
does to a node what it would do to it in an empty catalog (`Body.apply_congr`), and so do all its
rounds, whether they come to an end or fail.

For a local directive it can therefore be said what becomes of a single node (`effect`), and an
application does that to every entry at once (`get?_apply`).
-/

namespace CfgPatch

open Text Brackets

/-! ## Paths that begin at the root -/

theorem Brackets.head_splitFrom_isPrefix (p : Char → Bool) (depth : Nat) (t : Text) :
    ∀ piece ∈ (splitFrom p depth t).head?, piece <+: t := by
  fun_induction splitFrom p depth t with
  | case1 => simp
  | case2 => simp
  | case3 => simp
  | case4 depth c t _ piece pieces hsplit ih =>
    have hpiece : piece <+: t := ih piece (by rw [hsplit]; rfl)
    intro first hfirst
    obtain rfl := Option.some.inj hfirst
    exact List.cons_prefix_cons.2 ⟨rfl, hpiece⟩

namespace Reference

variable {a b : Catalog} {root : Node} {path : Text}

/-- The first segment of a path begins as the path does. -/
theorem head_segments_ne (h : path.head? ≠ some '@') :
    ∀ segment ∈ (segments path).head?, segment.head? ≠ some '@' := by
  intro segment hsegment hhead
  have hpiece : segment <+: path := head_splitFrom_isPrefix _ 0 path segment hsegment
  exact h (mem_head?_of_isPrefix hpiece hhead)

/-- Without `@` in front, segments lead down from the root node. -/
theorem follow_of_relative {scope : Scope} {ts : List Text}
    (h : ∀ segment ∈ ts.head?, segment.head? ≠ some '@') :
    follow scope path ts = descend path scope.root ts := by
  unfold follow
  split
  · exact absurd rfl (h _ rfl)
  · rfl

theorem node_congr (h : path.head? ≠ some '@') :
    node ⟨a, root⟩ path = node ⟨b, root⟩ path := by
  rw [node, node, follow_of_relative (head_segments_ne h), follow_of_relative (head_segments_ne h)]

theorem value_congr (h : path.head? ≠ some '@') :
    value ⟨a, root⟩ path = value ⟨b, root⟩ path := by
  -- the last segment is the key of the value, and the ones in front of it are the way to it
  have hway : ∀ segment ∈ (segments path).dropLast.head?, segment.head? ≠ some '@' := by
    intro segment hsegment
    obtain ⟨rest, hrest⟩ := List.dropLast_prefix (segments path)
    refine head_segments_ne h segment ?_
    rw [← hrest]
    exact List.mem_head?_append_of_mem_head? hsegment
  rw [value, value]
  cases hparts : (segments path).dropLast with
  | nil => rfl
  | cons first rest =>
    rw [hparts] at hway
    simp only [follow_of_relative hway]

end Reference

/-! ## Local bodies -/

namespace Body

/-- No reference in a body, those in its children apart, begins at an entry of the catalog. -/
structure IsLocal (body : Node) : Prop where
  fields : ∀ f ∈ body.fields, (trim f.name).head? = some '*' → (trim f.value).head? ≠ some '@'
  children : ∀ child ∈ body.children, ∀ path, child.name = '#' :: path →
    (trim path).head? ≠ some '@'

variable {a b : Catalog} {root : Node}

/-- Only the command to fetch a value looks into the catalog. -/
theorem applyKey_congr {key : Key} {value : Text}
    (h : key.verb = .own .special → (trim value).head? ≠ some '@') (raw : Text) (node : Node) :
    applyKey ⟨a, root⟩ key raw value node = applyKey ⟨b, root⟩ key raw value node := by
  rw [applyKey, applyKey]
  cases hverb : key.verb with
  | insert => rfl
  | shared command => cases command <;> rfl
  | own command =>
    cases command with
    | special => simp only [Reference.value_congr (h hverb) (a := a) (b := b)]
    | _ => rfl

theorem applyFields_congr {fields : List Field}
    (h : ∀ f ∈ fields, (trim f.name).head? = some '*' → (trim f.value).head? ≠ some '@')
    (node : Node) : applyFields ⟨a, root⟩ fields node = applyFields ⟨b, root⟩ fields node := by
  induction fields generalizing node with
  | nil => rfl
  | cons f fields ih =>
    obtain ⟨hf, hrest⟩ := List.forall_mem_cons.1 h
    have hfield : applyField ⟨a, root⟩ f node = applyField ⟨b, root⟩ f node := by
      rw [applyField, applyField]
      cases hparse : Key.parse f.name with
      | error e => rfl
      | ok key => exact applyKey_congr (fun hverb => hf (Key.head?_of_own hparse hverb)) ..
    rw [applyFields, applyFields, hfield, funext (ih hrest)]

/-- Only the command to paste looks into the catalog. -/
theorem applyChild_congr {child : Node}
    (h : ∀ path, child.name = '#' :: path → (trim path).head? ≠ some '@')
    (edit : Node → Outcome Node) (node : Node) :
    applyChild ⟨a, root⟩ child edit node = applyChild ⟨b, root⟩ child edit node := by
  rw [applyChild, applyChild]
  cases hcut : Verb.cut child.name with
  | mk verb cut =>
    obtain ⟨symbol, rest⟩ := cut
    cases verb with
    | insert => rfl
    | shared command => cases command <;> rfl
    | own command =>
      cases command with
      | paste =>
        have hpath := h rest (Verb.eq_cons_of_cut_own hcut)
        simp only [Reference.node_congr hpath (a := a) (b := b)]
      | _ => rfl

theorem applyChildren_congr {children : List Node}
    (hlocal : ∀ child ∈ children, ∀ path, child.name = '#' :: path →
      (trim path).head? ≠ some '@')
    (hbodies : ∀ child ∈ children, apply ⟨a, root⟩ child = apply ⟨b, root⟩ child) (node : Node) :
    applyChildren ⟨a, root⟩ children node = applyChildren ⟨b, root⟩ children node := by
  induction children generalizing node with
  | nil => rfl
  | cons child children ih =>
    obtain ⟨hchild, hrest⟩ := List.forall_mem_cons.1 hlocal
    obtain ⟨hbody, hrestBodies⟩ := List.forall_mem_cons.1 hbodies
    have hothers := funext (ih hrest hrestBodies)
    rw [applyChildren, applyChildren, hbody, hothers, applyChild_congr hchild]

/-- A local body does the same to a node in every catalog. -/
theorem apply_congr {body : Node} (h : body.Everywhere IsLocal) (a b : Catalog) (root : Node) :
    apply ⟨a, root⟩ body = apply ⟨b, root⟩ body := by
  induction h with
  | @intro body here _ ih =>
    obtain ⟨name, id, fields, children⟩ := body
    funext node
    have hchildren := funext (applyChildren_congr here.children ih)
    rw [apply, apply, applyFields_congr here.fields, hchildren]

theorem repeated_congr {body : Node} (h : body.Everywhere IsLocal) (a b : Catalog) (root : Node) :
    repeated ⟨a, root⟩ body = repeated ⟨b, root⟩ body := by
  funext k
  induction k with
  | zero => rfl
  | succ k ih =>
    funext node
    rw [repeated, repeated, apply_congr h a b root, ih]

end Body

namespace Directive

variable {l : Listener} {o : Options} {d : Directive} {cs : Constraints} {a b cat : Catalog}

theorem Rounds.congr {root node : Node} {more done k : Nat} {result : Except PatchError Node}
    (hlocal : d.node.Everywhere Body.IsLocal)
    (h : d.Rounds cs ⟨a, root⟩ more done node k result) :
    d.Rounds cs ⟨b, root⟩ more done node k result := by
  have hrepeated := Body.repeated_congr hlocal a b root
  exact ⟨h.pos, h.within, hrepeated ▸ h.again, hrepeated ▸ h.ends⟩

/-! ## What becomes of a node -/

/-- What an edit makes of a target in a catalog where nothing else is; a target on which the edit
fails is left as it is. -/
def edited (o : Options) (d : Directive) (cs : Constraints) (node : Node) : Node :=
  match d.editRounds .calm cs ⟨.empty, node⟩ ⟨none, []⟩ o.moreRounds 0 .empty node with
  | .ok (_, .ok result) => result
  | _ => node

/-- What is left of a node when a directive has been applied; nothing, if it is deleted. -/
def effect (o : Options) (d : Directive) (node : Node) : Option Node :=
  match d.constraints, d.command with
  | .ok cs, some .edit => some (if d.isTarget cs node then d.edited o cs node else node)
  | .ok cs, some .delete => if d.isTarget cs node then none else some node
  | _, _ => some node

/-- The rounds that an edit goes through in the empty catalog. -/
theorem exists_rounds_edited (o : Options) (d : Directive) (cs : Constraints) (node : Node) :
    ∃ k result, d.Rounds cs ⟨.empty, node⟩ o.moreRounds 0 node k result ∧
      d.edited o cs node = result.toOption.getD node := by
  obtain ⟨k, result, hrounds, hrun⟩ := editRounds_rounds d cs ⟨.empty, node⟩ ⟨none, []⟩
    o.moreRounds 0 node
  refine ⟨k, result, hrounds, ?_⟩
  rcases hrun .calm .empty with hend | ⟨hrefuses, _⟩
  · rw [edited, hend]
    cases result <;> rfl
  · exact absurd (Listener.calm_neverFails _) hrefuses

/-- A local edit makes of a target what it would make of it in the empty catalog. -/
theorem edited_of_rounds {node : Node} {k : Nat} {result : Except PatchError Node}
    (hlocal : d.node.Everywhere Body.IsLocal)
    (h : d.Rounds cs ⟨cat, node⟩ o.moreRounds 0 node k result) :
    d.edited o cs node = result.toOption.getD node := by
  obtain ⟨_, _, hrounds, hedited⟩ := exists_rounds_edited o d cs node
  obtain ⟨_, rfl⟩ := (Rounds.congr hlocal h).unique hrounds
  exact hedited

theorem mem_targetIds {id : EntryId} :
    id ∈ d.targetIds cs cat ↔ ∃ entry, cat.get? id = some entry ∧ d.isTarget cs entry.node := by
  rw [targetIds_eq, List.mem_filter, Catalog.mem_ids, isTargetIn]
  cases cat.get? id <;> simp

end Directive

/-! ## What becomes of every entry -/

namespace Turn

variable {o : Options} {d : Directive} {cs : Constraints} {a b : Catalog} {ts : List Turn}

/-- Among edits with different targets, each finds its target as it was in the beginning and
leaves it as it is in the end. -/
theorem Lead.get?_target_of_edits (h : Lead a ts b) (hall : ∀ t ∈ ts, t.Ends o d cs .edit)
    (hnodup : (ts.map (·.target)).Nodup) {t : Turn} (ht : t ∈ ts) :
    t.before.get? t.target = a.get? t.target ∧ b.get? t.target = t.after.get? t.target := by
  obtain ⟨past, rest, rfl⟩ := List.append_of_mem ht
  obtain ⟨_, hpast, hbefore, hrest⟩ := h.append
  obtain rfl := hbefore
  rw [List.map_append, List.map_cons, List.nodup_append, List.nodup_cons] at hnodup
  obtain ⟨_, ⟨hafter, _⟩, hcross⟩ := hnodup
  have hnot : t.target ∉ past.map (·.target) := fun hmem =>
    hcross _ hmem _ (List.mem_cons_self ..) rfl
  constructor
  · exact (hpast.of_edits fun t' ht' => hall t' (List.mem_append_left _ ht')).2.2 _ hnot
  · have hends : ∀ t' ∈ rest, t'.Ends o d cs .edit := fun t' ht' =>
      hall t' (List.mem_append_right _ (List.mem_cons_of_mem t ht'))
    exact (hrest.of_edits hends).2.2 _ hafter

/-- A turn of a local edit depends on nothing but its target. -/
theorem Ends.get?_target_of_edit {t : Turn} (hlocal : d.node.Everywhere Body.IsLocal)
    (h : t.Ends o d cs .edit) :
    t.after.get? t.target =
      (t.before.get? t.target).map fun entry => ⟨entry.file, d.edited o cs entry.node⟩ := by
  rcases h with h | h
  · cases h with
    | edit there rounds =>
      have hedited := Directive.edited_of_rounds hlocal rounds
      simp only [Catalog.get?_setNode, if_true, there, Option.map_some, hedited]
      rfl
  · cases h with
    | edit there rounds =>
      have hedited := Directive.edited_of_rounds hlocal rounds
      simp only [there, Option.map_some, hedited]
      rfl

end Turn

namespace Directive

variable {l : Listener} {o : Options} {d : Directive} {cs : Constraints} {cat : Catalog}

theorem get?_of_edits {last : Catalog} {ts : List Turn} (hlocal : d.node.Everywhere Body.IsLocal)
    (hlead : Turn.Lead cat ts last) (hall : ∀ t ∈ ts, t.Ends o d cs .edit)
    (htargets : ts.map (·.target) = d.targetIds cs cat) (id : EntryId) :
    last.get? id = (cat.get? id).map fun entry =>
      ⟨entry.file, if d.isTarget cs entry.node then d.edited o cs entry.node else entry.node⟩ := by
  -- a target is changed in its own turn and in no other, and the rest in none
  by_cases hid : id ∈ d.targetIds cs cat
  · obtain ⟨t, ht, rfl⟩ := List.mem_map.1 (htargets ▸ hid)
    have hnodup : (ts.map (·.target)).Nodup := by
      rw [htargets, targetIds_eq]
      exact (Catalog.ids_nodup cat).filter _
    obtain ⟨hbefore, hafter⟩ := hlead.get?_target_of_edits hall hnodup ht
    obtain ⟨entry, hget, htarget⟩ := mem_targetIds.1 hid
    rw [hafter, Turn.Ends.get?_target_of_edit hlocal (hall t ht), hbefore, hget]
    simp only [Option.map_some, htarget, if_true]
  · have hkept := (hlead.of_edits hall).2.2 id (htargets ▸ hid)
    rw [hkept]
    cases hget : cat.get? id with
    | none => rfl
    | some entry =>
      have hno : ¬d.isTarget cs entry.node := fun htarget =>
        hid (mem_targetIds.2 ⟨entry, hget, htarget⟩)
      simp only [Option.map_some, if_neg hno]

/-- A local edit, or a deletion, does to each entry what it does to its node, and nothing
else. -/
theorem get?_apply (hl : l.NeverFails) (o : Options) (hlocal : d.node.Everywhere Body.IsLocal)
    (hcommand : d.command = some .edit ∨ d.command = some .delete) (cat : Catalog) (j : Journal) :
    ∃ last j', d.apply l o cat j = .ok (last, j') ∧ last.files = cat.files ∧
      last.slots.length = cat.slots.length ∧
      ∀ id, last.get? id = (cat.get? id).bind fun entry =>
        (d.effect o entry.node).map (⟨entry.file, ·⟩) := by
  cases hcs : d.constraints with
  | error e =>
    -- a directive that cannot be read leaves everything as it is
    have hrun : d.apply l o cat j = .ok (cat, j.add [.error d.ref (.badConstraints e), .applied]
        []) := by
      rcases hcommand with hcommand | hcommand <;> exact apply_of_badConstraints hl hcommand hcs ..
    refine ⟨cat, _, hrun, rfl, rfl, fun id => ?_⟩
    cases cat.get? id <;> simp [effect, hcs]
  | ok cs =>
    rcases hcommand with hcommand | hcommand
    · obtain ⟨ts, last, hlead, hall, htargets, hrun⟩ := apply_turns (o := o) hl hcommand hcs cat j
      refine ⟨last, _, hrun, hlead.files_eq hall, (hlead.of_edits hall).1, fun id => ?_⟩
      rw [get?_of_edits hlocal hlead hall htargets id]
      cases cat.get? id <;> simp [effect, hcs, hcommand]
    · obtain ⟨ts, last, hlead, hall, htargets, hrun⟩ := apply_turns (o := o) hl hcommand hcs cat j
      obtain rfl := hlead.of_deletions hall
      refine ⟨_, _, hrun, Catalog.files_removeAll .., Catalog.length_slots_removeAll ..,
        fun id => ?_⟩
      rw [Catalog.get?_removeAll, htargets]
      cases hget : cat.get? id with
      | none => simp
      | some entry =>
        by_cases htarget : d.isTarget cs entry.node
        · rw [if_pos (mem_targetIds.2 ⟨entry, hget, htarget⟩)]
          simp [effect, hcs, hcommand, htarget]
        · have hid : id ∉ d.targetIds cs cat := by
            intro hmem
            obtain ⟨found, hfound, hmatch⟩ := mem_targetIds.1 hmem
            obtain rfl := Option.some.inj (hget.symm.trans hfound)
            exact htarget hmatch
          rw [if_neg hid]
          simp [effect, hcs, hcommand, htarget]

/-! ## Edits in two catalogs -/

/-- A local edit makes of an entry the same in any two catalogs where it has the same node, be
it a target there or not, and whatever else the catalogs hold. -/
theorem apply_edit_local {l l' : Listener} (hl : l.NeverFails) (hl' : l'.NeverFails) (o : Options)
    (hcommand : d.command = some .edit) (hlocal : d.node.Everywhere Body.IsLocal) {a b : Catalog}
    {id : EntryId} {entry entry' : Entry} (ha : a.get? id = some entry)
    (hb : b.get? id = some entry') (hnode : entry.node = entry'.node) (j j' : Journal) :
    ∃ lastA lastB jA jB node, d.apply l o a j = .ok (lastA, jA) ∧
      d.apply l' o b j' = .ok (lastB, jB) ∧ lastA.get? id = some ⟨entry.file, node⟩ ∧
      lastB.get? id = some ⟨entry'.file, node⟩ := by
  obtain ⟨lastA, jA, hrunA, _, _, hgetA⟩ := get?_apply hl o hlocal (.inl hcommand) a j
  obtain ⟨lastB, jB, hrunB, _, _, hgetB⟩ := get?_apply hl' o hlocal (.inl hcommand) b j'
  -- an edit deletes nothing
  obtain ⟨node, heffect⟩ : ∃ node, d.effect o entry.node = some node := by
    rw [effect, hcommand]
    cases d.constraints with
    | ok cs => exact ⟨_, rfl⟩
    | error e => exact ⟨_, rfl⟩
  refine ⟨lastA, lastB, jA, jB, node, hrunA, hrunB, ?_, ?_⟩
  · rw [hgetA, ha, Option.bind_some, heffect, Option.map_some]
  · rw [hgetB, hb, Option.bind_some, ← hnode, heffect, Option.map_some]

end Directive

/-- An edit of all parts that fetches a value from the part itself. -/
def fetchName : Directive :=
  { aboutParts '@' none with
    node := ⟨"@PART".toList, none, [⟨"*label".toList, "name".toList⟩], []⟩ }

theorem fetchName_isLocal : fetchName.node.Everywhere Body.IsLocal := by
  have hfield : (trim "*label".toList).head? = some '*' →
      (trim "name".toList).head? ≠ some '@' := by decide
  have hhere : Body.IsLocal fetchName.node :=
    ⟨List.forall_mem_singleton.2 hfield, fun _ h => absurd h List.not_mem_nil⟩
  exact .intro hhere fun _ h => absurd h List.not_mem_nil

/-- The node of the first of the two parts. -/
def partX : Node := ⟨"PART".toList, none, [⟨"name".toList, "x".toList⟩], []⟩

/-- The first of the two parts, alone and in another file. -/
def firstPart : Catalog := .ofEntries ["b.cfg".toList, "c.cfg".toList] [⟨1, partX⟩]

theorem apply_edit_local_firstPart :
    Listener.calm.NeverFails ∧ fetchName.command = some .edit ∧
    fetchName.node.Everywhere Body.IsLocal ∧
    twoParts.get? 0 = some ⟨0, partX⟩ ∧ firstPart.get? 0 = some ⟨1, partX⟩ ∧
    ∃ lastA lastB jA jB node, fetchName.apply .calm {} twoParts .empty = .ok (lastA, jA) ∧
      fetchName.apply .calm {} firstPart .empty = .ok (lastB, jB) ∧
      lastA.get? 0 = some ⟨0, node⟩ ∧ lastB.get? 0 = some ⟨1, node⟩ ∧
      node.value? "label".toList = some "x".toList := by
  have hedit : fetchName.command = some .edit := rfl
  have htwo : twoParts.get? 0 = some ⟨0, partX⟩ := rfl
  have hone : firstPart.get? 0 = some ⟨1, partX⟩ := rfl
  obtain ⟨lastA, lastB, jA, jB, node, hrunA, hrunB, hgetA, hgetB⟩ :=
    Directive.apply_edit_local Listener.calm_neverFails Listener.calm_neverFails {} hedit
      fetchName_isLocal htwo hone rfl .empty .empty
  have hlabel : (fetchName.apply .calm {} firstPart .empty).toOption.map (fun r =>
      (r.1.get? 0).map (·.node.value? "label".toList)) = some (some (some "x".toList)) := by
    decide +kernel
  simp only [hrunB, Except.toOption, Option.map_some, hgetB, Option.some.injEq] at hlabel
  exact ⟨Listener.calm_neverFails, hedit, fetchName_isLocal, htwo, hone, lastA, lastB, jA, jB,
    node, hrunA, hrunB, hgetA, hgetB, hlabel⟩

end CfgPatch
