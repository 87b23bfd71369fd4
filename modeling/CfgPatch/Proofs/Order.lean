import CfgPatch.Proofs.Extraction
import CfgPatch.Proofs.Turns

/-!
# The order of application

A run of the patcher applies the directives that it finds one after another. The order is the
stable sort by rank of the directives as they stand in the catalog (`Catalog.schedule`), all
of them are applied, and as many are told to be applied as were told to be found. The agenda's
part in this is `Agenda.contents_eq_mergeSort`; what is added here is that the run goes through
the agenda and nothing is passed over on the way.
-/

namespace CfgPatch

open Text

/-! ## Directives applied in order -/

/-- Directives are applied one after another, each to what the one before it leaves. Besides,
it is noted when a pass begins. -/
inductive AppliedInOrder (l : Listener) (o : Options) :
    List Directive → Catalog → Journal → Catalog → Journal → Prop
  | nil (cat : Catalog) (j : Journal) : AppliedInOrder l o [] cat j cat j
  | pass {ds : List Directive} {cat last : Catalog} {j j' : Journal} (p : Pass)
      (rest : AppliedInOrder l o ds cat (j.note (.pass p)) last j') :
      AppliedInOrder l o ds cat j last j'
  | apply {d : Directive} {ds : List Directive} {cat next last : Catalog} {j jnext j' : Journal}
      (applied : d.apply l o cat j = .ok (next, jnext))
      (rest : AppliedInOrder l o ds next jnext last j') :
      AppliedInOrder l o (d :: ds) cat j last j'

theorem AppliedInOrder.append {l : Listener} {o : Options} {ds ds' : List Directive}
    {a b c : Catalog} {j j' j'' : Journal} (h : AppliedInOrder l o ds a j b j')
    (h' : AppliedInOrder l o ds' b j' c j'') : AppliedInOrder l o (ds ++ ds') a j c j'' := by
  induction h with
  | nil => exact h'
  | pass p _ ih => exact .pass p (ih h')
  | apply happlied _ ih => exact .apply happlied (ih h')

/-! ## Passes that are noted -/

/-- The pass that a note says is about to be applied. -/
def Note.pass? : Note → Option Pass
  | .pass p => some p
  | _ => none

/-- The passes that are about to be applied, by some notes. -/
def passesNoted (ns : List Note) : List Pass := ns.filterMap Note.pass?

@[simp] theorem passesNoted_append (ns ns' : List Note) :
    passesNoted (ns ++ ns') = passesNoted ns ++ passesNoted ns' := List.filterMap_append

/-! ## Going through the agenda -/

variable {l : Listener} {o : Options}

/-- A directive with a command tells once that it has been applied, and notes no pass. -/
theorem Directive.apply_bookkeeping (hl : l.NeverFails) {d : Directive} (h : d.command.isSome)
    (cat : Catalog) (j : Journal) :
    ∃ last es ns, d.apply l o cat j = .ok (last, j.add es ns) ∧ appliedCount es = 1 ∧
      addedCount es = 0 ∧ passesNoted ns = [] := by
  obtain ⟨command, hcommand⟩ := Option.isSome_iff_exists.1 h
  cases hcs : d.constraints with
  | error e => exact ⟨cat, _, _, apply_of_badConstraints hl hcommand hcs cat j, rfl, rfl, rfl⟩
  | ok cs =>
    obtain ⟨ts, last, _, hall, _, hrun⟩ := apply_turns (o := o) hl hcommand hcs cat j
    refine ⟨last, _, _, hrun, ?_, ?_, ?_⟩
    · rw [appliedCount_append, appliedCount_eq_zero fun e he => (Turn.no_bookkeeping hall e he).2]
      rfl
    · rw [addedCount_append, addedCount_eq_zero fun e he => (Turn.no_bookkeeping hall e he).1]
      rfl
    · refine List.filterMap_eq_nil_iff.2 fun n hn => ?_
      obtain ⟨t, ht, hn⟩ := List.mem_flatMap.1 hn
      obtain ⟨patch, target, rfl⟩ := (hall t ht).of_mem_notes hn
      rfl

/-- Directives are applied in order if each of them can be applied, whatever comes before. -/
theorem exists_applyAll_inOrder {ds : List Directive}
    (h : ∀ d ∈ ds, ∀ cat j, ∃ next, d.apply l o cat j = .ok next) (cat : Catalog) (j : Journal) :
    ∃ last j', applyAll l o ds cat j = .ok (last, j') ∧ AppliedInOrder l o ds cat j last j' := by
  induction ds generalizing cat j with
  | nil => exact ⟨cat, j, rfl, .nil cat j⟩
  | cons d ds ih =>
    obtain ⟨⟨next, jnext⟩, happly⟩ := h d (List.mem_cons_self ..) cat j
    obtain ⟨last, j', hrun, horder⟩ :=
      ih (fun d' hd' => h d' (List.mem_cons_of_mem _ hd')) next jnext
    refine ⟨last, j', ?_, .apply happly horder⟩
    rw [applyAll, List.foldlM_cons, happly]
    exact hrun

/-- The passes are gone through one after another. -/
theorem exists_applyPasses_inOrder (bs : List (Pass × List Directive))
    (h : ∀ d ∈ bs.flatMap (·.2), ∀ cat j, ∃ next, d.apply l o cat j = .ok next) (cat : Catalog)
    (j : Journal) :
    ∃ last j',
      bs.foldlM (fun s b => applyPass l o b.1 b.2 s.1 s.2) (cat, j) = .ok (last, j') ∧
      AppliedInOrder l o (bs.flatMap (·.2)) cat j last j' := by
  induction bs generalizing cat j with
  | nil => exact ⟨cat, j, rfl, .nil cat j⟩
  | cons b bs ih =>
    rw [List.flatMap_cons] at h ⊢
    obtain ⟨next, jnext, hpass, horder⟩ := exists_applyAll_inOrder
      (fun d hd => h d (List.mem_append_left _ hd)) cat (j.note (.pass b.1))
    obtain ⟨last, j', hrun, horder'⟩ :=
      ih (fun d hd => h d (List.mem_append_right _ hd)) next jnext
    refine ⟨last, j', ?_, .pass b.1 (horder.append horder')⟩
    rw [List.foldlM_cons, applyPass, hpass]
    exact hrun

/-- As many directives are told to be applied as there are, and none is told to be found. -/
theorem AppliedInOrder.bookkeeping (hl : l.NeverFails) {ds : List Directive} {cat last : Catalog}
    {j j' : Journal} (h : AppliedInOrder l o ds cat j last j')
    (hcommands : ∀ d ∈ ds, d.command.isSome) :
    ∃ es ns, j' = j.add es ns ∧ appliedCount es = ds.length ∧ addedCount es = 0 := by
  induction h with
  | nil => exact ⟨[], [], rfl, rfl, rfl⟩
  | pass p _ ih =>
    obtain ⟨es, ns, rfl, happlied, hadded⟩ := ih hcommands
    exact ⟨es, .pass p :: ns, by rw [Journal.note_eq_add, Journal.add_add]; rfl, happlied, hadded⟩
  | @apply d ds cat _ _ j _ _ happly _ ih =>
    obtain ⟨next, es, ns, hrun, happlied, hadded, _⟩ :=
      Directive.apply_bookkeeping (o := o) hl (hcommands d (List.mem_cons_self ..)) cat j
    obtain ⟨es', ns', rfl, happlied', hadded'⟩ :=
      ih fun d' hd' => hcommands d' (List.mem_cons_of_mem _ hd')
    obtain ⟨rfl, rfl⟩ := Prod.mk.inj (Except.ok.inj (hrun.symm.trans happly))
    refine ⟨es ++ es', ns ++ ns', Journal.add_add .., ?_, ?_⟩
    · rw [appliedCount_append, happlied, happlied', List.length_cons, Nat.add_comm]
    · rw [addedCount_append, hadded, hadded']

/-- Under a listener that never fails the passes are gone through one after another, and as
many directives are told to be applied as there are. -/
theorem applyPasses_inOrder (hl : l.NeverFails) (bs : List (Pass × List Directive))
    (h : ∀ d ∈ bs.flatMap (·.2), d.command.isSome) (cat : Catalog) (j : Journal) :
    ∃ last es ns,
      bs.foldlM (fun s b => applyPass l o b.1 b.2 s.1 s.2) (cat, j) = .ok (last, j.add es ns) ∧
      AppliedInOrder l o (bs.flatMap (·.2)) cat j last (j.add es ns) ∧
      appliedCount es = (bs.flatMap (·.2)).length ∧ addedCount es = 0 := by
  have happly : ∀ d ∈ bs.flatMap (·.2), ∀ cat j, ∃ next, d.apply l o cat j = .ok next := by
    intro d hd cat j
    obtain ⟨last, es, ns, hrun, _⟩ := Directive.apply_bookkeeping (o := o) hl (h d hd) cat j
    exact ⟨_, hrun⟩
  obtain ⟨last, j', hrun, horder⟩ := exists_applyPasses_inOrder bs happly cat j
  obtain ⟨es, ns, rfl, happlied, hadded⟩ := horder.bookkeeping hl h
  exact ⟨last, es, ns, hrun, horder, happlied, hadded⟩

/-! ## The whole run -/

namespace Catalog

/-- The directives of a catalog in the order in which they are due: sorted by the rank of their
passes, and those of one pass as they stand in the catalog. -/
def schedule (cat : Catalog) (mods : List Text) : List Directive :=
  ((cat.accepted mods).mergeSort fun p q =>
    Agenda.rank (Agenda.distinct mods) p.1 ≤ Agenda.rank (Agenda.distinct mods) q.1).map (·.2)

theorem schedule_eq (cat : Catalog) (mods : List Text) :
    cat.schedule mods = (cat.agenda mods).filled.flatMap (·.2) := by
  rw [Agenda.flatMap_filled, Agenda.contents_eq_mergeSort (sound_agenda cat mods)]
  rfl

theorem schedule_perm (cat : Catalog) (mods : List Text) :
    (cat.schedule mods).Perm ((cat.accepted mods).map (·.2)) :=
  (List.mergeSort_perm ..).map _

/-- The directives of a catalog have commands: taking out its pass segments never takes the
command away from a name. -/
theorem command_isSome_of_mem_accepted {cat : Catalog} {mods : List Text} {p : Pass × Directive}
    (h : p ∈ cat.accepted mods) : p.2.command.isSome := by
  obtain ⟨⟨id, entry⟩, _, hadmits⟩ := List.mem_filterMap.1 h
  obtain ⟨hdir, _, hread⟩ := Agenda.of_admit? hadmits
  have hcommand := (Entry.isDirective_iff.1 hdir).2
  have hhead : entry.strippedName.head? = entry.node.name.head? := head?_stripped hcommand
  rw [(Directive.command_ofNode hread).1, hhead]
  cases hname : entry.node.name with
  | nil => simp [hname, beginsWithCommand] at hcommand
  | cons c t =>
    rw [hname, beginsWithCommand_eq] at hcommand
    exact hcommand

/-- The directives that are due have been entries whose names begin with a command. -/
theorem exists_of_mem_schedule {cat : Catalog} {mods : List Text} {d : Directive}
    (h : d ∈ cat.schedule mods) :
    ∃ id entry, cat.get? id = some entry ∧ beginsWithCommand entry.node.name ∧
      d.IsMadeFrom id entry := by
  obtain ⟨p, hp, rfl⟩ := List.mem_map.1 ((cat.schedule_perm mods).mem_iff.1 h)
  obtain ⟨⟨id, entry⟩, hmem, hadmits⟩ := List.mem_filterMap.1 hp
  have hdir := (Agenda.of_admit? hadmits).1
  exact ⟨id, entry, mem_entries.1 hmem, (Entry.isDirective_iff.1 hdir).2,
    Agenda.isMadeFrom_of_admit? hadmits⟩

end Catalog

/-- A run is the application of the scheduled directives to the data. -/
theorem patch_eq_schedule (hl : l.NeverFails) (o : Options) (mods : List Text) (cat : Catalog)
    (j : Journal) :
    ∃ last j', patch l o mods cat j = .ok (last, j') ∧
      AppliedInOrder l o (cat.schedule mods) cat.data (j.add (cat.findings mods) [.sorted]) last
        j' := by
  have hcommands : ∀ d ∈ cat.schedule mods, d.command.isSome := by
    intro d hd
    obtain ⟨p, hp, rfl⟩ := List.mem_map.1 ((cat.schedule_perm mods).mem_iff.1 hd)
    exact Catalog.command_isSome_of_mem_accepted hp
  obtain ⟨last, es, ns, hrun, horder, _⟩ := applyPasses_inOrder (o := o) hl
    (cat.agenda mods).filled (cat.schedule_eq mods ▸ hcommands) cat.data
    (j.add (cat.findings mods) [.sorted])
  rw [← cat.schedule_eq mods] at horder
  refine ⟨last, _, ?_, horder⟩
  rw [patch, extract_eq hl]
  exact hrun

/-- A run applies the directives it finds in the order in which they are due, each of them once
and none passed over, and tells as many times that one was applied as that one was found. -/
theorem patch_inOrder (hl : l.NeverFails) (o : Options) (mods : List Text) (cat : Catalog)
    (j : Journal) :
    ∃ x last es ns, extract l mods cat j = .ok x ∧ x.agenda.queue = cat.accepted mods ∧
      patch l o mods cat j = .ok (last, j.add es ns) ∧
      AppliedInOrder l o (cat.schedule mods) x.catalog x.journal last (j.add es ns) ∧
      (cat.schedule mods).Perm ((cat.accepted mods).map (·.2)) ∧
      (∀ d ∈ cat.schedule mods, d.command.isSome) ∧
      appliedCount es = addedCount es ∧ addedCount es = (cat.accepted mods).length := by
  have hcommands : ∀ d ∈ cat.schedule mods, d.command.isSome := by
    intro d hd
    obtain ⟨p, hp, rfl⟩ := List.mem_map.1 ((cat.schedule_perm mods).mem_iff.1 hd)
    exact Catalog.command_isSome_of_mem_accepted hp
  -- the journal that the passes begin with is the one that extraction leaves
  obtain ⟨last, es, ns, hrun, horder, happlied, hadded⟩ := applyPasses_inOrder (o := o) hl
    (cat.agenda mods).filled (cat.schedule_eq mods ▸ hcommands) cat.data
    (j.add (cat.findings mods) [.sorted])
  rw [← cat.schedule_eq mods] at horder happlied
  rw [Journal.add_add] at hrun horder
  have hlen : (cat.schedule mods).length = (cat.agenda mods).size := by
    rw [(cat.schedule_perm mods).length_eq, List.length_map]
    rfl
  refine ⟨_, last, _, _, extract_eq hl mods cat j, rfl, ?_, horder, cat.schedule_perm mods,
    hcommands, ?_, ?_⟩
  · rw [patch, extract_eq hl]
    exact hrun
  · rw [appliedCount_append, addedCount_append, cat.appliedCount_findings mods, happlied, hadded,
      cat.addedCount_findings mods, hlen, Nat.zero_add, Nat.add_zero]
  · rw [addedCount_append, hadded, cat.addedCount_findings mods]
    rfl

/-- A directive for a mod, and behind it one for the first pass. -/
def modThenFirst : Catalog :=
  .ofEntries ["a.cfg".toList] [
    ⟨0, "@PART:FOR[zzz]".toList, none, [], []⟩,
    ⟨0, "@PART:FIRST".toList, none, [], []⟩]

/-- The one for the first pass has its turn first, and both are applied. -/
theorem patch_inOrder_modThenFirst :
    Listener.calm.NeverFails ∧
    (modThenFirst.schedule ["ZZZ".toList]).map (·.source) = [some 1, some 0] ∧
    ∃ x last es ns, extract .calm ["ZZZ".toList] modThenFirst .empty = .ok x ∧
      patch .calm {} ["ZZZ".toList] modThenFirst .empty = .ok (last, Journal.empty.add es ns) ∧
      AppliedInOrder .calm {} (modThenFirst.schedule ["ZZZ".toList]) x.catalog x.journal last
        (Journal.empty.add es ns) ∧
      appliedCount es = 2 := by
  have haccepted : (modThenFirst.accepted ["ZZZ".toList]).length = 2 := by decide +kernel
  obtain ⟨x, last, es, ns, hextract, _, hrun, horder, _, _, happlied, hadded⟩ :=
    patch_inOrder Listener.calm_neverFails {} ["ZZZ".toList] modThenFirst .empty
  refine ⟨Listener.calm_neverFails, ?_, x, last, es, ns, hextract, hrun, horder, ?_⟩
  · rw [Catalog.schedule_eq]
    decide +kernel
  · rw [happlied, hadded, haccepted]

end CfgPatch
