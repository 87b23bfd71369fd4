import CfgPatch.Proofs.Order

/-!
# What a run keeps

Whatever a listener does, a directive can do three things to a catalog: give a target the node
that comes of applying its body, append a copy of a target, and remove a target
(`Directive.Changes`). A property of catalogs that outlasts each of these outlasts the whole of
an application and of a run (`Directive.Keeps.apply`, `AppliedInOrder.keeps`), for a listener
that fails cuts the work short and does nothing else to the catalog.

Before that, extraction leaves entries out and adds none, and the directives it finds come from
the files of entries (`Extraction.IsPartOf`).
-/

namespace CfgPatch

/-! ## Computations that succeed -/

section Success

variable {ε α β : Type} {x : Except ε α} {b : β}

theorem bind_eq_ok {f : α → Except ε β} : x >>= f = .ok b ↔ ∃ a, x = .ok a ∧ f a = .ok b := by
  cases x <;> simp [bind, Except.bind]

theorem map_eq_ok {f : α → β} : x.map f = .ok b ↔ ∃ a, x = .ok a ∧ f a = b := by
  cases x <;> simp [Except.map]

end Success

namespace Directive

/-! ## What a directive does to a catalog -/

/-- A change that a directive may make to a catalog when it visits a target. -/
inductive Changes (d : Directive) (cat : Catalog) : Catalog → Prop
  | edit {id : EntryId} {entry : Entry} {k : Nat} {node : Node}
      (there : cat.get? id = some entry)
      (edited : Body.repeated ⟨cat, entry.node⟩ d.node k entry.node = .ok node) :
      Changes d cat (cat.setNode id node)
  | copy {id : EntryId} {entry : Entry} {duplicate : Node} (there : cat.get? id = some entry)
      (edited : Body.apply ⟨cat, entry.node⟩ d.node entry.node = .done duplicate) :
      Changes d cat (cat.addEntry ⟨d.file, duplicate⟩)
  | delete {id : EntryId} {entry : Entry} (there : cat.get? id = some entry) :
      Changes d cat (cat.remove id)

/-- Every change that a directive may make keeps a property of catalogs. -/
def Keeps (d : Directive) (P : Catalog → Prop) : Prop :=
  ∀ cat next, P cat → d.Changes cat next → P next

/-- No directive registers a file or forgets one. -/
theorem keeps_files (d : Directive) (files : List Text) :
    d.Keeps fun cat => cat.files = files := by
  intro cat next hcat hchanges
  cases hchanges <;> exact hcat

variable {l : Listener} {o : Options} {d : Directive} {cs : Constraints} {command : Command}
  {cat last : Catalog} {id : EntryId} {entry : Entry} {j j' : Journal}

/-- To keep what holds of every entry, a directive must keep it of its targets and see to it
for the copies. -/
theorem keeps_all {P : Entry → Prop}
    (hedit : ∀ cat entry k node, cat.All P → P entry →
      Body.repeated ⟨cat, entry.node⟩ d.node k entry.node = .ok node → P ⟨entry.file, node⟩)
    (hcopy : ∀ cat entry duplicate, cat.All P → P entry →
      Body.apply ⟨cat, entry.node⟩ d.node entry.node = .done duplicate → P ⟨d.file, duplicate⟩) :
    d.Keeps (Catalog.All P) := by
  intro cat next hcat hchanges
  cases hchanges with
  | @edit id entry k node there edited =>
    refine hcat.setNode fun found hfound => ?_
    obtain rfl := Option.some.inj (there.symm.trans hfound)
    exact hedit cat entry k node hcat (hcat id entry there) edited
  | @copy id entry duplicate there edited =>
    exact hcat.addEntry (hcopy cat entry duplicate hcat (hcat id entry there) edited)
  | delete => exact hcat.remove _

/-- A visit changes the catalog in one of these ways, or leaves it as it is. -/
theorem changes_of_visit {target : Ref} (hget : cat.get? id = some entry)
    (h : d.visit l o command cs cat j id target entry.node = .ok (j', .ok last)) :
    last = cat ∨ d.Changes cat last := by
  cases command with
  | edit =>
    obtain ⟨k, result, hrounds, hrun⟩ := editRounds_rounds d cs ⟨cat, entry.node⟩ target
      o.moreRounds 0 entry.node
    obtain ⟨_, hedit, hpair⟩ := map_eq_ok.1 h
    obtain ⟨_, hresult⟩ := Prod.mk.inj hpair
    obtain ⟨node, hnode, rfl⟩ := map_eq_ok.1 hresult
    rcases hrun l j with hend | ⟨_, _, _, _, hcut⟩
    · obtain rfl := Except.ok.inj (hend.symm.trans hedit)
      obtain rfl : result = .ok node := hnode
      exact .inr (.edit hget hrounds.repeated_eq)
    · exact absurd (hcut.symm.trans hedit) (by simp)
  | copy =>
    rw [visit, copy] at h
    cases happly : Body.apply ⟨cat, entry.node⟩ d.node entry.node with
    | stopped e left =>
      rw [happly] at h
      exact absurd h (by simp [Outcome.toExcept])
    | done duplicate =>
      rw [happly] at h
      simp only [Outcome.toExcept] at h
      -- the same catalog is handed on whatever comes of telling the listener
      have hnext : ∀ (event : Event) (next : Catalog),
          (j.tell l event).map (fun j => (j, (.ok next : Except PatchError Catalog))) =
            .ok (j', .ok last) → last = next := by
        intro event next h
        obtain ⟨_, _, hpair⟩ := map_eq_ok.1 h
        exact (Except.ok.inj (Prod.mk.inj hpair).2).symm
      split_ifs at h
      · exact .inl (hnext _ _ h)
      · rw [hnext _ _ h]
        exact .inr (.copy hget happly)
  | delete =>
    obtain ⟨_, _, hpair⟩ := map_eq_ok.1 h
    obtain rfl := Except.ok.inj (Prod.mk.inj hpair).2
    exact .inr (.delete hget)

namespace Keeps

variable {P : Catalog → Prop}

theorem visitAll (hd : d.Keeps P) {ids : List EntryId}
    (h : d.visitAll l o command cs ids cat j = .ok (last, j')) (hcat : P cat) : P last := by
  induction ids generalizing cat j with
  | nil =>
    obtain ⟨rfl, _⟩ := Prod.mk.inj (Except.ok.inj h)
    exact hcat
  | cons id ids ih =>
    rw [Directive.visitAll] at h
    cases hget : cat.get? id with
    | none =>
      rw [hget] at h
      exact ih h hcat
    | some entry =>
      rw [hget] at h
      simp only at h
      split_ifs at h
      · split at h
        · -- the listener failed, and the catalog is left as it was before the visit
          obtain ⟨_, _, hpair⟩ := map_eq_ok.1 h
          obtain ⟨rfl, _⟩ := Prod.mk.inj hpair
          exact hcat
        · rename_i next hvisit
          refine ih h ?_
          rcases changes_of_visit hget hvisit with rfl | hchanges
          · exact hcat
          · exact hd _ _ hcat hchanges
        · split at h
          · exact absurd h (by simp)
          · exact ih h hcat
      · exact ih h hcat

/-- What every change keeps is kept by the application of the directive. -/
theorem apply (hd : d.Keeps P) (h : d.apply l o cat j = .ok (last, j')) (hcat : P cat) :
    P last := by
  rw [Directive.apply] at h
  cases hcommand : d.command with
  | none =>
    rw [hcommand] at h
    obtain ⟨rfl, _⟩ := Prod.mk.inj (Except.ok.inj h)
    exact hcat
  | some command =>
    rw [hcommand] at h
    simp only at h
    cases hcs : d.constraints with
    | ok cs =>
      rw [hcs] at h
      obtain ⟨⟨next, told⟩, hvisits, happlied⟩ := bind_eq_ok.1 h
      obtain ⟨_, _, hpair⟩ := map_eq_ok.1 happlied
      obtain ⟨rfl, _⟩ := Prod.mk.inj hpair
      exact hd.visitAll hvisits hcat
    | error e =>
      rw [hcs] at h
      obtain ⟨⟨next, told⟩, hreport, happlied⟩ := bind_eq_ok.1 h
      obtain ⟨_, _, hpair⟩ := map_eq_ok.1 hreport
      obtain ⟨_, _, hpair'⟩ := map_eq_ok.1 happlied
      obtain ⟨rfl, _⟩ := Prod.mk.inj hpair
      obtain ⟨rfl, _⟩ := Prod.mk.inj hpair'
      exact hcat

end Keeps

end Directive

/-! ## What a run does to a catalog -/

section Run

variable {l : Listener} {o : Options} {cat last : Catalog} {j j' : Journal}

/-- What every directive keeps is kept when they are applied in order. -/
theorem AppliedInOrder.keeps {P : Catalog → Prop} {ds : List Directive}
    (h : AppliedInOrder l o ds cat j last j') (hds : ∀ d ∈ ds, d.Keeps P) (hcat : P cat) :
    P last := by
  induction h with
  | nil => exact hcat
  | pass _ _ ih => exact ih hds hcat
  | apply applied _ ih =>
    obtain ⟨hd, hrest⟩ := List.forall_mem_cons.1 hds
    exact ih hrest (hd.apply applied hcat)

theorem inOrder_of_applyAll {ds : List Directive} (h : applyAll l o ds cat j = .ok (last, j')) :
    AppliedInOrder l o ds cat j last j' := by
  induction ds generalizing cat j with
  | nil =>
    obtain ⟨rfl, rfl⟩ := Prod.mk.inj (Except.ok.inj h)
    exact .nil cat j
  | cons d ds ih =>
    rw [applyAll, List.foldlM_cons] at h
    obtain ⟨next, happly, hrest⟩ := bind_eq_ok.1 h
    exact .apply happly (ih hrest)

/-- A run that is not interrupted applies the directives of all passes in order. -/
theorem inOrder_of_applyPasses {bs : List (Pass × List Directive)}
    (h : bs.foldlM (fun s b => applyPass l o b.1 b.2 s.1 s.2) (cat, j) = .ok (last, j')) :
    AppliedInOrder l o (bs.flatMap (·.2)) cat j last j' := by
  induction bs generalizing cat j with
  | nil =>
    obtain ⟨rfl, rfl⟩ := Prod.mk.inj (Except.ok.inj h)
    exact .nil cat j
  | cons b bs ih =>
    rw [List.foldlM_cons] at h
    obtain ⟨next, hpass, hrest⟩ := bind_eq_ok.1 h
    rw [List.flatMap_cons]
    exact .pass b.1 ((inOrder_of_applyAll hpass).append (ih hrest))

end Run

/-! ## What extraction does to a catalog -/

namespace Extraction

/-- An extraction has left some entries of a catalog where they were and put nothing there, and
the directives on its agenda are from the files of entries. -/
structure IsPartOf (x : Extraction) (cat : Catalog) : Prop where
  files : x.catalog.files = cat.files
  kept : ∀ id entry, x.catalog.get? id = some entry → cat.get? id = some entry
  found : ∀ p ∈ x.agenda.queue, ∃ id entry, cat.get? id = some entry ∧ p.2.file = entry.file

variable {l : Listener} {x y : Extraction} {cat : Catalog} {id : EntryId} {entry : Entry}

theorem IsPartOf.drop (h : x.IsPartOf cat) (id : EntryId) : (x.drop id).IsPartOf cat where
  files := h.files
  kept := by
    intro k entry hget
    rw [Extraction.drop, Catalog.get?_remove] at hget
    split_ifs at hget
    exact h.kept k entry hget
  found := h.found

theorem IsPartOf.tell (h : x.IsPartOf cat) {e : Event} (htell : x.tell l e = .ok y) :
    y.IsPartOf cat := by
  obtain ⟨told, _, rfl⟩ := map_eq_ok.1 htell
  exact ⟨h.files, h.kept, h.found⟩

theorem IsPartOf.enlist (h : x.IsPartOf cat) (hget : cat.get? id = some entry) {ref : Ref}
    {pass : Pass} {name : Text} (hrun : x.enlist l id entry ref pass name = .ok y) :
    y.IsPartOf cat := by
  have hdrop := h.drop id
  rw [Extraction.enlist] at hrun
  simp only at hrun
  split at hrun
  · exact hdrop.tell hrun
  · rename_i d hread
    split at hrun
    · obtain rfl := Except.ok.inj hrun
      exact hdrop
    · rename_i agenda hpush
      have hfile : d.file = entry.file := (Directive.command_ofNode hread).2.2.1
      obtain ⟨pass', _, rfl⟩ := Option.map_eq_some_iff.1 hpush
      obtain ⟨told, _, rfl⟩ := map_eq_ok.1 hrun
      refine ⟨hdrop.files, hdrop.kept, List.forall_mem_append.2 ⟨hdrop.found, ?_⟩⟩
      -- the new directive is the last one on the agenda
      exact List.forall_mem_singleton.2 ⟨id, entry, hget, hfile⟩

theorem IsPartOf.step (h : x.IsPartOf cat) (hrun : x.step l id = .ok y) : y.IsPartOf cat := by
  rw [Extraction.step] at hrun
  cases hget : x.catalog.get? id with
  | none =>
    rw [hget] at hrun
    obtain rfl := Except.ok.inj hrun
    exact h
  | some entry =>
    rw [hget] at hrun
    simp only at hrun
    split at hrun
    · rename_i i _
      have hfailed : IsPartOf { x with journal := i.journal } cat := ⟨h.files, h.kept, h.found⟩
      obtain ⟨told, htell, rfl⟩ := map_eq_ok.1 hrun
      exact (hfailed.tell htell).drop id
    · rename_i told _
      have htold : IsPartOf { x with journal := told } cat := ⟨h.files, h.kept, h.found⟩
      split at hrun
      · obtain rfl := Except.ok.inj hrun
        exact htold
      · obtain rfl := Except.ok.inj hrun
        exact htold.drop id
      · exact htold.enlist (h.kept id entry hget) hrun

theorem IsPartOf.foldlM (h : x.IsPartOf cat) {ids : List EntryId}
    (hrun : ids.foldlM (Extraction.step l) x = .ok y) : y.IsPartOf cat := by
  induction ids generalizing x with
  | nil =>
    obtain rfl := Except.ok.inj hrun
    exact h
  | cons id ids ih =>
    rw [List.foldlM_cons] at hrun
    obtain ⟨next, hstep, hrest⟩ := bind_eq_ok.1 hrun
    exact ih (h.step hstep) hrest

end Extraction

theorem isPartOf_of_extract {l : Listener} {mods : List Text} {cat : Catalog} {j : Journal}
    {x : Extraction} (h : extract l mods cat j = .ok x) : x.IsPartOf cat := by
  have hstart : Extraction.IsPartOf ⟨cat, Agenda.ofMods mods, j⟩ cat :=
    ⟨rfl, fun _ _ hget => hget, fun _ hp => absurd hp List.not_mem_nil⟩
  obtain ⟨y, hrun, rfl⟩ := map_eq_ok.1 h
  have hy := hstart.foldlM hrun
  exact ⟨hy.files, hy.kept, hy.found⟩

/-- A run that is not interrupted extracts a part of the catalog and applies directives from
its files to that, whatever the listener does. -/
theorem exists_inOrder_of_patch {l : Listener} {o : Options} {mods : List Text}
    {cat last : Catalog} {j j' : Journal} (h : patch l o mods cat j = .ok (last, j')) :
    ∃ (x : Extraction) (ds : List Directive), x.IsPartOf cat ∧
      (∀ d ∈ ds, ∃ id entry, cat.get? id = some entry ∧ d.file = entry.file) ∧
      AppliedInOrder l o ds x.catalog x.journal last j' := by
  obtain ⟨x, hextract, hagenda⟩ := bind_eq_ok.1 h
  have hx := isPartOf_of_extract hextract
  refine ⟨x, _, hx, ?_, inOrder_of_applyPasses hagenda⟩
  -- what is applied has been on the agenda
  intro d hd
  obtain ⟨b, hb, hd⟩ := List.mem_flatMap.1 hd
  rw [Agenda.filled_eq] at hb
  obtain ⟨pass, _, rfl⟩ := List.mem_map.1 (List.mem_filter.1 hb).1
  obtain ⟨p, hp, rfl⟩ := List.mem_map.1 hd
  exact hx.found p (List.mem_filter.1 hp).1

end CfgPatch
