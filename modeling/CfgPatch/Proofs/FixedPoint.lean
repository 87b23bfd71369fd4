import CfgPatch.Proofs.Invariants
import CfgPatch.Proofs.Naming

/-!
# A patched catalog is a fixed point

Extraction leaves data and nothing else. From there on only a directive that renames its targets
could make an entry that is no data: edits and copies of data go by the name of what they were
made from (`Directive.keeps_isData`). A run without such directives therefore ends with data
alone, and in a catalog of data a run has nothing to do (`patch_of_isData`). All that is heard
of it are errors about entries whose names begin with a command of bodies or have a pass.
-/

namespace CfgPatch

/-! ## Data stays data -/

namespace Catalog

/-- Whatever is in the catalog is data. -/
def IsData (cat : Catalog) : Prop := cat.All fun entry => entry.isData

theorem isData_data (cat : Catalog) : cat.data.IsData := by
  intro id entry hget
  rw [get?_data] at hget
  exact (Option.filter_eq_some_iff.1 hget).2

end Catalog

/-- Whether an entry is data depends on its name alone. -/
theorem Entry.isData_congr {a b : Entry} (h : a.node.name = b.node.name) :
    a.isData = b.isData := by
  rw [Entry.isData, Entry.isData, h]

/-- A directive that renames nothing makes no entry that is not data. -/
theorem Directive.keeps_isData {d : Directive} (hd : Body.KeepsName d.node) :
    d.Keeps Catalog.IsData := by
  refine Directive.keeps_all (fun cat entry k node _ hdata hrun => ?_)
    fun cat entry duplicate _ hdata hrun => ?_
  · have hname : node.name = entry.node.name := Body.name_repeated hd hrun
    rw [Entry.isData_congr (b := entry) hname]
    exact hdata
  · have hname : (Body.apply ⟨cat, entry.node⟩ d.node entry.node).Ensures fun result =>
        result.name = entry.node.name := Body.apply_ensures_name hd entry.node
    rw [hrun, Outcome.ensures_done] at hname
    rw [Entry.isData_congr (b := entry) hname]
    exact hdata

/-! ## A run without directives -/

theorem Agenda.filled_eq_nil {a : Agenda} (h : a.queue = []) : a.filled = [] := by
  rw [filled_eq]
  refine List.filter_eq_nil_iff.2 fun b hb => ?_
  obtain ⟨pass, _, rfl⟩ := List.mem_map.1 hb
  simp [bucket, h]

/-- All that can be found out about data are errors. -/
theorem Agenda.error_of_mem_findings {a : Agenda} {cat : Catalog} {id : EntryId} {entry : Entry}
    (hdata : entry.isData) {e : Event} (he : e ∈ a.findings cat id entry) :
    ∃ problem, e = .error (cat.refOf id entry) problem := by
  obtain ⟨hbalanced, hplain⟩ := Entry.isData_iff.1 hdata
  rw [beginsWithCommand_eq, Bool.not_eq_true, Option.isSome_eq_false_iff,
    Option.isNone_iff_eq_none] at hplain
  -- without a command of directives the name is kept, and its verb decides what is said
  have hassess : assess a (cat.refOf id entry) entry.node.name =
      match BodyCommand.ofSymbol? (entry.node.name.headD ' ') with
      | some command => ([.error (cat.refOf id entry) (.reservedCommand command)], .keep)
      | none => (if (scanPasses entry.node.name).count > 0 then
          [.error (cat.refOf id entry) .passOnData] else [], .keep) := by
    rw [assess, if_neg (by simp [hbalanced]), Verb.ofSymbol, hplain]
    cases BodyCommand.ofSymbol? (entry.node.name.headD ' ') <;> rfl
  cases hsymbol : BodyCommand.ofSymbol? (entry.node.name.headD ' ') with
  | some command =>
    simp only [findings, hassess, hsymbol] at he
    exact ⟨_, List.mem_singleton.1 he⟩
  | none =>
    simp only [findings, hassess, hsymbol] at he
    split_ifs at he
    · exact ⟨_, List.mem_singleton.1 he⟩
    · exact absurd he List.not_mem_nil

namespace Catalog

variable {cat : Catalog}

theorem IsData.data_eq (h : cat.IsData) : cat.data = cat := by
  have hnone : cat.entries.filter (fun p => !p.2.isData) = [] := by
    refine List.filter_eq_nil_iff.2 fun p hp => ?_
    simp [h.of_mem_entries p hp]
  rw [data, hnone]
  rfl

theorem IsData.accepted_eq (h : cat.IsData) (mods : List Text) : cat.accepted mods = [] := by
  refine List.filterMap_eq_nil_iff.2 fun p hp => ?_
  have hdata := h.of_mem_entries p hp
  rw [Agenda.admit?, if_neg (Entry.not_isDirective_of_isData hdata)]

end Catalog

/-- A run has nothing to do with a catalog of data. -/
theorem patch_of_isData {l : Listener} (hl : l.NeverFails) (o : Options) (mods : List Text)
    {cat : Catalog} (h : cat.IsData) (j : Journal) :
    patch l o mods cat j = .ok (cat, j.add (cat.findings mods) [.sorted]) := by
  have hfilled : (cat.agenda mods).filled = [] := Agenda.filled_eq_nil (h.accepted_eq mods)
  rw [patch, extract_eq hl, h.data_eq]
  simp only [bind, Except.bind, applyAgenda, hfilled]
  rfl

/-! ## Running twice -/

/-- If no directive of a catalog has a key that renames, a run ends with data alone, and
whatever runs after it changes nothing, finds and applies no directive, and tells nothing but
errors about entries that stay. -/
theorem patch_fixedPoint {l : Listener} (hl : l.NeverFails) (o : Options) (mods : List Text)
    {cat : Catalog}
    (h : ∀ id entry, cat.get? id = some entry → beginsWithCommand entry.node.name →
      Body.KeepsName entry.node) (j : Journal) :
    ∃ last j', patch l o mods cat j = .ok (last, j') ∧
      (∀ id entry, last.get? id = some entry →
        Brackets.balanced entry.node.name ∧ ¬beginsWithCommand entry.node.name) ∧
      ∀ (l' : Listener) (o' : Options) (mods' : List Text) (k : Journal), l'.NeverFails →
        ∃ es, patch l' o' mods' last k = .ok (last, k.add es [.sorted]) ∧
          addedCount es = 0 ∧ appliedCount es = 0 ∧
          ∀ e ∈ es, ∃ id entry problem, last.get? id = some entry ∧
            e = .error (last.refOf id entry) problem := by
  obtain ⟨last, j', hrun, horder⟩ := patch_eq_schedule hl o mods cat j
  -- a directive that is applied has the node of an entry that begins with a command
  have hkeeps : ∀ d ∈ cat.schedule mods, d.Keeps Catalog.IsData := by
    intro d hd
    obtain ⟨id, entry, hget, hcommand, _, _, hnode⟩ := Catalog.exists_of_mem_schedule hd
    have hbody : Body.KeepsName d.node := by
      rw [hnode]
      exact h id entry hget hcommand
    exact Directive.keeps_isData hbody
  have hlast : last.IsData := horder.keeps hkeeps cat.isData_data
  refine ⟨last, j', hrun, fun id entry hget => Entry.isData_iff.1 (hlast id entry hget), ?_⟩
  -- the next run meets data only, and all that it can find about data are errors
  intro l' o' mods' k hl'
  have herrors : ∀ e ∈ last.findings mods', ∃ id entry problem, last.get? id = some entry ∧
      e = .error (last.refOf id entry) problem := by
    intro e he
    obtain ⟨⟨id, entry⟩, hmem, he⟩ := List.mem_flatMap.1 he
    have hget := Catalog.mem_entries.1 hmem
    obtain ⟨problem, rfl⟩ := Agenda.error_of_mem_findings (hlast id entry hget) he
    exact ⟨id, entry, problem, hget, rfl⟩
  refine ⟨last.findings mods', patch_of_isData hl' o' mods' hlast k, ?_, ?_, herrors⟩
  · refine addedCount_eq_zero fun e he => ?_
    obtain ⟨_, _, _, _, rfl⟩ := herrors e he
    exact nofun
  · refine appliedCount_eq_zero fun e he => ?_
    obtain ⟨_, _, _, _, rfl⟩ := herrors e he
    exact nofun

/-- An edit of parts, a part, and data with the name of an item of a body. -/
def editPartAndOdd : Catalog :=
  .ofEntries ["a.cfg".toList] [
    ⟨0, "@PART".toList, none, [⟨"%size".toList, "2".toList⟩], []⟩,
    ⟨0, "PART".toList, none, [⟨"name".toList, "x".toList⟩], []⟩,
    ⟨0, "%ODD".toList, none, [], []⟩]

/-- The part is edited once, and the odd name is reported in every run. -/
theorem patch_fixedPoint_editPartAndOdd :
    Listener.calm.NeverFails ∧
    (∀ id entry, editPartAndOdd.get? id = some entry → beginsWithCommand entry.node.name →
      Body.KeepsName entry.node) ∧
    ∃ last j' es, patch .calm {} [] editPartAndOdd .empty = .ok (last, j') ∧
      patch .calm {} [] last .empty = .ok (last, Journal.empty.add es [.sorted]) ∧
      appliedCount j'.events = 1 ∧ appliedCount es = 0 ∧ es.length = 1 := by
  have hnames : ∀ p ∈ editPartAndOdd.entries, beginsWithCommand p.2.node.name →
      Body.KeepsName p.2.node := by decide +kernel
  have hbodies : ∀ id entry, editPartAndOdd.get? id = some entry →
      beginsWithCommand entry.node.name → Body.KeepsName entry.node := fun id entry hget =>
    hnames (id, entry) (Catalog.mem_entries.2 hget)
  obtain ⟨last, j', hfirst, _, hagain⟩ :=
    patch_fixedPoint Listener.calm_neverFails {} [] hbodies .empty
  obtain ⟨es, hsecond, _, happlied, _⟩ := hagain .calm {} [] .empty Listener.calm_neverFails
  have hcounts : (patch .calm {} [] editPartAndOdd .empty).toOption.map (fun r =>
      (appliedCount r.2.events, (patch .calm {} [] r.1 .empty).toOption.map fun s =>
        s.2.events.length)) = some (1, some 1) := by decide +kernel
  simp only [hfirst, hsecond, Except.toOption, Option.map_some, Journal.events_add,
    Option.some.injEq, Prod.mk.injEq, List.length_append] at hcounts
  refine ⟨Listener.calm_neverFails, hbodies, last, j', es, hfirst, hsecond, hcounts.1, happlied,
    ?_⟩
  simpa [Journal.events, Journal.empty] using hcounts.2

end CfgPatch
