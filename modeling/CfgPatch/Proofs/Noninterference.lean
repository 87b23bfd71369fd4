import CfgPatch.Proofs.Order

/-!
# Rejected entries have no influence

An entry that is rejected might as well not have been there. Extraction looks at one entry at
a time, so without the entry it comes to the same catalog and the same agenda, and the reports
about the entry are missing (`Catalog.data_remove`, `Catalog.agenda_remove`,
`Catalog.findings_remove`). From there on both runs are the same, because what directives do
and tell depends on the catalog alone. They tell nothing about the entry, for its number names
no entry any more and is not given out again (`Catalog.Gone`).
-/

namespace CfgPatch

/-! ## What an event mentions -/

/-- The entries and directives that an event mentions. -/
def Event.refs : Event → List Ref
  | .added | .applied => []
  | .updating target patch | .copying target patch | .deleting target patch => [target, patch]
  | .missingMod entry _ | .error entry _ | .exception entry _ _ => [entry]

/-- Whether an event mentions the entry with the given number. -/
def Event.mentions (id : EntryId) (e : Event) : Bool := e.refs.any (·.id = some id)

theorem Event.IsAbout.mentions_iff {ref : Ref} {e : Event} (h : e.IsAbout ref) {id : EntryId} :
    e.mentions id ↔ ref.id = some id := by
  rcases h with ⟨_, rfl⟩ | ⟨_, rfl⟩ <;> simp [Event.mentions, Event.refs]

theorem Directive.not_mentions_announcement {d : Directive} {id : EntryId}
    (hsource : d.source ≠ some id) {target : Ref} (htarget : target.id ≠ some id)
    (command : Command) : ¬(d.announcement target command).mentions id := by
  cases command <;>
    simp [announcement, Event.mentions, Event.refs, Directive.ref, hsource, htarget]

/-! ## Extraction without an entry -/

namespace Catalog

variable {cat : Catalog} {id : EntryId} {entry : Entry} {mods : List Text}

/-- Without an entry that is no data the same data is left. -/
theorem data_remove (hget : cat.get? id = some entry) (hother : ¬entry.isData) :
    (cat.remove id).data = cat.data := by
  refine ext_get? (by simp [data]) (by simp [data]) fun k => ?_
  rw [get?_data, get?_data, get?_remove]
  by_cases hk : k = id
  · rw [if_pos hk, hk, hget]
    simp [Option.filter, hother]
  · rw [if_neg hk]

/-- Without an entry that is not admitted the same directives are found. -/
theorem agenda_remove (hget : cat.get? id = some entry)
    (hadmits : (Agenda.ofMods mods).admit? cat id entry = none) :
    (cat.remove id).agenda mods = cat.agenda mods := by
  have haccepted : (cat.remove id).accepted mods = cat.accepted mods := by
    rw [accepted, accepted, entries_remove, List.filterMap_filter,
      Agenda.admit?_congr rfl (files_remove cat id)]
    refine List.filterMap_congr fun p hp => ?_
    by_cases hid : p.1 = id
    · have hentry : p.2 = entry :=
        Option.some.inj ((mem_entries.1 hp).symm.trans (hid ▸ hget))
      simp [hid, hentry, hadmits]
    · simp [hid]
  rw [agenda, agenda, haccepted]

/-- Without an entry that is not admitted everything is found out but what mentions it. -/
theorem findings_remove (hget : cat.get? id = some entry)
    (hadmits : (Agenda.ofMods mods).admit? cat id entry = none) :
    (cat.remove id).findings mods = (cat.findings mods).filter fun e => !e.mentions id := by
  rw [findings, findings, entries_remove, List.filter_flatMap,
    Agenda.findings_congr rfl (files_remove cat id)]
  refine flatMap_filter_of_forall (fun p _ hne => ?_) fun p hp heq => ?_
  · -- what is found out about another entry mentions that one or none
    have hne : p.1 ≠ id := by simpa using hne
    refine List.filter_eq_self.2 fun e he => ?_
    rcases Agenda.of_mem_findings he with rfl | habout
    · rfl
    · have hnot : ¬e.mentions id := fun h => hne (Option.some.inj (habout.mentions_iff.1 h))
      simpa using hnot
  · -- what is found out about the entry itself mentions it
    have hid : p.1 = id := by simpa using heq
    have hentry : p.2 = entry := Option.some.inj ((mem_entries.1 hp).symm.trans (hid ▸ hget))
    rw [hid, hentry]
    refine List.filter_eq_nil_iff.2 fun e he => ?_
    have habout : e.IsAbout (cat.refOf id entry) := by
      rcases Agenda.data_or_admitted_or_reported (.ofMods mods) cat id entry with
        ⟨_, _, habout⟩ | ⟨_, ⟨pass, d, hsome⟩, _⟩ | ⟨_, _, _, habout⟩
      · exact habout e he
      · exact absurd (hsome.symm.trans hadmits) (Option.some_ne_none _)
      · exact habout e he
    simp [habout.mentions_iff.2 rfl]

/-! ## Entries that are gone -/

/-- The number has been given out, and its entry is there no more. -/
def Gone (cat : Catalog) (id : EntryId) : Prop := id < cat.slots.length ∧ cat.get? id = none

end Catalog

namespace Turn

variable {o : Options} {d : Directive} {cs : Constraints} {command : Command} {t : Turn}
  {id : EntryId}

theorem Ends.there (h : t.Ends o d cs command) : ∃ entry, t.before.get? t.target = some entry := by
  rcases h with h | h <;> cases h <;> exact ⟨_, ‹_›⟩

theorem Ends.target_ne (h : t.Ends o d cs command) (hgone : t.before.Gone id) : id ≠ t.target := by
  rintro rfl
  obtain ⟨entry, hentry⟩ := h.there
  exact absurd (hentry.symm.trans hgone.2) nofun

/-- An entry that is gone does not come back in a turn. -/
theorem Ends.gone (h : t.Ends o d cs command) (hgone : t.before.Gone id) : t.after.Gone id :=
  ⟨Nat.lt_of_lt_of_le hgone.1 h.length_slots_le,
    (h.get?_after (h.target_ne hgone) hgone.1).trans hgone.2⟩

/-- A turn mentions its target and its directive. -/
theorem Ends.not_mentions (h : t.Ends o d cs command) (hgone : t.before.Gone id)
    (hsource : d.source ≠ some id) : ∀ e ∈ t.events, ¬e.mentions id := by
  intro e he
  rcases h.of_mem_events he with ⟨entry, _, rfl⟩ | ⟨problem, rfl⟩
  · have htarget : (t.before.refOf t.target entry).id ≠ some id := fun heq =>
      h.target_ne hgone (Option.some.inj heq).symm
    exact d.not_mentions_announcement hsource htarget command
  · simp [Event.mentions, Event.refs, Directive.ref, hsource]

theorem Lead.gone {a b : Catalog} {ts : List Turn} (h : Lead a ts b)
    (hall : ∀ t ∈ ts, t.Ends o d cs command) (hgone : a.Gone id) (hsource : d.source ≠ some id) :
    b.Gone id ∧ ∀ e ∈ ts.flatMap (·.events), ¬e.mentions id := by
  induction ts generalizing a with
  | nil =>
    obtain rfl : a = b := h
    exact ⟨hgone, by simp⟩
  | cons t ts ih =>
    obtain ⟨rfl, h⟩ := h
    have hends := hall t (List.mem_cons_self ..)
    obtain ⟨hlast, hrest⟩ :=
      ih h (fun t' ht' => hall t' (List.mem_cons_of_mem _ ht')) (hends.gone hgone)
    refine ⟨hlast, fun e he => ?_⟩
    rw [List.flatMap_cons] at he
    rcases List.mem_append.1 he with he | he
    · exact hends.not_mentions hgone hsource e he
    · exact hrest e he

end Turn

/-! ## Runs that do not look at the journal -/

/-- A run from a catalog does not look at the journal and does not come back to an entry that
is gone: it leads to some catalog where the entry is gone still, and adds to any journal the
same events, which do not mention the entry, and the same notes. -/
def Ignores (id : EntryId)
    (run : Journal → Except Interruption (Catalog × Journal)) : Prop :=
  ∃ last es ns, last.Gone id ∧ (∀ e ∈ es, ¬e.mentions id) ∧ ∀ j, run j = .ok (last, j.add es ns)

section Ignoring

variable {l : Listener} {o : Options} {id : EntryId}

theorem Directive.apply_ignores (hl : l.NeverFails) (o : Options) {d : Directive}
    (hsource : d.source ≠ some id) {cat : Catalog} (hgone : cat.Gone id) :
    Ignores id (d.apply l o cat) := by
  cases hcommand : d.command with
  | none =>
    refine ⟨cat, [], [.noCommand d.url], hgone, by simp, fun j => ?_⟩
    rw [apply, hcommand]
    rfl
  | some command =>
    cases hcs : d.constraints with
    | error e =>
      refine ⟨cat, _, _, hgone, ?_, fun j => apply_of_badConstraints hl hcommand hcs cat j⟩
      simp [Event.mentions, Event.refs, Directive.ref, hsource]
    | ok cs =>
      obtain ⟨ts, last, hlead, hall, _, hrun⟩ := apply_turns_or_breaks o hcommand hcs cat
      obtain ⟨hlast, hevents⟩ := hlead.gone hall hgone hsource
      refine ⟨last, ts.flatMap (·.events) ++ [.applied], ts.flatMap (·.notes), hlast, ?_,
        fun j => ?_⟩
      · exact List.forall_mem_append.2 ⟨hevents, by simp [Event.mentions, Event.refs]⟩
      · rcases hrun l (hl.failsOnlyOn _) j with hend | ⟨_, _, _, _, _, _, hbreaks, _⟩
        · exact hend
        · exact absurd hl hbreaks.not_neverFails

/-- A loop ignores what each of its steps ignores. -/
theorem foldlM_ignores {α : Type}
    {step : Catalog × Journal → α → Except Interruption (Catalog × Journal)} {xs : List α}
    (h : ∀ x ∈ xs, ∀ cat : Catalog, cat.Gone id → Ignores id fun j => step (cat, j) x)
    {cat : Catalog} (hgone : cat.Gone id) : Ignores id fun j => xs.foldlM step (cat, j) := by
  induction xs generalizing cat with
  | nil => exact ⟨cat, [], [], hgone, by simp, fun _ => rfl⟩
  | cons x xs ih =>
    obtain ⟨next, es, ns, hnext, hes, hstep⟩ := h x (List.mem_cons_self ..) cat hgone
    obtain ⟨last, es', ns', hlast, hes', hrest⟩ :=
      ih (fun y hy => h y (List.mem_cons_of_mem _ hy)) hnext
    refine ⟨last, es ++ es', ns ++ ns', hlast, List.forall_mem_append.2 ⟨hes, hes'⟩,
      fun j => ?_⟩
    have hstep : step (cat, j) x = .ok (next, j.add es ns) := hstep j
    have hrest : xs.foldlM step (next, j.add es ns) =
        .ok (last, (j.add es ns).add es' ns') := hrest _
    rw [Journal.add_add] at hrest
    simp only [List.foldlM_cons, hstep]
    exact hrest

theorem applyAgenda_ignores (hl : l.NeverFails) (o : Options) {a : Agenda}
    (hplaces : a.placesOf id = []) {cat : Catalog} (hgone : cat.Gone id) :
    Ignores id (applyAgenda l o a cat) := by
  have hsource : ∀ b ∈ a.filled, ∀ d ∈ b.2, d.source ≠ some id := by
    intro b hb d hd heq
    have hmem : d ∈ a.contents.map (·.2) :=
      a.flatMap_filled ▸ List.mem_flatMap.2 ⟨b, hb, hd⟩
    obtain ⟨p, hp, rfl⟩ := List.mem_map.1 hmem
    have hplace : p ∈ a.placesOf id := List.mem_filter.2 ⟨hp, by simpa using heq⟩
    rw [hplaces] at hplace
    exact absurd hplace List.not_mem_nil
  -- a loop over the passes, in each of which there is a loop over the directives
  refine foldlM_ignores (fun b hb cat hgone => ?_) hgone
  obtain ⟨last, es, ns, hlast, hes, hrun⟩ : Ignores id (applyAll l o b.2 cat) :=
    foldlM_ignores (fun d hd cat hgone => Directive.apply_ignores hl o (hsource b hb d hd) hgone)
      hgone
  refine ⟨last, es, .pass b.1 :: ns, hlast, hes, fun j => ?_⟩
  have hpass := hrun (j.note (.pass b.1))
  rw [Journal.note_eq_add, Journal.add_add] at hpass
  exact hpass

end Ignoring

/-! ## A run without a rejected entry -/

/-- An entry that extraction takes out of the catalog without putting it on the agenda has no
influence on a run: without it the run ends in the same catalog, and what is told is the same,
but for the events that mention the entry. -/
theorem patch_remove_of_rejected {l : Listener} (hl : l.NeverFails) (o : Options)
    (mods : List Text) (cat : Catalog) (j : Journal) {id : EntryId} {entry : Entry}
    (hget : cat.get? id = some entry) {x : Extraction} (hrun : extract l mods cat j = .ok x)
    (hgone : x.catalog.get? id = none) (hplaces : x.agenda.placesOf id = []) :
    ∃ last es ns, patch l o mods cat j = .ok (last, j.add es ns) ∧
      patch l o mods (cat.remove id) j =
        .ok (last, j.add (es.filter fun e => !e.mentions id) ns) := by
  obtain rfl := Except.ok.inj ((extract_eq hl mods cat j).symm.trans hrun)
  simp only at hgone hplaces
  have hother : ¬entry.isData := by
    intro hdata
    rw [Catalog.get?_data, hget] at hgone
    simp [Option.filter, hdata] at hgone
  have hadmits : (Agenda.ofMods mods).admit? cat id entry = none := by
    rw [Catalog.placesOf_agenda hget] at hplaces
    exact Option.toList_eq_nil_iff.1 hplaces
  have hlt : id < cat.data.slots.length := by
    rw [Catalog.data, Catalog.length_slots_removeAll]
    exact Catalog.lt_length_of_get? hget
  obtain ⟨last, es, ns, _, hes, happly⟩ := applyAgenda_ignores hl o hplaces ⟨hlt, hgone⟩
  -- the agenda is applied to the same catalog in both runs, behind different journals
  refine ⟨last, cat.findings mods ++ es, .sorted :: ns, ?_, ?_⟩
  · have happly := happly (j.add (cat.findings mods) [.sorted])
    rw [Journal.add_add] at happly
    rw [patch, extract_eq hl]
    exact happly
  · have happly := happly (j.add ((cat.remove id).findings mods) [.sorted])
    have hkept : es.filter (fun e => !e.mentions id) = es :=
      List.filter_eq_self.2 fun e he => by simpa using hes e he
    rw [Journal.add_add, Catalog.findings_remove hget hadmits] at happly
    rw [patch, extract_eq hl, Catalog.data_remove hget hother, Catalog.agenda_remove hget hadmits,
      Catalog.findings_remove hget hadmits, List.filter_append, hkept]
    exact happly

/-- An edit of parts, a part, and a directive for a pass of the mod `zzz`. -/
def editPartAndStray : Catalog :=
  .ofEntries ["a.cfg".toList] [
    ⟨0, "@PART".toList, none, [⟨"@name".toList, "z".toList⟩], []⟩,
    ⟨0, "PART".toList, none, [⟨"name".toList, "x".toList⟩], []⟩,
    ⟨0, "@PART:FOR[zzz]".toList, none, [], []⟩]

/-- Where `zzz` is not known, the third entry leaves one report and no other trace. -/
theorem patch_remove_of_rejected_editPartAndStray :
    Listener.calm.NeverFails ∧ ∃ x last es ns,
      extract .calm [] editPartAndStray .empty = .ok x ∧ x.catalog.get? 2 = none ∧
      x.agenda.placesOf 2 = [] ∧
      patch .calm {} [] editPartAndStray .empty = .ok (last, Journal.empty.add es ns) ∧
      patch .calm {} [] (editPartAndStray.remove 2) .empty =
        .ok (last, Journal.empty.add (es.filter fun e => !e.mentions 2) ns) ∧
      es.countP (·.mentions 2) = 1 := by
  obtain ⟨entry, hget⟩ : ∃ entry, editPartAndStray.get? 2 = some entry := ⟨_, rfl⟩
  have hrun := extract_eq Listener.calm_neverFails [] editPartAndStray .empty
  have hgone : editPartAndStray.data.get? 2 = none := by decide +kernel
  have hplaces : (editPartAndStray.agenda []).placesOf 2 = [] := by decide +kernel
  obtain ⟨last, es, ns, hfirst, hsecond⟩ := patch_remove_of_rejected Listener.calm_neverFails {}
    [] editPartAndStray .empty hget hrun hgone hplaces
  have hcount : (patch .calm {} [] editPartAndStray .empty).toOption.map
      (fun r => r.2.events.countP (·.mentions 2)) = some 1 := by decide +kernel
  simp only [hfirst, Except.toOption, Option.map_some, Journal.events_add, Option.some.injEq]
    at hcount
  exact ⟨Listener.calm_neverFails, _, last, es, ns, hrun, hgone, hplaces, hfirst, hsecond, hcount⟩

end CfgPatch
