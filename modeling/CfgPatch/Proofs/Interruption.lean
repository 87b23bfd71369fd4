import CfgPatch.Proofs.Extraction

/-!
# Listeners that fail on reports

A listener may fail on a report while the entries are sorted. The entry that is reported is
then dropped, the listener is told that it failed, and the extraction goes on with the next
entry as if nothing had happened. There is one report of which this is not true: that an
entry which means to be a directive has an index. It is made when the entry has left the
catalog and the directive is put together, which is not guarded, and a listener that fails on
it ends the extraction.
-/

namespace CfgPatch

/-! ## What is heard of one entry -/

namespace Heard

variable {l : Listener} {ref : Ref} {es : List Event} {calls : List Call}

/-- A listener fails at most once over an entry, and is told so. -/
theorem exceptionCount_eq (h : Heard l ref es calls) (hes : exceptionCount es = 0) :
    exceptionCount (told calls) = refusalCount calls ∧ refusalCount calls ≤ 1 := by
  cases h with
  | whole =>
    rw [told_map_taken, refusalCount_map_taken, hes]
    exact ⟨rfl, Nat.zero_le 1⟩
  | @part past rest e _ hsplit =>
    rw [hsplit, exceptionCount_append] at hes
    have hpast : exceptionCount past = 0 := (Nat.add_eq_zero_iff.1 hes).1
    rw [told_append, told_map_taken, exceptionCount_append, hpast, refusalCount_append,
      refusalCount_map_taken]
    exact ⟨rfl, Nat.le_refl 1⟩

/-- What a listener fails on is among the events. -/
theorem exists_of_refusalCount_ne_zero (h : Heard l ref es calls) (hne : refusalCount calls ≠ 0) :
    ∃ e ∈ es, ¬l.Takes e := by
  cases h with
  | whole => exact absurd (refusalCount_map_taken es) hne
  | @part past rest e _ hsplit hrefuses => exact ⟨e, by simp [hsplit], hrefuses⟩

end Heard

namespace Agenda

/-- Nothing that is found out about an entry is an exception. -/
theorem exceptionCount_findings (a : Agenda) (cat : Catalog) (id : EntryId) (entry : Entry) :
    exceptionCount (a.findings cat id entry) = 0 := by
  refine List.countP_eq_zero.2 fun e he => ?_
  rcases of_mem_findings he with rfl | ⟨_, rfl⟩ | ⟨_, rfl⟩ <;> exact Bool.false_ne_true

/-- An entry that becomes a directive gives rise to no report. -/
theorem admit?_eq_none_of_refuses {l : Listener} (hl : l.FailsOnlyOn Event.isReport) {a : Agenda}
    {cat : Catalog} {id : EntryId} {entry : Entry} {e : Event}
    (he : e ∈ a.findings cat id entry) (hrefuses : ¬l.Takes e) : a.admit? cat id entry = none := by
  rcases data_or_admitted_or_reported a cat id entry with
    ⟨_, hadmits, _⟩ | ⟨_, _, hfind⟩ | ⟨_, hadmits, _⟩
  · exact hadmits
  · obtain rfl := List.mem_singleton.1 (hfind ▸ he)
    exact absurd (hl .added nofun) hrefuses
  · exact hadmits

end Agenda

/-! ## What is left of the catalog -/

/-- The numbers of the entries over which the listener failed. -/
def struck (ss : List Sorting) : List EntryId :=
  (ss.filter fun s => refusalCount s.calls != 0).map (·.id)

/-- What stays is the data, without the entries over which the listener failed. -/
theorem removeAll_not_stays {cat : Catalog} {ss : List Sorting}
    (hss : ss.map Sorting.subject = cat.entries) :
    cat.removeAll ((ss.filter fun s => !s.stays).map (·.id)) = cat.data.removeAll (struck ss) := by
  have hdata : (cat.entries.filter fun p => !p.2.isData).map (·.1) =
      (ss.filter fun s => !s.entry.isData).map (·.id) := by
    rw [← hss, List.filter_map, List.map_map]
    rfl
  -- an entry stays if it is data and the listener did not fail over it
  refine Catalog.ext_get? (by simp [Catalog.data]) (by simp [Catalog.data]) fun k => ?_
  rw [Catalog.get?_removeAll, Catalog.get?_removeAll, Catalog.data, Catalog.get?_removeAll, hdata]
  by_cases hstruck : k ∈ struck ss
  · have hgone : k ∈ (ss.filter fun s => !s.stays).map (·.id) := by
      obtain ⟨s, hs, rfl⟩ := List.mem_map.1 hstruck
      obtain ⟨hs, hne⟩ := List.mem_filter.1 hs
      refine List.mem_map_of_mem (List.mem_filter.2 ⟨hs, ?_⟩)
      simp [Sorting.stays, bne_iff_ne.1 hne]
    rw [if_pos hstruck, if_pos hgone]
  · have hiff : k ∈ (ss.filter fun s => !s.stays).map (·.id) ↔
        k ∈ (ss.filter fun s => !s.entry.isData).map (·.id) := by
      rw [List.mem_map, List.mem_map]
      refine exists_congr fun s => and_congr_left fun hid => ?_
      rw [List.mem_filter, List.mem_filter]
      refine and_congr_right fun hs => ?_
      have hcalm : refusalCount s.calls = 0 := by
        by_contra hne
        exact hstruck (hid ▸ List.mem_map_of_mem (List.mem_filter.2 ⟨hs, bne_iff_ne.2 hne⟩))
      simp [Sorting.stays, hcalm]
    rw [if_neg hstruck, if_congr hiff rfl rfl]

/-! ## The whole extraction -/

/-- If the listener fails on nothing but reports, then extraction comes to what it would come
to under a listener that takes them, without the entries over which the listener failed. Each
of these is in no pass, and of each the listener is told once that it failed. Otherwise the
extraction ends with a report on which the listener failed, which is that an entry has an
index. -/
theorem extract_spares_or_ends {l : Listener} (hl : l.FailsOnlyOn Event.isReport)
    (mods : List Text) (cat : Catalog) (j : Journal) :
    (∃ (x y : Extraction) (ss : List Sorting),
      extract l mods cat j = .ok x ∧ extract .calm mods cat j = .ok y ∧
      ss.map Sorting.subject = cat.entries ∧
      x.journal = j.extend (ss.flatMap (·.calls)) [.sorted] ∧
      x.agenda = y.agenda ∧ x.catalog = y.catalog.removeAll (struck ss) ∧
      ∀ s ∈ ss, s.IsHeard l (.ofMods mods) cat ∧ refusalCount s.calls ≤ 1 ∧
        exceptionCount (told s.calls) = refusalCount s.calls ∧
        (s.id ∈ struck ss → x.catalog.get? s.id = none ∧ x.agenda.placesOf s.id = [])) ∨
    ∃ (id : EntryId) (entry : Entry) (calls : List Call) (reason : Text),
      cat.get? id = some entry ∧ entry.HasIndex ∧ ¬l.Takes (cat.indexReport id entry) ∧
      extract l mods cat j =
        .error ⟨reason, j.extend (calls ++ [(cat.indexReport id entry).refused]) []⟩ := by
  rcases extract_cases hl mods cat j with
    ⟨ss, hss, hall, hrun⟩ | ⟨ss, ⟨id, entry⟩, rest, reason, hss, _, hindex, hrefuses, hrun⟩
  · refine .inl ⟨_, _, ss, hrun, extract_eq Listener.calm_neverFails mods cat j, hss, rfl, rfl,
      removeAll_not_stays hss, fun s hs => ?_⟩
    obtain ⟨hexception, hle⟩ :=
      (hall s hs).exceptionCount_eq (Agenda.exceptionCount_findings ..)
    refine ⟨hall s hs, hle, hexception, fun hstruck => ⟨?_, ?_⟩⟩
    · rw [removeAll_not_stays hss, Catalog.get?_removeAll, if_pos hstruck]
    · -- what the listener failed on is a report, and directives give rise to none
      have hget : ∀ s ∈ ss, cat.get? s.id = some s.entry := fun s hs =>
        Catalog.mem_entries.1 (hss ▸ List.mem_map_of_mem hs)
      obtain ⟨s', hs', hid⟩ := List.mem_map.1 hstruck
      obtain ⟨hs', hne⟩ := List.mem_filter.1 hs'
      obtain ⟨e, he, hrefuses⟩ :=
        (hall s' hs').exists_of_refusalCount_ne_zero (bne_iff_ne.1 hne)
      rw [← hid, Catalog.placesOf_agenda (hget s' hs'),
        Agenda.admit?_eq_none_of_refuses hl he hrefuses]
      rfl
  · have hget : cat.get? id = some entry :=
      Catalog.mem_entries.1 (hss ▸ List.mem_append_right _ (List.mem_cons_self ..))
    exact .inr ⟨id, entry, _, reason, hget, hindex, hrefuses, hrun⟩

/-- A directive for two passes at once, and one that is as it should be. -/
def ambiguousThenPlain : Catalog :=
  .ofEntries ["a.cfg".toList] [
    ⟨0, "@PART:FIRST:FINAL".toList, none, [], []⟩,
    ⟨0, "@PART".toList, none, [], []⟩]

/-- The listener fails on the first report, that there are two passes, and the second directive
arrives on the agenda all the same. -/
theorem extract_spares_or_ends_ambiguousThenPlain :
    (Listener.failingAt Event.isReport 0 ['x']).FailsOnlyOn Event.isReport ∧
    ∃ (x : Extraction) (ss : List Sorting),
      extract (.failingAt Event.isReport 0 ['x']) [] ambiguousThenPlain .empty = .ok x ∧
      ss.map Sorting.subject = ambiguousThenPlain.entries ∧
      x.journal = Journal.empty.extend (ss.flatMap (·.calls)) [.sorted] ∧
      (∀ s ∈ ss, exceptionCount (told s.calls) = refusalCount s.calls) ∧
      exceptionCount x.journal.events = 1 ∧ x.catalog.ids = [] ∧
      x.agenda.queue.map (·.2.source) = [some 1] := by
  have hl := Listener.failingAt_failsOnlyOn Event.isReport 0 ['x']
  have hcounts : (extract (.failingAt Event.isReport 0 ['x']) [] ambiguousThenPlain
      .empty).toOption.map (fun x =>
        (exceptionCount x.journal.events, x.catalog.ids, x.agenda.queue.map (·.2.source))) =
      some (1, [], [some 1]) := by
    decide +kernel
  rcases extract_spares_or_ends hl [] ambiguousThenPlain .empty with
    ⟨x, y, ss, hrun, _, hss, hjournal, _, _, hall⟩ | ⟨_, _, _, _, _, _, _, hrun⟩
  · simp only [hrun, Except.toOption, Option.map_some, Option.some.injEq, Prod.mk.injEq]
      at hcounts
    exact ⟨hl, x, ss, hrun, hss, hjournal, fun s hs => (hall s hs).2.2.1, hcounts⟩
  · simp [hrun, Except.toOption] at hcounts

/-- A directive with an index. -/
def directiveWithIndex : Catalog :=
  .ofEntries ["a.cfg".toList] [⟨0, "@PART,1".toList, none, [], []⟩]

/-- Extraction does not always survive a listener that fails on a report. -/
theorem extract_not_always_ok :
    ¬∀ (l : Listener) (mods : List Text) (cat : Catalog) (j : Journal),
      l.FailsOnlyOn Event.isReport → ∃ x, extract l mods cat j = .ok x := by
  intro h
  obtain ⟨x, hx⟩ := h (.failingAt Event.isReport 0 ['x']) [] directiveWithIndex .empty
    (Listener.failingAt_failsOnlyOn Event.isReport 0 ['x'])
  have hends : (extract (.failingAt Event.isReport 0 ['x']) [] directiveWithIndex
      .empty).toOption.isNone := by
    decide +kernel
  simp [hx, Except.toOption] at hends

end CfgPatch
