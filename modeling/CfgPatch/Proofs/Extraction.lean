import CfgPatch.Proofs.Assessment

/-!
# Extraction loses nothing

Since what becomes of an entry does not depend on the entries sorted before, a whole
extraction is `Agenda.admit?` mapped over the entries, `Agenda.findings` appended over them,
and the entries that are no data taken out (`extract_eq`). It follows that every entry is
accounted for: it is still in the catalog, or on the agenda once, or it has been reported
(`Extraction.Accounts`).

A listener may fail on a report. The entry then goes the way of those that are rejected, which
makes no difference to the others; but there is one report that ends the whole extraction
(`extract_cases`).
-/

namespace CfgPatch

open Text

/-! ## Sorting one entry -/

/-- The report that an entry, whose name passes for that of a directive, has an index. -/
def Catalog.indexReport (cat : Catalog) (id : EntryId) (entry : Entry) : Event :=
  .error (cat.refOf id entry) (.badDirective (.invalidName entry.strippedName .rootIndex))

/-- How a listener hears what is found out about an entry: it takes everything, or it fails
once and is told so, and hears no more about that entry. -/
inductive Heard (l : Listener) (ref : Ref) (es : List Event) : List Call → Prop
  | whole : Heard l ref es (es.map Event.taken)
  | part {past rest : List Event} {e : Event} (reason : Text) (split : es = past ++ e :: rest)
      (refuses : ¬l.Takes e) :
      Heard l ref es
        (past.map Event.taken ++ [e.refused, (Event.exception ref .sorting reason).taken])

/-- The sorting of an entry, with the calls that were made about it. -/
structure Sorting where
  id : EntryId
  entry : Entry
  calls : List Call

/-- The entry with its number. -/
def Sorting.subject (s : Sorting) : EntryId × Entry := (s.id, s.entry)

/-- Whether an entry stays in the catalog: it is data, and the listener did not fail over it. -/
def Sorting.stays (s : Sorting) : Bool := s.entry.isData && refusalCount s.calls == 0

/-- The listener hears what is found out about the entry in a catalog. -/
def Sorting.IsHeard (s : Sorting) (l : Listener) (a : Agenda) (cat : Catalog) : Prop :=
  Heard l (cat.refOf s.id s.entry) (a.findings cat s.id s.entry) s.calls

namespace Heard

variable {l : Listener} {ref : Ref} {es : List Event} {calls : List Call}

theorem eq_whole (h : Heard l ref es calls) (hl : l.NeverFails) : calls = es.map Event.taken := by
  cases h with
  | whole => rfl
  | part _ _ hrefuses => exact absurd (hl _) hrefuses

end Heard

namespace Extraction

section Step

variable {l : Listener} {x : Extraction} {id : EntryId} {entry : Entry}

/-- An entry whose name reads as a directive is moved to the agenda. -/
theorem enlist_of_ok (hl : l.FailsOnlyOn Event.isReport) {pass : Pass}
    (hpass : x.agenda.canonical? pass = some pass) {d : Directive}
    (hread : x.catalog.directiveOf id entry = .ok d) :
    x.enlist l id entry (x.catalog.refOf id entry) pass entry.strippedName =
      .ok ⟨x.catalog.remove id, ⟨x.agenda.mods, x.agenda.queue ++ [(pass, d)]⟩,
        x.journal.add [.added] []⟩ := by
  have hnode : Directive.ofNode entry.file (((x.drop id).catalog.fileUrl? entry.file).getD [])
      (some id) { entry.node with name := entry.strippedName } = .ok d := hread
  rw [enlist]
  simp only [hnode]
  simp only [Agenda.push?, drop, hpass, Option.map_some, tell,
    Journal.tell_of_takes (hl .added nofun)]
  rfl

/-- An entry whose name does not read as a directive is dropped and reported, unless the
listener fails on the report. -/
theorem enlist_of_error {e : PatchError} (hread : x.catalog.directiveOf id entry = .error e)
    (pass : Pass) :
    x.enlist l id entry (x.catalog.refOf id entry) pass entry.strippedName =
      (x.journal.tell l (.error (x.catalog.refOf id entry) (.badDirective e))).map
        fun j => ⟨x.catalog.remove id, x.agenda, j⟩ := by
  have hnode : Directive.ofNode entry.file (((x.drop id).catalog.fileUrl? entry.file).getD [])
      (some id) { entry.node with name := entry.strippedName } = .error e := hread
  rw [enlist]
  simp only [hnode]
  rfl

theorem step_of_keep {es : List Event} (h : x.catalog.get? id = some entry)
    (hassess : assess x.agenda (x.catalog.refOf id entry) entry.node.name = (es, .keep))
    (htell : x.journal.tellAll l es = .ok (x.journal.add es [])) :
    x.step l id = .ok { x with journal := x.journal.add es [] } := by
  rw [Catalog.refOf] at hassess
  rw [step, h]
  simp only [hassess, htell]

theorem step_of_drop {es : List Event} (h : x.catalog.get? id = some entry)
    (hassess : assess x.agenda (x.catalog.refOf id entry) entry.node.name = (es, .drop))
    (htell : x.journal.tellAll l es = .ok (x.journal.add es [])) :
    x.step l id = .ok ({ x with journal := x.journal.add es [] }.drop id) := by
  rw [Catalog.refOf] at hassess
  rw [step, h]
  simp only [hassess, htell]

theorem step_of_patch (h : x.catalog.get? id = some entry) {pass : Pass} {name : Text}
    (hassess : assess x.agenda (x.catalog.refOf id entry) entry.node.name =
      ([], .patch pass name)) :
    x.step l id = x.enlist l id entry (x.catalog.refOf id entry) pass name := by
  have htell : x.journal.tellAll l [] = .ok x.journal := rfl
  rw [Catalog.refOf] at hassess
  rw [step, h]
  simp only [hassess, htell]
  rfl

/-- An entry over which the listener fails is dropped. -/
theorem step_of_interruption (hl : l.FailsOnlyOn Event.isReport) {es : List Event}
    {verdict : Verdict} (h : x.catalog.get? id = some entry)
    (hassess : assess x.agenda (x.catalog.refOf id entry) entry.node.name = (es, verdict))
    {i : Interruption} (htell : x.journal.tellAll l es = .error i) :
    x.step l id = .ok ⟨x.catalog.remove id, x.agenda,
      i.journal.add [.exception (x.catalog.refOf id entry) .sorting i.reason] []⟩ := by
  have hexception := Journal.tell_of_takes
    (hl (.exception (x.catalog.refOf id entry) .sorting i.reason) nofun) i.journal
  rw [Catalog.refOf] at hassess hexception
  rw [step, h]
  simp only [hassess, htell, tell, hexception]
  rfl

end Step

/-- The state of an extraction after one more entry: data is left in the catalog, unless the
listener failed over it, and anything else taken out, and what is admitted is put on the
agenda. -/
def sorted (x : Extraction) (s : Sorting) : Extraction where
  catalog := if s.stays then x.catalog else x.catalog.remove s.id
  agenda := ⟨x.agenda.mods, x.agenda.queue ++ (x.agenda.admit? x.catalog s.id s.entry).toList⟩
  journal := x.journal.extend s.calls []

section Cases

variable {l : Listener} {x : Extraction} {id : EntryId} {entry : Entry}

/-- An entry that its assessment keeps or drops is sorted, whether or not the listener fails
over it. -/
theorem step_of_assessed (hl : l.FailsOnlyOn Event.isReport) (h : x.catalog.get? id = some entry)
    {es : List Event}
    (hassess : assess x.agenda (x.catalog.refOf id entry) entry.node.name =
      (es, if entry.isData then .keep else .drop))
    (hadmits : x.agenda.admit? x.catalog id entry = none) :
    ∃ calls, Heard l (x.catalog.refOf id entry) es calls ∧
      x.step l id = .ok (x.sorted ⟨id, entry, calls⟩) := by
  rcases Journal.tellAll_cases l es x.journal with
    htell | ⟨past, e, rest, reason, rfl, hrefuses, htell⟩
  · refine ⟨_, .whole, ?_⟩
    cases hdata : entry.isData with
    | true =>
      rw [hdata, if_pos rfl] at hassess
      rw [step_of_keep h hassess htell]
      simp [sorted, Sorting.stays, hdata, hadmits, Journal.add]
    | false =>
      rw [hdata, if_neg Bool.false_ne_true] at hassess
      rw [step_of_drop h hassess htell]
      simp [sorted, drop, Sorting.stays, hdata, hadmits, Journal.add]
  · -- the call that failed keeps even data from staying
    refine ⟨_, .part reason rfl hrefuses, ?_⟩
    have hstruck : refusalCount (past.map Event.taken ++ [e.refused,
        (Event.exception (x.catalog.refOf id entry) .sorting reason).taken]) = 1 := by
      rw [refusalCount_append, refusalCount_map_taken]
      rfl
    rw [step_of_interruption hl h hassess htell]
    simp only [sorted, Sorting.stays, hstruck, hadmits, Journal.add, Journal.extend_extend]
    simp

/-- An entry is sorted, or the extraction is interrupted: the name passes for that of a
directive but has an index, and the listener fails on the report of that. -/
theorem step_cases (hl : l.FailsOnlyOn Event.isReport) (h : x.catalog.get? id = some entry) :
    (∃ calls, Heard l (x.catalog.refOf id entry) (x.agenda.findings x.catalog id entry) calls ∧
      x.step l id = .ok (x.sorted ⟨id, entry, calls⟩)) ∨
    ∃ reason, entry.HasIndex ∧ ¬l.Takes (x.catalog.indexReport id entry) ∧
      x.step l id =
        .error ⟨reason, x.journal.extend [(x.catalog.indexReport id entry).refused] []⟩ := by
  have houtcome := x.agenda.outcome x.catalog id entry
  cases hassess : assess x.agenda (x.catalog.refOf id entry) entry.node.name with
  | mk es verdict =>
    rw [hassess] at houtcome
    cases houtcome with
    | data hdata hadmits hfind _ =>
      rw [hfind]
      exact .inl (step_of_assessed hl h (by rw [hassess, if_pos hdata]) hadmits)
    | rejected hother hadmits hfind _ _ =>
      rw [hfind]
      exact .inl (step_of_assessed hl h (by rw [hassess, if_neg hother]) hadmits)
    | directive hother hknown hread hadmits hfind =>
      -- nothing is reported here, and that a directive was added is no report
      rw [hfind]
      refine .inl ⟨_, .whole, ?_⟩
      rw [step_of_patch h hassess, enlist_of_ok hl hknown hread]
      simp [sorted, Sorting.stays, hother, hadmits, Journal.add]
    | @misread pass header e hdir hheader hknown hread hadmits hfind =>
      obtain ⟨hindex, rfl⟩ := Directive.index_of_ofNode_error hheader hread
      rw [hfind, step_of_patch h hassess, enlist_of_error hread]
      rw [← Catalog.indexReport]
      -- the entry has left the catalog, and nobody catches a failure of this report
      rcases Journal.tell_map_cases l x.journal (x.catalog.indexReport id entry) _ with
        hdone | ⟨hrefuses, reason, hcut⟩
      · refine .inl ⟨_, .whole, ?_⟩
        rw [hdone]
        have hother := Entry.not_isData_of_isDirective hdir
        simp [sorted, Sorting.stays, hother, hadmits, Journal.add]
      · exact .inr ⟨reason, ⟨hdir, header, hheader, hindex⟩, hrefuses, hcut⟩

end Cases

/-- The state of an extraction after some entries of its catalog have been sorted. -/
def after (x : Extraction) (ss : List Sorting) : Extraction where
  catalog := x.catalog.removeAll ((ss.filter fun s => !s.stays).map (·.id))
  agenda := ⟨x.agenda.mods,
    x.agenda.queue ++ ss.filterMap fun s => x.agenda.admit? x.catalog s.id s.entry⟩
  journal := x.journal.extend (ss.flatMap (·.calls)) []

theorem files_sorted (x : Extraction) (s : Sorting) :
    (x.sorted s).catalog.files = x.catalog.files := by
  rw [sorted]
  split <;> rfl

/-- Sorting an entry leaves the other entries where they are. -/
theorem get?_sorted (x : Extraction) {s : Sorting} {k : EntryId} (h : k ≠ s.id) :
    (x.sorted s).catalog.get? k = x.catalog.get? k := by
  rw [sorted]
  split
  · rfl
  · rw [Catalog.get?_remove, if_neg h]

theorem after_nil (x : Extraction) : x.after [] = x := by
  simp [after, Journal.extend]

theorem after_cons (x : Extraction) (s : Sorting) (ss : List Sorting) :
    x.after (s :: ss) = (x.sorted s).after ss := by
  have hfiles := files_sorted x s
  have hmods : (x.sorted s).agenda.mods = x.agenda.mods := rfl
  rw [after, after, Agenda.admit?_congr hmods hfiles, hmods, sorted]
  cases hstays : s.stays <;> cases hadmits : x.agenda.admit? x.catalog s.id s.entry <;>
    simp [hstays, hadmits]

/-- Entries are sorted one after another, unless the listener fails on the report that one has
an index. Then the extraction ends there. -/
theorem foldlM_step_cases {l : Listener} (hl : l.FailsOnlyOn Event.isReport)
    (ps : List (EntryId × Entry)) (x : Extraction) (hnodup : (ps.map Prod.fst).Nodup)
    (hget : ∀ p ∈ ps, x.catalog.get? p.1 = some p.2) :
    (∃ ss : List Sorting, ss.map Sorting.subject = ps ∧
      (∀ s ∈ ss, s.IsHeard l x.agenda x.catalog) ∧
      (ps.map Prod.fst).foldlM (step l) x = .ok (x.after ss)) ∨
    ∃ (ss : List Sorting) (p : EntryId × Entry) (rest : List (EntryId × Entry)) (reason : Text),
      ss.map Sorting.subject ++ p :: rest = ps ∧
      (∀ s ∈ ss, s.IsHeard l x.agenda x.catalog) ∧
      p.2.HasIndex ∧ ¬l.Takes (x.catalog.indexReport p.1 p.2) ∧
      (ps.map Prod.fst).foldlM (step l) x = .error ⟨reason, x.journal.extend
        (ss.flatMap (·.calls) ++ [(x.catalog.indexReport p.1 p.2).refused]) []⟩ := by
  induction ps generalizing x with
  | nil => exact .inl ⟨[], rfl, by simp, by rw [after_nil]; rfl⟩
  | cons p ps ih =>
    obtain ⟨hnot, hnodup⟩ := List.nodup_cons.1 hnodup
    have hp := hget p (List.mem_cons_self ..)
    rw [List.map_cons, List.foldlM_cons]
    rcases step_cases hl hp with ⟨calls, hheard, hstep⟩ | ⟨reason, hindex, hrefuses, hstep⟩
    · -- what is sorted later is still where it was, and is heard in the same words
      have hfiles := files_sorted x ⟨p.1, p.2, calls⟩
      have hkept : ∀ q ∈ ps, (x.sorted ⟨p.1, p.2, calls⟩).catalog.get? q.1 = some q.2 := by
        intro q hq
        have hne : q.1 ≠ p.1 := fun heq => hnot (heq ▸ List.mem_map_of_mem hq)
        rw [get?_sorted x hne, hget q (List.mem_cons_of_mem _ hq)]
      have hsame : ∀ s : Sorting, s.IsHeard l (x.sorted ⟨p.1, p.2, calls⟩).agenda
          (x.sorted ⟨p.1, p.2, calls⟩).catalog → s.IsHeard l x.agenda x.catalog := by
        intro s hs
        rw [Sorting.IsHeard, Catalog.refOf, Catalog.urlFor_congr hfiles,
          Agenda.findings_congr rfl hfiles] at hs
        exact hs
      have hreport : (x.sorted ⟨p.1, p.2, calls⟩).catalog.indexReport = x.catalog.indexReport := by
        funext id entry
        rw [Catalog.indexReport, Catalog.refOf, Catalog.urlFor_congr hfiles]
        rfl
      rw [hstep]
      rcases ih _ hnodup hkept with
        ⟨ss, rfl, hall, hrun⟩ | ⟨ss, q, rest, reason, rfl, hall, hindex, hrefuses, hrun⟩
      · refine .inl ⟨⟨p.1, p.2, calls⟩ :: ss, rfl, ?_, ?_⟩
        · rintro s (_ | ⟨_, hs⟩)
          · exact hheard
          · exact hsame s (hall s hs)
        · rw [after_cons]
          exact hrun
      · refine .inr ⟨⟨p.1, p.2, calls⟩ :: ss, q, rest, reason, rfl, ?_, hindex, ?_, ?_⟩
        · rintro s (_ | ⟨_, hs⟩)
          · exact hheard
          · exact hsame s (hall s hs)
        · rw [← hreport]
          exact hrefuses
        · refine Eq.trans hrun ?_
          rw [hreport, sorted, Journal.extend_extend, List.flatMap_cons, List.append_assoc]
          rfl
    · refine .inr ⟨[], p, ps, reason, rfl, by simp, hindex, hrefuses, ?_⟩
      rw [hstep]
      rfl

end Extraction

/-! ## Sorting a catalog -/

namespace Catalog

/-- The catalog with its data alone. -/
def data (cat : Catalog) : Catalog :=
  cat.removeAll ((cat.entries.filter fun p => !p.2.isData).map (·.1))

/-- The directives found in a catalog, each with its pass, in the order of the entries. -/
def accepted (cat : Catalog) (mods : List Text) : List (Pass × Directive) :=
  cat.entries.filterMap fun p => (Agenda.ofMods mods).admit? cat p.1 p.2

/-- The agenda of the directives found in a catalog. -/
def agenda (cat : Catalog) (mods : List Text) : Agenda :=
  ⟨Agenda.distinct mods, cat.accepted mods⟩

/-- What the listener hears about the entries of a catalog. -/
def findings (cat : Catalog) (mods : List Text) : List Event :=
  cat.entries.flatMap fun p => (Agenda.ofMods mods).findings cat p.1 p.2

end Catalog

/-- If the listener fails on nothing but reports, then extraction leaves the data in the
catalog, but for entries over which the listener failed, and puts the directives on the agenda
in the order of their entries; or it ends with the report that an entry has an index. -/
theorem extract_cases {l : Listener} (hl : l.FailsOnlyOn Event.isReport) (mods : List Text)
    (cat : Catalog) (j : Journal) :
    (∃ ss : List Sorting, ss.map Sorting.subject = cat.entries ∧
      (∀ s ∈ ss, s.IsHeard l (.ofMods mods) cat) ∧
      extract l mods cat j = .ok ⟨cat.removeAll ((ss.filter fun s => !s.stays).map (·.id)),
        cat.agenda mods, j.extend (ss.flatMap (·.calls)) [.sorted]⟩) ∨
    ∃ (ss : List Sorting) (p : EntryId × Entry) (rest : List (EntryId × Entry)) (reason : Text),
      ss.map Sorting.subject ++ p :: rest = cat.entries ∧
      (∀ s ∈ ss, s.IsHeard l (.ofMods mods) cat) ∧
      p.2.HasIndex ∧ ¬l.Takes (cat.indexReport p.1 p.2) ∧
      extract l mods cat j = .error ⟨reason,
        j.extend (ss.flatMap (·.calls) ++ [(cat.indexReport p.1 p.2).refused]) []⟩ := by
  have hget : ∀ p ∈ cat.entries, cat.get? p.1 = some p.2 := fun p hp => Catalog.mem_entries.1 hp
  rw [extract, Catalog.ids]
  rcases Extraction.foldlM_step_cases hl cat.entries ⟨cat, Agenda.ofMods mods, j⟩ cat.ids_nodup
      hget with
    ⟨ss, hss, hall, hrun⟩ | ⟨ss, p, rest, reason, hss, hall, hindex, hrefuses, hrun⟩
  · refine .inl ⟨ss, hss, hall, ?_⟩
    have hqueue : (ss.filterMap fun s => (Agenda.ofMods mods).admit? cat s.id s.entry) =
        cat.accepted mods := by
      rw [Catalog.accepted, ← hss, List.filterMap_map]
      rfl
    rw [hrun, Except.map, Extraction.after, hqueue, Journal.note_eq_add, Journal.add,
      Journal.extend_extend, List.map_nil, List.append_nil]
    rfl
  · refine .inr ⟨ss, p, rest, reason, hss, hall, hindex, hrefuses, ?_⟩
    rw [hrun]
    rfl

/-- Under a listener that never fails, extraction leaves the data in the catalog, puts the
directives on the agenda in the order of their entries, and reports the findings. -/
theorem extract_eq {l : Listener} (hl : l.NeverFails) (mods : List Text) (cat : Catalog)
    (j : Journal) :
    extract l mods cat j =
      .ok ⟨cat.data, cat.agenda mods, j.add (cat.findings mods) [.sorted]⟩ := by
  rcases extract_cases (hl.failsOnlyOn _) mods cat j with
    ⟨ss, hss, hall, hrun⟩ | ⟨_, p, _, _, _, _, _, hrefuses, _⟩
  · have hcalls : ∀ s ∈ ss, s.calls =
        ((Agenda.ofMods mods).findings cat s.id s.entry).map Event.taken :=
      fun s hs => (hall s hs).eq_whole hl
    have hstays : ss.filter (fun s => !s.stays) = ss.filter fun s => !s.entry.isData := by
      refine List.filter_congr fun s hs => ?_
      rw [Sorting.stays, hcalls s hs, refusalCount_map_taken]
      simp
    have hfound : ss.flatMap (·.calls) = (cat.findings mods).map Event.taken := by
      rw [Catalog.findings, ← hss, List.map_flatMap, List.flatMap_map]
      exact List.flatMap_congr hcalls
    rw [hrun, hstays, hfound, Catalog.data, ← hss, List.filter_map, List.map_map]
    rfl
  · exact absurd (hl _) hrefuses

namespace Catalog

theorem entries_data (cat : Catalog) : cat.data.entries = cat.entries.filter (·.2.isData) := by
  rw [data, entries_removeAll]
  refine List.filter_congr fun p hp => ?_
  have hget : ∀ entry, (p.1, entry) ∈ cat.entries → entry = p.2 := fun entry h =>
    Option.some.inj ((mem_entries.1 h).symm.trans (mem_entries.1 hp))
  rw [Bool.eq_iff_iff, decide_eq_true_eq, List.mem_map]
  -- numbers are unique, so an entry that is data shares its number with no other
  constructor
  · intro hnot
    by_contra hdata
    exact hnot ⟨p, List.mem_filter.2 ⟨hp, by simpa using hdata⟩, rfl⟩
  · rintro hdata ⟨q, hq, hid⟩
    obtain ⟨hq, hother⟩ := List.mem_filter.1 hq
    have hentry : q.2 = p.2 := hget q.2 (hid ▸ hq)
    simp [hentry, hdata] at hother

theorem get?_data (cat : Catalog) (k : EntryId) :
    cat.data.get? k = (cat.get? k).filter Entry.isData := by
  ext entry
  rw [← mem_entries, entries_data, List.mem_filter, mem_entries, Option.filter_eq_some_iff]

end Catalog

/-! ## What belongs to one entry -/

section Keyed

variable {κ α β : Type}

/-- Of what is gathered along a list with distinct keys, a test that only one key can pass
leaves what that key gives. -/
theorem filter_flatMap_of_key {ps : List (κ × α)} (hnodup : (ps.map Prod.fst).Nodup)
    {p : κ × α} (hp : p ∈ ps) {give : κ × α → List β} {test : β → Bool}
    (htest : ∀ q ∈ ps, q.1 ≠ p.1 → ∀ b ∈ give q, ¬test b) :
    (ps.flatMap give).filter test = (give p).filter test := by
  have hnone : ∀ qs : List (κ × α), (∀ q ∈ qs, q ∈ ps ∧ q.1 ≠ p.1) →
      (qs.flatMap give).filter test = [] := by
    intro qs hqs
    rw [List.filter_eq_nil_iff]
    intro b hb
    obtain ⟨q, hq, hb⟩ := List.mem_flatMap.1 hb
    exact htest q (hqs q hq).1 (hqs q hq).2 b hb
  obtain ⟨before, after, rfl⟩ := List.append_of_mem hp
  rw [List.map_append, List.map_cons, List.nodup_append, List.nodup_cons] at hnodup
  obtain ⟨_, ⟨hafter, _⟩, hbefore⟩ := hnodup
  rw [List.flatMap_append, List.flatMap_cons, List.filter_append, List.filter_append,
    hnone before, hnone after, List.nil_append, List.append_nil]
  · refine fun q hq => ⟨by simp [hq], fun heq => hafter ?_⟩
    exact heq ▸ List.mem_map_of_mem hq
  · refine fun q hq => ⟨by simp [hq], ?_⟩
    exact hbefore q.1 (List.mem_map_of_mem hq) p.1 (List.mem_cons_self ..)

/-- What is gathered along a filtered list is what the whole list gives, if the elements that
are left out give nothing. -/
theorem flatMap_filter_of_forall {keep : α → Bool} {give give' : α → List β} {xs : List α}
    (hkeep : ∀ x ∈ xs, keep x → give' x = give x) (hdrop : ∀ x ∈ xs, ¬keep x → give' x = []) :
    (xs.filter keep).flatMap give = xs.flatMap give' := by
  induction xs with
  | nil => rfl
  | cons x xs ih =>
    have hrest := ih (fun y hy => hkeep y (List.mem_cons_of_mem _ hy))
      fun y hy => hdrop y (List.mem_cons_of_mem _ hy)
    by_cases hx : keep x
    · rw [List.filter_cons_of_pos hx, List.flatMap_cons, List.flatMap_cons, hrest,
        hkeep x (List.mem_cons_self ..) hx]
    · rw [List.filter_cons_of_neg hx, List.flatMap_cons, hrest,
        hdrop x (List.mem_cons_self ..) hx, List.nil_append]

end Keyed

namespace Catalog

variable {cat : Catalog} {mods : List Text} {id : EntryId} {entry : Entry}

/-- The directives found wait for passes that will come. -/
theorem sound_agenda (cat : Catalog) (mods : List Text) : (cat.agenda mods).Sound := by
  refine ⟨Agenda.distinct_nodup mods, fun p hp => ?_⟩
  obtain ⟨q, _, hadmits⟩ := List.mem_filterMap.1 hp
  have hpass := (Agenda.of_admit? hadmits).2.1
  exact Agenda.mem_passes_of_canonical? (Agenda.canonical?_of_passFor? hpass)

/-- Every directive found is announced. -/
theorem addedCount_findings (cat : Catalog) (mods : List Text) :
    addedCount (cat.findings mods) = (cat.agenda mods).size := by
  rw [addedCount, findings, List.countP_flatMap, Agenda.size, agenda, accepted,
    List.filterMap_eq_flatMap_toList, List.length_flatMap]
  congr 1
  exact List.map_congr_left fun p _ => Agenda.addedCount_findings _ cat p.1 p.2

/-- Extraction applies nothing. -/
theorem appliedCount_findings (cat : Catalog) (mods : List Text) :
    appliedCount (cat.findings mods) = 0 := by
  refine appliedCount_eq_zero fun e he => ?_
  obtain ⟨p, _, he⟩ := List.mem_flatMap.1 he
  rcases Agenda.of_mem_findings he with rfl | ⟨_, rfl⟩ | ⟨_, rfl⟩ <;> simp

/-- An entry that is admitted has one place on the agenda, and any other has none. -/
theorem placesOf_agenda (h : cat.get? id = some entry) :
    (cat.agenda mods).placesOf id = ((Agenda.ofMods mods).admit? cat id entry).toList := by
  have hsource : ∀ q : EntryId × Entry, ∀ p ∈ ((Agenda.ofMods mods).admit? cat q.1 q.2).toList,
      p.2.source = some q.1 := by
    intro q p hp
    exact (Agenda.isMadeFrom_of_admit? (Option.mem_toList.1 hp)).1
  have hqueue : (cat.agenda mods).queue.filter (·.2.source = some id) =
      ((Agenda.ofMods mods).admit? cat id entry).toList := by
    rw [agenda, accepted, List.filterMap_eq_flatMap_toList,
      filter_flatMap_of_key (ids_nodup cat) (mem_entries.2 h), List.filter_eq_self]
    · intro p hp
      simpa using hsource (id, entry) p hp
    · intro q _ hne p hp
      simpa [hsource q p hp] using hne
  -- the passes hold a permutation of the queue, and there is only one of a list this short
  have hperm := (Agenda.contents_perm (sound_agenda cat mods)).filter (·.2.source = some id)
  rw [hqueue] at hperm
  rw [Agenda.placesOf]
  cases hadmits : (Agenda.ofMods mods).admit? cat id entry with
  | none =>
    rw [hadmits] at hperm
    exact hperm.eq_nil
  | some p =>
    rw [hadmits] at hperm
    exact List.perm_singleton.1 hperm

/-- What is reported about an entry is what was found when it was sorted. -/
theorem filter_findings (h : cat.get? id = some entry) :
    (cat.findings mods).filter (·.complaint? = some id) =
      ((Agenda.ofMods mods).findings cat id entry).filter (·.complaint? = some id) := by
  refine filter_flatMap_of_key (ids_nodup cat) (mem_entries.2 h) fun q _ hne e he => ?_
  rcases Agenda.of_mem_findings he with rfl | habout
  · simp [Event.complaint?]
  · simpa [habout.complaint?_eq, refOf] using hne

end Catalog

/-! ## Every entry is accounted for -/

/-- An extraction accounts for every entry of the catalog it began with; `es` are the events
it told. -/
structure Extraction.Accounts (mods : List Text) (cat : Catalog) (x : Extraction)
    (es : List Event) : Prop where
  /-- What is left are the entries that are data, as they were. -/
  kept : x.catalog.entries = cat.entries.filter (·.2.isData)
  files : x.catalog.files = cat.files
  /-- Any other entry is on the agenda once, or it is not and has been reported. -/
  settled : ∀ id entry, cat.get? id = some entry → ¬entry.isData →
    (∃ pass d, x.agenda.placesOf id = [(pass, d)] ∧ d.IsMadeFrom id entry) ∨
    (x.agenda.placesOf id = [] ∧ ∃ e ∈ es, e.IsAbout (cat.refOf id entry))
  /-- Nothing else is on the agenda. -/
  origin : ∀ p ∈ x.agenda.contents, ∃ id entry, cat.get? id = some entry ∧ ¬entry.isData ∧
    p.2.IsMadeFrom id entry
  /-- As many directives were announced as there are in the passes. -/
  counted : addedCount es = (x.agenda.buckets.flatMap (·.2)).length
  /-- A directive for a pass of an unknown mod is reported as that and as nothing else. -/
  unknownMod : ∀ id entry phase m, cat.get? id = some entry → entry.isDirective →
    (scanPasses entry.node.name).segments = [.pass (.mod phase m)] →
    (Header.parse entry.strippedName.tail).isOk → (∀ k ∈ mods, ¬sameLetters k m) →
    x.agenda.placesOf id = [] ∧
      es.filter (·.complaint? = some id) = [.missingMod (cat.refOf id entry) phase]

/-- Extraction divides a catalog into the data that stays, the directives that go to the
agenda, and what is rejected and reported. -/
theorem extract_accounts {l : Listener} (hl : l.NeverFails) (mods : List Text) (cat : Catalog)
    (j : Journal) :
    ∃ x es, extract l mods cat j = .ok x ∧ x.journal.events = j.events ++ es ∧
      x.Accounts mods cat es := by
  refine ⟨_, cat.findings mods, extract_eq hl mods cat j, Journal.events_add .., ?_⟩
  have hsound := cat.sound_agenda mods
  refine ⟨cat.entries_data, cat.files_removeAll _, ?_, ?_, ?_, ?_⟩
  · intro id entry hget hother
    simp only [Catalog.placesOf_agenda hget]
    rcases Agenda.data_or_admitted_or_reported (.ofMods mods) cat id entry with
      ⟨hdata, _⟩ | ⟨_, ⟨pass, d, hadmits⟩, _⟩ | ⟨_, hadmits, hne, habout⟩
    · exact absurd hdata hother
    · exact .inl ⟨pass, d, by rw [hadmits]; rfl, Agenda.isMadeFrom_of_admit? hadmits⟩
    · obtain ⟨e, he⟩ := List.exists_mem_of_ne_nil _ hne
      refine .inr ⟨by rw [hadmits]; rfl, e, ?_, habout e he⟩
      exact List.mem_flatMap.2 ⟨(id, entry), Catalog.mem_entries.2 hget, he⟩
  · intro p hp
    obtain ⟨⟨id, entry⟩, hmem, hadmits⟩ :=
      List.mem_filterMap.1 ((Agenda.contents_perm hsound).mem_iff.1 hp)
    have hadmits : Agenda.admit? _ cat id entry = some (p.1, p.2) := hadmits
    exact ⟨id, entry, Catalog.mem_entries.1 hmem,
      Entry.not_isData_of_isDirective (Agenda.of_admit? hadmits).1,
      Agenda.isMadeFrom_of_admit? hadmits⟩
  · rw [Agenda.length_flatMap_buckets hsound]
    exact cat.addedCount_findings mods
  · intro id entry phase m hget hdir hseg hread hmod
    obtain ⟨header, hread⟩ : ∃ header, Header.parse entry.strippedName.tail = .ok header := by
      cases h : Header.parse entry.strippedName.tail with
      | ok header => exact ⟨header, rfl⟩
      | error e => simp [h, Except.isOk, Except.toBool] at hread
    obtain ⟨hfind, hadmits⟩ := Agenda.findings_of_unknownMod cat id hdir hseg
      hread (Agenda.knownMod?_ofMods_eq_none.2 hmod)
    constructor
    · rw [Catalog.placesOf_agenda hget, hadmits]
      rfl
    · rw [Catalog.filter_findings hget, hfind]
      simp [Event.complaint?, Catalog.refOf]

/-- Two entries of one file: data, and a directive for a pass of the mod `zzz`. -/
def dataAndDirective : Catalog :=
  .ofEntries ["a.cfg".toList] [
    ⟨0, "PART".toList, none, [], []⟩,
    ⟨0, "@PART:FOR[zzz]".toList, none, [], []⟩]

/-- Where `zzz` is not known, the directive is reported, and the data is what stays. -/
theorem extract_accounts_unknownMod :
    Listener.calm.NeverFails ∧ ∃ x es,
      extract .calm ["abc".toList] dataAndDirective .empty = .ok x ∧
      x.journal.events = es ∧ x.Accounts ["abc".toList] dataAndDirective es ∧
      x.catalog.ids = [0] ∧ x.agenda.placesOf 1 = [] ∧
      es.filter (·.complaint? = some 1) =
        [.missingMod ⟨some 1, "a/@PART:FOR[zzz]".toList⟩ .during] := by
  obtain ⟨x, es, hrun, hevents, hx⟩ :=
    extract_accounts Listener.calm_neverFails ["abc".toList] dataAndDirective .empty
  obtain ⟨hplaces, hreport⟩ := hx.unknownMod 1 ⟨0, "@PART:FOR[zzz]".toList, none, [], []⟩
    .during "zzz".toList rfl (by decide +kernel) (by decide +kernel) (by decide +kernel)
    (by decide +kernel)
  refine ⟨Listener.calm_neverFails, x, es, hrun, hevents, hx, ?_, hplaces, hreport⟩
  rw [Catalog.ids, hx.kept]
  decide +kernel

end CfgPatch
