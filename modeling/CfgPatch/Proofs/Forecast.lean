import CfgPatch.Project
import CfgPatch.Proofs.Order
import CfgPatch.Proofs.Splitting

/-!
# What a check foretells

Checking a project stops where applying it begins its work: behind the extraction. So what the
check records is the beginning of what the application records, whatever the directives do, since
these only ever add to the journal. A failure that is found by checking is found by applying. And
the summary that a check prints lists the passes that are drained afterwards: `Drained` says of a
run that it goes through given passes, each with the directives that it has in the summary. All
this together is `Foretells`.

What the two requests print and how they end is said in terms of that extraction and that run, by
`Transcript.IsCheckOf` and `Transcript.IsApplicationOf`.
-/

namespace CfgPatch

open Text

/-! ## Passes that are drained -/

/-- Passes are drained one after another. In each of them that pass and no other is noted, and
as many directives are told to be applied as it has. -/
inductive Drained (l : Listener) (o : Options) :
    List (Pass × List Directive) → Catalog → Journal → Catalog → Journal → Prop
  | nil (cat : Catalog) (j : Journal) : Drained l o [] cat j cat j
  | cons {pass : Pass} {ds : List Directive} {rest : List (Pass × List Directive)}
      {cat next last : Catalog} {j j' : Journal} {es : List Event} {ns : List Note}
      (drained : applyPass l o pass ds cat j = .ok (next, j.add es ns))
      (noted : passesNoted ns = [pass]) (counted : appliedCount es = ds.length)
      (more : Drained l o rest next (j.add es ns) last j') :
      Drained l o ((pass, ds) :: rest) cat j last j'

section Run

variable {l : Listener} {o : Options}

/-- Directives only add to the journal: as many are told to be applied as there are, and no pass is
noted. -/
theorem applyAll_stretch (hl : l.NeverFails) {ds : List Directive}
    (h : ∀ d ∈ ds, d.command.isSome) (cat : Catalog) (j : Journal) :
    ∃ last es ns, applyAll l o ds cat j = .ok (last, j.add es ns) ∧
      appliedCount es = ds.length ∧ passesNoted ns = [] := by
  induction ds generalizing cat j with
  | nil => exact ⟨cat, [], [], rfl, rfl, rfl⟩
  | cons d ds ih =>
    obtain ⟨hd, hds⟩ := List.forall_mem_cons.1 h
    obtain ⟨next, es, ns, happly, hone, _, hnone⟩ :=
      Directive.apply_bookkeeping (o := o) hl hd cat j
    obtain ⟨last, es', ns', hrun, hcount, hnotes⟩ := ih hds next (j.add es ns)
    have hfirst : applyAll l o (d :: ds) cat j = applyAll l o ds next (j.add es ns) := by
      rw [applyAll, List.foldlM_cons, happly]
      rfl
    refine ⟨last, es ++ es', ns ++ ns', ?_, ?_, ?_⟩
    · rw [hfirst, hrun, Journal.add_add]
    · rw [appliedCount_append, hone, hcount, List.length_cons, Nat.add_comm]
    · rw [passesNoted_append, hnone, hnotes]
      rfl

/-- A pass is drained. -/
theorem applyPass_stretch (hl : l.NeverFails) (pass : Pass) {ds : List Directive}
    (h : ∀ d ∈ ds, d.command.isSome) (cat : Catalog) (j : Journal) :
    ∃ next es ns, applyPass l o pass ds cat j = .ok (next, j.add es ns) ∧
      appliedCount es = ds.length ∧ passesNoted ns = [pass] := by
  obtain ⟨next, es, ns, hrun, hcount, hnotes⟩ :=
    applyAll_stretch (o := o) hl h cat (j.note (.pass pass))
  refine ⟨next, es, .pass pass :: ns, ?_, hcount, ?_⟩
  · rw [applyPass, hrun, Journal.note_eq_add, Journal.add_add]
    rfl
  · have hcons : passesNoted (.pass pass :: ns) = pass :: passesNoted ns := rfl
    rw [hcons, hnotes]

/-- Passes are drained one after another, and they are the passes that are noted. -/
theorem applyPasses_drained (hl : l.NeverFails) (bs : List (Pass × List Directive))
    (h : ∀ d ∈ bs.flatMap (·.2), d.command.isSome) (cat : Catalog) (j : Journal) :
    ∃ last es ns,
      bs.foldlM (fun s b => applyPass l o b.1 b.2 s.1 s.2) (cat, j) = .ok (last, j.add es ns) ∧
      Drained l o bs cat j last (j.add es ns) ∧ passesNoted ns = bs.map (·.1) := by
  induction bs generalizing cat j with
  | nil => exact ⟨cat, [], [], rfl, .nil cat j, rfl⟩
  | cons b bs ih =>
    rw [List.flatMap_cons] at h
    obtain ⟨next, es, ns, hpass, hcount, hnoted⟩ := applyPass_stretch (o := o) hl b.1
      (fun d hd => h d (List.mem_append_left _ hd)) cat j
    obtain ⟨last, es', ns', hrun, hdrained, hnotes⟩ :=
      ih (fun d hd => h d (List.mem_append_right _ hd)) next (j.add es ns)
    rw [Journal.add_add] at hrun hdrained
    refine ⟨last, es ++ es', ns ++ ns', ?_, ?_, ?_⟩
    · rw [List.foldlM_cons, hpass]
      exact hrun
    · exact .cons hpass hnoted hcount hdrained
    · rw [passesNoted_append, hnoted, hnotes]
      rfl

/-- A run drains the passes of the agenda behind the extraction. -/
theorem patch_drained (hl : l.NeverFails) (o : Options) (mods : List Text) (cat : Catalog)
    (j : Journal) :
    ∃ last es ns,
      patch l o mods cat j =
        .ok (last, j.add (cat.findings mods ++ es) (.sorted :: ns)) ∧
      Drained l o (cat.agenda mods).filled cat.data (j.add (cat.findings mods) [.sorted]) last
        (j.add (cat.findings mods ++ es) (.sorted :: ns)) ∧
      passesNoted ns = (cat.agenda mods).filled.map (·.1) := by
  have hcommands : ∀ d ∈ (cat.agenda mods).filled.flatMap (·.2), d.command.isSome := by
    intro d hd
    rw [← cat.schedule_eq mods] at hd
    obtain ⟨p, hp, rfl⟩ := List.mem_map.1 ((cat.schedule_perm mods).mem_iff.1 hd)
    exact Catalog.command_isSome_of_mem_accepted hp
  obtain ⟨last, es, ns, hrun, hdrained, hnotes⟩ := applyPasses_drained (o := o) hl _ hcommands
    cat.data (j.add (cat.findings mods) [.sorted])
  rw [Journal.add_add] at hrun hdrained
  refine ⟨last, es, ns, ?_, hdrained, hnotes⟩
  rw [patch, extract_eq hl]
  exact hrun

end Run

/-! ## The lines of a summary -/

/-- What messages show of a pass ends in no blank. -/
theorem Pass.not_isBlank_getLast_describe (pass : Pass) :
    ∀ c ∈ pass.describe.toList.getLast?, ¬isBlank c := by
  cases pass with
  | mod phase name =>
    rw [describe, String.toList_append, List.getLast?_append_of_ne_nil _ (by simp)]
    simp [isBlank]
  | _ => simp [describe, isBlank]

/-- No two passes are shown alike. -/
theorem Pass.describe_inj {p q : Pass} (h : p.describe = q.describe) : p = q := by
  replace h := congrArg String.toList h
  cases p with
  | mod phase name =>
    cases q with
    | mod phase' name' => cases phase <;> cases phase' <;> simp_all [describe, Phase.keyword]
    | _ => cases phase <;> simp [describe, Phase.keyword] at h
  | _ =>
    cases q with
    | mod phase name => cases phase <;> simp [describe, Phase.keyword] at h
    | _ => first | rfl | simp [describe] at h

namespace Agenda

/-- A line has the pass and behind it the number, with blanks in between. -/
theorem exists_toList_passLine (pass : Pass) (count : Nat) :
    ∃ blanks : Text, (∀ c ∈ blanks, isBlank c) ∧ (passLine pass count).toList =
      (pass.describe.toList ++ blanks) ++ ' ' :: ofNat count ++ " patches".toList := by
  refine ⟨List.replicate (summaryWidth - pass.describe.length) ' ', fun c hc => ?_, ?_⟩
  · rw [List.eq_of_mem_replicate hc]
    decide
  · simp [passLine, padRight, ofNat]

/-- A line tells which pass it is for, and the number. -/
theorem passLine_inj {pass pass' : Pass} {count count' : Nat}
    (h : passLine pass count = passLine pass' count') : pass = pass' ∧ count = count' := by
  obtain ⟨blanks, hblanks, hline⟩ := exists_toList_passLine pass count
  obtain ⟨blanks', hblanks', hline'⟩ := exists_toList_passLine pass' count'
  -- the number stands behind the last blank
  have hcut (front : Text) (n : Nat) :
      splitLast? isBlank (front ++ ' ' :: ofNat n) = some (front, ofNat n) :=
    splitLast?_append_cons (by decide) fun _ hc => not_isBlank_of_isDigit (isDigit_of_mem_ofNat hc)
  rw [h, hline'] at hline
  have hparts := congrArg (splitLast? isBlank) (List.append_cancel_right hline)
  rw [hcut, hcut] at hparts
  obtain ⟨hfront, hcount⟩ := Prod.mk.inj (Option.some.inj hparts)
  have hpass := congrArg trimEnd hfront
  rw [trimEnd_append_of_blank hblanks, trimEnd_append_of_blank hblanks',
    trimEnd_eq_self pass.not_isBlank_getLast_describe,
    trimEnd_eq_self pass'.not_isBlank_getLast_describe] at hpass
  refine ⟨Pass.describe_inj (String.toList_inj.1 hpass.symm), ?_⟩
  rw [← digitsValue_ofNat count, ← hcount, digitsValue_ofNat]

/-- The summary has a line for each pass that is drained. -/
theorem summary_eq (a : Agenda) :
    a.summary = a.filled.map fun b => passLine b.1 b.2.length := by
  rw [summary, filled_eq]

end Agenda

/-! ## Failures -/

/-- What happens later takes no failure back. -/
theorem hasFailures_of_isPrefix {es es' : List Event} (h : es <+: es') (hes : hasFailures es) :
    hasFailures es' := by
  obtain ⟨e, he, hfails⟩ := List.any_eq_true.1 hes
  exact List.any_eq_true.2 ⟨e, h.subset he, hfails⟩

theorem failureCount_le_of_isPrefix {es es' : List Event} (h : es <+: es') :
    failureCount es ≤ failureCount es' :=
  h.sublist.countP_le

/-- The number of errors of a project: the sources that could not be parsed, and the failures among
the events. -/
def Loaded.errors (p : Loaded) (es : List Event) : Nat := p.sources.failures + failureCount es

/-- How a request ends that came upon some number of errors. -/
def failureOf (errors : Nat) (doing : String) : Option String :=
  if errors = 0 then none else some (toString errors ++ " errors " ++ doing)

theorem isSome_failureOf {errors : Nat} {doing : String} :
    (failureOf errors doing).isSome ↔ errors ≠ 0 := by
  by_cases h : errors = 0 <;> simp [failureOf, h]

/-! ## What extractions foretell -/

/-- The extraction `x`, which told the events `es`, foretells a run that adds the events `es'` and
the notes `ns'` to the journal `j'` and leaves the catalog `last`. -/
structure Foretells (l : Listener) (o : Options) (x : Extraction) (es : List Event) (j' : Journal)
    (last : Catalog) (es' : List Event) (ns' : List Note) : Prop where
  /-- What the extraction tells is the beginning of what the run tells. -/
  begins : es <+: es'
  /-- So the run has all the failures of the extraction. -/
  fails : hasFailures es → hasFailures es'
  failures : failureCount es ≤ failureCount es'
  errors : es.countP Event.isError ≤ es'.countP Event.isError
  /-- The summary has a line for each pass with directives, and with how many it has. -/
  lines : x.agenda.summary = x.agenda.filled.map fun b => Agenda.passLine b.1 b.2.length
  filled : x.agenda.filled = x.agenda.buckets.filter fun b => !b.2.isEmpty
  /-- These passes are drained, in this order and with as many directives, and no others. -/
  drained : Drained l o x.agenda.filled x.catalog (j'.add es [.sorted]) last (j'.add es' ns')
  passes : passesNoted ns' = x.agenda.filled.map (·.1)

/-- The extraction foretells the run on the same catalog. -/
theorem exists_foretells {l : Listener} (hl : l.NeverFails) (o : Options) (mods : List Text)
    (cat : Catalog) (j j' : Journal) :
    ∃ last es' ns', patch l o mods cat j' = .ok (last, j'.add es' ns') ∧
      Foretells l o ⟨cat.data, cat.agenda mods, j.add (cat.findings mods) [.sorted]⟩
        (cat.findings mods) j' last es' ns' := by
  obtain ⟨last, es, ns, hrun, hdrained, hnoted⟩ := patch_drained hl o mods cat j'
  have hbegins : cat.findings mods <+: cat.findings mods ++ es := List.prefix_append ..
  exact ⟨last, _, _, hrun, hbegins, hasFailures_of_isPrefix hbegins,
    failureCount_le_of_isPrefix hbegins, hbegins.sublist.countP_le, Agenda.summary_eq _,
    Agenda.filled_eq _, hdrained, hnoted⟩

/-! ## What requests print -/

/-- The report on events as it is printed on the standard output: JSON, and nothing in a report for
readers. -/
def reportOut : Format → List Event → String
  | .text, _ => ""
  | .json, es => String.ofList (Json.write 0 (reportJson es)) ++ "\n"

/-- The report on events as it is printed on the other channel: its lines and the sum, in a report
for readers. -/
def reportErr : Format → List Event → List String
  | .text, es => (reportLines es).map ("  " ++ ·) ++ [summaryLine es]
  | .json, _ => []

/-- What a check prints in front of its report, for readers: the summary of the agenda, and the
number of entries that are left. -/
def checkOut : Format → Extraction → String
  | .text, x => String.join (x.agenda.summary.map (· ++ "\n")) ++ toString x.catalog.size ++
      " data entries\n"
  | .json, _ => ""

namespace Transcript

/-- The transcript of a check of a project, which comes to the extraction `x`. -/
structure IsCheckOf (t : Transcript) (format : Format) (p : Loaded) (x : Extraction) : Prop where
  /-- The summary is printed, and the events are reported. -/
  stdout : t.stdout = checkOut format x ++ reportOut format x.journal.events
  stderr : t.stderr = p.sources.lines ++ reportErr format x.journal.events
  notes : t.notes = p.sources.notes ++ x.journal.notes
  /-- It fails if and only if there are errors, and says how many. -/
  failure : t.failure = failureOf (p.errors x.journal.events) "in patches"

/-- The transcript of a request to apply the directives of a project, the run of which tells the
events `es` and has the notes `ns`. -/
structure IsApplicationOf (t : Transcript) (format : Format) (p : Loaded) (es : List Event)
    (ns : List Note) : Prop where
  /-- The events are reported before the result is delivered; JSON stands alone. -/
  stdout : format = .json → t.stdout = reportOut .json es
  stderr : p.sources.lines ++ reportErr format es <+: t.stderr
  notes : t.notes = p.sources.notes ++ .loaded :: ns
  /-- It fails if there are errors, and says how many, or because the result cannot be written. -/
  failure : t.failure = failureOf (p.errors es) "while patching" ∨
    ∃ e : DiskError, t.failure = some e.message

variable {t : Transcript} {p : Loaded} {x : Extraction} {es : List Event} {ns : List Note}
  {format : Format}

theorem IsCheckOf.isSome_failure (h : t.IsCheckOf format p x) :
    t.failure.isSome ↔ p.errors x.journal.events ≠ 0 := by
  rw [h.failure, isSome_failureOf]

theorem IsApplicationOf.isSome_failure (h : t.IsApplicationOf format p es ns)
    (herrors : p.errors es ≠ 0) : t.failure.isSome := by
  rcases h.failure with hcount | ⟨e, hwrite⟩
  · rw [hcount]
    exact isSome_failureOf.2 herrors
  · rw [hwrite]
    rfl

theorem report_eq (t : Transcript) (format : Format) (es : List Event) :
    t.report format es = { t with
      stdout := t.stdout ++ reportOut format es, stderr := t.stderr ++ reportErr format es } := by
  cases format <;> simp [report, reportOut, reportErr, warn, print]

theorem conclude_eq (t : Transcript) (errors : Nat) (doing : String) :
    t.conclude errors doing = { t with
      failure := if errors = 0 then t.failure else failureOf errors doing } := by
  by_cases h : errors = 0 <;> simp [conclude, failureOf, fail, h]

/-- The delivery of the result takes back nothing that was printed, and fails only if the result
cannot be written. -/
theorem deliver_keeps (t : Transcript) (r : Request) (outDir : Option Text) (cwd : Text)
    (cat : Catalog) :
    (r.format = .json → (t.deliver r outDir cwd cat).stdout = t.stdout) ∧
    t.stderr <+: (t.deliver r outDir cwd cat).stderr ∧
    (t.deliver r outDir cwd cat).notes = t.notes ∧
    ((t.deliver r outDir cwd cat).failure = t.failure ∨
      ∃ e : DiskError, (t.deliver r outDir cwd cat).failure = some e.message) := by
  rw [deliver]
  split
  · simp only
    split
    · exact ⟨fun _ => rfl, List.prefix_append .., rfl, .inl rfl⟩
    · exact ⟨fun _ => rfl, List.prefix_rfl, rfl, .inr ⟨_, rfl⟩⟩
  · cases hformat : r.format with
    | text => exact ⟨nofun, List.prefix_rfl, rfl, .inl rfl⟩
    | json => exact ⟨fun _ => rfl, List.prefix_rfl, rfl, .inl rfl⟩

/-- Behind the report the result is delivered, and the errors are counted if that succeeds. -/
theorem IsApplicationOf.of_report {r : Request} (hfailure : t.failure = none)
    (hout : r.format = .json → t.stdout = reportOut .json es)
    (herr : t.stderr = p.sources.lines ++ reportErr r.format es)
    (hnotes : t.notes = p.sources.notes ++ .loaded :: ns) (outDir : Option Text) (cwd : Text)
    (cat : Catalog) :
    (if (t.deliver r outDir cwd cat).failure.isSome then t.deliver r outDir cwd cat
      else (t.deliver r outDir cwd cat).conclude (p.errors es) "while patching").IsApplicationOf
      r.format p es ns := by
  obtain ⟨hsame, hmore, hkept, hend⟩ := t.deliver_keeps r outDir cwd cat
  rw [hnotes] at hkept
  rw [herr] at hmore
  have hstdout : r.format = .json → (t.deliver r outDir cwd cat).stdout = reportOut .json es :=
    fun hjson => (hsame hjson).trans (hout hjson)
  split_ifs with hfailed
  · refine ⟨hstdout, hmore, hkept, .inr (hend.resolve_left fun hsame => ?_)⟩
    rw [hsame, hfailure] at hfailed
    exact absurd hfailed (by simp)
  · rw [conclude_eq, Option.not_isSome_iff_eq_none.1 hfailed]
    refine ⟨hstdout, hmore, hkept, .inl ?_⟩
    by_cases herrors : p.errors es = 0 <;> simp [failureOf, herrors]

end Transcript

section Requests

variable {r : Request} {cwd : Text} {disk : Disk} {p : Loaded} {x : Extraction} {last : Catalog}
  {es : List Event} {ns : List Note}

/-- A project that has been read is checked. -/
theorem isCheckOf_check (h : readProject r cwd disk = .ok p)
    (hextract : extract .calm (r.knownMods p.settings) p.sources.catalog .empty = .ok x) :
    (check r cwd disk).IsCheckOf r.format p x := by
  simp only [check, h, hextract, Transcript.report_eq, Transcript.conclude_eq]
  constructor <;> cases r.format <;> simp [Transcript.print, checkOut, Loaded.errors, failureOf]

/-- The directives of a project that has been read are applied. -/
theorem isApplicationOf_apply (h : readProject r cwd disk = .ok p)
    (hrun : patch .calm p.settings.options (r.knownMods p.settings) p.sources.catalog
      (Journal.empty.note .loaded) = .ok (last, (Journal.empty.note .loaded).add es ns)) :
    (apply r cwd disk).IsApplicationOf r.format p es ns := by
  have hevents : ((Journal.empty.note .loaded).add es ns).events = es := Journal.events_add ..
  have hnotes : ((Journal.empty.note .loaded).add es ns).notes = .loaded :: ns :=
    Journal.notes_add ..
  simp only [apply, h, hrun, hevents, hnotes, Transcript.report_eq]
  refine .of_report rfl (fun hjson => ?_) rfl rfl _ _ _
  rw [hjson]
  simp

/-- A request ends alike if its project cannot be read, whichever it is. -/
theorem eq_of_unread {t : Transcript} (h : readProject r cwd disk = .error t) :
    check r cwd disk = t ∧ apply r cwd disk = t := by
  rw [check, apply, h]
  exact ⟨rfl, rfl⟩

/-- The check of a project that has been read foretells the application. -/
theorem exists_foretells_request (h : readProject r cwd disk = .ok p) :
    ∃ x last es' ns',
      extract .calm (r.knownMods p.settings) p.sources.catalog .empty = .ok x ∧
      patch .calm p.settings.options (r.knownMods p.settings) p.sources.catalog
        (Journal.empty.note .loaded) = .ok (last, (Journal.empty.note .loaded).add es' ns') ∧
      Foretells .calm p.settings.options x x.journal.events (Journal.empty.note .loaded) last es'
        ns' ∧
      (check r cwd disk).IsCheckOf r.format p x ∧
      (apply r cwd disk).IsApplicationOf r.format p es' ns' ∧
      p.errors x.journal.events ≤ p.errors es' := by
  obtain ⟨last, es', ns', hrun, hforetells⟩ := exists_foretells Listener.calm_neverFails
    p.settings.options (r.knownMods p.settings) p.sources.catalog .empty
    (Journal.empty.note .loaded)
  have hextract := extract_eq Listener.calm_neverFails (r.knownMods p.settings) p.sources.catalog
    .empty
  -- the journal of a check begins empty
  have hevents : (Journal.empty.add (p.sources.catalog.findings (r.knownMods p.settings))
      [.sorted]).events = p.sources.catalog.findings (r.knownMods p.settings) :=
    Journal.events_add ..
  refine ⟨_, last, es', ns', hextract, hrun, ?_, isCheckOf_check h hextract,
    isApplicationOf_apply h hrun, ?_⟩
  · rw [hevents]
    exact hforetells
  · rw [hevents]
    exact Nat.add_le_add_left hforetells.failures _

/-- A request to check that fails does so as a request to apply. -/
theorem isSome_failure_apply_of_check (h : (check r cwd disk).failure.isSome) :
    (apply r cwd disk).failure.isSome := by
  cases hread : readProject r cwd disk with
  | error t =>
    obtain ⟨hcheck, happly⟩ := eq_of_unread hread
    rwa [happly, ← hcheck]
  | ok p =>
    obtain ⟨_, _, _, _, _, _, _, hcheck, happly, hle⟩ := exists_foretells_request hread
    have herrors := hcheck.isSome_failure.1 h
    exact happly.isSome_failure (by omega)

end Requests

/-! ## A check foretells the application -/

/-- What a check tells is the beginning of what applying the same sources tells, so that there are
at least as many failures, and the lines of its summary are the passes that are drained, in that
order, each with the number of its directives; lines for different passes or numbers differ. This
is what requests show: the check of a project prints that summary, reports these events and fails
with the number of errors; applying it reports the events of the run and fails with a number of
errors that is no less, unless it fails because the result cannot be written. If the project cannot
be read, both end alike. So a request fails if the check of it does. -/
theorem check_foretells_apply {l : Listener} (hl : l.NeverFails) :
    (∀ (o : Options) (mods : List Text) (cat : Catalog) (j j' : Journal),
      ∃ x es last es' ns',
        extract l mods cat j = .ok x ∧ x.journal.events = j.events ++ es ∧
        patch l o mods cat j' = .ok (last, j'.add es' ns') ∧
        Foretells l o x es j' last es' ns') ∧
    (∀ (pass pass' : Pass) (n n' : Nat), Agenda.passLine pass n = Agenda.passLine pass' n' →
      pass = pass' ∧ n = n') ∧
    (∀ (r : Request) (cwd : Text) (disk : Disk) (t : Transcript),
      readProject r cwd disk = .error t → check r cwd disk = t ∧ apply r cwd disk = t) ∧
    (∀ (r : Request) (cwd : Text) (disk : Disk) (p : Loaded), readProject r cwd disk = .ok p →
      ∃ x last es' ns',
        extract .calm (r.knownMods p.settings) p.sources.catalog .empty = .ok x ∧
        patch .calm p.settings.options (r.knownMods p.settings) p.sources.catalog
          (Journal.empty.note .loaded) = .ok (last, (Journal.empty.note .loaded).add es' ns') ∧
        Foretells .calm p.settings.options x x.journal.events (Journal.empty.note .loaded) last es'
          ns' ∧
        (check r cwd disk).IsCheckOf r.format p x ∧
        (apply r cwd disk).IsApplicationOf r.format p es' ns' ∧
        p.errors x.journal.events ≤ p.errors es') ∧
    ∀ (r : Request) (cwd : Text) (disk : Disk),
      (check r cwd disk).failure.isSome → (apply r cwd disk).failure.isSome := by
  refine ⟨fun o mods cat j j' => ?_, fun _ _ _ _ => Agenda.passLine_inj,
    fun _ _ _ _ => eq_of_unread, fun _ _ _ _ => exists_foretells_request,
    fun _ _ _ => isSome_failure_apply_of_check⟩
  obtain ⟨last, es', ns', hrun, hforetells⟩ := exists_foretells hl o mods cat j j'
  exact ⟨_, _, last, es', ns', extract_eq hl mods cat j, Journal.events_add .., hrun, hforetells⟩

/-- A directory with one source: a part, a directive for a mod, two for the first pass, and one with
a bracket too many. -/
def untidyProject : Disk where
  files := [([['/'], ['w'], "a.cfg".toList], ("PART\n\x7b\n\x7d\n@PART:FOR[ZZZ]\n\x7b\n\x7d\n" ++
    "@PART:FIRST\n\x7b\n\x7d\n@PART:FIRST\n\x7b\n\x7d\n@PART]\n\x7b\n\x7d\n").toUTF8)]
  dirs := []

/-- A request that knows the mod. -/
def withZZZ : Request := { mods := ["ZZZ".toList] }

/-- The check lists the first pass first, and both requests count the error. -/
theorem check_foretells_apply_untidyProject :
    Listener.calm.NeverFails ∧
    (∃ p x last es' ns', readProject withZZZ "/w".toList untidyProject = .ok p ∧
      extract .calm (withZZZ.knownMods p.settings) p.sources.catalog .empty = .ok x ∧
      Foretells .calm p.settings.options x x.journal.events (Journal.empty.note .loaded) last es'
        ns' ∧
      (check withZZZ "/w".toList untidyProject).IsCheckOf .text p x ∧
      (apply withZZZ "/w".toList untidyProject).IsApplicationOf .text p es' ns') ∧
    (check withZZZ "/w".toList untidyProject).stdout =
      ":FIRST                   2 patches\n:FOR[ZZZ]                1 patches\n1 data entries\n" ∧
    (check withZZZ "/w".toList untidyProject).failure = some "1 errors in patches" ∧
    (apply withZZZ "/w".toList untidyProject).failure = some "1 errors while patching" ∧
    (apply withZZZ "/w".toList untidyProject).failure.isSome := by
  obtain ⟨_, _, _, hrequests, hfails⟩ := check_foretells_apply Listener.calm_neverFails
  have hread : (readProject withZZZ "/w".toList untidyProject).toOption.isSome := by
    decide +kernel
  have hfailure : (check withZZZ "/w".toList untidyProject).failure =
      some "1 errors in patches" := by decide +kernel
  refine ⟨Listener.calm_neverFails, ?_, by decide +kernel, hfailure, by decide +kernel,
    hfails _ _ _ (by rw [hfailure]; rfl)⟩
  cases hproject : readProject withZZZ "/w".toList untidyProject with
  | error t =>
    rw [hproject] at hread
    exact absurd hread Bool.false_ne_true
  | ok p =>
    obtain ⟨x, last, es', ns', hextract, _, hforetells, hcheck, happly, _⟩ :=
      hrequests _ _ _ p hproject
    exact ⟨p, x, last, es', ns', rfl, hextract, hforetells, hcheck, happly⟩

end CfgPatch
