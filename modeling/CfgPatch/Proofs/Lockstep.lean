import CfgPatch.Proofs.Extraction
import CfgPatch.Proofs.Respelling

/-!
# Extraction in letters of either case

Two catalogs that differ in the case of keywords and mods in their pass segments are sorted in step:
entry by entry the same becomes of both, and the listener is told the same, but for the URLs, which
show the names as they are written. What is compared are agendas with their passes in small letters
(`Agenda.lower`) and journals without URLs (`Journal.bare`); each operation of an extraction goes
over to these (`plainly_assessDirective`, `Agenda.lower_push?`), and so do the steps
(`Extraction.step_inStep`) and the run. The listener may fail, as long as URLs do not decide it.
-/

namespace CfgPatch

open Text Brackets

/-! ## Journals without URLs -/

/-- An entry or a directive with no URL. -/
def Ref.bare (r : Ref) : Ref := { r with url := [] }

/-- An event with no URLs of the entries and directives that it is about. -/
def Event.bare : Event → Event
  | .updating target patch => .updating target.bare patch.bare
  | .copying source patch => .copying source.bare patch.bare
  | .deleting target patch => .deleting target.bare patch.bare
  | .missingMod entry phase => .missingMod entry.bare phase
  | .error entry problem => .error entry.bare problem
  | .exception entry activity reason => .exception entry.bare activity reason
  | .added => .added
  | .applied => .applied

/-- A call with no URLs in its event. -/
def Call.bare (c : Call) : Call := { c with event := c.event.bare }

/-- A journal with no URLs in its calls. -/
def Journal.bare (j : Journal) : Journal := { j with calls := j.calls.map Call.bare }

/-- An interruption with no URLs in its journal. -/
def Interruption.bare (i : Interruption) : Interruption := { i with journal := i.journal.bare }

/-- Whether the listener fails does not depend on URLs; if it never fails, it surely does not. -/
def Listener.IgnoresUrls (l : Listener) : Prop :=
  ∀ (past past' : List Call) (e e' : Event), past.map Call.bare = past'.map Call.bare →
    e.bare = e'.bare → l.refusal past e = l.refusal past' e'

/-- Counting events of some kind needs no URLs. -/
theorem Listener.failingAt_ignoresUrls {isKind : Event → Bool} (h : ∀ e, isKind e.bare = isKind e)
    (nth : Nat) (reason : Text) : (failingAt isKind nth reason).IgnoresUrls := by
  intro past past' e e' hpast he
  have hkind : isKind e = isKind e' := by rw [← h, he, h]
  have hcount : past.countP (isKind ·.event) = past'.countP (isKind ·.event) := by
    have hbare : ∀ calls : List Call,
        calls.countP (isKind ·.event) = (calls.map Call.bare).countP (isKind ·.event) := by
      intro calls
      rw [List.countP_map]
      exact List.countP_congr fun c _ => by simp [Call.bare, h]
    rw [hbare, hpast, ← hbare]
  simp only [failingAt, hkind, hcount]

/-- Two computations come out alike: with results that are related, or with the same failure of the
listener. -/
inductive Parallel {α β : Type} (R : α → β → Prop) :
    Except Interruption α → Except Interruption β → Prop
  | ok {a : α} {b : β} (result : R a b) : Parallel R (.ok a) (.ok b)
  | error {i k : Interruption} (failure : i.bare = k.bare) : Parallel R (.error i) (.error k)

namespace Parallel

variable {α β γ δ : Type} {R : α → β → Prop} {S : γ → δ → Prop}
  {x : Except Interruption α} {y : Except Interruption β}

theorem map (h : Parallel R x y) {f : α → γ} {g : β → δ} (hfg : ∀ a b, R a b → S (f a) (g b)) :
    Parallel S (x.map f) (y.map g) := by
  cases h with
  | ok result => exact .ok (hfg _ _ result)
  | error failure => exact .error failure

theorem bind (h : Parallel R x y) {f : α → Except Interruption γ} {g : β → Except Interruption δ}
    (hfg : ∀ a b, R a b → Parallel S (f a) (g b)) : Parallel S (x >>= f) (y >>= g) := by
  cases h with
  | ok result => exact hfg _ _ result
  | error failure => exact .error failure

/-- Steps that come out alike make runs that come out alike. -/
theorem foldlM {ι : Type} {f : α → ι → Except Interruption α} {g : β → ι → Except Interruption β}
    (hstep : ∀ a b n, R a b → Parallel R (f a n) (g b n)) {a : α} {b : β} (h : R a b)
    (ns : List ι) : Parallel R (ns.foldlM f a) (ns.foldlM g b) := by
  induction ns generalizing a b with
  | nil => exact .ok h
  | cons n ns ih =>
    rw [List.foldlM_cons, List.foldlM_cons]
    exact (hstep a b n h).bind fun _ _ hrest => ih hrest

end Parallel

namespace Journal

variable {l : Listener} {j k : Journal} {e f : Event} {es fs : List Event}

theorem tell_parallel (hl : l.IgnoresUrls) (hj : j.bare = k.bare) (he : e.bare = f.bare) :
    Parallel (fun j k => j.bare = k.bare) (j.tell l e) (k.tell l f) := by
  obtain ⟨hcalls, htrace⟩ := Journal.mk.inj hj
  rw [tell, tell, hl _ _ _ _ hcalls he]
  cases l.refusal k.calls f with
  | none => exact .ok (by simp [bare, Call.bare, hcalls, htrace, he])
  | some reason => exact .error (by simp [Interruption.bare, bare, Call.bare, hcalls, htrace, he])

theorem tellAll_parallel (hl : l.IgnoresUrls) (hj : j.bare = k.bare)
    (hes : es.map Event.bare = fs.map Event.bare) :
    Parallel (fun j k => j.bare = k.bare) (j.tellAll l es) (k.tellAll l fs) := by
  induction es generalizing fs j k with
  | nil =>
    obtain rfl := List.map_eq_nil_iff.1 hes.symm
    exact .ok hj
  | cons e es ih =>
    obtain ⟨f, fs, rfl, he, hrest⟩ := List.map_eq_cons_iff.1 hes.symm
    rw [tellAll, tellAll, List.foldlM_cons, List.foldlM_cons]
    exact (tell_parallel hl hj he.symm).bind fun _ _ hnext => ih hnext hrest.symm

end Journal

/-! ## Agendas in small letters -/

/-- An agenda with its mods and the passes of its directives in small letters. -/
def Agenda.lower (a : Agenda) : Agenda :=
  ⟨a.mods.map Text.lower, a.queue.map fun p => (p.1.lower, p.2)⟩

theorem Text.sameLetters_lower (s t : Text) : sameLetters s.lower t.lower = sameLetters s t := by
  rw [Bool.eq_iff_iff, sameLetters_iff_lower, sameLetters_iff_lower, lower_lower, lower_lower]

namespace Agenda

variable {a : Agenda} {p : Pass} {d : Directive}

theorem lower_knownMod? (a : Agenda) (name : Text) :
    (a.knownMod? name).map Text.lower = a.lower.knownMod? name.lower := by
  have hsame : (sameLetters · name.lower) ∘ Text.lower = (sameLetters · name) := by
    funext m
    exact sameLetters_lower m name
  rw [knownMod?, knownMod?, lower, List.find?_map, hsame]

theorem lower_canonical? (a : Agenda) (p : Pass) :
    (a.canonical? p).map Pass.lower = a.lower.canonical? p.lower := by
  cases p with
  | mod phase name =>
    rw [canonical?, Pass.lower, canonical?, ← lower_knownMod?, Option.map_map, Option.map_map]
    rfl
  | _ => rfl

theorem lower_push? (a : Agenda) (p : Pass) (d : Directive) :
    (a.push? p d).map lower = a.lower.push? p.lower d := by
  rw [push?, push?, ← lower_canonical?, Option.map_map, Option.map_map]
  congr 1
  funext q
  simp [lower]

theorem lower_distinct (mods : List Text) :
    (distinct mods).map Text.lower = distinct (mods.map Text.lower) := by
  induction mods with
  | nil => rfl
  | cons name names ih =>
    have hsame : (!sameLetters name.lower ·) ∘ Text.lower = (!sameLetters name ·) := by
      funext m
      exact congrArg not (sameLetters_lower name m)
    rw [List.map_cons, distinct, distinct, List.map_cons, ← ih, List.filter_map, hsame]

theorem lower_ofMods (mods : List Text) : (ofMods mods).lower = ofMods (mods.map Text.lower) := by
  rw [ofMods, ofMods, lower, lower_distinct]
  rfl

/-- Passes in small letters have the directives they had. -/
theorem buckets_lower (hapart : a.ModsApart) (hsound : a.Sound) :
    a.lower.buckets = a.buckets.map fun b => (b.1.lower, b.2) := by
  have hpasses : a.lower.passes = a.passes.map Pass.lower := (map_lower_passes a).symm
  have hinj : ∀ p ∈ a.passes, ∀ q ∈ a.passes, p.lower = q.lower → p = q := by
    intro p hp q hq hsame
    have hp' := (canonical?_eq_some_iff hapart).2 ⟨hp, rfl⟩
    have hq' := (canonical?_eq_some_iff hapart).2 ⟨hq, hsame.symm⟩
    exact Option.some.inj (hp'.symm.trans hq')
  rw [buckets, buckets, hpasses, List.map_map, List.map_map]
  refine List.map_congr_left fun pass hpass => ?_
  have hbucket : a.lower.bucket pass.lower = a.bucket pass := by
    rw [bucket, bucket, lower, List.filter_map, List.map_map]
    refine congrArg (List.map Prod.snd) (List.filter_congr fun p hp => ?_)
    have hsame : p.1.lower = pass.lower ↔ p.1 = pass :=
      ⟨hinj p.1 (hsound.2 p hp) pass hpass, congrArg Pass.lower⟩
    simp [hsame]
  exact congrArg (Prod.mk pass.lower) hbucket

end Agenda

/-! ## Assessments in small letters -/

/-- A verdict with its pass in small letters. -/
def Verdict.lower : Verdict → Verdict
  | .patch pass name => .patch pass.lower name
  | .keep => .keep
  | .drop => .drop

/-- Verdicts that are the same in small letters are the same but for the letters of the pass. -/
theorem Verdict.cases_of_lower_eq {v w : Verdict} (h : v.lower = w.lower) :
    v = .keep ∧ w = .keep ∨ v = .drop ∧ w = .drop ∨
      ∃ p q name, p.lower = q.lower ∧ v = .patch p name ∧ w = .patch q name := by
  cases v <;> cases w <;> simp_all [lower]

/-- What is told of a name without URLs, and the verdict in small letters. -/
def plainly (assessed : List Event × Verdict) : List Event × Verdict :=
  (assessed.1.map Event.bare, assessed.2.lower)

namespace PassScan

variable (scan : PassScan)

theorem count_lower : scan.lower.count = scan.count := List.length_map _

theorem malformed_lower : scan.lower.malformed = scan.malformed := by
  rw [malformed, malformed, lower, List.filterMap_map]
  congr 1
  funext s
  cases s <;> rfl

theorem passes_lower : scan.lower.passes = scan.passes.map Pass.lower := by
  rw [passes, passes, lower, List.filterMap_map, List.map_filterMap]
  congr 1
  funext s
  cases s <;> rfl

end PassScan

/-- The letters of mods and the URL make no difference to what becomes of a directive. -/
theorem plainly_assessDirective (a : Agenda) (ref : Ref) (scan : PassScan) :
    plainly (assessDirective a ref scan) = assessDirective a.lower ref.bare scan.lower := by
  have hstripped : scan.lower.stripped = scan.stripped := rfl
  rw [assessDirective, assessDirective]
  simp only [scan.count_lower, scan.malformed_lower, scan.passes_lower, hstripped]
  split_ifs with hbad hseveral
  · simp [plainly, Verdict.lower, Event.bare, Function.comp_def]
  · simp [plainly, Verdict.lower, Event.bare, Function.comp_def]
  · cases Header.parse scan.stripped.tail with
    | error e => rfl
    | ok header =>
      cases scan.passes with
      | nil => rfl
      | cons pass passes =>
        have hcanonical := a.lower_canonical? pass
        simp only [List.map_cons]
        rw [← hcanonical]
        cases hknown : a.canonical? pass with
        | some known => cases pass <;> rfl
        | none => cases pass <;> rfl

/-- The letters of pass segments make no difference to what becomes of an entry. -/
theorem plainly_assess {a b : Agenda} {ref ref' : Ref} {s t : Text} (hagenda : a.lower = b.lower)
    (href : ref.bare = ref'.bare) (h : Respelled 0 s t) :
    plainly (assess a ref s) = plainly (assess b ref' t) := by
  have hhead : s.headD ' ' = t.headD ' ' := by
    rw [List.headD_eq_head?_getD, h.head?_eq, List.headD_eq_head?_getD]
  rw [assess, assess, ← h.balanced_eq, hhead]
  by_cases hbalanced : balanced s
  · have hscan := h.lower_scanPasses hbalanced
    simp only [hbalanced]
    cases Verb.ofSymbol (t.headD ' ') with
    | shared command =>
      simp only [Bool.not_true, Bool.false_eq_true, if_false]
      rw [plainly_assessDirective, plainly_assessDirective, hagenda, href, hscan]
    | own command => simp [plainly, Event.bare, href]
    | insert =>
      have hcount : (scanPasses s).count = (scanPasses t).count := by
        rw [← PassScan.count_lower, hscan, PassScan.count_lower]
      by_cases hpasses : (scanPasses t).count > 0
      · simp [plainly, Event.bare, href, hcount, hpasses]
      · simp [plainly, hcount, hpasses]
  · simp [hbalanced, plainly, Event.bare, href]

/-! ## Catalogs in other letters -/

/-- An entry whose node has a respelled name and is otherwise the same. -/
structure Entry.Respells (e f : Entry) : Prop where
  file : f.file = e.file
  node : f.node = { e.node with name := f.node.name }
  name : Respelled 0 e.node.name f.node.name

/-- Catalogs with the same files and, number by number, entries that are respelled. -/
structure Catalog.Respells (cat other : Catalog) : Prop where
  files : other.files = cat.files
  entries : List.Forall₂ (fun p q => q.1 = p.1 ∧ p.2.Respells q.2) cat.entries other.entries

namespace Catalog.Respells

variable {cat other : Catalog}

theorem ids_eq (h : cat.Respells other) : other.ids = cat.ids := by
  have hentries := h.entries
  rw [ids, ids]
  generalize cat.entries = es, other.entries = fs at hentries ⊢
  induction hentries with
  | nil => rfl
  | cons hpair _ ih => rw [List.map_cons, List.map_cons, hpair.1, ih]

theorem exists_mem (h : cat.Respells other) {p : EntryId × Entry} (hp : p ∈ cat.entries) :
    ∃ q ∈ other.entries, q.1 = p.1 ∧ p.2.Respells q.2 := by
  have hentries := h.entries
  generalize cat.entries = es, other.entries = fs at hentries hp ⊢
  induction hentries with
  | nil => exact absurd hp (by simp)
  | cons hpair _ ih =>
    rcases List.mem_cons.1 hp with rfl | hp
    · exact ⟨_, List.mem_cons_self, hpair⟩
    · obtain ⟨q, hq, hfits⟩ := ih hp
      exact ⟨q, List.mem_cons_of_mem _ hq, hfits⟩

theorem get? (h : cat.Respells other) (id : EntryId) :
    Option.Rel Entry.Respells (cat.get? id) (other.get? id) := by
  cases hget : cat.get? id with
  | none =>
    have hnone : other.get? id = none := by
      rw [← Option.not_isSome_iff_eq_none, ← mem_ids, h.ids_eq, mem_ids, hget]
      simp
    rw [hnone]
    exact .none
  | some entry =>
    obtain ⟨⟨_, found⟩, hfound, rfl, hrespells⟩ := h.exists_mem (mem_entries.2 hget)
    rw [mem_entries.1 hfound]
    exact .some hrespells

theorem remove (h : cat.Respells other) (id : EntryId) :
    (cat.remove id).Respells (other.remove id) := by
  refine ⟨h.files, ?_⟩
  rw [entries_remove, entries_remove]
  exact List.rel_filter (fun p q hpair => by simp [hpair.1]) h.entries

end Catalog.Respells

/-! ## Extractions in step -/

/-- Two agendas have the same directives in corresponding passes, and no others. -/
structure Agenda.Agrees (a b : Agenda) : Prop where
  lower : a.lower = b.lower
  apart : a.ModsApart
  left : a.Sound
  right : b.Sound

namespace Agenda.Agrees

variable {a b : Agenda} {p q : Pass}

/-- A directive is pushed to both agendas or to neither. -/
theorem push? (h : a.Agrees b) (hpass : p.lower = q.lower) (d : Directive) :
    Option.Rel Agrees (a.push? p d) (b.push? q d) := by
  have hlower : (a.push? p d).map Agenda.lower = (b.push? q d).map Agenda.lower := by
    rw [lower_push?, lower_push?, h.lower, hpass]
  cases ha : a.push? p d with
  | none =>
    rw [ha] at hlower
    rw [Option.map_eq_none_iff.1 hlower.symm]
    exact .none
  | some a' =>
    rw [ha] at hlower
    obtain ⟨b', hb, hsame⟩ := Option.map_eq_some_iff.1 hlower.symm
    rw [hb]
    have hapart : a'.ModsApart := by
      rw [ModsApart, mods_push? ha]
      exact h.apart
    exact .some ⟨hsame.symm, hapart, h.left.push? ha, h.right.push? hb⟩

/-- Corresponding buckets hold the same directives in the same order. -/
theorem buckets (h : a.Agrees b) :
    a.buckets.map (fun b => (b.1.lower, b.2)) = b.buckets.map fun b => (b.1.lower, b.2) := by
  have hapart : b.ModsApart := by
    have hmods : a.mods.map Text.lower = b.mods.map Text.lower := congrArg Agenda.mods h.lower
    rw [ModsApart, ← hmods]
    exact h.apart
  rw [← buckets_lower h.apart h.left, ← buckets_lower hapart h.right, h.lower]

theorem ofMods {mods others : List Text}
    (h : List.Forall₂ (fun m n => sameLetters m n) mods others) :
    (Agenda.ofMods mods).Agrees (Agenda.ofMods others) := by
  have hlower : mods.map Text.lower = others.map Text.lower := by
    induction h with
    | nil => rfl
    | cons hsame _ ih =>
      rw [List.map_cons, List.map_cons, sameLetters_iff_lower.1 hsame, ih]
  have hempty : ∀ names, (Agenda.ofMods names).Sound := fun names =>
    ⟨distinct_nodup names, by simp [Agenda.ofMods]⟩
  exact ⟨by rw [lower_ofMods, lower_ofMods, hlower], modsApart_ofMods mods, hempty mods,
    hempty others⟩

end Agenda.Agrees

/-- Two extractions have come to the same, letters in pass segments and URLs apart. -/
structure Extraction.InStep (x y : Extraction) : Prop where
  catalog : x.catalog.Respells y.catalog
  agenda : x.agenda.Agrees y.agenda
  journal : x.journal.bare = y.journal.bare

namespace Extraction

variable {l : Listener} {x y : Extraction} {e f : Entry} {p q : Pass} {ref ref' : Ref}

theorem tell_inStep (hl : l.IgnoresUrls) (h : x.InStep y) {e f : Event} (he : e.bare = f.bare) :
    Parallel InStep (x.tell l e) (y.tell l f) :=
  (Journal.tell_parallel hl h.journal he).map fun _ _ hj => ⟨h.catalog, h.agenda, hj⟩

theorem drop_inStep (h : x.InStep y) (id : EntryId) : (x.drop id).InStep (y.drop id) :=
  ⟨h.catalog.remove id, h.agenda, h.journal⟩

theorem enlist_inStep (hl : l.IgnoresUrls) (h : x.InStep y) (hentry : e.Respells f)
    (href : ref.bare = ref'.bare) (hpass : p.lower = q.lower) (id : EntryId) (name : Text) :
    Parallel InStep (x.enlist l id e ref p name) (y.enlist l id f ref' q name) := by
  have hdropped := drop_inStep h id
  have hurl : (y.drop id).catalog.fileUrl? = (x.drop id).catalog.fileUrl? :=
    Catalog.fileUrl?_congr hdropped.catalog.files
  have hnode : { f.node with name := name } = { e.node with name := name } := by
    rw [hentry.node]
  rw [enlist, enlist]
  simp only [hurl, hentry.file, hnode]
  cases Directive.ofNode e.file (((x.drop id).catalog.fileUrl? e.file).getD []) (some id)
      { e.node with name := name } with
  | error error => exact tell_inStep hl hdropped (by simp [Event.bare, href])
  | ok d =>
    have hpush := hdropped.agenda.push? hpass d
    simp only
    generalize (x.drop id).agenda.push? p d = a, (y.drop id).agenda.push? q d = b at hpush
    cases hpush with
    | none => exact .ok hdropped
    | @some a b hagrees =>
      exact tell_inStep (x := { x.drop id with agenda := a }) (y := { y.drop id with agenda := b })
        hl ⟨hdropped.catalog, hagrees, hdropped.journal⟩ rfl

/-- An entry and a respelling of it are sorted alike. -/
theorem step_inStep (hl : l.IgnoresUrls) (h : x.InStep y) (id : EntryId) :
    Parallel InStep (x.step l id) (y.step l id) := by
  have hget := h.catalog.get? id
  rw [step, step]
  generalize x.catalog.get? id = a, y.catalog.get? id = b at hget
  cases hget with
  | none => exact .ok h
  | @some e f hentry =>
    have href : Ref.bare ⟨some id, x.catalog.urlFor e.file e.node.name⟩ =
        Ref.bare ⟨some id, y.catalog.urlFor f.file f.node.name⟩ := rfl
    simp only
    generalize (⟨some id, x.catalog.urlFor e.file e.node.name⟩ : Ref) = ref,
      (⟨some id, y.catalog.urlFor f.file f.node.name⟩ : Ref) = ref' at href ⊢
    have hassess := plainly_assess h.agenda.lower href hentry.name
    generalize assess x.agenda ref e.node.name = r, assess y.agenda ref' f.node.name = r' at hassess
    obtain ⟨es, v⟩ := r
    obtain ⟨fs, w⟩ := r'
    obtain ⟨hes, hverdict⟩ := Prod.mk.inj hassess
    have htell := Journal.tellAll_parallel hl h.journal hes
    simp only
    generalize x.journal.tellAll l es = t, y.journal.tellAll l fs = u at htell
    cases htell with
    | @error i k hfailure =>
      -- the listener is told of its failure, and the entry is dropped
      obtain ⟨hreason, hjournal⟩ := Interruption.mk.inj hfailure
      have hsame : Event.bare (.exception ref .sorting i.reason) =
          Event.bare (.exception ref' .sorting k.reason) := by
        rw [Event.bare, Event.bare, href, show i.reason = k.reason from hreason]
      have hfailed : InStep { x with journal := i.journal } { y with journal := k.journal } :=
        ⟨h.catalog, h.agenda, hjournal⟩
      exact (tell_inStep hl hfailed hsame).map fun _ _ hafter => drop_inStep hafter id
    | @ok j k hjournal =>
      have htold : InStep { x with journal := j } { y with journal := k } :=
        ⟨h.catalog, h.agenda, hjournal⟩
      rcases Verdict.cases_of_lower_eq hverdict with
        ⟨rfl, rfl⟩ | ⟨rfl, rfl⟩ | ⟨p, q, name, hpass, rfl, rfl⟩
      · exact .ok htold
      · exact .ok (drop_inStep htold id)
      · exact enlist_inStep hl htold hentry href hpass id name

end Extraction

/-- Two extractions end alike. -/
theorem extract_inStep {l : Listener} (hl : l.IgnoresUrls) {cat other : Catalog}
    (hcat : cat.Respells other) {mods others : List Text}
    (hmods : List.Forall₂ (fun m n => sameLetters m n) mods others) (j : Journal) :
    Parallel Extraction.InStep (extract l mods cat j) (extract l others other j) := by
  have hstart : Extraction.InStep ⟨cat, .ofMods mods, j⟩ ⟨other, .ofMods others, j⟩ :=
    ⟨hcat, .ofMods hmods, rfl⟩
  have hrun := Parallel.foldlM (fun _ _ id h => Extraction.step_inStep hl h id) hstart cat.ids
  rw [extract, extract, hcat.ids_eq]
  refine hrun.map fun x y h => ⟨h.catalog, h.agenda, ?_⟩
  obtain ⟨hcalls, htrace⟩ := Journal.mk.inj h.journal
  have htrace : x.journal.trace = y.journal.trace := htrace
  simp only [Journal.bare, Journal.note, hcalls, htrace]

/-- Pass segments may be written in letters of either case. If some are respelled, and the known
mods as well, extraction leaves the same entries in the catalog, puts the same directives in the
same order into corresponding buckets, and tells the listener of the same events about the same
entries; or it breaks off alike because the listener fails. -/
theorem extract_ignores_case {l : Listener} (hl : l.IgnoresUrls) {cat other : Catalog}
    (hcat : cat.Respells other) {mods others : List Text}
    (hmods : List.Forall₂ (fun m n => sameLetters m n) mods others) (j : Journal) :
    (∃ x y, extract l mods cat j = .ok x ∧ extract l others other j = .ok y ∧
      x.catalog.ids = y.catalog.ids ∧
      x.agenda.buckets.map (fun b => (b.1.lower, b.2)) =
        y.agenda.buckets.map (fun b => (b.1.lower, b.2)) ∧
      x.journal.bare = y.journal.bare) ∨
    ¬l.NeverFails ∧ ∃ i k, extract l mods cat j = .error i ∧
      extract l others other j = .error k ∧ i.bare = k.bare := by
  have hrun := extract_inStep hl hcat hmods j
  generalize hx : extract l mods cat j = x, extract l others other j = y at hrun
  cases hrun with
  | @ok x y h => exact .inl ⟨x, y, rfl, rfl, h.catalog.ids_eq.symm, h.agenda.buckets, h.journal⟩
  | @error i k hfailure =>
    refine .inr ⟨fun hnever => ?_, i, k, rfl, rfl, hfailure⟩
    rw [extract_eq hnever] at hx
    exact absurd hx (by simp)

/-- Data and two directives, one for a mod and one to come last of another. -/
def mixedCase : Catalog :=
  .ofEntries ["a.cfg".toList] [
    ⟨0, "PART".toList, none, [], []⟩,
    ⟨0, "@PART:for[ModA]".toList, none, [], []⟩,
    ⟨0, "@PART[b]:LAST[zzz]".toList, none, [], []⟩]

/-- The same with the segments in other letters. -/
def mixedCaseRespelled : Catalog :=
  .ofEntries ["a.cfg".toList] [
    ⟨0, "PART".toList, none, [], []⟩,
    ⟨0, "@PART:FOR[moda]".toList, none, [], []⟩,
    ⟨0, "@PART[b]:Last[zZz]".toList, none, [], []⟩]

theorem mixedCase_respells : mixedCase.Respells mixedCaseRespelled := by
  have hmod : Respelled 0 "@PART:for[ModA]".toList "@PART:FOR[moda]".toList :=
    Respelled.of_segment (.phase .during) "@PART".toList "for".toList "ModA".toList "FOR".toList
      "moda".toList (by decide) (by decide) (by decide) (by decide) (by decide)
  have hlast : Respelled 0 "@PART[b]:LAST[zzz]".toList "@PART[b]:Last[zZz]".toList :=
    Respelled.of_segment (.phase .last) "@PART[b]".toList "LAST".toList "zzz".toList "Last".toList
      "zZz".toList (by decide) (by decide) (by decide) (by decide) (by decide)
  have hentries : mixedCase.entries = [(0, ⟨0, "PART".toList, none, [], []⟩),
      (1, ⟨0, "@PART:for[ModA]".toList, none, [], []⟩),
      (2, ⟨0, "@PART[b]:LAST[zzz]".toList, none, [], []⟩)] := by decide +kernel
  have hothers : mixedCaseRespelled.entries = [(0, ⟨0, "PART".toList, none, [], []⟩),
      (1, ⟨0, "@PART:FOR[moda]".toList, none, [], []⟩),
      (2, ⟨0, "@PART[b]:Last[zZz]".toList, none, [], []⟩)] := by decide +kernel
  refine ⟨by decide +kernel, ?_⟩
  rw [hentries, hothers]
  exact .cons ⟨rfl, rfl, rfl, .refl 0 _⟩ (.cons ⟨rfl, rfl, rfl, hmod⟩
    (.cons ⟨rfl, rfl, rfl, hlast⟩ .nil))

theorem extract_ignores_case_mixedCase :
    let l := Listener.failingAt Event.isReport 0 "full".toList
    l.IgnoresUrls ∧ mixedCase.Respells mixedCaseRespelled ∧
    ∃ x y, extract l ["ModA".toList] mixedCase .empty = .ok x ∧
      extract l ["mODa".toList] mixedCaseRespelled .empty = .ok y ∧
      x.agenda.buckets.map (fun b => (b.1.lower, b.2)) =
        y.agenda.buckets.map (fun b => (b.1.lower, b.2)) ∧
      x.journal.bare = y.journal.bare := by
  intro l
  have hl : l.IgnoresUrls := Listener.failingAt_ignoresUrls (fun e => by cases e <;> rfl) 0 _
  have hmods : List.Forall₂ (fun m n => sameLetters m n) ["ModA".toList] ["mODa".toList] :=
    .cons (by decide) .nil
  have hok : (extract l ["ModA".toList] mixedCase .empty).isOk := by decide +kernel
  refine ⟨hl, mixedCase_respells, ?_⟩
  rcases extract_ignores_case hl mixedCase_respells hmods .empty with
    ⟨x, y, hx, hy, _, hbuckets, hjournal⟩ | ⟨_, i, _, hi, _⟩
  · exact ⟨x, y, hx, hy, hbuckets, hjournal⟩
  · rw [hi] at hok
    exact absurd hok (by simp [Except.isOk, Except.toBool])

end CfgPatch
