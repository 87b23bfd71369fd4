import CfgPatch.Proofs.Order

/-!
# Listeners that fail on announcements

A listener may fail when it is told that a target is about to be worked on. The turn of that
target then breaks off with the catalog as the turn found it, for nothing is changed before
the last announcement of a turn. The directive has no more turns, and the listener is told
that it failed and that the directive has been applied. The directives that follow are
applied as ever. How an application may go is `Directive.Course`.

Since a copy or a removal is made only when its announcement has been taken, the events tell
how many entries there are in the end (`Directive.Course.population`).
-/

namespace CfgPatch

/-! ## Counting copies and removals -/

/-- Whether an event announces a copy. -/
def Event.isCopying : Event → Bool
  | .copying .. => true
  | _ => false

/-- Whether an event announces a removal. -/
def Event.isDeleting : Event → Bool
  | .deleting .. => true
  | _ => false

/-- The number of copies that are announced. -/
def copiedCount (es : List Event) : Nat := es.countP Event.isCopying

/-- The number of removals that are announced. -/
def deletedCount (es : List Event) : Nat := es.countP Event.isDeleting

@[simp] theorem copiedCount_append (es es' : List Event) :
    copiedCount (es ++ es') = copiedCount es + copiedCount es' := List.countP_append

@[simp] theorem deletedCount_append (es es' : List Event) :
    deletedCount (es ++ es') = deletedCount es + deletedCount es' := List.countP_append

/-- As many entries as were there and were copied are still there or were deleted. -/
def Balanced (a : Catalog) (es : List Event) (b : Catalog) : Prop :=
  b.ids.length + deletedCount es = a.ids.length + copiedCount es

theorem Balanced.append {a b c : Catalog} {es es' : List Event} (h : Balanced a es b)
    (h' : Balanced b es' c) : Balanced a (es ++ es') c := by
  rw [Balanced, deletedCount_append, copiedCount_append]
  rw [Balanced] at h h'
  omega

namespace Turn

variable {l : Listener} {o : Options} {d : Directive} {cs : Constraints} {command : Command}
  {t : Turn}

/-! ## Turns that end -/

theorem Ends.balanced (h : t.Ends o d cs command) : Balanced t.before t.events t.after := by
  rw [Balanced]
  rcases h with h | h
  · cases h with
    | edit =>
      simp [deletedCount, copiedCount, Event.isDeleting, Event.isCopying, List.countP_replicate,
        Catalog.length_ids_setNode]
    | copy => exact Catalog.length_ids_addEntry ..
    | delete there => exact Catalog.length_ids_remove there
  · rw [h.after_eq]
    cases h with
    | edit =>
      simp [deletedCount, copiedCount, Event.isDeleting, Event.isCopying, List.countP_replicate]
    | copy => rfl
    | sameName => rfl

theorem Lead.balanced {a b : Catalog} {ts : List Turn} (h : Lead a ts b)
    (hall : ∀ t ∈ ts, t.Ends o d cs command) : Balanced a (ts.flatMap (·.events)) b := by
  induction ts generalizing a with
  | nil =>
    obtain rfl : a = b := h
    exact rfl
  | cons t ts ih =>
    obtain ⟨rfl, h⟩ := h
    exact (hall t (List.mem_cons_self ..)).balanced.append
      (ih h fun t' ht' => hall t' (List.mem_cons_of_mem _ ht'))

theorem exceptionCount_eq_zero {ts : List Turn} (h : ∀ t ∈ ts, t.Ends o d cs command) :
    exceptionCount (ts.flatMap (·.events)) = 0 := by
  refine List.countP_eq_zero.2 fun e he => ?_
  obtain ⟨t, ht, he⟩ := List.mem_flatMap.1 he
  rcases (h t ht).of_mem_events he with ⟨entry, _, rfl⟩ | ⟨problem, rfl⟩
  · cases command <;> exact Bool.false_ne_true
  · exact Bool.false_ne_true

/-! ## Turns that break off -/

/-- Only edits announce more than once what they are about to do. -/
theorem Ends.length_events_le_one (h : t.Ends o d cs command) (hne : command ≠ .edit) :
    t.events.length ≤ 1 := by
  rcases h with h | h
  · cases h with
    | edit => exact absurd rfl hne
    | copy => exact Nat.le_refl 1
    | delete => exact Nat.le_refl 1
  · cases h with
    | edit => exact absurd rfl hne
    | copy => exact Nat.le_refl 1
    | sameName => exact Nat.le_refl 1

/-- A turn that breaks off announces some rounds, or nothing, and tells the exception. -/
theorem Breaks.told_eq {calls : List Call} {ns : List Note}
    (h : t.Breaks l d command calls ns) (hends : t.Ends o d cs command) :
    refusalCount calls = 1 ∧ ∃ i target reason,
      told calls = .replicate i (.updating target d.ref) ++
        [.exception d.ref (.applying target.url) reason] := by
  obtain ⟨i, reason, _, rfl, rfl, _, hupTo⟩ := h
  -- the call that failed is the only one that is not told
  have hcalls : ∀ announcement exception : Event,
      refusalCount (.replicate i announcement.taken ++ [announcement.refused, exception.taken]) =
        1 ∧
      told (.replicate i announcement.taken ++ [announcement.refused, exception.taken]) =
        .replicate i announcement ++ [exception] := by
    intro announcement exception
    rw [← List.map_replicate, refusalCount_append, refusalCount_map_taken, told_append,
      told_map_taken]
    exact ⟨rfl, rfl⟩
  refine ⟨(hcalls _ _).1, ?_⟩
  rw [(hcalls _ _).2]
  by_cases hedit : command = .edit
  · subst hedit
    exact ⟨i, _, reason, rfl⟩
  · -- the announcement that fails is the only one
    have hlen := Nat.le_trans hupTo.length_le (hends.length_events_le_one hedit)
    rw [List.length_replicate] at hlen
    obtain rfl : i = 0 := by omega
    exact ⟨0, _, reason, rfl⟩

end Turn

namespace Directive

/-! ## The course of a directive -/

/-- How the application of a directive may go under a listener: the catalog before and after
it, the calls, and the notes. -/
inductive Course (l : Listener) (o : Options) (d : Directive) :
    Catalog → Catalog → List Call → List Note → Prop
  /-- The directive is passed over. -/
  | noCommand {cat : Catalog} (hcommand : d.command = none) :
      Course l o d cat cat [] [.noCommand d.url]
  /-- The directive is reported. -/
  | badConstraints {cat : Catalog} {command : Command} {e : PatchError}
      (hcommand : d.command = some command) (he : d.constraints = .error e) :
      Course l o d cat cat [(Event.error d.ref (.badConstraints e)).taken, Event.applied.taken] []
  /-- All targets have their turns. -/
  | complete {cat last : Catalog} {command : Command} {cs : Constraints} {ts : List Turn}
      (hcommand : d.command = some command) (hcs : d.constraints = .ok cs)
      (lead : Turn.Lead cat ts last) (ends : ∀ t ∈ ts, t.Ends o d cs command)
      (targets : ts.map (·.target) = d.targetIds cs cat) :
      Course l o d cat last
        ((ts.flatMap (·.events)).map Event.taken ++ [Event.applied.taken])
        (ts.flatMap (·.notes))
  /-- A turn breaks off. The catalog is left as this turn found it, with nothing done to its
  target or to the ones that are left. -/
  | cut {cat : Catalog} {command : Command} {cs : Constraints} {past : List Turn} {t : Turn}
      {left : List EntryId} {calls : List Call} {ns : List Note}
      (hcommand : d.command = some command) (hcs : d.constraints = .ok cs)
      (lead : Turn.Lead cat past t.before) (ends : ∀ t' ∈ past, t'.Ends o d cs command)
      (wouldEnd : t.Ends o d cs command) (breaks : t.Breaks l d command calls ns)
      (targets : past.map (·.target) ++ t.target :: left = d.targetIds cs cat)
      (untouched : ∀ id ∈ t.target :: left, t.before.get? id = cat.get? id) :
      Course l o d cat t.before
        ((past.flatMap (·.events)).map Event.taken ++ calls ++ [Event.applied.taken])
        (past.flatMap (·.notes) ++ ns)

variable {l : Listener} {o : Options} {d : Directive}

/-- If the listener fails on nothing but announcements, then the application of a directive
has a course. -/
theorem apply_course (hl : l.FailsOnlyOn Event.isAnnouncement) (o : Options) (d : Directive)
    (cat : Catalog) (j : Journal) :
    ∃ last calls ns, d.Course l o cat last calls ns ∧
      d.apply l o cat j = .ok (last, j.extend calls ns) := by
  cases hcommand : d.command with
  | none =>
    refine ⟨cat, _, _, .noCommand hcommand, ?_⟩
    rw [apply, hcommand]
    rfl
  | some command =>
    cases hcs : d.constraints with
    | error e =>
      exact ⟨cat, _, _, .badConstraints hcommand hcs, apply_badConstraints hl hcommand hcs cat j⟩
    | ok cs =>
      obtain ⟨ts, last, hlead, hall, htargets, hrun⟩ := apply_turns_or_breaks o hcommand hcs cat
      rcases hrun l hl j with hend | ⟨past, t, rest, calls, ns, rfl, hbreaks, hcut⟩
      · refine ⟨last, _, _, .complete hcommand hcs hlead hall htargets, ?_⟩
        rw [hend, Journal.add, List.map_append]
        rfl
      · -- the turns in front of the one that breaks off lead to where it begins
        obtain ⟨_, hpast, hbefore, _⟩ := hlead.append
        obtain rfl := hbefore
        rw [List.map_append, List.map_cons] at htargets
        have hends : ∀ t' ∈ past, t'.Ends o d cs command := fun t' ht' =>
          hall t' (List.mem_append_left _ ht')
        refine ⟨t.before, _, _, .cut hcommand hcs hpast hends
          (hall t (List.mem_append_right _ (List.mem_cons_self ..))) hbreaks htargets ?_, hcut⟩
        -- targets are visited once, so those that are left are no targets of these turns
        intro id hid
        have hmem : id ∈ d.targetIds cs cat := htargets ▸ List.mem_append_right _ hid
        have hnodup : (d.targetIds cs cat).Nodup := by
          rw [targetIds_eq]
          exact (Catalog.ids_nodup cat).filter _
        have hlt : id < cat.slots.length := by
          rw [targetIds_eq] at hmem
          exact Catalog.lt_length_of_mem_ids (List.mem_filter.1 hmem).1
        rw [← htargets] at hnodup
        exact hpast.get?_of_not_mem hends hlt fun hold =>
          (List.nodup_append.1 hnodup).2.2 id hold id hid rfl

namespace Course

variable {cat last : Catalog} {calls : List Call} {ns : List Note}

/-- A directive with a command tells once that it has been applied, whatever happens. -/
theorem appliedCount_eq (h : d.Course l o cat last calls ns) :
    appliedCount (told calls) = if d.command.isSome then 1 else 0 := by
  cases h with
  | noCommand hcommand =>
    rw [hcommand]
    rfl
  | badConstraints hcommand =>
    rw [hcommand]
    rfl
  | complete hcommand _ _ hends =>
    rw [hcommand, told_append, told_map_taken, appliedCount_append,
      appliedCount_eq_zero fun e he => (Turn.no_bookkeeping hends e he).2]
    rfl
  | cut hcommand _ _ hends hwould hbreaks =>
    obtain ⟨_, i, target, reason, htold⟩ := hbreaks.told_eq hwould
    rw [hcommand, told_append, told_append, told_map_taken, htold, appliedCount_append,
      appliedCount_append, appliedCount_append,
      appliedCount_eq_zero fun e he => (Turn.no_bookkeeping hends e he).2]
    simp [appliedCount, List.countP_replicate, told, Event.taken]

/-- A listener fails at most once while a directive is applied, and is told so. -/
theorem exceptionCount_eq (h : d.Course l o cat last calls ns) :
    exceptionCount (told calls) = refusalCount calls ∧ refusalCount calls ≤ 1 := by
  cases h with
  | noCommand => exact ⟨rfl, Nat.zero_le 1⟩
  | badConstraints => exact ⟨rfl, Nat.zero_le 1⟩
  | complete _ _ _ hends =>
    rw [told_append, told_map_taken, exceptionCount_append, Turn.exceptionCount_eq_zero hends,
      refusalCount_append, refusalCount_map_taken]
    exact ⟨rfl, Nat.zero_le 1⟩
  | cut _ _ _ hends hwould hbreaks =>
    obtain ⟨hrefused, i, target, reason, htold⟩ := hbreaks.told_eq hwould
    have hrounds : exceptionCount (.replicate i (.updating target d.ref)) = 0 :=
      List.countP_eq_zero.2 fun e he => by
        rw [List.eq_of_mem_replicate he]
        exact Bool.false_ne_true
    rw [told_append, told_append, told_map_taken, htold, exceptionCount_append,
      exceptionCount_append, exceptionCount_append, Turn.exceptionCount_eq_zero hends, hrounds,
      refusalCount_append, refusalCount_append, refusalCount_map_taken, hrefused]
    exact ⟨rfl, Nat.le_refl 1⟩

/-- The number of entries is accounted for by the copies and removals that are told. -/
theorem balanced (h : d.Course l o cat last calls ns) : Balanced cat (told calls) last := by
  cases h with
  | noCommand => exact rfl
  | badConstraints => exact rfl
  | complete _ _ hlead hends =>
    rw [told_append, told_map_taken]
    exact (hlead.balanced hends).append rfl
  | cut _ _ hlead hends hwould hbreaks =>
    obtain ⟨_, i, target, reason, htold⟩ := hbreaks.told_eq hwould
    rw [told_append, told_append, told_map_taken, htold]
    refine ((hlead.balanced hends).append ?_).append rfl
    simp [Balanced, deletedCount, copiedCount, Event.isDeleting, Event.isCopying,
      List.countP_replicate]

end Course

end Directive

/-! ## A whole run -/

theorem AppliedInOrder.balanced {l : Listener} {o : Options}
    (hl : l.FailsOnlyOn Event.isAnnouncement) {ds : List Directive} {cat last : Catalog}
    {j j' : Journal} (h : AppliedInOrder l o ds cat j last j') :
    ∃ calls ns, j' = j.extend calls ns ∧ Balanced cat (told calls) last := by
  induction h with
  | nil => exact ⟨[], [], rfl, rfl⟩
  | @pass _ _ _ j _ p _ ih =>
    obtain ⟨calls, ns, rfl, hbalanced⟩ := ih
    exact ⟨calls, .pass p :: ns, Journal.extend_extend j [] calls [.pass p] ns, hbalanced⟩
  | @apply d _ cat _ _ j _ _ happly _ ih =>
    obtain ⟨next, calls, ns, hcourse, hrun⟩ := Directive.apply_course hl o d cat j
    obtain ⟨calls', ns', rfl, hbalanced⟩ := ih
    obtain ⟨rfl, rfl⟩ := Prod.mk.inj (Except.ok.inj (hrun.symm.trans happly))
    refine ⟨calls ++ calls', ns ++ ns', Journal.extend_extend .., ?_⟩
    rw [told_append]
    exact hcourse.balanced.append hbalanced

/-- If the listener fails on nothing but announcements, then every directive is applied and
the entries are accounted for by the copies and removals that were told. Each directive runs
its course whatever came before it: it tells once that it has been applied, if it has a
command; it ends at the first announcement on which the listener fails, in the catalog that
the turn began with; and it tells of that exactly once. -/
theorem applyAgenda_contained {l : Listener} (hl : l.FailsOnlyOn Event.isAnnouncement)
    (o : Options) (a : Agenda) (cat : Catalog) (j : Journal) :
    (∃ last calls ns, applyAgenda l o a cat j = .ok (last, j.extend calls ns) ∧
      AppliedInOrder l o (a.buckets.flatMap (·.2)) cat j last (j.extend calls ns) ∧
      Balanced cat (told calls) last) ∧
    ∀ (d : Directive) before start, ∃ after calls ns,
      d.apply l o before start = .ok (after, start.extend calls ns) ∧
      d.Course l o before after calls ns ∧
      appliedCount (told calls) = (if d.command.isSome then 1 else 0) ∧
      exceptionCount (told calls) = refusalCount calls ∧ refusalCount calls ≤ 1 := by
  constructor
  · -- every directive has a course, so none stops the run
    have happly : ∀ d ∈ a.filled.flatMap (·.2), ∀ cat j, ∃ next,
        d.apply l o cat j = .ok next := by
      intro d _ cat j
      obtain ⟨last, calls, ns, _, hrun⟩ := Directive.apply_course hl o d cat j
      exact ⟨_, hrun⟩
    obtain ⟨last, j', hrun, horder⟩ := exists_applyPasses_inOrder a.filled happly cat j
    rw [Agenda.flatMap_filled, ← Agenda.flatMap_buckets] at horder
    obtain ⟨calls, ns, rfl, hbalanced⟩ := horder.balanced hl
    exact ⟨last, calls, ns, hrun, horder, hbalanced⟩
  · intro d before start
    obtain ⟨after, calls, ns, hcourse, hrun⟩ := Directive.apply_course hl o d before start
    exact ⟨after, calls, ns, hrun, hcourse, hcourse.appliedCount_eq, hcourse.exceptionCount_eq⟩

/-- A looping edit of all parts, and behind it their removal. -/
def renameThenDelete : Agenda where
  mods := []
  queue := [
    (.legacy, { aboutParts '@' none with
      node := ⟨"@PART".toList, none, [⟨"@name".toList, "z".toList⟩],
        [⟨loopMarker, none, [], []⟩]⟩ }),
    (.legacy, aboutParts '-' none)]

/-- The edit breaks off in its second round, and the removal goes on as ever. -/
theorem applyAgenda_contained_renameThenDelete :
    (Listener.failingAt Event.isAnnouncement 1 ['x']).FailsOnlyOn Event.isAnnouncement ∧
    ∃ last calls ns,
      applyAgenda (.failingAt Event.isAnnouncement 1 ['x']) {} renameThenDelete twoParts .empty =
        .ok (last, Journal.empty.extend calls ns) ∧
      Balanced twoParts (told calls) last ∧ last.ids = [1] ∧ exceptionCount (told calls) = 1 ∧
      appliedCount (told calls) = 2 := by
  have hl := Listener.failingAt_failsOnlyOn Event.isAnnouncement 1 ['x']
  obtain ⟨⟨last, calls, ns, hrun, _, hbalanced⟩, _⟩ :=
    applyAgenda_contained hl {} renameThenDelete twoParts .empty
  have hcounts : (applyAgenda (.failingAt Event.isAnnouncement 1 ['x']) {} renameThenDelete
      twoParts .empty).toOption.map (fun r =>
        (r.1.ids, exceptionCount r.2.events, appliedCount r.2.events)) = some ([1], 1, 2) := by
    decide +kernel
  simp only [hrun, Except.toOption, Option.map_some, Journal.events_extend, Option.some.injEq,
    Prod.mk.injEq] at hcounts
  exact ⟨hl, last, calls, ns, hrun, hbalanced, hcounts⟩

end CfgPatch
