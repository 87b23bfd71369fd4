import CfgPatch.Proofs.Catalog
import CfgPatch.Proofs.Rounds

/-!
# The turns of a directive

A directive is applied to its targets one after another; each has its turn. A turn ends in
one of two ways: the work on the target is committed, or it fails, and then the catalog is as
it was and one error is told (`Turn.Commits`, `Turn.Fails`). No turn touches an entry that
stands there besides its own, so whoever was a target in the beginning still is one when its
turn comes, and nobody else is. An application is therefore a sequence of turns, one for each
of the targets of the catalog it began with (`apply_turns`).

Which turns these are does not depend on the listener. What depends on it is whether all of
them take place: a listener may fail on an announcement, and then the turn breaks off
(`Turn.Breaks`) and is the last.
-/

namespace CfgPatch

/-- Whether an event is an error of an entry or a directive. -/
def Event.isErrorOf (ref : Ref) : Event → Bool
  | .error r _ => r = ref
  | _ => false

/-- Whether an event announces that a target is about to be worked on. -/
def Event.isAnnouncement : Event → Bool
  | .updating .. | .copying .. | .deleting .. => true
  | _ => false

/-- How a directive with the given command announces its work on a target. -/
def Directive.announcement (d : Directive) (target : Ref) : Command → Event
  | .edit => .updating target d.ref
  | .copy => .copying target d.ref
  | .delete => .deleting target d.ref

/-! ## How a turn ends -/

/-- The turn of one target: the catalog on either side of it, and what was told and noted. -/
structure Turn where
  target : EntryId
  before : Catalog
  after : Catalog
  events : List Event
  notes : List Note

namespace Turn

/-- The number of errors of a directive in a turn. -/
def errors (ref : Ref) (t : Turn) : Nat := t.events.countP (Event.isErrorOf ref)

/-- The work on a target succeeds, and what comes of it is put into the catalog. -/
inductive Commits (o : Options) (d : Directive) (cs : Constraints) : Command → Turn → Prop
  | edit {cat : Catalog} {id : EntryId} {entry : Entry} {k : Nat} {node : Node}
      (there : cat.get? id = some entry)
      (rounds : d.Rounds cs ⟨cat, entry.node⟩ o.moreRounds 0 entry.node k (.ok node)) :
      Commits o d cs .edit {
        target := id
        before := cat
        after := cat.setNode id node
        events := .replicate k (.updating (cat.refOf id entry) d.ref)
        notes := .replicate (k - 1) (.looping d.url (cat.refOf id entry).url) }
  | copy {cat : Catalog} {id : EntryId} {entry : Entry} {duplicate : Node}
      (there : cat.get? id = some entry)
      (edited : Body.apply ⟨cat, entry.node⟩ d.node entry.node = .done duplicate)
      (renamed : duplicate.label? ≠ entry.node.label?) :
      Commits o d cs .copy {
        target := id
        before := cat
        after := cat.addEntry ⟨d.file, duplicate⟩
        events := [.copying (cat.refOf id entry) d.ref]
        notes := [] }
  | delete {cat : Catalog} {id : EntryId} {entry : Entry} (there : cat.get? id = some entry) :
      Commits o d cs .delete {
        target := id
        before := cat
        after := cat.remove id
        events := [.deleting (cat.refOf id entry) d.ref]
        notes := [] }

/-- The work on a target fails, and the catalog stays as it is. -/
inductive Fails (o : Options) (d : Directive) (cs : Constraints) : Command → Turn → Prop
  | edit {cat : Catalog} {id : EntryId} {entry : Entry} {k : Nat} {e : PatchError}
      (there : cat.get? id = some entry)
      (rounds : d.Rounds cs ⟨cat, entry.node⟩ o.moreRounds 0 entry.node k (.error e)) :
      Fails o d cs .edit {
        target := id
        before := cat
        after := cat
        events := .replicate k (.updating (cat.refOf id entry) d.ref) ++
          [.error d.ref (.failed e (cat.refOf id entry).url)]
        notes := .replicate (k - 1) (.looping d.url (cat.refOf id entry).url) }
  | copy {cat : Catalog} {id : EntryId} {entry : Entry} {e : PatchError} {left : Node}
      (there : cat.get? id = some entry)
      (stopped : Body.apply ⟨cat, entry.node⟩ d.node entry.node = .stopped e left) :
      Fails o d cs .copy {
        target := id
        before := cat
        after := cat
        events := [.error d.ref (.failed e (cat.refOf id entry).url)]
        notes := [] }
  | sameName {cat : Catalog} {id : EntryId} {entry : Entry} {duplicate : Node}
      (there : cat.get? id = some entry)
      (edited : Body.apply ⟨cat, entry.node⟩ d.node entry.node = .done duplicate)
      (same : duplicate.label? = entry.node.label?) :
      Fails o d cs .copy {
        target := id
        before := cat
        after := cat
        events := [.error d.ref (.sameName (cat.refOf id entry).url)]
        notes := [] }

/-- A turn ends in one way or the other. -/
def Ends (o : Options) (d : Directive) (cs : Constraints) (command : Command) (t : Turn) : Prop :=
  t.Commits o d cs command ∨ t.Fails o d cs command

/-- A turn breaks off: the listener fails on an announcement. Up to there the calls and notes
are those of the turn, and then the listener is told that it failed. -/
inductive Breaks (l : Listener) (d : Directive) (command : Command) (t : Turn) :
    List Call → List Note → Prop
  | intro {entry : Entry} {target : Ref} {announcement : Event} (i : Nat) (reason : Text)
      (there : t.before.get? t.target = some entry)
      (named : target = t.before.refOf t.target entry)
      (announces : announcement = d.announcement target command)
      (refuses : ¬l.Takes announcement)
      (upTo : .replicate (i + 1) announcement <+: t.events) :
      Breaks l d command t
        (.replicate i announcement.taken ++
          [announcement.refused, (Event.exception d.ref (.applying target.url) reason).taken])
        (.replicate i (.looping d.url target.url))

variable {o : Options} {d : Directive} {cs : Constraints} {command : Command} {t : Turn}

theorem Breaks.not_neverFails {l : Listener} {calls : List Call} {ns : List Note}
    (h : t.Breaks l d command calls ns) : ¬l.NeverFails := by
  obtain ⟨_, _, _, _, _, hrefuses, _⟩ := h
  exact fun hl => hrefuses (hl _)

theorem Fails.after_eq (h : t.Fails o d cs command) : t.after = t.before := by
  cases h <;> rfl

theorem Commits.errors_eq_zero (h : t.Commits o d cs command) : t.errors d.ref = 0 := by
  refine List.countP_eq_zero.2 fun e he => ?_
  cases h with
  | edit => simp [List.eq_of_mem_replicate he, Event.isErrorOf]
  | copy => simp [List.mem_singleton.1 he, Event.isErrorOf]
  | delete => simp [List.mem_singleton.1 he, Event.isErrorOf]

theorem Fails.errors_eq_one (h : t.Fails o d cs command) : t.errors d.ref = 1 := by
  cases h with
  | edit => simp [errors, List.countP_append, List.countP_replicate, Event.isErrorOf]
  | copy => simp [errors, Event.isErrorOf]
  | sameName => simp [errors, Event.isErrorOf]

/-! ## What a turn leaves alone -/

theorem Ends.files_after (h : t.Ends o d cs command) : t.after.files = t.before.files := by
  rcases h with h | h
  · cases h <;> rfl
  · rw [h.after_eq]

theorem Ends.length_slots_le (h : t.Ends o d cs command) :
    t.before.slots.length ≤ t.after.slots.length := by
  rcases h with h | h
  · cases h <;> simp
  · exact Nat.le_of_eq (by rw [h.after_eq])

/-- A turn touches none of the entries there except its own. -/
theorem Ends.get?_after (h : t.Ends o d cs command) {k : EntryId} (hne : k ≠ t.target)
    (hlt : k < t.before.slots.length) : t.after.get? k = t.before.get? k := by
  rcases h with h | h
  · cases h with
    | edit => exact (Catalog.get?_setNode ..).trans (if_neg hne)
    | copy => exact (Catalog.get?_addEntry ..).trans (if_neg (Nat.ne_of_lt hlt))
    | delete => exact (Catalog.get?_remove ..).trans (if_neg hne)
  · rw [h.after_eq]

/-- A turn announces work on its target or reports a problem, and tells nothing else. -/
theorem Ends.of_mem_events (h : t.Ends o d cs command) {e : Event} (he : e ∈ t.events) :
    (∃ entry, t.before.get? t.target = some entry ∧
      e = d.announcement (t.before.refOf t.target entry) command) ∨
    ∃ problem, e = .error d.ref problem := by
  rcases h with h | h
  · cases h with
    | edit there => exact .inl ⟨_, there, List.eq_of_mem_replicate he⟩
    | copy there => exact .inl ⟨_, there, List.mem_singleton.1 he⟩
    | delete there => exact .inl ⟨_, there, List.mem_singleton.1 he⟩
  · cases h with
    | edit there =>
      rcases List.mem_append.1 he with he | he
      · exact .inl ⟨_, there, List.eq_of_mem_replicate he⟩
      · exact .inr ⟨_, List.mem_singleton.1 he⟩
    | copy => exact .inr ⟨_, List.mem_singleton.1 he⟩
    | sameName => exact .inr ⟨_, List.mem_singleton.1 he⟩

/-- A turn notes only that its edit is repeated. -/
theorem Ends.of_mem_notes (h : t.Ends o d cs command) {n : Note} (hn : n ∈ t.notes) :
    ∃ patch target, n = .looping patch target := by
  rcases h with h | h
  · cases h with
    | edit => exact ⟨_, _, List.eq_of_mem_replicate hn⟩
    | copy => exact absurd hn List.not_mem_nil
    | delete => exact absurd hn List.not_mem_nil
  · cases h with
    | edit => exact ⟨_, _, List.eq_of_mem_replicate hn⟩
    | copy => exact absurd hn List.not_mem_nil
    | sameName => exact absurd hn List.not_mem_nil

/-- A turn does no bookkeeping. -/
theorem Ends.bookkeeping (h : t.Ends o d cs command) :
    ∀ e ∈ t.events, e ≠ .added ∧ e ≠ .applied := by
  intro e he
  rcases h.of_mem_events he with ⟨entry, _, rfl⟩ | ⟨problem, rfl⟩
  · cases command <;> exact ⟨nofun, nofun⟩
  · exact ⟨nofun, nofun⟩

theorem no_bookkeeping {ts : List Turn} (h : ∀ t ∈ ts, t.Ends o d cs command) :
    ∀ e ∈ ts.flatMap (·.events), e ≠ .added ∧ e ≠ .applied := by
  intro e he
  obtain ⟨t, ht, he⟩ := List.mem_flatMap.1 he
  exact (h t ht).bookkeeping e he

/-- Each of some turns begins with the catalog that the one before it leaves; `a` is what the
first one begins with and `b` what the last one leaves. -/
def Lead : Catalog → List Turn → Catalog → Prop
  | a, [], b => a = b
  | a, t :: ts, b => t.before = a ∧ Lead t.after ts b

theorem Lead.append {a c : Catalog} {ts ts' : List Turn} (h : Lead a (ts ++ ts') c) :
    ∃ b, Lead a ts b ∧ Lead b ts' c := by
  induction ts generalizing a with
  | nil => exact ⟨a, rfl, h⟩
  | cons t ts ih =>
    obtain ⟨hbefore, h⟩ := h
    obtain ⟨b, hleft, hright⟩ := ih h
    exact ⟨b, ⟨hbefore, hleft⟩, hright⟩

/-- What stands there and is no target is as it was when some turns are over. -/
theorem Lead.get?_of_not_mem {a b : Catalog} {ts : List Turn} (h : Lead a ts b)
    (hall : ∀ t ∈ ts, t.Ends o d cs command) {id : EntryId} (hlt : id < a.slots.length)
    (hid : id ∉ ts.map (·.target)) : b.get? id = a.get? id := by
  induction ts generalizing a with
  | nil =>
    obtain rfl : a = b := h
    rfl
  | cons t ts ih =>
    obtain ⟨rfl, h⟩ := h
    have hends := hall t (List.mem_cons_self ..)
    rw [List.map_cons, List.mem_cons, not_or] at hid
    rw [ih h (fun t' ht' => hall t' (List.mem_cons_of_mem _ ht'))
      (Nat.lt_of_lt_of_le hlt hends.length_slots_le) hid.2, hends.get?_after hid.1 hlt]

/-- A turn is committed if its target is not as it was in the end, and no later turn has the same
target. -/
theorem Lead.commits_of_get?_ne {a b : Catalog} {t : Turn} {ts : List Turn}
    (h : Lead a (t :: ts) b) (hall : ∀ t' ∈ t :: ts, t'.Ends o d cs command)
    (hlt : t.target < a.slots.length) (hnot : t.target ∉ ts.map (·.target))
    (hne : b.get? t.target ≠ a.get? t.target) : t.Commits o d cs command := by
  obtain ⟨rfl, h⟩ := h
  obtain ⟨hends, hrest⟩ := List.forall_mem_cons.1 hall
  refine hends.resolve_right fun hfails => hne ?_
  have hkept : b.get? t.target = t.after.get? t.target :=
    h.get?_of_not_mem hrest (Nat.lt_of_lt_of_le hlt hends.length_slots_le) hnot
  rw [hkept, hfails.after_eq]

end Turn

namespace Directive

/-! ## A directive goes through its targets -/

/-- The numbers of the targets of a directive in a catalog, in order. -/
def targetIds (d : Directive) (cs : Constraints) (cat : Catalog) : List EntryId :=
  (cat.entries.filter fun p => d.isTarget cs p.2.node).map (·.1)

/-- Whether a number is that of a target. -/
def isTargetIn (d : Directive) (cs : Constraints) (cat : Catalog) (id : EntryId) : Bool :=
  (cat.get? id).any fun entry => d.isTarget cs entry.node

theorem targetIds_eq (d : Directive) (cs : Constraints) (cat : Catalog) :
    d.targetIds cs cat = cat.ids.filter (d.isTargetIn cs cat) := by
  rw [targetIds, Catalog.ids, List.filter_map]
  congr 1
  refine List.filter_congr fun p hp => ?_
  rw [Function.comp, isTargetIn, Catalog.mem_entries.1 hp]
  rfl

variable {l : Listener} {o : Options} {d : Directive} {cs : Constraints} {command : Command}
  {cat : Catalog} {id : EntryId} {entry : Entry}

/-- What is reported about a target when the work on it has been done. -/
def reportOn (d : Directive) (target : Ref) : Except PatchError Catalog → List Event
  | .ok _ => []
  | .error e => [.error d.ref (.failed e target.url)]

/-- A visit makes up a turn, together with the report on it, unless the listener fails on an
announcement. The turn does not depend on the listener. -/
theorem visit_turn (o : Options) (d : Directive) (cs : Constraints) (command : Command)
    (hget : cat.get? id = some entry) :
    ∃ es ns result,
      Turn.Ends o d cs command
        ⟨id, cat, result.toOption.getD cat, es ++ d.reportOn (cat.refOf id entry) result, ns⟩ ∧
      ∀ l, l.FailsOnlyOn Event.isAnnouncement → ∀ j,
        d.visit l o command cs cat j id (cat.refOf id entry) entry.node =
          .ok (j.add es ns, result) ∨
        ∃ announcement i reason, announcement = d.announcement (cat.refOf id entry) command ∧
          ¬l.Takes announcement ∧ .replicate (i + 1) announcement <+: es ∧
          d.visit l o command cs cat j id (cat.refOf id entry) entry.node =
            .error ⟨reason, j.extend (.replicate i announcement.taken ++ [announcement.refused])
              (.replicate i (.looping d.url (cat.refOf id entry).url))⟩ := by
  cases command with
  | edit =>
    obtain ⟨k, result, hrounds, hrun⟩ := editRounds_rounds d cs ⟨cat, entry.node⟩
      (cat.refOf id entry) o.moreRounds 0 entry.node
    refine ⟨.replicate k (.updating (cat.refOf id entry) d.ref),
      .replicate (k - 1) (.looping d.url (cat.refOf id entry).url),
      result.map (cat.setNode id), ?_, fun l _ j => ?_⟩
    · cases result with
      | ok node =>
        rw [Except.map, reportOn, List.append_nil]
        exact .inl (.edit hget hrounds)
      | error e => exact .inr (.edit hget hrounds)
    · rcases hrun l j with hend | ⟨hrefuses, i, hlt, reason, hcut⟩
      · refine .inl ?_
        rw [visit, edit, hend]
        rfl
      · -- the round that was not to be is one of the rounds of the turn
        refine .inr ⟨_, i, reason, rfl, hrefuses, ?_, ?_⟩
        · refine ⟨.replicate (k - (i + 1)) (.updating (cat.refOf id entry) d.ref), ?_⟩
          rw [announcement, List.replicate_append_replicate, Nat.add_sub_of_le hlt]
        · rw [visit, edit, hcut]
          rfl
  | copy =>
    cases happly : Body.apply ⟨cat, entry.node⟩ d.node entry.node with
    | stopped e left =>
      -- the copy is edited first, and a failure of that is not announced
      refine ⟨[], [], .error e, .inr (.copy hget happly), fun l _ j => .inl ?_⟩
      rw [visit, copy, happly]
      rfl
    | done duplicate =>
      by_cases hsame : duplicate.label? = entry.node.label?
      · refine ⟨[_], [], .ok cat, .inr (.sameName hget happly hsame), fun l hl j => .inl ?_⟩
        have htell := Journal.tell_of_takes
          (hl (.error d.ref (.sameName (cat.refOf id entry).url)) Bool.false_ne_true) j
        rw [visit, copy, happly]
        simp only [Outcome.toExcept, if_pos hsame, htell]
        rfl
      · refine ⟨[_], [], .ok _, .inl (.copy hget happly hsame), fun l _ j => ?_⟩
        rw [visit, copy, happly]
        simp only [Outcome.toExcept, if_neg hsame]
        rcases Journal.tell_map_cases l j (.copying (cat.refOf id entry) d.ref) _ with
          hdone | ⟨hrefuses, reason, hcut⟩
        · exact .inl hdone
        · exact .inr ⟨_, 0, reason, rfl, hrefuses, List.prefix_rfl, hcut⟩
  | delete =>
    refine ⟨[_], [], .ok _, .inl (.delete hget), fun l _ j => ?_⟩
    rw [visit, delete]
    rcases Journal.tell_map_cases l j (.deleting (cat.refOf id entry) d.ref) _ with
      hdone | ⟨hrefuses, reason, hcut⟩
    · exact .inl hdone
    · exact .inr ⟨_, 0, reason, rfl, hrefuses, List.prefix_rfl, hcut⟩

/-- A target that is visited has its turn, and the next ones go on from what it leaves, or the
turn breaks off and they have none. -/
theorem visitAll_turn (o : Options) (command : Command) (hget : cat.get? id = some entry)
    (htarget : d.isTarget cs entry.node) :
    ∃ t : Turn, t.Ends o d cs command ∧ t.target = id ∧ t.before = cat ∧
      ∀ l, l.FailsOnlyOn Event.isAnnouncement → ∀ ids j,
        d.visitAll l o command cs (id :: ids) cat j =
          d.visitAll l o command cs ids t.after (j.add t.events t.notes) ∨
        ∃ calls ns, t.Breaks l d command calls ns ∧
          d.visitAll l o command cs (id :: ids) cat j = .ok (t.before, j.extend calls ns) := by
  obtain ⟨es, ns, result, hends, hvisit⟩ := visit_turn o d cs command hget
  refine ⟨_, hends, rfl, rfl, fun l hl ids j => ?_⟩
  have htell (j : Journal) (e : Event) (he : ¬e.isAnnouncement) :
      j.tell l e = .ok (j.add [e] []) := Journal.tell_of_takes (hl e he) j
  rw [visitAll, hget]
  rw [Catalog.refOf] at hvisit ⊢
  rcases hvisit l hl j with hrun | ⟨announcement, i, reason, hann, hrefuses, hupTo, hrun⟩
  · refine .inl ?_
    simp only [htarget, if_true, hrun]
    cases result with
    | ok next =>
      rw [reportOn, List.append_nil]
      rfl
    | error e =>
      have hreport := htell (j.add es ns)
        (.error d.ref (.failed e (cat.urlFor entry.file entry.node.name))) nofun
      simp only [hreport, Journal.add_add, List.append_nil]
      rfl
  · -- the exception is told to a listener that fails on nothing but announcements
    refine .inr ⟨_, _, .intro i reason hget rfl hann hrefuses
      (hupTo.trans (List.prefix_append ..)), ?_⟩
    simp only [htarget, if_true, hrun]
    rw [htell _ (.exception ..) nofun, Journal.add, Journal.extend_extend, List.append_assoc,
      List.append_nil]
    rfl

/-- Going through entries that are as they were in `cat`, a directive gives a turn to each one
that is a target there, until one breaks off. -/
theorem visitAll_turns (o : Options) (d : Directive) (cs : Constraints) (command : Command)
    {ids : List EntryId} (hnodup : ids.Nodup) (now : Catalog)
    (hsame : ∀ id ∈ ids, now.get? id = cat.get? id)
    (hlt : ∀ id ∈ ids, id < now.slots.length) :
    ∃ ts last, Turn.Lead now ts last ∧ (∀ t ∈ ts, t.Ends o d cs command) ∧
      ts.map (·.target) = ids.filter (d.isTargetIn cs cat) ∧
      ∀ l, l.FailsOnlyOn Event.isAnnouncement → ∀ j,
        d.visitAll l o command cs ids now j =
          .ok (last, j.add (ts.flatMap (·.events)) (ts.flatMap (·.notes))) ∨
        ∃ past t rest calls ns, ts = past ++ t :: rest ∧ t.Breaks l d command calls ns ∧
          d.visitAll l o command cs ids now j =
            .ok (t.before, (j.add (past.flatMap (·.events)) (past.flatMap (·.notes))).extend
              calls ns) := by
  -- the invariant is that the entries still to come are as they were in `cat`
  induction ids generalizing now with
  | nil => exact ⟨[], now, rfl, by simp, rfl, fun _ _ _ => .inl rfl⟩
  | cons id ids ih =>
    obtain ⟨hnot, hrestNodup⟩ := List.nodup_cons.1 hnodup
    have hid := hsame id (List.mem_cons_self ..)
    have hrestSame := fun k hk => hsame k (List.mem_cons_of_mem id hk)
    have hrestLt := fun k hk => hlt k (List.mem_cons_of_mem id hk)
    -- an entry that is no target is passed over
    have hskip (l : Listener) (j : Journal) (hno : d.isTargetIn cs cat id = false) :
        d.visitAll l o command cs (id :: ids) now j = d.visitAll l o command cs ids now j := by
      rw [isTargetIn, ← hid] at hno
      rw [visitAll]
      cases hget : now.get? id with
      | none => rfl
      | some entry =>
        rw [hget] at hno
        have hno : d.isTarget cs entry.node = false := hno
        simp [hno]
    cases htarget : d.isTargetIn cs cat id with
    | false =>
      obtain ⟨ts, last, hlead, hall, htargets, hrun⟩ := ih hrestNodup now hrestSame hrestLt
      refine ⟨ts, last, hlead, hall, ?_, fun l hl j => ?_⟩
      · rw [htargets, List.filter_cons_of_neg (by simp [htarget])]
      · rw [hskip l j htarget]
        exact hrun l hl j
    | true =>
      rw [List.filter_cons_of_pos htarget]
      rw [isTargetIn, ← hid] at htarget
      obtain ⟨entry, hget, htarget⟩ : ∃ entry, now.get? id = some entry ∧
          d.isTarget cs entry.node := by simpa [Option.any_eq_true] using htarget
      obtain ⟨t, hends, rfl, rfl, hturn⟩ := visitAll_turn o command hget htarget
      have hkept : ∀ k ∈ ids, t.after.get? k = cat.get? k := by
        intro k hk
        have hne : k ≠ t.target := fun h => hnot (h ▸ hk)
        rw [hends.get?_after hne (hrestLt k hk), hrestSame k hk]
      obtain ⟨ts, last, hlead, hall, htargets, hrest⟩ := ih hrestNodup t.after hkept
        (fun k hk => Nat.lt_of_lt_of_le (hrestLt k hk) hends.length_slots_le)
      refine ⟨t :: ts, last, ⟨rfl, hlead⟩, ?_, ?_, fun l hl j => ?_⟩
      · rintro t' (_ | ⟨_, ht'⟩)
        · exact hends
        · exact hall t' ht'
      · rw [List.map_cons, htargets]
      · rcases hturn l hl ids j with hnext | ⟨calls, ns, hbreaks, hcut⟩
        · rw [hnext]
          rcases hrest l hl (j.add t.events t.notes) with
            hrun | ⟨past, t', rest, calls, ns, rfl, hbreaks, hcut⟩
          · refine .inl ?_
            rw [hrun, Journal.add_add]
            rfl
          · refine .inr ⟨t :: past, t', rest, calls, ns, rfl, hbreaks, ?_⟩
            rw [hcut, Journal.add_add]
            rfl
        · exact .inr ⟨[], t, ts, calls, ns, rfl, hbreaks, hcut⟩

/-- The application of a directive is a sequence of turns, one for each target of the catalog
it begins with, in order, until one of them breaks off. The turns do not depend on the
listener. -/
theorem apply_turns_or_breaks (o : Options) (hcommand : d.command = some command)
    (hcs : d.constraints = .ok cs) (cat : Catalog) :
    ∃ ts last, Turn.Lead cat ts last ∧ (∀ t ∈ ts, t.Ends o d cs command) ∧
      ts.map (·.target) = d.targetIds cs cat ∧
      ∀ l, l.FailsOnlyOn Event.isAnnouncement → ∀ j,
        d.apply l o cat j =
          .ok (last, j.add (ts.flatMap (·.events) ++ [.applied]) (ts.flatMap (·.notes))) ∨
        ∃ past t rest calls ns, ts = past ++ t :: rest ∧ t.Breaks l d command calls ns ∧
          d.apply l o cat j =
            .ok (t.before, j.extend
              ((past.flatMap (·.events)).map Event.taken ++ calls ++ [Event.applied.taken])
              (past.flatMap (·.notes) ++ ns)) := by
  obtain ⟨ts, last, hlead, hall, htargets, hrun⟩ := visitAll_turns o d cs command
    (Catalog.ids_nodup cat) cat (fun _ _ => rfl) (fun _ => Catalog.lt_length_of_mem_ids)
  refine ⟨ts, last, hlead, hall, htargets.trans (targetIds_eq d cs cat).symm, fun l hl j => ?_⟩
  have htell (j : Journal) : j.tell l .applied = .ok (j.add [.applied] []) :=
    Journal.tell_of_takes (hl .applied nofun) j
  rw [apply, hcommand]
  rcases hrun l hl j with hend | ⟨past, t, rest, calls, ns, hts, hbreaks, hcut⟩
  · refine .inl ?_
    simp only [hcs, hend, bind, Except.bind, htell, Journal.add_add, List.append_nil]
    rfl
  · refine .inr ⟨past, t, rest, calls, ns, hts, hbreaks, ?_⟩
    simp only [hcs, hcut, bind, Except.bind, htell, Journal.add, Journal.extend_extend,
      List.append_nil]
    rfl

/-- Under a listener that never fails the application of a directive is a sequence of turns,
one for each target of the catalog it begins with, in order. -/
theorem apply_turns (hl : l.NeverFails) (hcommand : d.command = some command)
    (hcs : d.constraints = .ok cs) (cat : Catalog) (j : Journal) :
    ∃ ts last, Turn.Lead cat ts last ∧ (∀ t ∈ ts, t.Ends o d cs command) ∧
      ts.map (·.target) = d.targetIds cs cat ∧
      d.apply l o cat j =
        .ok (last, j.add (ts.flatMap (·.events) ++ [.applied]) (ts.flatMap (·.notes))) := by
  obtain ⟨ts, last, hlead, hall, htargets, hrun⟩ := apply_turns_or_breaks o hcommand hcs cat
  refine ⟨ts, last, hlead, hall, htargets, ?_⟩
  rcases hrun l (hl.failsOnlyOn _) j with hend | ⟨_, _, _, _, _, _, hbreaks, _⟩
  · exact hend
  · exact absurd hl hbreaks.not_neverFails

/-- A directive whose constraints cannot be read does nothing and reports that. -/
theorem apply_badConstraints (hl : l.FailsOnlyOn Event.isAnnouncement)
    (hcommand : d.command = some command) {e : PatchError} (he : d.constraints = .error e)
    (cat : Catalog) (j : Journal) :
    d.apply l o cat j = .ok (cat, j.add [.error d.ref (.badConstraints e), .applied] []) := by
  have htell (j : Journal) (event : Event) (h : ¬event.isAnnouncement) :
      j.tell l event = .ok (j.add [event] []) := Journal.tell_of_takes (hl event h) j
  rw [apply, hcommand]
  simp only [he]
  rw [htell j (.error d.ref (.badConstraints e)) nofun]
  simp only [Except.map, bind, Except.bind]
  rw [htell _ .applied nofun, Journal.add_add]
  rfl

theorem apply_of_badConstraints (hl : l.NeverFails) (hcommand : d.command = some command)
    {e : PatchError} (he : d.constraints = .error e) (cat : Catalog) (j : Journal) :
    d.apply l o cat j = .ok (cat, j.add [.error d.ref (.badConstraints e), .applied] []) :=
  apply_badConstraints (hl.failsOnlyOn _) hcommand he cat j

/-! ## Each target is committed or fails -/

/-- Turns that are committed tell no error, and turns that fail tell one. -/
theorem length_eq_commits_add_errors {ts : List Turn} (h : ∀ t ∈ ts, t.Ends o d cs command) :
    ts.length = ts.countP (fun t => t.errors d.ref = 0) +
      (ts.flatMap (·.events)).countP (Event.isErrorOf d.ref) := by
  induction ts with
  | nil => rfl
  | cons t ts ih =>
    have hrest := ih fun t' ht' => h t' (List.mem_cons_of_mem _ ht')
    have hevents : t.events.countP (Event.isErrorOf d.ref) = t.errors d.ref := rfl
    rw [List.length_cons, hrest, List.countP_cons, List.flatMap_cons, List.countP_append, hevents]
    rcases h t (List.mem_cons_self ..) with hcommit | hfail
    · rw [hcommit.errors_eq_zero]
      simp only [decide_true, if_true]
      omega
    · rw [hfail.errors_eq_one]
      simp only [Nat.one_ne_zero, decide_false, Bool.false_eq_true, if_false]
      omega

/-- A target is either committed or left as it is and reported, and the ones behind it have
their turns in any case. A directive whose constraints cannot be read does nothing and reports
that; either way it tells that it has been applied, once and last. -/
theorem apply_atomic (hl : l.NeverFails) (hcommand : d.command = some command) (cat : Catalog)
    (j : Journal) :
    (∀ e, d.constraints = .error e → d.apply l o cat j =
      .ok (cat, j.add [.error d.ref (.badConstraints e), .applied] [])) ∧
    ∀ cs, d.constraints = .ok cs → ∃ ts last es ns,
      d.apply l o cat j = .ok (last, j.add (es ++ [.applied]) ns) ∧
      ts.map (·.target) = d.targetIds cs cat ∧ Turn.Lead cat ts last ∧
      es = ts.flatMap (·.events) ∧ .applied ∉ es ∧
      (∀ t ∈ ts, (t.errors d.ref = 0 ∧ t.Commits o d cs command) ∨
        (t.errors d.ref = 1 ∧ t.Fails o d cs command ∧ t.after = t.before)) ∧
      (d.targetIds cs cat).length =
        ts.countP (fun t => t.errors d.ref = 0) + es.countP (Event.isErrorOf d.ref) := by
  constructor
  · exact fun e he => apply_of_badConstraints hl hcommand he cat j
  · intro cs hcs
    obtain ⟨ts, last, hlead, hall, htargets, hrun⟩ := apply_turns (o := o) hl hcommand hcs cat j
    refine ⟨ts, last, _, _, hrun, htargets, hlead, rfl, ?_, ?_, ?_⟩
    · exact fun happlied => (Turn.no_bookkeeping hall _ happlied).2 rfl
    · intro t ht
      rcases hall t ht with hcommit | hfail
      · exact .inl ⟨hcommit.errors_eq_zero, hcommit⟩
      · exact .inr ⟨hfail.errors_eq_one, hfail, hfail.after_eq⟩
    · rw [← htargets, List.length_map, length_eq_commits_add_errors hall]

end Directive

/-- Two parts, and a tank between them. -/
def twoParts : Catalog :=
  .ofEntries ["a.cfg".toList] [
    ⟨0, "PART".toList, none, [⟨"name".toList, "x".toList⟩], []⟩,
    ⟨0, "TANK".toList, none, [], []⟩,
    ⟨0, "PART".toList, none, [⟨"name".toList, "y".toList⟩], []⟩]

/-- A directive about all parts, or those that satisfy some constraints, with a body that sets
their names. -/
def aboutParts (symbol : Char) (constraints : Option Text) : Directive where
  command := Command.ofSymbol? symbol
  header := ⟨"PART".toList, none, constraints, none⟩
  node := ⟨symbol :: "PART".toList, none, [⟨"@name".toList, "z".toList⟩], []⟩
  file := 0
  source := none
  url := "a/".toList ++ symbol :: "PART".toList

/-- Two parts with a size; the second one is no number. -/
def sizedParts : Catalog :=
  .ofEntries ["a.cfg".toList] [
    ⟨0, "PART".toList, none, [⟨"size".toList, ['2']⟩], []⟩,
    ⟨0, "PART".toList, none, [⟨"size".toList, "big".toList⟩], []⟩]

/-- A directive that doubles the size of all parts. -/
def doubling : Directive :=
  { aboutParts '@' none with node := ⟨"@PART".toList, none, [⟨"@size *".toList, ['2']⟩], []⟩ }

/-- Both parts have their turns, and a directive with unreadable constraints gives none. Of two sizes
the one is doubled, and the other, which is no number, is left as it is and reported. -/
theorem apply_atomic_twoParts :
    Listener.calm.NeverFails ∧
    (∃ ts last es ns,
      (aboutParts '@' none).apply .calm {} twoParts .empty =
        .ok (last, Journal.empty.add (es ++ [.applied]) ns) ∧
      ts.map (·.target) = [0, 2] ∧ Turn.Lead twoParts ts last ∧
      2 = ts.countP (fun t => t.errors (aboutParts '@' none).ref = 0) +
        es.countP (Event.isErrorOf (aboutParts '@' none).ref)) ∧
    (∃ t₁ t₂ last ns,
      doubling.apply .calm {} sizedParts .empty =
        .ok (last, Journal.empty.add (t₁.events ++ t₂.events ++ [.applied]) ns) ∧
      Turn.Lead sizedParts [t₁, t₂] last ∧ t₁.target = 0 ∧ t₂.target = 1 ∧
      (t₁.errors doubling.ref = 0 ∧ t₁.Commits {} doubling [] .edit) ∧
      (t₂.errors doubling.ref = 1 ∧ t₂.Fails {} doubling [] .edit ∧ t₂.after = t₂.before) ∧
      (last.get? 0).map (·.node.fields) = some [⟨"size".toList, ['4']⟩] ∧
      (last.get? 1).map (·.node.fields) = some [⟨"size".toList, "big".toList⟩]) ∧
    (aboutParts '@' (some ['#'])).apply .calm {} twoParts .empty =
      .ok (twoParts, Journal.empty.add [.error (aboutParts '@' (some ['#'])).ref
        (.badConstraints (.invalidConstraint ['#'] .missingKey)), .applied] []) := by
  have hread : (aboutParts '@' (some ['#'])).constraints =
      .error (.invalidConstraint ['#'] .missingKey) := by cbv
  have htargets : (aboutParts '@' none).targetIds [] twoParts = [0, 2] := by decide +kernel
  obtain ⟨ts, last, es, ns, hrun, hids, hlead, _, _, _, hcount⟩ :=
    (Directive.apply_atomic (d := aboutParts '@' none) Listener.calm_neverFails rfl twoParts
      .empty).2 [] rfl
  rw [htargets] at hids hcount
  refine ⟨Listener.calm_neverFails, ⟨ts, last, es, ns, hrun, hids, hlead, hcount⟩, ?_,
    (Directive.apply_atomic (d := aboutParts '@' (some ['#'])) Listener.calm_neverFails rfl
      twoParts .empty).1 _ hread⟩
  have htargets : doubling.targetIds [] sizedParts = [0, 1] := by decide +kernel
  have hresult : (doubling.apply .calm {} sizedParts .empty).toOption.map (fun s =>
      ((s.1.get? 0).map (·.node.fields), (s.1.get? 1).map (·.node.fields),
        s.2.events.countP (Event.isErrorOf doubling.ref))) =
      some (some [⟨"size".toList, ['4']⟩], some [⟨"size".toList, "big".toList⟩], 1) := by
    decide +kernel
  obtain ⟨ts, last, es, ns, hrun, hids, hlead, rfl, _, hends, _⟩ :=
    (Directive.apply_atomic (o := {}) (d := doubling) Listener.calm_neverFails rfl sizedParts
      .empty).2 [] rfl
  rw [htargets] at hids
  obtain ⟨t₁, t₂, rfl, hfirst, hsecond⟩ :
      ∃ t₁ t₂, ts = [t₁, t₂] ∧ t₁.target = 0 ∧ t₂.target = 1 := by
    simpa [List.map_eq_cons_iff] using hids
  simp only [hrun, Except.toOption, Option.map_some, Option.some.injEq, Prod.mk.injEq] at hresult
  obtain ⟨hdoubled, hbig, herrors⟩ := hresult
  have hsum : t₁.errors doubling.ref + t₂.errors doubling.ref = 1 := by
    have happlied : Event.applied.isErrorOf doubling.ref = false := rfl
    have hempty : Journal.empty.events = [] := rfl
    simpa [Journal.events_add, hempty, happlied, Turn.errors] using herrors
  have hcommits : t₁.Commits {} doubling [] .edit := by
    refine hlead.commits_of_get?_ne (fun t ht => (hends t ht).imp And.right (·.2.1)) ?_ ?_ ?_
    · rw [hfirst]
      decide +kernel
    · simp [hfirst, hsecond]
    · intro hsame
      rw [hfirst] at hsame
      rw [hsame] at hdoubled
      exact absurd hdoubled (by decide +kernel)
  have hnone := hcommits.errors_eq_zero
  have hfails := (hends t₂ (by simp)).resolve_left fun hother => absurd hother.1 (by omega)
  refine ⟨t₁, t₂, last, ns, ?_, hlead, hfirst, hsecond, ⟨hnone, hcommits⟩, hfails, hdoubled, hbig⟩
  rw [hrun, List.flatMap_cons, List.flatMap_singleton]

end CfgPatch
