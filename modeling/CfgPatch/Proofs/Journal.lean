import CfgPatch.Report

/-!
# Stretches of a journal

A run does nothing to the journal but append: the journal behind a stretch of the run is the
one in front of it with some calls and some notes added (`Journal.extend`). As long as the
listener takes every event, the calls are as good as the events (`Journal.add`), and the
stretch is described by what it adds, whatever the journal held before.
-/

namespace CfgPatch

/-! ## Listeners -/

namespace Listener

/-- The listener takes the event, whatever it was told before. -/
def Takes (l : Listener) (e : Event) : Prop := ∀ past, l.refusal past e = none

/-- The listener takes every event. -/
def NeverFails (l : Listener) : Prop := ∀ e, l.Takes e

theorem calm_neverFails : calm.NeverFails := fun _ _ => rfl

/-- The listener takes every event that is not of the given kind. -/
def FailsOnlyOn (l : Listener) (kind : Event → Bool) : Prop := ∀ e, ¬kind e → l.Takes e

theorem NeverFails.failsOnlyOn {l : Listener} (h : l.NeverFails) (kind : Event → Bool) :
    l.FailsOnlyOn kind := fun e _ => h e

theorem failingAt_failsOnlyOn (kind : Event → Bool) (nth : Nat) (reason : Text) :
    (failingAt kind nth reason).FailsOnlyOn kind := by
  intro e he past
  simp [failingAt, he]

end Listener

/-! ## Calls -/

/-- The call by which the listener takes an event. -/
def Event.taken (e : Event) : Call := ⟨e, true⟩

/-- The call on which the listener fails instead of taking an event. -/
def Event.refused (e : Event) : Call := ⟨e, false⟩

/-- The events that are taken in some calls. -/
def told (cs : List Call) : List Event := (cs.filter (·.taken)).map (·.event)

/-- The number of calls on which the listener fails. -/
def refusalCount (cs : List Call) : Nat := cs.countP (!·.taken)

@[simp] theorem told_append (cs cs' : List Call) : told (cs ++ cs') = told cs ++ told cs' := by
  rw [told, List.filter_append, List.map_append]
  rfl

@[simp] theorem told_map_taken (es : List Event) : told (es.map Event.taken) = es := by
  have htaken : es.filter ((·.taken) ∘ Event.taken) = es := List.filter_eq_self.2 fun _ _ => rfl
  rw [told, List.filter_map, htaken, List.map_map]
  exact List.map_id es

@[simp] theorem refusalCount_append (cs cs' : List Call) :
    refusalCount (cs ++ cs') = refusalCount cs + refusalCount cs' := List.countP_append

@[simp] theorem refusalCount_map_taken (es : List Event) :
    refusalCount (es.map Event.taken) = 0 := by
  rw [refusalCount, List.countP_map]
  exact List.countP_eq_zero.2 fun _ _ => Bool.false_ne_true

/-! ## Adding events and notes -/

namespace Journal

/-- The journal after some calls and notes. -/
def extend (j : Journal) (cs : List Call) (ns : List Note) : Journal where
  calls := cs.reverse ++ j.calls
  trace := ns.reverse ++ j.trace

@[simp] theorem extend_extend (j : Journal) (cs cs' : List Call) (ns ns' : List Note) :
    (j.extend cs ns).extend cs' ns' = j.extend (cs ++ cs') (ns ++ ns') := by
  simp [extend]

@[simp] theorem events_extend (j : Journal) (cs : List Call) (ns : List Note) :
    (j.extend cs ns).events = j.events ++ told cs := by
  rw [events, extend, List.filter_append, List.map_append, List.reverse_append,
    List.filter_reverse, List.map_reverse, List.reverse_reverse]
  rfl

@[simp] theorem notes_extend (j : Journal) (cs : List Call) (ns : List Note) :
    (j.extend cs ns).notes = j.notes ++ ns := by
  simp [notes, extend]

/-- The journal after events that the listener took, and notes. -/
def add (j : Journal) (es : List Event) (ns : List Note) : Journal :=
  j.extend (es.map Event.taken) ns

@[simp] theorem add_nil (j : Journal) : j.add [] [] = j := rfl

@[simp] theorem add_add (j : Journal) (es es' : List Event) (ns ns' : List Note) :
    (j.add es ns).add es' ns' = j.add (es ++ es') (ns ++ ns') := by
  simp [add]

theorem note_eq_add (j : Journal) (n : Note) : j.note n = j.add [] [n] := rfl

@[simp] theorem events_add (j : Journal) (es : List Event) (ns : List Note) :
    (j.add es ns).events = j.events ++ es := by
  rw [add, events_extend, told_map_taken]

@[simp] theorem notes_add (j : Journal) (es : List Event) (ns : List Note) :
    (j.add es ns).notes = j.notes ++ ns := notes_extend ..

/-! ## Telling -/

theorem tell_of_takes {l : Listener} {e : Event} (h : l.Takes e) (j : Journal) :
    j.tell l e = .ok (j.add [e] []) := by
  rw [tell, h j.calls]
  rfl

/-- The listener takes an event, or it fails and the journal keeps the call. -/
theorem tell_cases (l : Listener) (j : Journal) (e : Event) :
    j.tell l e = .ok (j.add [e] []) ∨
      ¬l.Takes e ∧ ∃ reason, j.tell l e = .error ⟨reason, j.extend [e.refused] []⟩ := by
  rw [tell]
  cases hrefusal : l.refusal j.calls e with
  | none => exact .inl rfl
  | some reason =>
    refine .inr ⟨fun htakes => ?_, reason, rfl⟩
    rw [htakes j.calls] at hrefusal
    exact absurd hrefusal (by simp)

/-- What comes of a journal once an event has been told comes of it, or the listener fails. -/
theorem tell_map_cases {α : Type} (l : Listener) (j : Journal) (e : Event) (f : Journal → α) :
    (j.tell l e).map f = .ok (f (j.add [e] [])) ∨
      ¬l.Takes e ∧ ∃ reason, (j.tell l e).map f = .error ⟨reason, j.extend [e.refused] []⟩ := by
  rcases tell_cases l j e with htell | ⟨hrefuses, reason, htell⟩
  · refine .inl ?_
    rw [htell]
    rfl
  · refine .inr ⟨hrefuses, reason, ?_⟩
    rw [htell]
    rfl

/-- The listener takes some events one after another, or it fails on one of them and hears no
more. -/
theorem tellAll_cases (l : Listener) (es : List Event) (j : Journal) :
    j.tellAll l es = .ok (j.add es []) ∨
      ∃ past e rest reason, es = past ++ e :: rest ∧ ¬l.Takes e ∧
        j.tellAll l es = .error ⟨reason, j.extend (past.map Event.taken ++ [e.refused]) []⟩ := by
  induction es generalizing j with
  | nil => exact .inl rfl
  | cons e es ih =>
    have hrun : j.tellAll l (e :: es) = (j.tell l e).bind fun j' => j'.tellAll l es := rfl
    rw [hrun]
    rcases tell_cases l j e with htell | ⟨hrefuses, reason, htell⟩
    · rw [htell, Except.bind]
      rcases ih (j.add [e] []) with hall | ⟨past, e', rest, reason, rfl, hrefuses, hfails⟩
      · refine .inl ?_
        rw [hall, add_add]
        rfl
      · refine .inr ⟨e :: past, e', rest, reason, rfl, hrefuses, ?_⟩
        rw [hfails, add, extend_extend]
        rfl
    · rw [htell]
      exact .inr ⟨[], e, es, reason, rfl, hrefuses, rfl⟩

end Journal

/-! ## Counting events -/

@[simp] theorem addedCount_append (es es' : List Event) :
    addedCount (es ++ es') = addedCount es + addedCount es' := List.countP_append

@[simp] theorem appliedCount_append (es es' : List Event) :
    appliedCount (es ++ es') = appliedCount es + appliedCount es' := List.countP_append

/-- The number of times that a listener is told that it failed. -/
def exceptionCount (es : List Event) : Nat := es.countP Event.isException

@[simp] theorem exceptionCount_append (es es' : List Event) :
    exceptionCount (es ++ es') = exceptionCount es + exceptionCount es' := List.countP_append

theorem addedCount_eq_zero {es : List Event} (h : ∀ e ∈ es, e ≠ .added) : addedCount es = 0 :=
  List.countP_eq_zero.2 fun e he => by simpa using h e he

theorem appliedCount_eq_zero {es : List Event} (h : ∀ e ∈ es, e ≠ .applied) :
    appliedCount es = 0 :=
  List.countP_eq_zero.2 fun e he => by simpa using h e he

/-! ## Events and entries -/

/-- The number of the entry that an event reports something about: that it cannot be used
as it is, or that a listener failed over it. -/
def Event.complaint? : Event → Option EntryId
  | .missingMod entry _ | .error entry _ | .exception entry _ _ => entry.id
  | _ => none

end CfgPatch
