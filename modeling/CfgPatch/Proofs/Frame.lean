import CfgPatch.Proofs.Turns

/-!
# What a directive leaves alone

The catalog after a directive is compared with the one before it: an edit changes nodes of
targets and nothing else, a copy appends copies of targets behind all that was there, and a
deletion removes exactly the targets (`Directive.Frame`). The files are never touched.
-/

namespace CfgPatch

namespace Turn

variable {o : Options} {d : Directive} {cs : Constraints} {command : Command}
  {a b : Catalog} {ts : List Turn}

theorem Lead.files_eq (h : Lead a ts b) (hall : ∀ t ∈ ts, t.Ends o d cs command) :
    b.files = a.files := by
  induction ts generalizing a with
  | nil =>
    obtain rfl : a = b := h
    rfl
  | cons t ts ih =>
    obtain ⟨rfl, h⟩ := h
    rw [ih h fun t' ht' => hall t' (List.mem_cons_of_mem _ ht'),
      (hall t (List.mem_cons_self ..)).files_after]

/-! ## Edits -/

/-- An edit replaces the node of its target or does nothing. -/
theorem Ends.of_edit {t : Turn} (h : t.Ends o d cs .edit) :
    (∃ node, t.after = t.before.setNode t.target node) ∨ t.after = t.before := by
  rcases h with h | h
  · cases h with
    | edit => exact .inl ⟨_, rfl⟩
  · exact .inr h.after_eq

/-- Edits leave every entry in its file, and entries that are no targets as they are. -/
theorem Lead.of_edits (h : Lead a ts b) (hall : ∀ t ∈ ts, t.Ends o d cs .edit) :
    b.slots.length = a.slots.length ∧
      (∀ id, (b.get? id).map (·.file) = (a.get? id).map (·.file)) ∧
      ∀ id ∉ ts.map (·.target), b.get? id = a.get? id := by
  induction ts generalizing a with
  | nil =>
    obtain rfl : a = b := h
    exact ⟨rfl, fun _ => rfl, fun _ _ => rfl⟩
  | cons t ts ih =>
    obtain ⟨rfl, h⟩ := h
    obtain ⟨hlen, hfile, hget⟩ := ih h fun t' ht' => hall t' (List.mem_cons_of_mem _ ht')
    rcases Ends.of_edit (hall t (List.mem_cons_self ..)) with ⟨node, hafter⟩ | hafter
    · rw [hafter] at hlen hfile hget
      refine ⟨by rw [hlen, Catalog.length_slots_setNode], fun id => ?_, fun id hid => ?_⟩
      · rw [hfile, Catalog.get?_setNode]
        split
        · rw [Option.map_map]
          rfl
        · rfl
      · rw [List.map_cons, List.mem_cons, not_or] at hid
        rw [hget id hid.2, Catalog.get?_setNode, if_neg hid.1]
    · -- a turn that failed
      rw [hafter] at hlen hfile hget
      exact ⟨hlen, hfile, fun id hid => hget id (fun hmem => hid (List.mem_cons_of_mem _ hmem))⟩

/-! ## Copies -/

/-- A copying turn appends a copy that goes by another name than its original, or does
nothing. -/
theorem Ends.of_copy {t : Turn} (h : t.Ends o d cs .copy) :
    (∃ entry duplicate, t.before.get? t.target = some entry ∧
      duplicate.label? ≠ entry.node.label? ∧ t.after = t.before.addEntry ⟨d.file, duplicate⟩) ∨
    t.after = t.before := by
  rcases h with h | h
  · cases h with
    | copy there _ renamed => exact .inl ⟨_, _, there, renamed, rfl⟩
  · exact .inr h.after_eq

/-- Copies are appended, at most one for each target, in the order of the targets. -/
theorem Lead.of_copies (h : Lead a ts b) (hall : ∀ t ∈ ts, t.Ends o d cs .copy)
    (hlt : ∀ t ∈ ts, t.target < a.slots.length) :
    ∃ copies : List (EntryId × Node), (copies.map (·.1)).Sublist (ts.map (·.target)) ∧
      (∀ c ∈ copies, ∃ entry, a.get? c.1 = some entry ∧ c.2.label? ≠ entry.node.label?) ∧
      b.entries = a.entries ++
        (copies.zipIdx a.slots.length).map fun p => (p.2, ⟨d.file, p.1.2⟩) := by
  induction ts generalizing a with
  | nil =>
    obtain rfl : a = b := h
    exact ⟨[], List.Sublist.slnil, by simp, by simp⟩
  | cons t ts ih =>
    obtain ⟨rfl, h⟩ := h
    have hrest : ∀ t' ∈ ts, t'.Ends o d cs .copy := fun t' ht' =>
      hall t' (List.mem_cons_of_mem _ ht')
    have hlt' : ∀ t' ∈ ts, t'.target < t.before.slots.length := fun t' ht' =>
      hlt t' (List.mem_cons_of_mem _ ht')
    have hends := hall t (List.mem_cons_self ..)
    obtain ⟨copies, hsub, hnames, hentries⟩ := ih h hrest fun t' ht' =>
      Nat.lt_of_lt_of_le (hlt' t' ht') hends.length_slots_le
    rcases Ends.of_copy hends with ⟨entry, duplicate, hget, hname, hafter⟩ | hafter
    · refine ⟨(t.target, duplicate) :: copies, hsub.cons_cons _, ?_, ?_⟩
      · rintro c (_ | ⟨_, hc⟩)
        · exact ⟨entry, hget, hname⟩
        · -- what a copy is made of stood there before the turn
          obtain ⟨t', ht', hid⟩ := List.mem_map.1 (hsub.subset (List.mem_map_of_mem hc))
          obtain ⟨original, horiginal, hne⟩ := hnames c hc
          rw [hafter, Catalog.get?_addEntry, ← hid, if_neg (Nat.ne_of_lt (hlt' t' ht')),
            hid] at horiginal
          exact ⟨original, horiginal, hne⟩
      · rw [hentries, hafter, Catalog.entries_addEntry, Catalog.length_slots_addEntry,
          List.zipIdx_cons, List.append_assoc]
        rfl
    · -- a turn that failed
      rw [hafter] at hnames hentries
      exact ⟨copies, hsub.cons _, hnames, hentries⟩

/-! ## Deletions -/

theorem Ends.of_delete {t : Turn} (h : t.Ends o d cs .delete) :
    t.after = t.before.remove t.target := by
  rcases h with h | h
  · cases h
    rfl
  · cases h

/-- Deletions remove every target. -/
theorem Lead.of_deletions (h : Lead a ts b) (hall : ∀ t ∈ ts, t.Ends o d cs .delete) :
    b = a.removeAll (ts.map (·.target)) := by
  induction ts generalizing a with
  | nil => exact h.symm
  | cons t ts ih =>
    obtain ⟨rfl, h⟩ := h
    rw [ih h fun t' ht' => hall t' (List.mem_cons_of_mem _ ht'),
      Ends.of_delete (hall t (List.mem_cons_self ..)), List.map_cons, Catalog.removeAll_cons]

end Turn

namespace Directive

/-! ## The whole directive -/

/-- What a directive with the given command may do to a catalog `a` that becomes `b`. -/
def Frame (d : Directive) (cs : Constraints) (a b : Catalog) : Command → Prop
  /- The entries that are there and their files stay, and so does whatever is no target. -/
  | .edit => b.entries.map (fun p => (p.1, p.2.file)) = a.entries.map (fun p => (p.1, p.2.file)) ∧
      ∀ id ∉ d.targetIds cs a, b.get? id = a.get? id
  /- All entries stay as they are, and copies of targets, which have other names than these,
  follow behind them in the file of the directive. Their numbers are those of no targets. -/
  | .copy => ∃ copies : List (EntryId × Node),
      (copies.map (·.1)).Sublist (d.targetIds cs a) ∧
      (∀ c ∈ copies, ∃ entry, a.get? c.1 = some entry ∧ c.2.label? ≠ entry.node.label?) ∧
      b.entries = a.entries ++
        (copies.zipIdx a.slots.length).map (fun p => (p.2, ⟨d.file, p.1.2⟩)) ∧
      ∀ id ∈ d.targetIds cs a, id < a.slots.length
  /- The targets are gone, and the other entries stay as they are. -/
  | .delete => b.ids = a.ids.filter (· ∉ d.targetIds cs a) ∧
      b.entries = a.entries.filter fun p => p.1 ∉ d.targetIds cs a

variable {l : Listener} {o : Options} {d : Directive} {cs : Constraints} {command : Command}
  {a b : Catalog} {ts : List Turn}

theorem frame_of_turns (hlead : Turn.Lead a ts b) (hall : ∀ t ∈ ts, t.Ends o d cs command)
    (htargets : ts.map (·.target) = d.targetIds cs a) : d.Frame cs a b command := by
  have hlt : ∀ id ∈ d.targetIds cs a, id < a.slots.length := by
    intro id hid
    rw [targetIds_eq] at hid
    exact Catalog.lt_length_of_mem_ids (List.mem_filter.1 hid).1
  cases command with
  | edit =>
    obtain ⟨hlen, hfile, hget⟩ := hlead.of_edits hall
    rw [Frame, ← htargets]
    refine ⟨?_, hget⟩
    rw [Catalog.entries_eq, Catalog.entries_eq, List.map_filterMap, List.map_filterMap, hlen]
    congr 1
    funext id
    have hmap : ∀ found : Option Entry, (found.map (id, ·)).map (fun p => (p.1, p.2.file)) =
        (found.map (·.file)).map (id, ·) := fun found => by
      rw [Option.map_map, Option.map_map]
      rfl
    rw [hmap, hmap, hfile]
  | copy =>
    obtain ⟨copies, hsub, hnames, hentries⟩ := hlead.of_copies hall fun t ht =>
      hlt t.target (htargets ▸ List.mem_map_of_mem ht)
    exact ⟨copies, htargets ▸ hsub, hnames, hentries, hlt⟩
  | delete =>
    rw [Frame, hlead.of_deletions hall, htargets]
    exact ⟨Catalog.ids_removeAll .., Catalog.entries_removeAll ..⟩

/-- A directive visits the targets of the catalog it begins with, each once and in order, and
what it may do to the catalog is bounded by its command. -/
theorem apply_frame (hl : l.NeverFails) (hcommand : d.command = some command)
    (hcs : d.constraints = .ok cs) (cat : Catalog) (j : Journal) :
    ∃ ts last, d.apply l o cat j =
        .ok (last, j.add (ts.flatMap (·.events) ++ [.applied]) (ts.flatMap (·.notes))) ∧
      Turn.Lead cat ts last ∧ (∀ t ∈ ts, t.Ends o d cs command) ∧
      ts.map (·.target) = d.targetIds cs cat ∧ (d.targetIds cs cat).Nodup ∧
      last.files = cat.files ∧ d.Frame cs cat last command := by
  obtain ⟨ts, last, hlead, hall, htargets, hrun⟩ := apply_turns (o := o) hl hcommand hcs cat j
  refine ⟨ts, last, hrun, hlead, hall, htargets, ?_, hlead.files_eq hall,
    frame_of_turns hlead hall htargets⟩
  rw [targetIds_eq]
  exact (Catalog.ids_nodup cat).filter _

end Directive

/-- Deleting parts leaves the tank. -/
theorem apply_frame_twoParts :
    Listener.calm.NeverFails ∧ (aboutParts '-' none).command = some .delete ∧
    (aboutParts '-' none).constraints = .ok [] ∧
    ∃ (ts : List Turn) (last : Catalog) (es : List Event),
      (aboutParts '-' none).apply .calm {} twoParts .empty =
        .ok (last, Journal.empty.add (es ++ [.applied]) (ts.flatMap (·.notes))) ∧
      ts.map (·.target) = [0, 2] ∧
      last.entries = [(1, ⟨0, "TANK".toList, none, [], []⟩)] := by
  have hread : (aboutParts '-' none).constraints = .ok [] := rfl
  have htargets : (aboutParts '-' none).targetIds [] twoParts = [0, 2] := by decide +kernel
  obtain ⟨ts, last, hrun, _, _, hids, _, _, hframe⟩ :=
    Directive.apply_frame Listener.calm_neverFails rfl hread twoParts .empty
  rw [htargets] at hids
  refine ⟨Listener.calm_neverFails, rfl, hread, ts, last, _, hrun, hids, ?_⟩
  rw [Directive.Frame, htargets] at hframe
  rw [hframe.2]
  decide +kernel

end CfgPatch
