import CfgPatch.Proofs.Arena

/-!
# Histories of an arena

What those who hold numbers of entries and files may rely on, whatever else has been done to an
arena and will be (`Arena.Orderly`). Two facts about a single operation carry all of it: the
arena stays sound, so that the counter and the stored numbers agree with the slots
(`Operation.sound_perform`), and it only grows, so that a slot once emptied stays empty and a
file keeps its number (`Operation.grows_perform`).

There are no other sound arenas than those with a history (`sound_iff_exists_after`), so what is
proved of every catalog is proved of those that can come about, and of no others.
-/

namespace CfgPatch.Arena

/-! ## Operations -/

/-- Something that can be done to an arena. -/
inductive Operation where
  | addFile (path : Text)
  | addEntry (entry : Entry)
  | load (path source : Text)
  | remove (id : EntryId)
  | setNode (id : EntryId) (node : Node)

namespace Operation

/-- The arena after an operation. -/
def perform (a : Arena) : Operation → Arena
  | addFile path => (a.addFile path).2
  | addEntry entry => (a.addEntry entry).2
  | load path source => (a.load path source).2
  | remove id => (a.remove id).2
  | setNode id node => a.setNode id node

/-- The numbers that an operation gives out, in order. -/
def numbers (a : Arena) : Operation → List EntryId
  | addEntry entry => [(a.addEntry entry).1]
  | load path source =>
    match Cfg.parse source with
    | .error _ => []
    | .ok document =>
      let (file, a) := a.addFile path
      (a.addNodes file document.children).1
  | _ => []

/-- The number that an operation is given. -/
def subject? : Operation → Option EntryId
  | remove id | setNode id _ => some id
  | _ => none

end Operation

/-- An arena after a history, which begins with the empty one. -/
def after (ops : List Operation) : Arena := ops.foldl Operation.perform .empty

/-- The numbers that are given out along a list of operations, in order. -/
def numbersFrom (a : Arena) : List Operation → List EntryId
  | [] => []
  | op :: ops => op.numbers a ++ numbersFrom (op.perform a) ops

/-- The numbers that have been given out in a history. -/
def issued (ops : List Operation) : List EntryId := numbersFrom .empty ops

theorem after_append (ops later : List Operation) :
    after (ops ++ later) = later.foldl Operation.perform (after ops) :=
  List.foldl_append

/-! ## Numbers are given out in order -/

theorem addNodes_numbers (a : Arena) (file : FileId) (nodes : List Node) :
    (a.addNodes file nodes).1 = List.range' a.slots.length nodes.length ∧
      (a.addNodes file nodes).2.slots.length = a.slots.length + nodes.length := by
  induction nodes generalizing a with
  | nil => exact ⟨rfl, rfl⟩
  | cons node nodes ih =>
    obtain ⟨hids, hlen⟩ := ih (a.addEntry ⟨file, node⟩).2
    rw [length_slots_addEntry] at hids hlen
    constructor
    · rw [List.length_cons, List.range'_succ, ← hids]
      rfl
    · rw [List.length_cons, Nat.add_comm nodes.length, ← Nat.add_assoc]
      exact hlen

/-- An operation gives out the next numbers, one for each slot that it adds. -/
theorem Operation.numbers_eq (a : Arena) (op : Operation) :
    ∃ n, op.numbers a = List.range' a.slots.length n ∧
      (op.perform a).slots.length = a.slots.length + n := by
  cases op with
  | addFile path => exact ⟨0, rfl, length_slots_addFile a path⟩
  | addEntry entry => exact ⟨1, rfl, length_slots_addEntry a entry⟩
  | load path source =>
    cases hparse : Cfg.parse source with
    | error e => exact ⟨0, by simp [numbers, hparse], by simp [perform, Arena.load, hparse]⟩
    | ok document =>
      have hadded := (a.addFile path).2.addNodes_numbers (a.addFile path).1 document.children
      rw [length_slots_addFile] at hadded
      refine ⟨document.children.length, ?_, ?_⟩
      · simp only [numbers, hparse]
        exact hadded.1
      · rw [perform, load_eq hparse]
        exact hadded.2
  | remove id => exact ⟨0, rfl, length_slots_remove a id⟩
  | setNode id node => exact ⟨0, rfl, length_slots_setNode a id node⟩

theorem numbersFrom_eq (a : Arena) (ops : List Operation) :
    ∃ n, numbersFrom a ops = List.range' a.slots.length n ∧
      (ops.foldl Operation.perform a).slots.length = a.slots.length + n := by
  induction ops generalizing a with
  | nil => exact ⟨0, rfl, rfl⟩
  | cons op ops ih =>
    obtain ⟨n, hids, hlen⟩ := op.numbers_eq a
    obtain ⟨m, hrest, hend⟩ := ih (op.perform a)
    refine ⟨n + m, ?_, ?_⟩
    · rw [numbersFrom, hids, hrest, hlen, List.range'_append_1]
    · rw [List.foldl_cons, hend, hlen, Nat.add_assoc]

/-- The numbers given out are 0, 1, 2 and so on, one for each slot. -/
theorem issued_eq (ops : List Operation) :
    issued ops = List.range (after ops).slots.length := by
  obtain ⟨n, hids, hlen⟩ := numbersFrom_eq .empty ops
  rw [issued, hids, after, hlen, List.range_eq_range']
  simp [Arena.empty]

theorem mem_issued {ops : List Operation} {id : EntryId} :
    id ∈ issued ops ↔ id < (after ops).slots.length := by
  rw [issued_eq, List.mem_range]

/-! ## Other entries are left alone -/

/-- Nodes that are appended leave the slots in front of them alone. -/
theorem get?_addNodes (a : Arena) (file : FileId) (nodes : List Node) {k : EntryId}
    (h : k ∉ (a.addNodes file nodes).1) : (a.addNodes file nodes).2.get? k = a.get? k := by
  induction nodes generalizing a with
  | nil => rfl
  | cons node nodes ih =>
    obtain ⟨hne, hrest⟩ := not_or.1 fun hmem => h (List.mem_cons.2 hmem)
    exact (ih (a.addEntry ⟨file, node⟩).2 hrest).trans ((get?_addEntry ..).trans (if_neg hne))

/-- An operation changes nothing but the entry whose number it is given and those it adds. -/
theorem Operation.get?_perform (a : Arena) (op : Operation) {k : EntryId}
    (hsubject : op.subject? ≠ some k) (hnew : k ∉ op.numbers a) :
    (op.perform a).get? k = a.get? k := by
  cases op with
  | addFile path => exact get?_addFile a path k
  | addEntry entry =>
    exact (get?_addEntry ..).trans (if_neg fun h => hnew (List.mem_singleton.2 h))
  | load path source =>
    cases hparse : Cfg.parse source with
    | error e => simp [perform, Arena.load, hparse]
    | ok document =>
      simp only [numbers, hparse] at hnew
      rw [perform, load_eq hparse]
      exact (get?_addNodes _ _ _ hnew).trans (get?_addFile a path k)
  | remove id =>
    exact (get?_remove ..).trans (if_neg fun h => hsubject (congrArg some h.symm))
  | setNode id node =>
    exact (get?_setNode ..).trans (if_neg fun h => hsubject (congrArg some h.symm))

/-! ## An arena stays sound -/

theorem Operation.sound_perform {a : Arena} (h : a.Sound) (op : Operation) :
    (op.perform a).Sound := by
  cases op with
  | addFile path => exact h.addFile path
  | addEntry entry => exact h.addEntry entry
  | load path source => exact h.load path source
  | remove id => exact h.remove id
  | setNode id node => exact h.setNode id node

theorem sound_after (ops : List Operation) : (after ops).Sound := by
  have hrun : ∀ a : Arena, a.Sound → (ops.foldl Operation.perform a).Sound := by
    induction ops with
    | nil => exact fun _ h => h
    | cons op ops ih => exact fun a h => ih (op.perform a) (op.sound_perform h)
  exact hrun .empty .empty

/-! ## An arena only grows -/

/-- The arena `b` is a later state of `a`. -/
structure Grows (a b : Arena) : Prop where
  /-- Files keep their numbers. -/
  files : a.files <+: b.files
  slots : a.slots.length ≤ b.slots.length
  /-- An old slot that is occupied has been so all along, by an entry of the same file. -/
  occupied : ∀ id < a.slots.length, ∀ slot, b.get? id = some slot →
    ∃ old, a.get? id = some old ∧ old.entry.file = slot.entry.file

namespace Grows

theorem refl (a : Arena) : a.Grows a :=
  ⟨List.prefix_refl _, Nat.le_refl _, fun _ _ slot h => ⟨slot, h, rfl⟩⟩

theorem trans {a b c : Arena} (h : a.Grows b) (h' : b.Grows c) : a.Grows c where
  files := h.files.trans h'.files
  slots := Nat.le_trans h.slots h'.slots
  occupied := by
    intro id hlt slot hget
    obtain ⟨mid, hmid, hfile⟩ := h'.occupied id (Nat.lt_of_lt_of_le hlt h.slots) slot hget
    obtain ⟨old, hold, hfile'⟩ := h.occupied id hlt mid hmid
    exact ⟨old, hold, hfile'.trans hfile⟩

end Grows

theorem Operation.files_perform (a : Arena) (op : Operation) :
    a.files <+: (op.perform a).files := by
  cases op with
  | addFile path => exact files_addFile_prefix a path
  | load path source =>
    cases hparse : Cfg.parse source with
    | error e => simp [perform, Arena.load, hparse]
    | ok document =>
      rw [perform, load_eq hparse, files_addNodes]
      exact files_addFile_prefix a path
  | _ => exact List.prefix_refl _

theorem Operation.grows_perform (a : Arena) (op : Operation) : a.Grows (op.perform a) := by
  obtain ⟨n, hids, hlen⟩ := op.numbers_eq a
  refine ⟨op.files_perform a, hlen ▸ Nat.le_add_right .., fun id hlt slot hget => ?_⟩
  by_cases hsubject : op.subject? = some id
  · cases op with
    | remove k =>
      obtain rfl := Option.some.inj hsubject
      rw [perform, get?_remove, if_pos rfl] at hget
      exact absurd hget (by simp)
    | setNode k node =>
      obtain rfl := Option.some.inj hsubject
      rw [perform, get?_setNode, if_pos rfl] at hget
      obtain ⟨old, hold, rfl⟩ := Option.map_eq_some_iff.1 hget
      exact ⟨old, hold, rfl⟩
    | _ => exact absurd hsubject (by simp [subject?])
  · have hnew : id ∉ op.numbers a := by
      rw [hids, List.mem_range'_1]
      omega
    rw [op.get?_perform a hsubject hnew] at hget
    exact ⟨slot, hget, rfl⟩

theorem grows_after (ops later : List Operation) : (after ops).Grows (after (ops ++ later)) := by
  have hrun : ∀ a : Arena, a.Grows (later.foldl Operation.perform a) := by
    induction later with
    | nil => exact Grows.refl
    | cons op later ih => exact fun a => (op.grows_perform a).trans (ih (op.perform a))
  rw [after_append]
  exact hrun (after ops)

/-- A number whose entry is gone is never used again. -/
theorem get?_after_eq_none {ops : List Operation} {id : EntryId} (hid : id ∈ issued ops)
    (hnone : (after ops).get? id = none) (later : List Operation) :
    (after (ops ++ later)).get? id = none := by
  cases hget : (after (ops ++ later)).get? id with
  | none => rfl
  | some slot =>
    obtain ⟨old, hold, _⟩ := (grows_after ops later).occupied id (mem_issued.1 hid) slot hget
    rw [hnone] at hold
    exact absurd hold (by simp)

/-! ## Every sound arena has a history -/

theorem foldl_addFile (files more : List Text) (h : (files ++ more).Nodup) :
    (more.map Operation.addFile).foldl Operation.perform ⟨files, [], 0⟩ =
      ⟨files ++ more, [], 0⟩ := by
  induction more generalizing files with
  | nil => rw [List.append_nil]; rfl
  | cons path more ih =>
    have hnew : path ∉ files := fun hmem =>
      (List.nodup_append.1 h).2.2 path hmem path (List.mem_cons_self ..) rfl
    have hstep : Operation.perform ⟨files, [], 0⟩ (.addFile path) = ⟨files ++ [path], [], 0⟩ := by
      rw [Operation.perform, addFile, List.idxOf?_eq_none_iff.2 hnew]
    rw [List.append_cons] at h ⊢
    rw [List.map_cons, List.foldl_cons, hstep, ih (files ++ [path]) h]

/-- What puts a slot with the given content behind `n` others. An empty one is made by removing
an entry. -/
def fill (n : Nat) : Option Slot → List Operation
  | some slot => [.addEntry slot.entry]
  | none => [.addEntry ⟨0, .ofName []⟩, .remove n]

theorem foldl_fill (files : List Text) (slots : List (Option Slot)) (live : Nat)
    (content : Option Slot) (h : ∀ slot, content = some slot → slot.id = slots.length) :
    (fill slots.length content).foldl Operation.perform ⟨files, slots, live⟩ =
      ⟨files, slots ++ [content], live + if content.isSome then 1 else 0⟩ := by
  cases content with
  | some slot =>
    obtain ⟨id, entry⟩ := slot
    obtain rfl : id = slots.length := h _ rfl
    rfl
  | none => simp [fill, Operation.perform, addEntry, remove, get?]

theorem foldl_fillAll (files : List Text) (slots more : List (Option Slot)) (live : Nat)
    (h : ∀ i slot, more[i]? = some (some slot) → slot.id = slots.length + i) :
    ((more.zipIdx slots.length).flatMap fun p => fill p.2 p.1).foldl Operation.perform
        ⟨files, slots, live⟩ =
      ⟨files, slots ++ more, live + more.countP Option.isSome⟩ := by
  induction more generalizing slots live with
  | nil => simp
  | cons content more ih =>
    have hhere : ∀ slot, content = some slot → slot.id = slots.length := fun slot hslot =>
      h 0 slot (congrArg some hslot)
    have hrest : ∀ i slot, more[i]? = some (some slot) →
        slot.id = (slots ++ [content]).length + i := by
      intro i slot hslot
      rw [h (i + 1) slot hslot, List.length_append, List.length_singleton]
      omega
    have hnext := ih (slots ++ [content]) (live + if content.isSome then 1 else 0) hrest
    rw [List.length_append, List.length_singleton] at hnext
    rw [List.zipIdx_cons, List.flatMap_cons, List.foldl_append, foldl_fill files slots live _ hhere,
      hnext, List.append_assoc, List.countP_cons, Nat.add_assoc, Nat.add_comm (ite _ _ _)]
    rfl

/-- Soundness says all there is to say: a sound arena can come about. -/
theorem sound_iff_exists_after (a : Arena) : a.Sound ↔ ∃ ops, after ops = a := by
  constructor
  · intro h
    have hslots := foldl_fillAll a.files [] a.slots 0 fun i slot hslot => by
      rw [h.numbered i slot (Option.join_eq_some_iff.2 hslot)]
      simp
    rw [List.nil_append, Nat.zero_add, ← h.counted] at hslots
    refine ⟨a.files.map .addFile ++ (a.slots.zipIdx 0).flatMap fun p => fill p.2 p.1, ?_⟩
    have hfiles : after (a.files.map .addFile) = ⟨a.files, [], 0⟩ :=
      foldl_addFile [] a.files h.distinct
    rw [after_append, hfiles]
    exact hslots
  · rintro ⟨ops, rfl⟩
    exact sound_after ops

/-! ## What can be relied on -/

/-- An arena with a history can be relied on. -/
structure Orderly (ops : List Operation) : Prop where
  /-- The counter is the number of entries that are there. -/
  sized : (after ops).size = (after ops).ids.length
  isEmpty_iff : (after ops).isEmpty ↔ (after ops).size = 0
  /-- While an entry is there the counter can be lowered. -/
  counted : ∀ id slot, (after ops).get? id = some slot → 0 < (after ops).live
  ordered : (after ops).ids.Pairwise (· < ·)
  listed : ∀ id, id ∈ (after ops).ids ↔ ((after ops).get? id).isSome
  /-- An entry knows its number. -/
  numbered : ∀ id slot, (after ops).get? id = some slot → slot.id = id
  /-- A new entry gets a larger number than all before it, and is found under that number. -/
  fresh : ∀ entry, (∀ id ∈ issued ops, id < ((after ops).addEntry entry).1) ∧
    ((after ops).addEntry entry).2.get? ((after ops).addEntry entry).1 =
      some ⟨((after ops).addEntry entry).1, entry⟩
  /-- What is removed is handed out if it was there, and gone from then on. -/
  removed : ∀ id, ((after ops).remove id).1 = (after ops).get? id ∧
    (id ∈ issued ops → ∀ later, (after (ops ++ .remove id :: later)).get? id = none)
  /-- A number whose entry is gone is never used again. -/
  gone : ∀ id ∈ issued ops, (after ops).get? id = none →
    ∀ later, (after (ops ++ later)).get? id = none
  /-- Another node does not change where an entry is from or whether it is there. -/
  edited : ∀ id node, ((after ops).setNode id node).get? id =
    ((after ops).get? id).map (·.withNode node)
  /-- Nothing changes but the entry whose number is given and those that are added. -/
  others : ∀ (op : Operation) (k : EntryId), op.subject? ≠ some k →
    k ∉ op.numbers (after ops) → (op.perform (after ops)).get? k = (after ops).get? k
  /-- Different files have different paths. -/
  distinct : (after ops).files.Nodup
  registered : ∀ path,
    ((after ops).addFile path).2.files[((after ops).addFile path).1]? = some path
  /-- A file keeps its number. -/
  denotes : ∀ (file : FileId) (path : Text), (after ops).files[file]? = some path →
    ∀ later, (after (ops ++ later)).files[file]? = some path
  /-- A source that cannot be read changes nothing. -/
  unread : ∀ path source e, ((after ops).load path source).1 = .error e →
    ((after ops).load path source).2 = after ops
  /-- One that can be read appends the nodes of its document, all under the file of its path. -/
  read : ∀ path source loaded, ((after ops).load path source).1 = .ok loaded →
    ∃ document, Cfg.parse source = .ok document ∧ loaded.loose = document.fields ∧
      ((after ops).load path source).2.files[loaded.file]? = some path ∧
      ((after ops).load path source).2.occupied = (after ops).occupied ++
        (document.children.zipIdx (after ops).slots.length).map fun p => ⟨p.2, loaded.file, p.1⟩

/-- Every history leaves an arena that can be relied on. -/
theorem orderly (ops : List Operation) : Orderly ops := by
  have hsound := sound_after ops
  refine {
    sized := size_eq hsound
    isEmpty_iff := by simp [isEmpty, size]
    counted := fun _ _ => hsound.live_pos
    ordered := ids_pairwise_lt hsound
    listed := fun _ => mem_ids hsound
    numbered := hsound.numbered
    fresh := fun entry => ⟨fun id hid => mem_issued.1 hid, (get?_addEntry ..).trans (if_pos rfl)⟩
    removed := fun id => ⟨rfl, fun hid later => ?_⟩
    gone := fun id hid hnone later => get?_after_eq_none hid hnone later
    edited := fun id node => (get?_setNode ..).trans (if_pos rfl)
    others := fun op k => op.get?_perform (after ops)
    distinct := hsound.distinct
    registered := getElem?_addFile (after ops)
    denotes := fun file path hpath later => ?_
    unread := fun path source e herror => ?_
    read := fun path source loaded hloaded => ?_ }
  · have hafter : after (ops ++ [.remove id]) = ((after ops).remove id).2 := after_append ops _
    have hnone : (after (ops ++ [.remove id])).get? id = none := by
      rw [hafter, get?_remove, if_pos rfl]
    have hissued : id ∈ issued (ops ++ [.remove id]) := by
      rw [mem_issued, hafter, length_slots_remove]
      exact mem_issued.1 hid
    rw [List.append_cons]
    exact get?_after_eq_none hissued hnone later
  · obtain ⟨more, hmore⟩ := (grows_after ops later).files
    have hlt := (List.getElem?_eq_some_iff.1 hpath).1
    rw [← hmore, List.getElem?_append_left hlt, hpath]
  · cases hparse : Cfg.parse source with
    | error e => rw [load, hparse]
    | ok document => simp [load_eq hparse] at herror
  · cases hparse : Cfg.parse source with
    | error e => simp [load, hparse] at hloaded
    | ok document =>
      rw [load_eq hparse] at hloaded ⊢
      obtain rfl := Except.ok.inj hloaded
      refine ⟨document, rfl, rfl, ?_, ?_⟩
      · rw [files_addNodes]
        exact getElem?_addFile _ path
      · rw [occupied_addNodes, occupied_addFile, length_slots_addFile]

end CfgPatch.Arena
