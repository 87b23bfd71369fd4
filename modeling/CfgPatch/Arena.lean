import CfgPatch.Cfg.Reader

/-!
# The arena

The entries of a catalog are kept in slots. A slot is never used twice: a new entry takes a
new slot at the end, and removing an entry leaves its slot empty. The number of an entry is
the place of its slot, so a number once given out keeps its meaning. An entry is stored with
its number, and the entries that are there are counted as they come and go, so that neither
has to be worked out again.

What is stored twice has to agree. An arena where it does is *sound* (`Arena.Sound`); the
operations keep arenas sound, and a catalog is a sound arena.
-/

namespace CfgPatch

/-- The number of a source file. -/
abbrev FileId := Nat

/-- The number of an entry. -/
abbrev EntryId := Nat

/-- A root node and the file it belongs to. -/
structure Entry where
  file : FileId
  node : Node
deriving DecidableEq, Repr

/-- What a slot holds: an entry with its number. -/
structure Slot where
  id : EntryId
  entry : Entry
deriving DecidableEq, Repr

/-- The slot with another node in its entry. -/
def Slot.withNode (s : Slot) (node : Node) : Slot := ⟨s.id, { s.entry with node := node }⟩

/-- Source files and entries, each numbered by its place. -/
structure Arena where
  /-- The paths of the files. -/
  files : List Text
  /-- The entries; a slot whose entry was removed is empty. -/
  slots : List (Option Slot)
  /-- How many entries are there. -/
  live : Nat
deriving DecidableEq, Repr

namespace Arena

/-- The arena with no files and no entries. -/
def empty : Arena := ⟨[], [], 0⟩

/-! ## Reading -/

/-- What is in the slot with the given number. -/
def get? (a : Arena) (id : EntryId) : Option Slot := a.slots[id]?.join

/-- The slots that hold an entry, in order. -/
def occupied (a : Arena) : List Slot := a.slots.filterMap id

/-- The numbers of the entries that are there, in order. -/
def ids (a : Arena) : List EntryId := a.occupied.map (·.id)

/-- The number of entries that are there. -/
def size (a : Arena) : Nat := a.live

/-- Whether no entry is there. -/
def isEmpty (a : Arena) : Bool := a.live == 0

/-! ## Changing -/

/-- Registers a file; a path that is known already keeps its number. -/
def addFile (a : Arena) (path : Text) : FileId × Arena :=
  match a.files.idxOf? path with
  | some n => (n, a)
  | none => (a.files.length, { a with files := a.files ++ [path] })

/-- Appends an entry and gives it a number. -/
def addEntry (a : Arena) (entry : Entry) : EntryId × Arena :=
  (a.slots.length,
    { a with slots := a.slots ++ [some ⟨a.slots.length, entry⟩], live := a.live + 1 })

/-- Removes an entry, if it is there, and hands it out. -/
def remove (a : Arena) (id : EntryId) : Option Slot × Arena :=
  let removed := a.get? id
  (removed, { a with
    slots := a.slots.set id none
    live := if removed.isSome then a.live - 1 else a.live })

/-- Replaces the node of an entry, if it is there. -/
def setNode (a : Arena) (id : EntryId) (node : Node) : Arena :=
  { a with slots := a.slots.modify id (Option.map (·.withNode node)) }

/-! ## Loading -/

/-- What loading a source answers: the number of its file and the fields of the document
that stand in no node, for which an arena has no place. -/
structure Loaded where
  file : FileId
  loose : List Field

/-- Appends nodes as entries of a file; the numbers they are given. -/
def addNodes (a : Arena) (file : FileId) : List Node → List EntryId × Arena
  | [] => ([], a)
  | node :: nodes =>
    let (id, a) := a.addEntry ⟨file, node⟩
    let (ids, a) := a.addNodes file nodes
    (id :: ids, a)

/-- Reads a source and appends its nodes under the given path. -/
def load (a : Arena) (path source : Text) : Except Cfg.Error Loaded × Arena :=
  match Cfg.parse source with
  | .error e => (.error e, a)
  | .ok document =>
    let (file, a) := a.addFile path
    (.ok ⟨file, document.fields⟩, (a.addNodes file document.children).2)

/-! ## Soundness -/

/-- What is stored twice agrees, and nothing is registered twice. -/
structure Sound (a : Arena) : Prop where
  /-- An entry is stored with the number of its slot. -/
  numbered : ∀ id slot, a.get? id = some slot → slot.id = id
  /-- The entries that are there have been counted. -/
  counted : a.live = a.slots.countP Option.isSome
  /-- No path is registered twice. -/
  distinct : a.files.Nodup

theorem getElem?_of_get? {a : Arena} {id : EntryId} {slot : Slot} (h : a.get? id = some slot) :
    a.slots[id]? = some (some slot) :=
  Option.join_eq_some_iff.1 h

theorem lt_length_of_get? {a : Arena} {id : EntryId} {slot : Slot} (h : a.get? id = some slot) :
    id < a.slots.length :=
  (List.getElem?_eq_some_iff.1 (getElem?_of_get? h)).1

/-- A slot that is there keeps its content, and the new one is the last. -/
theorem get?_addEntry (a : Arena) (entry : Entry) (k : EntryId) :
    (a.addEntry entry).2.get? k =
      if k = a.slots.length then some ⟨a.slots.length, entry⟩ else a.get? k := by
  rw [get?, addEntry, List.getElem?_append, get?]
  rcases Nat.lt_trichotomy k a.slots.length with hlt | rfl | hgt
  · rw [if_pos hlt, if_neg (Nat.ne_of_lt hlt)]
  · simp
  · have hsub : k - a.slots.length ≠ 0 := Nat.sub_ne_zero_of_lt hgt
    rw [if_neg (Nat.lt_asymm hgt), if_neg (Nat.ne_of_gt hgt), List.getElem?_singleton,
      if_neg hsub, List.getElem?_eq_none (Nat.le_of_lt hgt)]

theorem get?_remove (a : Arena) (id k : EntryId) :
    (a.remove id).2.get? k = if k = id then none else a.get? k := by
  rw [get?, remove, List.getElem?_set]
  by_cases h : id = k
  · subst h
    by_cases hlt : id < a.slots.length <;> simp [hlt]
  · rw [if_neg h, if_neg (Ne.symm h), get?]

theorem get?_setNode (a : Arena) (id k : EntryId) (node : Node) :
    (a.setNode id node).get? k =
      if k = id then (a.get? k).map (·.withNode node) else a.get? k := by
  rw [get?, setNode, List.getElem?_modify, get?]
  by_cases h : id = k
  · subst h
    cases a.slots[id]? <;> simp
  · simp [h, Ne.symm h]

@[simp] theorem get?_addFile (a : Arena) (path : Text) (k : EntryId) :
    (a.addFile path).2.get? k = a.get? k := by
  rw [addFile]
  split <;> rfl

@[simp] theorem length_slots_addEntry (a : Arena) (entry : Entry) :
    (a.addEntry entry).2.slots.length = a.slots.length + 1 := by
  rw [addEntry, List.length_append, List.length_singleton]

@[simp] theorem length_slots_remove (a : Arena) (id : EntryId) :
    (a.remove id).2.slots.length = a.slots.length := by
  rw [remove, List.length_set]

@[simp] theorem length_slots_setNode (a : Arena) (id : EntryId) (node : Node) :
    (a.setNode id node).slots.length = a.slots.length := by
  rw [setNode, List.length_modify]

@[simp] theorem files_remove (a : Arena) (id : EntryId) : (a.remove id).2.files = a.files := rfl

@[simp] theorem files_setNode (a : Arena) (id : EntryId) (node : Node) :
    (a.setNode id node).files = a.files := rfl

@[simp] theorem files_addEntry (a : Arena) (entry : Entry) :
    (a.addEntry entry).2.files = a.files := rfl

/-! ### The counter -/

/-- Emptying a slot takes away one, if it was occupied. -/
theorem countP_isSome_set_none (slots : List (Option Slot)) (id : EntryId) :
    (slots.set id none).countP Option.isSome =
      slots.countP Option.isSome - if slots[id]?.join.isSome then 1 else 0 := by
  by_cases h : id < slots.length
  · rw [List.countP_set h, List.getElem?_eq_getElem h]
    rfl
  · have hle : slots.length ≤ id := Nat.le_of_not_lt h
    rw [List.set_eq_of_length_le hle, List.getElem?_eq_none hle]
    rfl

/-- Changing what an occupied slot holds takes away none. -/
theorem countP_isSome_modify (slots : List (Option Slot)) (id : EntryId) (f : Slot → Slot) :
    (slots.modify id (Option.map f)).countP Option.isSome = slots.countP Option.isSome := by
  induction slots generalizing id with
  | nil => simp
  | cons slot slots ih =>
    cases id with
    | zero => simp [List.countP_cons]
    | succ id => simp [List.countP_cons, ih]

/-- An entry that is there has been counted. -/
theorem Sound.live_pos {a : Arena} (h : a.Sound) {id : EntryId} {slot : Slot}
    (hget : a.get? id = some slot) : 0 < a.live := by
  rw [h.counted, List.countP_pos_iff]
  exact ⟨some slot, List.mem_of_getElem? (getElem?_of_get? hget), rfl⟩

namespace Sound

theorem empty : Sound .empty where
  numbered := fun id slot h => by simp [Arena.empty, get?] at h
  counted := rfl
  distinct := List.nodup_nil

theorem addFile {a : Arena} (h : a.Sound) (path : Text) : (a.addFile path).2.Sound := by
  rw [Arena.addFile]
  split
  · exact h
  · rename_i hnew
    refine ⟨h.numbered, h.counted, List.nodup_append.2 ⟨h.distinct, by simp, ?_⟩⟩
    rintro p hp q hq rfl
    exact List.idxOf?_eq_none_iff.1 hnew (List.mem_singleton.1 hq ▸ hp)

theorem addEntry {a : Arena} (h : a.Sound) (entry : Entry) : (a.addEntry entry).2.Sound where
  numbered := by
    intro id slot hget
    rw [get?_addEntry] at hget
    split at hget
    · rename_i hid
      obtain rfl := Option.some.inj hget
      exact hid.symm
    · exact h.numbered id slot hget
  counted := by
    rw [Arena.addEntry, List.countP_append, ← h.counted]
    rfl
  distinct := h.distinct

theorem remove {a : Arena} (h : a.Sound) (id : EntryId) : (a.remove id).2.Sound where
  numbered := by
    intro k slot hget
    rw [get?_remove] at hget
    split at hget
    · exact absurd hget (by simp)
    · exact h.numbered k slot hget
  counted := by
    rw [Arena.remove, countP_isSome_set_none, ← h.counted, ← get?]
    cases a.get? id <;> rfl
  distinct := h.distinct

theorem setNode {a : Arena} (h : a.Sound) (id : EntryId) (node : Node) :
    (a.setNode id node).Sound where
  numbered := by
    intro k slot hget
    rw [get?_setNode] at hget
    split at hget
    · obtain ⟨old, hold, rfl⟩ := Option.map_eq_some_iff.1 hget
      exact h.numbered k old hold
    · exact h.numbered k slot hget
  counted := by
    rw [Arena.setNode, countP_isSome_modify]
    exact h.counted
  distinct := h.distinct

theorem addNodes {a : Arena} (h : a.Sound) (file : FileId) (nodes : List Node) :
    (a.addNodes file nodes).2.Sound := by
  induction nodes generalizing a with
  | nil => exact h
  | cons node nodes ih => exact ih (h.addEntry ⟨file, node⟩)

theorem load {a : Arena} (h : a.Sound) (path source : Text) : (a.load path source).2.Sound := by
  rw [Arena.load]
  split
  · exact h
  · exact (h.addFile path).addNodes _ _

end Sound

end Arena

end CfgPatch
