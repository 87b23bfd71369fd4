import CfgPatch.Arena

/-!
# Laws of the arena
-/

namespace CfgPatch.Arena

/-! ## The slots that are occupied -/

/-- The occupied slots, read number by number. -/
theorem occupied_eq (a : Arena) : a.occupied = (List.range a.slots.length).filterMap a.get? := by
  have hslots : a.slots = (List.range a.slots.length).map fun id => a.slots[id]?.join := by
    apply List.ext_getElem (by simp)
    intro id h₁ h₂
    simp [List.getElem?_eq_getElem h₁]
  rw [occupied, hslots, List.filterMap_map, List.length_map, List.length_range]
  rfl

/-- The numbers that are in use, in order. -/
theorem ids_eq {a : Arena} (h : a.Sound) :
    a.ids = (List.range a.slots.length).filter fun id => (a.get? id).isSome := by
  rw [ids, occupied_eq, List.map_filterMap, ← List.filterMap_eq_filter]
  congr 1
  funext id
  cases hget : a.get? id with
  | none => simp [Option.guard, hget]
  | some slot => simp [Option.guard, hget, h.numbered id slot hget]

theorem mem_ids {a : Arena} (h : a.Sound) {id : EntryId} :
    id ∈ a.ids ↔ (a.get? id).isSome := by
  rw [ids_eq h, List.mem_filter, List.mem_range]
  constructor
  · exact fun hid => hid.2
  · intro hsome
    obtain ⟨slot, hget⟩ := Option.isSome_iff_exists.1 hsome
    exact ⟨lt_length_of_get? hget, hsome⟩

theorem ids_pairwise_lt {a : Arena} (h : a.Sound) : a.ids.Pairwise (· < ·) := by
  rw [ids_eq h]
  exact List.pairwise_lt_range.filter _

/-- The counter is the number of entries that are there. -/
theorem size_eq {a : Arena} (h : a.Sound) : a.size = a.ids.length := by
  rw [size, h.counted, ids, List.length_map, occupied, List.length_filterMap_eq_countP]
  rfl

/-- A new entry is the last one. -/
theorem occupied_addEntry (a : Arena) (entry : Entry) :
    (a.addEntry entry).2.occupied = a.occupied ++ [⟨a.slots.length, entry⟩] := by
  rw [occupied, addEntry, List.filterMap_append]
  rfl

/-! ## Loading -/

@[simp] theorem length_slots_addFile (a : Arena) (path : Text) :
    (a.addFile path).2.slots.length = a.slots.length := by
  rw [addFile]
  split <;> rfl

@[simp] theorem occupied_addFile (a : Arena) (path : Text) :
    (a.addFile path).2.occupied = a.occupied := by
  rw [addFile]
  split <;> rfl

/-- Nodes are appended in order, each with the next number. -/
theorem occupied_addNodes (a : Arena) (file : FileId) (nodes : List Node) :
    (a.addNodes file nodes).2.occupied =
      a.occupied ++ (nodes.zipIdx a.slots.length).map fun p => ⟨p.2, file, p.1⟩ := by
  induction nodes generalizing a with
  | nil => simp [addNodes]
  | cons node nodes ih =>
    have hrest := ih (a.addEntry ⟨file, node⟩).2
    rw [occupied_addEntry, length_slots_addEntry, List.append_assoc] at hrest
    exact hrest

/-- What a source that is read appends. -/
theorem load_eq {a : Arena} {path source : Text} {document : Node}
    (h : Cfg.parse source = .ok document) :
    a.load path source = (.ok ⟨(a.addFile path).1, document.fields⟩,
      ((a.addFile path).2.addNodes (a.addFile path).1 document.children).2) := by
  rw [load, h]

theorem files_addFile_prefix (a : Arena) (path : Text) :
    a.files <+: (a.addFile path).2.files := by
  rw [addFile]
  split
  · exact List.prefix_refl _
  · exact List.prefix_append ..

theorem files_addNodes (a : Arena) (file : FileId) (nodes : List Node) :
    (a.addNodes file nodes).2.files = a.files := by
  induction nodes generalizing a with
  | nil => rfl
  | cons node nodes ih => exact ih (a.addEntry ⟨file, node⟩).2

/-- A path is registered under the number that is answered. -/
theorem getElem?_addFile (a : Arena) (path : Text) :
    (a.addFile path).2.files[(a.addFile path).1]? = some path := by
  rw [addFile]
  split
  · rename_i n hfound
    obtain ⟨hlt, hpath, _⟩ := List.idxOf?_eq_some_iff.1 hfound
    exact List.getElem?_eq_some_iff.2 ⟨hlt, hpath⟩
  · simp

end CfgPatch.Arena
