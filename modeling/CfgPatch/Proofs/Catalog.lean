import CfgPatch.Directive
import CfgPatch.Proofs.Arena
import Mathlib.Tactic.SplitIfs

/-!
# Laws of the catalog

A catalog is read through `get?`, which answers for every number, and through the count of
its slots, which says what number the next entry will have. Each operation is characterised
here by what it does to these two; `ids` and `entries` are computed from them. Nothing
outside this file looks at the slots of a catalog one by one.
-/

namespace CfgPatch.Catalog

/-! ## What each operation does to a look-up -/

theorem get?_of_length_le {cat : Catalog} {id : EntryId} (h : cat.slots.length ≤ id) :
    cat.get? id = none := by
  rw [get?, Arena.get?, List.getElem?_eq_none h]
  rfl

theorem lt_length_of_get? {cat : Catalog} {id : EntryId} {entry : Entry}
    (h : cat.get? id = some entry) : id < cat.slots.length := by
  rcases Nat.lt_or_ge id cat.slots.length with hlt | hge
  · exact hlt
  · rw [get?_of_length_le hge] at h
    exact absurd h (by simp)

/-- What is known of an entry determines what its slot holds. -/
theorem arenaGet?_eq (cat : Catalog) (id : EntryId) :
    cat.toArena.get? id = (cat.get? id).map fun entry => ⟨id, entry⟩ := by
  rw [get?]
  cases hget : cat.toArena.get? id with
  | none => rfl
  | some slot => rw [Option.map_some, Option.map_some, ← cat.sound.numbered id slot hget]

@[simp] theorem get?_empty (id : EntryId) : empty.get? id = none :=
  get?_of_length_le (Nat.zero_le id)

theorem get?_remove (cat : Catalog) (id k : EntryId) :
    (cat.remove id).get? k = if k = id then none else cat.get? k := by
  rw [get?, remove, Arena.get?_remove, get?]
  split <;> rfl

theorem get?_setNode (cat : Catalog) (id k : EntryId) (node : Node) :
    (cat.setNode id node).get? k =
      if k = id then (cat.get? k).map fun e => { e with node := node } else cat.get? k := by
  rw [get?, setNode, Arena.get?_setNode, get?]
  split
  · rw [Option.map_map, Option.map_map]
    rfl
  · rfl

theorem get?_addEntry (cat : Catalog) (entry : Entry) (k : EntryId) :
    (cat.addEntry entry).get? k =
      if k = cat.slots.length then some entry else cat.get? k := by
  rw [get?, addEntry, Arena.get?_addEntry, get?]
  split <;> rfl

@[simp] theorem get?_addFile (cat : Catalog) (path : Text) (k : EntryId) :
    (cat.addFile path).2.get? k = cat.get? k := by
  rw [get?, addFile, Arena.get?_addFile, get?]

@[simp] theorem length_slots_remove (cat : Catalog) (id : EntryId) :
    (cat.remove id).slots.length = cat.slots.length :=
  Arena.length_slots_remove ..

@[simp] theorem length_slots_setNode (cat : Catalog) (id : EntryId) (node : Node) :
    (cat.setNode id node).slots.length = cat.slots.length :=
  Arena.length_slots_setNode ..

@[simp] theorem length_slots_addEntry (cat : Catalog) (entry : Entry) :
    (cat.addEntry entry).slots.length = cat.slots.length + 1 :=
  Arena.length_slots_addEntry ..

@[simp] theorem files_remove (cat : Catalog) (id : EntryId) :
    (cat.remove id).files = cat.files := rfl

@[simp] theorem files_setNode (cat : Catalog) (id : EntryId) (node : Node) :
    (cat.setNode id node).files = cat.files := rfl

@[simp] theorem files_addEntry (cat : Catalog) (entry : Entry) :
    (cat.addEntry entry).files = cat.files := rfl

/-- Two catalogs with the same files, as many slots and the same look-ups are equal. -/
theorem ext_get? {a b : Catalog} (hfiles : a.files = b.files)
    (hlen : a.slots.length = b.slots.length) (hget : ∀ id, a.get? id = b.get? id) : a = b := by
  have hslots : a.slots = b.slots := by
    apply List.ext_getElem hlen
    intro id ha hb
    have h : a.toArena.get? id = b.toArena.get? id := by
      rw [arenaGet?_eq, arenaGet?_eq, hget]
    rw [Arena.get?, Arena.get?, List.getElem?_eq_getElem ha, List.getElem?_eq_getElem hb] at h
    exact h
  have hlive : a.live = b.live := by rw [a.sound.counted, b.sound.counted, hslots]
  obtain ⟨⟨_, _, _⟩, _⟩ := a
  obtain ⟨⟨_, _, _⟩, _⟩ := b
  simp only at hfiles hslots hlive
  subst hfiles hslots hlive
  rfl

/-- URLs depend on the files alone. -/
theorem fileUrl?_congr {a b : Catalog} (h : a.files = b.files) : a.fileUrl? = b.fileUrl? := by
  funext file
  rw [fileUrl?, fileUrl?, h]

theorem urlFor_congr {a b : Catalog} (h : a.files = b.files) : a.urlFor = b.urlFor := by
  funext file name
  rw [urlFor, urlFor, fileUrl?_congr h]

/-- How messages name an entry. -/
def refOf (cat : Catalog) (id : EntryId) (entry : Entry) : Ref :=
  ⟨some id, cat.urlFor entry.file entry.node.name⟩

/-! ## The entries that are there -/

/-- The entries, read number by number. -/
theorem entries_eq (cat : Catalog) :
    cat.entries = (List.range cat.slots.length).filterMap
      fun id => (cat.get? id).map (id, ·) := by
  rw [entries, Arena.occupied_eq, List.map_filterMap]
  congr 1
  funext id
  rw [arenaGet?_eq, Option.map_map]
  rfl

theorem mem_entries {cat : Catalog} {id : EntryId} {entry : Entry} :
    (id, entry) ∈ cat.entries ↔ cat.get? id = some entry := by
  rw [entries_eq, List.mem_filterMap]
  constructor
  · rintro ⟨k, _, hk⟩
    obtain ⟨e, he, heq⟩ := Option.map_eq_some_iff.1 hk
    obtain ⟨rfl, rfl⟩ := Prod.mk.inj heq
    exact he
  · intro h
    exact ⟨id, List.mem_range.2 (lt_length_of_get? h), by rw [h]; rfl⟩

theorem ids_eq_arenaIds (cat : Catalog) : cat.ids = cat.toArena.ids := by
  rw [ids, entries, List.map_map]
  rfl

theorem mem_ids {cat : Catalog} {id : EntryId} : id ∈ cat.ids ↔ (cat.get? id).isSome := by
  rw [ids_eq_arenaIds, Arena.mem_ids cat.sound, get?, Option.isSome_map]

theorem ids_pairwise_lt (cat : Catalog) : cat.ids.Pairwise (· < ·) := by
  rw [ids_eq_arenaIds]
  exact Arena.ids_pairwise_lt cat.sound

theorem ids_nodup (cat : Catalog) : cat.ids.Nodup :=
  (ids_pairwise_lt cat).imp Nat.ne_of_lt

theorem lt_length_of_mem_ids {cat : Catalog} {id : EntryId} (h : id ∈ cat.ids) :
    id < cat.slots.length := by
  obtain ⟨e, he⟩ := Option.isSome_iff_exists.1 (mem_ids.1 h)
  exact lt_length_of_get? he

/-- The counter is the number of entries that are there. -/
theorem size_eq (cat : Catalog) : cat.size = cat.ids.length := by
  rw [ids_eq_arenaIds]
  exact Arena.size_eq cat.sound

theorem length_ids_addEntry (cat : Catalog) (entry : Entry) :
    (cat.addEntry entry).ids.length = cat.ids.length + 1 := by
  rw [← size_eq, ← size_eq]
  rfl

theorem length_ids_setNode (cat : Catalog) (id : EntryId) (node : Node) :
    (cat.setNode id node).ids.length = cat.ids.length := by
  rw [← size_eq, ← size_eq]
  rfl

theorem length_ids_remove {cat : Catalog} {id : EntryId} {entry : Entry}
    (h : cat.get? id = some entry) : (cat.remove id).ids.length + 1 = cat.ids.length := by
  obtain ⟨slot, hslot, _⟩ := Option.map_eq_some_iff.1 h
  have hlive : (cat.remove id).live = cat.live - 1 := by
    simp only [remove, Arena.remove, hslot, Option.isSome_some, if_true]
  rw [← size_eq, ← size_eq, Arena.size, Arena.size, hlive]
  exact Nat.sub_add_cancel (cat.sound.live_pos hslot)

/-- A new entry is the last one. -/
theorem entries_addEntry (cat : Catalog) (entry : Entry) :
    (cat.addEntry entry).entries = cat.entries ++ [(cat.slots.length, entry)] := by
  rw [entries, addEntry, Arena.occupied_addEntry, List.map_append]
  rfl

/-- Loading a source appends its nodes, all under the file of its path. -/
theorem entries_of_load {cat next : Catalog} {path source : Text} {loaded : Arena.Loaded}
    (h : cat.load path source = .ok (loaded, next)) :
    ∃ document, Cfg.parse source = .ok document ∧ next.entries = cat.entries ++
      (document.children.zipIdx cat.slots.length).map fun p => (p.2, ⟨loaded.file, p.1⟩) := by
  rw [load] at h
  cases hparse : Cfg.parse source with
  | error e => simp [Arena.load, hparse, Except.map] at h
  | ok document =>
    simp only [Arena.load_eq hparse, Except.map, Except.ok.injEq, Prod.mk.injEq] at h
    obtain ⟨rfl, rfl⟩ := h
    refine ⟨document, rfl, ?_⟩
    rw [entries, Arena.occupied_addNodes, Arena.occupied_addFile, Arena.length_slots_addFile,
      List.map_append, List.map_map]
    rfl

/-! ## What holds of every entry -/

/-- Every entry that is there has a property. -/
def All (P : Entry → Prop) (cat : Catalog) : Prop :=
  ∀ id entry, cat.get? id = some entry → P entry

namespace All

variable {P Q : Entry → Prop} {cat : Catalog}

theorem mono (h : cat.All P) (hPQ : ∀ entry, P entry → Q entry) : cat.All Q :=
  fun id entry hget => hPQ entry (h id entry hget)

theorem of_mem_entries (h : cat.All P) : ∀ p ∈ cat.entries, P p.2 := fun p hp =>
  h p.1 p.2 (mem_entries.1 hp)

theorem setNode (h : cat.All P) {id : EntryId} {node : Node}
    (hnode : ∀ entry, cat.get? id = some entry → P ⟨entry.file, node⟩) :
    (cat.setNode id node).All P := by
  intro k entry hget
  rw [get?_setNode] at hget
  split_ifs at hget with hk
  · obtain ⟨old, hold, rfl⟩ := Option.map_eq_some_iff.1 hget
    exact hnode old (hk ▸ hold)
  · exact h k entry hget

theorem addEntry (h : cat.All P) {entry : Entry} (hentry : P entry) :
    (cat.addEntry entry).All P := by
  intro k found hget
  rw [get?_addEntry] at hget
  split_ifs at hget
  · exact Option.some.inj hget ▸ hentry
  · exact h k found hget

theorem remove (h : cat.All P) (id : EntryId) : (cat.remove id).All P := by
  intro k entry hget
  rw [get?_remove] at hget
  split_ifs at hget
  exact h k entry hget

/-- What is loaded is under the file of its path. -/
theorem load (h : cat.All P) {next : Catalog} {path source : Text} {loaded : Arena.Loaded}
    (hload : cat.load path source = .ok (loaded, next))
    (hnew : ∀ document, Cfg.parse source = .ok document →
      ∀ node ∈ document.children, P ⟨loaded.file, node⟩) : next.All P := by
  obtain ⟨document, hparse, hentries⟩ := entries_of_load hload
  intro id entry hget
  have hmem := mem_entries.2 hget
  rw [hentries, List.mem_append] at hmem
  rcases hmem with hold | hadded
  · exact h id entry (mem_entries.1 hold)
  · obtain ⟨p, hp, heq⟩ := List.mem_map.1 hadded
    obtain ⟨_, rfl⟩ := Prod.mk.inj heq
    exact hnew document hparse p.1 (List.fst_mem_of_mem_zipIdx hp)

end All

/-- The catalog of some files and entries, which are added in order. -/
def ofEntries (files : List Text) (entries : List Entry) : Catalog :=
  entries.foldl addEntry (files.foldl (fun cat path => (cat.addFile path).2) empty)

/-! ## Removing several entries -/

/-- Removes entries, one after another. -/
def removeAll (cat : Catalog) (ids : List EntryId) : Catalog := ids.foldl remove cat

@[simp] theorem removeAll_nil (cat : Catalog) : cat.removeAll [] = cat := rfl

@[simp] theorem removeAll_cons (cat : Catalog) (id : EntryId) (ids : List EntryId) :
    cat.removeAll (id :: ids) = (cat.remove id).removeAll ids := rfl

@[simp] theorem files_removeAll (cat : Catalog) (ids : List EntryId) :
    (cat.removeAll ids).files = cat.files := by
  induction ids generalizing cat with
  | nil => rfl
  | cons id ids ih => rw [removeAll_cons, ih, files_remove]

@[simp] theorem length_slots_removeAll (cat : Catalog) (ids : List EntryId) :
    (cat.removeAll ids).slots.length = cat.slots.length := by
  induction ids generalizing cat with
  | nil => rfl
  | cons id ids ih => rw [removeAll_cons, ih, length_slots_remove]

theorem get?_removeAll (cat : Catalog) (ids : List EntryId) (k : EntryId) :
    (cat.removeAll ids).get? k = if k ∈ ids then none else cat.get? k := by
  induction ids generalizing cat with
  | nil => simp
  | cons id ids ih =>
    rw [removeAll_cons, ih, get?_remove]
    by_cases hmem : k ∈ ids
    · rw [if_pos hmem, if_pos (List.mem_cons_of_mem _ hmem)]
    · by_cases hid : k = id <;> simp [hmem, hid]

theorem entries_removeAll (cat : Catalog) (ids : List EntryId) :
    (cat.removeAll ids).entries = cat.entries.filter fun p => p.1 ∉ ids := by
  rw [entries_eq, entries_eq, List.filter_filterMap, length_slots_removeAll]
  congr 1
  funext id
  rw [get?_removeAll]
  by_cases hmem : id ∈ ids <;> cases cat.get? id <;> simp [hmem, Option.filter]

theorem entries_remove (cat : Catalog) (id : EntryId) :
    (cat.remove id).entries = cat.entries.filter (·.1 ≠ id) := by
  have h := cat.entries_removeAll [id]
  simp only [removeAll_cons, removeAll_nil, List.mem_singleton] at h
  exact h

theorem ids_removeAll (cat : Catalog) (ids : List EntryId) :
    (cat.removeAll ids).ids = cat.ids.filter (· ∉ ids) := by
  rw [Catalog.ids, entries_removeAll, Catalog.ids, List.filter_map]
  rfl

end CfgPatch.Catalog
