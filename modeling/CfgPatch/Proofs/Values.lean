import CfgPatch.Proofs.Naming
import CfgPatch.Proofs.Picking

/-!
# What a key does to the values of its name

A field of a body is about the values of one name. `Key.Effect` says for every command what
becomes of these, as a list of their own in which an index counts, although it is the fields of
all names together that are worked on. Whatever the command is, the fields of other names stay as
they are, and so does the rest of the node, but for the command to rename it
(`applyField_effect`).
-/

namespace CfgPatch

open Text

/-- What a node becomes by a key and a value that can be applied to it. -/
def Key.Effect (key : Key) (scope : Scope) (value : Text) (node node' : Node) : Prop :=
  let old := node.valuesOf key.name
  let new := node'.valuesOf key.name
  match key.verb with
  | .insert =>
    match key.index with
    | some (.nth n) =>
      if n < old.length then
        new = old.insertIdx n value ∧
        -- among all fields it stands right in front of the one that the index names
        ∃ as f bs, node.fields = as ++ f :: bs ∧ f.name = key.name ∧
          (as.filter (·.name = key.name)).length = n ∧
          node'.fields = as ++ ⟨key.name, value⟩ :: f :: bs
      else node' = node.addField key.name value
    | _ => node' = node.addField key.name value
  | .shared .edit =>
    node'.fields.map (·.name) = node.fields.map (·.name) ∧ new.length = old.length ∧
    ∀ rank x, old[rank]? = some x → ∃ y, new[rank]? = some y ∧
      if Index.picks key.index rank then key.operator.apply x value = .ok y else y = x
  | .shared .delete => new = Index.without key.index old
  | .own .replace =>
    if old = [] then node' = node.addField key.name value
    else node'.fields.map (·.name) = node.fields.map (·.name) ∧ new = old.set 0 value
  | .own .create => node' = if old = [] then node.addField key.name value else node
  | .own .special =>
    ∃ found, Reference.value scope (trim value) = .ok found ∧ node' = node.addField key.name found
  | .own .rename => key.name = ['_'] ∧ node' = { node with name := trim value }
  | .shared .copy | .own .paste => False

/-- Two nodes are the same but for the fields of one name and, it may be, their own names. -/
structure Node.AgreesOutside (name : Text) (node node' : Node) : Prop where
  id : node'.id = node.id
  children : node'.children = node.children
  others : node'.fields.filter (·.name ≠ name) = node.fields.filter (·.name ≠ name)

namespace Node

variable {node : Node} {name value : Text}

theorem AgreesOutside.refl (name : Text) (node : Node) : AgreesOutside name node node :=
  ⟨rfl, rfl, rfl⟩

theorem AgreesOutside.addField (name value : Text) (node : Node) :
    AgreesOutside name node (node.addField name value) := by
  refine ⟨rfl, rfl, ?_⟩
  simp [Node.addField, List.filter_append]

theorem AgreesOutside.of_filter {fs : List Field}
    (h : fs.filter (!Body.isNamed name ·) = node.fields.filter (!Body.isNamed name ·)) :
    AgreesOutside name node { node with fields := fs } := by
  have hothers : ∀ gs : List Field,
      gs.filter (·.name ≠ name) = gs.filter (!Body.isNamed name ·) := by
    intro gs
    refine List.filter_congr fun g _ => ?_
    simp [Body.isNamed]
  exact ⟨rfl, rfl, by rw [hothers, hothers]; exact h⟩

/-- There are as many positions of a name as values. -/
theorem length_positions_isNamed (name : Text) (node : Node) :
    (Index.positions (Body.isNamed name) node.fields).length = (node.valuesOf name).length := by
  rw [Index.length_positions, valuesOf, List.length_map]
  rfl

theorem hasField_iff (name : Text) (node : Node) :
    node.hasField name ↔ node.valuesOf name ≠ [] := by
  simp [hasField, valuesOf, List.filter_eq_nil_iff]

end Node

namespace Body

variable {scope : Scope} {key : Key} {value raw : Text} {node node' : Node}

/-- The node apart from its fields is not touched when these are edited. -/
theorem editFields_eq_done {f : List Field → Outcome (List Field)}
    (h : editFields node f = .done node') :
    ∃ fs, f node.fields = .done fs ∧ { node with fields := fs } = node' :=
  Outcome.within_eq_done.1 h

/-- An edit changes the value of a field and not its name. -/
theorem operate_eq_done {op : Operator} {f g : Field} (h : operate op value f = .done g) :
    g.name = f.name ∧ op.apply f.value value = .ok g.value := by
  rw [operate] at h
  cases happly : op.apply f.value value with
  | error e => simp [happly] at h
  | ok result =>
    rw [happly] at h
    obtain rfl := Outcome.done.inj h
    exact ⟨rfl, rfl⟩

/-! ## Command by command -/

/-- To insert in front of the value that an index names does so in the list of the values; if
there is no such value, the new one stands behind all fields. -/
theorem applyKey_insert (hverb : key.verb = .insert)
    (h : applyKey scope key raw value node = .done node') :
    node.AgreesOutside key.name node' ∧ key.Effect scope value node node' := by
  simp only [applyKey, hverb] at h
  obtain ⟨fs, hfs, rfl⟩ := editFields_eq_done h
  obtain rfl := Outcome.done.inj hfs
  simp only [Key.Effect, hverb]
  have happend : node.AgreesOutside key.name { node with
      fields := Picked.insert ⟨key.name, value⟩ none node.fields } := .addField ..
  cases hindex : key.index with
  | none => exact ⟨happend, rfl⟩
  | some index =>
    cases index with
    | every => exact ⟨happend, rfl⟩
    | nth n =>
      simp only
      have hlen := node.length_positions_isNamed key.name
      cases hn : (Index.positions (isNamed key.name) node.fields)[n]? with
      | none =>
        have hle := List.getElem?_eq_none_iff.1 hn
        rw [if_neg (by omega)]
        exact ⟨happend, rfl⟩
      | some i =>
        have hlt := (List.getElem?_eq_some_iff.1 hn).1
        have hnew : isNamed key.name ⟨key.name, value⟩ := by simp [isNamed]
        obtain ⟨hvalues, hothers⟩ := filter_insertIdx hn hnew
        rw [if_pos (by omega)]
        refine ⟨.of_filter hothers, ?_, ?_⟩
        · have hmap := congrArg (List.map (·.value)) hvalues
          rwa [List.map_insertIdx] at hmap
        · obtain ⟨as, f, bs, hfields, rfl, hf, hcount⟩ :=
            Index.exists_append_of_getElem?_positions hn
          refine ⟨as, f, bs, hfields, by simpa [isNamed] using hf, hcount, ?_⟩
          rw [Picked.insert, hfields]
          exact insertIdx_length_append ..

/-- To change the values that an index picks does so in the list of the values. -/
theorem applyKey_edit (hverb : key.verb = .shared .edit)
    (h : applyKey scope key raw value node = .done node') :
    node.AgreesOutside key.name node' ∧ key.Effect scope value node node' := by
  simp only [applyKey, hverb] at h
  obtain ⟨fs, hfs, rfl⟩ := editFields_eq_done h
  have hnames : ∀ f g, operate key.operator value f = .done g → g.name = f.name :=
    fun f g hg => (operate_eq_done hg).1
  have hnamed : ∀ f g, operate key.operator value f = .done g →
      isNamed key.name g = isNamed key.name f := by
    intro f g hg
    rw [isNamed, isNamed, hnames f g hg]
  obtain ⟨hlen, hget, hothers⟩ := Picked.filter_edit hnamed hfs
  have hpicked := (Index.pick_sublist key.index _).nodup
    (Index.positions_nodup (isNamed key.name) node.fields)
  simp only [Key.Effect, hverb]
  refine ⟨.of_filter hothers, Picked.map_edit hnames hpicked hfs, ?_, ?_⟩
  · rw [Node.valuesOf, Node.valuesOf, List.length_map, List.length_map]
    exact hlen
  · intro rank x hx
    rw [Node.valuesOf, List.getElem?_map] at hx
    obtain ⟨f, hf, rfl⟩ := Option.map_eq_some_iff.1 hx
    obtain ⟨g, hg, hedited⟩ := hget rank f hf
    refine ⟨g.value, ?_, ?_⟩
    · rw [Node.valuesOf, List.getElem?_map]
      exact Option.map_eq_some_iff.2 ⟨g, hg, rfl⟩
    · by_cases hpicks : Index.picks key.index rank
      · rw [if_pos hpicks] at hedited ⊢
        exact (operate_eq_done hedited).2
      · rw [if_neg hpicks] at hedited ⊢
        rw [hedited]

/-- To remove the values that an index picks does so in the list of the values. -/
theorem applyKey_delete (hverb : key.verb = .shared .delete)
    (h : applyKey scope key raw value node = .done node') :
    node.AgreesOutside key.name node' ∧ key.Effect scope value node node' := by
  simp only [applyKey, hverb] at h
  obtain ⟨fs, hfs, rfl⟩ := editFields_eq_done h
  obtain rfl := Outcome.done.inj hfs
  obtain ⟨hvalues, hothers⟩ := Picked.filter_remove key.index (isNamed key.name) node.fields
  simp only [Key.Effect, hverb]
  refine ⟨.of_filter hothers, ?_⟩
  have hmap := congrArg (List.map (·.value)) hvalues
  rwa [Index.map_without] at hmap

/-- To replace a value does so with the first of the values; if there is none, the new one stands
behind all fields. -/
theorem applyKey_replace (hverb : key.verb = .own .replace)
    (h : applyKey scope key raw value node = .done node') :
    node.AgreesOutside key.name node' ∧ key.Effect scope value node node' := by
  simp only [applyKey, hverb] at h
  obtain ⟨fs, hfs, rfl⟩ := editFields_eq_done h
  obtain rfl := Outcome.done.inj hfs
  have hlen := node.length_positions_isNamed key.name
  simp only [Key.Effect, hverb, List.head?_eq_getElem?]
  cases hzero : (Index.positions (isNamed key.name) node.fields)[0]? with
  | none =>
    have hle := List.getElem?_eq_none_iff.1 hzero
    have hnil : node.valuesOf key.name = [] := List.eq_nil_of_length_eq_zero (by omega)
    rw [if_pos hnil]
    exact ⟨.addField .., rfl⟩
  | some i =>
    have hlt := (List.getElem?_eq_some_iff.1 hzero).1
    have hne : node.valuesOf key.name ≠ [] := List.ne_nil_of_length_pos (by omega)
    have hnew : isNamed key.name ⟨key.name, value⟩ := by simp [isNamed]
    obtain ⟨hvalues, hothers⟩ := filter_set hzero hnew
    rw [if_neg hne]
    refine ⟨.of_filter hothers, ?_, ?_⟩
    · obtain ⟨as, f, bs, hfields, rfl, hf, _⟩ := Index.exists_append_of_getElem?_positions hzero
      have hname : f.name = key.name := by simpa [isNamed] using hf
      rw [Picked.replace, hfields]
      simp [hname]
    · have hmap := congrArg (List.map (·.value)) hvalues
      rwa [List.map_set] at hmap

/-- To create a value does so behind all fields, if there is none. -/
theorem applyKey_create (hverb : key.verb = .own .create)
    (h : applyKey scope key raw value node = .done node') :
    node.AgreesOutside key.name node' ∧ key.Effect scope value node node' := by
  simp only [applyKey, hverb, Outcome.done.injEq] at h
  simp only [Key.Effect, hverb]
  by_cases hfield : node.hasField key.name
  · have hne : node.valuesOf key.name ≠ [] := (Node.hasField_iff ..).1 hfield
    rw [if_pos hfield] at h
    rw [if_neg hne]
    exact ⟨h ▸ .refl .., h.symm⟩
  · have hnil : node.valuesOf key.name = [] :=
      not_not.1 fun hne => hfield ((Node.hasField_iff ..).2 hne)
    rw [if_neg hfield] at h
    rw [if_pos hnil]
    exact ⟨h ▸ .addField .., h.symm⟩

/-- To rename a node changes nothing but its name. -/
theorem applyKey_rename (hverb : key.verb = .own .rename)
    (h : applyKey scope key raw value node = .done node') :
    node.AgreesOutside key.name node' ∧ key.Effect scope value node node' := by
  simp only [applyKey, hverb] at h
  simp only [Key.Effect, hverb]
  split_ifs at h with hunderscore
  obtain rfl := Outcome.done.inj h
  exact ⟨⟨rfl, rfl, rfl⟩, hunderscore, rfl⟩

/-- A value that is fetched stands behind all fields. -/
theorem applyKey_special (hverb : key.verb = .own .special)
    (h : applyKey scope key raw value node = .done node') :
    node.AgreesOutside key.name node' ∧ key.Effect scope value node node' := by
  simp only [applyKey, hverb] at h
  simp only [Key.Effect, hverb]
  cases hfound : Reference.value scope (trim value) with
  | error e =>
    rw [hfound] at h
    exact absurd h (by simp)
  | ok found =>
    rw [hfound] at h
    obtain rfl := Outcome.done.inj h
    exact ⟨.addField .., found, rfl, rfl⟩

/-! ## Every command -/

theorem applyKey_effect (h : applyKey scope key raw value node = .done node') :
    node.AgreesOutside key.name node' ∧ key.Effect scope value node node' := by
  -- to copy and to paste are about nodes
  have hfails : key.verb = .shared .copy ∨ key.verb = .own .paste → False := by
    rintro (hverb | hverb) <;> simp [applyKey, hverb] at h
  cases hverb : key.verb with
  | insert => exact applyKey_insert hverb h
  | shared command =>
    cases command with
    | edit => exact applyKey_edit hverb h
    | delete => exact applyKey_delete hverb h
    | copy => exact (hfails (.inl hverb)).elim
  | own command =>
    cases command with
    | replace => exact applyKey_replace hverb h
    | create => exact applyKey_create hverb h
    | rename => exact applyKey_rename hverb h
    | special => exact applyKey_special hverb h
    | paste => exact (hfails (.inr hverb)).elim

/-- A field of a body that can be applied changes the values of the name in its key as its command
says, and those of no other name. The node keeps its children and its identifier, and also its
name unless the command is to rename it, which does nothing else. -/
theorem applyField_effect {f : Field} (hkey : Key.parse f.name = .ok key)
    (h : applyField scope f node = .done node') :
    node'.id = node.id ∧ node'.children = node.children ∧
      node'.fields.filter (·.name ≠ key.name) = node.fields.filter (·.name ≠ key.name) ∧
      (key.verb ≠ .own .rename → node'.name = node.name) ∧
      key.Effect scope f.value node node' := by
  have happly : applyKey scope key f.name f.value node = .done node' := by
    rw [applyField, hkey] at h
    exact h
  obtain ⟨hagrees, heffect⟩ := applyKey_effect happly
  have hname : key.verb ≠ .own .rename → node'.name = node.name := by
    intro hverb
    have hensures : (applyKey scope key f.name f.value node).Ensures
        fun edited => edited.name = node.name := applyKey_ensures_name hverb ..
    rw [happly] at hensures
    exact hensures
  exact ⟨hagrees.id, hagrees.children, hagrees.others, hname, heffect⟩

/-- Values of `a` with one of `b` in between. -/
def interleaved : Node :=
  ⟨"PART".toList, none, [⟨['a'], ['1']⟩, ⟨['b'], ['2']⟩, ⟨['a'], ['3']⟩], []⟩

/-- A value that is inserted in front of the second one stands behind what is in between. -/
theorem applyField_effect_interleaved :
    let node' : Node := { interleaved with
      fields := [⟨['a'], ['1']⟩, ⟨['b'], ['2']⟩, ⟨['a'], ['x']⟩, ⟨['a'], ['3']⟩] }
    Key.parse "a,1".toList = .ok ⟨.insert, 'a', ['a'], some (.nth 1), .assign⟩ ∧
    applyField ⟨.empty, interleaved⟩ ⟨"a,1".toList, ['x']⟩ interleaved = .done node' ∧
    node'.fields.filter (·.name ≠ ['a']) = interleaved.fields.filter (·.name ≠ ['a']) ∧
    node'.valuesOf ['a'] = (interleaved.valuesOf ['a']).insertIdx 1 ['x'] := by
  intro node'
  have hkey : Key.parse "a,1".toList = .ok ⟨.insert, 'a', ['a'], some (.nth 1), .assign⟩ := by
    decide +kernel
  have happly : applyField ⟨.empty, interleaved⟩ ⟨"a,1".toList, ['x']⟩ interleaved =
      .done node' := by decide +kernel
  obtain ⟨_, _, hothers, _, heffect⟩ := applyField_effect hkey happly
  exact ⟨hkey, happly, hothers, heffect.1⟩

end Body

end CfgPatch
