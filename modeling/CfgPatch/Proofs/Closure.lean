import CfgPatch.Body.Edit
import CfgPatch.Proofs.Computed

/-!
# Bodies that keep a node expressible

A body whose names and values come from a document turns a node that a document can hold into
one that it can hold again, with a few exceptions: a new name of the node is taken as it
stands, a replacement of matches can make any text, and what stands behind a command may begin
with a byte order mark. `Body.IsHarmless` rules out just these, and `Body.apply_ensures` is the
law. It goes through the body as `Body.apply` does: `applyKey_ensures` and `applyChild_ensures`
are its steps.
-/

namespace CfgPatch

open Text Cfg

/-! ## Harmless bodies -/

/-- What a key says to do with a value makes no name and no value that a document cannot hold. -/
def Key.IsHarmless (key : Key) (value : Text) : Prop :=
  match key.verb with
  | .shared .edit => key.operator = .replaceMatches → KeepsValues value
  | .own .replace | .own .create | .own .special => key.name.head? ≠ some byteOrderMark
  | .own .rename =>
    key.name = ['_'] → value ≠ [] ∧ '=' ∉ value ∧ value.head? ≠ some byteOrderMark
  | _ => True

namespace Body

/-- A header whose type names new nodes has no byte order mark at an end of the type. -/
def IsHarmlessHeader (name : Text) : Prop :=
  (Verb.cut name).1 = .own .replace ∨ (Verb.cut name).1 = .own .create →
    ∀ m, Matcher.parse (Verb.cut name).2.2 = .ok m →
      m.type.head? ≠ some byteOrderMark ∧ m.type.getLast? ≠ some byteOrderMark

/-- The items of a body, those in its children apart, make no name and no value that a document
cannot hold. -/
structure IsHarmless (body : Node) : Prop where
  fields : ∀ f ∈ body.fields, ∀ key, Key.parse f.name = .ok key → key.IsHarmless f.value
  children : ∀ child ∈ body.children, IsHarmlessHeader child.name

end Body

/-! ## Changes of a node -/

namespace Node.Everywhere

variable {node : Node}

theorem setFields (h : node.Everywhere Node.IsExpressible) {fields : List Field}
    (hfields : ∀ f ∈ fields, f.IsExpressible) :
    Node.Everywhere Node.IsExpressible { node with fields := fields } := by
  obtain ⟨⟨hname, hid, _⟩, hbelow⟩ := h
  exact .intro ⟨hname, hid, hfields⟩ hbelow

theorem setChildren (h : node.Everywhere Node.IsExpressible) {children : List Node}
    (hchildren : ∀ child ∈ children, child.Everywhere Node.IsExpressible) :
    Node.Everywhere Node.IsExpressible { node with children := children } := by
  obtain ⟨⟨hname, hid, hfields⟩, _⟩ := h
  exact .intro ⟨hname, hid, hfields⟩ hchildren

theorem setName (h : node.Everywhere Node.IsExpressible) {name : Text} (hname : IsName name) :
    Node.Everywhere Node.IsExpressible { node with name := name } := by
  obtain ⟨⟨_, hid, hfields⟩, hbelow⟩ := h
  exact .intro ⟨hname, hid, hfields⟩ hbelow

theorem addField (h : node.Everywhere Node.IsExpressible) {name value : Text}
    (hname : IsKey name) (hvalue : IsValue value) :
    (node.addField name value).Everywhere Node.IsExpressible := by
  refine h.setFields fun f hf => ?_
  rcases List.mem_append.1 hf with hf | hf
  · exact h.here.fields f hf
  · obtain rfl := List.mem_singleton.1 hf
    exact ⟨hname, hvalue⟩

theorem addChild (h : node.Everywhere Node.IsExpressible) {child : Node}
    (hchild : child.Everywhere Node.IsExpressible) :
    (node.addChild child).Everywhere Node.IsExpressible := by
  refine h.setChildren fun c hc => ?_
  rcases List.mem_append.1 hc with hc | hc
  · exact h.child hc
  · obtain rfl := List.mem_singleton.1 hc
    exact hchild

end Node.Everywhere

/-- A value can name a node if it is not empty, has no equals sign, and begins with no byte order
mark. -/
theorem Cfg.IsValue.isName_trim {value : Text} (h : IsValue value) (hne : value ≠ [])
    (hequals : '=' ∉ value) (hmark : value.head? ≠ some byteOrderMark) : IsName (trim value) := by
  rw [trim_eq_self h.first (h.not_isBlank_getLast h.last)]
  refine ⟨h.toIsInline, hne, hequals, fun c hc hgap => ?_, h.last⟩
  obtain rfl := eq_byteOrderMark_of_isGap hgap (h.first c hc)
  exact hmark hc

namespace Body

variable {scope : Scope} {node : Node}

/-! ## Fields -/

theorem editFields_ensures (hnode : node.Everywhere Node.IsExpressible)
    {f : List Field → Outcome (List Field)}
    (hf : (f node.fields).Ensures fun fs => ∀ g ∈ fs, Field.IsExpressible g) :
    (editFields node f).Ensures (Node.Everywhere Node.IsExpressible) :=
  hf.within fun _ hfs => hnode.setFields hfs

theorem operate_ensures {op : Operator} {operand : Text} (hoperand : IsValue operand)
    (hreplace : op = .replaceMatches → KeepsValues operand) {f : Field} (hf : f.IsExpressible) :
    (operate op operand f).Ensures Field.IsExpressible := by
  rw [operate]
  cases happly : op.apply f.value operand with
  | error e => trivial
  | ok value => exact ⟨hf.key, op.isValue_of_apply hf.value hoperand hreplace happly⟩

/-- What a key says to do with a value keeps a node expressible. -/
theorem applyKey_ensures (hscope : scope.IsExpressible) {raw value : Text} {key : Key}
    (hraw : IsKey raw) (hvalue : IsValue value) (hparse : Key.parse raw = .ok key)
    (hkey : key.IsHarmless value) (hnode : node.Everywhere Node.IsExpressible) :
    (applyKey scope key raw value node).Ensures (Node.Everywhere Node.IsExpressible) := by
  have hfields := hnode.here.fields
  -- the name in the key is one for a field if the command makes one
  have hname : (key.verb ≠ .insert → key.name.head? ≠ some byteOrderMark) →
      Field.IsExpressible ⟨key.name, value⟩ := fun hmark =>
    ⟨key.isKey_name hraw hparse hmark, hvalue⟩
  rw [Key.IsHarmless] at hkey
  rw [applyKey]
  cases hverb : key.verb with
  | insert =>
    have hnew := hname fun hne => absurd hverb hne
    exact editFields_ensures hnode (Picked.forall_mem_insert hnew hfields)
  | shared command =>
    rw [hverb] at hkey
    cases command with
    | edit =>
      exact editFields_ensures hnode
        (Picked.edit_ensures (fun f hf => operate_ensures hvalue hkey hf) hfields)
    | delete =>
      exact editFields_ensures hnode fun f hf => hfields f ((Picked.remove_sublist ..).subset hf)
    | copy => trivial
  | own command =>
    rw [hverb] at hkey
    cases command with
    | replace =>
      exact editFields_ensures hnode (Picked.forall_mem_replace (hname fun _ => hkey) hfields)
    | create =>
      have hnew := hname fun _ => hkey
      simp only [Outcome.ensures_done]
      split_ifs
      · exact hnode
      · exact hnode.addField hnew.key hnew.value
    | rename =>
      simp only
      split_ifs with hunderscore
      · obtain ⟨hne, hequals, hmark⟩ := hkey hunderscore
        exact hnode.setName (hvalue.isName_trim hne hequals hmark)
      · trivial
    | special =>
      simp only
      cases hfound : Reference.value scope (trim value) with
      | error e => trivial
      | ok found =>
        exact hnode.addField (hname fun _ => hkey).key (Reference.isValue_of_value hscope hfound)
    | paste => trivial

theorem applyFields_ensures (hscope : scope.IsExpressible) {fields : List Field}
    (hfields : ∀ f ∈ fields, f.IsExpressible)
    (hharmless : ∀ f ∈ fields, ∀ key, Key.parse f.name = .ok key → key.IsHarmless f.value)
    (hnode : node.Everywhere Node.IsExpressible) :
    (applyFields scope fields node).Ensures (Node.Everywhere Node.IsExpressible) := by
  induction fields generalizing node with
  | nil => exact hnode
  | cons f fields ih =>
    obtain ⟨hf, hrest⟩ := List.forall_mem_cons.1 hfields
    obtain ⟨hfharmless, hrestHarmless⟩ := List.forall_mem_cons.1 hharmless
    have hfield : (applyField scope f node).Ensures (Node.Everywhere Node.IsExpressible) := by
      rw [applyField]
      cases hparse : Key.parse f.name with
      | error e => trivial
      | ok key => exact applyKey_ensures hscope hf.key hf.value hparse (hfharmless key hparse) hnode
    exact hfield.andThen fun _ hedited => ih hrest hrestHarmless hedited

/-! ## Children -/

theorem attempt_ensures {α : Type} {P : Node → Prop} {x : Except PatchError α}
    {f : α → Outcome Node} (h : ∀ a, x = .ok a → (f a).Ensures P) :
    (attempt node x f).Ensures P := by
  cases x with
  | error e => trivial
  | ok a => exact h a rfl

theorem editChildren_ensures (hnode : node.Everywhere Node.IsExpressible)
    {f : List Node → Outcome (List Node)}
    (hf : (f node.children).Ensures fun cs => ∀ c ∈ cs, c.Everywhere Node.IsExpressible) :
    (editChildren node f).Ensures (Node.Everywhere Node.IsExpressible) :=
  hf.within fun _ hcs => hnode.setChildren hcs

section Edit

variable {edit : Node → Outcome Node}
  (hedit : ∀ node, node.Everywhere Node.IsExpressible →
    (edit node).Ensures (Node.Everywhere Node.IsExpressible))

include hedit

theorem everywhere_build {type : Text} (htype : IsName type) {child new : Node}
    (hid : child.id = none) (h : build type child edit = .ok new) :
    new.Everywhere Node.IsExpressible := by
  have hempty : Node.Everywhere Node.IsExpressible { Node.ofName type with id := child.id } :=
    .intro ⟨htype, hid, by simp [Node.ofName]⟩ (by simp [Node.ofName])
  exact (hedit _ hempty).of_toExcept h

theorem appendCopies_ensures {is : List Nat} (hnode : node.Everywhere Node.IsExpressible) :
    (appendCopies edit is node).Ensures (Node.Everywhere Node.IsExpressible) := by
  induction is generalizing node with
  | nil => exact hnode
  | cons i is ih =>
    rw [appendCopies]
    cases hget : node.children[i]? with
    | none => exact ih hnode
    | some source =>
      have hsource := hnode.child (List.mem_of_getElem? hget)
      exact attempt_ensures fun copy hcopy =>
        ih (hnode.addChild ((hedit source hsource).of_toExcept hcopy))

/-- What a child of a body says to do keeps a node expressible, if its own body does. -/
theorem applyChild_ensures (hscope : scope.IsExpressible) {child : Node}
    (hname : IsName child.name) (hid : child.id = none) (hheader : IsHarmlessHeader child.name)
    (hnode : node.Everywhere Node.IsExpressible) :
    (applyChild scope child edit node).Ensures (Node.Everywhere Node.IsExpressible) := by
  have hchildren : ∀ c ∈ node.children, c.Everywhere Node.IsExpressible := fun c hc =>
    hnode.child hc
  have hrest := (Verb.rest_cut child.name).1.isInfix
  rw [IsHarmlessHeader] at hheader
  rw [applyChild]
  generalize Verb.cut child.name = cut at hheader hrest ⊢
  obtain ⟨verb, symbol, rest⟩ := cut
  -- a header that names new nodes is harmless
  have htype : verb = .own .replace ∨ verb = .own .create → ∀ m, Matcher.parse rest = .ok m →
      IsName m.type := fun hverb m hm =>
    Matcher.isName_type hname hrest hm (hheader hverb m hm).1 (hheader hverb m hm).2
  cases verb with
  | insert =>
    exact attempt_ensures fun new hnew => hnode.addChild (everywhere_build hedit hname hid hnew)
  | shared command =>
    cases command with
    | edit =>
      exact attempt_ensures fun m _ =>
        editChildren_ensures hnode (Picked.edit_ensures hedit hchildren)
    | delete =>
      exact attempt_ensures fun m _ =>
        editChildren_ensures hnode fun c hc => hchildren c ((Picked.remove_sublist ..).subset hc)
    | copy =>
      exact attempt_ensures fun m _ =>
        appendCopies_ensures hedit hnode
  | own command =>
    cases command with
    | replace =>
      refine attempt_ensures fun m hm => attempt_ensures fun new hnew => ?_
      have hnew := everywhere_build hedit (htype (.inl rfl) m hm) hid hnew
      exact editChildren_ensures hnode (Picked.forall_mem_replace hnew hchildren)
    | create =>
      refine attempt_ensures fun m hm => ?_
      split_ifs
      · refine attempt_ensures fun new hnew => ?_
        exact hnode.addChild (everywhere_build hedit (htype (.inr rfl) m hm) hid hnew)
      · exact hnode
    | paste =>
      refine attempt_ensures fun found hfound => attempt_ensures fun copy hcopy => ?_
      have hfound := Reference.everywhere_of_follow hscope hfound
      exact hnode.addChild ((hedit found hfound).of_toExcept hcopy)
    | rename => trivial
    | special => trivial

end Edit

/-! ## Whole bodies -/

theorem applyChildren_ensures (hscope : scope.IsExpressible) {children : List Node}
    (hchildren : ∀ child ∈ children, IsName child.name ∧ child.id = none ∧
      IsHarmlessHeader child.name)
    (hbodies : ∀ child ∈ children, ∀ node, node.Everywhere Node.IsExpressible →
      (apply scope child node).Ensures (Node.Everywhere Node.IsExpressible))
    (hnode : node.Everywhere Node.IsExpressible) :
    (applyChildren scope children node).Ensures (Node.Everywhere Node.IsExpressible) := by
  induction children generalizing node with
  | nil => exact hnode
  | cons child children ih =>
    obtain ⟨⟨hname, hid, hheader⟩, hrest⟩ := List.forall_mem_cons.1 hchildren
    obtain ⟨hbody, hrestBodies⟩ := List.forall_mem_cons.1 hbodies
    rw [applyChildren]
    split_ifs
    · exact ih hrest hrestBodies hnode
    · exact (applyChild_ensures hbody hscope hname hid hheader hnode).andThen fun _ hedited =>
        ih hrest hrestBodies hedited

/-- A harmless body keeps a node expressible. -/
theorem apply_ensures (hscope : scope.IsExpressible) {body : Node}
    (hfields : ∀ f ∈ body.fields, f.IsExpressible)
    (hchildren : ∀ child ∈ body.children, child.Everywhere Node.IsExpressible)
    (hharmless : body.Everywhere IsHarmless) (hnode : node.Everywhere Node.IsExpressible) :
    (apply scope body node).Ensures (Node.Everywhere Node.IsExpressible) := by
  induction hharmless generalizing node with
  | @intro body here _ ih =>
    obtain ⟨name, id, fields, children⟩ := body
    rw [apply]
    refine (applyFields_ensures hscope hfields here.fields hnode).andThen fun edited hedited => ?_
    refine applyChildren_ensures hscope (fun child hchild => ?_) (fun child hchild node hnode => ?_)
      hedited
    · have hhere := (hchildren child hchild).here
      exact ⟨hhere.name, hhere.id, here.children child hchild⟩
    · have hchild' := hchildren child hchild
      exact ih child hchild hchild'.here.fields (fun c hc => hchild'.child hc) hnode

end Body

end CfgPatch
