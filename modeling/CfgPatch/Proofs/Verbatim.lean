import CfgPatch.Proofs.Children
import CfgPatch.Proofs.Splitting

/-!
# Bodies that are inserted as they are

What a body inserts is not copied but built: each key is read, each name is looked at for a
command, and each child grows from an empty node by its own body. If nothing in a body says
otherwise (`Body.IsPlain`), this comes to the same. The fields and the children of the body are
then appended as they stand, with all that is below them (`apply_verbatim`).
-/

namespace CfgPatch

open Text

namespace Body

/-- The characters that are commands in front of a name in a body. -/
def verbSymbols : Text := "@+$-!%&|#*".toList

/-- The characters that are operators behind a key. -/
def operatorSymbols : Text := "*/+-!^".toList

/-- A name that begins with no command. -/
def HasNoCommand (name : Text) : Prop := ∀ c ∈ name.head?, c ∉ verbSymbols

theorem HasNoCommand.of_head {name : Text} {first : Char} (hfirst : name.head? = some first)
    (hcommand : first ∉ verbSymbols) : HasNoCommand name := by
  intro c hc
  obtain rfl := Option.some.inj (hfirst.symm.trans hc)
  exact hcommand

/-- A key that is a name and nothing else. -/
structure IsPlainKey (key : Text) : Prop where
  nonempty : key ≠ []
  trimmed : trim key = key
  noIndex : ',' ∉ key
  noCommand : HasNoCommand key
  noOperator : ∀ front blank symbol, key = front ++ [blank, symbol] → isBlank blank →
    symbol ∉ operatorSymbols

/-- A key with no comma is plain if neither of its ends says otherwise. -/
theorem IsPlainKey.of_ends {key : Text} {first last : Char} (hfirst : key.head? = some first)
    (hcommand : first ∉ verbSymbols) (hlast : key.getLast? = some last)
    (hoperator : last ∉ operatorSymbols) (htrim : trim key = key) (hcomma : ',' ∉ key) :
    IsPlainKey key where
  nonempty := by
    rintro rfl
    exact absurd hfirst (by simp)
  trimmed := htrim
  noIndex := hcomma
  noCommand := .of_head hfirst hcommand
  noOperator := by
    rintro front blank symbol rfl _
    obtain rfl : symbol = last := by simpa using hlast
    exact hoperator

/-- No key of a body, and no name of a child in it, says more than how something is called. -/
structure IsPlain (body : Node) : Prop where
  keys : ∀ f ∈ body.fields, IsPlainKey f.name
  names : ∀ child ∈ body.children, HasNoCommand child.name ∧ child.name ≠ loopMarker

end Body

open Body

/-! ## Names without a command -/

theorem Command.mem_verbSymbols {c : Char} {command : Command}
    (h : ofSymbol? c = some command) : c ∈ verbSymbols := by
  unfold ofSymbol? at h
  split at h
  case h_6 => exact absurd h (by simp)
  all_goals decide

theorem BodyCommand.mem_verbSymbols {c : Char} {command : BodyCommand}
    (h : ofSymbol? c = some command) : c ∈ verbSymbols := by
  rw [eq_symbol_of_ofSymbol? h]
  cases command <;> decide

theorem Verb.ofSymbol_eq_insert {c : Char} (h : c ∉ verbSymbols) : ofSymbol c = .insert := by
  have hcommand : Command.ofSymbol? c = none :=
    Option.eq_none_iff_forall_ne_some.2 fun _ hc => h (Command.mem_verbSymbols hc)
  have hbody : BodyCommand.ofSymbol? c = none :=
    Option.eq_none_iff_forall_ne_some.2 fun _ hc => h (BodyCommand.mem_verbSymbols hc)
  rw [ofSymbol, hcommand, hbody]

theorem Verb.exists_cut_of_hasNoCommand {t : Text} (h : HasNoCommand t) :
    ∃ symbol, cut t = (.insert, symbol, t) := by
  cases t with
  | nil => exact ⟨' ', rfl⟩
  | cons c t =>
    refine ⟨c, ?_⟩
    rw [cut, ofSymbol_eq_insert (h c rfl)]

theorem Operator.mem_operatorSymbols {c : Char} {op : Operator} (h : ofSymbol? c = some op) :
    c ∈ operatorSymbols := by
  unfold ofSymbol? at h
  split at h
  case h_7 => exact absurd h (by simp)
  all_goals decide

namespace Body.IsPlainKey

variable {key : Text}

theorem cutOperator (h : IsPlainKey key) : Key.cutOperator key = (key, .assign) := by
  unfold Key.cutOperator
  split
  · rename_i head c hsplit
    obtain ⟨blank, hkey, hblank⟩ := exists_append_of_splitLast? hsplit
    have hnone : Operator.ofSymbol? c = none := Option.eq_none_iff_forall_ne_some.2 fun _ hc =>
      h.noOperator head blank c hkey hblank (Operator.mem_operatorSymbols hc)
    rw [hnone]
  · rfl

theorem cutIndex (h : IsPlainKey key) (raw : Text) : Key.cutIndex raw key = .ok (key, none) := by
  have hcomma : splitLast? (· == ',') key = none :=
    splitLast?_eq_none_iff.2 fun c hc hcomma => h.noIndex (beq_iff_eq.1 hcomma ▸ hc)
  rw [Key.cutIndex, hcomma, h.trimmed]

/-- A plain key is read as the insertion of its name. -/
theorem parse (h : IsPlainKey key) :
    ∃ symbol, Key.parse key = .ok ⟨.insert, symbol, key, none, .assign⟩ := by
  obtain ⟨symbol, hcut⟩ := Verb.exists_cut_of_hasNoCommand h.noCommand
  refine ⟨symbol, ?_⟩
  simp [Key.parse, h.trimmed, h.cutOperator, hcut, h.cutIndex, h.nonempty]

end Body.IsPlainKey

namespace Body

variable {scope : Scope}

/-! ## Fields and children -/

theorem applyField_verbatim {f : Field} (h : IsPlainKey f.name) (node : Node) :
    applyField scope f node = .done (node.addField f.name f.value) := by
  obtain ⟨symbol, hparse⟩ := h.parse
  rw [applyField, hparse]
  rfl

theorem applyFields_verbatim {fields : List Field} (h : ∀ f ∈ fields, IsPlainKey f.name)
    (node : Node) :
    applyFields scope fields node = .done { node with fields := node.fields ++ fields } := by
  induction fields generalizing node with
  | nil => rw [applyFields, List.append_nil, node.mk_eta]
  | cons f fields ih =>
    obtain ⟨hf, hrest⟩ := List.forall_mem_cons.1 h
    rw [applyFields, applyField_verbatim hf, Outcome.andThen_done, ih hrest]
    simp [Node.addField]

/-- A child grows from an empty node into itself. -/
theorem applyChild_verbatim {child : Node} (hname : HasNoCommand child.name)
    (hbody : ∀ node, apply scope child node = .done { node with
      fields := node.fields ++ child.fields, children := node.children ++ child.children })
    (node : Node) :
    applyChild scope child (apply scope child) node = .done (node.addChild child) := by
  have hgrown : build child.name child (apply scope child) = .ok child := by
    rw [build_eq_ok, hbody]
    simp [child.mk_eta]
  obtain ⟨symbol, hcut⟩ := Verb.exists_cut_of_hasNoCommand hname
  simp [applyChild, hcut, hgrown, attempt]

theorem applyChildren_verbatim {children : List Node}
    (hnames : ∀ child ∈ children, HasNoCommand child.name ∧ child.name ≠ loopMarker)
    (hbodies : ∀ child ∈ children, ∀ node, apply scope child node = .done { node with
      fields := node.fields ++ child.fields, children := node.children ++ child.children })
    (node : Node) :
    applyChildren scope children node =
      .done { node with children := node.children ++ children } := by
  induction children generalizing node with
  | nil => rw [applyChildren, List.append_nil, node.mk_eta]
  | cons child children ih =>
    obtain ⟨⟨hname, hloop⟩, hrest⟩ := List.forall_mem_cons.1 hnames
    obtain ⟨hbody, hrestBodies⟩ := List.forall_mem_cons.1 hbodies
    rw [applyChildren, if_neg hloop, applyChild_verbatim hname hbody, Outcome.andThen_done,
      ih hrest hrestBodies]
    simp [Node.addChild]

/-! ## Whole bodies -/

/-- A body that is plain at every depth can be applied to every node, whatever references could
see, and appends its fields and its children as they stand. -/
theorem apply_verbatim (scope : Scope) {body : Node} (h : body.Everywhere IsPlain) (node : Node) :
    apply scope body node = .done { node with
      fields := node.fields ++ body.fields, children := node.children ++ body.children } := by
  induction h generalizing node with
  | @intro body here _ ih =>
    obtain ⟨name, id, fields, children⟩ := body
    rw [apply, applyFields_verbatim here.keys, Outcome.andThen_done,
      applyChildren_verbatim here.names ih]

/-- Fields with a name twice, without a value and with a blank in the name, and a child with an
identifier and a child of its own. -/
def plainBody : Node where
  name := "@PART".toList
  id := none
  fields := [⟨"cost".toList, "@x".toList⟩, ⟨"cost".toList, []⟩, ⟨"mass *kg".toList, "2".toList⟩]
  children := [⟨"RESOURCE,*".toList, some "r1".toList, [⟨"name".toList, "fuel".toList⟩],
    [⟨"CURVE".toList, none, [], []⟩]⟩]

theorem plainBody_isPlain : plainBody.Everywhere IsPlain := by
  have hcost : IsPlainKey "cost".toList := .of_ends rfl (by decide) rfl (by decide) rfl (by decide)
  have hmass : IsPlainKey "mass *kg".toList :=
    .of_ends rfl (by decide) rfl (by decide) rfl (by decide)
  have hname : IsPlainKey "name".toList := .of_ends rfl (by decide) rfl (by decide) rfl (by decide)
  have hresource : HasNoCommand "RESOURCE,*".toList ∧ "RESOURCE,*".toList ≠ loopMarker :=
    ⟨.of_head rfl (by decide), by decide⟩
  have hcurve : HasNoCommand "CURVE".toList ∧ "CURVE".toList ≠ loopMarker :=
    ⟨.of_head rfl (by decide), by decide⟩
  refine .intro ⟨?_, List.forall_mem_singleton.2 hresource⟩ (List.forall_mem_singleton.2 ?_)
  · exact List.forall_mem_cons.2 ⟨hcost, List.forall_mem_cons.2
      ⟨hcost, List.forall_mem_singleton.2 hmass⟩⟩
  · refine .intro ⟨List.forall_mem_singleton.2 hname, List.forall_mem_singleton.2 hcurve⟩
      (List.forall_mem_singleton.2 ?_)
    exact .intro ⟨by simp, by simp⟩ (by simp)

theorem apply_verbatim_plainBody :
    plainBody.Everywhere IsPlain ∧
    apply ⟨.empty, twoModules⟩ plainBody twoModules = .done { twoModules with
      fields := twoModules.fields ++ plainBody.fields
      children := twoModules.children ++ plainBody.children } :=
  ⟨plainBody_isPlain, apply_verbatim ⟨.empty, twoModules⟩ plainBody_isPlain twoModules⟩

end Body

end CfgPatch
