import CfgPatch.Proofs.Closure
import CfgPatch.Proofs.Rounds

/-!
# Bodies that keep a name

A body has one way to give the node that it is applied to another name: a field whose key
begins with a bar. Whatever else it does, with fields, with children, or with the names of
children, the node itself goes by the same name before and after (`Body.apply_ensures_name`),
and so it does however often the body is applied (`Body.name_repeated`).

The command of a key is its first character that is no blank. The index and the operator, which
are cut off at the other end, do not reach it (`Key.verb_of_parse`).
-/

namespace CfgPatch

open Text

/-! ## The command of a key -/

theorem BodyCommand.eq_symbol_of_ofSymbol? {c : Char} {command : BodyCommand}
    (h : ofSymbol? c = some command) : c = command.symbol := by
  unfold ofSymbol? at h
  split at h
  case h_6 => exact absurd h (by simp)
  all_goals
    obtain rfl := Option.some.inj h
    rfl

/-- A command that only bodies have is written as its own character and no other. -/
theorem Verb.eq_symbol_of_ofSymbol {c : Char} {command : BodyCommand}
    (h : Verb.ofSymbol c = .own command) : c = command.symbol := by
  unfold Verb.ofSymbol at h
  split at h
  · exact absurd h (by simp)
  · rename_i found _ hfound
    obtain rfl := Verb.own.inj h
    exact BodyCommand.eq_symbol_of_ofSymbol? hfound
  · exact absurd h (by simp)

theorem Verb.verb_cut (c : Char) (t : Text) : (Verb.cut (c :: t)).1 = Verb.ofSymbol c := by
  rw [Verb.cut]
  cases Verb.ofSymbol c <;> rfl

/-- A name that is cut behind a command of bodies begins with the character of the command. -/
theorem Verb.eq_cons_of_cut_own {t rest : Text} {command : BodyCommand} {symbol : Char}
    (h : Verb.cut t = (.own command, symbol, rest)) : t = command.symbol :: rest := by
  cases t with
  | nil => exact absurd h (by simp [Verb.cut])
  | cons c t =>
    have hverb : Verb.ofSymbol c = .own command := by rw [← Verb.verb_cut c t, h]
    rw [Verb.cut, hverb] at h
    obtain ⟨_, hrest⟩ := Prod.mk.inj (Prod.mk.inj h).2
    rw [Verb.eq_symbol_of_ofSymbol hverb, hrest]

/-- The command of a key is its first character that is no blank. -/
theorem Key.verb_of_parse {t : Text} {key : Key} (h : Key.parse t = .ok key) :
    ∃ c, (trim t).head? = some c ∧ key.verb = Verb.ofSymbol c := by
  obtain ⟨head, piece, hhead, hverb, hpiece, hname, hne⟩ := Key.exists_of_parse h
  cases head with
  | nil =>
    -- nothing would be left to be the name
    have hnil : piece = [] := List.prefix_nil.1 hpiece
    rw [hname, hnil] at hne
    exact absurd rfl hne
  | cons c rest =>
    have hfirst : (trim t).head? = some c := mem_head?_of_isPrefix hhead rfl
    exact ⟨c, hfirst, hverb.trans (Verb.verb_cut c rest)⟩

theorem Key.head?_of_own {t : Text} {key : Key} (h : Key.parse t = .ok key)
    {command : BodyCommand} (hverb : key.verb = .own command) :
    (trim t).head? = some command.symbol := by
  obtain ⟨c, hc, hverb'⟩ := Key.verb_of_parse h
  have hsymbol : c = command.symbol := Verb.eq_symbol_of_ofSymbol (hverb'.symm.trans hverb)
  rw [hc, hsymbol]

namespace Body

variable {scope : Scope} {node : Node}

/-! ## What cannot rename a node -/

/-- None of the keys of a body, those in its children apart, has a bar in front. -/
def KeepsName (body : Node) : Prop := ∀ f ∈ body.fields, (trim f.name).head? ≠ some '|'

instance (body : Node) : Decidable (KeepsName body) :=
  inferInstanceAs (Decidable (∀ f ∈ body.fields, _))

theorem editFields_ensures_name (node : Node) (f : List Field → Outcome (List Field)) :
    (editFields node f).Ensures fun edited => edited.name = node.name := by
  rw [editFields]
  cases f node.fields with
  | done fields => rfl
  | stopped e fields => trivial

theorem editChildren_ensures_name (node : Node) (f : List Node → Outcome (List Node)) :
    (editChildren node f).Ensures fun edited => edited.name = node.name := by
  rw [editChildren]
  cases f node.children with
  | done children => rfl
  | stopped e children => trivial

/-- Only the command to rename does so. -/
theorem applyKey_ensures_name {key : Key} (hverb : key.verb ≠ .own .rename) (raw value : Text)
    (node : Node) :
    (applyKey scope key raw value node).Ensures fun edited => edited.name = node.name := by
  rw [applyKey]
  cases hkey : key.verb with
  | insert => exact editFields_ensures_name ..
  | shared command =>
    cases command with
    | edit => exact editFields_ensures_name ..
    | delete => exact editFields_ensures_name ..
    | copy => trivial
  | own command =>
    cases command with
    | replace => exact editFields_ensures_name ..
    | create =>
      simp only [Outcome.ensures_done]
      split_ifs <;> rfl
    | rename => exact absurd hkey hverb
    | special =>
      simp only
      cases Reference.value scope (trim value) with
      | error e => trivial
      | ok found => rfl
    | paste => trivial

theorem applyFields_ensures_name {fields : List Field}
    (h : ∀ f ∈ fields, (trim f.name).head? ≠ some '|') (node : Node) :
    (applyFields scope fields node).Ensures fun edited => edited.name = node.name := by
  induction fields generalizing node with
  | nil => rfl
  | cons f fields ih =>
    obtain ⟨hf, hrest⟩ := List.forall_mem_cons.1 h
    have hfield : (applyField scope f node).Ensures fun edited => edited.name = node.name := by
      rw [applyField]
      cases hparse : Key.parse f.name with
      | error e => trivial
      | ok key =>
        exact applyKey_ensures_name (fun hverb => hf (Key.head?_of_own hparse hverb)) ..
    refine hfield.andThen fun edited hedited => ?_
    rw [← hedited]
    exact ih hrest edited

/-! ## Children -/

theorem appendCopies_ensures_name (edit : Node → Outcome Node) (is : List Nat) (node : Node) :
    (appendCopies edit is node).Ensures fun edited => edited.name = node.name := by
  induction is generalizing node with
  | nil => rfl
  | cons i is ih =>
    rw [appendCopies]
    cases node.children[i]? with
    | none => exact ih node
    | some source => exact attempt_ensures fun copy _ => ih (node.addChild copy)

/-- What a child of a body says to do is done to the children of a node. -/
theorem applyChild_ensures_name (child : Node) (edit : Node → Outcome Node) (node : Node) :
    (applyChild scope child edit node).Ensures fun edited => edited.name = node.name := by
  rw [applyChild]
  generalize Verb.cut child.name = cut
  obtain ⟨verb, symbol, rest⟩ := cut
  cases verb with
  | insert => exact attempt_ensures fun _ _ => rfl
  | shared command =>
    cases command with
    | edit => exact attempt_ensures fun _ _ => editChildren_ensures_name ..
    | delete => exact attempt_ensures fun _ _ => editChildren_ensures_name ..
    | copy => exact attempt_ensures fun _ _ => appendCopies_ensures_name ..
  | own command =>
    cases command with
    | replace =>
      exact attempt_ensures fun _ _ => attempt_ensures fun _ _ => editChildren_ensures_name ..
    | create =>
      refine attempt_ensures fun m _ => ?_
      split_ifs
      · exact attempt_ensures fun _ _ => rfl
      · rfl
    | paste => exact attempt_ensures fun _ _ => attempt_ensures fun _ _ => rfl
    | rename => trivial
    | special => trivial

theorem applyChildren_ensures_name (children : List Node) (node : Node) :
    (applyChildren scope children node).Ensures fun edited => edited.name = node.name := by
  induction children generalizing node with
  | nil => rfl
  | cons child children ih =>
    rw [applyChildren]
    split_ifs
    · exact ih node
    · refine (applyChild_ensures_name child _ node).andThen fun edited hedited => ?_
      rw [← hedited]
      exact ih edited

/-! ## Whole bodies -/

theorem apply_ensures_name {body : Node} (h : KeepsName body) (node : Node) :
    (apply scope body node).Ensures fun edited => edited.name = node.name := by
  obtain ⟨name, id, fields, children⟩ := body
  rw [apply]
  refine (applyFields_ensures_name h node).andThen fun edited hedited => ?_
  rw [← hedited]
  exact applyChildren_ensures_name children edited

/-- However often the body is applied, the name stays. -/
theorem name_repeated {body result : Node} (h : KeepsName body) {k : Nat}
    (hrun : repeated scope body k node = .ok result) : result.name = node.name := by
  refine repeated_ensures (P := fun edited => edited.name = node.name) ?_ rfl hrun
  intro edited hedited
  rw [← hedited]
  exact apply_ensures_name h edited

end Body

end CfgPatch
