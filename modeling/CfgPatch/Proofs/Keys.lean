import CfgPatch.Proofs.HeaderGrammar
import CfgPatch.Proofs.Verbatim

/-!
# Keys as they are written

A star in a key may be a command, an index, an operator or a part of the name, and so it is with
several other characters; which of these it is depends on where it stands. A key is written as a
command, a name, an index behind a comma, and blanks and an operator (`Key.Spelling`). What is
written like this is read as what it says, or refused because only edits have operators
(`Key.parse_of_spells`). Nothing is asked of the name beyond what keeps it apart from the other
parts.
-/

namespace CfgPatch

open Text Body

/-! ## Parts of keys -/

/-- The ways to write a verb in front of a name. -/
def Verb.spellings : Verb → List Text
  | .insert => [[]]
  | .shared .edit => ["@".toList]
  | .shared .copy => ["+".toList, "$".toList]
  | .shared .delete => ["-".toList, "!".toList]
  | .own .replace => ["%".toList]
  | .own .create => ["&".toList]
  | .own .rename => ["|".toList]
  | .own .paste => ["#".toList]
  | .own .special => ["*".toList]

/-- In front of a name stands nothing, or one character that is cut off. -/
theorem Verb.cases_of_mem_spellings {verb : Verb} {command : Text} (h : command ∈ verb.spellings) :
    command = [] ∧ verb = .insert ∨
      ∃ c, command = [c] ∧ ¬isBlank c ∧ ∀ t, cut (c :: t) = (verb, c, t) := by
  rcases verb with _ | shared | own
  · exact .inl ⟨List.mem_singleton.1 h, rfl⟩
  · cases shared <;> fin_cases h <;> exact .inr ⟨_, rfl, by decide, fun _ => rfl⟩
  · cases own <;> fin_cases h <;> exact .inr ⟨_, rfl, by decide, fun _ => rfl⟩

/-- An operator as it is written behind a key; an assignment is not written. -/
def Operator.text : Operator → Text
  | .assign => []
  | .multiply => "*".toList
  | .divide => "/".toList
  | .add => "+".toList
  | .subtract => "-".toList
  | .power => "!".toList
  | .replaceMatches => "^".toList

theorem Operator.text_of_ne_assign {op : Operator} (h : op ≠ .assign) : op.text = [op.symbol] := by
  cases op with
  | assign => exact absurd rfl h
  | _ => rfl

theorem Operator.not_isBlank_symbol (op : Operator) : ¬isBlank op.symbol := by
  cases op <;> decide

namespace Index.Denotes

variable {t : Text} {i : Index} {c : Char}

theorem mem_trim (h : Denotes t i) (hc : c ∈ trim t) : c = '*' ∨ c = '+' ∨ c.isDigit := by
  rcases h with hstar | ⟨hsplit, hsign, _, hdigits, _⟩
  · rw [hstar, List.mem_singleton] at hc
    exact .inl hc
  · rw [hsplit, List.mem_append] at hc
    rcases hc with hc | hc
    · rcases hsign with rfl | rfl
      · exact absurd hc (by simp)
      · exact .inr (.inl (List.mem_singleton.1 hc))
    · exact .inr (.inr (hdigits c hc))

theorem ne_nil (h : Denotes t i) : t ≠ [] := by
  rintro rfl
  rcases h with hstar | ⟨hsplit, _, hne, _⟩
  · exact absurd hstar (by decide)
  · exact hne (List.append_eq_nil_iff.1 hsplit.symm).2

theorem comma_notMem (h : Denotes t i) : ',' ∉ t := by
  intro hc
  rcases isBlank_or_mem_trim hc with hblank | htrim
  · exact absurd hblank (by decide)
  · exact absurd (h.mem_trim htrim) (by decide)

end Index.Denotes

namespace Key

/-! ## Whole keys -/

/-- The parts of a key as they are written; `gap` stands in front of the operator. -/
structure Spelling where
  command : Text
  name : Text
  index : Option Text
  gap : Text
  operator : Text
deriving DecidableEq, Repr

namespace Spelling

/-- The parts of a key without those that say how a value changes. -/
def stem (w : Spelling) : Text := w.command ++ (w.name ++ Header.indexText w.index)

/-- The text of a key. -/
def text (w : Spelling) : Text := w.stem ++ (w.gap ++ w.operator)

end Spelling

/-- The parts say what the key is, and each is told apart from the others: the name begins with no
command unless there is one, has no comma, and ends in no operator unless something follows. -/
structure Spells (w : Spelling) (key : Key) : Prop where
  command : w.command ∈ key.verb.spellings
  symbol : (w.command ++ w.name).head? = some key.symbol
  name : w.name = key.name
  named : w.name ≠ []
  trimmed : trim w.name = w.name
  noIndex : ',' ∉ w.name
  noCommand : key.verb = .insert → HasNoCommand w.name
  index : Option.Rel Index.Denotes w.index key.index
  tight : ∀ i ∈ w.index, ∀ c ∈ i, ¬isBlank c
  operator : w.operator = key.operator.text
  gap : ∀ c ∈ w.gap, isBlank c
  gap_iff : w.gap = [] ↔ key.operator = .assign
  noOperator : w.index = none → key.operator = .assign → ∀ front blank symbol,
    w.name = front ++ [blank, symbol] → isBlank blank → symbol ∉ operatorSymbols

namespace Spells

variable {w : Spelling} {key : Key}

/-! ## Where keys are cut -/

theorem not_isBlank_command (h : Spells w key) : ∀ c ∈ w.command, ¬isBlank c := by
  intro c hc
  rcases Verb.cases_of_mem_spellings h.command with ⟨hempty, _⟩ | ⟨d, hd, hblank, _⟩
  · exact absurd hc (by simp [hempty])
  · rw [hd, List.mem_singleton] at hc
    exact hc ▸ hblank

theorem not_isBlank_head_stem (h : Spells w key) : ∀ c ∈ w.stem.head?, ¬isBlank c := by
  intro c hc
  rw [Spelling.stem] at hc
  cases hcommand : w.command with
  | cons d command =>
    rw [hcommand] at hc
    obtain rfl := Option.some.inj hc
    exact h.not_isBlank_command d (by rw [hcommand]; exact List.mem_cons_self)
  | nil =>
    rw [hcommand, List.nil_append, List.head?_append_of_ne_nil _ h.named] at hc
    exact not_isBlank_head_trim c (by rwa [h.trimmed])

theorem not_isBlank_getLast_stem (h : Spells w key) : ∀ c ∈ w.stem.getLast?, ¬isBlank c := by
  intro c hc
  have hnamed : w.name ++ Header.indexText w.index ≠ [] := by simp [h.named]
  rw [Spelling.stem, List.getLast?_append_of_ne_nil _ hnamed] at hc
  cases hindex : w.index with
  | none =>
    rw [hindex, Header.indexText, List.append_nil] at hc
    exact not_isBlank_getLast_trim c (by rwa [h.trimmed])
  | some i =>
    rw [hindex, Header.indexText, List.getLast?_append_of_ne_nil _ (List.cons_ne_nil _ _)] at hc
    rcases List.mem_cons.1 (List.mem_of_getLast? hc) with rfl | hc
    · decide
    · exact h.tight i hindex c hc

theorem index_cases (h : Spells w key) : w.index = none ∧ key.index = none ∨
    ∃ i index, w.index = some i ∧ key.index = some index ∧ Index.Denotes i index := by
  have hrel := h.index
  generalize w.index = written, key.index = index at hrel ⊢
  cases hrel with
  | none => exact .inl ⟨rfl, rfl⟩
  | some hdenotes => exact .inr ⟨_, _, rfl, rfl, hdenotes⟩

/-- With no operator behind it, a key does not end in what could be one. -/
theorem ofSymbol?_eq_none (h : Spells w key) (hassign : key.operator = .assign) {front : Text}
    {blank c : Char} (hstem : w.stem = front ++ [blank, c]) (hblank : isBlank blank) :
    Operator.ofSymbol? c = none := by
  have htail : [blank, c] <:+ w.stem := ⟨front, hstem.symm⟩
  rcases h.index_cases with ⟨hindex, _⟩ | ⟨i, _, hindex, _, hdenotes⟩
  · have hname : w.name <:+ w.stem := by
      rw [Spelling.stem, hindex, Header.indexText, List.append_nil]
      exact List.suffix_append ..
    refine Option.eq_none_iff_forall_ne_some.2 fun _ hop => ?_
    have hsymbol := Operator.mem_operatorSymbols hop
    rcases List.suffix_or_suffix_of_suffix htail hname with ⟨rest, hrest⟩ | ⟨rest, hrest⟩
    · exact h.noOperator hindex hassign rest blank c hrest.symm hblank hsymbol
    · cases rest with
      | nil => exact h.noOperator hindex hassign [] blank c hrest hblank hsymbol
      | cons d rest =>
        -- the blank would stand in the command
        obtain ⟨rfl, _⟩ := List.cons.inj hrest
        have hcommand : w.command = front ++ d :: rest := by
          rw [← hrest, Spelling.stem, hindex, Header.indexText, List.append_nil,
            ← List.append_assoc] at hstem
          exact List.append_cancel_right hstem
        exact h.not_isBlank_command d (by simp [hcommand]) hblank
  · -- the last two characters are those of the index and its comma
    have hshort : [blank, c].length ≤ (',' :: i).length := by
      have hne := List.length_pos_iff.2 hdenotes.ne_nil
      simp only [List.length_cons, List.length_nil]
      omega
    have hcomma : ',' :: i <:+ w.stem := by
      rw [Spelling.stem, hindex, Header.indexText, ← List.append_assoc]
      exact List.suffix_append ..
    have hmem := (List.suffix_of_suffix_length_le htail hcomma hshort).subset List.mem_cons_self
    rcases List.mem_cons.1 hmem with rfl | hmem
    · exact absurd hblank (by decide)
    · exact absurd hblank (h.tight i hindex blank hmem)

theorem cutOperator_text (h : Spells w key) : cutOperator w.text = (w.stem, key.operator) := by
  by_cases hassign : key.operator = .assign
  · have htext : w.text = w.stem := by
      rw [Spelling.text, h.operator, h.gap_iff.2 hassign, hassign]
      exact List.append_nil _
    rw [htext, hassign, cutOperator]
    split
    · rename_i front c hsplit
      obtain ⟨blank, hstem, hblank⟩ := exists_append_of_splitLast? hsplit
      rw [h.ofSymbol?_eq_none hassign hstem hblank]
    · rfl
  · rcases List.eq_nil_or_concat' w.gap with hnone | ⟨gap, blank, hgap⟩
    · exact absurd (h.gap_iff.1 hnone) hassign
    have hblanks : (∀ c ∈ gap, isBlank c) ∧ isBlank blank := by
      simpa [hgap, or_imp, forall_and] using h.gap
    have htext : w.text = (w.stem ++ gap) ++ blank :: [key.operator.symbol] := by
      rw [Spelling.text, h.operator, Operator.text_of_ne_assign hassign, hgap]
      simp
    have hsplit : splitLast? isBlank w.text = some (w.stem ++ gap, [key.operator.symbol]) := by
      rw [htext]
      exact splitLast?_append_cons hblanks.2
        (List.forall_mem_singleton.2 (Operator.not_isBlank_symbol _))
    have hfront : trimEnd (w.stem ++ gap) = w.stem := by
      rw [trimEnd_append_of_blank hblanks.1, trimEnd_eq_self h.not_isBlank_getLast_stem]
    simp only [cutOperator, hsplit, Operator.ofSymbol?_symbol _ hassign, hfront]

theorem trim_text (h : Spells w key) : trim w.text = w.text := by
  have hstem : w.stem ≠ [] := by simp [Spelling.stem, h.named]
  refine trim_eq_self (fun c hc => ?_) fun c hc => ?_
  · rw [Spelling.text, List.head?_append_of_ne_nil _ hstem] at hc
    exact h.not_isBlank_head_stem c hc
  · by_cases hassign : key.operator = .assign
    · rw [Spelling.text, h.operator, h.gap_iff.2 hassign, hassign, Operator.text, List.append_nil,
        List.append_nil] at hc
      exact h.not_isBlank_getLast_stem c hc
    · rw [Spelling.text, h.operator, Operator.text_of_ne_assign hassign, ← List.append_assoc,
        List.getLast?_append_of_ne_nil _ (List.cons_ne_nil _ _)] at hc
      obtain rfl := Option.some.inj hc
      exact Operator.not_isBlank_symbol _

theorem cut_stem (h : Spells w key) :
    Verb.cut w.stem = (key.verb, key.symbol, w.name ++ Header.indexText w.index) := by
  have hsymbol := h.symbol
  rcases Verb.cases_of_mem_spellings h.command with ⟨hempty, hinsert⟩ | ⟨c, hc, _, hcut⟩
  · cases hname : w.name with
    | nil => exact absurd hname h.named
    | cons d name =>
      rw [hempty, hname] at hsymbol
      obtain rfl := Option.some.inj hsymbol
      have hnone := h.noCommand hinsert key.symbol (by rw [hname]; rfl)
      rw [Spelling.stem, hempty, hname, hinsert, List.nil_append, List.cons_append, Verb.cut,
        Verb.ofSymbol_eq_insert hnone]
  · rw [hc] at hsymbol
    obtain rfl := Option.some.inj hsymbol
    rw [Spelling.stem, hc]
    exact hcut _

theorem cutIndex_name (h : Spells w key) (raw : Text) :
    cutIndex raw (w.name ++ Header.indexText w.index) = .ok (key.name, key.index) := by
  rcases h.index_cases with ⟨hindex, hkey⟩ | ⟨i, index, hindex, hkey, hdenotes⟩
  · have hsplit : splitLast? (· == ',') w.name = none :=
      splitLast?_eq_none_iff.2 fun c hc hcomma => h.noIndex (beq_iff_eq.1 hcomma ▸ hc)
    rw [hindex, hkey, Header.indexText, List.append_nil, cutIndex, hsplit, h.trimmed, h.name]
  · have hsplit : splitLast? (· == ',') (w.name ++ ',' :: i) = some (w.name, i) :=
      splitLast?_append_cons rfl fun c hc hcomma =>
        hdenotes.comma_notMem (beq_iff_eq.1 hcomma ▸ hc)
    have hread : Index.parse raw i = .ok index :=
      Index.parse_ok_iff.2 (Index.spells_iff_denotes.2 hdenotes)
    rw [hindex, hkey, Header.indexText, cutIndex, hsplit]
    simp only [hread, Except.map, h.trimmed]
    rw [h.name]

end Spells

/-- A key that is written is read as what it says, unless it has an operator and is no edit; then it
is refused, and the operator is named. -/
theorem parse_of_spells {w : Spelling} {key : Key} (h : Spells w key) :
    parse w.text =
      if key.operator = .assign ∨ key.verb = .shared .edit then .ok key
      else .error (.operatorNotAllowed w.text key.operator.symbol) := by
  have hnamed : key.name.isEmpty = false := by simpa [← h.name] using h.named
  simp only [parse, h.trim_text, h.cutOperator_text, h.cut_stem, h.cutIndex_name, hnamed]
  by_cases hallowed : key.operator = .assign ∨ key.verb = .shared .edit
  · have hedit : ¬(key.operator ≠ .assign ∧ key.verb ≠ .shared .edit) := by tauto
    rw [if_pos hallowed]
    simp [hedit]
  · have hother : key.operator ≠ .assign ∧ key.verb ≠ .shared .edit := by tauto
    rw [if_neg hallowed]
    simp [hother]

/-- A key with a star in each place. -/
def stars : Spelling where
  command := "@".toList
  name := "* *".toList
  index := some "*".toList
  gap := "\t ".toList
  operator := "*".toList

theorem stars_spells : Spells stars ⟨.shared .edit, '@', "* *".toList, some .every, .multiply⟩ where
  command := List.mem_singleton.2 rfl
  symbol := rfl
  name := rfl
  named := by decide
  trimmed := rfl
  noIndex := by decide
  noCommand := nofun
  index := .some (.every rfl)
  tight := by
    rintro _ ⟨rfl⟩
    exact List.forall_mem_singleton.2 (by decide)
  operator := rfl
  gap := List.all_eq_true.1 (by decide)
  gap_iff := by decide
  noOperator := nofun

theorem parse_of_spells_stars :
    Spells stars ⟨.shared .edit, '@', "* *".toList, some .every, .multiply⟩ ∧
    parse "@* *,*\t *".toList =
      .ok ⟨.shared .edit, '@', "* *".toList, some .every, .multiply⟩ :=
  ⟨stars_spells, (parse_of_spells stars_spells).trans (if_pos (.inr rfl))⟩

end Key

end CfgPatch
