import CfgPatch.Body.Key
import CfgPatch.Body.Reference
import CfgPatch.Proofs.Expressible
import CfgPatch.Proofs.Outcomes
import CfgPatch.Proofs.Splitting
import Mathlib

/-!
# Texts that a body computes

A body makes names and values out of those it holds and those it finds: a key loses its
command, its index and its operator, a header all but its type, numbers are written out, and
references copy what stands elsewhere. This module says for each of these when the text that is
made can stand in a document again.

Numbers and references always can. A key or a header cut behind its command begins with no
blank, but it may begin with a byte order mark, and a header cut in front of its selector may
end with one; nothing else can go wrong with them.
-/

namespace CfgPatch

open Text Cfg

/-! ## Numbers -/

/-- Letters and digits are word characters. -/
theorem isWordChar_of_isAlphanum {c : Char} (h : c.isAlphanum) : isWordChar c := by
  have hascii : ∀ n < 128, (Char.ofNat n).isAlphanum → isWordChar (Char.ofNat n) := by decide
  have hlt : c.toNat < 128 := by
    simp only [Char.isAlphanum, Char.isAlpha, Char.isUpper, Char.isLower, Char.isDigit,
      Bool.or_eq_true, Bool.and_eq_true, decide_eq_true_eq, UInt32.le_iff_toNat_le] at h
    have hcode : c.val.toNat = c.toNat := rfl
    simp at h
    omega
  have hchar := hascii c.toNat hlt
  rw [Char.ofNat_toNat] at hchar
  exact hchar h

theorem isValue_of_isWordChar {t : Text} (h : ∀ c ∈ t, isWordChar c) : IsValue t := by
  have hword : ∀ c ∈ t, c ≠ '\n' ∧ c ≠ '{' ∧ c ≠ '}' ∧ ¬isStray c ∧ ¬isGap c ∧ c ≠ '/' := by
    intro c hc
    have hchar := h c hc
    simp only [isWordChar, Bool.and_eq_true, Bool.not_eq_true', bne_iff_ne] at hchar
    obtain ⟨⟨⟨⟨⟨⟨hgap, hstray⟩, hline⟩, hslash⟩, hopen⟩, hclose⟩, _⟩ := hchar
    exact ⟨hline, hopen, hclose, by simp [hstray], by simp [hgap], hslash⟩
  exact {
    chars := fun c hc => by
      obtain ⟨hline, hopen, hclose, hstray, _⟩ := hword c hc
      exact ⟨hline, hopen, hclose, hstray⟩
    uncommented := .of_forall_ne fun c hc => (hword c hc).2.2.2.2.2
    first := fun c hc => not_isBlank_of_isWordChar (h c (List.mem_of_head? hc))
    last := fun c hc => (hword c (List.mem_of_getLast? hc)).2.2.2.2.1 }

namespace Binary64

/-- A decimal is written with digits and a point. -/
theorem isDigit_of_mem_positional (x : Decimal) : ∀ c ∈ x.positional, c.isDigit ∨ c = '.' := by
  have hall : ∀ c ∈ ofNat x.digits, c.isDigit := fun c hc => isDigit_of_mem_ofNat hc
  have hdigits : ∀ c ∈ ((ofNat x.digits).reverse.dropWhile (· == '0')).reverse, c.isDigit := by
    intro c hc
    have hmem := (List.dropWhile_sublist _).subset (List.mem_reverse.1 hc)
    exact hall c (List.mem_reverse.1 hmem)
  have hzeros : ∀ k : Nat, ∀ c ∈ List.replicate k '0', c.isDigit := by
    intro k c hc
    rw [List.eq_of_mem_replicate hc]
    decide
  intro c hc
  unfold Decimal.positional at hc
  simp only at hc
  split_ifs at hc
  · rcases List.mem_append.1 hc with hc | hc
    · exact .inl (hdigits c hc)
    · exact .inl (hzeros _ c hc)
  · rcases List.mem_append.1 hc with hc | hc
    · exact .inl (hdigits c (List.mem_of_mem_take hc))
    · rcases List.mem_cons.1 hc with rfl | hc
      · exact .inr rfl
      · exact .inl (hdigits c (List.mem_of_mem_drop hc))
  · rcases List.mem_cons.1 hc with rfl | hc
    · exact .inl (by decide)
    · rcases List.mem_cons.1 hc with rfl | hc
      · exact .inr rfl
      · rcases List.mem_append.1 hc with hc | hc
        · exact .inl (hzeros _ c hc)
        · exact .inl (hdigits c hc)

theorem isWordChar_of_mem_toText (x : Binary64) : ∀ c ∈ x.toText, isWordChar c := by
  have hsign : ∀ (negative : Bool) (t : Text), (∀ c ∈ t, isWordChar c) →
      ∀ c ∈ withSign negative t, isWordChar c := by
    intro negative t ht
    cases negative with
    | false => exact ht
    | true => exact List.forall_mem_cons.2 ⟨by decide, ht⟩
  cases x with
  | finite negative m e =>
    refine hsign _ _ ?_
    split_ifs
    · exact List.all_eq_true.1 rfl
    · intro c hc
      rcases isDigit_of_mem_positional _ c hc with h | rfl
      · exact isWordChar_of_isAlphanum (by simp [Char.isAlphanum, h])
      · decide
  | infinite negative => exact hsign _ _ (List.all_eq_true.1 (by decide))
  | nan => exact List.all_eq_true.1 (by decide : "NaN".toList.all isWordChar)

/-- A number can be a value. -/
theorem isValue_toPlainText (x : Binary64) : IsValue x.toPlainText := by
  refine isValue_of_isWordChar ?_
  rw [toPlainText]
  split_ifs
  · exact List.all_eq_true.1 rfl
  · exact isWordChar_of_mem_toText _

end Binary64

/-! ## Operators -/

/-- An operand with which the replacement of matches makes values out of values. -/
def KeepsValues (operand : Text) : Prop :=
  ∀ current result, IsValue current → replaceByOperand current operand = .ok result →
    IsValue result

theorem isValue_of_calculate {symbol : Char} {f : Binary64 → Binary64 → Binary64}
    {current operand result : Text} (h : calculate symbol f current operand = .ok result) :
    IsValue result := by
  unfold calculate at h
  split at h
  · exact absurd h (by simp)
  · exact absurd h (by simp)
  · simp only at h
    split_ifs at h
    obtain rfl := Except.ok.inj h
    exact Binary64.isValue_toPlainText _

theorem Operator.isValue_of_apply {op : Operator} {current operand result : Text}
    (hcurrent : IsValue current) (hoperand : IsValue operand)
    (hreplace : op = .replaceMatches → KeepsValues operand)
    (h : op.apply current operand = .ok result) : IsValue result := by
  cases op with
  | assign =>
    obtain rfl := Except.ok.inj h
    exact hoperand
  | replaceMatches => exact hreplace rfl current result hcurrent h
  | multiply | divide | add | subtract | power => exact isValue_of_calculate h

/-! ## Keys and headers -/

/-- A gap that is no blank is a byte order mark. -/
theorem eq_byteOrderMark_of_isGap {c : Char} (hgap : isGap c) (hblank : ¬isBlank c) :
    c = byteOrderMark := by
  simp only [isGap, Bool.or_eq_true, beq_iff_eq] at hgap
  rcases hgap with (((rfl | rfl) | rfl) | rfl) | rfl
  · exact absurd (by decide) hblank
  · exact absurd (by decide) hblank
  · exact absurd (by decide) hblank
  · exact absurd (by decide) hblank
  · rfl

/-- What is left of a text without its command is the text or all of it but the command. -/
theorem Verb.rest_cut (t : Text) :
    (Verb.cut t).2.2 <:+ t ∧ ((Verb.cut t).1 = .insert → (Verb.cut t).2.2 = t) := by
  cases t with
  | nil => exact ⟨List.suffix_rfl, fun _ => rfl⟩
  | cons c t =>
    rw [Verb.cut]
    cases hverb : Verb.ofSymbol c with
    | insert => exact ⟨List.suffix_rfl, fun _ => rfl⟩
    | shared command => exact ⟨List.suffix_cons c t, by simp⟩
    | own command => exact ⟨List.suffix_cons c t, by simp⟩

theorem Key.cutOperator_isPrefix (t : Text) : (Key.cutOperator t).1 <+: t := by
  unfold Key.cutOperator
  split
  · rename_i head c hsplit
    split
    · have htrim : trimEnd head <+: head := by
        rw [trimEnd_eq]
        exact List.rdropWhile_prefix _ _
      exact htrim.trans (isPrefix_of_splitLast? hsplit)
    · exact List.prefix_rfl
  · exact List.prefix_rfl

theorem Key.cutIndex_eq {raw t name : Text} {index : Option Index}
    (h : Key.cutIndex raw t = .ok (name, index)) : ∃ piece, piece <+: t ∧ name = trim piece := by
  unfold Key.cutIndex at h
  split at h
  · rename_i piece last hsplit
    cases hindex : Index.parse raw last with
    | error e => simp [hindex, Except.map] at h
    | ok i =>
      rw [hindex] at h
      obtain ⟨rfl, _⟩ := Prod.mk.inj (Except.ok.inj h)
      exact ⟨piece, isPrefix_of_splitLast? hsplit, rfl⟩
  · obtain ⟨rfl, _⟩ := Prod.mk.inj (Except.ok.inj h)
    exact ⟨t, List.prefix_rfl, rfl⟩

/-- What a key is read from. -/
theorem Key.exists_of_parse {t : Text} {key : Key} (h : Key.parse t = .ok key) :
    ∃ head piece, head <+: trim t ∧ key.verb = (Verb.cut head).1 ∧
      piece <+: (Verb.cut head).2.2 ∧ key.name = trim piece ∧ key.name ≠ [] := by
  rw [Key.parse] at h
  simp only at h
  cases hindex : Key.cutIndex (trim t) (Verb.cut (Key.cutOperator (trim t)).1).2.2 with
  | error e =>
    rw [hindex] at h
    exact absurd h (by simp)
  | ok found =>
    obtain ⟨name, index⟩ := found
    obtain ⟨piece, hpiece, rfl⟩ := Key.cutIndex_eq hindex
    rw [hindex] at h
    simp only at h
    split_ifs at h with hempty
    obtain rfl := Except.ok.inj h
    exact ⟨_, piece, Key.cutOperator_isPrefix _, rfl, hpiece, rfl, by simpa using hempty⟩

/-- The name in a key can name a field, unless a command in front of it hides a byte order
mark. -/
theorem Key.isKey_name {t : Text} (ht : IsKey t) {key : Key} (h : Key.parse t = .ok key)
    (hmark : key.verb ≠ .insert → key.name.head? ≠ some byteOrderMark) : IsKey key.name := by
  obtain ⟨head, piece, hhead, hverb, hpiece, hname, hne⟩ := Key.exists_of_parse h
  have hslice : key.name <:+: t := by
    rw [hname]
    exact (trim_isInfix piece).trans (hpiece.isInfix.trans
      ((Verb.rest_cut head).1.isInfix.trans (hhead.isInfix.trans (trim_isInfix t))))
  have hfirst : ∀ c ∈ key.name.head?, ¬isBlank c := hname ▸ not_isBlank_head_trim
  refine ⟨ht.toIsInline.of_isInfix hslice, hne, fun hc => ht.noEquals (hslice.subset hc), ?_,
    hname ▸ not_isBlank_getLast_trim⟩
  intro c hc hgap
  by_cases hinsert : key.verb = .insert
  · -- without a command the name begins as the key does
    have hblank := ht.not_isBlank_head ht.first
    have hrest := (Verb.rest_cut head).2 (hverb ▸ hinsert)
    have hfront : piece <+: t := (hrest ▸ hpiece).trans (hhead.trans (trim_isPrefix hblank))
    have htrim : trim piece <+: piece := trim_isPrefix fun c hc =>
      hblank c (mem_head?_of_isPrefix hfront hc)
    exact ht.first c (mem_head?_of_isPrefix (htrim.trans hfront) (hname ▸ hc)) hgap
  · obtain rfl := eq_byteOrderMark_of_isGap hgap (hfirst c hc)
    exact hmark hinsert hc

theorem Header.type_parseRest {name t : Text} {header result : Header}
    (h : Header.parseRest name header t = .ok result) : result.type = header.type := by
  fun_induction Header.parseRest name header t with
  | case1 =>
    obtain rfl := Except.ok.inj h
    rfl
  | case5 | case7 =>
    rename_i ih
    exact ih h
  | case8 header t =>
    cases hindex : Index.parse name t with
    | error e => simp [hindex, Except.map] at h
    | ok index =>
      rw [hindex] at h
      obtain rfl := Except.ok.inj h
      rfl
  | _ => exact absurd h (by simp)

/-- The type in a header is not empty and is what stands in front of the selector. -/
theorem Header.type_parse {t : Text} {header : Header} (h : Header.parse t = .ok header) :
    header.type = trim (t.takeWhile (!Header.endsType ·)) ∧ header.type ≠ [] := by
  unfold Header.parse at h
  simp only at h
  split_ifs at h with hbalanced hempty
  have htype : header.type = trim (t.takeWhile (!Header.endsType ·)) := by
    split at h
    · split at h
      · exact Header.type_parseRest h
      · exact absurd h (by simp)
    · exact Header.type_parseRest h
  exact ⟨htype, htype ▸ by simpa using hempty⟩

theorem Matcher.type_parse {t : Text} {m : Matcher} (h : Matcher.parse t = .ok m) :
    m.type = trim (t.takeWhile (!Header.endsType ·)) ∧ m.type ≠ [] := by
  unfold Matcher.parse at h
  cases hheader : Header.parse t with
  | error e => simp [hheader] at h
  | ok header =>
    have htype : m.type = header.type := by
      rw [hheader] at h
      simp only at h
      split at h
      · obtain rfl := Except.ok.inj h
        rfl
      · rename_i inner _
        cases hinner : Constraints.parse inner with
        | error e => simp [hinner, Except.map] at h
        | ok constraints =>
          rw [hinner] at h
          obtain rfl := Except.ok.inj h
          rfl
    rw [htype]
    exact Header.type_parse hheader

/-- The type in a header can name a node, unless a byte order mark stands at one of its ends. -/
theorem Matcher.isName_type {t rest : Text} (ht : IsName t) (hrest : rest <:+: t) {m : Matcher}
    (h : Matcher.parse rest = .ok m) (hfirst : m.type.head? ≠ some byteOrderMark)
    (hlast : m.type.getLast? ≠ some byteOrderMark) : IsName m.type := by
  obtain ⟨htype, hne⟩ := Matcher.type_parse h
  have hslice : m.type <:+: t := by
    rw [htype]
    exact (trim_isInfix _).trans ((List.takeWhile_prefix _).isInfix.trans hrest)
  refine ⟨ht.toIsInline.of_isInfix hslice, hne, fun hc => ht.noEquals (hslice.subset hc), ?_, ?_⟩
  · intro c hc hgap
    obtain rfl := eq_byteOrderMark_of_isGap hgap (not_isBlank_head_trim c (htype ▸ hc))
    exact hfirst hc
  · intro c hc hgap
    obtain rfl := eq_byteOrderMark_of_isGap hgap (not_isBlank_getLast_trim c (htype ▸ hc))
    exact hlast hc

/-! ## References -/

/-- What a body can see can be expressed. -/
structure Scope.IsExpressible (scope : Scope) : Prop where
  catalog : ∀ node ∈ scope.catalog.nodes, node.Everywhere Node.IsExpressible
  root : scope.root.Everywhere Node.IsExpressible

theorem Node.Everywhere.child {P : Node → Prop} {node child : Node} (h : node.Everywhere P)
    (hchild : child ∈ node.children) : child.Everywhere P := by
  obtain ⟨_, hbelow⟩ := h
  exact hbelow child hchild

theorem Node.Everywhere.here {P : Node → Prop} {node : Node} (h : node.Everywhere P) : P node := by
  obtain ⟨hhere, _⟩ := h
  exact hhere

namespace Reference

variable {scope : Scope} {path : Text}

/-- A path leads from a node to nodes below it. -/
theorem everywhere_of_descend {P : Node → Prop} {node found : Node} (hnode : node.Everywhere P)
    {ts : List Text} (h : descend path node ts = .ok found) : found.Everywhere P := by
  induction ts generalizing node with
  | nil =>
    obtain rfl := Except.ok.inj h
    exact hnode
  | cons segment ts ih =>
    rw [descend] at h
    split_ifs at h
    · exact ih hnode h
    · cases hparse : Matcher.parse (trim segment) with
      | error e => simp [hparse] at h
      | ok m =>
        rw [hparse] at h
        simp only at h
        cases hpick : m.pick node.children with
        | nil => simp [hpick] at h
        | cons child others =>
          rw [hpick] at h
          have hchild : child ∈ node.children := Matcher.mem_of_mem_pick (by rw [hpick]; simp)
          exact ih (hnode.child hchild) h

theorem everywhere_of_follow (hscope : scope.IsExpressible) {found : Node} {ts : List Text}
    (h : follow scope path ts = .ok found) : found.Everywhere Node.IsExpressible := by
  unfold follow at h
  split at h
  · rename_i header rest
    cases hparse : Matcher.parse header with
    | error e => simp [hparse] at h
    | ok m =>
      rw [hparse] at h
      simp only at h
      cases hpick : m.pick scope.catalog.nodes with
      | nil => simp [hpick] at h
      | cons root others =>
        rw [hpick] at h
        have hroot : root ∈ scope.catalog.nodes := Matcher.mem_of_mem_pick (by rw [hpick]; simp)
        exact everywhere_of_descend (hscope.catalog root hroot) h
  · exact everywhere_of_descend hscope.root h

theorem isValue_of_valueIn {key value : Text} {node : Node} (hnode : node.IsExpressible)
    (h : valueIn path key node = .ok value) : IsValue value := by
  have hfound : ∀ (name first : Text) (others : List Text) (index : Option Index),
      Index.pick index (node.valuesOf (trim name)) = first :: others → IsValue first := by
    intro name first others index hpick
    have hmem : first ∈ node.valuesOf (trim name) := Index.mem_of_mem_pick (by rw [hpick]; simp)
    obtain ⟨f, hf, rfl⟩ := List.mem_map.1 hmem
    exact (hnode.fields f (List.mem_filter.1 hf).1).value
  unfold valueIn at h
  dsimp only at h
  split at h
  · split at h
    · rename_i hpick
      exact Except.ok.inj h ▸ hfound _ _ _ _ hpick
    · exact absurd h (by simp)
  · split at h
    · exact absurd h (by simp)
    · split at h
      · rename_i hpick
        exact Except.ok.inj h ▸ hfound _ _ _ _ hpick
      · exact absurd h (by simp)

/-- A value that a reference finds can be a value again. -/
theorem isValue_of_value (hscope : scope.IsExpressible) {value : Text}
    (h : Reference.value scope path = .ok value) : IsValue value := by
  unfold Reference.value at h
  simp only at h
  split at h
  · exact isValue_of_valueIn hscope.root.here h
  · split at h
    · exact absurd h (by simp)
    · rename_i hfollow
      exact isValue_of_valueIn (everywhere_of_follow hscope hfollow).here h

end Reference

end CfgPatch
