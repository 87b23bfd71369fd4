import CfgPatch.Brackets
import CfgPatch.Error

/-!
# Headers

A directive, an item of a body that speaks of nodes, a node atom of a constraint and a
segment of a reference path all share one shape,

    TYPE[selector]:HAS[constraints],index

in which every part after the type may be missing. Segments other than `:HAS` may stand
between the selector and the index, each a colon and letters, with or without a bracket;
they are read over.
-/

namespace CfgPatch

open Text Brackets

/-! ## Indexes -/

/-- Which of several ordered matches an operation is about. -/
inductive Index where
  /-- The match with the given number, counted from zero. -/
  | nth (n : Nat)
  /-- Every match. -/
  | every
deriving DecidableEq, Repr

namespace Index

/-- Reads an index; `key` is the text a message quotes. -/
def parse (key text : Text) : Except PatchError Index :=
  let text := trim text
  if text = ['*'] then .ok .every
  else
    match readIndex? text with
    | some n => .ok (.nth n)
    | none => .error (.invalidIndex key text)

/-- The positions of the matches in a list, in order. -/
def positions {α : Type} (isMatch : α → Bool) (xs : List α) : List Nat :=
  (xs.zipIdx.filter fun p => isMatch p.1).map (·.2)

/-- The matches an index picks; without an index it is the first that is picked. -/
def pick {α : Type} (index : Option Index) (found : List α) : List α :=
  match index with
  | none => found.take 1
  | some (.nth n) => found[n]?.toList
  | some .every => found

end Index

/-! ## Headers -/

/-- A header, read. -/
structure Header where
  /-- The name of the nodes it speaks of. -/
  type : Text
  /-- The text of the selector. -/
  selector : Option Text
  /-- The text of the constraint list. -/
  constraints : Option Text
  /-- Which of the matches it speaks of. -/
  index : Option Index
deriving DecidableEq, Repr

namespace Header

/-- Whether a character ends the type. -/
def endsType (c : Char) : Bool := c == '[' || c == ':' || c == ','

/-- The keyword of constraint lists. -/
def hasKeyword : Text := "HAS".toList

/-- What stands behind the letters of a segment: its bracket group, if it has one, and the
rest of the header. -/
def segmentContent (name t : Text) : Except PatchError (Option Text × Text) :=
  if t.head? = some '[' then
    match group? t with
    | some (inner, rest) => .ok (some inner, rest)
    | none => .error (.unbalanced name)
  else .ok (none, t)

theorem length_segmentContent_le {name t : Text} {r : Option Text × Text}
    (h : segmentContent name t = .ok r) : r.2.length ≤ t.length := by
  unfold segmentContent at h
  split at h
  · split at h
    · rename_i hg
      simp only [Except.ok.injEq] at h
      subst h
      rw [eq_append_of_group? hg]
      simp only [List.length_cons, List.length_append]
      omega
    · simp at h
  · simp only [Except.ok.injEq] at h
    subst h
    exact Nat.le_refl _

/-- Reads segments and the index into a header; `name` is the text messages quote. -/
def parseRest (name : Text) (header : Header) : Text → Except PatchError Header
  | [] => .ok header
  | c :: t =>
    if c = ':' then
      let word := t.takeWhile Char.isAlpha
      match hc : segmentContent name (t.dropWhile Char.isAlpha) with
      | .error e => .error e
      | .ok (content, rest) =>
        have : rest.length < (c :: t).length :=
          Nat.lt_succ_of_le (Nat.le_trans (length_segmentContent_le hc)
            (List.dropWhile_sublist _).length_le)
        if sameLetters word hasKeyword then
          match content, header.constraints with
          | none, _ => .error (.invalidName name .bareHas)
          | some _, some _ => .error (.invalidName name .repeatedHas)
          | some inner, none => parseRest name { header with constraints := some inner } rest
        else if word.isEmpty then .error (.invalidName name .emptySegment)
        else parseRest name header rest
    else if c = ',' then
      (Index.parse name t).map fun index => { header with index := some index }
    else .error (.invalidName name (.unexpected (c :: t)))
termination_by t => t.length
decreasing_by all_goals exact this

/-- Reads a header. -/
def parse (text : Text) : Except PatchError Header :=
  if balanced text then
    let type := trim (text.takeWhile (!endsType ·))
    if type.isEmpty then .error (.invalidName text .missingType)
    else
      match text.dropWhile (!endsType ·) with
      | '[' :: t =>
        match close? 1 t with
        | some (selector, rest) => parseRest text ⟨type, some selector, none, none⟩ rest
        | none => .error (.unbalanced text)
      | rest => parseRest text ⟨type, none, none, none⟩ rest
  else .error (.unbalanced text)

/-! ## Lengths -/

theorem length_inner_lt {name t inner rest : Text}
    (h : segmentContent name t = .ok (some inner, rest)) : inner.length < t.length := by
  unfold segmentContent at h
  split at h
  · split at h
    · rename_i hg
      simp only [Except.ok.injEq, Prod.mk.injEq, Option.some.injEq] at h
      rw [eq_append_of_group? hg, ← h.1]
      simp only [List.length_cons, List.length_append]
      omega
    · simp at h
  · simp at h

theorem length_constraints_parseRest {name t c : Text} {header result : Header}
    (h : parseRest name header t = .ok result) (hc : result.constraints = some c) :
    header.constraints = some c ∨ c.length < t.length := by
  fun_induction parseRest name header t with
  | case5 header t =>
    rename_i inner _ _ hseg hlt ih
    have hin := length_inner_lt hseg
    have hdrop := (List.dropWhile_sublist (p := Char.isAlpha) (l := t)).length_le
    rcases ih h with e | e
    · simp only [Option.some.injEq] at e
      rw [← e]
      exact .inr (by simp only [List.length_cons]; omega)
    · exact .inr (by omega)
  | case7 =>
    rename_i hlt ih
    rcases ih h with e | e
    · exact .inl e
    · exact .inr (by omega)
  | case8 header t =>
    obtain ⟨index, _, e⟩ : ∃ index, Index.parse name t = .ok index ∧
        { header with index := some index } = result := by
      cases hi : Index.parse name t with
      | error e => rw [hi] at h; simp [Except.map] at h
      | ok index => rw [hi] at h; exact ⟨index, rfl, by simpa [Except.map] using h⟩
    rw [← e] at hc
    exact .inl hc
  | _ => simp_all

/-- A list of constraints is shorter than the header it stands in. -/
theorem length_constraints_lt {t c : Text} {header : Header} (h : parse t = .ok header)
    (hc : header.constraints = some c) : c.length < t.length := by
  have hle := (List.dropWhile_sublist (p := (!endsType ·)) (l := t)).length_le
  unfold parse at h
  split at h
  · simp only at h
    split at h
    · simp at h
    · split at h
      · rename_i u hu
        split at h
        · rename_i hg
          rcases length_constraints_parseRest h hc with e | e
          · simp at e
          · have := congrArg List.length (eq_append_of_close? hg)
            rw [hu] at hle
            simp only [List.length_append, List.length_cons] at this hle
            omega
        · simp at h
      · rcases length_constraints_parseRest h hc with e | e
        · simp at e
        · omega
  · simp at h

end Header

end CfgPatch
