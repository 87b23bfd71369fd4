import CfgPatch.Cfg.Reader
import CfgPatch.Proofs.Scanning
import CfgPatch.Proofs.Trim

/-!
# The grammar of the cfg format

A document is a body, and a body is a sequence of items: a line end, a field, or a node with
a body of its own in braces.

    body  →  item*
    item  →  newline
          |  run                        with an equals sign and a key in front of it
          |  run newline* { body }      with no equals sign

A run is as long as it can be: it ends where a token comes that is no word, slash or equals
sign. `Derivation` holds the derivations of this grammar, `Derivation.lexemes` is what a derivation
derives, and `Derivation.document` is the tree it stands for. The reader accepts exactly the sources
that have a derivation and builds the tree of it (`parse_eq_ok_iff`), and no source has two
(`Derivation.eq_of_lexemes_eq`).
-/

namespace CfgPatch.Cfg

open Text

/-! ## Runs -/

/-- Whether a token can be part of a name or a key. -/
def Token.isNamePart : Token → Bool
  | word _ | slash => true
  | _ => false

/-- Whether a token can be part of a run. -/
def Token.isRunPart : Token → Bool
  | word _ | slash | equals => true
  | _ => false

/-- The source from the first token of a run to the last one. -/
def runText : List Lexeme → Text
  | [] => []
  | l :: ls => l.token.text ++ ls.flatMap Lexeme.text

/-- The source from the first token of a run up to the lexeme that follows. -/
def runTextBefore (run : List Lexeme) (next : Lexeme) : Text :=
  match run with
  | [] => []
  | _ :: _ => runText run ++ next.gap

/-! ## Derivations -/

/-- A body, item by item. -/
inductive Derivation where
  | done
  /-- A line end. -/
  | lineEnd (mark : Lexeme) (rest : Derivation)
  /-- A field: what stands in front of the first equals sign of a run and what stands behind. -/
  | field (key : List Lexeme) (equals : Lexeme) (value : List Lexeme) (rest : Derivation)
  /-- A node: its name, the line ends behind that, and its own body in braces. -/
  | node (name breaks : List Lexeme) (opening : Lexeme) (inner : Derivation) (closing : Lexeme)
    (rest : Derivation)

namespace Derivation

/-- The lexemes that a derivation derives. -/
def lexemes : Derivation → List Lexeme
  | done => []
  | lineEnd mark rest => mark :: rest.lexemes
  | field key equals value rest => key ++ equals :: (value ++ rest.lexemes)
  | node name breaks opening inner closing rest =>
    name ++ (breaks ++ opening :: (inner.lexemes ++ closing :: rest.lexemes))

/-- The fields of a body. -/
def fields : Derivation → List Field
  | done => []
  | lineEnd _ rest => rest.fields
  | field key equals value rest =>
    ⟨trim (runTextBefore key equals), trim (value.flatMap Lexeme.text)⟩ :: rest.fields
  | node _ _ _ _ _ rest => rest.fields

/-- The nodes of a body. -/
def nodes : Derivation → List Node
  | done => []
  | lineEnd _ rest => rest.nodes
  | field _ _ _ rest => rest.nodes
  | node name _ _ inner _ rest =>
    ⟨trim (runText name), none, inner.fields, inner.nodes⟩ :: rest.nodes

/-- The tree that a derivation of a whole document stands for. -/
def document (b : Derivation) : Node := ⟨[], none, b.fields, b.nodes⟩

/-- The rules of the grammar. -/
inductive IsValid : Derivation → Prop
  | done : IsValid done
  | lineEnd {mark : Lexeme} {rest : Derivation} (isLineEnd : mark.token = .newline)
      (more : IsValid rest) : IsValid (lineEnd mark rest)
  | field {key value : List Lexeme} {equals : Lexeme} {rest : Derivation}
      (inKey : ∀ l ∈ key, l.token.isNamePart) (isEquals : equals.token = .equals)
      (inValue : ∀ l ∈ value, l.token.isRunPart) (named : trim (runTextBefore key equals) ≠ [])
      (ends : ∀ l ∈ rest.lexemes.head?, ¬l.token.isRunPart) (more : IsValid rest) :
      IsValid (field key equals value rest)
  | node {name breaks : List Lexeme} {opening closing : Lexeme} {inner rest : Derivation}
      (named : name ≠ []) (inName : ∀ l ∈ name, l.token.isNamePart)
      (areBreaks : ∀ l ∈ breaks, l.token = .newline) (opens : opening.token = .openBrace)
      (within : IsValid inner) (closes : closing.token = .closeBrace)
      (more : IsValid rest) : IsValid (node name breaks opening inner closing rest)

end Derivation

/-! ## Accepting lexemes -/

namespace State

/-- Reading the lexemes from a state on ends well, with the given document. -/
def Accepts (s : State) : List Lexeme → Node → Prop
  | [], d => s.finish = .ok d
  | l :: ls, d => ∃ s', s.step l = .ok s' ∧ Accepts s' ls d

theorem run_eq_ok_iff {s : State} {pos : Nat} {ls : List Lexeme} {d : Node} :
    s.run pos ls = .ok d ↔ s.Accepts ls d := by
  induction ls generalizing s pos with
  | nil =>
    rw [run, Accepts]
    cases s.finish <;> simp [Except.mapError]
  | cons l ls ih =>
    rw [run, Accepts]
    cases hstep : s.step l with
    | error fault => simp
    | ok s' => simpa using ih

theorem accepts_cons_of_step {s s' : State} {l : Lexeme} (h : s.step l = .ok s')
    {ls : List Lexeme} {d : Node} : s.Accepts (l :: ls) d ↔ s'.Accepts ls d := by
  rw [Accepts]
  constructor
  · rintro ⟨s'', hstep, haccepts⟩
    rw [h] at hstep
    obtain rfl := Except.ok.inj hstep
    exact haccepts
  · exact fun haccepts => ⟨s', h, haccepts⟩

theorem not_accepts_of_step {s : State} {l : Lexeme} {fault : Fault} (h : s.step l = .error fault)
    {ls : List Lexeme} {d : Node} : ¬s.Accepts (l :: ls) d := by
  rintro ⟨s', hstep, _⟩
  rw [h] at hstep
  exact absurd hstep (by simp)

/-! ### Reading a run -/

/-- The state behind the first token of an item. -/
theorem accepts_first {s : State} (hs : s.progress = .between) {l : Lexeme}
    (hl : l.token.isNamePart) {ls : List Lexeme} {d : Node} :
    s.Accepts (l :: ls) d ↔ State.Accepts { s with progress := .name l.token.text } ls d := by
  apply accepts_cons_of_step
  rw [step, hs]
  cases htoken : l.token <;> simp_all [stepBetween, Token.isNamePart]

/-- A run of name parts goes on. -/
theorem accepts_nameParts (s : State) {run : Text} {parts : List Lexeme}
    (h : ∀ l ∈ parts, l.token.isNamePart) {ls : List Lexeme} {d : Node} :
    State.Accepts { s with progress := .name run } (parts ++ ls) d ↔
      State.Accepts { s with progress := .name (run ++ parts.flatMap Lexeme.text) } ls d := by
  induction parts generalizing run with
  | nil => simp
  | cons l parts ih =>
    have hl := h l (List.mem_cons_self ..)
    have hstep : State.step { s with progress := .name run } l =
        .ok { s with progress := .name (run ++ l.text) } := by
      cases htoken : l.token <;> simp_all [step, Token.isNamePart]
    rw [List.cons_append, accepts_cons_of_step hstep,
      ih fun l' hl' => h l' (List.mem_cons_of_mem l hl'), List.flatMap_cons, List.append_assoc]

/-- The run of a name, or of a key, is read. -/
theorem accepts_name {s : State} (hs : s.progress = .between) {name : List Lexeme}
    (hne : name ≠ []) (h : ∀ l ∈ name, l.token.isNamePart) {ls : List Lexeme} {d : Node} :
    s.Accepts (name ++ ls) d ↔ State.Accepts { s with progress := .name (runText name) } ls d := by
  obtain ⟨l, parts, rfl⟩ := List.exists_cons_of_ne_nil hne
  rw [List.cons_append, accepts_first hs (h l (List.mem_cons_self ..)),
    accepts_nameParts s fun l' hl' => h l' (List.mem_cons_of_mem l hl')]
  rfl

/-- The run of a value is read. -/
theorem accepts_value (s : State) (key : Text) {run : Text} {value : List Lexeme}
    (h : ∀ l ∈ value, l.token.isRunPart) {ls : List Lexeme} {d : Node} :
    State.Accepts { s with progress := .value key run } (value ++ ls) d ↔
      State.Accepts { s with progress := .value key (run ++ value.flatMap Lexeme.text) } ls d := by
  induction value generalizing run with
  | nil => simp
  | cons l value ih =>
    have hl := h l (List.mem_cons_self ..)
    have hstep : State.step { s with progress := .value key run } l =
        .ok { s with progress := .value key (run ++ l.text) } := by
      cases htoken : l.token <;> simp_all [step, Token.isRunPart]
    rw [List.cons_append, accepts_cons_of_step hstep,
      ih fun l' hl' => h l' (List.mem_cons_of_mem l hl'), List.flatMap_cons, List.append_assoc]

/-- Where a run ends, a field is complete. -/
theorem accepts_endField (s : State) (key run : Text) {ls : List Lexeme}
    (h : ∀ l ∈ ls.head?, ¬l.token.isRunPart) {d : Node} :
    State.Accepts { s with progress := .value key run } ls d ↔
      (s.endField key run).Accepts ls d := by
  cases ls with
  | nil =>
    rw [Accepts, Accepts, finish, finish]
    rfl
  | cons l ls =>
    have hl := h l rfl
    have hstep : State.step { s with progress := .value key run } l =
        (s.endField key run).step l := by
      cases htoken : l.token <;> simp_all [step, Token.isRunPart, endField]
    rw [Accepts, Accepts, hstep]

/-- Behind a name and line ends a body opens. -/
theorem accepts_opening (s : State) (run : Text) {breaks : List Lexeme}
    (hbreaks : ∀ l ∈ breaks, l.token = .newline) {opening : Lexeme}
    (hopening : opening.token = .openBrace) {ls : List Lexeme} {d : Node} :
    State.Accepts { s with progress := .name run } (breaks ++ opening :: ls) d ↔
      (s.enter (trim run)).Accepts ls d := by
  have hheader : ∀ bs : List Lexeme, (∀ l ∈ bs, l.token = .newline) →
      (State.Accepts { s with progress := .header (trim run) } (bs ++ opening :: ls) d ↔
        (s.enter (trim run)).Accepts ls d) := by
    intro bs hbs
    induction bs with
    | nil =>
      apply accepts_cons_of_step
      rw [step, hopening]
      rfl
    | cons l bs ih =>
      have hstep : State.step { s with progress := .header (trim run) } l =
          .ok { s with progress := .header (trim run) } := by
        rw [step, hbs l (List.mem_cons_self ..)]
      rw [List.cons_append, accepts_cons_of_step hstep]
      exact ih fun l' hl' => hbs l' (List.mem_cons_of_mem l hl')
  cases breaks with
  | nil =>
    apply accepts_cons_of_step
    rw [step, hopening]
    rfl
  | cons l breaks =>
    have hstep : State.step { s with progress := .name run } l =
        .ok { s with progress := .header (trim run) } := by
      rw [step, hbreaks l (List.mem_cons_self ..)]
    rw [List.cons_append, accepts_cons_of_step hstep]
    exact hheader breaks fun l' hl' => hbreaks l' (List.mem_cons_of_mem l hl')

/-! ### Reading a body -/

/-- The state with the items of a body added to its node. -/
def extend (s : State) (b : Derivation) : State where
  node := { s.node with fields := s.node.fields ++ b.fields, children := s.node.children ++ b.nodes }
  outer := s.outer
  progress := .between

theorem extend_done {s : State} (hs : s.progress = .between) : s.extend .done = s := by
  rcases s with ⟨⟨name, id, fields, children⟩, outer, progress⟩
  obtain rfl : progress = .between := hs
  simp [extend, Derivation.fields, Derivation.nodes]

theorem extend_enter (s : State) (name : Text) (b : Derivation) :
    (s.enter name).extend b = ⟨⟨name, none, b.fields, b.nodes⟩, s.node :: s.outer, .between⟩ := by
  simp [extend, enter, Node.ofName]

/-- A closing brace ends the body inside and puts its node into the body around it. -/
theorem step_closing (s : State) (name : Text) (b : Derivation) {closing : Lexeme}
    (h : closing.token = .closeBrace) :
    ((s.enter name).extend b).step closing =
      .ok ⟨s.node.addChild ⟨name, none, b.fields, b.nodes⟩, s.outer, .between⟩ := by
  rw [extend_enter, step]
  simp only [stepBetween, h]

/-- A derivation is read as the tree it stands for, wherever it stands. -/
theorem accepts_lexemes {b : Derivation} (hb : b.IsValid) {s : State} (hs : s.progress = .between)
    {ls : List Lexeme} (hls : ∀ l ∈ ls.head?, ¬l.token.isRunPart) {d : Node} :
    s.Accepts (b.lexemes ++ ls) d ↔ (s.extend b).Accepts ls d := by
  induction hb generalizing s ls with
  | done => rw [extend_done hs]; rfl
  | @lineEnd mark rest isLineEnd more ih =>
    have hstep : s.step mark = .ok { s with progress := .between } := by
      rw [step, hs]
      simp only [stepBetween, isLineEnd]
    rw [Derivation.lexemes, List.cons_append, accepts_cons_of_step hstep, ih rfl hls]
    rfl
  | @field key value equals rest inKey isEquals inValue named ends more ih =>
    have hne : key ≠ [] := by
      rintro rfl
      exact named rfl
    have hstep : State.step { s with progress := .name (runText key) } equals =
        .ok { s with progress := .value (trim (runTextBefore key equals)) [] } := by
      obtain ⟨l, key, rfl⟩ := List.exists_cons_of_ne_nil hne
      rw [step, isEquals]
      rfl
    -- what follows the run is the rest of the body, or what follows the body
    have hends : ∀ l ∈ (rest.lexemes ++ ls).head?, ¬l.token.isRunPart := by
      cases hrest : rest.lexemes with
      | nil => exact hls
      | cons l rest => simpa [hrest] using ends
    rw [Derivation.lexemes, List.append_assoc, List.cons_append, List.append_assoc,
      accepts_name hs hne inKey, accepts_cons_of_step hstep, accepts_value s _ inValue,
      accepts_endField s _ _ hends, ih rfl hls]
    simp [extend, endField, Derivation.fields, Derivation.nodes, Node.addField]
  | @node name breaks opening closing inner rest named inName areBreaks opens within closes more
      ihInner ihRest =>
    have hclosing : ∀ l ∈ (closing :: (rest.lexemes ++ ls)).head?, ¬l.token.isRunPart := by
      simp [closes, Token.isRunPart]
    rw [Derivation.lexemes, List.append_assoc, List.append_assoc, List.cons_append,
      List.append_assoc, List.cons_append, accepts_name hs named inName,
      accepts_opening s _ areBreaks opens, ihInner rfl hclosing,
      accepts_cons_of_step (step_closing s _ inner closes), ihRest rfl hls]
    simp [extend, Derivation.fields, Derivation.nodes, Node.addChild]

/-! ### Finding a derivation -/

/-- Behind a complete name there can only be line ends and a body. -/
theorem exists_opening_of_header {s : State} {name : Text} {ls : List Lexeme} {d : Node}
    (h : State.Accepts { s with progress := .header name } ls d) :
    ∃ breaks opening rest, ls = breaks ++ opening :: rest ∧
      (∀ l ∈ breaks, l.token = .newline) ∧ opening.token = .openBrace := by
  induction ls with
  | nil =>
    rw [Accepts] at h
    exact absurd h (by simp [finish])
  | cons l ls ih =>
    by_cases hline : l.token = .newline
    · have hstep : State.step { s with progress := .header name } l =
          .ok { s with progress := .header name } := by
        rw [step, hline]
      obtain ⟨breaks, opening, rest, rfl, hbreaks, hopening⟩ :=
        ih ((accepts_cons_of_step hstep).1 h)
      exact ⟨l :: breaks, opening, rest, rfl, by simpa [hline] using hbreaks, hopening⟩
    · by_cases hopening : l.token = .openBrace
      · exact ⟨[], l, ls, rfl, by simp, hopening⟩
      · have hstep : State.step { s with progress := .header name } l =
            .error (.unexpected (.bodyOf name)) := by
          cases htoken : l.token <;> simp_all [step]
        exact absurd h (not_accepts_of_step hstep)

/-- Behind a run with no equals sign there can only be line ends and a body. -/
theorem exists_opening {s : State} {run : Text} {ls : List Lexeme} {d : Node}
    (hend : ∀ l ∈ ls.head?, ¬l.token.isRunPart)
    (h : State.Accepts { s with progress := .name run } ls d) :
    ∃ breaks opening rest, ls = breaks ++ opening :: rest ∧
      (∀ l ∈ breaks, l.token = .newline) ∧ opening.token = .openBrace := by
  cases ls with
  | nil =>
    rw [Accepts] at h
    exact absurd h (by simp [finish])
  | cons l ls =>
    have hl := hend l rfl
    cases htoken : l.token with
    | newline =>
      have hstep : State.step { s with progress := .name run } l =
          .ok { s with progress := .header (trim run) } := by
        rw [step, htoken]
      obtain ⟨breaks, opening, rest, rfl, hbreaks, hopening⟩ :=
        exists_opening_of_header ((accepts_cons_of_step hstep).1 h)
      exact ⟨l :: breaks, opening, rest, rfl, by simpa [htoken] using hbreaks, hopening⟩
    | openBrace => exact ⟨[], l, ls, rfl, by simp, htoken⟩
    | closeBrace =>
      have hstep : State.step { s with progress := .name run } l =
          .error (.unexpected (.bodyOf (trim run))) := by
        rw [step, htoken]
      exact absurd h (not_accepts_of_step hstep)
    | _ => simp [htoken, Token.isRunPart] at hl

/-- The longest front of a list whose members pass a test. -/
theorem exists_span {α : Type} (p : α → Bool) (xs : List α) :
    ∃ front rest, xs = front ++ rest ∧ (∀ x ∈ front, p x) ∧ ∀ x ∈ rest.head?, ¬p x := by
  refine ⟨xs.takeWhile p, xs.dropWhile p, List.takeWhile_append_dropWhile.symm,
    fun x hx => List.mem_takeWhile_imp hx, fun x hx => ?_⟩
  have hnot := List.head?_dropWhile_not p xs
  rw [hx] at hnot
  simpa using hnot

/-- A name part of a source has text that trimming leaves. -/
theorem not_isBlank_of_namePart {l : Lexeme} (hl : l.IsProper) (hpart : l.token.isNamePart) :
    ∃ c t, l.token.text = c :: t ∧ ¬isBlank c := by
  cases htoken : l.token with
  | word w =>
    obtain ⟨hne, hword⟩ := hl.word w htoken
    obtain ⟨c, t, rfl⟩ := List.exists_cons_of_ne_nil hne
    exact ⟨c, t, rfl, not_isBlank_of_isWordChar (hword c (List.mem_cons_self ..))⟩
  | slash => exact ⟨'/', [], rfl, by decide⟩
  | _ => simp [htoken, Token.isNamePart] at hpart

theorem trim_runTextBefore_ne_nil {key : List Lexeme} (hne : key ≠ [])
    (hproper : ∀ l ∈ key, l.IsProper) (hparts : ∀ l ∈ key, l.token.isNamePart) (next : Lexeme) :
    trim (runTextBefore key next) ≠ [] := by
  obtain ⟨l, ls, rfl⟩ := List.exists_cons_of_ne_nil hne
  obtain ⟨c, t, htext, hc⟩ := not_isBlank_of_namePart (hproper l (List.mem_cons_self ..))
    (hparts l (List.mem_cons_self ..))
  intro hnil
  refine hc (trim_eq_nil_iff.1 hnil c ?_)
  simp [runTextBefore, runText, htext]

/-- Behind an equals sign a value is read to the end of its run, and the field is complete. -/
theorem exists_value {s : State} {key : List Lexeme} (hne : key ≠ []) {equals : Lexeme}
    (hequals : equals.token = .equals) {ls : List Lexeme} {d : Node}
    (h : State.Accepts { s with progress := .name (runText key) } (equals :: ls) d) :
    ∃ value rest, ls = value ++ rest ∧ (∀ l ∈ value, l.token.isRunPart) ∧
      (∀ l ∈ rest.head?, ¬l.token.isRunPart) ∧
      (s.endField (trim (runTextBefore key equals)) (value.flatMap Lexeme.text)).Accepts rest
        d := by
  have hstep : State.step { s with progress := .name (runText key) } equals =
      .ok { s with progress := .value (trim (runTextBefore key equals)) [] } := by
    obtain ⟨l, key, rfl⟩ := List.exists_cons_of_ne_nil hne
    rw [step, hequals]
    rfl
  obtain ⟨value, rest, rfl, hvalue, hend⟩ := exists_span (fun l : Lexeme => l.token.isRunPart) ls
  refine ⟨value, rest, rfl, hvalue, hend, ?_⟩
  rwa [accepts_cons_of_step hstep, accepts_value s _ hvalue, accepts_endField s _ _ hend] at h

/-- Lexemes that are accepted begin with a body, which ends where they end or where a body around
it is closed. -/
theorem exists_derivation {s : State} (hs : s.progress = .between) {ls : List Lexeme}
    (hproper : ∀ l ∈ ls, l.IsProper) {d : Node} (h : s.Accepts ls d) :
    ∃ (b : Derivation) (rest : List Lexeme), b.IsValid ∧ ls = b.lexemes ++ rest ∧
      ∀ l ∈ rest.head?, l.token = .closeBrace := by
  -- on the number of lexemes, because a node has two bodies in what is left: its own and the
  -- one that goes on behind it
  induction hn : ls.length using Nat.strong_induction_on generalizing s ls with
  | _ n ih =>
  cases ls with
  | nil => exact ⟨.done, [], .done, rfl, by simp⟩
  | cons l ls =>
    by_cases hpart : l.token.isNamePart
    · obtain ⟨name, tail, htail, hname, hend⟩ :=
        exists_span (fun l : Lexeme => l.token.isNamePart) (l :: ls)
      have hne : name ≠ [] := by
        rintro rfl
        rw [List.nil_append] at htail
        exact hend l (by rw [← htail]; rfl) hpart
      have hpos := List.length_pos_of_ne_nil hne
      rw [htail] at h hproper hn ⊢
      rw [List.length_append] at hn
      rw [accepts_name hs hne hname] at h
      have hproperTail : ∀ l ∈ tail, l.IsProper := fun l hl =>
        hproper l (List.mem_append_right _ hl)
      by_cases hequals : ∃ t ∈ tail.head?, t.token = .equals
      · -- the run goes on behind an equals sign, so it is a field
        obtain ⟨t, ht, hequals⟩ := hequals
        obtain ⟨tail, rfl⟩ := List.head?_eq_some_iff.1 ht
        obtain ⟨value, rest, rfl, hvalue, hends, hmore⟩ := exists_value hne hequals h
        obtain ⟨b, rest, hb, rfl, hrest⟩ := ih rest.length (by simp at hn; omega) rfl
          (fun l hl => hproperTail l (by simp [hl])) hmore rfl
        have hkey := trim_runTextBefore_ne_nil hne
          (fun l hl => hproper l (List.mem_append_left _ hl)) hname t
        refine ⟨.field name t value b, rest, .field hname hequals hvalue hkey ?_ hb, ?_, hrest⟩
        · intro l hl
          exact hends l (by rw [List.head?_append, Option.mem_def.1 hl]; rfl)
        · simp [Derivation.lexemes]
      · -- the run is complete, so it names a node
        have hends : ∀ t ∈ tail.head?, ¬t.token.isRunPart := by
          intro t ht hrun
          have hnot := hend t ht
          cases htoken : t.token <;>
            simp_all [Token.isRunPart, Token.isNamePart]
        obtain ⟨breaks, opening, rest, rfl, hbreaks, hopening⟩ := exists_opening hends h
        rw [accepts_opening s _ hbreaks hopening] at h
        obtain ⟨inner, rest, hinner, rfl, hclosing⟩ := ih rest.length (by simp at hn; omega) rfl
          (fun l hl => hproperTail l (by simp [hl])) h rfl
        rw [accepts_lexemes hinner rfl fun l hl => by simp [hclosing l hl, Token.isRunPart]] at h
        cases rest with
        | nil =>
          -- the body of the node is never closed
          rw [Accepts, extend_enter] at h
          exact absurd h (by simp [finish])
        | cons closing rest =>
          have hcloses := hclosing closing rfl
          rw [accepts_cons_of_step (step_closing s _ inner hcloses)] at h
          obtain ⟨b, rest, hb, rfl, hrest⟩ := ih rest.length (by simp at hn; omega) rfl
            (fun l hl => hproperTail l (by simp [hl])) h rfl
          exact ⟨.node name breaks opening inner closing b, rest,
            .node hne hname hbreaks hopening hinner hcloses hb, by simp [Derivation.lexemes], hrest⟩
    · cases htoken : l.token with
      | newline =>
        have hstep : s.step l = .ok { s with progress := .between } := by
          rw [step, hs]
          simp only [stepBetween, htoken]
        obtain ⟨b, rest, hb, rfl, hrest⟩ := ih ls.length (by simp [← hn]) rfl
          (fun l' hl' => hproper l' (List.mem_cons_of_mem l hl'))
          ((accepts_cons_of_step hstep).1 h) rfl
        exact ⟨.lineEnd l b, rest, .lineEnd htoken hb, rfl, hrest⟩
      | closeBrace => exact ⟨.done, l :: ls, .done, rfl, by simpa using htoken⟩
      | openBrace =>
        have hstep : s.step l = .error .namelessNode := by
          rw [step, hs]
          simp only [stepBetween, htoken]
        exact absurd h (not_accepts_of_step hstep)
      | equals =>
        have hstep : s.step l = .error .namelessField := by
          rw [step, hs]
          simp only [stepBetween, htoken]
        exact absurd h (not_accepts_of_step hstep)
      | _ => simp [htoken, Token.isNamePart] at hpart

end State

/-! ## Derivations are unique -/

namespace Derivation

/-- A list is cut in one way only into a front whose members pass a test and a rest that begins
with none that does. -/
theorem span_unique {α : Type} {p : α → Bool} {a b c d : List α} (h : a ++ b = c ++ d)
    (ha : ∀ x ∈ a, p x) (hb : ∀ x ∈ b.head?, ¬p x) (hc : ∀ x ∈ c, p x)
    (hd : ∀ x ∈ d.head?, ¬p x) : a = c ∧ b = d := by
  have hspan : ∀ front rest : List α, (∀ x ∈ front, p x) → (∀ x ∈ rest.head?, ¬p x) →
      (front ++ rest).takeWhile p = front := by
    intro front rest hfront hrest
    rw [List.takeWhile_append_of_pos hfront]
    cases rest with
    | nil => simp
    | cons x rest => rw [List.takeWhile_cons_of_neg (hrest x rfl), List.append_nil]
  have hleft : a = c := by rw [← hspan a b ha hb, h, hspan c d hc hd]
  subst hleft
  exact ⟨rfl, List.append_cancel_left h⟩

variable {b b' : Derivation} {key name value breaks ls ms : List Lexeme}
  {equals opening : Lexeme}

/-- Behind a name comes a line end or a brace. -/
theorem head?_opening (hbreaks : ∀ l ∈ breaks, l.token = .newline)
    (hopening : opening.token = .openBrace) :
    ∀ l ∈ (breaks ++ opening :: ls).head?, l.token = .newline ∨ l.token = .openBrace := by
  cases breaks with
  | nil => simpa using .inr hopening
  | cons l breaks => simpa using .inl (hbreaks l (List.mem_cons_self ..))

theorem not_isNamePart_opening (hbreaks : ∀ l ∈ breaks, l.token = .newline)
    (hopening : opening.token = .openBrace) :
    ∀ l ∈ (breaks ++ opening :: ls).head?, ¬l.token.isNamePart := by
  intro l hl
  rcases head?_opening hbreaks hopening l hl with h | h <;> simp [h, Token.isNamePart]

/-- A run ends where the body or the one around it ends. -/
theorem ends_append (hends : ∀ l ∈ b.lexemes.head?, ¬l.token.isRunPart)
    (hls : ∀ l ∈ ls.head?, l.token = .closeBrace) :
    ∀ l ∈ (b.lexemes ++ ls).head?, ¬l.token.isRunPart := by
  cases hb : b.lexemes with
  | nil => exact fun l hl => by simp [hls l hl, Token.isRunPart]
  | cons l rest => simpa [hb] using hends

/-- How a body begins. -/
inductive Start where
  /-- With no item. -/
  | outside
  | lineEnd
  /-- With a run. -/
  | run
deriving DecidableEq

/-- How a body begins. -/
def start : Derivation → Start
  | done => .outside
  | lineEnd .. => .lineEnd
  | field .. | node .. => .run

/-- How the body begins whose first lexeme this is. -/
def startOf : Option Lexeme → Start
  | none => .outside
  | some l =>
    match l.token with
    | .word _ | .slash => .run
    | .newline => .lineEnd
    | _ => .outside

theorem startOf_of_isNamePart {l : Lexeme} (h : l.token.isNamePart) : startOf (some l) = .run := by
  cases htoken : l.token <;> simp_all [startOf, Token.isNamePart]

/-- The first lexeme tells how a body begins. -/
theorem startOf_head? (hb : b.IsValid) (hls : ∀ l ∈ ls.head?, l.token = .closeBrace) :
    startOf (b.lexemes ++ ls).head? = b.start := by
  cases hb with
  | done =>
    cases ls with
    | nil => rfl
    | cons l ls => simp [lexemes, startOf, start, hls l rfl]
  | lineEnd isLineEnd => simp [lexemes, startOf, start, isLineEnd]
  | @field key value equals rest inKey isEquals inValue named =>
    obtain ⟨l, key, rfl⟩ : ∃ l ls, key = l :: ls := by
      apply List.exists_cons_of_ne_nil
      rintro rfl
      exact named rfl
    exact startOf_of_isNamePart (inKey l (List.mem_cons_self ..))
  | node named inName =>
    obtain ⟨l, name, rfl⟩ := List.exists_cons_of_ne_nil named
    exact startOf_of_isNamePart (inName l (List.mem_cons_self ..))

/-- What begins with a key and an equals sign does not begin with a name and a body. -/
theorem field_ne_node (hkey : ∀ l ∈ key, l.token.isNamePart) (hequals : equals.token = .equals)
    (hname : ∀ l ∈ name, l.token.isNamePart) (hbreaks : ∀ l ∈ breaks, l.token = .newline)
    (hopening : opening.token = .openBrace) :
    key ++ equals :: ls ≠ name ++ (breaks ++ opening :: ms) := by
  intro h
  have hhead : ∀ l ∈ (breaks ++ opening :: ms).head?, l.token = .newline ∨ l.token = .openBrace :=
    head?_opening hbreaks hopening
  obtain ⟨_, hrest⟩ := span_unique (p := fun l : Lexeme => l.token.isNamePart) h hkey
    (by simp [hequals, Token.isNamePart]) hname (not_isNamePart_opening hbreaks hopening)
  rcases hhead equals (by rw [← hrest]; rfl) with h | h <;> simp [hequals] at h

theorem start_eq (hb : b.IsValid) (hb' : b'.IsValid)
    (hls : ∀ l ∈ ls.head?, l.token = .closeBrace) (hms : ∀ l ∈ ms.head?, l.token = .closeBrace)
    (h : b.lexemes ++ ls = b'.lexemes ++ ms) : b.start = b'.start := by
  rw [← startOf_head? hb hls, h, startOf_head? hb' hms]

/-- Two derivations of one list of lexemes are equal, whatever closes them. -/
theorem eq_of_append_eq (hb : b.IsValid) (hb' : b'.IsValid)
    (hls : ∀ l ∈ ls.head?, l.token = .closeBrace) (hms : ∀ l ∈ ms.head?, l.token = .closeBrace)
    (h : b.lexemes ++ ls = b'.lexemes ++ ms) : b = b' ∧ ls = ms := by
  induction hb generalizing b' ls ms with
  | done =>
    have hstart := start_eq .done hb' hls hms h
    cases hb' with
    | done => exact ⟨rfl, h⟩
    | _ => exact absurd hstart (by simp [start])
  | lineEnd isLineEnd more ih =>
    have hstart := start_eq (.lineEnd isLineEnd more) hb' hls hms h
    cases hb' with
    | lineEnd isLineEnd' more' =>
      obtain ⟨rfl, htail⟩ := List.cons.inj h
      obtain ⟨rfl, rfl⟩ := ih more' hls hms htail
      exact ⟨rfl, rfl⟩
    | _ => exact absurd hstart (by simp [start])
  | @field key value equals rest inKey isEquals inValue named ends more ih =>
    have hstart := start_eq (.field inKey isEquals inValue named ends more) hb' hls hms h
    cases hb' with
    | @field key' value' equals' rest' inKey' isEquals' inValue' named' ends' more' =>
      simp only [lexemes, List.append_assoc, List.cons_append] at h
      -- the key ends at the first equals sign, and the value where the run ends
      obtain ⟨rfl, hequals⟩ := span_unique (p := fun l : Lexeme => l.token.isNamePart) h inKey
        (by simp [isEquals, Token.isNamePart]) inKey' (by simp [isEquals', Token.isNamePart])
      obtain ⟨rfl, hvalue⟩ := List.cons.inj hequals
      obtain ⟨rfl, hrest⟩ := span_unique (p := fun l : Lexeme => l.token.isRunPart) hvalue inValue
        (ends_append ends hls) inValue' (ends_append ends' hms)
      obtain ⟨rfl, rfl⟩ := ih more' hls hms hrest
      exact ⟨rfl, rfl⟩
    | node named' inName' areBreaks' opens' within' closes' more' =>
      simp only [lexemes, List.append_assoc, List.cons_append] at h
      exact absurd h (field_ne_node inKey isEquals inName' areBreaks' opens')
    | _ => exact absurd hstart (by simp [start])
  | @node name breaks opening closing inner rest named inName areBreaks opens within closes more
      ihInner ihRest =>
    have hstart := start_eq (.node named inName areBreaks opens within closes more) hb' hls hms h
    cases hb' with
    | field inKey' isEquals' inValue' named' ends' more' =>
      simp only [lexemes, List.append_assoc, List.cons_append] at h
      exact absurd h.symm (field_ne_node inKey' isEquals' inName areBreaks opens)
    | @node name' breaks' opening' closing' inner' rest' named' inName' areBreaks' opens' within'
        closes' more' =>
      simp only [lexemes, List.append_assoc, List.cons_append] at h
      -- the body inside comes first; what closes it is in front of the body behind
      obtain ⟨rfl, hbreaks⟩ := span_unique (p := fun l : Lexeme => l.token.isNamePart) h inName
        (not_isNamePart_opening areBreaks opens) inName' (not_isNamePart_opening areBreaks' opens')
      obtain ⟨rfl, hopening⟩ := span_unique (p := fun l : Lexeme => l.token = .newline) hbreaks
        (by simpa using areBreaks) (by simp [opens]) (by simpa using areBreaks') (by simp [opens'])
      obtain ⟨rfl, hinner⟩ := List.cons.inj hopening
      obtain ⟨rfl, hclosing⟩ := ihInner within' (by simpa using closes) (by simpa using closes')
        hinner
      obtain ⟨rfl, hrest⟩ := List.cons.inj hclosing
      obtain ⟨rfl, rfl⟩ := ihRest more' hls hms hrest
      exact ⟨rfl, rfl⟩
    | _ => exact absurd hstart (by simp [start])

/-- A list of lexemes has at most one derivation. -/
theorem eq_of_lexemes_eq (hb : b.IsValid) (hb' : b'.IsValid) (h : b.lexemes = b'.lexemes) :
    b = b' := by
  have happend : b.lexemes ++ [] = b'.lexemes ++ [] := by rw [h]
  exact (eq_of_append_eq hb hb' (by simp) (by simp) happend).1

end Derivation

/-! ## The reader and the grammar -/

theorem eq_scan_of_tokenize {source : Text} {lexed : Lexed} (h : tokenize source = .ok lexed) :
    lexed = scan false source := by
  rw [tokenize] at h
  cases hstray : firstStray? false source with
  | some found => simp [hstray] at h
  | none => simpa [hstray] using h.symm

/-- The lexemes of a source are proper. -/
theorem isProper_of_tokenize {source : Text} {lexed : Lexed} (h : tokenize source = .ok lexed) :
    lexed.IsProper false := by
  obtain rfl := eq_scan_of_tokenize h
  apply scan_proper
  rw [tokenize] at h
  cases hstray : firstStray? false source with
  | some found => simp [hstray] at h
  | none => rfl

/-- The reader accepts what has a derivation, and builds its tree. -/
theorem accepts_initial_iff {ls : List Lexeme} (hproper : ∀ l ∈ ls, l.IsProper) {d : Node} :
    State.initial.Accepts ls d ↔
      ∃ b : Derivation, b.IsValid ∧ b.lexemes = ls ∧ b.document = d := by
  have hfinish : ∀ b : Derivation, (State.initial.extend b).Accepts [] d ↔ b.document = d := by
    intro b
    rw [State.Accepts, State.extend, State.finish]
    simp [State.initial, Node.ofName, Derivation.document]
  constructor
  · intro h
    obtain ⟨b, rest, hb, rfl, hrest⟩ := State.exists_derivation rfl hproper h
    rw [State.accepts_lexemes hb rfl fun l hl => by simp [hrest l hl, Token.isRunPart]] at h
    cases rest with
    | nil => exact ⟨b, hb, (List.append_nil _).symm, (hfinish b).1 h⟩
    | cons l rest =>
      -- a closing brace closes nothing here
      have hstep : (State.initial.extend b).step l = .error (.unexpected .item) := by
        rw [State.extend, State.step]
        simp only [State.stepBetween, hrest l rfl]
        rfl
      exact absurd h (State.not_accepts_of_step hstep)
  · rintro ⟨b, hb, rfl, hdocument⟩
    rw [← List.append_nil b.lexemes, State.accepts_lexemes hb rfl (by simp)]
    exact (hfinish b).2 hdocument

theorem parse_eq_ok_iff_derivation {source : Text} {lexed : Lexed}
    (h : tokenize source = .ok lexed) {d : Node} :
    parse source = .ok d ↔
      ∃ b : Derivation, b.IsValid ∧ b.lexemes = lexed.lexemes ∧ b.document = d := by
  rw [parse, h]
  exact State.run_eq_ok_iff.trans (accepts_initial_iff (isProper_of_tokenize h).all)

/-- A source that has tokens is read as a document if and only if its lexemes, which spell the
source, have a derivation with that document; they have at most one. -/
theorem parse_eq_ok_iff {source : Text} {lexed : Lexed} (h : tokenize source = .ok lexed) :
    (∀ d, parse source = .ok d ↔
      ∃ b : Derivation, b.IsValid ∧ b.lexemes = lexed.lexemes ∧ b.document = d) ∧
    (∀ b b' : Derivation, b.IsValid → b'.IsValid → b.lexemes = lexed.lexemes →
      b'.lexemes = lexed.lexemes → b = b') ∧
    lexed.text = source := by
  refine ⟨fun d => parse_eq_ok_iff_derivation h, fun b b' hb hb' hls hls' => ?_, ?_⟩
  · exact Derivation.eq_of_lexemes_eq hb hb' (hls.trans hls'.symm)
  · rw [eq_scan_of_tokenize h]
    exact text_scan false source

theorem parse_eq_ok_iff_nodeInLine :
    ∃ lexed : Lexed, tokenize "A\x7ba = b/c=\x7d".toList = .ok lexed ∧
      ∃! b : Derivation, b.IsValid ∧ b.lexemes = lexed.lexemes ∧
        b.document = ⟨[], none, [], [⟨"A".toList, none, [⟨"a".toList, "b/c=".toList⟩], []⟩]⟩ := by
  have htokens : tokenize "A\x7ba = b/c=\x7d".toList =
      .ok (scan false "A\x7ba = b/c=\x7d".toList) := by decide +kernel
  have hparse : parse "A\x7ba = b/c=\x7d".toList =
      .ok ⟨[], none, [], [⟨"A".toList, none, [⟨"a".toList, "b/c=".toList⟩], []⟩]⟩ := by
    decide +kernel
  obtain ⟨haccepts, hunique, _⟩ := parse_eq_ok_iff htokens
  obtain ⟨b, hb, hls, hdocument⟩ := (haccepts _).1 hparse
  exact ⟨_, htokens, b, ⟨hb, hls, hdocument⟩, fun b' h => hunique b' b h.1 hb h.2.1 hls⟩

end CfgPatch.Cfg
