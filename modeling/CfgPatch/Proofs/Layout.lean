import CfgPatch.Proofs.Grammar
import Mathlib.Logic.Relation

/-!
# The layout of a source

Much of a source is layout: carriage returns in front of line ends, a byte order mark, comments
behind what stands on a line, empty lines. A document does not depend on it: a source that
comes of another one by a change of layout (`Relayout`) is read as the same document, or neither
of the two is read (`SameDocument`).

There are three reasons. The text in front of a line end is a gap, and the reader makes nothing
of the gap in front of a line end (`State.step_newline`); a second line end says what the first one
said (`State.step_newline_twice`); and where no item has begun the gap does not count at all
(`State.step_gap_of_between`). So it is enough to know what each change does to the lexemes.
-/

namespace CfgPatch.Cfg

open Text

/-! ## Lexemes that are read alike -/

namespace State

/-- Lexemes that are read alike are read alike behind others. -/
theorem accepts_append_congr {ms ms' : List Lexeme} {d : Node}
    (h : ∀ s : State, s.Accepts ms d ↔ s.Accepts ms' d) (ls : List Lexeme) (s : State) :
    s.Accepts (ls ++ ms) d ↔ s.Accepts (ls ++ ms') d := by
  induction ls generalizing s with
  | nil => exact h s
  | cons l ls ih =>
    rw [List.cons_append, List.cons_append, Accepts, Accepts]
    exact exists_congr fun s' => and_congr_right fun _ => ih s'

/-- What stands in front of a line end is not looked at. -/
theorem step_newline (s : State) (gap gap' : Text) :
    s.step ⟨gap, .newline⟩ = s.step ⟨gap', .newline⟩ := by
  rw [step, step]
  cases s.progress <;> rfl

/-- Behind a line end another one changes nothing: no item has begun, or a name is complete. -/
theorem step_newline_twice {s s' : State} {gap : Text} (h : s.step ⟨gap, .newline⟩ = .ok s')
    (gap' : Text) : s'.step ⟨gap', .newline⟩ = .ok s' := by
  have hprogress : s'.progress = .between ∨ ∃ name, s'.progress = .header name := by
    rw [step] at h
    cases hs : s.progress with
    | between =>
      rw [hs] at h
      obtain rfl := Except.ok.inj h
      exact .inl rfl
    | name run =>
      rw [hs] at h
      obtain rfl := Except.ok.inj h
      exact .inr ⟨trim run, rfl⟩
    | value key run =>
      rw [hs] at h
      obtain rfl := Except.ok.inj h
      exact .inl rfl
    | header name =>
      rw [hs] at h
      obtain rfl := Except.ok.inj h
      exact .inr ⟨name, hs⟩
  rcases s' with ⟨node, outer, progress⟩
  rcases hprogress with hs' | ⟨name, hs'⟩
  · obtain rfl : progress = .between := hs'
    rfl
  · obtain rfl : progress = .header name := hs'
    rfl

/-- The gap in front of an item is not looked at. -/
theorem step_gap_of_between {s : State} (hs : s.progress = .between) (gap gap' : Text)
    (token : Token) : s.step ⟨gap, token⟩ = s.step ⟨gap', token⟩ := by
  rw [step, step, hs]
  rfl

theorem accepts_newline_gap (gap gap' : Text) (ls ms : List Lexeme) (s : State) (d : Node) :
    s.Accepts (ls ++ ⟨gap, .newline⟩ :: ms) d ↔ s.Accepts (ls ++ ⟨gap', .newline⟩ :: ms) d := by
  refine accepts_append_congr (fun s => ?_) ls s
  rw [Accepts, Accepts, step_newline s gap gap']

theorem accepts_newline_twice (gap gap' : Text) (ls ms : List Lexeme) (s : State) (d : Node) :
    s.Accepts (ls ++ ⟨gap, .newline⟩ :: ⟨gap', .newline⟩ :: ms) d ↔
      s.Accepts (ls ++ ⟨gap, .newline⟩ :: ms) d := by
  refine accepts_append_congr (fun s => ?_) ls s
  rw [Accepts, Accepts]
  refine exists_congr fun s' => and_congr_right fun hstep => ?_
  exact accepts_cons_of_step (step_newline_twice hstep gap')

end State

/-- A source is read if nothing in it is stray and its lexemes are accepted. -/
theorem parse_eq_ok_iff_accepts {source : Text} {d : Node} :
    parse source = .ok d ↔ firstStray? false source = none ∧
      State.initial.Accepts (scan false source).lexemes d := by
  rw [parse, tokenize]
  cases hstray : firstStray? false source with
  | some found => simp
  | none => simpa using State.run_eq_ok_iff

/-! ## Sources that are read alike -/

/-- Two sources are read as one document, or neither of them is read. -/
def SameDocument (s t : Text) : Prop := (parse s).toOption = (parse t).toOption

theorem sameDocument_iff {s t : Text} :
    SameDocument s t ↔ ∀ d, parse s = .ok d ↔ parse t = .ok d := by
  have hok : ∀ (source : Text) (d : Node),
      (parse source).toOption = some d ↔ parse source = .ok d := by
    intro source d
    cases parse source <;> simp [Except.toOption]
  simp only [SameDocument, Option.ext_iff, hok]

/-- It is enough that the same sources are free of strays and that the lexemes are read alike. -/
theorem SameDocument.of_lexemes {s t : Text}
    (hstray : firstStray? false s = none ↔ firstStray? false t = none)
    (haccepts : ∀ d, State.initial.Accepts (scan false s).lexemes d ↔
      State.initial.Accepts (scan false t).lexemes d) : SameDocument s t := by
  refine sameDocument_iff.2 fun d => ?_
  rw [parse_eq_ok_iff_accepts, parse_eq_ok_iff_accepts, hstray, haccepts]

/-! ## At the end of a line -/

/-- A text that is a gap wherever it stands at the end of a line, whether or not a comment is
open there. -/
structure IsTrailing (x : Text) : Prop where
  first : ∃ c y, x = c :: y ∧ isGap c
  scan_eq : ∀ commented, scan commented x = ⟨[], x⟩
  clean : ∀ commented, firstStray? commented x = none

theorem isTrailing_return : IsTrailing ['\r'] where
  first := ⟨'\r', [], rfl, rfl⟩
  scan_eq := by decide
  clean := by decide

theorem isTrailing_comment {t : Text} (h : '\n' ∉ t) : IsTrailing (' ' :: '/' :: '/' :: t) where
  first := ⟨' ', '/' :: '/' :: t, rfl, rfl⟩
  scan_eq := by
    intro commented
    cases commented with
    | true => exact scan_comment (by simp [h])
    | false =>
      rw [scan, if_neg (by decide), if_pos (by decide), scan_slashes h]
      rfl
  clean := by
    intro commented
    cases commented with
    | true => exact firstStray?_comment (by simp [h])
    | false =>
      have hspace : commentedBehind false ' ' ('/' :: '/' :: t) = false :=
        commentedBehind_of_outside fun hslash => absurd hslash (by decide)
      rw [firstStray?_cons_eq_none, hspace]
      exact ⟨fun hstray => absurd hstray (by decide), firstStray?_slashes h⟩

section Trailing

variable {x : Text}

/-- In front of a line end it becomes a part of the gap there. -/
theorem sameDocument_trailing_line (hx : IsTrailing x) (a t : Text) :
    SameDocument (a ++ x ++ '\n' :: t) (a ++ '\n' :: t) := by
  obtain ⟨c, y, hcons, hc⟩ := hx.first
  have hassoc : a ++ x ++ '\n' :: t = a ++ c :: (y ++ '\n' :: t) := by rw [hcons]; simp
  have hbehind : c :: (y ++ '\n' :: t) = x ++ '\n' :: t := by rw [hcons]; rfl
  refine .of_lexemes ?_ fun d => ?_
  · rw [hassoc, firstStray?_append_eq_none (.inr hc), hbehind, firstStray?_append_line,
      firstStray?_append_line]
    simp [hx.clean]
  · have hgap := State.accepts_newline_gap ((scan false a).rest ++ x) (scan false a).rest
      (scan false a).lexemes (scan false t).lexemes State.initial d
    rw [hassoc, scan_append (.inr hc), hbehind, scan_append_line, hx.scan_eq, scan_append_line]
    simpa [Lexed.append, Lexed.push] using hgap

/-- At the end of the source it becomes a part of what is left there. -/
theorem sameDocument_trailing_end (hx : IsTrailing x) (a : Text) : SameDocument (a ++ x) a := by
  obtain ⟨c, y, hcons, hc⟩ := hx.first
  refine .of_lexemes ?_ fun d => ?_
  · rw [hcons, firstStray?_append_eq_none (.inr hc), ← hcons]
    simp [hx.clean]
  · rw [hcons, scan_append (.inr hc), ← hcons, hx.scan_eq]
    rfl

end Trailing

/-- A source with a carriage return in front of each line end. -/
def withReturns (source : Text) : Text :=
  source.flatMap fun c => if c = '\n' then ['\r', '\n'] else [c]

theorem withReturns_newline (t : Text) : withReturns ('\n' :: t) = '\r' :: '\n' :: withReturns t :=
  rfl

theorem withReturns_of_ne {c : Char} (h : c ≠ '\n') (t : Text) :
    withReturns (c :: t) = c :: withReturns t := by
  simp [withReturns, h]

/-- Line by line the carriage returns make no difference, whatever stands in front. -/
theorem sameDocument_withReturns (a t : Text) : SameDocument (a ++ withReturns t) (a ++ t) := by
  induction t generalizing a with
  | nil => rfl
  | cons c t ih =>
    by_cases hline : c = '\n'
    · subst hline
      have hfirst := sameDocument_trailing_line isTrailing_return a (withReturns t)
      have hrest := ih (a ++ ['\n'])
      rw [List.append_assoc, List.append_assoc] at hrest
      rw [withReturns_newline]
      rw [List.append_assoc] at hfirst
      exact Eq.trans hfirst hrest
    · have hrest := ih (a ++ [c])
      rw [List.append_assoc, List.append_assoc] at hrest
      rw [withReturns_of_ne hline]
      exact hrest

/-! ## In front of the source and between lines -/

theorem sameDocument_mark (t : Text) : SameDocument (byteOrderMark :: t) t := by
  refine .of_lexemes ?_ fun d => ?_
  · have houtside : commentedBehind false byteOrderMark t = false :=
      commentedBehind_of_outside fun hslash => absurd hslash (by decide)
    rw [firstStray?_cons_eq_none, houtside]
    exact and_iff_right fun hstray => absurd hstray (by decide)
  · rw [scan, if_neg (by decide), if_pos (by decide), lexemes_skip]
    -- the mark goes to the gap of the first lexeme, and there no item has begun
    cases (scan false t).lexemes with
    | nil => rfl
    | cons l ls =>
      have hstep := State.step_gap_of_between (s := .initial) rfl (byteOrderMark :: l.gap) l.gap
        l.token
      rw [List.modifyHead_cons, State.Accepts, State.Accepts, hstep]

theorem sameDocument_emptyLine (a t : Text) :
    SameDocument (a ++ '\n' :: '\n' :: t) (a ++ '\n' :: t) := by
  refine .of_lexemes ?_ fun d => ?_
  · rw [firstStray?_append_line, firstStray?_append_line, firstStray?_newline_eq_none]
  · have htwice := State.accepts_newline_twice (scan false a).rest [] (scan false a).lexemes
      (scan false t).lexemes State.initial d
    rw [scan_append_line, scan_append_line, scan_newline]
    simpa [Lexed.append, Lexed.push] using htwice

/-! ## Changes of layout -/

/-- A change of layout, from one source to another. -/
inductive Relayout : Text → Text → Prop
  /-- Each line end gets a carriage return in front. -/
  | returns (t : Text) : Relayout t (withReturns t)
  /-- A byte order mark is put in front. -/
  | mark (t : Text) : Relayout t (byteOrderMark :: t)
  /-- A line gets a comment behind it; it ends where `b` begins, if not with the source. -/
  | comment (a b : Text) {c : Text} (atEnd : ∀ e ∈ b.head?, e = '\n') (inLine : '\n' ∉ c) :
      Relayout (a ++ b) (a ++ " //".toList ++ c ++ b)
  /-- An empty line is put between two lines. -/
  | emptyLine (a b : Text) : Relayout (a ++ '\n' :: b) (a ++ '\n' :: '\n' :: b)

theorem Relayout.sameDocument {s t : Text} (h : Relayout s t) : SameDocument t s := by
  cases h with
  | returns => exact sameDocument_withReturns [] s
  | mark => exact sameDocument_mark s
  | @comment a b c atEnd inLine =>
    have hassoc : a ++ " //".toList ++ c ++ b = a ++ (' ' :: '/' :: '/' :: c) ++ b := by simp
    have hcomment := isTrailing_comment inLine
    rw [hassoc]
    cases b with
    | nil =>
      rw [List.append_nil, List.append_nil]
      exact sameDocument_trailing_end hcomment a
    | cons e b =>
      obtain rfl := atEnd e rfl
      exact sameDocument_trailing_line hcomment a b
  | emptyLine a b => exact sameDocument_emptyLine a b

/-- Changes of layout, however many, change neither whether a source is read nor the document it
is read as. -/
theorem sameDocument_of_relayout {s t : Text} (h : Relation.ReflTransGen Relayout s t) :
    (parse t).toOption = (parse s).toOption := by
  induction h with
  | refl => rfl
  | tail _ hlast ih => exact hlast.sameDocument.trans ih

/-- A value with slashes in it, behind which a comment is put. Then the lines get carriage
returns, and so does an empty line. -/
theorem sameDocument_of_relayout_slashes :
    Relation.ReflTransGen Relayout "A\n\x7b\nx = /b/\n\x7d".toList
      "A\r\n\r\n\x7b\r\nx = /b/ ///c\r\n\x7d".toList ∧
    (parse "A\r\n\r\n\x7b\r\nx = /b/ ///c\r\n\x7d".toList).toOption =
      some ⟨[], none, [], [⟨"A".toList, none, [⟨"x".toList, "/b/".toList⟩], []⟩]⟩ := by
  have hcomment : Relayout "A\n\x7b\nx = /b/\n\x7d".toList
      "A\n\x7b\nx = /b/ ///c\n\x7d".toList :=
    .comment "A\n\x7b\nx = /b/".toList "\n\x7d".toList (c := "/c".toList) (by simp) (by simp)
  have hempty : Relayout "A\n\x7b\nx = /b/ ///c\n\x7d".toList
      "A\n\n\x7b\nx = /b/ ///c\n\x7d".toList :=
    .emptyLine "A".toList "\x7b\nx = /b/ ///c\n\x7d".toList
  have hreturns : Relayout "A\n\n\x7b\nx = /b/ ///c\n\x7d".toList
      "A\r\n\r\n\x7b\r\nx = /b/ ///c\r\n\x7d".toList :=
    .returns "A\n\n\x7b\nx = /b/ ///c\n\x7d".toList
  have hchanges := ((Relation.ReflTransGen.single hcomment).tail hempty).tail hreturns
  refine ⟨hchanges, ?_⟩
  rw [sameDocument_of_relayout hchanges]
  decide +kernel

end CfgPatch.Cfg
