import CfgPatch.Proofs.Grammar

/-!
# What the format can express

Not every text can be the name of a node, or the name or the value of a field, in a document.
`IsName`, `IsKey` and `IsValue` say which ones can, and `Node.IsExpressible` asks it of a node;
`Node.Everywhere` asks a property of a node and of everything below. All that the reader stores
can be expressed (`isExpressible_of_parse`).

The three kinds of texts differ at their ends only. A byte order mark is skipped between tokens
and yet is no blank, so trimming leaves it where it stands: behind a key, where the gap in front
of the equals sign belongs to the key, and in front of a value, where the gap behind the equals
sign belongs to the value.
-/

namespace CfgPatch

namespace Cfg

open Text

/-! ## Names and values -/

/-- A text that fits between the tokens of one line: no line end, no brace, no comment, and no
blank that is out of place. -/
structure IsInline (t : Text) : Prop where
  chars : ∀ c ∈ t, c ≠ '\n' ∧ c ≠ '{' ∧ c ≠ '}' ∧ ¬isStray c
  uncommented : Uncommented t

/-- A text that can name a node. -/
structure IsName (t : Text) : Prop extends IsInline t where
  nonempty : t ≠ []
  noEquals : '=' ∉ t
  first : ∀ c ∈ t.head?, ¬isGap c
  last : ∀ c ∈ t.getLast?, ¬isGap c

/-- A text that can name a field; a byte order mark may stand at its end. -/
structure IsKey (t : Text) : Prop extends IsInline t where
  nonempty : t ≠ []
  noEquals : '=' ∉ t
  first : ∀ c ∈ t.head?, ¬isGap c
  last : ∀ c ∈ t.getLast?, ¬isBlank c

/-- A text that can be the value of a field; a byte order mark may stand in front. -/
structure IsValue (t : Text) : Prop extends IsInline t where
  first : ∀ c ∈ t.head?, ¬isBlank c
  last : ∀ c ∈ t.getLast?, ¬isGap c

/-- A blank that is neither a stray nor a line end is a gap. -/
theorem IsInline.not_isBlank {t : Text} (h : IsInline t) {c : Char} (hc : c ∈ t)
    (hgap : ¬isGap c) : ¬isBlank c := by
  obtain ⟨hline, _, _, hstray⟩ := h.chars c hc
  exact fun hblank => hgap (isGap_of_isBlank hblank hline hstray)

theorem IsInline.not_isStray {t : Text} (h : IsInline t) : ∀ c ∈ t, ¬isStray c := fun c hc =>
  (h.chars c hc).2.2.2

theorem IsInline.not_isBlank_head {t : Text} (h : IsInline t) (hfirst : ∀ c ∈ t.head?, ¬isGap c) :
    ∀ c ∈ t.head?, ¬isBlank c := fun c hc =>
  h.not_isBlank (List.mem_of_head? hc) (hfirst c hc)

theorem IsInline.not_isBlank_getLast {t : Text} (h : IsInline t)
    (hlast : ∀ c ∈ t.getLast?, ¬isGap c) : ∀ c ∈ t.getLast?, ¬isBlank c := fun c hc =>
  h.not_isBlank (List.mem_of_getLast? hc) (hlast c hc)

theorem IsInline.of_isInfix {s t : Text} (h : IsInline t) (hs : s <:+: t) : IsInline s where
  chars := fun c hc => h.chars c (hs.subset hc)
  uncommented := h.uncommented.of_isInfix hs

theorem IsName.isKey {t : Text} (h : IsName t) : IsKey t where
  toIsInline := h.toIsInline
  nonempty := h.nonempty
  noEquals := h.noEquals
  first := h.first
  last := h.not_isBlank_getLast h.last

end Cfg

/-! ## Nodes -/

open Cfg

/-- A field that the format can express. -/
structure Field.IsExpressible (f : Field) : Prop where
  key : IsKey f.name
  value : IsValue f.value

/-- A node that the format can express, whatever its children are. There is no way to write an
identifier. -/
structure Node.IsExpressible (node : Node) : Prop where
  name : IsName node.name
  id : node.id = none
  fields : ∀ f ∈ node.fields, f.IsExpressible

/-- A node has a property, and so has every node below it. -/
inductive Node.Everywhere (P : Node → Prop) : Node → Prop
  | intro {node : Node} (here : P node) (below : ∀ child ∈ node.children, Everywhere P child) :
      Everywhere P node

theorem Node.Everywhere.mono {P Q : Node → Prop} (hPQ : ∀ node, P node → Q node) {node : Node}
    (h : node.Everywhere P) : node.Everywhere Q := by
  induction h with
  | intro here _ ih => exact .intro (hPQ _ here) ih

namespace Cfg

open Text

/-! ## Lexemes of a source -/

/-- Lexemes that stand behind one another in a source without strays. -/
structure AreProper (ls : List Lexeme) : Prop where
  all : ∀ l ∈ ls, l.IsProper
  apart : ls.IsChain Lexeme.CanFollow

theorem AreProper.of_isInfix {ls ms : List Lexeme} (h : AreProper ls) (hms : ms <:+: ls) :
    AreProper ms where
  all := fun l hl => h.all l (hms.subset hl)
  apart := List.IsChain.infix h.apart hms

namespace Lexeme.IsProper

variable {l : Lexeme}

/-- A token of a run is not empty, and holds no character that is a gap or stands for another
token. -/
theorem token (h : l.IsProper) (hrun : l.token.isRunPart) :
    l.token.text ≠ [] ∧ ∀ c ∈ l.token.text,
      c ≠ '\n' ∧ c ≠ '{' ∧ c ≠ '}' ∧ ¬isStray c ∧ ¬isGap c ∧ (c = '=' → l.token = .equals) ∧
        (c = '/' → l.token = .slash) := by
  cases htoken : l.token with
  | word w =>
    obtain ⟨hne, hw⟩ := h.word w htoken
    refine ⟨hne, fun c hc => ?_⟩
    have hchar := hw c hc
    simp only [isWordChar, Bool.and_eq_true, Bool.not_eq_true', bne_iff_ne] at hchar
    obtain ⟨⟨⟨⟨⟨⟨hgap, hstray⟩, hline⟩, hslash⟩, hopen⟩, hclose⟩, hequals⟩ := hchar
    exact ⟨hline, hopen, hclose, by simp [hstray], by simp [hgap], fun h => absurd h hequals,
      fun h => absurd h hslash⟩
  | slash => exact ⟨by simp [Token.text], by simp [Token.text]; decide⟩
  | equals => exact ⟨by simp [Token.text], by simp [Token.text]; decide⟩
  | openBrace => simp [htoken, Token.isRunPart] at hrun
  | closeBrace => simp [htoken, Token.isRunPart] at hrun
  | newline => simp [htoken, Token.isRunPart] at hrun

theorem not_isGap_of_mem (h : l.IsProper) (hrun : l.token.isRunPart) {c : Char}
    (hc : c ∈ l.token.text) : ¬isGap c :=
  ((h.token hrun).2 c hc).2.2.2.2.1

theorem eq_equals_of_mem (h : l.IsProper) (hrun : l.token.isRunPart) (hc : '=' ∈ l.token.text) :
    l.token = .equals :=
  ((h.token hrun).2 '=' hc).2.2.2.2.2.1 rfl

theorem eq_slash_of_mem (h : l.IsProper) (hrun : l.token.isRunPart) (hc : '/' ∈ l.token.text) :
    l.token = .slash :=
  ((h.token hrun).2 '/' hc).2.2.2.2.2.2 rfl

theorem isGap_of_mem (h : l.IsProper) (hrun : l.token.isRunPart) : ∀ c ∈ l.gap, isGap c :=
  h.gap fun hline => by simp [hline, Token.isRunPart] at hrun

theorem text_ne_nil (h : l.IsProper) (hrun : l.token.isRunPart) : l.text ≠ [] := by
  simp [Lexeme.text, (h.token hrun).1]

/-- A lexeme that begins with a slash is a slash with no gap in front. -/
theorem eq_slash_of_head? (h : l.IsProper) (hrun : l.token.isRunPart)
    (hhead : l.text.head? = some '/') : l = ⟨[], .slash⟩ := by
  rcases l with ⟨_ | ⟨c, gap⟩, token⟩
  · rw [Lexeme.text, List.nil_append] at hhead
    rw [Lexeme.mk.injEq]
    exact ⟨rfl, h.eq_slash_of_mem hrun (List.mem_of_head? hhead)⟩
  · obtain rfl : c = '/' := Option.some.inj hhead
    exact absurd (h.isGap_of_mem hrun '/' (List.mem_cons_self ..)) (by decide)

end Lexeme.IsProper

/-! ## The text of a run -/

section Run

variable {l : Lexeme} {ls : List Lexeme}

theorem Token.isRunPart_of_isNamePart {token : Token} (h : token.isNamePart) :
    token.isRunPart := by
  cases token <;> simp_all [Token.isNamePart, Token.isRunPart]

/-- Slashes that do not touch begin no comment. -/
theorem uncommented_run (h : AreProper ls) (hrun : ∀ l ∈ ls, l.token.isRunPart) :
    Uncommented (ls.flatMap Lexeme.text) := by
  induction ls with
  | nil => exact .nil
  | cons l ls ih =>
    have hl := h.all l (List.mem_cons_self ..)
    have hlrun := hrun l (List.mem_cons_self ..)
    have hrest : AreProper ls := h.of_isInfix (List.suffix_cons l ls).isInfix
    have hrunRest : ∀ l ∈ ls, l.token.isRunPart := fun l' hl' =>
      hrun l' (List.mem_cons_of_mem l hl')
    have hgap : ∀ c ∈ l.gap, c ≠ '/' := fun c hc => ne_slash_of_isGap (hl.isGap_of_mem hlrun c hc)
    have htoken : Uncommented l.token.text := by
      by_cases hslash : l.token = .slash
      · rw [hslash]
        exact .singleton _
      · refine .of_forall_ne fun c hc => ?_
        rintro rfl
        exact hslash (hl.eq_slash_of_mem hlrun hc)
    rw [List.flatMap_cons, Lexeme.text, List.append_assoc]
    refine (Uncommented.of_forall_ne hgap).append (htoken.append (ih hrest hrunRest) ?_) ?_
    · -- what follows a slash does not begin with a slash
      intro hlast hhead
      have hslash := hl.eq_slash_of_mem hlrun (List.mem_of_getLast? hlast)
      cases ls with
      | nil => exact absurd hhead (by simp)
      | cons l' ls =>
        have hl' := hrest.all l' (List.mem_cons_self ..)
        have hl'run := hrunRest l' (List.mem_cons_self ..)
        rw [List.flatMap_cons, List.head?_append_of_ne_nil _ (hl'.text_ne_nil hl'run)] at hhead
        exact (List.isChain_cons.1 h.apart).1 l' rfl ⟨hslash, hl'.eq_slash_of_head? hl'run hhead⟩
    · exact fun hlast => absurd rfl (hgap '/' (List.mem_of_getLast? hlast))

/-- The text of a run fits on a line. -/
theorem isInline_run (h : AreProper ls) (hrun : ∀ l ∈ ls, l.token.isRunPart) :
    IsInline (ls.flatMap Lexeme.text) where
  chars := by
    intro c hc
    obtain ⟨l, hl, hc⟩ := List.mem_flatMap.1 hc
    rcases List.mem_append.1 hc with hc | hc
    · exact chars_of_isGap ((h.all l hl).isGap_of_mem (hrun l hl) c hc)
    · obtain ⟨hline, hopen, hclose, hstray, _⟩ := ((h.all l hl).token (hrun l hl)).2 c hc
      exact ⟨hline, hopen, hclose, hstray⟩
  uncommented := uncommented_run h hrun

/-- A run ends in its last token. -/
theorem not_isGap_getLast_run (h : AreProper ls) (hrun : ∀ l ∈ ls, l.token.isRunPart) :
    ∀ c ∈ (ls.flatMap Lexeme.text).getLast?, ¬isGap c := by
  rcases List.eq_nil_or_concat ls with rfl | ⟨front, l, rfl⟩
  · simp
  · have hmem : l ∈ front.concat l := by simp
    have hl := h.all l hmem
    have hlrun := hrun l hmem
    intro c hc
    rw [List.concat_eq_append, List.flatMap_append, List.flatMap_singleton, Lexeme.text,
      ← List.append_assoc, List.getLast?_append_of_ne_nil _ (hl.token hlrun).1] at hc
    exact hl.not_isGap_of_mem hlrun (List.mem_of_getLast? hc)

/-- A run with no equals sign has none in its text. -/
theorem equals_not_mem_run (h : AreProper ls) (hname : ∀ l ∈ ls, l.token.isNamePart) :
    '=' ∉ ls.flatMap Lexeme.text := by
  intro hmem
  obtain ⟨l, hl, hc⟩ := List.mem_flatMap.1 hmem
  have hrun := Token.isRunPart_of_isNamePart (hname l hl)
  rcases List.mem_append.1 hc with hc | hc
  · exact absurd ((h.all l hl).isGap_of_mem hrun '=' hc) (by decide)
  · have hpart := hname l hl
    rw [(h.all l hl).eq_equals_of_mem hrun hc] at hpart
    exact absurd hpart (by decide)

theorem runText_isSuffix : runText ls <:+ ls.flatMap Lexeme.text := by
  cases ls with
  | nil => exact List.suffix_rfl
  | cons l ls => exact ⟨l.gap, by simp [runText, Lexeme.text]⟩

/-- The text from the first token of a run on begins with that token. -/
theorem not_isGap_head_runText (h : AreProper ls) (hrun : ∀ l ∈ ls, l.token.isRunPart)
    (hne : ls ≠ []) : runText ls ≠ [] ∧ ∀ c ∈ (runText ls).head?, ¬isGap c := by
  obtain ⟨l, ls, rfl⟩ := List.exists_cons_of_ne_nil hne
  have hl := h.all l (List.mem_cons_self ..)
  have hlrun := hrun l (List.mem_cons_self ..)
  have htoken := (hl.token hlrun).1
  refine ⟨by simp [runText, htoken], fun c hc => ?_⟩
  rw [runText, List.head?_append_of_ne_nil _ htoken] at hc
  exact hl.not_isGap_of_mem hlrun (List.mem_of_head? hc)

/-! ## What the reader stores -/

/-- A name is the text of its run. -/
theorem isName_of_run (h : AreProper ls) (hname : ∀ l ∈ ls, l.token.isNamePart) (hne : ls ≠ []) :
    IsName (trim (runText ls)) := by
  have hrun : ∀ l ∈ ls, l.token.isRunPart := fun l hl => Token.isRunPart_of_isNamePart (hname l hl)
  obtain ⟨hnonempty, hfirst⟩ := not_isGap_head_runText h hrun hne
  have hinline : IsInline (runText ls) := (isInline_run h hrun).of_isInfix runText_isSuffix.isInfix
  have hlast : ∀ c ∈ (runText ls).getLast?, ¬isGap c := fun c hc =>
    not_isGap_getLast_run h hrun c (mem_getLast?_of_isSuffix runText_isSuffix hc)
  have htrim : trim (runText ls) = runText ls :=
    trim_eq_self (hinline.not_isBlank_head hfirst) (hinline.not_isBlank_getLast hlast)
  rw [htrim]
  exact ⟨hinline, hnonempty, fun hc => equals_not_mem_run h hname (runText_isSuffix.subset hc),
    hfirst, hlast⟩

/-- A key is the text of its run and the gap behind that, without blanks at the end. -/
theorem isKey_of_run (h : AreProper (ls ++ [l])) (hkey : ∀ l ∈ ls, l.token.isNamePart)
    (hequals : l.token = .equals) (hnamed : trim (runTextBefore ls l) ≠ []) :
    IsKey (trim (runTextBefore ls l)) := by
  have hls : AreProper ls := h.of_isInfix (List.prefix_append ls [l]).isInfix
  have hne : ls ≠ [] := by
    rintro rfl
    exact hnamed rfl
  have hrun : ∀ x ∈ ls, x.token.isRunPart := fun x hx =>
    Token.isRunPart_of_isNamePart (hkey x hx)
  have hlrun : l.token.isRunPart := by simp [hequals, Token.isRunPart]
  have hgap : ∀ c ∈ l.gap, isGap c := (h.all l (by simp)).isGap_of_mem hlrun
  have htext : runTextBefore ls l = runText ls ++ l.gap := by
    cases ls with
    | nil => exact absurd rfl hne
    | cons x ls => rfl
  obtain ⟨hnonempty, hfirst⟩ := not_isGap_head_runText hls hrun hne
  have hfirst' : ∀ c ∈ (runText ls ++ l.gap).head?, ¬isGap c := by
    rwa [List.head?_append_of_ne_nil _ hnonempty]
  have hinline : IsInline (runText ls ++ l.gap) := by
    have hall : ∀ x ∈ ls ++ [l], x.token.isRunPart := by
      simpa [or_imp, forall_and, hlrun] using hrun
    have hback : runText ls <:+ ls.flatMap Lexeme.text := runText_isSuffix
    obtain ⟨front, hfront⟩ := hback
    refine (isInline_run h hall).of_isInfix ⟨front, l.token.text, ?_⟩
    rw [List.flatMap_append, List.flatMap_singleton, ← hfront, Lexeme.text]
    simp
  rw [htext] at hnamed ⊢
  have hfront : trim (runText ls ++ l.gap) <+: runText ls ++ l.gap :=
    trim_isPrefix (hinline.not_isBlank_head hfirst')
  refine ⟨hinline.of_isInfix hfront.isInfix, hnamed, fun hc => ?_, fun c hc => ?_,
    not_isBlank_getLast_trim⟩
  · rcases List.mem_append.1 (hfront.subset hc) with hc | hc
    · exact equals_not_mem_run hls hkey (runText_isSuffix.subset hc)
    · exact absurd (hgap '=' hc) (by decide)
  · exact hfirst' c (mem_head?_of_isPrefix hfront hc)

/-- A value is the text of its run and the gap in front of that, without blanks at the front. -/
theorem isValue_of_run (h : AreProper ls) (hrun : ∀ l ∈ ls, l.token.isRunPart) :
    IsValue (trim (ls.flatMap Lexeme.text)) := by
  have hinline := isInline_run h hrun
  have hlast := not_isGap_getLast_run h hrun
  have hback : trim (ls.flatMap Lexeme.text) <:+ ls.flatMap Lexeme.text :=
    trim_isSuffix (hinline.not_isBlank_getLast hlast)
  exact ⟨hinline.of_isInfix hback.isInfix, not_isBlank_head_trim,
    fun c hc => hlast c (mem_getLast?_of_isSuffix hback hc)⟩

end Run

/-- The fields and the nodes of a body can be expressed. -/
theorem Derivation.isExpressible {b : Derivation} (hb : b.IsValid) (h : AreProper b.lexemes) :
    (∀ f ∈ b.fields, f.IsExpressible) ∧ ∀ node ∈ b.nodes, node.Everywhere Node.IsExpressible := by
  induction hb with
  | done => simp [fields, nodes]
  | @lineEnd mark rest isLineEnd more ih =>
    exact ih (h.of_isInfix (List.suffix_cons mark _).isInfix)
  | @field key value equals rest inKey isEquals inValue named ends more ih =>
    rw [lexemes] at h
    have hkey : AreProper (key ++ [equals]) := h.of_isInfix ⟨[], value ++ rest.lexemes, by simp⟩
    have hvalue : AreProper value := h.of_isInfix ⟨key ++ [equals], rest.lexemes, by simp⟩
    obtain ⟨hfields, hnodes⟩ := ih (h.of_isInfix ⟨key ++ equals :: value, [], by simp⟩)
    refine ⟨fun f hf => ?_, hnodes⟩
    rcases List.mem_cons.1 hf with rfl | hf
    · exact ⟨isKey_of_run hkey inKey isEquals named, isValue_of_run hvalue inValue⟩
    · exact hfields f hf
  | @node name breaks opening closing inner rest named inName areBreaks opens within closes more
      ihInner ihRest =>
    rw [lexemes] at h
    have hname : AreProper name := h.of_isInfix (List.prefix_append name _).isInfix
    obtain ⟨hinnerFields, hinnerNodes⟩ := ihInner
      (h.of_isInfix ⟨name ++ (breaks ++ [opening]), closing :: rest.lexemes, by simp⟩)
    obtain ⟨hfields, hnodes⟩ := ihRest
      (h.of_isInfix ⟨name ++ (breaks ++ opening :: (inner.lexemes ++ [closing])), [], by simp⟩)
    refine ⟨hfields, fun node hnode => ?_⟩
    rcases List.mem_cons.1 hnode with rfl | hnode
    · exact .intro ⟨isName_of_run hname inName named, rfl, hinnerFields⟩ hinnerNodes
    · exact hnodes node hnode

/-- All that is read can be expressed. -/
theorem isExpressible_of_parse {source : Text} {d : Node} (h : parse source = .ok d) :
    (∀ f ∈ d.fields, f.IsExpressible) ∧
      ∀ node ∈ d.children, node.Everywhere Node.IsExpressible := by
  cases hlexed : tokenize source with
  | error found => simp [parse, hlexed] at h
  | ok lexed =>
    obtain ⟨b, hb, hls, rfl⟩ := (parse_eq_ok_iff_derivation hlexed).1 h
    have hproper := isProper_of_tokenize hlexed
    exact Derivation.isExpressible hb (hls ▸ ⟨hproper.all, hproper.apart⟩)

end Cfg
end CfgPatch
