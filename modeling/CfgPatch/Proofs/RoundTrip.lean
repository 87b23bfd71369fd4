import CfgPatch.Cfg.Format
import CfgPatch.Proofs.Expressible

/-!
# Reading what was written

A written document is read back as the nodes it was written from, if and only if the format can
express them (`parse_write_iff`). Since all that is read can be expressed, formatting keeps a
document and changes nothing the second time (`format_stable`).

The proof builds the derivation of the written text line by line. `Reads` says that a text is
derived wherever it stands, and each kind of line has a rule that puts it in front of a text
for which that is known already.
-/

namespace CfgPatch.Cfg

open Text

/-! ## Names and values in a line -/

/-- A character of an indentation. -/
def IsMargin (c : Char) : Prop := c = ' ' ∨ c = '\t'

theorem isGap_of_mem_space : ∀ c ∈ [' '], isGap c := List.forall_mem_singleton.2 rfl

theorem isBlank_of_mem_space : ∀ c ∈ [' '], isBlank c := List.forall_mem_singleton.2 rfl

theorem IsMargin.isGap {c : Char} (h : IsMargin c) : isGap c := by
  rcases h with rfl | rfl <;> decide

theorem isMargin_of_mem_margin {indent : Text} (h : ∀ c ∈ indent, IsMargin c) {depth : Nat} :
    ∀ c ∈ margin indent depth, IsMargin c := by
  intro c hc
  obtain ⟨piece, hpiece, hc⟩ := List.mem_flatten.1 hc
  exact h c ((List.eq_of_mem_replicate hpiece) ▸ hc)

section Line

variable {m x : Text}

theorem IsInline.of_gap (hm : ∀ c ∈ m, isGap c) : IsInline m where
  chars := fun c hc => chars_of_isGap (hm c hc)
  uncommented := .of_forall_ne fun c hc => ne_slash_of_isGap (hm c hc)

theorem IsInline.gap_append (hm : ∀ c ∈ m, isGap c) (hx : IsInline x) : IsInline (m ++ x) where
  chars := fun c hc => (List.mem_append.1 hc).elim ((IsInline.of_gap hm).chars c) (hx.chars c)
  uncommented := by
    refine (IsInline.of_gap hm).uncommented.append hx.uncommented fun hlast => ?_
    exact absurd rfl (ne_slash_of_isGap (hm '/' (List.mem_of_getLast? hlast)))

theorem IsInline.firstStray?_eq_none (h : IsInline x) : firstStray? false x = none :=
  firstStray?_of_forall h.not_isStray

/-- A text that fits on a line is a run. -/
theorem IsInline.isRunPart (h : IsInline x) : ∀ l ∈ (scan false x).lexemes, l.token.isRunPart := by
  intro l hl
  have hchars : ∀ c ∈ l.token.text, c ≠ '\n' ∧ c ≠ '{' ∧ c ≠ '}' := fun c hc => by
    obtain ⟨hline, hopen, hclose, _⟩ := h.chars c (mem_of_mem_lexemes hl hc)
    exact ⟨hline, hopen, hclose⟩
  cases htoken : l.token <;> simp_all [Token.text, Token.isRunPart]

theorem IsInline.isNamePart (h : IsInline x) (hequals : '=' ∉ x) :
    ∀ l ∈ (scan false x).lexemes, l.token.isNamePart := by
  intro l hl
  have hrun := h.isRunPart l hl
  have hchars : ∀ c ∈ l.token.text, c ≠ '=' := fun c hc heq =>
    hequals (heq ▸ mem_of_mem_lexemes hl hc)
  cases htoken : l.token <;> simp_all [Token.text, Token.isRunPart, Token.isNamePart]

/-- A text with a margin in front and no gap at its own front is the run of its lexemes, with
the gap behind them. -/
theorem IsInline.runText_margin (hm : ∀ c ∈ m, isGap c) (h : IsInline x) (hne : x ≠ [])
    (hfirst : ∀ c ∈ x.head?, ¬isGap c) :
    (scan false (m ++ x)).lexemes ≠ [] ∧
      runText (scan false (m ++ x)).lexemes ++ (scan false (m ++ x)).rest = x := by
  obtain ⟨c, x, rfl⟩ := List.exists_cons_of_ne_nil hne
  have hstray := h.not_isStray c (List.mem_cons_self ..)
  obtain ⟨token, ls, hls⟩ := exists_lexemes_cons h.uncommented (hfirst c rfl) hstray
  have htext := text_scan false (c :: x)
  rw [Lexed.text, hls, List.flatMap_cons, Lexeme.text, List.nil_append] at htext
  rw [scan_gap_append hm, Lexed.append, hls]
  exact ⟨by simp, by simpa [runText] using htext⟩

/-- A value is what is read behind the equals sign and a space. -/
theorem IsValue.trim_run (h : IsValue x) :
    trim ((scan false (' ' :: x)).lexemes.flatMap Lexeme.text) = x := by
  have htext := text_scan false (' ' :: x)
  rw [Lexed.text] at htext
  by_cases hx : x = []
  · subst hx
    decide
  · have hspace : IsInline (' ' :: x) := h.toIsInline.gap_append isGap_of_mem_space
    -- a value ends in a token, so nothing of it is left to the gap of the line end
    have hrest : (scan false (' ' :: x)).rest = [] := by
      refine rest_eq_nil hspace.uncommented hspace.not_isStray ?_
      rw [← List.singleton_append, List.getLast?_append_of_ne_nil _ hx]
      exact h.last
    rw [hrest, List.append_nil] at htext
    rw [htext]
    have hlast := h.not_isBlank_getLast h.last
    have htrim := trim_blanks_around isBlank_of_mem_space (b := []) (by simp) h.first hlast
    simpa using htrim

theorem equals_not_mem_margin (hm : ∀ c ∈ m, isGap c) (hx : '=' ∉ x) : '=' ∉ m ++ x := by
  rw [List.mem_append, not_or]
  exact ⟨fun hc => absurd (hm '=' hc) (by decide), hx⟩

/-- A name is what is read on a line of its own. -/
theorem IsName.trim_run (hm : ∀ c ∈ m, isGap c) (h : IsName x) :
    trim (runText (scan false (m ++ x)).lexemes) = x := by
  have hinline := h.toIsInline.gap_append hm
  have hrest : (scan false (m ++ x)).rest = [] := by
    refine rest_eq_nil hinline.uncommented hinline.not_isStray ?_
    rw [List.getLast?_append_of_ne_nil _ h.nonempty]
    exact h.last
  obtain ⟨_, hrun⟩ := h.toIsInline.runText_margin hm h.nonempty h.first
  rw [hrest, List.append_nil] at hrun
  rw [hrun]
  exact trim_eq_self (h.not_isBlank_head h.first) (h.not_isBlank_getLast h.last)

/-- A key is what is read in front of a space and the equals sign. -/
theorem IsKey.trim_run (hm : ∀ c ∈ m, isGap c) (h : IsKey x) :
    trim (runTextBefore (scan false (m ++ x)).lexemes
      ⟨(scan false (m ++ x)).rest ++ [' '], .equals⟩) = x := by
  obtain ⟨hne, hrun⟩ := h.toIsInline.runText_margin hm h.nonempty h.first
  obtain ⟨l, ls, hls⟩ := List.exists_cons_of_ne_nil hne
  have hfirst := h.not_isBlank_head h.first
  rw [hls] at hrun ⊢
  -- the space in front of the equals sign is in the slice of the key, and is trimmed away
  rw [runTextBefore, ← List.append_assoc, hrun]
  have htrim := trim_blanks_around (a := []) (by simp) isBlank_of_mem_space hfirst h.last
  simpa using htrim

/-- The lexemes of a line that holds a field. -/
theorem scan_fieldText (hm : ∀ c ∈ m, isGap c) {f : Field} (h : f.IsExpressible) :
    scan false (m ++ fieldText f) =
      ⟨(scan false (m ++ f.name)).lexemes ++
          ⟨(scan false (m ++ f.name)).rest ++ [' '], .equals⟩ ::
            (scan false (' ' :: f.value)).lexemes,
        (scan false (' ' :: f.value)).rest⟩ := by
  have hkey := (h.key.toIsInline.gap_append hm).uncommented
  have hequals : scan false (" = ".toList ++ f.value) =
      ((scan false (' ' :: f.value)).push .equals).skip ' ' := rfl
  have hassoc : m ++ fieldText f = (m ++ f.name) ++ ' ' :: ('=' :: ' ' :: f.value) := by
    simp [fieldText]
  rw [hassoc, scan_append (.inr rfl), hkey.commentedAfter]
  exact congrArg ((scan false (m ++ f.name)).append ·) hequals

theorem firstStray?_fieldText (hm : ∀ c ∈ m, isGap c) {f : Field} (h : f.IsExpressible) :
    firstStray? false (m ++ fieldText f) = none := by
  have hequals : ∀ c ∈ " = ".toList, ¬isStray c := by
    simp [isStray, isGap, isBlank]
  refine firstStray?_of_forall fun c hc => ?_
  rw [fieldText] at hc
  simp only [List.mem_append] at hc
  rcases hc with hc | (hc | hc) | hc
  · exact not_isStray_of_isGap (hm c hc)
  · exact h.key.not_isStray c hc
  · exact hequals c hc
  · exact h.value.not_isStray c hc

end Line

/-! ## Line by line -/

/-- A text is read as items with these fields and nodes, wherever it stands. -/
def Reads (x : Text) (fields : List Field) (nodes : List Node) : Prop :=
  ∃ b : Derivation, b.IsValid ∧ b.fields = fields ∧ b.nodes = nodes ∧ Cut x b.lexemes

section Reads

variable {indent x y : Text} {depth : Nat} {fs gs : List Field} {ns cs : List Node}

theorem Reads.parse (h : Reads x fs ns) : parse x = .ok ⟨[], none, fs, ns⟩ := by
  obtain ⟨b, hb, rfl, rfl, hcut⟩ := h
  exact (parse_eq_ok_iff_derivation hcut.tokenize).2 ⟨b, hb, rfl, rfl⟩

theorem Reads.nil : Reads [] [] [] := ⟨.done, .done, rfl, rfl, .nil⟩

/-- A line is cut into its lexemes wherever it stands. -/
theorem Cut.line_text {content : Text}
    (h : firstStray? false (margin indent depth ++ content) = none) :
    Cut (Line.text indent ⟨depth, content⟩)
      ((scan false (margin indent depth ++ content)).lexemes ++
        [⟨(scan false (margin indent depth ++ content)).rest, .newline⟩]) :=
  .line h

/-- A line with a token and a margin only. -/
theorem Cut.line_of_token {content : Text} {token : Token}
    (hm : ∀ c ∈ margin indent depth, isGap c) (hcontent : ∀ c ∈ content, ¬isStray c)
    (hscan : scan false content = ⟨[⟨[], token⟩], []⟩) :
    Cut (Line.text indent ⟨depth, content⟩)
      [⟨margin indent depth, token⟩, ⟨[], .newline⟩] := by
  have hclean : firstStray? false (margin indent depth ++ content) = none := by
    refine firstStray?_of_forall fun c hc => ?_
    rcases List.mem_append.1 hc with hc | hc
    · exact not_isStray_of_isGap (hm c hc)
    · exact hcontent c hc
  simpa [scan_gap_append hm, hscan, Lexed.append] using Cut.line_text hclean

variable (hindent : ∀ c ∈ indent, IsMargin c)

include hindent in
theorem isGap_of_mem_margin : ∀ c ∈ margin indent depth, isGap c := fun c hc =>
  (isMargin_of_mem_margin hindent c hc).isGap

include hindent in
/-- The line of a field is read as that field. -/
theorem Reads.field {f : Field} (hf : f.IsExpressible) (h : Reads x fs ns) :
    Reads (Line.text indent ⟨depth, fieldText f⟩ ++ x) (f :: fs) ns := by
  obtain ⟨b, hb, rfl, rfl, hcut⟩ := h
  have hm : ∀ c ∈ margin indent depth, isGap c := isGap_of_mem_margin hindent
  have hkey := (hf.key.toIsInline.gap_append hm).isNamePart
    (equals_not_mem_margin hm hf.key.noEquals)
  have hvalue : IsInline (' ' :: f.value) :=
    hf.value.toIsInline.gap_append isGap_of_mem_space
  have hline := Cut.line_text (firstStray?_fieldText hm hf)
  rw [scan_fieldText hm hf] at hline
  have htrim := hf.key.trim_run hm
  -- the gap that the key ends in goes to the equals sign, that of the value to the line end
  refine ⟨.field (scan false (margin indent depth ++ f.name)).lexemes
    ⟨(scan false (margin indent depth ++ f.name)).rest ++ [' '], .equals⟩
    (scan false (' ' :: f.value)).lexemes
    (.lineEnd ⟨(scan false (' ' :: f.value)).rest, .newline⟩ b), ?_, ?_, rfl, ?_⟩
  · refine .field hkey rfl hvalue.isRunPart ?_ ?_ (.lineEnd rfl hb)
    · rw [htrim]
      exact hf.key.nonempty
    · simp [Derivation.lexemes, Token.isRunPart]
  · rw [Derivation.fields, htrim, hf.value.trim_run]
    rfl
  · simpa [Derivation.lexemes] using hline.append hcut

include hindent in
/-- The lines of a name, of braces and of what stands in the braces are read as a node. -/
theorem Reads.node {name : Text} (hname : IsName name) (hy : Reads y fs cs) (hx : Reads x gs ns) :
    Reads (Line.text indent ⟨depth, name⟩ ++ (Line.text indent ⟨depth, ['{']⟩ ++
      (y ++ (Line.text indent ⟨depth, ['}']⟩ ++ x)))) gs (⟨name, none, fs, cs⟩ :: ns) := by
  obtain ⟨inner, hinner, rfl, rfl, hcutInner⟩ := hy
  obtain ⟨b, hb, rfl, rfl, hcut⟩ := hx
  have hm : ∀ c ∈ margin indent depth, isGap c := isGap_of_mem_margin hindent
  have hinline := hname.toIsInline.gap_append hm
  have hparts := hinline.isNamePart (equals_not_mem_margin hm hname.noEquals)
  obtain ⟨hne, _⟩ := hname.toIsInline.runText_margin hm hname.nonempty hname.first
  have hline := Cut.line_text hinline.firstStray?_eq_none
  have hopening : Cut (Line.text indent ⟨depth, ['{']⟩)
      [⟨margin indent depth, .openBrace⟩, ⟨[], .newline⟩] :=
    .line_of_token hm (List.forall_mem_singleton.2 (by decide)) rfl
  have hclosing : Cut (Line.text indent ⟨depth, ['}']⟩)
      [⟨margin indent depth, .closeBrace⟩, ⟨[], .newline⟩] :=
    .line_of_token hm (List.forall_mem_singleton.2 (by decide)) rfl
  refine ⟨.node (scan false (margin indent depth ++ name)).lexemes
    [⟨(scan false (margin indent depth ++ name)).rest, .newline⟩]
    ⟨margin indent depth, .openBrace⟩ (.lineEnd ⟨[], .newline⟩ inner)
    ⟨margin indent depth, .closeBrace⟩ (.lineEnd ⟨[], .newline⟩ b), ?_, rfl, ?_, ?_⟩
  · exact .node hne hparts (by simp) rfl (.lineEnd rfl hinner) rfl (.lineEnd rfl hb)
  · rw [Derivation.nodes, hname.trim_run hm]
    rfl
  · have hwhole := hline.append (hopening.append (hcutInner.append (hclosing.append hcut)))
    simpa [Derivation.lexemes] using hwhole

end Reads

/-! ## Whole documents -/

section Document

variable {indent : Text}

theorem Reads.fields (hindent : ∀ c ∈ indent, IsMargin c) (depth : Nat) {x : Text}
    {fs gs : List Field} {ns : List Node}
    (hfs : ∀ f ∈ fs, f.IsExpressible) (h : Reads x gs ns) :
    Reads ((fs.map fun f => Line.mk depth (fieldText f)).flatMap (Line.text indent) ++ x)
      (fs ++ gs) ns := by
  induction fs with
  | nil => exact h
  | cons f fs ih =>
    rw [List.map_cons, List.flatMap_cons, List.append_assoc]
    exact .field hindent (hfs f (List.mem_cons_self ..))
      (ih fun g hg => hfs g (List.mem_cons_of_mem f hg))

/-- If each node of a list is read as itself, so is the list. -/
theorem Reads.lines {depth : Nat} {nodes : List Node}
    (hnodes : ∀ node ∈ nodes, ∀ x ns, Reads x [] ns →
      Reads ((nodeLines depth node).flatMap (Line.text indent) ++ x) [] (node :: ns)) :
    Reads ((lines depth nodes).flatMap (Line.text indent)) [] nodes := by
  induction nodes with
  | nil => exact .nil
  | cons node nodes ih =>
    rw [Cfg.lines, List.flatMap_append]
    exact hnodes node (List.mem_cons_self ..) _ _
      (ih fun other hother => hnodes other (List.mem_cons_of_mem node hother))

/-- A node that can be expressed is read as itself. -/
theorem Reads.nodeLines (hindent : ∀ c ∈ indent, IsMargin c) {node : Node}
    (h : node.Everywhere Node.IsExpressible) {depth : Nat} {x : Text} {ns : List Node}
    (hx : Reads x [] ns) :
    Reads ((nodeLines depth node).flatMap (Line.text indent) ++ x) [] (node :: ns) := by
  induction h generalizing depth x ns with
  | @intro node here _ ih =>
    obtain ⟨name, id, fields, children⟩ := node
    obtain ⟨hname, rfl, hfields⟩ := here
    -- the lines of the children end where the closing brace stands
    have hchildren :
        Reads ((Cfg.lines (depth + 1) children).flatMap (Line.text indent)) [] children :=
      .lines fun child hchild _ _ => ih child hchild
    have hbody := Reads.fields hindent (depth + 1) hfields hchildren
    simpa [Cfg.nodeLines] using Reads.node hindent hname hbody hx

/-- Nodes are read back as they were written if and only if they can be expressed. -/
theorem parse_write_iff (hindent : ∀ c ∈ indent, IsMargin c) {nodes : List Node} :
    parse (write indent nodes) = .ok ⟨[], none, [], nodes⟩ ↔
      ∀ node ∈ nodes, node.Everywhere Node.IsExpressible := by
  constructor
  · exact fun h => (isExpressible_of_parse h).2
  · intro h
    have hreads : Reads (write indent nodes) [] nodes :=
      .lines fun node hnode _ _ => .nodeLines hindent (h node hnode)
    exact hreads.parse

/-- Formatting keeps the nodes of a document, and the formatted text stays as it is. -/
theorem format_stable (hindent : ∀ c ∈ indent, IsMargin c) {source : Text} {d : Node}
    (h : parse source = .ok d) :
    format indent source = .ok (write indent d.children) ∧
      parse (write indent d.children) = .ok ⟨[], none, [], d.children⟩ ∧
      format indent (write indent d.children) = .ok (write indent d.children) := by
  have hread := (parse_write_iff hindent).2 (isExpressible_of_parse h).2
  exact ⟨by rw [format, h]; rfl, hread, by rw [format, hread]; rfl⟩

/-- A source with a comment, a node in one line, byte order marks and a field outside of nodes. -/
def untidySource : Text :=
  "a//b\n\x7b k\uFEFF = \uFEFFx = y / z \x7d\r\nlost =\nb\x7bc\x7b\x7d\x7d".toList

theorem format_stable_untidySource :
    ∃ d, parse untidySource = .ok d ∧
      d.children = [⟨"a".toList, none, [⟨"k\uFEFF".toList, "\uFEFFx = y / z".toList⟩], []⟩,
        ⟨"b".toList, none, [], [.ofName "c".toList]⟩] ∧
      parse (write tab d.children) = .ok ⟨[], none, [], d.children⟩ ∧
      format tab (write tab d.children) = .ok (write tab d.children) := by
  have hparse : parse untidySource = .ok ⟨[], none, [⟨"lost".toList, []⟩],
      [⟨"a".toList, none, [⟨"k\uFEFF".toList, "\uFEFFx = y / z".toList⟩], []⟩,
        ⟨"b".toList, none, [], [.ofName "c".toList]⟩]⟩ := by decide +kernel
  have htab : ∀ c ∈ tab, IsMargin c := by simp [tab, IsMargin]
  obtain ⟨_, hread, hformat⟩ := format_stable htab hparse
  exact ⟨_, hparse, rfl, hread, hformat⟩

end Document

/-! ## Safe nodes -/

/-- A text with no brace, line end or comment, no blank that is out of place, and no gap at its
ends. -/
structure IsSafe (t : Text) : Prop where
  chars : ∀ c ∈ t, c ≠ '{' ∧ c ≠ '}' ∧ c ≠ '\n'
  noComment : ¬['/', '/'] <:+: t
  blanks : ∀ c ∈ t, isBlank c → c = ' ' ∨ c = '\t' ∨ c = '\r' ∨ c = '\x0C'
  first : ∀ c ∈ t.head?, ¬isGap c
  last : ∀ c ∈ t.getLast?, ¬isGap c

/-- A safe text that can name a node or a field. -/
structure IsSafeName (t : Text) : Prop extends IsSafe t where
  nonempty : t ≠ []
  noEquals : '=' ∉ t

theorem IsSafe.isInline {t : Text} (h : IsSafe t) : IsInline t where
  chars := by
    intro c hc
    obtain ⟨hopen, hclose, hline⟩ := h.chars c hc
    refine ⟨hline, hopen, hclose, fun hstray => ?_⟩
    simp only [isStray, Bool.and_eq_true] at hstray
    obtain ⟨⟨hblank, hgap⟩, _⟩ := hstray
    rcases h.blanks c hc hblank with rfl | rfl | rfl | rfl <;> exact absurd hgap (by decide)
  uncommented := uncommented_iff.2 h.noComment

theorem IsSafe.isValue {t : Text} (h : IsSafe t) : IsValue t where
  toIsInline := h.isInline
  first := h.isInline.not_isBlank_head h.first
  last := h.last

theorem IsSafeName.isName {t : Text} (h : IsSafeName t) : IsName t where
  toIsInline := h.isInline
  nonempty := h.nonempty
  noEquals := h.noEquals
  first := h.first
  last := h.last

end CfgPatch.Cfg

namespace CfgPatch

open Cfg

/-- A node without an identifier, with a safe name, and with safe names and values. -/
structure Node.IsSafe (node : Node) : Prop where
  id : node.id = none
  name : IsSafeName node.name
  fields : ∀ f ∈ node.fields, IsSafeName f.name ∧ Cfg.IsSafe f.value

theorem Node.IsSafe.isExpressible {node : Node} (h : node.IsSafe) : node.IsExpressible where
  name := h.name.isName
  id := h.id
  fields := fun f hf => ⟨(h.fields f hf).1.isName.isKey, (h.fields f hf).2.isValue⟩

end CfgPatch

namespace CfgPatch.Cfg

open Text

/-- Safe nodes are read back exactly as they were written. -/
theorem parse_write_of_safe {indent : Text} (hindent : ∀ c ∈ indent, IsMargin c)
    {nodes : List Node} (h : ∀ node ∈ nodes, node.Everywhere Node.IsSafe) :
    parse (write indent nodes) = .ok ⟨[], none, [], nodes⟩ :=
  (parse_write_iff hindent).2 fun node hnode =>
    (h node hnode).mono fun _ hsafe => hsafe.isExpressible

/-- A node with a slash and a space in its name, a field twice, and a node inside. -/
def nestedNode : Node where
  name := ['a', ' ', 'b', '/', 'c']
  id := none
  fields := [⟨['k'], ['x', ' ', '=', ' ', 'y']⟩, ⟨['k'], []⟩]
  children := [.ofName ['d']]

theorem nestedNode_isSafe : nestedNode.Everywhere Node.IsSafe := by
  have hname : IsSafeName ['a', ' ', 'b', '/', 'c'] :=
    ⟨⟨by simp, by decide, by simp [isBlank], by simp [isGap, byteOrderMark],
      by simp [isGap, byteOrderMark]⟩, by simp, by simp⟩
  have hkey : IsSafeName ['k'] :=
    ⟨⟨by simp, by decide, by simp [isBlank], by simp [isGap, byteOrderMark],
      by simp [isGap, byteOrderMark]⟩, by simp, by simp⟩
  have hinside : IsSafeName ['d'] :=
    ⟨⟨by simp, by decide, by simp [isBlank], by simp [isGap, byteOrderMark],
      by simp [isGap, byteOrderMark]⟩, by simp, by simp⟩
  have hvalue : IsSafe ['x', ' ', '=', ' ', 'y'] :=
    ⟨by simp, by decide, by simp [isBlank], by simp [isGap, byteOrderMark],
      by simp [isGap, byteOrderMark]⟩
  have hempty : IsSafe [] := ⟨by simp, by decide, by simp, by simp, by simp⟩
  have hinner : (Node.ofName ['d']).Everywhere Node.IsSafe :=
    .intro ⟨rfl, hinside, by simp [Node.ofName]⟩ (by simp [Node.ofName])
  refine .intro ⟨rfl, hname, ?_⟩ (List.forall_mem_singleton.2 hinner)
  exact List.forall_mem_cons.2 ⟨⟨hkey, hvalue⟩, List.forall_mem_singleton.2 ⟨hkey, hempty⟩⟩

theorem parse_write_of_safe_nestedNode :
    nestedNode.Everywhere Node.IsSafe ∧
      parse (write [' ', ' '] [nestedNode]) = .ok ⟨[], none, [], [nestedNode]⟩ :=
  ⟨nestedNode_isSafe,
    parse_write_of_safe (by simp [IsMargin]) (List.forall_mem_singleton.2 nestedNode_isSafe)⟩

end CfgPatch.Cfg
