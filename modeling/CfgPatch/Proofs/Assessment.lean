import CfgPatch.Extract
import CfgPatch.Proofs.Agenda
import CfgPatch.Proofs.Catalog
import CfgPatch.Proofs.Journal

/-!
# What becomes of an entry

Sorting an entry assesses its name, and a name that passes for a directive is then read once
more when the directive is made. Here the two are put together. `Agenda.admit?` says which
entries become directives and of which pass, and `Agenda.findings` what the listener hears
about an entry; neither depends on the entries sorted before. Every entry is data, or it is
admitted, or something is reported about it (`data_or_admitted_or_reported`).
-/

namespace CfgPatch

open Text

/-! ## Names of directives -/

/-- The characters that make a root node a directive. -/
def commandSymbols : List Char := ['@', '+', '$', '-', '!']

/-- Whether a name begins with a command of directives. -/
def beginsWithCommand (name : Text) : Bool := name.head?.any commandSymbols.contains

theorem isSome_ofSymbol? (c : Char) :
    (Command.ofSymbol? c).isSome = commandSymbols.contains c := by
  unfold Command.ofSymbol? commandSymbols
  split <;> simp_all

theorem beginsWithCommand_eq (name : Text) :
    beginsWithCommand name = (Command.ofSymbol? (name.headD ' ')).isSome := by
  cases name with
  | nil => rfl
  | cons c t => rw [isSome_ofSymbol?]; rfl

/-- Taking the pass segments out of a name leaves the command where it is. -/
theorem head?_stripped {name : Text} (h : beginsWithCommand name) :
    (scanPasses name).stripped.head? = name.head? := by
  cases name with
  | nil => exact absurd h (by decide)
  | cons c t =>
    have hc : c ≠ ':' := by
      rintro rfl
      exact absurd h (by simp [beginsWithCommand, commandSymbols])
    rw [scanPasses, scanPassesFrom, if_neg (by simp [hc])]
    rfl

namespace Entry

/-- Whether an entry is data: its brackets balance and it begins with no command. -/
def isData (entry : Entry) : Bool :=
  Brackets.balanced entry.node.name && !beginsWithCommand entry.node.name

/-- Whether an entry means to be a directive: its brackets balance and it begins with a
command. -/
def isDirective (entry : Entry) : Bool :=
  Brackets.balanced entry.node.name && beginsWithCommand entry.node.name

theorem isData_iff {entry : Entry} :
    entry.isData ↔ Brackets.balanced entry.node.name ∧ ¬beginsWithCommand entry.node.name := by
  simp [isData]

theorem isDirective_iff {entry : Entry} :
    entry.isDirective ↔ Brackets.balanced entry.node.name ∧ beginsWithCommand entry.node.name := by
  simp [isDirective]

theorem not_isData_of_isDirective {entry : Entry} (h : entry.isDirective) : ¬entry.isData :=
  fun hdata => (isData_iff.1 hdata).2 (isDirective_iff.1 h).2

theorem not_isDirective_of_isData {entry : Entry} (h : entry.isData) : ¬entry.isDirective :=
  fun hdir => not_isData_of_isDirective hdir h

/-- The name of the entry without its pass segments. -/
def strippedName (entry : Entry) : Text := (scanPasses entry.node.name).stripped

/-- The entry means to be a directive and its header can be read, but there is an index, as
only nested nodes may have one. -/
def HasIndex (entry : Entry) : Prop :=
  entry.isDirective ∧
    ∃ header, Header.parse entry.strippedName.tail = .ok header ∧ header.index.isSome

end Entry

/-! ## What an entry becomes -/

namespace Catalog

/-- The directive an entry is, read from its name without the pass segments. -/
def directiveOf (cat : Catalog) (id : EntryId) (entry : Entry) : Except PatchError Directive :=
  Directive.ofNode entry.file ((cat.fileUrl? entry.file).getD []) (some id)
    { entry.node with name := entry.strippedName }

theorem directiveOf_congr {a b : Catalog} (h : a.files = b.files) :
    a.directiveOf = b.directiveOf := by
  funext id entry
  rw [directiveOf, directiveOf, fileUrl?_congr h]

end Catalog

namespace Agenda

/-- The pass that the segments of a name ask for: none asks for the directives without a
pass, and one for the pass it names, if that has no unknown mod. -/
def passFor? (a : Agenda) : List Segment → Option Pass
  | [] => some .legacy
  | [.pass p] => a.canonical? p
  | _ => none

/-- The directive that an entry becomes, with its pass, if it becomes one. -/
def admit? (a : Agenda) (cat : Catalog) (id : EntryId) (entry : Entry) :
    Option (Pass × Directive) :=
  if entry.isDirective then
    match a.passFor? (scanPasses entry.node.name).segments, cat.directiveOf id entry with
    | some pass, .ok d => some (pass, d)
    | _, _ => none
  else none

/-- What the listener hears about an entry. -/
def findings (a : Agenda) (cat : Catalog) (id : EntryId) (entry : Entry) : List Event :=
  let ref := cat.refOf id entry
  match assess a ref entry.node.name, cat.directiveOf id entry with
  | (events, .patch _ _), .error e => events ++ [.error ref (.badDirective e)]
  | (events, .patch _ _), .ok _ => events ++ [.added]
  | (events, _), _ => events

end Agenda

/-- Whether an event reports something about the entry or directive `ref`. -/
def Event.IsAbout (ref : Ref) (e : Event) : Prop :=
  (∃ problem, e = .error ref problem) ∨ ∃ phase, e = .missingMod ref phase

theorem Event.IsAbout.complaint?_eq {ref : Ref} {e : Event} (h : e.IsAbout ref) :
    e.complaint? = ref.id := by
  rcases h with ⟨_, rfl⟩ | ⟨_, rfl⟩ <;> rfl

/-- Whether an event reports something about an entry or a directive. -/
def Event.isReport : Event → Bool
  | .error .. | .missingMod .. => true
  | _ => false

/-! ## Assessing a name -/

/-- All that an assessment can come to. -/
inductive Assessment (a : Agenda) (ref : Ref) (name : Text) : List Event × Verdict → Prop
  /-- Data stays; there may be an error. -/
  | data {es : List Event} (balanced : Brackets.balanced name) (plain : ¬beginsWithCommand name)
      (about : ∀ e ∈ es, e.IsAbout ref) : Assessment a ref name (es, .keep)
  /-- A directive goes to the pass its one segment asks for, and nothing is reported. -/
  | directive {pass : Pass} {header : Header} (balanced : Brackets.balanced name)
      (command : beginsWithCommand name)
      (passes : a.passFor? (scanPasses name).segments = some pass)
      (reads : Header.parse (scanPasses name).stripped.tail = .ok header) :
      Assessment a ref name ([], .patch pass (scanPasses name).stripped)
  /-- Anything else is rejected, and something is reported. -/
  | rejected {es : List Event} (other : ¬(Brackets.balanced name ∧ ¬beginsWithCommand name))
      (why : Brackets.balanced name → a.passFor? (scanPasses name).segments = none ∨
        ∃ e, Header.parse (scanPasses name).stripped.tail = .error e)
      (reported : es ≠ []) (about : ∀ e ∈ es, e.IsAbout ref) :
      Assessment a ref name (es, .drop)

namespace PassScan

/-- At most one segment, and that well-formed, is what the passes of a scan then say. -/
theorem segments_of_wellFormed {s : PassScan} (hcount : ¬s.count > 1)
    (hmalformed : s.malformed = []) :
    (s.segments = [] ∧ s.passes = []) ∨ ∃ p, s.segments = [.pass p] ∧ s.passes = [p] := by
  rw [count] at hcount
  rw [malformed] at hmalformed
  rw [passes]
  rcases hs : s.segments with _ | ⟨seg, _ | ⟨seg', rest⟩⟩
  · exact .inl ⟨rfl, rfl⟩
  · rw [hs] at hmalformed
    cases seg with
    | pass p => exact .inr ⟨p, rfl, rfl⟩
    | malformed k => exact absurd hmalformed (by simp)
  · rw [hs] at hcount
    exact absurd (by simp) hcount

/-- Several segments or a malformed one ask for no pass. -/
theorem passFor?_of_illFormed {s : PassScan} (h : s.count > 1 ∨ s.malformed ≠ [])
    (a : Agenda) : a.passFor? s.segments = none := by
  rw [count, malformed] at h
  rcases hs : s.segments with _ | ⟨seg, _ | ⟨seg', rest⟩⟩
  · simp [hs] at h
  · cases seg with
    | pass p => simp [hs] at h
    | malformed k => rfl
  · cases seg <;> rfl

end PassScan

/-- The assessment of a name that begins with a command. -/
theorem assessDirective_assessment (a : Agenda) (ref : Ref) {name : Text}
    (hbalanced : Brackets.balanced name) (hcommand : beginsWithCommand name) :
    Assessment a ref name (assessDirective a ref (scanPasses name)) := by
  have hother : ¬(Brackets.balanced name ∧ ¬beginsWithCommand name) := fun h => h.2 hcommand
  have herror : ∀ p, (Event.error ref p).IsAbout ref := fun p => .inl ⟨p, rfl⟩
  -- the segments decide first, then the header, and the mod of the pass last
  by_cases hill : (scanPasses name).count > 1 ∨ (scanPasses name).malformed ≠ []
  · have htest : (decide ((scanPasses name).count > 1) ||
        !(scanPasses name).malformed.isEmpty) = true := by simpa using hill
    simp only [assessDirective, htest, if_true]
    refine .rejected hother (fun _ => .inl (PassScan.passFor?_of_illFormed hill a)) ?_ ?_
    · rcases hill with h | h
      · simp [h]
      · simp [h]
    · intro e he
      rcases List.mem_append.1 he with he | he
      · split at he
        · rw [List.mem_singleton.1 he]
          exact herror _
        · exact absurd he (by simp)
      · obtain ⟨k, _, rfl⟩ := List.mem_map.1 he
        exact herror _
  · have htest : (decide ((scanPasses name).count > 1) ||
        !(scanPasses name).malformed.isEmpty) = false := by simpa using hill
    have hwell : ¬(scanPasses name).count > 1 ∧ (scanPasses name).malformed = [] := by
      simpa using hill
    simp only [assessDirective, htest, Bool.false_eq_true, if_false]
    cases hread : Header.parse (scanPasses name).stripped.tail with
    | error e =>
      refine .rejected hother (fun _ => .inr ⟨e, hread⟩) (by simp) ?_
      simpa using herror _
    | ok header =>
      rcases PassScan.segments_of_wellFormed hwell.1 hwell.2 with ⟨hseg, hpass⟩ | ⟨p, hseg, hpass⟩
      · rw [hpass]
        exact .directive hbalanced hcommand (by rw [hseg]; rfl) hread
      · have hfor : a.passFor? (scanPasses name).segments = a.canonical? p := by rw [hseg]; rfl
        cases hcan : a.canonical? p with
        | some q =>
          simp only [hpass, hcan]
          exact .directive hbalanced hcommand (hfor.trans hcan) hread
        | none =>
          -- only a pass of a mod can be unknown
          cases p with
          | mod phase m =>
            simp only [hpass, hcan]
            refine .rejected hother (fun _ => .inl (hfor.trans hcan)) (by simp) fun e he => ?_
            rw [List.mem_singleton.1 he]
            exact .inr ⟨phase, rfl⟩
          | _ => exact absurd hcan (by simp [Agenda.canonical?])

theorem assess_assessment (a : Agenda) (ref : Ref) (name : Text) :
    Assessment a ref name (assess a ref name) := by
  have herror : ∀ p, (Event.error ref p).IsAbout ref := fun p => .inl ⟨p, rfl⟩
  unfold assess
  by_cases hbalanced : Brackets.balanced name
  · rw [if_neg (by simp [hbalanced])]
    have hcommand := beginsWithCommand_eq name
    unfold Verb.ofSymbol
    cases hsym : Command.ofSymbol? (name.headD ' ') with
    | some command =>
      rw [hsym] at hcommand
      exact assessDirective_assessment a ref hbalanced hcommand
    | none =>
      rw [hsym] at hcommand
      have hplain : ¬beginsWithCommand name := by simp [hcommand]
      cases BodyCommand.ofSymbol? (name.headD ' ') with
      | some command => exact .data hbalanced hplain (by simpa using herror _)
      | none =>
        refine .data hbalanced hplain fun e he => ?_
        split at he
        · rw [List.mem_singleton.1 he]
          exact herror _
        · exact absurd he (by simp)
  · rw [if_pos (by simp [hbalanced])]
    refine .rejected (fun h => hbalanced h.1) (fun h => absurd h hbalanced) (by simp) ?_
    simpa using herror _

/-! ## Sorting one entry -/

theorem Directive.command_ofNode {file : FileId} {url : Text} {source : Option EntryId}
    {node : Node} {d : Directive} (h : ofNode file url source node = .ok d) :
    d.command = node.name.head?.bind Command.ofSymbol? ∧ d.source = source ∧ d.file = file ∧
      d.node = node := by
  unfold ofNode at h
  split at h
  · exact absurd h (by simp)
  · split at h
    · exact absurd h (by simp)
    · obtain rfl := Except.ok.inj h
      exact ⟨rfl, rfl, rfl, rfl⟩

theorem Directive.ofNode_error_of_header {file : FileId} {url : Text} {source : Option EntryId}
    {node : Node} {e : PatchError} (h : Header.parse node.name.tail = .error e) :
    ofNode file url source node = .error e := by
  rw [ofNode, h]

/-- A header that can be read makes a directive unless it has an index. -/
theorem Directive.index_of_ofNode_error {file : FileId} {url : Text} {source : Option EntryId}
    {node : Node} {header : Header} {e : PatchError}
    (hread : Header.parse node.name.tail = .ok header) (h : ofNode file url source node = .error e) :
    header.index.isSome ∧ e = .invalidName node.name .rootIndex := by
  rw [ofNode, hread] at h
  by_cases hindex : header.index.isSome
  · simp only [hindex, if_true] at h
    exact ⟨hindex, (Except.error.inj h).symm⟩
  · simp [hindex] at h

theorem Agenda.canonical?_of_passFor? {a : Agenda} {segments : List Segment} {pass : Pass}
    (h : a.passFor? segments = some pass) : a.canonical? pass = some pass := by
  unfold passFor? at h
  split at h
  · obtain rfl := Option.some.inj h
    rfl
  · exact canonical?_of_canonical? h
  · exact absurd h (by simp)

/-- What the assessment of an entry means for what is heard about it and what it becomes. -/
inductive Agenda.Outcome (a : Agenda) (cat : Catalog) (id : EntryId) (entry : Entry) :
    List Event × Verdict → Prop
  | data {es : List Event} (data : entry.isData) (admits : a.admit? cat id entry = none)
      (findings : a.findings cat id entry = es) (about : ∀ e ∈ es, e.IsAbout (cat.refOf id entry)) :
      Outcome a cat id entry (es, .keep)
  | directive {pass : Pass} {d : Directive} (other : ¬entry.isData)
      (known : a.canonical? pass = some pass) (reads : cat.directiveOf id entry = .ok d)
      (admits : a.admit? cat id entry = some (pass, d))
      (findings : a.findings cat id entry = [.added]) :
      Outcome a cat id entry ([], .patch pass entry.strippedName)
  | misread {pass : Pass} {header : Header} {e : PatchError} (command : entry.isDirective)
      (readable : Header.parse entry.strippedName.tail = .ok header)
      (known : a.canonical? pass = some pass) (reads : cat.directiveOf id entry = .error e)
      (admits : a.admit? cat id entry = none)
      (findings : a.findings cat id entry = [.error (cat.refOf id entry) (.badDirective e)]) :
      Outcome a cat id entry ([], .patch pass entry.strippedName)
  | rejected {es : List Event} (other : ¬entry.isData) (admits : a.admit? cat id entry = none)
      (findings : a.findings cat id entry = es) (reported : es ≠ [])
      (about : ∀ e ∈ es, e.IsAbout (cat.refOf id entry)) : Outcome a cat id entry (es, .drop)

theorem Agenda.outcome (a : Agenda) (cat : Catalog) (id : EntryId) (entry : Entry) :
    a.Outcome cat id entry (assess a (cat.refOf id entry) entry.node.name) := by
  have hassess := assess_assessment a (cat.refOf id entry) entry.node.name
  cases hr : assess a (cat.refOf id entry) entry.node.name with
  | mk es verdict =>
    rw [hr] at hassess
    cases hassess with
    | data hbalanced hplain habout =>
      have hdata : entry.isData := Entry.isData_iff.2 ⟨hbalanced, hplain⟩
      refine .data hdata ?_ (by simp only [findings, hr]) habout
      rw [admit?, if_neg (Entry.not_isDirective_of_isData hdata)]
    | @directive pass header hbalanced hcommand hpass hread =>
      -- the header has been read, but a directive takes no index: reading may still fail
      have hdir : entry.isDirective := Entry.isDirective_iff.2 ⟨hbalanced, hcommand⟩
      have hother := Entry.not_isData_of_isDirective hdir
      have hknown := canonical?_of_passFor? hpass
      cases hd : cat.directiveOf id entry with
      | ok d =>
        refine .directive hother hknown hd ?_ ?_
        · rw [admit?, if_pos hdir, hpass, hd]
        · simp only [findings, hr, hd]
          rfl
      | error e =>
        refine .misread hdir hread hknown hd ?_ ?_
        · rw [admit?, if_pos hdir, hpass, hd]
        · simp only [findings, hr, hd]
          rfl
    | rejected hother hwhy hne habout =>
      refine .rejected (fun h => hother (Entry.isData_iff.1 h)) ?_ (by simp only [findings, hr])
        hne habout
      by_cases hdir : entry.isDirective
      · rw [admit?, if_pos hdir]
        -- either no pass was found or the header could not be read
        rcases hwhy (Entry.isDirective_iff.1 hdir).1 with hnone | ⟨e, he⟩
        · rw [hnone]
        · have hd : cat.directiveOf id entry = .error e := Directive.ofNode_error_of_header he
          rw [hd]
          cases a.passFor? (scanPasses entry.node.name).segments <;> rfl
      · rw [admit?, if_neg hdir]

namespace Agenda

/-- What is heard about an entry and what it becomes depend on the known mods and the files
alone. -/
theorem findings_congr {a b : Agenda} {c c' : Catalog} (hmods : a.mods = b.mods)
    (hfiles : c.files = c'.files) : a.findings c = b.findings c' := by
  funext id entry
  simp only [findings, assess, assessDirective, canonical?_congr hmods, Catalog.refOf,
    Catalog.urlFor_congr hfiles, Catalog.directiveOf_congr hfiles]

theorem admit?_congr {a b : Agenda} {c c' : Catalog} (hmods : a.mods = b.mods)
    (hfiles : c.files = c'.files) : a.admit? c = b.admit? c' := by
  funext id entry
  have hpass : a.passFor? = b.passFor? := by
    funext segments
    unfold passFor?
    rw [canonical?_congr hmods]
  rw [admit?, admit?, hpass, Catalog.directiveOf_congr hfiles]

end Agenda

/-! ## Data, directives, and what is reported -/

/-- A directive is made from an entry: it keeps the number, the file and the node, with the
pass segments taken out of the name. -/
def Directive.IsMadeFrom (d : Directive) (id : EntryId) (entry : Entry) : Prop :=
  d.source = some id ∧ d.file = entry.file ∧
    d.node = { entry.node with name := entry.strippedName }

namespace Agenda

variable {a : Agenda} {cat : Catalog} {id : EntryId} {entry : Entry}

theorem of_admit? {p : Pass × Directive} (h : a.admit? cat id entry = some p) :
    entry.isDirective ∧ a.passFor? (scanPasses entry.node.name).segments = some p.1 ∧
      cat.directiveOf id entry = .ok p.2 := by
  rw [admit?] at h
  split at h
  · rename_i hdir
    split at h
    · rename_i hpass hread
      obtain rfl := Option.some.inj h
      exact ⟨hdir, hpass, hread⟩
    · exact absurd h (by simp)
  · exact absurd h (by simp)

theorem isMadeFrom_of_admit? {p : Pass × Directive} (h : a.admit? cat id entry = some p) :
    p.2.IsMadeFrom id entry :=
  (Directive.command_ofNode (of_admit? h).2.2).2

/-- An entry is data, or it is admitted and nothing else is heard of it, or it is neither and
something is reported. -/
theorem data_or_admitted_or_reported (a : Agenda) (cat : Catalog) (id : EntryId)
    (entry : Entry) :
    (entry.isData ∧ a.admit? cat id entry = none ∧
      ∀ e ∈ a.findings cat id entry, e.IsAbout (cat.refOf id entry)) ∨
    (¬entry.isData ∧ (∃ pass d, a.admit? cat id entry = some (pass, d)) ∧
      a.findings cat id entry = [.added]) ∨
    (¬entry.isData ∧ a.admit? cat id entry = none ∧ a.findings cat id entry ≠ [] ∧
      ∀ e ∈ a.findings cat id entry, e.IsAbout (cat.refOf id entry)) := by
  have houtcome := a.outcome cat id entry
  generalize assess a (cat.refOf id entry) entry.node.name = verdict at houtcome
  cases houtcome with
  | data hdata hadmits hfind habout => exact .inl ⟨hdata, hadmits, hfind ▸ habout⟩
  | directive hother _ _ hadmits hfind => exact .inr (.inl ⟨hother, ⟨_, _, hadmits⟩, hfind⟩)
  | misread hdir _ _ _ hadmits hfind =>
    have hother := Entry.not_isData_of_isDirective hdir
    refine .inr (.inr ⟨hother, hadmits, by simp [hfind], fun e he => ?_⟩)
    exact .inl ⟨_, List.mem_singleton.1 (hfind ▸ he)⟩
  | rejected hother hadmits hfind hne habout =>
    exact .inr (.inr ⟨hother, hadmits, hfind ▸ hne, hfind ▸ habout⟩)

/-- What is heard about an entry is that it was added, or is about the entry. -/
theorem of_mem_findings {e : Event} (h : e ∈ a.findings cat id entry) :
    e = .added ∨ e.IsAbout (cat.refOf id entry) := by
  rcases data_or_admitted_or_reported a cat id entry with
    ⟨_, _, habout⟩ | ⟨_, _, hfind⟩ | ⟨_, _, _, habout⟩
  · exact .inr (habout e h)
  · exact .inl (List.mem_singleton.1 (hfind ▸ h))
  · exact .inr (habout e h)

/-- An entry is announced as often as it is admitted. -/
theorem addedCount_findings (a : Agenda) (cat : Catalog) (id : EntryId) (entry : Entry) :
    addedCount (a.findings cat id entry) = (a.admit? cat id entry).toList.length := by
  have hzero : (∀ e ∈ a.findings cat id entry, e.IsAbout (cat.refOf id entry)) →
      addedCount (a.findings cat id entry) = 0 := by
    intro habout
    refine addedCount_eq_zero fun e he => ?_
    rcases habout e he with ⟨_, rfl⟩ | ⟨_, rfl⟩ <;> simp
  rcases data_or_admitted_or_reported a cat id entry with
    ⟨_, hadmits, habout⟩ | ⟨_, ⟨pass, d, hadmits⟩, hfind⟩ | ⟨_, hadmits, _, habout⟩
  · rw [hadmits, hzero habout]
    rfl
  · rw [hadmits, hfind]
    rfl
  · rw [hadmits, hzero habout]
    rfl

/-- A well-formed directive for one pass of an unknown mod is reported once, as that. -/
theorem findings_of_unknownMod (cat : Catalog) (id : EntryId) {phase : Phase} {m : Text}
    {header : Header} (hdir : entry.isDirective)
    (hseg : (scanPasses entry.node.name).segments = [.pass (.mod phase m)])
    (hread : Header.parse entry.strippedName.tail = .ok header)
    (hmod : a.knownMod? m = none) :
    a.findings cat id entry = [.missingMod (cat.refOf id entry) phase] ∧
      a.admit? cat id entry = none := by
  obtain ⟨hbalanced, hcommand⟩ := Entry.isDirective_iff.1 hdir
  have hcanonical : a.canonical? (.mod phase m) = none := by rw [canonical?, hmod]; rfl
  have hassess : assess a (cat.refOf id entry) entry.node.name =
      ([.missingMod (cat.refOf id entry) phase], .drop) := by
    obtain ⟨command, hsym⟩ := Option.isSome_iff_exists.1
      (beginsWithCommand_eq entry.node.name ▸ hcommand)
    have hverb : Verb.ofSymbol (entry.node.name.headD ' ') = .shared command := by
      rw [Verb.ofSymbol, hsym]
    rw [Entry.strippedName] at hread
    rw [assess, if_neg (by simp [hbalanced]), hverb]
    simp [assessDirective, PassScan.count, PassScan.malformed, PassScan.passes, hseg, hread,
      hcanonical]
  constructor
  · simp only [findings, hassess]
  · rw [admit?, if_pos hdir, hseg, passFor?, hcanonical]

end Agenda

end CfgPatch
