import CfgPatch.Proofs.Children
import CfgPatch.Proofs.Locality
import CfgPatch.Proofs.Splitting

/-!
# Reference paths as addresses

A node that stands below another one has an address there: which child it is, of which child, and
so on. A reference path tells children by their names instead. If every name comes with the
number of siblings of the same name in front, this says as much (`Reference.stepsTo`), and as a
path it leads to the very node (`Reference.leadsTo_address`). The entries of the catalog count as
siblings for this purpose.

Where a step counts further than there are candidates, the path leads nowhere. There are two
errors for this (`Reference.Step.failure`), as a number that is larger than any index can be is
refused before candidates are counted.
-/

namespace CfgPatch

open Text Brackets

/-- The node below at an address, which takes one position among the children after another. -/
def Node.below? : List Nat → Node → Option Node
  | [], node => some node
  | i :: is, node => node.children[i]?.bind (below? is)

namespace Reference

/-! ## Steps -/

/-- A step down: the name of a child, or of a value, and how many of that name stand in front. -/
structure Step where
  name : Text
  rank : Nat
deriving DecidableEq

/-- The characters that end the name of a node within a path. -/
def nodeReserved : Text := "[]:,/".toList

/-- The characters that end the name of a value within a path. -/
def keyReserved : Text := "[],/".toList

namespace Step

/-- The segment of a path that a step is written as. -/
def text (s : Step) : Text := s.name ++ ',' :: ofNat s.rank

/-- The name of a step is read as it is written. -/
structure IsNamed (reserved : Text) (s : Step) : Prop where
  nonempty : s.name ≠ []
  trimmed : trim s.name = s.name
  unreserved : ∀ c ∈ s.name, c ∉ reserved

/-- A step is read as it is written. -/
structure IsWritable (reserved : Text) (s : Step) : Prop extends IsNamed reserved s where
  rank_le : s.rank ≤ maxIndex

theorem isNamed_iff {reserved : Text} {s : Step} :
    s.IsNamed reserved ↔ s.name ≠ [] ∧ trim s.name = s.name ∧ s.name.all (· ∉ reserved) := by
  refine ⟨fun h => ⟨h.nonempty, h.trimmed, ?_⟩, fun ⟨hne, htrim, hall⟩ => ⟨hne, htrim, ?_⟩⟩
  · simpa using h.unreserved
  · simpa using hall

instance (reserved : Text) (s : Step) : Decidable (s.IsNamed reserved) :=
  decidable_of_iff _ isNamed_iff.symm

instance (reserved : Text) (s : Step) : Decidable (s.IsWritable reserved) :=
  decidable_of_iff (s.IsNamed reserved ∧ s.rank ≤ maxIndex)
    ⟨fun ⟨hnamed, hrank⟩ => ⟨hnamed, hrank⟩, fun ⟨hnamed, hrank⟩ => ⟨hnamed, hrank⟩⟩

/-- Counted from the front, no candidate has the rank of a step, or it is no index at all. -/
def Misses (s : Step) (candidates : Nat) : Prop := candidates ≤ s.rank ∨ maxIndex < s.rank

/-- The error of a step that misses, in a path that messages quote. -/
def failure (s : Step) (path : Text) : PatchError :=
  if s.rank ≤ maxIndex then .unresolved path else .invalidIndex s.text (ofNat s.rank)

/-- The candidate that a step is about. -/
def pick {α : Type} (s : Step) (path : Text) (candidates : List α) : Except PatchError α :=
  if s.rank ≤ maxIndex then
    match candidates[s.rank]? with
    | some a => .ok a
    | none => .error (.unresolved path)
  else .error (.invalidIndex s.text (ofNat s.rank))

variable {α : Type} {s : Step} {candidates : List α}

theorem pick_of_getElem? (hrank : s.rank ≤ maxIndex) {a : α} (h : candidates[s.rank]? = some a)
    (path : Text) : s.pick path candidates = .ok a := by
  rw [pick, if_pos hrank, h]

theorem pick_of_misses (h : s.Misses candidates.length) (path : Text) :
    s.pick path candidates = .error (s.failure path) := by
  rw [pick, failure]
  split_ifs with hrank
  · have hlen : candidates.length ≤ s.rank := h.resolve_right (Nat.not_lt.2 hrank)
    rw [List.getElem?_eq_none hlen]
  · rfl

end Step

/-- The steps that lead from a node to an address. -/
def stepsTo : List Nat → Node → List Step
  | [], _ => []
  | i :: is, node =>
    match node.children[i]? with
    | none => []
    | some child =>
      ⟨child.name, (node.children.take i).countP (·.name = child.name)⟩ :: stepsTo is child

/-- The node that steps lead to. -/
def walk : List Step → Node → Option Node
  | [], node => some node
  | s :: steps, node => (node.childrenOf s.name)[s.rank]?.bind (walk steps)

/-- The path that steps are written as. -/
def written (steps : List Step) : Text := ['/'].intercalate (steps.map Step.text)

/-- A child is the one with its name and with its rank. -/
theorem getElem?_childrenOf {node child : Node} {i : Nat} (h : node.children[i]? = some child) :
    (node.childrenOf child.name)[(node.children.take i).countP (·.name = child.name)]? =
      some child := by
  have hrank : (Index.positions (fun c : Node => c.name = child.name) node.children)[
      (node.children.take i).countP (·.name = child.name)]? = some i :=
    Index.getElem?_positions_count h (by simp)
  rw [Node.childrenOf, Index.getElem?_filter_eq_bind, hrank, Option.bind_some, h]

/-- The steps to an address lead there. -/
theorem walk_stepsTo {is : List Nat} {node found : Node} (h : node.below? is = some found) :
    walk (stepsTo is node) node = some found := by
  induction is generalizing node with
  | nil => exact h
  | cons i is ih =>
    obtain ⟨child, hchild, hbelow⟩ := Option.bind_eq_some_iff.1 h
    rw [stepsTo, hchild]
    simp only
    rw [walk, getElem?_childrenOf hchild, Option.bind_some, ih hbelow]

/-! ## Segments -/

section Segment

variable {reserved : Text} {s : Step}

theorem Step.IsNamed.not_isBlank_head (h : s.IsNamed reserved) : ∀ c ∈ s.name.head?, ¬isBlank c :=
  h.trimmed ▸ not_isBlank_head_trim

theorem Step.head?_text (h : s.IsNamed reserved) : s.text.head? = s.name.head? := by
  rw [text, List.head?_append_of_ne_nil _ h.nonempty]

theorem Step.isDigit_getLast (s : Step) : ∀ c ∈ s.text.getLast?, c.isDigit := by
  intro c hc
  rw [text, List.append_cons, List.getLast?_append_of_ne_nil _ (ofNat_ne_nil _)] at hc
  exact isDigit_of_mem_ofNat (List.mem_of_getLast? hc)

/-- A segment has no blanks at its ends. -/
theorem Step.trim_text (h : s.IsNamed reserved) : trim s.text = s.text :=
  trim_eq_self (s.head?_text h ▸ h.not_isBlank_head) fun c hc =>
    not_isBlank_of_isDigit (s.isDigit_getLast c hc)

theorem Step.text_ne_nil (s : Step) : s.text ≠ [] := by
  simp [text]

/-- No character of a segment is reserved, but for the comma. -/
theorem Step.not_mem_text (h : s.IsNamed reserved) {c : Char} (hc : c ∈ reserved)
    (hcomma : c ≠ ',') (hdigit : ¬c.isDigit) : c ∉ s.text := by
  intro hmem
  rcases List.mem_append.1 hmem with hname | hnumber
  · exact h.unreserved c hname hc
  · rcases List.mem_cons.1 hnumber with rfl | hnumber
    · exact hcomma rfl
    · exact hdigit (isDigit_of_mem_ofNat hnumber)

end Segment

/-! ## Reading a segment -/

section Reading

variable {s : Step}

theorem depthAfter?_text {reserved : Text} (hopen : '[' ∈ reserved) (hclose : ']' ∈ reserved)
    (h : s.IsNamed reserved) (depth : Nat) : depthAfter? depth s.text = some depth := by
  refine depthAfter?_of_no_brackets fun c hc => ⟨?_, ?_⟩
  · rintro rfl
    exact Step.not_mem_text h hopen (by decide) (by decide) hc
  · rintro rfl
    exact Step.not_mem_text h hclose (by decide) (by decide) hc

/-- The header that a step is written as is about the nodes of its name, and about the one of its
rank. -/
theorem Matcher.parse_text (h : s.IsNamed nodeReserved) :
    Matcher.parse s.text =
      if s.rank ≤ maxIndex then .ok ⟨s.name, none, [], some (.nth s.rank)⟩
      else .error (.invalidIndex s.text (ofNat s.rank)) := by
  have hbalanced : balanced s.text := by
    rw [balanced, depthAfter?_text (by decide) (by decide) h]
    rfl
  have hends : ∀ c ∈ s.name, !Header.endsType c := by
    intro c hc
    have hreserved := h.unreserved c hc
    simp [nodeReserved] at hreserved
    simp [Header.endsType, hreserved]
  have htype : s.text.takeWhile (!Header.endsType ·) = s.name := by
    rw [Step.text, List.takeWhile_append_of_pos hends, List.takeWhile_cons_of_neg (by decide),
      List.append_nil]
  have hindex : s.text.dropWhile (!Header.endsType ·) = ',' :: ofNat s.rank := by
    rw [Step.text, List.dropWhile_append_of_pos hends, List.dropWhile_cons_of_neg (by decide)]
  have hheader : Header.parse s.text = (Index.parse s.text (ofNat s.rank)).map
      fun index => ⟨s.name, none, none, some index⟩ := by
    simp [Header.parse, hbalanced, htype, hindex, h.trimmed, h.nonempty, Header.parseRest]
  rw [Matcher.parse, hheader, Index.parse_ofNat]
  split_ifs <;> rfl

/-- To go on from what the header of a segment picks is to go on from the candidate that the step
is about. -/
theorem pick_text (h : s.IsNamed nodeReserved) (path : Text) (node : Node)
    (next : Node → Except PatchError Node) :
    (match Matcher.parse s.text with
      | .error e => .error e
      | .ok m =>
        match m.pick node.children with
        | child :: _ => next child
        | [] => .error (.unresolved path)) =
      (s.pick path (node.childrenOf s.name)).bind next := by
  have haccepts : Matcher.accepts ⟨s.name, none, [], some (.nth s.rank)⟩ =
      fun child => decide (child.name = s.name) := by
    funext child
    simp [Matcher.accepts, Node.isMatch, Constraints.satisfiedBy, allHold, beq_eq_decide]
  rw [Matcher.parse_text h, Step.pick]
  split_ifs
  · -- the header picks from all children, the step from those of its name
    simp only [Matcher.pick, haccepts, Node.childrenOf, Index.pick]
    cases (node.children.filter fun child => decide (child.name = s.name))[s.rank]? <;> rfl
  · rfl

/-- The key that a step is written as is about the value of its name and rank. -/
theorem valueIn_text (h : s.IsNamed keyReserved) (path : Text) (node : Node) :
    valueIn path s.text node = s.pick path (node.valuesOf s.name) := by
  have hcut : splitLast? (· == ',') s.text = some (s.name, ofNat s.rank) := by
    refine splitLast?_append_cons rfl fun c hc hcomma => ?_
    have hbad : (',').isDigit := beq_iff_eq.1 hcomma ▸ isDigit_of_mem_ofNat hc
    exact absurd hbad (by decide)
  simp only [valueIn, hcut, Index.parse_ofNat, h.trimmed, Step.pick]
  split_ifs
  · simp only [Index.pick]
    cases (node.valuesOf s.name)[s.rank]? <;> rfl
  · rfl

end Reading

/-! ## Following a path -/

section Follow

variable {steps : List Step} {path : Text}

/-- What becomes of the steps of a path, taken from a node. -/
def reach (path : Text) : List Step → Node → Except PatchError Node
  | [], node => .ok node
  | s :: steps, node => (s.pick path (node.childrenOf s.name)).bind (reach path steps)

/-- Steps that lead somewhere are taken, and then those behind them. -/
theorem reach_append (h : ∀ s ∈ steps, s.rank ≤ maxIndex) {node found : Node}
    (hwalk : walk steps node = some found) (path : Text) (back : List Step) :
    reach path (steps ++ back) node = reach path back found := by
  induction steps generalizing node with
  | nil =>
    obtain rfl := Option.some.inj hwalk
    rfl
  | cons s steps ih =>
    obtain ⟨hs, hrest⟩ := List.forall_mem_cons.1 h
    obtain ⟨child, hchild, hwalk⟩ := Option.bind_eq_some_iff.1 hwalk
    rw [List.cons_append, reach, Step.pick_of_getElem? hs hchild]
    exact ih hrest hwalk

/-- The first step that misses is the end of it. -/
theorem reach_of_misses {s : Step} {node : Node} (h : s.Misses (node.childrenOf s.name).length)
    (path : Text) (back : List Step) : reach path (s :: back) node = .error (s.failure path) := by
  rw [reach, Step.pick_of_misses h]
  rfl

/-- To descend along segments is to take the steps. -/
theorem descend_text (h : ∀ s ∈ steps, s.IsNamed nodeReserved) (path : Text) (node : Node) :
    descend path node (steps.map Step.text) = reach path steps node := by
  induction steps generalizing node with
  | nil => rfl
  | cons s steps ih =>
    obtain ⟨hs, hrest⟩ := List.forall_mem_cons.1 h
    have hne : ¬s.text.isEmpty := by simpa using s.text_ne_nil
    rw [List.map_cons, descend, Step.trim_text hs, if_neg hne, reach, ← funext (ih hrest)]
    exact pick_text hs path node _

theorem written_cons_cons (s t : Step) (steps : List Step) :
    written (s :: t :: steps) = s.text ++ '/' :: written (t :: steps) := by
  simp [written]

theorem head?_written {reserved : Text} {s : Step} (h : s.IsNamed reserved) (steps : List Step) :
    (written (s :: steps)).head? = s.name.head? := by
  rw [← Step.head?_text h]
  cases steps with
  | nil => simp [written]
  | cons t steps => rw [written_cons_cons, List.head?_append_of_ne_nil _ s.text_ne_nil]

theorem written_ne_nil (s : Step) (steps : List Step) : written (s :: steps) ≠ [] := by
  cases steps with
  | nil => simpa [written] using s.text_ne_nil
  | cons t steps => simp [written_cons_cons]

theorem isDigit_getLast_written (s : Step) (steps : List Step) :
    ∀ c ∈ (written (s :: steps)).getLast?, c.isDigit := by
  induction steps generalizing s with
  | nil => simpa [written] using s.isDigit_getLast
  | cons t steps ih =>
    rw [written_cons_cons, List.append_cons,
      List.getLast?_append_of_ne_nil _ (written_ne_nil t steps)]
    exact ih t

theorem depthAfter?_written (h : ∀ s ∈ steps, s.IsNamed nodeReserved) (depth : Nat) :
    depthAfter? depth (written steps) = some depth := by
  induction steps with
  | nil => rfl
  | cons s steps ih =>
    obtain ⟨hs, hrest⟩ := List.forall_mem_cons.1 h
    have htext := depthAfter?_text (by decide) (by decide) hs depth
    cases steps with
    | nil => simpa [written] using htext
    | cons t steps =>
      rw [written_cons_cons, depthAfter?_append, htext, Option.bind_some,
        depthAfter?_cons fun h => absurd h (by decide)]
      exact ih hrest

/-! ### Cutting a path -/

theorem segments_append {t : Text} (h : depthAfter? 0 t = some 0) (u : Text) :
    segments (t ++ '/' :: u) = segments t ++ segments u :=
  splitFrom_append_cons h rfl (by decide) (by decide)

theorem segments_text {reserved : Text} (hopen : '[' ∈ reserved) (hclose : ']' ∈ reserved)
    (hslash : '/' ∈ reserved) {s : Step} (h : s.IsNamed reserved) : segments s.text = [s.text] := by
  refine splitFrom_eq_singleton (by rw [depthAfter?_text hopen hclose h]; rfl) ?_
  rintro ⟨front, c, back, htext, hc, _⟩
  obtain rfl := beq_iff_eq.1 hc
  exact Step.not_mem_text h hslash (by decide) (by decide) (by rw [htext]; simp)

/-- A path is cut into the segments it was written with. -/
theorem segments_written {s : Step} (h : ∀ t ∈ s :: steps, t.IsNamed nodeReserved) :
    segments (written (s :: steps)) = s.text :: steps.map Step.text := by
  obtain ⟨hs, hrest⟩ := List.forall_mem_cons.1 h
  have htext := segments_text (by decide) (by decide) (by decide) hs
  induction steps generalizing s with
  | nil => simpa [written] using htext
  | cons t steps ih =>
    obtain ⟨ht, htail⟩ := List.forall_mem_cons.1 hrest
    have hafter := ih hrest ht htail (segments_text (by decide) (by decide) (by decide) ht)
    rw [written_cons_cons, segments_append (depthAfter?_text (by decide) (by decide) hs 0), htext,
      hafter]
    rfl

/-- What stands in front of a path stands in front of its first segment, if it is nothing that a
path is cut at. -/
theorem segments_at {t piece : Text} {pieces : List Text} (h : segments t = piece :: pieces) :
    segments ('@' :: t) = ('@' :: piece) :: pieces := by
  rw [segments, splitOutside] at h ⊢
  -- behind the first character no bracket is open, as in front of it
  simp [splitFrom, depthBehind, h]

end Follow

/-! ## Where a path begins -/

/-- A path begins among the entries of the catalog, or below the root node. -/
inductive Origin where
  | catalog
  | root

namespace Origin

/-- The node below which the first step of a path is taken. Above the entries of the catalog
there is none, and one is made up that has them as its children. -/
def top (scope : Scope) : Origin → Node
  | catalog => ⟨[], none, [], scope.catalog.nodes⟩
  | root => scope.root

/-- The path with some steps. -/
def path : Origin → List Step → Text
  | catalog, steps => '@' :: written steps
  | root, steps => written steps

/-- Whether some steps can be taken: among entries there has to be one at least, and below the root
node the first one must not look as if it were among entries. -/
def Admits : Origin → List Step → Prop
  | catalog, steps => steps ≠ []
  | root, steps => ∀ s ∈ steps.head?, s.name.head? ≠ some '@'

variable {o : Origin} {scope : Scope} {steps : List Step}

theorem not_isBlank_head_path (h : ∀ s ∈ steps, s.IsNamed nodeReserved) :
    ∀ c ∈ (o.path steps).head?, ¬isBlank c := by
  cases o with
  | catalog =>
    intro c hc
    obtain rfl : '@' = c := Option.some.inj hc
    decide
  | root =>
    cases steps with
    | nil => simp [path, written]
    | cons s steps =>
      have hs := h s (List.mem_cons_self ..)
      rw [path, head?_written hs]
      exact hs.not_isBlank_head

theorem depthAfter?_path (h : ∀ s ∈ steps, s.IsNamed nodeReserved) :
    depthAfter? 0 (o.path steps) = some 0 := by
  have hwritten := depthAfter?_written h 0
  cases o with
  | catalog => exact (depthAfter?_cons (by decide)).trans hwritten
  | root => exact hwritten

/-- A path has no blanks at its ends. -/
theorem trim_path (h : ∀ s ∈ steps, s.IsNamed nodeReserved) (ho : o.Admits steps) :
    trim (o.path steps) = o.path steps := by
  refine trim_eq_self (not_isBlank_head_path h) ?_
  cases steps with
  | nil =>
    cases o with
    | catalog => exact absurd rfl ho
    | root => simp [path, written]
  | cons s steps =>
    -- a path ends in the numeral of its last step
    intro c hc
    refine not_isBlank_of_isDigit (isDigit_getLast_written s steps c ?_)
    cases o with
    | catalog =>
      rwa [path, ← List.singleton_append,
        List.getLast?_append_of_ne_nil _ (written_ne_nil s steps)] at hc
    | root => exact hc

theorem trim_path_key (h : ∀ s ∈ steps, s.IsNamed nodeReserved) (key : Step) :
    trim (o.path steps ++ '/' :: key.text) = o.path steps ++ '/' :: key.text := by
  refine trim_eq_self ?_ ?_
  · cases hpath : o.path steps with
    | nil => simp; decide
    | cons d t =>
      have hhead := not_isBlank_head_path (o := o) h
      rw [hpath] at hhead
      exact hhead
  · intro c hc
    rw [List.append_cons, List.getLast?_append_of_ne_nil _ key.text_ne_nil] at hc
    exact not_isBlank_of_isDigit (key.isDigit_getLast c hc)

/-- To follow a path is to take its steps from where it begins. -/
theorem follow_path (h : ∀ s ∈ steps, s.IsNamed nodeReserved) (ho : o.Admits steps)
    (whole : Text) :
    follow scope whole (segments (o.path steps)) = reach whole steps (o.top scope) := by
  cases o with
  | catalog =>
    cases steps with
    | nil => exact absurd rfl ho
    | cons s steps =>
      obtain ⟨hs, hrest⟩ := List.forall_mem_cons.1 h
      rw [path, segments_at (segments_written h), follow, reach,
        ← funext (descend_text hrest whole)]
      exact pick_text hs whole (top scope .catalog) _
  | root =>
    have hhead : (written steps).head? ≠ some '@' := by
      cases steps with
      | nil => simp [written]
      | cons s steps =>
        rw [head?_written (h s (List.mem_cons_self ..))]
        exact ho s rfl
    rw [path, follow_of_relative (head_segments_ne hhead)]
    cases steps with
    | nil => rfl
    | cons s steps =>
      rw [segments_written h]
      exact descend_text h whole scope.root

/-- A path with a key behind it is about a value of the node that its steps lead to. -/
theorem value_path (h : ∀ s ∈ steps, s.IsNamed nodeReserved) (ho : o.Admits steps) {key : Step}
    (hkey : key.IsNamed keyReserved) :
    value scope (o.path steps ++ '/' :: key.text) =
      (reach (o.path steps ++ '/' :: key.text) steps (o.top scope)).bind fun found =>
        key.pick (o.path steps ++ '/' :: key.text) (found.valuesOf key.name) := by
  -- the last segment is the key of the value, and the ones in front of it are the way to it
  have hparts : segments (o.path steps ++ '/' :: key.text) =
      segments (o.path steps) ++ [key.text] := by
    rw [segments_append (depthAfter?_path h),
      segments_text (by decide) (by decide) (by decide) hkey]
  have hfollow : follow scope (o.path steps ++ '/' :: key.text) (segments (o.path steps)) = _ :=
    follow_path h ho _
  simp only [value, hparts, List.dropLast_concat, List.getLastD_concat]
  cases hway : segments (o.path steps) with
  | nil => exact absurd hway (splitFrom_ne_nil _ _ _)
  | cons piece pieces =>
    rw [hway] at hfollow
    simp only [hfollow, valueIn_text hkey]
    cases reach (o.path steps ++ '/' :: key.text) steps (o.top scope) <;> rfl

end Origin

/-! ## What a path is good for -/

section Use

variable {scope : Scope} {path : Text}

/-- A path leads to a node: it can be pasted, edited by the body of the child that names it, and
the values of the node can be fetched by their keys and ranks, as far as there are any. -/
structure LeadsTo (scope : Scope) (path : Text) (found : Node) : Prop where
  resolved : Reference.node scope path = .ok found
  pasted : ∀ (child node copy : Node), child.name = '#' :: path →
    Body.apply scope child found = .done copy →
      Body.applyChild scope child (Body.apply scope child) node = .done (node.addChild copy)
  fetched : ∀ (f : Field) (key : Key) (s : Step) (value : Text) (node : Node),
    Key.parse f.name = .ok key → key.verb = .own .special → s.IsWritable keyReserved →
    f.value = path ++ '/' :: s.text → (found.valuesOf s.name)[s.rank]? = some value →
      Body.applyField scope f node = .done (node.addField key.name value)
  missing : ∀ (f : Field) (key : Key) (s : Step) (node : Node),
    Key.parse f.name = .ok key → key.verb = .own .special → s.IsNamed keyReserved →
    f.value = path ++ '/' :: s.text → s.Misses (found.valuesOf s.name).length →
      Body.applyField scope f node = .stopped (s.failure f.value) node

/-- A path leads nowhere, because of one of its steps. Whatever uses it fails for that reason and
leaves the node as it is. -/
structure LeadsNowhere (scope : Scope) (path : Text) (s : Step) : Prop where
  unresolved : Reference.node scope path = .error (s.failure path)
  pasted : ∀ child node : Node, child.name = '#' :: path →
    Body.applyChild scope child (Body.apply scope child) node = .stopped (s.failure path) node
  fetched : ∀ (f : Field) (key : Key) (t : Step) (node : Node),
    Key.parse f.name = .ok key → key.verb = .own .special → t.IsNamed keyReserved →
    f.value = path ++ '/' :: t.text →
      Body.applyField scope f node = .stopped (s.failure f.value) node

theorem applyChild_paste_eq (htrim : trim path = path) {child : Node}
    (hname : child.name = '#' :: path) (edit : Node → Outcome Node) (node : Node) :
    Body.applyChild scope child edit node =
      Body.attempt node (Reference.node scope path) fun found =>
        Body.attempt node (edit found).toExcept fun copy => .done (node.addChild copy) := by
  have hcut : Verb.cut child.name = (.own .paste, '#', path) := by rw [hname]; rfl
  simp only [Body.applyChild, hcut, htrim]

theorem applyField_special_eq {f : Field} {key : Key} (hparse : Key.parse f.name = .ok key)
    (hverb : key.verb = .own .special) (htrim : trim f.value = f.value) (node : Node) :
    Body.applyField scope f node =
      Body.attempt node (value scope f.value) fun value =>
        .done (node.addField key.name value) := by
  simp only [Body.applyField, hparse, Body.applyKey, hverb, htrim, Body.attempt]
  cases value scope f.value <;> rfl

variable {o : Origin} {steps : List Step}

/-- A field that fetches a value behind a path is about a value of the node the path leads to. -/
theorem applyField_path (h : ∀ s ∈ steps, s.IsNamed nodeReserved) (ho : o.Admits steps)
    {f : Field} {key : Key} {s : Step} (hparse : Key.parse f.name = .ok key)
    (hverb : key.verb = .own .special) (hs : s.IsNamed keyReserved)
    (hvalue : f.value = o.path steps ++ '/' :: s.text) (node : Node) :
    Body.applyField scope f node =
      Body.attempt node ((reach f.value steps (o.top scope)).bind fun found =>
        s.pick f.value (found.valuesOf s.name)) fun value =>
          .done (node.addField key.name value) := by
  have htrim : trim f.value = f.value := hvalue ▸ Origin.trim_path_key h s
  rw [applyField_special_eq hparse hverb htrim, hvalue, Origin.value_path h ho hs]

theorem leadsTo_of_walk (h : ∀ s ∈ steps, s.IsWritable nodeReserved) (ho : o.Admits steps)
    {found : Node} (hwalk : walk steps (o.top scope) = some found) :
    LeadsTo scope (o.path steps) found := by
  have hnamed : ∀ s ∈ steps, s.IsNamed nodeReserved := fun s hs => (h s hs).toIsNamed
  have hreach : ∀ whole, reach whole steps (o.top scope) = .ok found := by
    intro whole
    have hall := reach_append (fun s hs => (h s hs).rank_le) hwalk whole []
    rwa [List.append_nil] at hall
  have hnode : Reference.node scope (o.path steps) = .ok found :=
    (Origin.follow_path hnamed ho _).trans (hreach _)
  refine ⟨hnode, ?_, ?_, ?_⟩
  · intro child node copy hname hcopy
    rw [applyChild_paste_eq (Origin.trim_path hnamed ho) hname, hnode]
    simp [Body.attempt, hcopy, Outcome.toExcept]
  · intro f key s value node hparse hverb hs hvalue hget
    rw [applyField_path hnamed ho hparse hverb hs.toIsNamed hvalue, hreach]
    simp only [Except.bind, Step.pick_of_getElem? hs.rank_le hget, Body.attempt]
  · intro f key s node hparse hverb hs hvalue hmisses
    rw [applyField_path hnamed ho hparse hverb hs hvalue, hreach]
    simp only [Except.bind, Step.pick_of_misses hmisses, Body.attempt]

theorem leadsNowhere_of_misses {front back : List Step} {s : Step} {found : Node}
    (h : ∀ t ∈ front ++ s :: back, t.IsNamed nodeReserved) (ho : o.Admits (front ++ s :: back))
    (hranks : ∀ t ∈ front, t.rank ≤ maxIndex) (hfront : walk front (o.top scope) = some found)
    (hmisses : s.Misses (found.childrenOf s.name).length) :
    LeadsNowhere scope (o.path (front ++ s :: back)) s := by
  have hreach : ∀ whole, reach whole (front ++ s :: back) (o.top scope) =
      .error (s.failure whole) := fun whole =>
    (reach_append hranks hfront whole (s :: back)).trans (reach_of_misses hmisses whole back)
  have hnode : Reference.node scope (o.path (front ++ s :: back)) =
      .error (s.failure (o.path (front ++ s :: back))) :=
    (Origin.follow_path h ho _).trans (hreach _)
  refine ⟨hnode, ?_, ?_⟩
  · intro child node hname
    rw [applyChild_paste_eq (Origin.trim_path h ho) hname, hnode]
    rfl
  · intro f key t node hparse hverb ht hvalue
    rw [applyField_path h ho hparse hverb ht hvalue, hreach]
    rfl

/-- The path with the steps to an address leads to the node that stands there, be it below an
entry of the catalog or below the root node that is patched. A path leads nowhere if one of its
steps counts further than there are candidates. -/
theorem leadsTo_address (scope : Scope) (o : Origin) :
    (∀ is found, (o.top scope).below? is = some found →
      (∀ s ∈ stepsTo is (o.top scope), s.IsWritable nodeReserved) →
      o.Admits (stepsTo is (o.top scope)) →
        LeadsTo scope (o.path (stepsTo is (o.top scope))) found) ∧
    ∀ front s back found, (∀ t ∈ front ++ s :: back, t.IsNamed nodeReserved) →
      o.Admits (front ++ s :: back) → (∀ t ∈ front, t.rank ≤ maxIndex) →
      walk front (o.top scope) = some found → s.Misses (found.childrenOf s.name).length →
        LeadsNowhere scope (o.path (front ++ s :: back)) s :=
  ⟨fun _ _ hbelow hsteps ho => leadsTo_of_walk hsteps ho (walk_stepsTo hbelow),
    fun _ _ _ _ => leadsNowhere_of_misses⟩

/-- Two parts, with the slot of a third one between them. -/
def twoParts : Catalog :=
  (Catalog.ofEntries ["a.cfg".toList]
    [⟨0, .ofName "PART".toList⟩, ⟨0, .ofName "PART".toList⟩, ⟨0, Body.twoModules⟩]).remove 1

/-- The second module of the second part, once from the catalog and once from the part; there is no
third module. -/
theorem leadsTo_address_twoParts :
    let scope : Scope := ⟨twoParts, Body.twoModules⟩
    let second : Node := ⟨"MODULE".toList, none, [⟨['a'], ['2']⟩], []⟩
    LeadsTo scope "@PART,1/MODULE,1".toList second ∧ LeadsTo scope "MODULE,1".toList second ∧
    LeadsNowhere scope "@PART,1/MODULE,2".toList ⟨"MODULE".toList, 2⟩ := by
  intro scope second
  have hlive := leadsTo_address scope .catalog
  have habsolute : Origin.catalog.path (stepsTo [1, 2] (Origin.catalog.top scope)) =
      "@PART,1/MODULE,1".toList := by decide +kernel
  have hrelative : Origin.root.path (stepsTo [2] (Origin.root.top scope)) =
      "MODULE,1".toList := by decide +kernel
  refine ⟨habsolute ▸ ?_, hrelative ▸ ?_, ?_⟩
  · exact hlive.1 [1, 2] second (by decide +kernel) (by decide +kernel) (List.cons_ne_nil _ _)
  · exact (leadsTo_address scope .root).1 [2] second (by decide +kernel) (by decide +kernel)
      (by rintro s ⟨⟩; decide)
  · exact hlive.2 [⟨"PART".toList, 1⟩] ⟨"MODULE".toList, 2⟩ [] Body.twoModules (by decide +kernel)
      (List.cons_ne_nil _ _) (by decide +kernel) (by decide +kernel) (.inl (by decide +kernel))

/-- A rank that is no index makes another error than one that is an index and too large. -/
theorem failure_not_always_unresolved :
    let scope : Scope := ⟨.empty, Body.twoModules⟩
    let s : Step := ⟨"MODULE".toList, maxIndex + 1⟩
    let paste : Node := .ofName "#MODULE,18446744073709551616".toList
    let quoted : PatchError :=
      .invalidIndex "MODULE,18446744073709551616".toList "18446744073709551616".toList
    s.IsNamed nodeReserved ∧ (Body.twoModules.childrenOf s.name).length ≤ s.rank ∧
    paste.name = '#' :: written [s] ∧ Reference.node scope (written [s]) = .error quoted ∧
    Body.applyChild scope paste (Body.apply scope paste) Body.twoModules =
      .stopped quoted Body.twoModules ∧
    quoted ≠ .unresolved (written [s]) := by
  decide +kernel

end Use

end Reference

end CfgPatch
