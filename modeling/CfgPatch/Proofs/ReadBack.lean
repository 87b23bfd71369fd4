import CfgPatch.Project
import CfgPatch.Proofs.Closure
import CfgPatch.Proofs.Invariants
import CfgPatch.Proofs.RoundTrip

/-!
# Reading the merged files back

What a run writes to a file is read back as the nodes it was written from if and only if the
format can express them. The nodes of sources can be expressed, and a run keeps them so if the
bodies of its directives are harmless, because every change that such a directive makes to a
catalog does (`Directive.HasHarmlessBody.keeps`).

A run does not look for bodies that are not harmless, and each kind of them can leave a file
that does not read back (`patch_not_readsBack`).
-/

namespace CfgPatch

open Text Cfg

/-! ## Catalogs -/

namespace Catalog

/-- Whatever is in the catalog can be expressed. -/
def IsExpressible (cat : Catalog) : Prop :=
  ∀ id entry, cat.get? id = some entry → entry.node.Everywhere Node.IsExpressible

/-- The nodes of a file, in order. -/
def nodesIn (cat : Catalog) (file : FileId) : List Node :=
  (cat.entriesIn file).map (·.2.node)

/-- What is written for a file is read as the nodes it was written from. -/
def ReadsBack (cat : Catalog) (file : FileId) : Prop :=
  Cfg.parse (fileText (cat.nodesIn file)) = .ok ⟨[], none, [], cat.nodesIn file⟩

instance (cat : Catalog) (file : FileId) : Decidable (cat.ReadsBack file) :=
  inferInstanceAs (Decidable (Cfg.parse _ = _))

theorem readsBack_iff {cat : Catalog} {file : FileId} :
    cat.ReadsBack file ↔ ∀ node ∈ cat.nodesIn file, node.Everywhere Node.IsExpressible :=
  parse_write_iff (by simp [Cfg.tab, IsMargin])

namespace IsExpressible

variable {cat : Catalog}

theorem empty : IsExpressible Catalog.empty := by
  intro id entry h
  exact absurd h (by simp)

theorem of_mem_nodes (h : cat.IsExpressible) :
    ∀ node ∈ cat.nodes, node.Everywhere Node.IsExpressible := by
  intro node hnode
  obtain ⟨p, hp, rfl⟩ := List.mem_map.1 hnode
  exact All.of_mem_entries h p hp

theorem of_mem_nodesIn (h : cat.IsExpressible) {file : FileId} :
    ∀ node ∈ cat.nodesIn file, node.Everywhere Node.IsExpressible := by
  intro node hnode
  obtain ⟨p, hp, rfl⟩ := List.mem_map.1 hnode
  exact All.of_mem_entries h p (List.mem_filter.1 hp).1

/-- What is loaded can be expressed, because it has been read. -/
theorem load (h : cat.IsExpressible) {path source : Text} {loaded : Arena.Loaded}
    {next : Catalog} (hload : cat.load path source = .ok (loaded, next)) :
    next.IsExpressible :=
  All.load h hload fun _ hparse => (isExpressible_of_parse hparse).2

end IsExpressible

end Catalog

/-- Sources, each a path and a text, loaded in order; those that cannot be read are passed
over. -/
def loadedFrom (sources : List (Text × Text)) : Catalog :=
  (sources.foldl (fun s source => s.load source.1 source.2) ({} : Sources)).catalog

theorem isExpressible_loadedFrom (sources : List (Text × Text)) :
    (loadedFrom sources).IsExpressible := by
  have hload : ∀ s : Sources, s.catalog.IsExpressible →
      (sources.foldl (fun s source => s.load source.1 source.2) s).catalog.IsExpressible := by
    induction sources with
    | nil => exact fun _ hs => hs
    | cons source sources ih =>
      intro s hs
      refine ih (s.load source.1 source.2) ?_
      rw [Sources.load]
      split
      · rename_i loaded next hnext
        exact hs.load hnext
      · exact hs
  exact hload {} .empty

/-! ## Runs -/

/-- The body of the directive can be expressed and is harmless. -/
structure Directive.HasHarmlessBody (d : Directive) : Prop where
  fields : ∀ f ∈ d.node.fields, f.IsExpressible
  children : ∀ child ∈ d.node.children, child.Everywhere Node.IsExpressible
  harmless : d.node.Everywhere Body.IsHarmless

variable {l : Listener} {d : Directive}

/-- However often a harmless body is applied, the node stays expressible. -/
theorem Directive.HasHarmlessBody.repeated (hd : d.HasHarmlessBody) {scope : Scope}
    (hscope : scope.IsExpressible) {k : Nat} {node result : Node}
    (hnode : node.Everywhere Node.IsExpressible)
    (h : Body.repeated scope d.node k node = .ok result) :
    result.Everywhere Node.IsExpressible := by
  refine Body.repeated_ensures (fun node hnode => ?_) hnode h
  exact Body.apply_ensures hscope hd.fields hd.children hd.harmless hnode

/-- A directive with a harmless body keeps a catalog expressible. -/
theorem Directive.HasHarmlessBody.keeps (hd : d.HasHarmlessBody) :
    d.Keeps Catalog.IsExpressible := by
  have hscope : ∀ (cat : Catalog) (node : Node), cat.IsExpressible →
      node.Everywhere Node.IsExpressible → Scope.IsExpressible ⟨cat, node⟩ :=
    fun _ _ hcat hnode => ⟨hcat.of_mem_nodes, hnode⟩
  refine Directive.keeps_all (fun cat entry k node hcat hnode hrun => ?_)
    fun cat entry duplicate hcat hnode hrun => ?_
  · exact hd.repeated (hscope cat entry.node hcat hnode) hnode hrun
  · have hduplicate := Body.apply_ensures (hscope cat entry.node hcat hnode) hd.fields hd.children
      hd.harmless hnode
    rw [hrun] at hduplicate
    exact hduplicate

namespace Catalog

variable {cat : Catalog} {mods : List Text}

theorem IsExpressible.data (h : cat.IsExpressible) : cat.data.IsExpressible := by
  intro id entry hget
  rw [get?_data] at hget
  exact h id entry (Option.filter_eq_some_iff.1 hget).1

/-- The bodies of the directives in a catalog that can be expressed are from entries of it. -/
theorem IsExpressible.hasHarmlessBody (h : cat.IsExpressible) {d : Directive}
    (hd : d ∈ cat.schedule mods) (hharmless : d.node.Everywhere Body.IsHarmless) :
    d.HasHarmlessBody := by
  obtain ⟨id, entry, hget, _, _, _, hnode⟩ := exists_of_mem_schedule hd
  have hentry := h id entry hget
  refine ⟨?_, ?_, hharmless⟩
  · rw [hnode]
    exact hentry.here.fields
  · rw [hnode]
    exact fun child hchild => hentry.child hchild

end Catalog

/-- What a run makes of sources is read back, file by file, if and only if it can be expressed,
and that is so if the bodies of the directives are harmless. -/
theorem patch_readsBack (hl : l.NeverFails) (o : Options) (mods : List Text)
    (sources : List (Text × Text)) (j : Journal) :
    ∃ last j', patch l o mods (loadedFrom sources) j = .ok (last, j') ∧
      (∀ file, last.ReadsBack file ↔
        ∀ node ∈ last.nodesIn file, node.Everywhere Node.IsExpressible) ∧
      ((∀ d ∈ (loadedFrom sources).schedule mods, d.node.Everywhere Body.IsHarmless) →
        ∀ file, last.ReadsBack file) := by
  have hloaded := isExpressible_loadedFrom sources
  obtain ⟨last, j', hrun, horder⟩ := patch_eq_schedule hl o mods (loadedFrom sources) j
  refine ⟨last, j', hrun, fun file => Catalog.readsBack_iff, fun hharmless file => ?_⟩
  have hbodies : ∀ d ∈ (loadedFrom sources).schedule mods, d.HasHarmlessBody := fun d hd =>
    hloaded.hasHarmlessBody hd (hharmless d hd)
  have hlast := horder.keeps (fun d hd => (hbodies d hd).keeps) hloaded.data
  exact Catalog.readsBack_iff.2 hlast.of_mem_nodesIn

/-- A part, and a directive for it that has the given text in its body. -/
def partWith (items : String) : List (Text × Text) :=
  [("a.cfg".toList, "PART\n\x7b\nx = a b\n\x7d\n@PART\n\x7b\n".toList ++ items.toList ++
    "\n\x7d\n".toList)]

/-- A directive that sets a value, calculates with it, renames the part and makes a child. -/
def tuningSources : List (Text × Text) :=
  partWith "%y = 2\n@y * = 3\n|_ = TANK\n&MODULE[m]\n\x7b\n\x7d"

/-- The node of that directive. -/
def tuning : Node where
  name := "@PART".toList
  id := none
  fields := [⟨"%y".toList, "2".toList⟩, ⟨"@y *".toList, "3".toList⟩, ⟨"|_".toList, "TANK".toList⟩]
  children := [.ofName "&MODULE[m]".toList]

theorem tuning_isHarmless : tuning.Everywhere Body.IsHarmless := by
  have hset : Key.parse "%y".toList = .ok ⟨.own .replace, '%', ['y'], none, .assign⟩ := by
    decide +kernel
  have hmultiply : Key.parse "@y *".toList = .ok ⟨.shared .edit, '@', ['y'], none, .multiply⟩ := by
    decide +kernel
  have hrename : Key.parse "|_".toList = .ok ⟨.own .rename, '|', ['_'], none, .assign⟩ := by
    decide +kernel
  have hmodule : Body.IsHarmlessHeader "&MODULE[m]".toList := by
    intro _ m hm
    rw [(Matcher.type_parse hm).1]
    decide +kernel
  have hchild : (Node.ofName "&MODULE[m]".toList).Everywhere Body.IsHarmless :=
    .intro ⟨by simp [Node.ofName], by simp [Node.ofName]⟩ (by simp [Node.ofName])
  refine .intro ⟨?_, List.forall_mem_singleton.2 hmodule⟩ (List.forall_mem_singleton.2 hchild)
  simp only [tuning, List.forall_mem_cons, hset, hmultiply, hrename, Except.ok.injEq]
  refine ⟨?_, ?_, ?_, by simp⟩
  · rintro _ rfl
    exact (by decide : ['y'].head? ≠ some byteOrderMark)
  · rintro _ rfl
    exact fun hop => absurd hop (by decide)
  · rintro _ rfl
    exact fun _ => (by decide)

theorem patch_readsBack_tuning :
    Listener.calm.NeverFails ∧
    ((loadedFrom tuningSources).schedule []).map (·.node) = [tuning] ∧
    tuning.Everywhere Body.IsHarmless ∧
    ∃ last j', patch .calm {} [] (loadedFrom tuningSources) .empty = .ok (last, j') ∧
      last.ReadsBack 0 := by
  have hschedule : ((loadedFrom tuningSources).schedule []).map (·.node) = [tuning] := by
    rw [Catalog.schedule_eq]
    decide +kernel
  obtain ⟨last, j', hrun, _, hback⟩ :=
    patch_readsBack Listener.calm_neverFails {} [] tuningSources .empty
  refine ⟨Listener.calm_neverFails, hschedule, tuning_isHarmless, last, j', hrun,
    hback (fun d hd => ?_) 0⟩
  have hnode : d.node ∈ [tuning] := hschedule ▸ List.mem_map_of_mem hd
  rw [List.mem_singleton.1 hnode]
  exact tuning_isHarmless

/-- A run on these sources leaves a file that does not read back. -/
def FailsToReadBack (sources : List (Text × Text)) : Prop :=
  ∃ last j, patch .calm {} [] (loadedFrom sources) .empty = .ok (last, j) ∧ ¬last.ReadsBack 0

theorem FailsToReadBack.of_run {sources : List (Text × Text)}
    (h : (patch .calm {} [] (loadedFrom sources) .empty).map (fun p => decide (p.1.ReadsBack 0)) =
      .ok false) : FailsToReadBack sources := by
  cases hrun : patch .calm {} [] (loadedFrom sources) .empty with
  | error i => simp [hrun, Except.map] at h
  | ok p =>
    rw [hrun] at h
    exact ⟨p.1, p.2, hrun, of_decide_eq_false (Except.ok.inj h)⟩

/-- A value that ends in a space, a name with an equals sign, no name at all, and byte order marks
at the ends of names: each kind of harm is done by some directive. -/
theorem patch_not_readsBack :
    Listener.calm.NeverFails ∧
    FailsToReadBack (partWith "@x ^ = :b::") ∧
    FailsToReadBack (partWith "|_ = a=b") ∧
    FailsToReadBack (partWith "|_ =") ∧
    FailsToReadBack (partWith "|_ = \uFEFFa") ∧
    FailsToReadBack (partWith "%\uFEFFk = v") ∧
    FailsToReadBack (partWith "&\uFEFFk = v") ∧
    FailsToReadBack (partWith "*\uFEFFk = x") ∧
    FailsToReadBack (partWith "%\uFEFFMODULE\n\x7b\n\x7d") ∧
    FailsToReadBack (partWith "%MODULE\uFEFF[m]\n\x7b\n\x7d") ∧
    FailsToReadBack (partWith "&\uFEFFMODULE\n\x7b\n\x7d") ∧
    FailsToReadBack (partWith "&MODULE\uFEFF[m]\n\x7b\n\x7d") := by
  refine ⟨Listener.calm_neverFails, .of_run (by cbv), ?_, ?_, ?_, ?_, ?_, ?_, ?_, ?_, ?_, ?_⟩ <;>
    exact .of_run (by decide +kernel)

end CfgPatch
