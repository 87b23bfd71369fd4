import CfgPatch.Project
import CfgPatch.Proofs.Invariants
import CfgPatch.Proofs.RoundTrip

/-!
# The merged output

The result of a run goes to files or, as one text, to the standard output. Both are made of the
same pieces: the files that have entries, in the order in which they were registered, each with
what is written for its entries (`Catalog.outputs`). Every entry is in exactly one of them if it
belongs to a registered file (`Catalog.HasFiles`), which loading and patching see to, and so the
merged text holds every entry once. In it a file is announced by a comment, which reads as an
empty line does, so that safe entries are read back from it as from their files
(`Catalog.Merges`).
-/

namespace CfgPatch.Cfg

open Text

/-! ## Comments between nodes -/

/-- A comment on a line of its own is a gap in front of the line end. -/
theorem Cut.comment {t : Text} (h : '\n' ∉ t) :
    Cut ('/' :: '/' :: t ++ ['\n']) [⟨'/' :: '/' :: t, .newline⟩] := by
  have hline := Cut.line (firstStray?_slashes h)
  rw [scan_slashes h] at hline
  exact hline

section Reads

variable {x y : Text} {fs : List Field} {ns : List Node}

/-- A line with no token is read as nothing. -/
theorem Reads.lineEnd {gap : Text} (hx : Cut x [⟨gap, .newline⟩]) (hy : Reads y fs ns) :
    Reads (x ++ y) fs ns := by
  obtain ⟨b, hb, rfl, rfl, hcut⟩ := hy
  exact ⟨.lineEnd ⟨gap, .newline⟩ b, .lineEnd rfl hb, rfl, rfl, hx.append hcut⟩

/-- Nodes that can be expressed are read as themselves, whatever nodes stand behind them. -/
theorem Reads.write {indent : Text} (hindent : ∀ c ∈ indent, IsMargin c) {nodes : List Node}
    (hnodes : ∀ node ∈ nodes, node.Everywhere Node.IsExpressible) (hy : Reads y [] ns) :
    Reads (Cfg.write indent nodes ++ y) [] (nodes ++ ns) := by
  induction nodes with
  | nil => exact hy
  | cons node nodes ih =>
    obtain ⟨hnode, hrest⟩ := List.forall_mem_cons.1 hnodes
    have hlines : Cfg.write indent (node :: nodes) =
        (Cfg.nodeLines 0 node).flatMap (Line.text indent) ++ Cfg.write indent nodes := by
      rw [Cfg.write, Cfg.lines, List.flatMap_append]
      rfl
    rw [hlines, List.append_assoc]
    exact .nodeLines hindent hnode (ih hrest)

end Reads

end CfgPatch.Cfg

namespace CfgPatch

open Text

namespace Catalog

variable {cat next : Catalog}

/-! ## Entries file by file -/

/-- Every entry belongs to a file that is registered. -/
def HasFiles (cat : Catalog) : Prop := cat.All fun entry => entry.file < cat.files.length

/-- The entries that are there, file by file in the order of the files. -/
def filed (cat : Catalog) : List (EntryId × Entry) :=
  (List.range cat.files.length).flatMap cat.entriesIn

/-- File by file, the entries are sorted by their files and keep their order otherwise. -/
theorem filed_eq_mergeSort (h : cat.HasFiles) :
    cat.filed = cat.entries.mergeSort fun p q => p.2.file ≤ q.2.file := by
  have hgroups : cat.filed =
      groups (fun p => p.2.file) (List.range cat.files.length) cat.entries := rfl
  have hfiles : ∀ p ∈ cat.entries, p.2.file ∈ List.range cat.files.length := fun p hp =>
    List.mem_range.2 (h.of_mem_entries p hp)
  rw [hgroups]
  exact groups_eq_mergeSort _ id List.pairwise_lt_range hfiles

theorem filed_perm (h : cat.HasFiles) : cat.filed.Perm cat.entries := by
  rw [filed_eq_mergeSort h]
  exact List.mergeSort_perm ..

/-- Leaving out the files that have no entries leaves out no entry. -/
theorem flatMap_filled (cat : Catalog) :
    cat.filled.flatMap (·.2) = cat.filed.map (·.2.node) := by
  have hnumbers : cat.files.zipIdx.map Prod.snd = List.range cat.files.length := by
    rw [List.zipIdx_map_snd, List.range_eq_range']
  rw [filled, flatMap_filter_nonempty, filed, ← hnumbers, List.flatMap_map, List.flatMap_map,
    List.map_flatMap]

/-! ## Every entry has a file -/

theorem files_of_load {path source : Text} {loaded : Arena.Loaded}
    (hload : cat.load path source = .ok (loaded, next)) :
    cat.files <+: next.files ∧ next.files[loaded.file]? = some path := by
  rw [Catalog.load] at hload
  cases hparse : Cfg.parse source with
  | error e => simp [Arena.load, hparse, Except.map] at hload
  | ok document =>
    simp only [Arena.load_eq hparse, Except.map, Except.ok.injEq, Prod.mk.injEq] at hload
    obtain ⟨rfl, rfl⟩ := hload
    simp only [Arena.files_addNodes]
    exact ⟨Arena.files_addFile_prefix .., Arena.getElem?_addFile ..⟩

/-- What is loaded belongs to the file that is registered for it. -/
theorem HasFiles.load (h : cat.HasFiles) {path source : Text} {loaded : Arena.Loaded}
    (hload : cat.load path source = .ok (loaded, next)) : next.HasFiles := by
  obtain ⟨hfiles, hpath⟩ := files_of_load hload
  have hold : cat.All fun entry => entry.file < next.files.length :=
    h.mono fun _ hlt => Nat.lt_of_lt_of_le hlt hfiles.length_le
  exact hold.load hload fun _ _ _ _ => (List.getElem?_eq_some_iff.1 hpath).1

/-- After a run every entry has a registered file if that was so before it, since a copy is under
the file of the directive that makes it. -/
theorem HasFiles.patch {l : Listener} {o : Options} {mods : List Text} {last : Catalog}
    {j j' : Journal} (h : cat.HasFiles)
    (hrun : CfgPatch.patch l o mods cat j = .ok (last, j')) : last.HasFiles := by
  obtain ⟨x, ds, hx, hds, horder⟩ := exists_inOrder_of_patch hrun
  -- the files are the same throughout, so it does not matter when they are asked for
  have hfiles : last.files = cat.files :=
    horder.keeps (fun d _ => d.keeps_files cat.files) hx.files
  have hkeeps : ∀ d ∈ ds, d.Keeps (All fun entry => entry.file < cat.files.length) := by
    intro d hd
    obtain ⟨id, entry, hget, hfile⟩ := hds d hd
    refine Directive.keeps_all (fun _ _ _ _ _ hlt _ => hlt) fun _ _ _ _ _ _ => ?_
    exact hfile ▸ h id entry hget
  have hlast : last.All fun entry => entry.file < cat.files.length :=
    horder.keeps hkeeps fun id entry hget => h id entry (hx.kept id entry hget)
  rw [HasFiles, hfiles]
  exact hlast

end Catalog

/-! ## Writing to files -/

namespace Disk

theorem files_ensureDir {disk made : Disk} {components : List Text}
    (h : disk.ensureDir components = .ok made) : made.files = disk.files := by
  rw [ensureDir] at h
  split at h
  · rename_i next hmake
    obtain rfl := Except.ok.inj h
    rw [makeDir] at hmake
    obtain ⟨loc, _, hmake⟩ := bind_eq_ok.1 hmake
    split_ifs at hmake
    obtain rfl := Except.ok.inj hmake
    rfl
  · split_ifs at h
    obtain rfl := Except.ok.inj h
    rfl

/-- Making directories leaves the files alone, whether or not it succeeds. -/
theorem files_makeDirs (reversed : List Text) (disk : Disk) :
    (makeDirs reversed disk).2.files = disk.files := by
  induction reversed with
  | nil => rfl
  | cons last front ih =>
    rw [makeDirs]
    split
    · rename_i made hensure
      exact files_ensureDir hensure
    · split
      · rename_i made hfront
        rw [hfront] at ih
        split
        · rename_i next hensure
          exact (files_ensureDir hensure).trans ih
        · exact ih
      · exact ih
    · rfl

end Disk

/-- A text is written to a file below a directory, after what leads there has been made. -/
structure WritesFile (outDir path content : Text) (disk next : Disk) : Prop where
  named : path ≠ []
  steps : ∃ made,
    Disk.makeDirs (Path.components (Path.join outDir path)).dropLast.reverse disk = (none, made) ∧
    made.writeFile (Path.components (Path.join outDir path)) (String.ofList content).toUTF8 =
      .ok next

/-- Texts are written to files below a directory, one after another. -/
inductive Written (outDir : Text) : List (Text × Text) → Disk → Disk → Prop
  | nil (disk : Disk) : Written outDir [] disk disk
  | cons {path content : Text} {rest : List (Text × Text)} {disk next last : Disk}
      (first : WritesFile outDir path content disk next) (more : Written outDir rest next last) :
      Written outDir ((path, content) :: rest) disk last

/-- A text is written in one way, if at all: nothing is left to choose once the directories have
been made. -/
theorem WritesFile.writeFile_eq {outDir path content : Text} {disk made next : Disk}
    {failure : Option DiskError} (h : WritesFile outDir path content disk next)
    (hmake : Disk.makeDirs (Path.components (Path.join outDir path)).dropLast.reverse disk =
      (failure, made)) :
    failure = none ∧ made.writeFile (Path.components (Path.join outDir path))
      (String.ofList content).toUTF8 = .ok next := by
  obtain ⟨made', hmake', hwrite⟩ := h.steps
  rw [hmake'] at hmake
  obtain ⟨rfl, rfl⟩ := Prod.mk.inj hmake
  exact ⟨rfl, hwrite⟩

/-- The first file is written and the others have their turn, or it cannot be written and the files
stay as they are. -/
theorem writeFiles_first (outDir path : Text) (nodes : List Node)
    (rest : List (Text × List Node)) (count : Nat) (disk : Disk) :
    (∃ next, WritesFile outDir path (Catalog.fileText nodes) disk next ∧
      writeFiles outDir ((path, nodes) :: rest) count disk =
        writeFiles outDir rest (count + 1) next) ∨
    (∀ next, ¬WritesFile outDir path (Catalog.fileText nodes) disk next) ∧
      ∃ e left, writeFiles outDir ((path, nodes) :: rest) count disk = (.error e, left) ∧
        left.files = disk.files := by
  have hdirs := Disk.files_makeDirs
    (Path.components (Path.join outDir path)).dropLast.reverse disk
  rw [writeFiles]
  cases hmake : Disk.makeDirs (Path.components (Path.join outDir path)).dropLast.reverse disk with
  | mk failure made =>
    rw [hmake] at hdirs
    cases failure with
    | some e =>
      refine .inr ⟨fun next hwrites => ?_, e, made, rfl, hdirs⟩
      exact Option.some_ne_none e (hwrites.writeFile_eq hmake).1
    | none =>
      simp only
      split_ifs with hpath
      · refine .inr ⟨fun next hwrites => ?_, _, made, rfl, hdirs⟩
        exact hwrites.named (List.isEmpty_iff.1 hpath)
      · have hnamed : path ≠ [] := fun hnil => hpath (List.isEmpty_iff.2 hnil)
        cases hwrite : made.writeFile (Path.components (Path.join outDir path))
            (String.ofList (Catalog.fileText nodes)).toUTF8 with
        | error e =>
          refine .inr ⟨fun next hwrites => ?_, e, made, rfl, hdirs⟩
          exact nomatch hwrite.symm.trans (hwrites.writeFile_eq hmake).2
        | ok next => exact .inl ⟨next, ⟨hnamed, made, hmake, hwrite⟩, rfl⟩

/-- A file as it is written: its path and its content. -/
def written (file : Text × List Node) : Text × Text := (file.1, Catalog.fileText file.2)

/-- Files are written in order until all are, or until one cannot be written. -/
theorem writeFiles_cases (outDir : Text) (files : List (Text × List Node)) (count : Nat)
    (disk : Disk) :
    ∃ past rest mid, files.map written = past ++ rest ∧ Written outDir past disk mid ∧
      (rest = [] ∧ writeFiles outDir files count disk = (.ok (count + past.length), mid) ∨
        rest ≠ [] ∧
          (∀ output ∈ rest.head?, ∀ next, ¬WritesFile outDir output.1 output.2 mid next) ∧
          ∃ e left, writeFiles outDir files count disk = (.error e, left) ∧
            left.files = mid.files) := by
  induction files generalizing count disk with
  | nil => exact ⟨[], [], disk, rfl, .nil disk, .inl ⟨rfl, rfl⟩⟩
  | cons file files ih =>
    obtain ⟨path, nodes⟩ := file
    rcases writeFiles_first outDir path nodes files count disk with
      ⟨next, hfirst, hrun⟩ | ⟨hnot, e, left, hrun, hleft⟩
    · obtain ⟨past, rest, mid, hfiles, hpast, hend⟩ := ih (count + 1) next
      refine ⟨written (path, nodes) :: past, rest, mid, ?_, .cons hfirst hpast, ?_⟩
      · rw [List.map_cons, hfiles, List.cons_append]
      · rw [hrun, List.length_cons, Nat.add_comm past.length, ← Nat.add_assoc]
        exact hend
    · -- neither this file nor any behind it is written
      refine ⟨[], _, disk, rfl, .nil disk, .inr ⟨List.cons_ne_nil _ _, ?_, e, left, hrun, hleft⟩⟩
      intro output houtput
      obtain rfl := Option.mem_some.1 houtput
      exact hnot

/-! ## The merged text -/

namespace Catalog

variable {cat : Catalog}

/-- What is written for a catalog: the path and the content of each file that has entries. -/
def outputs (cat : Catalog) : List (Text × Text) := cat.filled.map written

/-- Files with nodes that can be expressed, each under a comment, are read as these nodes. -/
theorem reads_files {files : List (Text × List Node)} (hpaths : ∀ f ∈ files, '\n' ∉ f.1)
    (hnodes : ∀ f ∈ files, ∀ node ∈ f.2, node.Everywhere Node.IsExpressible) :
    Cfg.Reads (files.flatMap fun f => "// ".toList ++ f.1 ++ '\n' :: fileText f.2 ++ ['\n']) []
      (files.flatMap (·.2)) := by
  induction files with
  | nil => exact .nil
  | cons f files ih =>
    obtain ⟨hpath, hpaths⟩ := List.forall_mem_cons.1 hpaths
    obtain ⟨hfile, hnodes⟩ := List.forall_mem_cons.1 hnodes
    have hcomment : '\n' ∉ ' ' :: f.1 := by simp [hpath]
    have htab : ∀ c ∈ Cfg.tab, Cfg.IsMargin c := by simp [Cfg.tab, Cfg.IsMargin]
    have hempty : Cfg.Cut ['\n'] [⟨[], .newline⟩] := Cfg.Cut.line (x := []) rfl
    -- the comment, the nodes and the empty line behind them, and then the other files
    have hreads := Cfg.Reads.lineEnd (Cfg.Cut.comment hcomment)
      (.write htab hfile (.lineEnd hempty (ih hpaths hnodes)))
    simpa [fileText] using hreads

theorem mem_filled {f : Text × List Node} (h : f ∈ cat.filled) :
    f.1 ∈ cat.files ∧ ∀ node ∈ f.2, node ∈ cat.nodes := by
  obtain ⟨p, hp, rfl⟩ := List.mem_map.1 (List.mem_filter.1 h).1
  refine ⟨List.fst_mem_of_mem_zipIdx hp, fun node hnode => ?_⟩
  obtain ⟨e, he, rfl⟩ := List.mem_map.1 hnode
  exact List.mem_map_of_mem (List.mem_filter.1 he).1

theorem merged_eq (cat : Catalog) :
    cat.merged = cat.outputs.flatMap fun output =>
      "// ".toList ++ output.1 ++ '\n' :: output.2 ++ ['\n'] := by
  rw [merged, outputs, List.flatMap_map]
  rfl

/-- The merged text is read as the entries file by file if these can be expressed, and only
then. -/
theorem parse_merged_iff (h : cat.HasFiles) (hpaths : ∀ path ∈ cat.files, '\n' ∉ path) :
    Cfg.parse cat.merged = .ok ⟨[], none, [], cat.filed.map (·.2.node)⟩ ↔
      ∀ node ∈ cat.nodes, node.Everywhere Node.IsExpressible := by
  constructor
  · intro hparse node hnode
    have hfiled : node ∈ cat.filed.map (·.2.node) := ((filed_perm h).map _).mem_iff.2 hnode
    exact (Cfg.isExpressible_of_parse hparse).2 node hfiled
  · intro hnodes
    have hreads : Cfg.Reads cat.merged [] (cat.filled.flatMap (·.2)) :=
      reads_files (fun f hf => hpaths _ (mem_filled hf).1) fun f hf node hnode =>
        hnodes node ((mem_filled hf).2 node hnode)
    rw [flatMap_filled] at hreads
    exact hreads.parse

/-- The merged output holds every entry once and agrees with the files that are written. -/
structure Merges (cat : Catalog) : Prop where
  /-- File by file and in order, every entry is listed once. -/
  listed : cat.filed.Perm cat.entries
  distinct : (cat.filed.map Prod.fst).Nodup
  /-- What is written are the nodes of these entries, in this order. -/
  contents : cat.filled.flatMap (·.2) = cat.filed.map (·.2.node)
  /-- The merged text is put together from what is written. -/
  merged : cat.merged = cat.outputs.flatMap fun output =>
    "// ".toList ++ output.1 ++ '\n' :: output.2 ++ ['\n']
  /-- Exactly that is written, in this order: all of it, or what stands in front of the first text
  that cannot be written. -/
  written : ∀ outDir disk, ∃ past rest mid, cat.outputs = past ++ rest ∧
    Written outDir past disk mid ∧
    (rest = [] ∧ writeFiles outDir cat.filled 0 disk = (.ok past.length, mid) ∨
      rest ≠ [] ∧
        (∀ output ∈ rest.head?, ∀ next, ¬WritesFile outDir output.1 output.2 mid next) ∧
        ∃ e left, writeFiles outDir cat.filled 0 disk = (.error e, left) ∧ left.files = mid.files)
  /-- The merged text is read as these nodes if and only if all of them can be expressed. -/
  reads_iff : (∀ path ∈ cat.files, '\n' ∉ path) →
    (Cfg.parse cat.merged = .ok ⟨[], none, [], cat.filed.map (·.2.node)⟩ ↔
      ∀ node ∈ cat.nodes, node.Everywhere Node.IsExpressible)
  /-- From the merged text safe entries are read back as they are. -/
  reads : (∀ node ∈ cat.nodes, node.Everywhere Node.IsSafe) → (∀ path ∈ cat.files, '\n' ∉ path) →
    Cfg.parse cat.merged = .ok ⟨[], none, [], cat.filed.map (·.2.node)⟩

/-- A catalog in which every entry has a registered file is merged without loss, and so is what
comes of it by loading and patching. -/
theorem merges_of_hasFiles (h : cat.HasFiles) :
    cat.Merges ∧
    (∀ path source loaded next, cat.load path source = .ok (loaded, next) → next.HasFiles) ∧
    ∀ l o mods j last j', patch l o mods cat j = .ok (last, j') → last.HasFiles := by
  refine ⟨?_, fun _ _ _ _ hload => h.load hload, fun _ _ _ _ _ _ hrun => h.patch hrun⟩
  have hperm := filed_perm h
  refine ⟨hperm, ?_, cat.flatMap_filled, cat.merged_eq, ?_, parse_merged_iff h, ?_⟩
  · exact (hperm.map Prod.fst).nodup_iff.2 cat.ids_nodup
  · intro outDir disk
    obtain ⟨past, rest, mid, hfiles, hpast, hend⟩ := writeFiles_cases outDir cat.filled 0 disk
    rw [Nat.zero_add] at hend
    exact ⟨past, rest, mid, hfiles, hpast, hend⟩
  · intro hsafe hpaths
    refine (parse_merged_iff h hpaths).2 fun node hnode => ?_
    exact (hsafe node hnode).mono fun _ hsafe => hsafe.isExpressible

end Catalog

/-- Two files whose entries alternate, and one without entries in between. -/
def alternating : Catalog :=
  .ofEntries ["b.cfg".toList, "empty.cfg".toList, "a.cfg".toList] [
    ⟨2, .ofName ['x']⟩, ⟨0, .ofName ['y']⟩, ⟨2, .ofName ['z']⟩]

/-- The entries are grouped by file, and the comments and empty lines are not seen. On an empty disk
both files with entries are written. -/
theorem merges_of_hasFiles_alternating :
    alternating.HasFiles ∧ alternating.Merges ∧
    Cfg.parse alternating.merged =
      .ok ⟨[], none, [], [.ofName ['y'], .ofName ['x'], .ofName ['z']]⟩ ∧
    ∃ last, writeFiles "/out".toList alternating.filled 0 ⟨[], []⟩ = (.ok 2, last) ∧
      Written "/out".toList alternating.outputs ⟨[], []⟩ last ∧
      last.files = [([['/'], "out".toList, "b.cfg".toList], "y\n\x7b\n\x7d\n".toUTF8),
        ([['/'], "out".toList, "a.cfg".toList], "x\n\x7b\n\x7d\nz\n\x7b\n\x7d\n".toUTF8)] := by
  have hfiles : ∀ p ∈ alternating.entries, p.2.file < alternating.files.length := by
    decide +kernel
  have hall : alternating.HasFiles := fun id entry hget =>
    hfiles (id, entry) (Catalog.mem_entries.2 hget)
  have hletters : ∀ c ∈ ['x', 'y', 'z'], Cfg.IsSafeName [c] := by
    refine List.forall_mem_cons.2 ⟨?_, List.forall_mem_cons.2 ⟨?_, List.forall_mem_singleton.2 ?_⟩⟩ <;>
      exact ⟨⟨by simp, by decide, by simp [isBlank], by simp [Cfg.isGap, Cfg.byteOrderMark],
        by simp [Cfg.isGap, Cfg.byteOrderMark]⟩, by simp, by simp⟩
  have hname : ∀ c ∈ ['x', 'y', 'z'], (Node.ofName [c]).Everywhere Node.IsSafe := fun c hc =>
    .intro ⟨rfl, hletters c hc, fun _ h => absurd h List.not_mem_nil⟩
      fun _ h => absurd h List.not_mem_nil
  have hnodes : alternating.nodes = [.ofName ['x'], .ofName ['y'], .ofName ['z']] := by
    decide +kernel
  have hmerges := (Catalog.merges_of_hasFiles hall).1
  have hsafe : ∀ node ∈ alternating.nodes, node.Everywhere Node.IsSafe := by
    rw [hnodes]
    exact List.forall_mem_cons.2 ⟨hname _ (by simp), List.forall_mem_cons.2
      ⟨hname _ (by simp), List.forall_mem_singleton.2 (hname _ (by simp))⟩⟩
  have hparse := hmerges.reads hsafe (by decide +kernel)
  have hfiled : alternating.filed.map (·.2.node) =
      [.ofName ['y'], .ofName ['x'], .ofName ['z']] := by decide +kernel
  rw [hfiled] at hparse
  refine ⟨hall, hmerges, hparse, ?_⟩
  have hcount : (writeFiles "/out".toList alternating.filled 0 ⟨[], []⟩).1.toOption = some 2 := by
    decide +kernel
  have hlast : (writeFiles "/out".toList alternating.filled 0 ⟨[], []⟩).2.files =
      [([['/'], "out".toList, "b.cfg".toList], "y\n\x7b\n\x7d\n".toUTF8),
        ([['/'], "out".toList, "a.cfg".toList], "x\n\x7b\n\x7d\nz\n\x7b\n\x7d\n".toUTF8)] := by
    decide +kernel
  obtain ⟨past, rest, mid, houtputs, hpast, ⟨rfl, hrun⟩ | ⟨_, _, e, left, hrun, _⟩⟩ :=
    hmerges.written "/out".toList ⟨[], []⟩
  · rw [hrun] at hcount hlast
    rw [List.append_nil] at houtputs
    obtain hcount := Option.some.inj hcount
    rw [houtputs]
    exact ⟨mid, hcount ▸ hrun, hpast, hlast⟩
  · rw [hrun] at hcount
    exact absurd hcount.symm (Option.some_ne_none 2)

end CfgPatch
