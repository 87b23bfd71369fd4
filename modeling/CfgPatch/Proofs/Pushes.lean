import CfgPatch.Proofs.Agenda
import Mathlib.Algebra.GroupWithZero.Nat
import Mathlib.Data.List.Nodup

/-!
# Pushing directives to the agenda

A push puts a directive at the end of the bucket of its pass and leaves the other buckets as they
are, or it is handed back because its mod is unknown. Passes are told apart without regard to the
case of mod names (`Pass.lower`), and so they have their ranks (`Agenda.turn`). However many pushes
there were and in whatever order, what the agenda then holds is the stable sort by rank of those
that were not handed back (`Agenda.isQueueOf_pushAll`).
-/

namespace CfgPatch

open Text

/-! ## Passes up to case -/

/-- The text with its ASCII letters small. -/
def Text.lower (t : Text) : Text := t.map Char.toLower

theorem Text.sameLetters_iff_lower {s t : Text} : sameLetters s t ↔ s.lower = t.lower :=
  sameLetters_iff

/-- A pass with the name of its mod in small letters. -/
def Pass.lower : Pass → Pass
  | .mod phase name => .mod phase name.lower
  | pass => pass

/-- Whether a pass is there when some mods are known: any is but those of other mods. -/
def Pass.isKnown (mods : List Text) : Pass → Bool
  | .mod _ name => mods.any (sameLetters · name)
  | _ => true

theorem Pass.isKnown_eq_false_iff {mods : List Text} {p : Pass} :
    p.isKnown mods = false ↔
      ∃ phase name, p = .mod phase name ∧ ∀ m ∈ mods, ¬sameLetters m name := by
  cases p <;> simp [isKnown]

namespace Agenda

variable {a b : Agenda} {mods : List Text} {p q : Pass} {d : Directive}
  {ps : List (Pass × Directive)}

/-- The rank of a pass, the name of its mod in letters of either case. -/
def turn (mods : List Text) (p : Pass) : Nat := rank (mods.map lower) p.lower

/-- The mods of an agenda stay apart when they are written in small letters. -/
def ModsApart (a : Agenda) : Prop := (a.mods.map lower).Nodup

theorem modsApart_of_pairwise (h : a.mods.Pairwise fun m n => ¬sameLetters m n) :
    a.ModsApart :=
  List.Pairwise.map (R := fun m n => ¬sameLetters m n) _
    (fun _ _ hmn heq => hmn (sameLetters_iff_lower.2 heq)) h

theorem modsApart_ofMods (mods : List Text) : (ofMods mods).ModsApart :=
  modsApart_of_pairwise (distinct_pairwise mods)

/-! ## Known mods in the order of their first occurrence -/

/-- The known spelling of a mod is the first that was given. -/
theorem mem_distinct_iff {m : Text} :
    m ∈ distinct mods ↔ mods.find? (sameLetters m) = some m := by
  induction mods with
  | nil => simp [distinct]
  | cons name names ih =>
    rw [distinct, List.mem_cons, List.mem_filter, ih]
    by_cases hsame : sameLetters m name
    · have hback : sameLetters name m := sameLetters_symm hsame
      rw [List.find?_cons_of_pos hsame]
      simp [hback, eq_comm]
    · have hback : ¬sameLetters name m := fun h => hsame (sameLetters_symm h)
      have hne : m ≠ name := by
        rintro rfl
        exact hsame (sameLetters_refl m)
      rw [List.find?_cons_of_neg hsame]
      simp [hback, hne]

theorem distinct_pairwise_idxOf (mods : List Text) :
    (distinct mods).Pairwise fun m n => mods.idxOf m < mods.idxOf n := by
  induction mods with
  | nil => exact .nil
  | cons name names ih =>
    have hne : ∀ m ∈ (distinct names).filter (!sameLetters name ·), name ≠ m := by
      rintro m hm rfl
      simpa [sameLetters_refl] using (List.mem_filter.1 hm).2
    rw [distinct, List.pairwise_cons]
    constructor
    · intro m hm
      rw [List.idxOf_cons_self, List.idxOf_cons_ne _ (hne m hm)]
      exact Nat.succ_pos _
    · refine (ih.filter _).imp_of_mem fun {m n} hm hn hlt => ?_
      rw [List.idxOf_cons_ne _ (hne m hm), List.idxOf_cons_ne _ (hne n hn)]
      exact Nat.succ_lt_succ hlt

theorem isKnown_distinct (mods : List Text) (p : Pass) :
    p.isKnown (distinct mods) = p.isKnown mods := by
  cases p with
  | mod phase name =>
    rw [Bool.eq_iff_iff, Pass.isKnown, Pass.isKnown, List.any_eq_true, List.any_eq_true]
    constructor
    · rintro ⟨m, hm, hsame⟩
      exact ⟨m, mem_of_mem_distinct hm, hsame⟩
    · rintro ⟨m, hm, hsame⟩
      obtain ⟨k, hk, hkm⟩ := exists_mem_distinct hm
      exact ⟨k, hk, sameLetters_trans hkm hsame⟩
  | _ => rfl

/-! ## One push -/

theorem mem_passes_iff : q ∈ a.passes ↔ ∀ phase name, q = .mod phase name → name ∈ a.mods := by
  cases q with
  | mod phase name => cases phase <;> simp [passes, Phase.inTurn]
  | _ => simp [passes]

theorem knownMod?_eq_some_iff (h : a.ModsApart) {name m : Text} :
    a.knownMod? name = some m ↔ m ∈ a.mods ∧ sameLetters m name := by
  have hunique : ∀ k ∈ a.mods, ∀ m ∈ a.mods, sameLetters k m → k = m := by
    exact fun k hk m hm hsame => List.inj_on_of_nodup_map h hk hm (sameLetters_iff_lower.1 hsame)
  constructor
  · exact fun hfind =>
      ⟨List.mem_of_find?_eq_some hfind, List.find?_some (p := (sameLetters · name)) hfind⟩
  · rintro ⟨hm, hsame⟩
    obtain ⟨k, hk⟩ : ∃ k, a.knownMod? name = some k :=
      Option.isSome_iff_exists.1 (List.find?_isSome.2 ⟨m, hm, hsame⟩)
    have hkname : sameLetters k name := List.find?_some (p := (sameLetters · name)) hk
    rw [hk, hunique k (List.mem_of_find?_eq_some hk) m hm
      (sameLetters_trans hkname (sameLetters_symm hsame))]

/-- The known spelling of a pass is the pass of the agenda that it equals up to case. -/
theorem canonical?_eq_some_iff (h : a.ModsApart) :
    a.canonical? p = some q ↔ q ∈ a.passes ∧ q.lower = p.lower := by
  rw [mem_passes_iff]
  cases p with
  | mod phase name =>
    rw [canonical?, Option.map_eq_some_iff]
    constructor
    · rintro ⟨m, hm, rfl⟩
      obtain ⟨hmem, hsame⟩ := (knownMod?_eq_some_iff h).1 hm
      refine ⟨?_, by rw [Pass.lower, Pass.lower, sameLetters_iff_lower.1 hsame]⟩
      rintro _ _ ⟨rfl, rfl⟩
      exact hmem
    · rintro ⟨hmem, hlower⟩
      cases q with
      | mod phase' m =>
        obtain ⟨rfl, hsame⟩ := Pass.mod.inj hlower
        exact ⟨m, (knownMod?_eq_some_iff h).2 ⟨hmem _ _ rfl, sameLetters_iff_lower.2 hsame⟩, rfl⟩
      | _ => exact absurd hlower (by simp [Pass.lower])
  | _ => cases q <;> simp [canonical?, Pass.lower]

/-- A push is handed back if it is for a pass of an unknown mod. -/
theorem push?_eq_none_iff : a.push? p d = none ↔ p.isKnown a.mods = false := by
  cases p <;> simp [push?, canonical?, knownMod?, Pass.isKnown]

theorem mods_push? (h : a.push? p d = some b) : b.mods = a.mods := by
  obtain ⟨_, _, rfl⟩ := Option.map_eq_some_iff.1 h
  rfl

/-- A push adds to the bucket of its pass and to no other. -/
theorem bucket_push? (h : a.push? p d = some b) (q : Pass) :
    b.bucket q = a.bucket q ++ if a.canonical? p = some q then [d] else [] := by
  obtain ⟨known, hknown, rfl⟩ := Option.map_eq_some_iff.1 h
  rw [bucket, bucket, List.filter_append, List.map_append, hknown]
  by_cases hq : known = q <;> simp [hq]

theorem Sound.push? (hs : a.Sound) (h : a.push? p d = some b) : b.Sound := by
  obtain ⟨known, hknown, rfl⟩ := Option.map_eq_some_iff.1 h
  refine ⟨hs.1, fun x hx => ?_⟩
  rcases List.mem_append.1 hx with hx | hx
  · exact hs.2 x hx
  · obtain rfl := List.mem_singleton.1 hx
    exact mem_passes_of_canonical? hknown

/-! ## Many pushes -/

/-- The agenda after some pushes, one after another; one that is handed back changes nothing. -/
def pushAll (a : Agenda) (ps : List (Pass × Directive)) : Agenda :=
  ps.foldl (fun a p => (a.push? p.1 p.2).getD a) a

theorem pushAll_of_push?_eq_none (h : (a.pushAll ps).push? p d = none) :
    a.pushAll (ps ++ [(p, d)]) = a.pushAll ps := by
  rw [pushAll, List.foldl_append, List.foldl_cons, List.foldl_nil]
  exact congrArg (Option.getD · _) h

theorem pushAll_cons_of_some (h : a.push? p d = some b) (ps : List (Pass × Directive)) :
    a.pushAll ((p, d) :: ps) = b.pushAll ps := by
  rw [pushAll, List.foldl_cons, h]
  rfl

theorem pushAll_cons_of_none (h : a.push? p d = none) (ps : List (Pass × Directive)) :
    a.pushAll ((p, d) :: ps) = a.pushAll ps := by
  rw [pushAll, List.foldl_cons, h]
  rfl

/-- What every push keeps is kept by many. -/
theorem pushAll_keeps {motive : Agenda → Prop}
    (step : ∀ a p d b, motive a → a.push? p d = some b → motive b) (h : motive a)
    (ps : List (Pass × Directive)) : motive (a.pushAll ps) := by
  induction ps generalizing a with
  | nil => exact h
  | cons p ps ih =>
    cases hpush : a.push? p.1 p.2 with
    | none =>
      rw [pushAll_cons_of_none hpush]
      exact ih h
    | some b =>
      rw [pushAll_cons_of_some hpush]
      exact ih (step a p.1 p.2 b h hpush)

theorem mods_pushAll (a : Agenda) (ps : List (Pass × Directive)) :
    (a.pushAll ps).mods = a.mods :=
  pushAll_keeps (motive := fun b => b.mods = a.mods)
    (fun _ _ _ _ ih hpush => (mods_push? hpush).trans ih) rfl ps

theorem Sound.pushAll (hs : a.Sound) (ps : List (Pass × Directive)) : (a.pushAll ps).Sound :=
  pushAll_keeps (fun _ _ _ _ ih hpush => ih.push? hpush) hs ps

/-- The bucket of a pass has, behind what was in it, what was pushed to that pass. -/
theorem bucket_pushAll (h : a.ModsApart) (hq : q ∈ a.passes)
    (ps : List (Pass × Directive)) :
    (a.pushAll ps).bucket q =
      a.bucket q ++ (ps.filter fun p => p.1.lower = q.lower).map (·.2) := by
  induction ps generalizing a with
  | nil => simp [pushAll]
  | cons p ps ih =>
    have hcanonical : a.canonical? p.1 = some q ↔ p.1.lower = q.lower := by
      rw [canonical?_eq_some_iff h, and_iff_right hq, eq_comm]
    cases hpush : a.push? p.1 p.2 with
    | none =>
      have hother : ¬p.1.lower = q.lower := by
        rw [← hcanonical, Option.map_eq_none_iff.1 hpush]
        simp
      rw [pushAll_cons_of_none hpush, ih h hq, List.filter_cons_of_neg (by simpa using hother)]
    | some b =>
      have hmods := mods_push? hpush
      have hpasses : b.passes = a.passes := by rw [passes, passes, hmods]
      rw [pushAll_cons_of_some hpush, ih (by rwa [ModsApart, hmods]) (hpasses ▸ hq),
        bucket_push? hpush]
      by_cases hsame : p.1.lower = q.lower
      · rw [if_pos (hcanonical.2 hsame), List.filter_cons_of_pos (by simpa using hsame),
          List.map_cons, List.append_assoc, List.singleton_append]
      · rw [if_neg (mt hcanonical.1 hsame), List.filter_cons_of_neg (by simpa using hsame),
          List.append_nil]

/-! ## Sorting by rank -/

/-- With their mods in small letters, the passes of an agenda are those of the agenda that has its
mods in small letters. -/
theorem map_lower_passes (a : Agenda) :
    a.passes.map Pass.lower = (⟨a.mods.map lower, []⟩ : Agenda).passes := by
  simp [passes, Phase.inTurn, Pass.lower, List.map_flatMap, List.flatMap_map, Function.comp_def]

/-- Each pass of the agenda comes at its own turn. -/
theorem map_turn_passes (h : a.ModsApart) :
    a.passes.map (turn a.mods) = List.range (3 + 4 * a.mods.length) := by
  let lowered : Agenda := ⟨a.mods.map lower, []⟩
  have hranks : lowered.passes.map (rank lowered.mods) =
      List.range (3 + 4 * lowered.mods.length) := map_rank_passes h
  rw [← map_lower_passes, List.map_map, List.length_map] at hranks
  exact hranks

/-- A pass that is known is one of the agenda's up to case. -/
theorem lower_mem_passes (h : p.isKnown a.mods) : p.lower ∈ a.passes.map Pass.lower := by
  cases p with
  | mod phase name =>
    obtain ⟨m, hm, hsame⟩ := List.any_eq_true.1 h
    refine List.mem_map.2 ⟨.mod phase m, mem_passes_iff.2 ?_, ?_⟩
    · rintro _ _ ⟨rfl, rfl⟩
      exact hm
    · rw [Pass.lower, Pass.lower, sameLetters_iff_lower.1 hsame]
  | _ => exact List.mem_map.2 ⟨_, mem_passes_iff.2 (by simp), rfl⟩

theorem isKnown_of_lower_eq (hq : q ∈ a.passes) (h : p.lower = q.lower) : p.isKnown a.mods := by
  cases p with
  | mod phase name =>
    cases q with
    | mod phase' m =>
      refine List.any_eq_true.2 ⟨m, mem_passes_iff.1 hq _ _ rfl, ?_⟩
      exact sameLetters_iff_lower.2 (Pass.mod.inj h).2.symm
    | _ => exact absurd h (by simp [Pass.lower])
  | _ => rfl

/-- Going through the buckets goes through the pushes in the order of their ranks. -/
theorem flatMap_buckets_pushAll (h : a.ModsApart) (hempty : a.queue = [])
    (ps : List (Pass × Directive)) :
    (a.pushAll ps).buckets.flatMap (·.2) =
      ((ps.filter fun p => p.1.isKnown a.mods).mergeSort fun p q =>
        turn a.mods p.1 ≤ turn a.mods q.1).map (·.2) := by
  have hturns : (a.passes.map Pass.lower).Pairwise fun p q =>
      rank (a.mods.map lower) p < rank (a.mods.map lower) q := by
    rw [map_lower_passes]
    exact passes_pairwise_rank (a := ⟨a.mods.map lower, []⟩) h
  have hpasses : (a.pushAll ps).passes = a.passes := by rw [passes, passes, mods_pushAll]
  have hbucket : ∀ q ∈ a.passes, (a.pushAll ps).bucket q =
      ((ps.filter fun p => p.1.isKnown a.mods).filter fun p => p.1.lower = q.lower).map (·.2) := by
    intro q hq
    have hnone : a.bucket q = [] := by rw [bucket, hempty]; rfl
    rw [bucket_pushAll h hq, hnone, List.nil_append, List.filter_filter]
    congr 1
    refine List.filter_congr fun p _ => ?_
    by_cases hsame : p.1.lower = q.lower
    · simp [hsame, isKnown_of_lower_eq hq hsame]
    · simp [hsame]
  have hknown : ∀ p ∈ ps.filter fun p => p.1.isKnown a.mods,
      p.1.lower ∈ a.passes.map Pass.lower := fun p hp => lower_mem_passes (List.mem_filter.1 hp).2
  have hgroups := groups_eq_mergeSort (fun p : Pass × Directive => p.1.lower) _ hturns hknown
  rw [buckets, hpasses, List.flatMap_map, List.flatMap_congr hbucket]
  refine Eq.trans ?_ (congrArg (List.map Prod.snd) hgroups)
  rw [groups, List.flatMap_map, List.map_flatMap]

/-! ## The agenda as a queue -/

/-- The agenda is a stable priority queue that holds the pushes `ps`, where `mods` are known. -/
structure IsQueueOf (mods : List Text) (ps : List (Pass × Directive)) (a : Agenda) : Prop where
  /-- No two mods differ in case alone. -/
  mods_apart : a.mods.Pairwise fun m n => ¬sameLetters m n
  /-- A mod is spelled as it was the first time, and no mod is missing. -/
  mem_mods_iff : ∀ m, m ∈ a.mods ↔ mods.find? (sameLetters m) = some m
  /-- The mods are in the order of their first occurrence. -/
  mods_inOrder : a.mods.Pairwise fun m n => mods.idxOf m < mods.idxOf n
  /-- One more push is handed back if it is for a pass of a mod that is none of the known ones. -/
  push?_eq_none_iff : ∀ p d, a.push? p d = none ↔
    ∃ phase name, p = .mod phase name ∧ ∀ m ∈ mods, ¬sameLetters m name
  /-- A push that is handed back leaves the agenda as it is. -/
  unchanged : ∀ p d, a.push? p d = none → (ofMods mods).pushAll (ps ++ [(p, d)]) = a
  /-- The passes that are worked off are those of all ranks, in the order of their ranks. -/
  turns : a.drain.map (fun b => turn a.mods b.1) = List.range (3 + 4 * a.mods.length)
  /-- In the bucket of a pass is what was pushed to that pass, in the order of arrival. -/
  bucket : ∀ b ∈ a.drain, b.2 = (ps.filter fun p => p.1.lower = b.1.lower).map (·.2)
  /-- All buckets together are the pushes that were not handed back, sorted by rank. -/
  sorted : a.drain.flatMap (·.2) =
    ((ps.filter fun p => p.1.isKnown mods).mergeSort fun p q =>
      turn a.mods p.1 ≤ turn a.mods q.1).map (·.2)
  /-- The list of passes with their buckets is what is worked off. -/
  listed : a.buckets = a.drain
  /-- The size is the number of pushes that were not handed back, and of directives in buckets. -/
  size_eq : a.size = (ps.filter fun p => p.1.isKnown mods).length
  size_eq_sum : a.size = (a.buckets.map (·.2.length)).sum

/-- An agenda is a stable priority queue of whatever is pushed to it. -/
theorem isQueueOf_pushAll (mods : List Text) (ps : List (Pass × Directive)) :
    IsQueueOf mods ps ((ofMods mods).pushAll ps) := by
  have hapart := modsApart_ofMods mods
  have hmods : ((ofMods mods).pushAll ps).mods = distinct mods := mods_pushAll _ ps
  have hpasses : ((ofMods mods).pushAll ps).passes = (ofMods mods).passes := by
    rw [passes, passes, mods_pushAll]
  have hknown : ∀ p : Pass, p.isKnown (ofMods mods).mods = p.isKnown mods := isKnown_distinct mods
  have hsound : ((ofMods mods).pushAll ps).Sound :=
    Sound.pushAll ⟨distinct_nodup mods, by simp [ofMods]⟩ ps
  have hsorted := flatMap_buckets_pushAll hapart rfl ps
  simp only [hknown] at hsorted
  have hsize := length_flatMap_buckets hsound
  refine {
    mods_apart := hmods ▸ distinct_pairwise mods
    mem_mods_iff := fun m => hmods ▸ mem_distinct_iff
    mods_inOrder := hmods ▸ distinct_pairwise_idxOf mods
    push?_eq_none_iff := fun p d => ?_
    unchanged := fun p d => pushAll_of_push?_eq_none
    turns := ?_
    bucket := ?_
    sorted := ?_
    listed := (drain_eq_buckets _).symm
    size_eq := ?_
    size_eq_sum := ?_ }
  · rw [Agenda.push?_eq_none_iff, hmods, isKnown_distinct, Pass.isKnown_eq_false_iff]
  · rw [drain_eq_buckets, buckets, List.map_map, hmods, hpasses]
    exact map_turn_passes hapart
  · intro b hb
    rw [drain_eq_buckets, buckets, hpasses] at hb
    obtain ⟨q, hq, rfl⟩ := List.mem_map.1 hb
    exact bucket_pushAll hapart hq ps
  · rw [drain_eq_buckets, hmods]
    exact hsorted
  · rw [← hsize, hsorted, List.length_map, List.length_mergeSort]
  · rw [← hsize, List.length_flatMap]

end Agenda

end CfgPatch
