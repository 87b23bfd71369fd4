import CfgPatch.Agenda
import Mathlib.Data.List.Basic

/-!
# The agenda is a stable priority queue

Directives leave the agenda pass by pass. Here passes are given ranks, so that the order of
the passes is the order of their ranks, and the directives in the order in which they leave
are shown to be the stable sort by rank of the directives in the order of arrival
(`contents_eq_mergeSort`). All that is needed of the known mods is that no two of them differ
in case alone, which `distinct` makes sure of.
-/

namespace CfgPatch

open Text

/-! ## Equality up to case -/

namespace Text

theorem sameLetters_refl (t : Text) : sameLetters t t := sameLetters_iff.2 rfl

theorem sameLetters_symm {s t : Text} (h : sameLetters s t) : sameLetters t s :=
  sameLetters_iff.2 (sameLetters_iff.1 h).symm

theorem sameLetters_trans {s t u : Text} (h : sameLetters s t) (h' : sameLetters t u) :
    sameLetters s u :=
  sameLetters_iff.2 ((sameLetters_iff.1 h).trans (sameLetters_iff.1 h'))

/-- Texts that are equal up to case are equal up to case to the same texts. -/
theorem sameLetters_congr {s t : Text} (h : sameLetters s t) (u : Text) :
    sameLetters u s = sameLetters u t := by
  rw [Bool.eq_iff_iff]
  exact ⟨fun hs => sameLetters_trans hs h, fun ht => sameLetters_trans ht (sameLetters_symm h)⟩

end Text

/-! ## Grouping by rank is stable sorting -/

section Grouping

variable {α κ : Type}

/-- Two ways to cut a list into a part that satisfies a test and a part that does not are the
same. -/
theorem append_inj_of_test {p : α → Bool} {a b c d : List α} (h : a ++ b = c ++ d)
    (ha : ∀ x ∈ a, p x) (hb : ∀ x ∈ b, ¬p x) (hc : ∀ x ∈ c, p x) (hd : ∀ x ∈ d, ¬p x) :
    a = c ∧ b = d := by
  have hleft : a = c := by
    have := congrArg (List.filter p) h
    rwa [List.filter_append, List.filter_append, List.filter_eq_self.2 ha,
      List.filter_eq_self.2 hc, List.filter_eq_nil_iff.2 hb, List.filter_eq_nil_iff.2 hd,
      List.append_nil, List.append_nil] at this
  subst hleft
  exact ⟨rfl, List.append_cancel_left h⟩

/-- Keys that have nothing under them add nothing. -/
theorem flatMap_filter_nonempty (groups : List (κ × List α)) :
    (groups.filter fun g => !g.2.isEmpty).flatMap (·.2) = groups.flatMap (·.2) := by
  induction groups with
  | nil => rfl
  | cons g groups ih =>
    by_cases hg : g.2 = []
    · rw [List.filter_cons_of_neg (by simp [hg]), List.flatMap_cons, hg, ih]
      rfl
    · rw [List.filter_cons_of_pos (by simpa using hg), List.flatMap_cons, List.flatMap_cons, ih]

variable [DecidableEq κ]

/-- The members of a list, key by key. -/
def groups (key : α → κ) (keys : List κ) (xs : List α) : List α :=
  keys.flatMap fun k => xs.filter (key · = k)

theorem key_mem_of_mem_groups {key : α → κ} {keys : List κ} {xs : List α} {x : α}
    (h : x ∈ groups key keys xs) : key x ∈ keys := by
  obtain ⟨k, hk, hx⟩ := List.mem_flatMap.1 h
  have hkey : key x = k := by simpa using (List.mem_filter.1 hx).2
  exact hkey ▸ hk

theorem groups_append (key : α → κ) (ks ks' : List κ) (xs : List α) :
    groups key (ks ++ ks') xs = groups key ks xs ++ groups key ks' xs :=
  List.flatMap_append

theorem groups_cons (key : α → κ) (k : κ) (ks : List κ) (xs : List α) :
    groups key (k :: ks) xs = xs.filter (key · = k) ++ groups key ks xs :=
  List.flatMap_cons

/-- A member whose key is not among the keys is in none of the groups. -/
theorem groups_cons_of_not_mem {key : α → κ} {keys : List κ} {x : α} (h : key x ∉ keys)
    (xs : List α) : groups key keys (x :: xs) = groups key keys xs := by
  refine List.flatMap_congr fun k hk => ?_
  have hne : key x ≠ k := by
    rintro rfl
    exact h hk
  rw [List.filter_cons_of_neg (by simpa using hne)]

/-- Taking the members of a list key by key, with the keys in the order of their ranks, sorts
the list by rank and keeps the order of members with the same key. -/
theorem groups_eq_mergeSort (key : α → κ) (rank : κ → Nat) {keys : List κ}
    (hkeys : keys.Pairwise fun k k' => rank k < rank k') {xs : List α}
    (hxs : ∀ x ∈ xs, key x ∈ keys) :
    groups key keys xs = xs.mergeSort fun x y => rank (key x) ≤ rank (key y) := by
  induction xs with
  | nil => simp [groups]
  | cons x xs ih =>
    have htrans : ∀ a b c : α, decide (rank (key a) ≤ rank (key b)) →
        decide (rank (key b) ≤ rank (key c)) → decide (rank (key a) ≤ rank (key c)) := by
      simp only [decide_eq_true_eq]
      omega
    have htotal : ∀ a b : α,
        decide (rank (key a) ≤ rank (key b)) || decide (rank (key b) ≤ rank (key a)) := by
      intro a b
      simp only [Bool.or_eq_true, decide_eq_true_eq]
      omega
    obtain ⟨l₁, l₂, hcons, htail, hbefore⟩ := List.mergeSort_cons htrans htotal x xs
    have hsorted := List.pairwise_mergeSort htrans htotal (x :: xs)
    rw [hcons, List.pairwise_append, List.pairwise_cons] at hsorted
    -- `x` stands in front of the group of its key and, in the sorted list, behind all of lower
    -- rank; what comes before it and behind it is told apart by rank
    obtain ⟨ks₁, ks₂, rfl⟩ := List.append_of_mem (hxs x (List.mem_cons_self ..))
    rw [List.pairwise_append, List.pairwise_cons] at hkeys
    obtain ⟨_, ⟨hafter, _⟩, hcross⟩ := hkeys
    have hlow : ∀ k ∈ ks₁, rank k < rank (key x) := fun k hk =>
      hcross k hk _ (List.mem_cons_self ..)
    have hnot₁ : key x ∉ ks₁ := fun h => Nat.lt_irrefl _ (hlow _ h)
    have hnot₂ : key x ∉ ks₂ := fun h => Nat.lt_irrefl _ (hafter _ h)
    have hih := ih fun y hy => hxs y (List.mem_cons_of_mem _ hy)
    rw [groups_append, groups_cons, htail] at hih
    have hcut := append_inj_of_test (p := fun y => rank (key y) < rank (key x)) hih
      (fun y hy => by simpa using hlow _ (key_mem_of_mem_groups hy))
      (fun y hy => by
        rcases List.mem_append.1 hy with hy | hy
        · have hyk : key y = key x := by simpa using (List.mem_filter.1 hy).2
          simp [hyk]
        · simpa using Nat.le_of_lt (hafter _ (key_mem_of_mem_groups hy)))
      (fun y hy => by simpa using hbefore y hy)
      (fun y hy => by simpa using hsorted.2.1.1 y hy)
    rw [hcons, groups_append, groups_cons, groups_cons_of_not_mem hnot₁,
      groups_cons_of_not_mem hnot₂, List.filter_cons_of_pos (by simp), hcut.1, ← hcut.2,
      List.cons_append]

end Grouping

namespace Agenda

/-! ## Known mods -/

theorem mem_of_mem_distinct {mods : List Text} {m : Text} (h : m ∈ distinct mods) :
    m ∈ mods := by
  induction mods with
  | nil => exact h
  | cons name names ih =>
    rw [distinct, List.mem_cons, List.mem_filter] at h
    rcases h with rfl | ⟨hm, _⟩
    · exact List.mem_cons_self ..
    · exact List.mem_cons_of_mem _ (ih hm)

/-- Every name is kept in some spelling. -/
theorem exists_mem_distinct {mods : List Text} {m : Text} (h : m ∈ mods) :
    ∃ k ∈ distinct mods, sameLetters k m := by
  induction mods with
  | nil => exact absurd h (by simp)
  | cons name names ih =>
    rw [distinct]
    rcases List.mem_cons.1 h with rfl | hm
    · exact ⟨m, List.mem_cons_self .., sameLetters_refl m⟩
    · obtain ⟨k, hk, hkm⟩ := ih hm
      by_cases hname : sameLetters name k
      · exact ⟨name, List.mem_cons_self .., sameLetters_trans hname hkm⟩
      · refine ⟨k, List.mem_cons_of_mem _ (List.mem_filter.2 ⟨hk, ?_⟩), hkm⟩
        simpa using hname

theorem distinct_pairwise (mods : List Text) :
    (distinct mods).Pairwise fun m n => ¬sameLetters m n := by
  induction mods with
  | nil => exact List.Pairwise.nil
  | cons name names ih =>
    rw [distinct, List.pairwise_cons]
    refine ⟨fun n hn => ?_, ih.filter _⟩
    simpa using (List.mem_filter.1 hn).2

theorem distinct_nodup (mods : List Text) : (distinct mods).Nodup := by
  refine (distinct_pairwise mods).imp fun {m n} h heq => h ?_
  rw [heq]
  exact sameLetters_refl n

/-- A mod is unknown if none of the given names is its name in letters of either case. -/
theorem knownMod?_ofMods_eq_none {mods : List Text} {name : Text} :
    (ofMods mods).knownMod? name = none ↔ ∀ m ∈ mods, ¬sameLetters m name := by
  rw [knownMod?, ofMods, List.find?_eq_none]
  constructor
  · intro h m hm hsame
    obtain ⟨k, hk, hkm⟩ := exists_mem_distinct hm
    exact h k hk (sameLetters_trans hkm hsame)
  · exact fun h k hk => h k (mem_of_mem_distinct hk)

/-- The known spelling of a mod is the known spelling of itself. -/
theorem knownMod?_of_knownMod? {a : Agenda} {name m : Text} (h : a.knownMod? name = some m) :
    a.knownMod? m = some m := by
  have hsame : sameLetters m name := List.find?_some (p := (sameLetters · name)) h
  have hpred : (fun k => sameLetters k m) = fun k => sameLetters k name :=
    funext (sameLetters_congr hsame)
  rw [knownMod?] at h ⊢
  rw [hpred]
  exact h

theorem canonical?_of_canonical? {a : Agenda} {p q : Pass} (h : a.canonical? p = some q) :
    a.canonical? q = some q := by
  cases p with
  | mod phase name =>
    obtain ⟨m, hm, rfl⟩ := Option.map_eq_some_iff.1 h
    rw [canonical?, knownMod?_of_knownMod? hm]
    rfl
  | _ =>
    obtain rfl := Option.some.inj h
    rfl

/-- The spelling of a pass depends on the known mods alone. -/
theorem canonical?_congr {a b : Agenda} (h : a.mods = b.mods) : a.canonical? = b.canonical? := by
  funext p
  cases p <;> simp only [canonical?, knownMod?, h]

theorem mem_passes_of_canonical? {a : Agenda} {p q : Pass} (h : a.canonical? p = some q) :
    q ∈ a.passes := by
  cases p with
  | mod phase name =>
    obtain ⟨m, hm, rfl⟩ := Option.map_eq_some_iff.1 h
    have hmem : m ∈ a.mods := List.mem_of_find?_eq_some hm
    cases phase <;> simp [passes, Phase.inTurn, hmem]
  | _ =>
    obtain rfl := Option.some.inj h
    simp [passes]

/-! ## Ranks -/

/-- The place of a pass in the order of application: the first pass, the directives without a
pass, three passes for each mod, one more for each mod, and the final pass. -/
def rank (mods : List Text) : Pass → Nat
  | .first => 0
  | .legacy => 1
  | .mod .before name => 2 + 3 * mods.idxOf name
  | .mod .during name => 3 + 3 * mods.idxOf name
  | .mod .after name => 4 + 3 * mods.idxOf name
  | .mod .last name => 2 + 3 * mods.length + mods.idxOf name
  | .final => 2 + 4 * mods.length

theorem map_idxOf_of_nodup {mods : List Text} (h : mods.Nodup) :
    (mods.map fun m => mods.idxOf m) = List.range mods.length := by
  apply List.ext_getElem (by simp)
  intro i h₁ h₂
  rw [List.getElem_map, List.getElem_range]
  exact h.idxOf_getElem i (by simpa using h₁)

theorem flatMap_range_three (n : Nat) :
    (List.range n).flatMap (fun i => [2 + 3 * i, 3 + 3 * i, 4 + 3 * i]) =
      List.range' 2 (3 * n) := by
  induction n with
  | zero => rfl
  | succ n ih =>
    have hlast : [2 + 3 * n, 3 + 3 * n, 4 + 3 * n] = List.range' (2 + 3 * n) 3 := by
      simp [List.range'_succ]
      omega
    rw [List.range_succ, List.flatMap_append, ih, List.flatMap_singleton, hlast,
      Nat.mul_succ, ← List.range'_append_1]

/-- The passes in order have the ranks 0, 1, 2 and so on. -/
theorem map_rank_passes {a : Agenda} (h : a.mods.Nodup) :
    a.passes.map (rank a.mods) = List.range (3 + 4 * a.mods.length) := by
  have hturn : (a.mods.flatMap fun m => Phase.inTurn.map (Pass.mod · m)).map (rank a.mods) =
      List.range' 2 (3 * a.mods.length) := by
    rw [List.map_flatMap, ← flatMap_range_three, ← map_idxOf_of_nodup h, List.flatMap_map]
    rfl
  have hlast : (a.mods.map (Pass.mod .last)).map (rank a.mods) =
      List.range' (2 + 3 * a.mods.length) a.mods.length := by
    rw [List.range'_eq_map_range, ← map_idxOf_of_nodup h, List.map_map, List.map_map]
    rfl
  have hend : 2 + 4 * a.mods.length = 2 + 3 * a.mods.length + a.mods.length := by omega
  have hjoin : ∀ m n, List.range' 0 m ++ List.range' m n = List.range' 0 (m + n) := by
    intro m n
    rw [← List.range'_append_1, Nat.zero_add]
  calc a.passes.map (rank a.mods)
      = List.range' 0 2 ++ List.range' 2 (3 * a.mods.length) ++
          List.range' (2 + 3 * a.mods.length) a.mods.length ++
          List.range' (2 + 3 * a.mods.length + a.mods.length) 1 := by
        rw [passes, List.map_append, List.map_append, List.map_append, hturn, hlast, ← hend]
        rfl
    _ = List.range' 0 (2 + 4 * a.mods.length + 1) := by rw [hjoin, hjoin, hjoin, hend]
    _ = List.range (3 + 4 * a.mods.length) := by
        rw [List.range_eq_range']
        congr 1
        omega

theorem passes_pairwise_rank {a : Agenda} (h : a.mods.Nodup) :
    a.passes.Pairwise fun p q => rank a.mods p < rank a.mods q := by
  rw [← List.pairwise_map (R := (· < ·)), map_rank_passes h]
  exact List.pairwise_lt_range

/-! ## What the agenda holds -/

/-- The directives of all passes, each with its pass, in the order of application. -/
def contents (a : Agenda) : List (Pass × Directive) :=
  a.buckets.flatMap fun b => b.2.map (b.1, ·)

/-- The place of a directive that was an entry among the passes. -/
def placesOf (a : Agenda) (id : EntryId) : List (Pass × Directive) :=
  a.contents.filter fun p => p.2.source = some id

/-- Every directive that waits does so for a pass that will come. -/
def Sound (a : Agenda) : Prop := a.mods.Nodup ∧ ∀ p ∈ a.queue, p.1 ∈ a.passes

theorem contents_eq (a : Agenda) : a.contents = groups Prod.fst a.passes a.queue := by
  rw [contents, buckets, List.flatMap_map]
  refine List.flatMap_congr fun pass _ => ?_
  rw [bucket, List.map_map]
  refine (List.map_congr_left fun p hp => ?_).trans (List.map_id _)
  have hpass : p.1 = pass := by simpa using (List.mem_filter.1 hp).2
  simp [← hpass]

/-- The agenda is a stable priority queue. -/
theorem contents_eq_mergeSort {a : Agenda} (h : a.Sound) :
    a.contents = a.queue.mergeSort fun p q => rank a.mods p.1 ≤ rank a.mods q.1 := by
  rw [contents_eq]
  exact groups_eq_mergeSort Prod.fst (rank a.mods) (passes_pairwise_rank h.1) h.2

theorem contents_perm {a : Agenda} (h : a.Sound) : a.contents.Perm a.queue := by
  rw [contents_eq_mergeSort h]
  exact List.mergeSort_perm ..

/-- The directives in the order in which the passes are gone through. -/
theorem flatMap_buckets (a : Agenda) : a.buckets.flatMap (·.2) = a.contents.map (·.2) := by
  rw [contents, List.map_flatMap]
  refine List.flatMap_congr fun b _ => ?_
  rw [List.map_map]
  exact (List.map_id _).symm

/-- Going through the mods once and putting their last passes off is going through them twice. -/
theorem sweep_eq (a : Agenda) (names : List Text) :
    a.sweep names =
      ((names.flatMap fun name => Phase.inTurn.map (Pass.mod · name)).map fun pass =>
          (pass, a.bucket pass),
        (names.map (Pass.mod .last)).map fun pass => (pass, a.bucket pass)) := by
  induction names with
  | nil => rfl
  | cons name names ih =>
    rw [sweep, ih, List.flatMap_cons, List.map_append]
    rfl

/-- The agenda is worked off in the order in which the passes are listed. -/
theorem drain_eq_buckets (a : Agenda) : a.drain = a.buckets := by
  rw [drain, sweep_eq, buckets, passes, List.map_append, List.map_append, List.map_append]
  rfl

theorem filled_eq (a : Agenda) : a.filled = a.buckets.filter fun b => !b.2.isEmpty := by
  rw [filled, drain_eq_buckets]

/-- Passes without directives add nothing. -/
theorem flatMap_filled (a : Agenda) : a.filled.flatMap (·.2) = a.contents.map (·.2) := by
  rw [filled_eq, flatMap_filter_nonempty, flatMap_buckets]

theorem length_flatMap_buckets {a : Agenda} (h : a.Sound) :
    (a.buckets.flatMap (·.2)).length = a.size := by
  rw [flatMap_buckets, List.length_map, (contents_perm h).length_eq, size]

end Agenda

end CfgPatch
