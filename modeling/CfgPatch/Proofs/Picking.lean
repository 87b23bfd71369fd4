import CfgPatch.Proofs.Outcomes

/-!
# Counting matches and working at positions

An index counts the matches in a list, while the edits work on the whole list, where the matches
stand at some positions with other members in between. What links the two is that the list comes
apart at the match with a given number (`exists_append_of_getElem?_positions`): as many matches
stand in front of it as its number says. So an edit at the position of a match is, for the matches
taken alone, an edit at its number, and the other members do not notice.
-/

namespace CfgPatch

variable {α : Type} {isMatch : α → Bool} {xs ys : List α} {x new : α} {i rank : Nat}

namespace Index

/-! ## The positions of matches -/

@[simp] theorem positions_nil : positions isMatch [] = [] := rfl

theorem positions_cons (isMatch : α → Bool) (x : α) (xs : List α) :
    positions isMatch (x :: xs) =
      if isMatch x then 0 :: (positions isMatch xs).map (· + 1)
      else (positions isMatch xs).map (· + 1) := by
  have hrest : ((xs.zipIdx 1).filter fun p => isMatch p.1).map (·.2) =
      (positions isMatch xs).map (· + 1) := by
    rw [positions, ← Nat.zero_add 1, List.zipIdx_succ, List.filter_map, List.map_map,
      List.map_map]
    rfl
  rw [positions, List.zipIdx_cons, List.filter_cons]
  split_ifs
  · rw [List.map_cons, hrest]
  · rw [hrest]

theorem length_positions (isMatch : α → Bool) (xs : List α) :
    (positions isMatch xs).length = (xs.filter isMatch).length := by
  induction xs with
  | nil => rfl
  | cons x xs ih =>
    rw [positions_cons, List.filter_cons]
    split_ifs <;> simp [ih]

theorem mem_positions : i ∈ positions isMatch xs ↔ ∃ x, xs[i]? = some x ∧ isMatch x := by
  simp only [positions, List.mem_map, List.mem_filter, Prod.exists, exists_eq_right,
    List.mem_zipIdx_iff_getElem?]

theorem positions_pairwise (isMatch : α → Bool) (xs : List α) :
    (positions isMatch xs).Pairwise (· < ·) := by
  have hsub : (positions isMatch xs).Sublist (xs.zipIdx.map (·.2)) := List.filter_sublist.map _
  refine List.Pairwise.sublist hsub ?_
  rw [List.zipIdx_map_snd]
  exact List.pairwise_lt_range'

theorem positions_nodup (isMatch : α → Bool) (xs : List α) : (positions isMatch xs).Nodup :=
  (positions_pairwise isMatch xs).imp Nat.ne_of_lt

/-- The positions of the matches are told by which members match. -/
theorem positions_congr (h : xs.map isMatch = ys.map isMatch) :
    positions isMatch xs = positions isMatch ys := by
  induction xs generalizing ys with
  | nil =>
    obtain rfl : ys = [] := List.map_eq_nil_iff.1 h.symm
    rfl
  | cons x xs ih =>
    obtain ⟨y, ys, rfl, hy, hys⟩ := List.map_eq_cons_iff.1 h.symm
    rw [positions_cons, positions_cons, ih hys.symm, hy]

/-- A list comes apart at the match with a given number. -/
theorem exists_append_of_getElem?_positions (h : (positions isMatch xs)[rank]? = some i) :
    ∃ as x bs, xs = as ++ x :: bs ∧ as.length = i ∧ isMatch x ∧
      (as.filter isMatch).length = rank := by
  induction xs generalizing i rank with
  | nil => simp at h
  | cons x xs ih =>
    -- a match with a number in the rest of the list has the next position in the whole
    have hnext : ∀ n, ((positions isMatch xs).map (· + 1))[n]? = some i →
        ∃ as y bs, xs = as ++ y :: bs ∧ (x :: as).length = i ∧ isMatch y ∧
          (as.filter isMatch).length = n := by
      intro n hn
      rw [List.getElem?_map] at hn
      obtain ⟨k, hk, rfl⟩ := Option.map_eq_some_iff.1 hn
      obtain ⟨as, y, bs, hxs, hlen, hy, hcount⟩ := ih hk
      exact ⟨as, y, bs, hxs, congrArg (· + 1) hlen, hy, hcount⟩
    rw [positions_cons] at h
    split_ifs at h with hx
    · cases rank with
      | zero =>
        obtain rfl : 0 = i := by simpa using h
        exact ⟨[], x, xs, rfl, rfl, hx, rfl⟩
      | succ n =>
        obtain ⟨as, y, bs, rfl, hlen, hy, hcount⟩ := hnext n (by simpa using h)
        refine ⟨x :: as, y, bs, rfl, hlen, hy, ?_⟩
        rw [List.filter_cons_of_pos hx, List.length_cons, hcount]
    · obtain ⟨as, y, bs, rfl, hlen, hy, hcount⟩ := hnext rank h
      refine ⟨x :: as, y, bs, rfl, hlen, hy, ?_⟩
      rw [List.filter_cons_of_neg hx, hcount]

/-- The match with a given number stands at its position. -/
theorem getElem?_filter_eq_bind (isMatch : α → Bool) (xs : List α) (rank : Nat) :
    (xs.filter isMatch)[rank]? = (positions isMatch xs)[rank]?.bind (xs[·]?) := by
  cases h : (positions isMatch xs)[rank]? with
  | none =>
    have hle := List.getElem?_eq_none_iff.1 h
    rw [length_positions] at hle
    rw [List.getElem?_eq_none hle, Option.bind_none]
  | some i =>
    obtain ⟨as, x, bs, rfl, rfl, hx, rfl⟩ := exists_append_of_getElem?_positions h
    rw [List.filter_append, List.filter_cons_of_pos hx]
    simp

/-! ## What an index picks -/

/-- Whether an index picks the match with the given number; without an index it is the first that
is picked. -/
def picks : Option Index → Nat → Bool
  | none, rank => rank = 0
  | some (.nth n), rank => rank = n
  | some .every, _ => true

/-- What is left of a list without the members that an index picks. -/
def without : Option Index → List α → List α
  | none, xs => xs.eraseIdx 0
  | some (.nth n), xs => xs.eraseIdx n
  | some .every, _ => []

theorem map_without {β : Type} (g : α → β) (index : Option Index) (xs : List α) :
    (without index xs).map g = without index (xs.map g) := by
  rcases index with _ | ⟨n⟩ | _ <;> simp [without, List.eraseIdx_map]

/-- Having no index is having the index of the first match. -/
theorem pick_none (found : List α) : pick none found = pick (some (.nth 0)) found := by
  cases found <;> rfl

theorem mem_pick_iff (index : Option Index) {found : List α} (hnodup : found.Nodup)
    (h : found[rank]? = some x) : x ∈ pick index found ↔ picks index rank := by
  have hlt : rank < found.length := (List.getElem?_eq_some_iff.1 h).1
  have hnth : ∀ n, x ∈ pick (some (.nth n)) found ↔ rank = n := by
    intro n
    rw [pick, Option.mem_toList]
    constructor
    · intro hn
      exact (List.getElem?_inj hlt hnodup).1 (h.trans hn.symm)
    · rintro rfl
      exact h
  rcases index with _ | ⟨n⟩ | _
  · rw [pick_none, hnth 0]
    simp [picks]
  · rw [hnth n]
    simp [picks]
  · simpa [pick, picks] using List.mem_of_getElem? h

end Index

open Index

/-! ## Working at the position of one match -/

theorem insertIdx_length_append (as bs : List α) (x : α) :
    (as ++ bs).insertIdx as.length x = as ++ x :: bs := by
  induction as with
  | nil => rfl
  | cons a as ih => simp [ih]

theorem eraseIdx_length_append (as bs : List α) (x : α) :
    (as ++ x :: bs).eraseIdx as.length = as ++ bs := by
  induction as with
  | nil => rfl
  | cons a as ih => simp [ih]

section Single

variable (h : (positions isMatch xs)[rank]? = some i)

include h

/-- To insert in front of a match is to insert at its number among the matches. -/
theorem filter_insertIdx (hnew : isMatch new) :
    (xs.insertIdx i new).filter isMatch = (xs.filter isMatch).insertIdx rank new ∧
    (xs.insertIdx i new).filter (!isMatch ·) = xs.filter (!isMatch ·) := by
  obtain ⟨as, x, bs, rfl, rfl, hx, rfl⟩ := exists_append_of_getElem?_positions h
  simp [insertIdx_length_append, List.filter_append, hx, hnew]

/-- To replace a match is to do so at its number among the matches. -/
theorem filter_set (hnew : isMatch new) :
    (xs.set i new).filter isMatch = (xs.filter isMatch).set rank new ∧
    (xs.set i new).filter (!isMatch ·) = xs.filter (!isMatch ·) := by
  obtain ⟨as, x, bs, rfl, rfl, hx, rfl⟩ := exists_append_of_getElem?_positions h
  simp [List.filter_append, hx, hnew]

/-- To leave out a match is to do so at its number among the matches. -/
theorem filter_eraseIdx :
    (xs.eraseIdx i).filter isMatch = (xs.filter isMatch).eraseIdx rank ∧
    (xs.eraseIdx i).filter (!isMatch ·) = xs.filter (!isMatch ·) := by
  obtain ⟨as, x, bs, rfl, rfl, hx, rfl⟩ := exists_append_of_getElem?_positions h
  simp [eraseIdx_length_append, List.filter_append, hx]

end Single

/-! ## Working at several positions -/

namespace Picked

theorem remove_cons (i : Nat) (is : List Nat) (xs : List α) :
    remove (i :: is) xs = (remove is xs).eraseIdx i := by
  rw [remove, remove, List.reverse_cons, List.foldl_append]
  rfl

/-- Positions behind the first member concern the rest. -/
theorem remove_map_succ (is : List Nat) (x : α) (xs : List α) :
    remove (is.map (· + 1)) (x :: xs) = x :: remove is xs := by
  induction is with
  | nil => rfl
  | cons i is ih => rw [List.map_cons, remove_cons, ih, List.eraseIdx_cons_succ, remove_cons]

/-- Without the members at the positions of all matches there are none left, and the others are. -/
theorem remove_positions (isMatch : α → Bool) (xs : List α) :
    remove (positions isMatch xs) xs = xs.filter (!isMatch ·) := by
  induction xs with
  | nil => rfl
  | cons x xs ih =>
    rw [positions_cons]
    split_ifs with hx
    · rw [remove_cons, remove_map_succ, List.eraseIdx_cons_zero, ih]
      simp [hx]
    · rw [remove_map_succ, ih]
      simp [hx]

/-- To leave out the matches that an index picks is to do so among the matches. -/
theorem filter_remove (index : Option Index) (isMatch : α → Bool) (xs : List α) :
    (remove (pick index (positions isMatch xs)) xs).filter isMatch =
      without index (xs.filter isMatch) ∧
    (remove (pick index (positions isMatch xs)) xs).filter (!isMatch ·) =
      xs.filter (!isMatch ·) := by
  have hnth : ∀ n,
      (remove (pick (some (.nth n)) (positions isMatch xs)) xs).filter isMatch =
        (xs.filter isMatch).eraseIdx n ∧
      (remove (pick (some (.nth n)) (positions isMatch xs)) xs).filter (!isMatch ·) =
        xs.filter (!isMatch ·) := by
    intro n
    cases hn : (positions isMatch xs)[n]? with
    | none =>
      have hle := List.getElem?_eq_none_iff.1 hn
      rw [length_positions] at hle
      rw [pick, hn, List.eraseIdx_of_length_le hle]
      exact ⟨rfl, rfl⟩
    | some i =>
      rw [pick, hn]
      exact filter_eraseIdx hn
  rcases index with _ | ⟨n⟩ | _
  · rw [pick_none]
    exact hnth 0
  · exact hnth n
  · rw [pick, remove_positions, List.filter_filter, List.filter_filter]
    simp [without]

/-- An edit that is complete has edited the members at its positions, each on its own, and has
left the others where they were. -/
theorem getElem?_edit {f : α → Outcome α} {is : List Nat} (hnodup : is.Nodup)
    (h : edit f is xs = .done ys) :
    ys.length = xs.length ∧ ∀ i x, xs[i]? = some x →
      (i ∉ is → ys[i]? = some x) ∧ (i ∈ is → ∃ y, f x = .done y ∧ ys[i]? = some y) := by
  induction is generalizing xs with
  | nil =>
    rw [edit, Outcome.done.injEq] at h
    subst h
    exact ⟨rfl, fun i x hx => ⟨fun _ => hx, fun hi => absurd hi List.not_mem_nil⟩⟩
  | cons j is ih =>
    obtain ⟨hnot, hrest⟩ := List.nodup_cons.1 hnodup
    rw [edit] at h
    cases hj : xs[j]? with
    | none =>
      rw [hj] at h
      obtain ⟨hlen, hget⟩ := ih hrest h
      refine ⟨hlen, fun i x hx => ?_⟩
      have hne : i ≠ j := by
        rintro rfl
        exact absurd (hx.symm.trans hj) (by simp)
      obtain ⟨hkept, hedited⟩ := hget i x hx
      exact ⟨fun hi => hkept fun hmem => hi (List.mem_cons_of_mem j hmem),
        fun hi => hedited ((List.mem_cons.1 hi).resolve_left hne)⟩
    | some z =>
      rw [hj] at h
      simp only at h
      cases hz : f z with
      | stopped e w =>
        rw [hz] at h
        exact absurd h (by simp)
      | done w =>
        rw [hz] at h
        obtain ⟨hlen, hget⟩ := ih hrest h
        refine ⟨by rw [hlen, List.length_set], fun i x hx => ?_⟩
        by_cases hij : i = j
        · -- the member is edited now, and at no later position
          subst hij
          obtain rfl := Option.some.inj (hx.symm.trans hj)
          have hlt : i < xs.length := (List.getElem?_eq_some_iff.1 hx).1
          have hset : (xs.set i w)[i]? = some w := by rw [List.getElem?_set_self hlt]
          have hlater := (hget i w hset).1 hnot
          exact ⟨fun hi => absurd (List.mem_cons_self ..) hi, fun _ => ⟨w, hz, hlater⟩⟩
        · have hset : (xs.set j w)[i]? = some x := by
            rw [List.getElem?_set_ne (Ne.symm hij), hx]
          obtain ⟨hkept, hedited⟩ := hget i x hset
          exact ⟨fun hi => hkept fun hmem => hi (List.mem_cons_of_mem j hmem),
            fun hi => hedited ((List.mem_cons.1 hi).resolve_left hij)⟩

/-- What each single edit keeps of a member is kept of all. -/
theorem map_edit {β : Type} {g : α → β} {f : α → Outcome α}
    (hkeeps : ∀ x y, f x = .done y → g y = g x) {is : List Nat} (hnodup : is.Nodup)
    (h : edit f is xs = .done ys) : ys.map g = xs.map g := by
  obtain ⟨hlen, hget⟩ := getElem?_edit hnodup h
  refine List.ext_getElem? fun i => ?_
  rw [List.getElem?_map, List.getElem?_map]
  cases hi : xs[i]? with
  | none =>
    have hle : ys.length ≤ i := hlen ▸ List.getElem?_eq_none_iff.1 hi
    rw [List.getElem?_eq_none hle]
  | some x =>
    obtain ⟨hkept, hedited⟩ := hget i x hi
    by_cases hpicked : i ∈ is
    · obtain ⟨y, hy, hyi⟩ := hedited hpicked
      rw [hyi, Option.map_some, Option.map_some, hkeeps x y hy]
    · rw [hkept hpicked]

/-- If edits turn matches into matches, and nothing else, then to edit the matches that an index
picks is to do so among the matches. -/
theorem filter_edit {f : α → Outcome α} {index : Option Index}
    (hkeeps : ∀ x y, f x = .done y → isMatch y = isMatch x)
    (h : edit f (pick index (positions isMatch xs)) xs = .done ys) :
    (ys.filter isMatch).length = (xs.filter isMatch).length ∧
    (∀ rank x, (xs.filter isMatch)[rank]? = some x → ∃ y, (ys.filter isMatch)[rank]? = some y ∧
      if picks index rank then f x = .done y else y = x) ∧
    ys.filter (!isMatch ·) = xs.filter (!isMatch ·) := by
  have hnodup := positions_nodup isMatch xs
  have hpicked := pick_sublist index (positions isMatch xs)
  obtain ⟨_, hget⟩ := getElem?_edit (hnodup.sublist hpicked) h
  -- the matches stand where they stood, and so do the others
  have hmatches : positions isMatch ys = positions isMatch xs :=
    positions_congr (map_edit hkeeps (hnodup.sublist hpicked) h)
  have hothers : positions (!isMatch ·) ys = positions (!isMatch ·) xs :=
    positions_congr (map_edit (fun x y hy => by rw [hkeeps x y hy]) (hnodup.sublist hpicked) h)
  refine ⟨?_, fun rank x hx => ?_, ?_⟩
  · rw [← length_positions, ← length_positions, hmatches]
  · rw [getElem?_filter_eq_bind] at hx
    obtain ⟨i, hi, hxi⟩ := Option.bind_eq_some_iff.1 hx
    rw [getElem?_filter_eq_bind, hmatches, hi, Option.bind_some]
    obtain ⟨hkept, hedited⟩ := hget i x hxi
    by_cases hpicks : picks index rank
    · obtain ⟨y, hy, hyi⟩ := hedited ((mem_pick_iff index hnodup hi).2 hpicks)
      exact ⟨y, hyi, by rw [if_pos hpicks]; exact hy⟩
    · have hnot : i ∉ pick index (positions isMatch xs) := fun hmem =>
        hpicks ((mem_pick_iff index hnodup hi).1 hmem)
      exact ⟨x, hkept hnot, by rw [if_neg hpicks]⟩
  · refine List.ext_getElem? fun rank => ?_
    rw [getElem?_filter_eq_bind, getElem?_filter_eq_bind, hothers]
    cases hi : (positions (!isMatch ·) xs)[rank]? with
    | none => rfl
    | some i =>
      obtain ⟨x, hx, hno⟩ := mem_positions.1 (List.mem_of_getElem? hi)
      rw [Option.bind_some, Option.bind_some, hx]
      refine (hget i x hx).1 fun hmem => ?_
      obtain ⟨z, hz, hyes⟩ := mem_positions.1 (hpicked.subset hmem)
      obtain rfl := Option.some.inj (hx.symm.trans hz)
      simp [hyes] at hno

end Picked

end CfgPatch
