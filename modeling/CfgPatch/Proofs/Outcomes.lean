import CfgPatch.Body.Outcome
import CfgPatch.Body.Matcher
import Mathlib.Data.List.InsertIdx
import Mathlib.Tactic.SplitIfs

/-!
# What the result of an edit is like

`Outcome.Ensures` is a property of the result of an edit, if the edit is complete. It is put
together along the ways in which edits are: one after another, inside of something larger, or
on the members of a list that are picked. An edit of a list whose members have a property
leaves a list whose members have it, if each single edit and each new member does.
-/

namespace CfgPatch

namespace Outcome

variable {α β : Type} {P : α → Prop} {Q : β → Prop}

/-- The result has a property, if the edit is complete. -/
def Ensures (P : α → Prop) : Outcome α → Prop
  | done a => P a
  | stopped _ _ => True

@[simp] theorem ensures_done {a : α} : (done a).Ensures P ↔ P a := Iff.rfl

theorem Ensures.andThen {o : Outcome α} {next : α → Outcome α} (h : o.Ensures P)
    (hnext : ∀ a, P a → (next a).Ensures P) : (o.andThen next).Ensures P := by
  cases o with
  | done a => exact hnext a h
  | stopped e a => trivial

theorem Ensures.within {o : Outcome α} {place : α → β} (h : o.Ensures P)
    (hplace : ∀ a, P a → Q (place a)) : (o.within place).Ensures Q := by
  cases o with
  | done a => exact hplace a h
  | stopped e a => trivial

theorem Ensures.of_toExcept {o : Outcome α} (h : o.Ensures P) {a : α} (ha : o.toExcept = .ok a) :
    P a := by
  cases o with
  | done b =>
    obtain rfl := Except.ok.inj ha
    exact h
  | stopped e b => exact absurd ha (by simp [toExcept])

end Outcome

/-! ## Members that are picked -/

section Picked

variable {α : Type} {is : List Nat} {i : Option Nat} {new x : α} {xs : List α} {P : α → Prop}

theorem Picked.edit_ensures {f : α → Outcome α} (hf : ∀ x, P x → (f x).Ensures P)
    (hxs : ∀ x ∈ xs, P x) : (Picked.edit f is xs).Ensures fun ys => ∀ y ∈ ys, P y := by
  induction is generalizing xs with
  | nil => exact hxs
  | cons i is ih =>
    rw [Picked.edit]
    cases hget : xs[i]? with
    | none => exact ih hxs
    | some x =>
      have hedited := hf x (hxs x (List.mem_of_getElem? hget))
      simp only
      cases hfx : f x with
      | done y =>
        rw [hfx] at hedited
        refine ih fun z hz => ?_
        rcases List.mem_or_eq_of_mem_set hz with hz | rfl
        · exact hxs z hz
        · exact hedited
      | stopped e y => trivial

theorem Picked.remove_sublist (is : List Nat) (xs : List α) : (Picked.remove is xs).Sublist xs := by
  rw [Picked.remove]
  induction is.reverse generalizing xs with
  | nil => exact List.Sublist.refl xs
  | cons i is ih => exact (ih (xs.eraseIdx i)).trans (List.eraseIdx_sublist ..)

theorem Picked.forall_mem_replace (hnew : P new) (hxs : ∀ x ∈ xs, P x) :
    ∀ x ∈ Picked.replace new i xs, P x := by
  intro x hx
  cases i with
  | none =>
    rcases List.mem_append.1 hx with hx | hx
    · exact hxs x hx
    · exact List.mem_singleton.1 hx ▸ hnew
  | some i =>
    rcases List.mem_or_eq_of_mem_set hx with hx | rfl
    · exact hxs x hx
    · exact hnew

theorem Picked.forall_mem_insert (hnew : P new) (hxs : ∀ x ∈ xs, P x) :
    ∀ x ∈ Picked.insert new i xs, P x := by
  intro x hx
  cases i with
  | none =>
    rcases List.mem_append.1 hx with hx | hx
    · exact hxs x hx
    · exact List.mem_singleton.1 hx ▸ hnew
  | some i =>
    rcases List.eq_or_mem_of_mem_insertIdx hx with rfl | hx
    · exact hnew
    · exact hxs x hx

theorem Index.pick_sublist (index : Option Index) (xs : List α) :
    (Index.pick index xs).Sublist xs := by
  rcases index with _ | ⟨n⟩ | _
  · exact List.take_sublist 1 xs
  · rw [Index.pick]
    cases hn : xs[n]? with
    | none => exact List.nil_sublist xs
    | some x => exact List.singleton_sublist.2 (List.mem_of_getElem? hn)
  · exact List.Sublist.refl xs

theorem Index.mem_of_mem_pick {index : Option Index} (h : x ∈ Index.pick index xs) : x ∈ xs :=
  (Index.pick_sublist index xs).subset h

theorem Matcher.mem_of_mem_pick {m : Matcher} {nodes : List Node} {node : Node}
    (h : node ∈ m.pick nodes) : node ∈ nodes :=
  (List.mem_filter.1 (Index.mem_of_mem_pick h)).1

end Picked

end CfgPatch
