import CfgPatch.Error

/-!
# Edits that may stop half-way

The body of a directive is a sequence of small edits. An edit that fails stops the sequence
and leaves what it had been working on as it was at that moment. An `Outcome` says which of
the two happened and what was left; callers that must not keep half an edit look at the
first kind only.
-/

namespace CfgPatch

/-- The outcome of an edit. -/
inductive Outcome (α : Type) where
  /-- The edit is complete. -/
  | done (result : α)
  /-- The edit stopped at an error and left this behind. -/
  | stopped (error : PatchError) (left : α)
deriving DecidableEq, Repr

namespace Outcome

variable {α β : Type}

/-- Goes on with the next edit unless this one stopped. -/
def andThen (o : Outcome α) (next : α → Outcome α) : Outcome α :=
  match o with
  | done a => next a
  | stopped e a => stopped e a

/-- Puts what was edited back into what it is a part of. -/
def within (place : α → β) : Outcome α → Outcome β
  | done a => done (place a)
  | stopped e a => stopped e (place a)

/-- The result, if the edit is complete. -/
def toExcept : Outcome α → Except PatchError α
  | done a => .ok a
  | stopped e _ => .error e

/-- What there is after the edit, complete or not. -/
def left : Outcome α → α
  | done a => a
  | stopped _ a => a

@[simp] theorem andThen_done (a : α) (next : α → Outcome α) : (done a).andThen next = next a := rfl

@[simp] theorem andThen_stopped (e : PatchError) (a : α) (next : α → Outcome α) :
    (stopped e a).andThen next = stopped e a := rfl

@[simp] theorem within_done (place : α → β) (a : α) : (done a).within place = done (place a) := rfl

@[simp] theorem within_stopped (place : α → β) (e : PatchError) (a : α) :
    (stopped e a).within place = stopped e (place a) := rfl

theorem within_eq_done {o : Outcome α} {place : α → β} {b : β} :
    o.within place = done b ↔ ∃ a, o = done a ∧ place a = b := by
  cases o <;> simp

end Outcome

/-! ## Edits at positions

An edit of some members of a list is given their positions, and works on the list at one after
another of these. -/

namespace Picked

variable {α : Type}

/-- Edits the members at some positions, one after another; where there is none, nothing is done. -/
def edit (f : α → Outcome α) : List Nat → List α → Outcome (List α)
  | [], xs => .done xs
  | i :: is, xs =>
    match xs[i]? with
    | none => edit f is xs
    | some x =>
      match f x with
      | .done y => edit f is (xs.set i y)
      | .stopped e y => .stopped e (xs.set i y)

/-- Leaves out the members at some positions, the last one first. -/
def remove (is : List Nat) (xs : List α) : List α := is.reverse.foldl List.eraseIdx xs

/-- Puts a member in the place of the one at a position, or at the end if there is no position. -/
def replace (new : α) (position : Option Nat) (xs : List α) : List α :=
  match position with
  | some i => xs.set i new
  | none => xs ++ [new]

/-- Puts a member in front of the one at a position, or at the end if there is no position. -/
def insert (new : α) (position : Option Nat) (xs : List α) : List α :=
  match position with
  | some i => xs.insertIdx i new
  | none => xs ++ [new]

end Picked

end CfgPatch
