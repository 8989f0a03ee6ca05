/-
**Vectors of optional entries.**

A `SlotVec α` is a growable vector whose positions hold an entry or nothing. `lookup` reads through
the bound check: a position past the end holds nothing. Reading and writing by index panic past the
end; within it they are `write` (`store_ok`, `take_ok`).

Every update is described by what it does to `lookup` and to the length.
-/

import Rumqtt.Lib.Checked

namespace Rumqtt

/-- **A vector of positions that hold an entry or nothing.** -/
structure SlotVec (α : Type) where
  slots : List (Option α)
  deriving DecidableEq, Repr

namespace SlotVec

variable {α : Type}
variable {v : SlotVec α} {index : Nat}

/-- The number of positions. -/
def length (v : SlotVec α) : Nat := v.slots.length

/-- `Vec::get`: the position, if there is one. -/
def get? (v : SlotVec α) (index : Nat) : Option (Option α) := v.slots[index]?

/-- The entry at a position. -/
def lookup (v : SlotVec α) (index : Nat) : Option α := (v.get? index).join

theorem get?_of_lt (fits : index < v.length) :
    v.get? index = some (v.lookup index) := by
  have read : v.slots[index]? = some v.slots[index] := List.getElem?_eq_getElem fits
  simp [lookup, get?, read]

theorem get?_eq_none : v.get? index = none ↔ v.length ≤ index := List.getElem?_eq_none_iff

theorem lookup_eq_none_of_le (past : v.length ≤ index) :
    v.lookup index = none := by
  rw [lookup, get?_eq_none.mpr past]
  rfl

theorem lt_length_of_lookup {entry : α} (held : v.lookup index = some entry) : index < v.length := by
  refine Nat.lt_of_not_le fun past => ?_
  rw [lookup_eq_none_of_le past] at held
  cases held

/-- Every position is empty. -/
def allNone (v : SlotVec α) : Bool := v.slots.all Option.isNone

theorem lookup_of_allNone (empty : v.allNone = true) (index : Nat) : v.lookup index = none := by
  cases read : v.slots[index]? with
  | none => simp [lookup, get?, read]
  | some entry =>
    have absent := List.all_eq_true.mp empty entry (List.mem_of_getElem? read)
    simp [lookup, get?, read, Option.isNone_iff_eq_none.mp absent]

/-! ### Construction and size -/

/-- A vector of empty positions. -/
def withLength (length : Nat) : SlotVec α := ⟨List.replicate length none⟩

@[simp] theorem length_withLength (length : Nat) : (withLength length : SlotVec α).length = length :=
  List.length_replicate

@[simp] theorem lookup_withLength (length index : Nat) :
    (withLength length : SlotVec α).lookup index = none := by
  simp [lookup, get?, withLength, List.getElem?_replicate]
  split <;> rfl

section

variable (v : SlotVec α)

/-- `Vec::resize_with(length, || None)` on a vector that is not longer. -/
def growTo (length : Nat) : SlotVec α := ⟨v.slots ++ List.replicate (length - v.length) none⟩

@[simp] theorem length_growTo (length : Nat) :
    (v.growTo length).length = max v.length length := by
  simp only [growTo, SlotVec.length, List.length_append, List.length_replicate]
  omega

@[simp] theorem lookup_growTo (length index : Nat) :
    (v.growTo length).lookup index = v.lookup index := by
  simp only [lookup, get?, growTo, List.getElem?_append, List.getElem?_replicate]
  by_cases fits : index < v.slots.length
  · simp [fits]
  · have past : v.slots[index]? = none := List.getElem?_eq_none_iff.mpr (Nat.le_of_not_lt fits)
    simp only [fits, if_false, past, Option.join_none]
    split <;> rfl

/-- `Vec::truncate`. -/
def truncate (length : Nat) : SlotVec α := ⟨v.slots.take length⟩

@[simp] theorem length_truncate (length : Nat) :
    (v.truncate length).length = min length v.length := List.length_take

theorem lookup_truncate (length index : Nat) :
    (v.truncate length).lookup index = if index < length then v.lookup index else none := by
  simp only [lookup, get?, truncate, List.getElem?_take]
  split <;> rfl

end

/-! ### Updates -/

/-- The vector with a position overwritten; nothing happens past the end. -/
def write (v : SlotVec α) (index : Nat) (entry : Option α) : SlotVec α := ⟨v.slots.set index entry⟩

@[simp] theorem length_write (v : SlotVec α) (index : Nat) (entry : Option α) :
    (v.write index entry).length = v.length := List.length_set

theorem lookup_write_self (fits : index < v.length)
    (entry : Option α) : (v.write index entry).lookup index = entry := by
  have inside : index < v.slots.length := fits
  simp [lookup, get?, write, inside]

section

variable (v : SlotVec α)

theorem lookup_write_of_ne {other : Nat} (different : other ≠ index)
    (entry : Option α) : (v.write index entry).lookup other = v.lookup other := by
  simp [lookup, get?, write, List.getElem?_set_ne different.symm]

theorem lookup_write_none (index other : Nat) :
    (v.write index none).lookup other = if other = index then none else v.lookup other := by
  split
  · rename_i same
    subst same
    by_cases fits : other < v.length
    · exact lookup_write_self fits none
    · exact lookup_eq_none_of_le (by rw [length_write]; exact Nat.le_of_not_lt fits)
  · rename_i different
    exact lookup_write_of_ne v different none

/-- The vector with the given positions emptied. -/
def clearAll (indices : List Nat) : SlotVec α := indices.foldl (fun v index => v.write index none) v

@[simp] theorem clearAll_nil : v.clearAll [] = v := rfl

@[simp] theorem clearAll_cons (index : Nat) (rest : List Nat) :
    v.clearAll (index :: rest) = (v.write index none).clearAll rest := rfl

@[simp] theorem length_clearAll (indices : List Nat) :
    (v.clearAll indices).length = v.length := by
  induction indices generalizing v with
  | nil => rfl
  | cons index rest ih => rw [clearAll_cons, ih, length_write]

theorem lookup_clearAll (indices : List Nat) (index : Nat) :
    (v.clearAll indices).lookup index = if index ∈ indices then none else v.lookup index := by
  induction indices generalizing v with
  | nil => simp
  | cons first rest ih =>
    rw [clearAll_cons, ih, lookup_write_none]
    by_cases here : index = first
    · simp [here]
    · simp [here]

/-- `v[index] = entry`. -/
def store (index : Nat) (entry : Option α) : Checked (SlotVec α) :=
  if index < v.length then .ok (v.write index entry)
  else .error (.indexOutOfBounds index v.length)

end

theorem store_ok (fits : index < v.length) (entry : Option α) :
    v.store index entry = .ok (v.write index entry) := if_pos fits

/-- `v[index].take()`. -/
def take (v : SlotVec α) (index : Nat) : Checked (Option α × SlotVec α) :=
  if index < v.length then .ok (v.lookup index, v.write index none)
  else .error (.indexOutOfBounds index v.length)

theorem take_ok (fits : index < v.length) :
    v.take index = .ok (v.lookup index, v.write index none) := if_pos fits

/-- `v[index].is_none()`. -/
def isNoneAt (v : SlotVec α) (index : Nat) : Checked Bool :=
  if index < v.length then .ok (v.lookup index).isNone
  else .error (.indexOutOfBounds index v.length)

theorem isNoneAt_ok (fits : index < v.length) :
    v.isNoneAt index = .ok (v.lookup index).isNone := if_pos fits

end SlotVec

end Rumqtt
