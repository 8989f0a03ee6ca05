/-
**Bit sets with a length.**

A `FixedBitSet` is a set of bits below its length, kept as the increasing list of its ones. Asking
for a bit past the end answers `false`; setting one there panics. `growAndInsert` and `remove` are
the two total updates; `insert` and `set` are those updates behind the bound check.

* `mem_growAndInsert`, `mem_remove`, `notMem_clear`, `mem_grow` say what each update does to the set;
* `card_growAndInsert`, `card_remove` count it;
* `testBit_block` reads a bit off the set's storage block.
-/

import Mathlib.Data.List.Sort
import Rumqtt.Lib.Checked

namespace Rumqtt

open List

/-- **A set of bits below a length**, listed in increasing order. -/
structure FixedBitSet where
  length : Nat
  ones : List Nat
  sorted : ones.Pairwise (· < ·)
  bounded : ∀ bit ∈ ones, bit < length
  deriving DecidableEq, Repr

namespace FixedBitSet

variable {b : FixedBitSet} {bit : Nat}

instance : Membership Nat FixedBitSet := ⟨fun b bit => bit ∈ b.ones⟩

instance (bit : Nat) (b : FixedBitSet) : Decidable (bit ∈ b) := inferInstanceAs (Decidable (bit ∈ b.ones))

theorem lt_length (member : bit ∈ b) : bit < b.length := b.bounded bit member

theorem ones_nodup (b : FixedBitSet) : b.ones.Nodup := b.sorted.imp Nat.ne_of_lt

/-- Whether a bit is set; a bit past the end is not. -/
def contains (b : FixedBitSet) (bit : Nat) : Bool := decide (bit ∈ b)

@[simp] theorem contains_eq_true : b.contains bit = true ↔ bit ∈ b := by
  simp [contains]

@[simp] theorem contains_eq_false :
    b.contains bit = false ↔ bit ∉ b := by
  simp [contains]

/-- The number of ones. -/
def card (b : FixedBitSet) : Nat := b.ones.length

/-- No ones at all. -/
def isClear (b : FixedBitSet) : Bool := b.ones.isEmpty

theorem isClear_iff : b.isClear = true ↔ ∀ bit, bit ∉ b :=
  List.isEmpty_iff.trans List.eq_nil_iff_forall_not_mem

/-! ### Construction -/

/-- All bits clear, at the given length. -/
def withCapacity (length : Nat) : FixedBitSet where
  length := length
  ones := []
  sorted := .nil
  bounded := by simp

@[simp] theorem length_withCapacity (length : Nat) : (withCapacity length).length = length := rfl

@[simp] theorem notMem_withCapacity (length bit : Nat) : bit ∉ withCapacity length := not_mem_nil

@[simp] theorem card_withCapacity (length : Nat) : (withCapacity length).card = 0 := rfl

section

variable (b : FixedBitSet)

/-- Clears every bit and keeps the length. -/
def clear : FixedBitSet := withCapacity b.length

@[simp] theorem length_clear : b.clear.length = b.length := rfl

@[simp] theorem notMem_clear (bit : Nat) : bit ∉ b.clear := not_mem_nil

@[simp] theorem card_clear : b.clear.card = 0 := rfl

/-- Extends the set to a length; a shorter length changes nothing. -/
def grow (length : Nat) : FixedBitSet where
  length := max b.length length
  ones := b.ones
  sorted := b.sorted
  bounded := fun bit member => Nat.lt_of_lt_of_le (b.bounded bit member) (Nat.le_max_left ..)

@[simp] theorem length_grow (length : Nat) :
    (b.grow length).length = max b.length length := rfl

@[simp] theorem mem_grow (length bit : Nat) : bit ∈ b.grow length ↔ bit ∈ b := Iff.rfl

end

/-! ### Updates -/

theorem pairwise_lt_orderedInsert {ones : List Nat} (sorted : ones.Pairwise (· < ·))
    (absent : bit ∉ ones) : (ones.orderedInsert (· ≤ ·) bit).Pairwise (· < ·) := by
  have weak : (ones.orderedInsert (· ≤ ·) bit).Pairwise (· ≤ ·) :=
    (sorted.imp Nat.le_of_lt).orderedInsert bit ones
  have distinct : (ones.orderedInsert (· ≤ ·) bit).Nodup :=
    (perm_orderedInsert (· ≤ ·) bit ones).nodup_iff.mpr
      (nodup_cons.mpr ⟨absent, sorted.imp Nat.ne_of_lt⟩)
  exact (weak.and distinct).imp fun both => Nat.lt_of_le_of_ne both.1 both.2

/-- Sets a bit, after growing the set to hold it. -/
def growAndInsert (b : FixedBitSet) (bit : Nat) : FixedBitSet :=
  if present : bit ∈ b.ones then b
  else
    { length := max b.length (bit + 1)
      ones := b.ones.orderedInsert (· ≤ ·) bit
      sorted := pairwise_lt_orderedInsert b.sorted present
      bounded := by
        intro other member
        rcases (mem_orderedInsert (· ≤ ·)).mp member with same | old
        · omega
        · have := b.bounded other old
          omega }

@[simp] theorem length_growAndInsert (b : FixedBitSet) (bit : Nat) :
    (b.growAndInsert bit).length = max b.length (bit + 1) := by
  unfold growAndInsert
  split
  · rename_i present
    have := b.bounded bit present
    omega
  · rfl

@[simp] theorem mem_growAndInsert (b : FixedBitSet) (bit other : Nat) :
    other ∈ b.growAndInsert bit ↔ other = bit ∨ other ∈ b := by
  unfold growAndInsert
  split
  · rename_i present
    exact ⟨Or.inr, fun either => either.elim (fun same => same ▸ present) id⟩
  · exact mem_orderedInsert (· ≤ ·)

theorem card_growAndInsert (absent : bit ∉ b) :
    (b.growAndInsert bit).card = b.card + 1 := by
  have new : bit ∉ b.ones := absent
  simp only [growAndInsert, new, dite_false, card, orderedInsert_length]

section

variable (b : FixedBitSet)

theorem mem_foldl_growAndInsert (bits : List Nat) (bit : Nat) :
    bit ∈ bits.foldl growAndInsert b ↔ bit ∈ b ∨ bit ∈ bits := by
  induction bits generalizing b with
  | nil => simp
  | cons first rest ih =>
    rw [foldl_cons, ih, mem_growAndInsert, mem_cons]
    tauto

theorem length_foldl_growAndInsert {bits : List Nat}
    (fits : ∀ bit ∈ bits, bit < b.length) : (bits.foldl growAndInsert b).length = b.length := by
  induction bits generalizing b with
  | nil => rfl
  | cons first rest ih =>
    have here := fits first mem_cons_self
    have same : (b.growAndInsert first).length = b.length := by
      rw [length_growAndInsert]
      omega
    rw [foldl_cons, ih, same]
    intro bit member
    rw [same]
    exact fits bit (mem_cons_of_mem first member)

/-- Clears a bit. -/
def remove (bit : Nat) : FixedBitSet where
  length := b.length
  ones := b.ones.erase bit
  sorted := b.sorted.sublist erase_sublist
  bounded := fun other member => b.bounded other (mem_of_mem_erase member)

@[simp] theorem length_remove (bit : Nat) : (b.remove bit).length = b.length := rfl

@[simp] theorem mem_remove (bit other : Nat) :
    other ∈ b.remove bit ↔ other ≠ bit ∧ other ∈ b := b.ones_nodup.mem_erase_iff

end

theorem remove_of_notMem (absent : bit ∉ b) : b.remove bit = b := by
  cases b
  simp only [remove, mk.injEq, true_and]
  exact erase_of_not_mem absent

theorem card_remove (member : bit ∈ b) :
    (b.remove bit).card = b.card - 1 := length_erase_of_mem member

theorem card_pos (member : bit ∈ b) : 0 < b.card := length_pos_of_mem member

/-- `FixedBitSet::set`: a bit past the end panics. -/
def set (b : FixedBitSet) (bit : Nat) (enabled : Bool) : Checked FixedBitSet :=
  if bit < b.length then .ok (if enabled then b.growAndInsert bit else b.remove bit)
  else .error (.bitOutOfBounds bit b.length)

/-- `FixedBitSet::insert`: a bit past the end panics. -/
def insert (b : FixedBitSet) (bit : Nat) : Checked FixedBitSet := b.set bit true

theorem insert_ok (fits : bit < b.length) :
    b.insert bit = .ok (b.growAndInsert bit) := by
  simp [insert, set, fits]

theorem set_false_ok (fits : bit < b.length) :
    b.set bit false = .ok (b.remove bit) := by
  simp [set, fits]

/-- **A set that misses positions below its length has that many fewer ones.** -/
theorem card_add_length_le {missing : List Nat} (distinct : missing.Nodup)
    (fits : ∀ bit ∈ missing, bit < b.length) (absent : ∀ bit ∈ missing, bit ∉ b) :
    b.card + missing.length ≤ b.length := by
  have nodup : (b.ones ++ missing).Nodup := by
    refine nodup_append.mpr ⟨b.ones_nodup, distinct, ?_⟩
    rintro bit present _ missed rfl
    exact absent bit missed present
  have within : b.ones ++ missing ⊆ List.range b.length := by
    intro bit member
    rw [mem_range]
    rcases mem_append.mp member with present | missed
    · exact b.bounded bit present
    · exact fits bit missed
  simpa [card] using (subperm_of_subset nodup within).length_le

theorem card_add_two_le {first second : Nat} (distinct : first ≠ second)
    (firstFits : first < b.length) (secondFits : second < b.length)
    (noFirst : first ∉ b) (noSecond : second ∉ b) : b.card + 2 ≤ b.length := by
  have pair : [first, second].Nodup := by simpa using distinct
  exact card_add_length_le pair (by simp [firstFits, secondFits]) (by simp [noFirst, noSecond])

/-! ### Storage blocks -/

/-- The number of bits of a storage block. -/
abbrev bitsPerBlock : Nat := 64

/-- The storage block at an index, as a number; blocks past the end read as zero. -/
def block (b : FixedBitSet) (index : Nat) : Nat :=
  (b.ones.filter (· / bitsPerBlock = index)).foldl
    (fun word bit => word ||| 1 <<< (bit % bitsPerBlock)) 0

theorem testBit_foldl_or (bits : List Nat) (word position : Nat) :
    (bits.foldl (fun word bit => word ||| 1 <<< (bit % bitsPerBlock)) word).testBit position =
      (word.testBit position || decide (∃ bit ∈ bits, bit % bitsPerBlock = position)) := by
  induction bits generalizing word with
  | nil => simp
  | cons bit rest ih =>
    have single : (1 <<< (bit % bitsPerBlock)).testBit position
        = decide (bit % bitsPerBlock = position) := by
      rw [Nat.one_shiftLeft, Nat.testBit_two_pow]
    rw [foldl_cons, ih, Nat.testBit_or, single]
    simp only [exists_mem_cons_iff, Bool.decide_or, Bool.or_assoc]

/-- **A block holds exactly the set's bits at its positions.** -/
theorem testBit_block (b : FixedBitSet) (index : Nat) {position : Nat}
    (within : position < bitsPerBlock) :
    (b.block index).testBit position = decide (index * bitsPerBlock + position ∈ b) := by
  unfold block
  rw [testBit_foldl_or, Nat.zero_testBit, Bool.false_or, decide_eq_decide]
  constructor
  · rintro ⟨bit, member, place⟩
    obtain ⟨member, same⟩ := mem_filter.mp member
    have quotient : bit / bitsPerBlock = index := of_decide_eq_true same
    have whole : index * bitsPerBlock + position = bit := by
      simp only [bitsPerBlock] at *
      omega
    exact whole ▸ member
  · intro member
    simp only [bitsPerBlock] at *
    refine ⟨_, mem_filter.mpr ⟨member, decide_eq_true ?_⟩, ?_⟩
    · omega
    · omega

/-- `usize::trailing_zeros`. -/
def trailingZeros (word : Nat) : Nat :=
  ((List.range bitsPerBlock).find? fun position => word.testBit position).getD bitsPerBlock

/-- The lowest set bit of a block that has one. -/
theorem trailingZeros_spec {word position : Nat} (within : position < bitsPerBlock)
    (isSet : word.testBit position = true) :
    trailingZeros word ≤ position ∧ word.testBit (trailingZeros word) = true ∧
      ∀ lower < trailingZeros word, word.testBit lower = false := by
  unfold trailingZeros
  cases search : (List.range bitsPerBlock).find? fun position => word.testBit position with
  | none =>
    have none := List.find?_eq_none.mp search position (mem_range.mpr within)
    exact absurd isSet none
  | some first =>
    obtain ⟨found, _, earlier⟩ := List.find?_range_eq_some.mp search
    refine ⟨?_, found, fun lower below => by simpa using earlier lower below⟩
    by_contra later
    have := earlier position (by simpa using later)
    rw [isSet] at this
    exact absurd this (by decide)

end FixedBitSet

end Rumqtt
