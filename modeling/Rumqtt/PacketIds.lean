/-
**Reservation of outbound packet identifiers.**

Both clients reserve the identifiers of their own flows in a bit set over the whole `u16` range,
count them in a second field and look for the next free one a machine word at a time.

* `reserveOutboundPkid_ok`, `releaseOutboundPkid_ok`: on a valid reservation table the two updates
  do not panic and keep it valid;
* `nextFreeOutboundPkidAfter_free`: the search only ever finds an identifier that is free;
* `Valid.nextFreeOutboundPkidAfter_isSome`: it finds one as long as the counter is not full.
-/

import Mathlib.Algebra.Ring.Nat
import Rumqtt.Lib.FixedBitSet
import Rumqtt.StateError

namespace Rumqtt

open FixedBitSet Checked

/-- `u16::MAX + 1`, the length of a bit set over all packet identifiers. -/
def fullPacketIdentifierLen : Nat := 65536

/-- `u16::MAX` -/
def u16Max : Nat := 65535

theorem toNat_lt_of_full {b : FixedBitSet} (full : b.length = fullPacketIdentifierLen)
    (pkid : PacketId) : pkid.toNat < b.length := full ▸ pkid.toNat_lt

theorem length_growAndInsert_full {b : FixedBitSet} (full : b.length = fullPacketIdentifierLen)
    (pkid : PacketId) : (b.growAndInsert pkid.toNat).length = fullPacketIdentifierLen := by
  have fits := toNat_lt_of_full full pkid
  rw [length_growAndInsert, full]
  rw [full] at fits
  omega

/-- **The identifiers reserved by outbound flows**: the last one handed out, the reserved set and
its count. -/
structure PacketIds where
  lastPkid : PacketId
  outboundPkidInUse : FixedBitSet
  outboundPkidCount : Nat
  deriving DecidableEq, Repr

theorem length_foldl_full {b : FixedBitSet} (full : b.length = fullPacketIdentifierLen)
    (pkids : List PacketId) :
    ((pkids.map (·.toNat)).foldl .growAndInsert b).length = fullPacketIdentifierLen := by
  refine (length_foldl_growAndInsert b ?_).trans full
  intro bit member
  obtain ⟨pkid, -, rfl⟩ := List.mem_map.mp member
  exact toNat_lt_of_full full pkid

namespace PacketIds

variable {inUse : FixedBitSet} {start stop blockIndex pkid remaining : Nat} {ids : PacketIds}

def new : PacketIds where
  lastPkid := 0
  outboundPkidInUse := .withCapacity fullPacketIdentifierLen
  outboundPkidCount := 0

section

variable (ids : PacketIds)

def packetIdentifierInUse (pkid : PacketId) : Bool := ids.outboundPkidInUse.contains pkid.toNat

def controlPacketIdentifierAvailable : Bool := decide (ids.outboundPkidCount < u16Max)

def reserveOutboundPkid (pkid : PacketId) :
    Checked (Except StateError Unit × PacketIds) := do
  if pkid = 0 ∨ ids.packetIdentifierInUse pkid then
    return (.error .invalidState, ids)
  let inUse ← ids.outboundPkidInUse.insert pkid.toNat
  let ids := { ids with outboundPkidInUse := inUse }
  -- `checked_add(1)` on a `u16`: the bit stays set when the counter is full
  if ids.outboundPkidCount < u16Max then
    return (.ok (), { ids with outboundPkidCount := ids.outboundPkidCount + 1 })
  else
    return (.error .invalidState, ids)

def acceptReplayedOutboundPkid (pkid : PacketId) : Except StateError Unit :=
  if pkid = 0 ∨ ids.packetIdentifierInUse pkid = false then .error .invalidState else .ok ()

def releaseOutboundPkid (pkid : PacketId) : Checked PacketIds := do
  if pkid = 0 ∨ ids.packetIdentifierInUse pkid = false then
    return ids
  let inUse ← ids.outboundPkidInUse.set pkid.toNat false
  let count ← Checked.expect "reserved packet identifier count should not underflow"
    (if 1 ≤ ids.outboundPkidCount then some (ids.outboundPkidCount - 1) else none)
  return { ids with outboundPkidInUse := inUse, outboundPkidCount := count }

end

/-! ### The search for a free identifier -/

open FixedBitSet (bitsPerBlock trailingZeros)

/-- The free positions of one block that lie in `[start, stop)`, as a word. -/
def freeInBlock (inUse : FixedBitSet) (start stop blockIndex : Nat) : Nat :=
  let blockStart := blockIndex * bitsPerBlock
  let first := min (start - blockStart) bitsPerBlock
  let last := min (stop - blockStart) bitsPerBlock
  let width := last - first
  -- a block with no position in range is skipped before any shift is made
  if width = 0 then 0
  else
    let mask :=
      if width = bitsPerBlock then 2 ^ bitsPerBlock - 1 else ((1 <<< width) - 1) <<< first
    ((2 ^ bitsPerBlock - 1) ^^^ inUse.block blockIndex) &&& mask

/-- The scan from `blockIndex` over the given number of blocks. -/
def scanBlocks (inUse : FixedBitSet) (start stop : Nat) : Nat → Nat → Option PacketId
  | 0, _ => none
  | remaining + 1, blockIndex =>
    let free := freeInBlock inUse start stop blockIndex
    if free = 0 then scanBlocks inUse start stop remaining (blockIndex + 1)
    else
      let pkid := blockIndex * bitsPerBlock + trailingZeros free
      if pkid < fullPacketIdentifierLen then some (UInt16.ofNat pkid) else none

section

variable (ids : PacketIds)

def findFreeOutboundPkidInRange (start stop : Nat) : Option PacketId :=
  if start ≥ stop then none
  else
    let blockIndex := start / bitsPerBlock
    let endBlock := (stop - 1) / bitsPerBlock
    scanBlocks ids.outboundPkidInUse start stop (endBlock + 1 - blockIndex) blockIndex

def nextFreeOutboundPkidAfter (lastPkid : PacketId) : Option PacketId :=
  if ids.controlPacketIdentifierAvailable = false then none
  else
    let start := if lastPkid.toNat = u16Max then 1 else lastPkid.toNat + 1
    (ids.findFreeOutboundPkidInRange start fullPacketIdentifierLen).or
      (ids.findFreeOutboundPkidInRange 1 start)

def nextPublishPkid : Option PacketId := ids.nextFreeOutboundPkidAfter ids.lastPkid

def nextPkid : Option (PacketId × PacketIds) :=
  ids.nextPublishPkid.map fun pkid => (pkid, { ids with lastPkid := pkid })

def nextControlPkid : Checked (Except StateError PacketId × PacketIds) :=
  match ids.nextFreeOutboundPkidAfter ids.lastPkid with
  | none => return (.error .invalidState, ids)
  | some pkid => do
    match ← ids.reserveOutboundPkid pkid with
    | (.error error, ids) => return (.error error, ids)
    | (.ok (), ids) => return (.ok pkid, { ids with lastPkid := pkid })

end

/-! ### What the search finds -/

/-- **A position of the word is set when its identifier is in range and free.** -/
theorem testBit_freeInBlock (inUse : FixedBitSet) (start stop blockIndex : Nat) {position : Nat}
    (within : position < bitsPerBlock) :
    (freeInBlock inUse start stop blockIndex).testBit position = true ↔
      start ≤ blockIndex * bitsPerBlock + position ∧ blockIndex * bitsPerBlock + position < stop ∧
        blockIndex * bitsPerBlock + position ∉ inUse := by
  have occupied := inUse.testBit_block blockIndex within
  unfold freeInBlock
  simp only [bitsPerBlock] at *
  split
  · rename_i empty
    rw [Nat.zero_testBit]
    constructor
    · intro impossible
      cases impossible
    · rintro ⟨above, below, -⟩
      omega
  · rename_i nonempty
    have mask : (if min (stop - blockIndex * 64) 64 - min (start - blockIndex * 64) 64 = 64
          then 2 ^ 64 - 1
          else ((1 <<< (min (stop - blockIndex * 64) 64 - min (start - blockIndex * 64) 64)) - 1)
            <<< min (start - blockIndex * 64) 64).testBit position = true ↔
        start ≤ blockIndex * 64 + position ∧ blockIndex * 64 + position < stop := by
      split
      · rw [Nat.testBit_two_pow_sub_one, decide_eq_true_iff]
        omega
      · rw [Nat.testBit_shiftLeft, Nat.one_shiftLeft, Nat.testBit_two_pow_sub_one,
          Bool.and_eq_true, decide_eq_true_iff, decide_eq_true_iff]
        omega
    rw [Nat.testBit_and, Nat.testBit_xor, Nat.testBit_two_pow_sub_one, occupied, Bool.and_eq_true,
      mask, decide_eq_true within, Bool.true_xor, Bool.not_eq_true', decide_eq_false_iff_not]
    tauto

/-- The word has no position past its block. -/
theorem testBit_freeInBlock_of_le (inUse : FixedBitSet) (start stop blockIndex : Nat)
    {position : Nat} (past : bitsPerBlock ≤ position) :
    (freeInBlock inUse start stop blockIndex).testBit position = false := by
  unfold freeInBlock
  simp only [bitsPerBlock] at *
  split
  · exact Nat.zero_testBit position
  · rw [Nat.testBit_and, Bool.and_eq_false_iff]
    right
    split
    · rw [Nat.testBit_two_pow_sub_one, decide_eq_false_iff_not]
      omega
    · rw [Nat.testBit_shiftLeft, Nat.one_shiftLeft, Nat.testBit_two_pow_sub_one,
        Bool.and_eq_false_iff, decide_eq_false_iff_not, decide_eq_false_iff_not]
      omega

/-- A word that is not zero names the first free identifier of the block and the range. -/
theorem freeInBlock_found (found : freeInBlock inUse start stop blockIndex ≠ 0) :
    let pkid := blockIndex * bitsPerBlock + trailingZeros (freeInBlock inUse start stop blockIndex)
    start ≤ pkid ∧ pkid < stop ∧ pkid ∉ inUse ∧
      ∀ lower, start ≤ lower → blockIndex * bitsPerBlock ≤ lower → lower < pkid → lower ∈ inUse := by
  obtain ⟨position, isSet⟩ := Nat.exists_testBit_of_ne_zero found
  have within : position < bitsPerBlock := by
    by_contra past
    rw [testBit_freeInBlock_of_le inUse start stop blockIndex (Nat.le_of_not_lt past)] at isSet
    cases isSet
  obtain ⟨low, lowest, first⟩ := trailingZeros_spec within isSet
  obtain ⟨above, below, free⟩ :=
    (testBit_freeInBlock inUse start stop blockIndex (Nat.lt_of_le_of_lt low within)).mp lowest
  refine ⟨above, below, free, fun lower started inBlock before => ?_⟩
  by_contra free
  have clear := first (lower - blockIndex * bitsPerBlock) (by omega)
  rw [(testBit_freeInBlock inUse start stop blockIndex (by omega)).mpr
    (by rw [Nat.add_sub_cancel' inBlock]; exact ⟨started, by omega, free⟩)] at clear
  cases clear

/-- The word of the block of a free identifier of the range is not zero. -/
theorem freeInBlock_ne_zero (above : start ≤ pkid) (below : pkid < stop) (free : pkid ∉ inUse) :
    freeInBlock inUse start stop (pkid / bitsPerBlock) ≠ 0 := by
  have position : pkid / bitsPerBlock * bitsPerBlock + pkid % bitsPerBlock = pkid :=
    Nat.div_add_mod' pkid bitsPerBlock
  have isSet := (testBit_freeInBlock inUse start stop (pkid / bitsPerBlock)
    (Nat.mod_lt pkid (by decide))).mpr (by rw [position]; exact ⟨above, below, free⟩)
  intro empty
  rw [empty, Nat.zero_testBit] at isSet
  cases isSet

/-- **The scan finds the first free identifier of the range**, where every one before the first block is
in use. -/
theorem scanBlocks_some {pkid : PacketId} (earlier : ∀ lower, start ≤ lower → lower < stop →
      lower < blockIndex * bitsPerBlock → lower ∈ inUse)
    (found : scanBlocks inUse start stop remaining blockIndex = some pkid) :
    start ≤ pkid.toNat ∧ pkid.toNat < stop ∧ pkid.toNat ∉ inUse ∧
      ∀ lower, start ≤ lower → lower < pkid.toNat → lower ∈ inUse := by
  induction remaining generalizing blockIndex with
  | zero => cases found
  | succ remaining ih =>
    rw [scanBlocks] at found
    split at found
    · rename_i empty
      refine ih (fun lower above below before => ?_) found
      by_contra free
      have ahead : blockIndex * bitsPerBlock ≤ lower :=
        Nat.le_of_not_lt fun before => free (earlier lower above below before)
      have here : lower / bitsPerBlock = blockIndex := by
        simp only [bitsPerBlock] at *
        omega
      exact freeInBlock_ne_zero above below free (here ▸ empty)
    · rename_i nonzero
      obtain ⟨above, below, free, first⟩ := freeInBlock_found nonzero
      dsimp only at found
      split at found
      · rename_i fits
        cases found
        rw [UInt16.toNat_ofNat_of_lt' fits]
        refine ⟨above, below, free, fun lower started before => ?_⟩
        rcases Nat.lt_or_ge lower (blockIndex * bitsPerBlock) with passed | inBlock
        · exact earlier lower started (Nat.lt_trans before below) passed
        · exact first lower started inBlock before
      · cases found

section

variable (within : stop ≤ fullPacketIdentifierLen) (above : start ≤ pkid) (below : pkid < stop)
include above below within

/-- **The scan does not miss a free identifier of the range.** -/
theorem scanBlocks_isSome (free : pkid ∉ inUse) (ahead : blockIndex ≤ pkid / bitsPerBlock)
    (reached : pkid / bitsPerBlock < blockIndex + remaining) :
    (scanBlocks inUse start stop remaining blockIndex).isSome := by
  induction remaining generalizing blockIndex with
  | zero => omega
  | succ remaining ih =>
    rw [scanBlocks]
    split
    · rename_i empty
      have later : blockIndex ≠ pkid / bitsPerBlock := by
        rintro rfl
        exact freeInBlock_ne_zero above below free empty
      exact ih (by omega) (by omega)
    · rename_i nonzero
      obtain ⟨-, below, -⟩ := freeInBlock_found nonzero
      dsimp only
      rw [if_pos (Nat.lt_of_lt_of_le below within)]
      rfl

theorem findFreeOutboundPkidInRange_isSome
    (free : pkid ∉ ids.outboundPkidInUse) : (ids.findFreeOutboundPkidInRange start stop).isSome := by
  have ahead : start / bitsPerBlock ≤ pkid / bitsPerBlock := Nat.div_le_div_right above
  have reached : pkid / bitsPerBlock ≤ (stop - 1) / bitsPerBlock := Nat.div_le_div_right (by omega)
  unfold findFreeOutboundPkidInRange
  rw [if_neg (by omega)]
  exact scanBlocks_isSome within above below free ahead (by omega)

end

/-- **The scan of a range is a search through it.** -/
theorem findFreeOutboundPkidInRange_eq (ids : PacketIds) (within : stop ≤ fullPacketIdentifierLen) :
    ids.findFreeOutboundPkidInRange start stop =
      ((List.range' start (stop - start)).find? (· ∉ ids.outboundPkidInUse)).map UInt16.ofNat := by
  cases found : ids.findFreeOutboundPkidInRange start stop with
  | none =>
    rw [List.find?_eq_none.mpr fun pkid member => ?_]
    · rfl
    · obtain ⟨above, below⟩ := List.mem_range'_1.mp member
      intro free
      have some := findFreeOutboundPkidInRange_isSome within above (by omega) (of_decide_eq_true free)
      rw [found] at some
      cases some
  | some pkid =>
    unfold findFreeOutboundPkidInRange at found
    split at found
    · cases found
    · rename_i nonempty
      obtain ⟨above, below, free, first⟩ := scanBlocks_some (fun lower above _ before => by
        simp only [bitsPerBlock] at *
        omega) found
      have search : (List.range' start (stop - start)).find? (· ∉ ids.outboundPkidInUse) =
          some pkid.toNat := by
        rw [List.find?_range'_eq_some]
        refine ⟨by simpa using free, List.mem_range'_1.mpr ⟨above, by omega⟩, ?_⟩
        intro lower started before
        simpa using first lower started before
      rw [search, Option.map_some, UInt16.ofNat_toNat]

/-- The identifiers in the order in which they are tried. -/
def cyclicOrder (lastPkid : PacketId) : List Nat :=
  List.range' (lastPkid.toNat + 1) (u16Max - lastPkid.toNat) ++ List.range' 1 lastPkid.toNat

/-- **The next identifier is the first free one in the cyclic order.** -/
theorem nextFreeOutboundPkidAfter_eq
    (available : ids.controlPacketIdentifierAvailable = true) (lastPkid : PacketId) :
    ids.nextFreeOutboundPkidAfter lastPkid =
      ((cyclicOrder lastPkid).find? (· ∉ ids.outboundPkidInUse)).map UInt16.ofNat := by
  have bounded := lastPkid.toNat_lt
  unfold nextFreeOutboundPkidAfter cyclicOrder
  rw [if_neg (by simp [available])]
  dsimp only
  rw [findFreeOutboundPkidInRange_eq _ le_rfl, findFreeOutboundPkidInRange_eq _ (by
    show _ ≤ 65536
    split <;> omega), ← Option.map_or, ← List.find?_append]
  split
  · rename_i last
    rw [last, Nat.sub_self, Nat.sub_self, List.range'_zero, List.range'_zero, List.append_nil,
      List.nil_append, show fullPacketIdentifierLen - 1 = u16Max from rfl]
  · rw [show fullPacketIdentifierLen - (lastPkid.toNat + 1) = u16Max - lastPkid.toNat by
      simp only [fullPacketIdentifierLen, u16Max]; omega, Nat.add_sub_cancel]

/-- **The next identifier is not zero and not reserved.** -/
theorem nextFreeOutboundPkidAfter_free {lastPkid pkid : PacketId}
    (found : ids.nextFreeOutboundPkidAfter lastPkid = some pkid) :
    pkid ≠ 0 ∧ pkid.toNat ∉ ids.outboundPkidInUse := by
  have bounded := lastPkid.toNat_lt
  have available : ids.controlPacketIdentifierAvailable = true := by
    by_contra full
    simp [nextFreeOutboundPkidAfter, full] at found
  rw [nextFreeOutboundPkidAfter_eq available] at found
  obtain ⟨bit, search, rfl⟩ := Option.map_eq_some_iff.mp found
  have member := List.mem_of_find?_eq_some search
  simp only [cyclicOrder, List.mem_append, List.mem_range'_1, u16Max] at member
  have value : (UInt16.ofNat bit).toNat = bit := UInt16.toNat_ofNat_of_lt' (by
    show bit < 65536
    omega)
  refine ⟨fun zero => ?_, by simpa [value] using List.find?_some search⟩
  rw [zero, UInt16.toNat_zero] at value
  omega

/-! ### Valid reservation tables -/

/-- **A valid reservation table**: a bit set over all identifiers without zero, and its count. -/
structure Valid (ids : PacketIds) : Prop where
  length : ids.outboundPkidInUse.length = fullPacketIdentifierLen
  count : ids.outboundPkidCount = ids.outboundPkidInUse.card
  zero : 0 ∉ ids.outboundPkidInUse

theorem valid_new : new.Valid := ⟨rfl, rfl, notMem_withCapacity _ _⟩

/-- The table with an identifier reserved. -/
def reserved (ids : PacketIds) (pkid : PacketId) : PacketIds :=
  { ids with
    outboundPkidInUse := ids.outboundPkidInUse.growAndInsert pkid.toNat
    outboundPkidCount := ids.outboundPkidCount + 1 }

/-- The table with an identifier released. -/
def released (ids : PacketIds) (pkid : PacketId) : PacketIds :=
  { ids with
    outboundPkidInUse := ids.outboundPkidInUse.remove pkid.toNat
    outboundPkidCount := ids.outboundPkidCount - 1 }

namespace Valid

variable {ids : PacketIds} {pkid : PacketId}

section

variable (valid : ids.Valid)
include valid

theorem toNat_lt (pkid : PacketId) :
    pkid.toNat < ids.outboundPkidInUse.length := by
  rw [valid.length]
  exact pkid.toNat_lt

theorem ne_zero (member : pkid.toNat ∈ ids.outboundPkidInUse) : pkid ≠ 0 := by
  rintro rfl
  exact valid.zero member

theorem count_lt (nonzero : pkid ≠ 0)
    (free : pkid.toNat ∉ ids.outboundPkidInUse) : ids.outboundPkidCount < u16Max := by
  have different : 0 ≠ pkid.toNat := fun same => nonzero (UInt16.toNat_inj.mp same.symm)
  have room := card_add_two_le different (valid.toNat_lt 0) (valid.toNat_lt pkid)
    valid.zero free
  rw [valid.length] at room
  rw [valid.count]
  simp only [fullPacketIdentifierLen, u16Max] at *
  omega

theorem count_le : ids.outboundPkidCount ≤ u16Max := by
  have zeroFits := valid.toNat_lt 0
  have room := card_add_length_le (List.nodup_singleton 0)
    (by simpa using zeroFits) (by simpa using valid.zero)
  rw [valid.length] at room
  rw [valid.count]
  simp only [fullPacketIdentifierLen, u16Max, List.length_singleton] at *
  omega

protected theorem reserved (nonzero : pkid ≠ 0)
    (free : pkid.toNat ∉ ids.outboundPkidInUse) : (ids.reserved pkid).Valid where
  length := by
    have := valid.toNat_lt pkid
    simp only [PacketIds.reserved, length_growAndInsert, valid.length] at *
    omega
  count := by
    simp only [PacketIds.reserved, card_growAndInsert free, valid.count]
  zero := by
    simp only [PacketIds.reserved, mem_growAndInsert, not_or]
    exact ⟨fun same => nonzero (UInt16.toNat_inj.mp same.symm), valid.zero⟩

protected theorem released (member : pkid.toNat ∈ ids.outboundPkidInUse) :
    (ids.released pkid).Valid where
  length := valid.length
  count := by simp only [PacketIds.released, card_remove member, valid.count]
  zero := by
    simp only [PacketIds.released, mem_remove, not_and]
    exact fun _ => valid.zero

end

end Valid

variable {ids : PacketIds} {pkid : PacketId}

/-- **Reserving a free identifier succeeds.** -/
theorem reserveOutboundPkid_ok (valid : ids.Valid) (nonzero : pkid ≠ 0)
    (free : pkid.toNat ∉ ids.outboundPkidInUse) :
    ids.reserveOutboundPkid pkid = .ok (.ok (), ids.reserved pkid) := by
  have room := valid.count_lt nonzero free
  simp [reserveOutboundPkid, packetIdentifierInUse, nonzero, free,
    insert_ok (valid.toNat_lt pkid), room, reserved]

theorem reserveOutboundPkid_refused (taken : pkid = 0 ∨ pkid.toNat ∈ ids.outboundPkidInUse) :
    ids.reserveOutboundPkid pkid = .ok (.error .invalidState, ids) := by
  simp [reserveOutboundPkid, packetIdentifierInUse, taken]

/-- **Releasing a reserved identifier does not underflow.** -/
theorem releaseOutboundPkid_ok (valid : ids.Valid) (member : pkid.toNat ∈ ids.outboundPkidInUse) :
    ids.releaseOutboundPkid pkid = .ok (ids.released pkid) := by
  have nonzero := valid.ne_zero member
  have counted : 1 ≤ ids.outboundPkidCount := valid.count ▸ card_pos member
  simp [releaseOutboundPkid, packetIdentifierInUse, nonzero, member,
    set_false_ok (valid.toNat_lt pkid), counted, released]

theorem releaseOutboundPkid_total (valid : ids.Valid) (pkid : PacketId) :
    ∃ rest, ids.releaseOutboundPkid pkid = .ok rest ∧ rest.Valid := by
  by_cases member : pkid.toNat ∈ ids.outboundPkidInUse
  · exact ⟨_, releaseOutboundPkid_ok valid member, valid.released member⟩
  · exact ⟨ids, by simp [releaseOutboundPkid, packetIdentifierInUse, member], valid⟩

theorem acceptReplayedOutboundPkid_ok (nonzero : pkid ≠ 0)
    (member : pkid.toNat ∈ ids.outboundPkidInUse) :
    ids.acceptReplayedOutboundPkid pkid = .ok () := by
  simp [acceptReplayedOutboundPkid, packetIdentifierInUse, nonzero, member]

theorem Valid.exists_free (valid : ids.Valid) (available : ids.outboundPkidCount < u16Max) :
    ∃ bit, 1 ≤ bit ∧ bit < fullPacketIdentifierLen ∧ bit ∉ ids.outboundPkidInUse := by
  by_contra full
  push Not at full
  have within : List.range' 1 u16Max ⊆ ids.outboundPkidInUse.ones := by
    intro bit member
    obtain ⟨above, below⟩ := List.mem_range'_1.mp member
    exact full bit above (by simp only [u16Max, fullPacketIdentifierLen] at *; omega)
  have count := (List.subperm_of_subset List.nodup_range' within).length_le
  rw [List.length_range'] at count
  rw [valid.count] at available
  exact absurd count (Nat.not_le.mpr available)

/-- **While the counter is not full, the search finds an identifier.** -/
theorem Valid.nextFreeOutboundPkidAfter_isSome (valid : ids.Valid)
    (available : ids.controlPacketIdentifierAvailable = true) (lastPkid : PacketId) :
    (ids.nextFreeOutboundPkidAfter lastPkid).isSome := by
  obtain ⟨bit, above, below, free⟩ := valid.exists_free (of_decide_eq_true available)
  rw [nextFreeOutboundPkidAfter_eq available, Option.isSome_map, List.find?_isSome]
  refine ⟨bit, ?_, by simpa using free⟩
  simp only [cyclicOrder, List.mem_append, List.mem_range'_1, u16Max, fullPacketIdentifierLen] at *
  omega

/-- The identifier that the search finds is handed out. -/
theorem nextControlPkid_found (valid : ids.Valid)
    (found : ids.nextFreeOutboundPkidAfter ids.lastPkid = some pkid) :
    ids.nextControlPkid = .ok (.ok pkid, { ids.reserved pkid with lastPkid := pkid }) := by
  obtain ⟨nonzero, free⟩ := nextFreeOutboundPkidAfter_free found
  simp [nextControlPkid, found, reserveOutboundPkid_ok valid nonzero free]

/-- **A control identifier is free when it is handed out, and reserved afterwards.** -/
theorem nextControlPkid_cases (valid : ids.Valid) :
    ids.nextControlPkid = .ok (.error .invalidState, ids) ∨
      ∃ pkid, pkid ≠ 0 ∧ pkid.toNat ∉ ids.outboundPkidInUse ∧
        ids.nextControlPkid = .ok (.ok pkid, { ids.reserved pkid with lastPkid := pkid }) := by
  cases found : ids.nextFreeOutboundPkidAfter ids.lastPkid with
  | none =>
    left
    simp [nextControlPkid, found]
  | some pkid =>
    obtain ⟨nonzero, free⟩ := nextFreeOutboundPkidAfter_free found
    exact .inr ⟨pkid, nonzero, free, nextControlPkid_found valid found⟩

/-! ### The arithmetic of the scan -/

/-- `<<` on a word, which panics at the width of the word. -/
def shl (word amount : Nat) : Checked Nat :=
  if amount < bitsPerBlock then .ok ((word <<< amount) % 2 ^ bitsPerBlock) else .error .shiftOverflow

/-- A storage block. The source reads zero past the end; here that read is a panic. -/
def blockAt (inUse : FixedBitSet) (index : Nat) : Checked Nat :=
  let count := (inUse.length + (bitsPerBlock - 1)) / bitsPerBlock
  if index < count then .ok (inUse.block index) else .error (.indexOutOfBounds index count)

/-- `freeInBlock` with every subtraction, shift and read checked. -/
def checkedFreeInBlock (inUse : FixedBitSet) (start stop blockIndex : Nat) : Checked Nat := do
  let blockStart := blockIndex * bitsPerBlock
  let first := min (start - blockStart) bitsPerBlock
  let last := min (← Checked.sub stop blockStart) bitsPerBlock
  let width := last - first
  if width = 0 then return 0
  let mask ←
    if width = bitsPerBlock then pure (2 ^ bitsPerBlock - 1)
    else do shl (← Checked.sub (← shl 1 width) 1) first
  return ((2 ^ bitsPerBlock - 1) ^^^ (← blockAt inUse blockIndex)) &&& mask

def checkedScanBlocks (inUse : FixedBitSet) (start stop : Nat) : Nat → Nat → Checked (Option PacketId)
  | 0, _ => return none
  | remaining + 1, blockIndex => do
    let free ← checkedFreeInBlock inUse start stop blockIndex
    if free = 0 then checkedScanBlocks inUse start stop remaining (blockIndex + 1)
    else
      let pkid := blockIndex * bitsPerBlock + trailingZeros free
      return if pkid < fullPacketIdentifierLen then some (UInt16.ofNat pkid) else none

def checkedFindFreeOutboundPkidInRange (ids : PacketIds) (start stop : Nat) :
    Checked (Option PacketId) := do
  if start ≥ stop then return none
  let blockIndex := start / bitsPerBlock
  let endBlock := (← Checked.sub stop 1) / bitsPerBlock
  checkedScanBlocks ids.outboundPkidInUse start stop (endBlock + 1 - blockIndex) blockIndex

/-- `next_free_outbound_pkid_after` with the arithmetic of its scans checked. -/
def checkedNextFreeOutboundPkidAfter (ids : PacketIds) (lastPkid : PacketId) :
    Checked (Option PacketId) := do
  if ids.controlPacketIdentifierAvailable = false then return none
  let start := if lastPkid.toNat = u16Max then 1 else lastPkid.toNat + 1
  match ← ids.checkedFindFreeOutboundPkidInRange start fullPacketIdentifierLen with
  | some pkid => return some pkid
  | none => ids.checkedFindFreeOutboundPkidInRange 1 start

theorem shl_ok {word amount : Nat} (narrow : amount < bitsPerBlock)
    (fits : word * 2 ^ amount < 2 ^ bitsPerBlock) : shl word amount = .ok (word <<< amount) := by
  unfold shl
  rw [if_pos narrow, Nat.shiftLeft_eq, Nat.mod_eq_of_lt fits]

/-- The mask of a part of a word loses no bit to its shift. -/
theorem mask_fits {width first : Nat} (room : first + width ≤ bitsPerBlock) :
    (2 ^ width - 1) * 2 ^ first < 2 ^ bitsPerBlock := by
  have whole : 2 ^ width * 2 ^ first ≤ 2 ^ bitsPerBlock := by
    rw [← Nat.pow_add]
    exact Nat.pow_le_pow_right (by decide) (by omega)
  have positive : 0 < 2 ^ first := Nat.two_pow_pos first
  have some : 0 < 2 ^ bitsPerBlock := Nat.two_pow_pos bitsPerBlock
  rw [Nat.sub_mul, Nat.one_mul]
  omega

/-- **A block of the range is looked at without a panic.** -/
theorem checkedFreeInBlock_ok
    (ahead : blockIndex * bitsPerBlock < stop) (within : stop ≤ inUse.length) :
    checkedFreeInBlock inUse start stop blockIndex = .ok (freeInBlock inUse start stop blockIndex) := by
  have read : blockAt inUse blockIndex = .ok (inUse.block blockIndex) := if_pos (by
    simp only [bitsPerBlock] at *
    omega)
  unfold checkedFreeInBlock freeInBlock
  simp only [sub_ok (Nat.le_of_lt ahead), ok_bind, read]
  generalize min (start - blockIndex * bitsPerBlock) bitsPerBlock = first
  have room : min (stop - blockIndex * bitsPerBlock) bitsPerBlock ≤ bitsPerBlock := Nat.min_le_right ..
  generalize min (stop - blockIndex * bitsPerBlock) bitsPerBlock = last at room
  split
  · rfl
  · split
    · rfl
    · rename_i some part
      rw [shl_ok (by omega) (by rw [Nat.one_mul]; exact Nat.pow_lt_pow_right (by decide) (by omega)),
        ok_bind, Nat.one_shiftLeft, sub_ok (Nat.two_pow_pos _), ok_bind,
        shl_ok (by omega) (mask_fits (by omega))]
      rfl

theorem checkedScanBlocks_ok (within : stop ≤ inUse.length)
    (ahead : ∀ index < blockIndex + remaining, index * bitsPerBlock < stop) :
    checkedScanBlocks inUse start stop remaining blockIndex =
      .ok (scanBlocks inUse start stop remaining blockIndex) := by
  induction remaining generalizing blockIndex with
  | zero => rfl
  | succ remaining ih =>
    rw [checkedScanBlocks, checkedFreeInBlock_ok (ahead blockIndex (by omega)) within,
      ok_bind, scanBlocks]
    split
    · exact ih fun index before => ahead index (by omega)
    · rfl

theorem checkedFindFreeOutboundPkidInRange_ok (ids : PacketIds) (start : Nat)
    (within : stop ≤ ids.outboundPkidInUse.length) :
    ids.checkedFindFreeOutboundPkidInRange start stop =
      .ok (ids.findFreeOutboundPkidInRange start stop) := by
  unfold checkedFindFreeOutboundPkidInRange findFreeOutboundPkidInRange
  split
  · rfl
  · rw [sub_ok (by omega), ok_bind]
    refine checkedScanBlocks_ok within fun index before => ?_
    simp only [bitsPerBlock] at *
    omega

/-- **The search for a free identifier.** On every reservation table, after every last identifier, the
word-wise scan runs without an underflow, a shift by the width of the word or a read past the bit set,
and returns the first free identifier in cyclic order. It finds none exactly when all are in use. -/
theorem free_identifier_search (ids : PacketIds) (valid : ids.Valid) (lastPkid : PacketId) :
    ids.checkedNextFreeOutboundPkidAfter lastPkid = .ok (ids.nextFreeOutboundPkidAfter lastPkid) ∧
    ids.nextFreeOutboundPkidAfter lastPkid =
      ((cyclicOrder lastPkid).find? (· ∉ ids.outboundPkidInUse)).map UInt16.ofNat ∧
    (ids.nextFreeOutboundPkidAfter lastPkid = none ↔
      ∀ pkid : PacketId, pkid ≠ 0 → pkid.toNat ∈ ids.outboundPkidInUse) := by
  have bounded := lastPkid.toNat_lt
  -- where the counter is full, every identifier is in use
  have full : ids.controlPacketIdentifierAvailable = false →
      ∀ bit, 1 ≤ bit → bit ≤ u16Max → bit ∈ ids.outboundPkidInUse := by
    intro unavailable bit above below
    by_contra free
    have fits : bit < 65536 := Nat.lt_succ_of_le below
    have value : (UInt16.ofNat bit).toNat = bit := UInt16.toNat_ofNat_of_lt' fits
    have nonzero : UInt16.ofNat bit ≠ 0 := by
      intro zero
      rw [zero, UInt16.toNat_zero] at value
      omega
    have room := valid.count_lt nonzero (by rwa [value])
    exact absurd room (of_decide_eq_false unavailable)
  refine ⟨?_, ?_, ?_⟩
  · unfold checkedNextFreeOutboundPkidAfter nextFreeOutboundPkidAfter
    split
    · rfl
    · have second : (if lastPkid.toNat = u16Max then 1 else lastPkid.toNat + 1) ≤
          ids.outboundPkidInUse.length := by
        rw [valid.length]
        show _ ≤ 65536
        split <;> omega
      simp only [checkedFindFreeOutboundPkidInRange_ok ids _ valid.length.ge,
        checkedFindFreeOutboundPkidInRange_ok ids _ second, ok_bind]
      split <;> simp [*]
  · cases available : ids.controlPacketIdentifierAvailable with
    | true => exact nextFreeOutboundPkidAfter_eq available lastPkid
    | false =>
      rw [List.find?_eq_none.mpr fun bit member => ?_]
      · simp [nextFreeOutboundPkidAfter, available]
      · simp only [cyclicOrder, List.mem_append, List.mem_range'_1, u16Max] at member
        simpa using full available bit (by omega) (by simp only [u16Max]; omega)
  · cases available : ids.controlPacketIdentifierAvailable with
    | true =>
      have found := valid.nextFreeOutboundPkidAfter_isSome available lastPkid
      obtain ⟨pkid, next⟩ := Option.isSome_iff_exists.mp found
      obtain ⟨nonzero, free⟩ := nextFreeOutboundPkidAfter_free next
      rw [next]
      exact iff_of_false (by simp) fun all => free (all pkid nonzero)
    | false =>
      refine iff_of_true (by simp [nextFreeOutboundPkidAfter, available]) fun pkid nonzero => ?_
      refine full available pkid.toNat ?_ (Nat.le_of_lt_succ pkid.toNat_lt)
      exact Nat.pos_of_ne_zero fun zero => nonzero (UInt16.toNat_inj.mp zero)

/-- 1, 8, 9 and 65535 are in use. -/
def fourInUse : PacketIds := (((new.reserved 1).reserved 8).reserved 9).reserved 65535

theorem valid_fourInUse : fourInUse.Valid := by
  have first : (new.reserved 1).Valid := valid_new.reserved (by decide) (by decide +kernel)
  have second : ((new.reserved 1).reserved 8).Valid := first.reserved (by decide) (by decide +kernel)
  have third : (((new.reserved 1).reserved 8).reserved 9).Valid :=
    second.reserved (by decide) (by decide +kernel)
  exact third.reserved (by decide) (by decide +kernel)

/-- After 65534 the search passes 65535, goes on from the beginning and passes 1. -/
theorem free_identifier_search_wrapped :
    fourInUse.Valid ∧ fourInUse.nextFreeOutboundPkidAfter 65534 = some 2 ∧
      fourInUse.nextFreeOutboundPkidAfter 7 = some 10 ∧
      fourInUse.checkedNextFreeOutboundPkidAfter 65534 = .ok (some 2) := by
  have wrapped : fourInUse.nextFreeOutboundPkidAfter 65534 = some 2 := by decide +kernel
  refine ⟨valid_fourInUse, wrapped, by decide +kernel, ?_⟩
  rw [← wrapped]
  exact (free_identifier_search fourInUse valid_fourInUse 65534).1

end PacketIds

end Rumqtt
