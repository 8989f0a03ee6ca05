/-
**The tables that track outbound packet identifiers.**

The same five tables exist in both versions. `Flows.Tracks` says that an identifier has an entry in
one of them; tracked flows never enter an identifier twice (`Tracked.exclusive_tracks`), and every
entry is reserved (`Tracked.inUse_of_tracks`).
-/

import Mathlib.Data.List.Perm.Basic
import Rumqtt.Flows.Tracked

namespace Rumqtt

open List

/-- The tables that track outbound packet identifiers. -/
inductive Table where
  | publish
  | release
  | releaseReplay
  | subscribe
  | unsubscribe
  deriving DecidableEq, Repr

/-- The flow that holds the entries of a table; releases queued for replay belong to the pool. -/
def Table.holder : Table → Holder
  | .publish => .publish
  | .release => .release
  | .releaseReplay => .replay
  | .subscribe => .subscribe
  | .unsubscribe => .unsubscribe

namespace SlotVec

variable {α : Type}

/-- The number of positions that hold an entry. -/
def occupied (v : SlotVec α) : Nat := v.slots.countP Option.isSome

/-- A list of the positions that hold an entry, each once, has as many elements. -/
theorem length_eq_occupied {v : SlotVec α} {order : List Nat} (nodup : order.Nodup)
    (listed : ∀ index, index ∈ order ↔ (v.lookup index).isSome) : order.length = v.occupied := by
  have slots : v.slots = (List.range v.length).map v.lookup := by
    refine ext_getElem (by simp [length]) fun index fits _ => ?_
    simp [lookup, get?, List.getElem?_eq_getElem fits]
  have same : order.Perm ((List.range v.length).filter fun index => (v.lookup index).isSome) := by
    refine (perm_ext_iff_of_nodup nodup (nodup_range.filter _)).mpr fun index => ?_
    rw [mem_filter, mem_range, listed]
    refine ⟨fun held => ⟨?_, held⟩, And.right⟩
    obtain ⟨entry, found⟩ := Option.isSome_iff_exists.mp held
    exact lt_length_of_lookup found
  rw [same.length_eq, occupied, slots, countP_map, countP_eq_length_filter]
  rfl

end SlotVec

namespace Flows

variable {D : Dialect}

/-- The identifier has an entry in the table. -/
def Tracks (f : Flows D) : Table → PacketId → Prop
  | .publish, pkid => (f.outgoingPub.lookup pkid.toNat).isSome
  | .release, pkid => pkid.toNat ∈ f.outgoingRel
  | .releaseReplay, pkid => pkid.toNat ∈ f.outgoingRelReplay
  | .subscribe, pkid => pkid ∈ f.pendingSubscribe
  | .unsubscribe, pkid => pkid ∈ f.pendingUnsubscribe

namespace Tracked

variable {f : Flows D} {pool : List (Request D)} {pkid : PacketId} {table : Table}

/-- An entry of a table is a claim of its flow, or a release that waits to be replayed. -/
theorem claim (tracked : f.Tracked pool) (tracks : f.Tracks table pkid) :
    table = .releaseReplay ∧ pkid ∈ f.outgoingRelReplayOrder ∨
      table ≠ .releaseReplay ∧ f.Holds pool table.holder pkid := by
  cases table with
  | publish => exact .inr ⟨by decide, (tracked.mem_pubOrder pkid).mpr tracks⟩
  | release => exact .inr ⟨by decide, (tracked.mem_relOrder pkid).mpr tracks⟩
  | releaseReplay => exact .inl ⟨rfl, (tracked.mem_relReplayOrder pkid).mpr tracks⟩
  | subscribe => exact .inr ⟨by decide, tracks⟩
  | unsubscribe => exact .inr ⟨by decide, tracks⟩

/-- **No identifier is in two tables.** -/
theorem exclusive_tracks (tracked : f.Tracked pool) : Exclusive f.Tracks := by
  have unclaimed : ∀ {table : Table} {pkid : PacketId}, pkid ∈ f.outgoingRelReplayOrder →
      table ≠ .releaseReplay → ¬ f.Holds pool table.holder pkid := by
    intro table pkid replayed other held
    have same := tracked.ledger.replay_unheld pkid replayed _ held
    cases table with
    | releaseReplay => exact other rfl
    | _ => cases same
  intro first second pkid tracks tracks'
  rcases tracked.claim tracks with ⟨rfl, replayed⟩ | ⟨other, held⟩
  · rcases tracked.claim tracks' with ⟨rfl, -⟩ | ⟨other', held'⟩
    · rfl
    · exact absurd held' (unclaimed replayed other')
  · rcases tracked.claim tracks' with ⟨rfl, replayed⟩ | ⟨other', held'⟩
    · exact absurd held (unclaimed replayed other)
    · have same := tracked.ledger.exclusive held held'
      cases first <;> cases second <;> first | rfl | cases same

/-- **Every identifier in a table is reserved.** -/
theorem inUse_of_tracks (tracked : f.Tracked pool) (tracks : f.Tracks table pkid) :
    pkid.toNat ∈ f.outboundPkidInUse := by
  rcases tracked.claim tracks with ⟨-, replayed⟩ | ⟨-, held⟩
  · exact tracked.ledger.replay_reserved pkid replayed
  · exact tracked.ledger.reserved _ pkid held

theorem map_toNat_nodup {order : List PacketId} (nodup : order.Nodup) :
    (order.map (·.toNat)).Nodup :=
  nodup.map fun _ _ same => UInt16.toNat_inj.mp same

theorem length_pubOrder (tracked : f.Tracked pool) :
    f.outgoingPubOrder.length = f.outgoingPub.occupied := by
  rw [← length_map (f := fun pkid : PacketId => pkid.toNat)]
  refine SlotVec.length_eq_occupied (map_toNat_nodup tracked.pubOrder_nodup) fun index => ?_
  constructor
  · intro member
    obtain ⟨pkid, listed, rfl⟩ := mem_map.mp member
    exact (tracked.mem_pubOrder pkid).mp listed
  · intro held
    obtain ⟨publish, found⟩ := Option.isSome_iff_exists.mp held
    have small := Nat.lt_of_lt_of_le (SlotVec.lt_length_of_lookup found) tracked.lengthLe
    have index_eq : (UInt16.ofNat index).toNat = index := UInt16.toNat_ofNat_of_lt' small
    refine mem_map.mpr ⟨UInt16.ofNat index, (tracked.mem_pubOrder _).mpr ?_, index_eq⟩
    rwa [index_eq]

theorem length_relOrder (tracked : f.Tracked pool) :
    f.outgoingRelOrder.length = f.outgoingRel.card := by
  rw [← length_map (f := fun pkid : PacketId => pkid.toNat)]
  have distinct : f.outgoingRel.ones.Nodup := f.outgoingRel.sorted.imp Nat.ne_of_lt
  refine List.Perm.length_eq ((perm_ext_iff_of_nodup
    (map_toNat_nodup tracked.relOrder_nodup) distinct).mpr fun index => ?_)
  constructor
  · intro member
    obtain ⟨pkid, listed, rfl⟩ := mem_map.mp member
    exact (tracked.mem_relOrder pkid).mp listed
  · intro member
    have small : index < fullPacketIdentifierLen := by
      have inside := f.outgoingRel.bounded index member
      rw [tracked.relLength] at inside
      exact Nat.lt_of_lt_of_le inside tracked.lengthLe
    have index_eq : (UInt16.ofNat index).toNat = index := UInt16.toNat_ofNat_of_lt' small
    refine mem_map.mpr ⟨UInt16.ofNat index, (tracked.mem_relOrder _).mpr ?_, index_eq⟩
    rw [index_eq]
    exact member

end Tracked

end Flows

end Rumqtt
