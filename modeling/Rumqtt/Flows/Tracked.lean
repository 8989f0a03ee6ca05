/-
**The tracking invariant of outbound flows.**

`Tracked f pool` relates the flows of a state machine to the pool of requests that a clean-up or a
restore handed out and that are still to be replayed:

* the five tracking arrays have one length, and each order deque enumerates its storage once;
* every identifier has at most one holder: a publish, a release, a subscribe, an unsubscribe or a
  replay request of the pool, and it is reserved;
* identifiers in `outgoing_rel_replay` are reserved and held by nobody but a PUBREL of the pool.

The invariant is kept by every primitive operation on its own (`Tracked.track`, `Tracked.untrack`,
`Tracked.release`, …), so a handler keeps it by composing them.
-/

import Rumqtt.Flows
import Rumqtt.Lib.Ownership

namespace Rumqtt

open FixedBitSet

variable {D : Dialect}

/-- The packet identifiers owned by requests that wait to be replayed. -/
def poolIds (pool : List (Request D)) : List PacketId := pool.filterMap Request.replayPkid

@[simp] theorem poolIds_nil : poolIds ([] : List (Request D)) = [] := rfl

theorem poolIds_append (first second : List (Request D)) :
    poolIds (first ++ second) = poolIds first ++ poolIds second := List.filterMap_append

theorem mem_poolIds {pool : List (Request D)} {pkid : PacketId} :
    pkid ∈ poolIds pool ↔ ∃ request ∈ pool, request.replayPkid = some pkid := List.mem_filterMap

/-- The flows an outbound packet identifier can belong to. -/
inductive Holder where
  | publish
  | release
  | subscribe
  | unsubscribe
  | replay
  deriving DecidableEq, Repr

namespace Flows

/-- **Which flow owns a packet identifier.** -/
def Holds (f : Flows D) (pool : List (Request D)) : Holder → PacketId → Prop
  | .publish, pkid => pkid ∈ f.outgoingPubOrder
  | .release, pkid => pkid ∈ f.outgoingRelOrder
  | .subscribe, pkid => pkid ∈ f.pendingSubscribe
  | .unsubscribe, pkid => pkid ∈ f.pendingUnsubscribe
  | .replay, pkid => pkid ∈ poolIds pool

theorem Holds.mono {f : Flows D} {pool rest : List (Request D)} (fewer : poolIds rest ⊆ poolIds pool)
    {holder : Holder} {pkid : PacketId} (held : f.Holds rest holder pkid) :
    f.Holds pool holder pkid := by
  cases holder with
  | replay => exact fewer held
  | publish => exact held
  | release => exact held
  | subscribe => exact held
  | unsubscribe => exact held

/-- No flow owns the identifier. -/
def Unheld (f : Flows D) (pool : List (Request D)) (pkid : PacketId) : Prop :=
  ∀ holder, ¬ f.Holds pool holder pkid

/-- **Who holds which identifier**, against the reserved set and the releases queued for replay. -/
structure Ledger (holds : Holder → PacketId → Prop) (inUse : FixedBitSet)
    (relReplay : List PacketId) : Prop where
  exclusive : Exclusive holds
  reserved : ∀ holder pkid, holds holder pkid → pkid.toNat ∈ inUse
  replay_reserved : ∀ pkid ∈ relReplay, pkid.toNat ∈ inUse
  replay_unheld : ∀ pkid ∈ relReplay, ∀ holder, holds holder pkid → holder = .replay

namespace Ledger

variable {holds : Holder → PacketId → Prop} {inUse : FixedBitSet} {relReplay : List PacketId}
  {owner : Holder} {pkid : PacketId}

section

variable (ledger : Ledger holds inUse relReplay)
include ledger

/-- A reserved identifier that nobody holds goes to a flow. -/
protected theorem acquire (member : pkid.toNat ∈ inUse)
    (unheld : ∀ holder, ¬ holds holder pkid) (notReplay : pkid ∉ relReplay) :
    Ledger (acquire holds owner pkid) inUse relReplay where
  exclusive := ledger.exclusive.acquire unheld
  reserved := by
    rintro holder other (old | ⟨-, rfl⟩)
    · exact ledger.reserved holder other old
    · exact member
  replay_reserved := ledger.replay_reserved
  replay_unheld := by
    rintro other replayed holder (old | ⟨-, rfl⟩)
    · exact ledger.replay_unheld other replayed holder old
    · exact absurd replayed notReplay

/-- A reserved identifier that nobody holds goes to the pool, also when its release is queued. -/
theorem grant (member : pkid.toNat ∈ inUse) (unheld : ∀ holder, ¬ holds holder pkid) :
    Ledger (Rumqtt.acquire holds .replay pkid) inUse relReplay where
  exclusive := ledger.exclusive.acquire unheld
  reserved := by
    rintro holder other (old | ⟨-, rfl⟩)
    · exact ledger.reserved holder other old
    · exact member
  replay_reserved := ledger.replay_reserved
  replay_unheld := by
    rintro other replayed holder (old | ⟨same, -⟩)
    · exact ledger.replay_unheld other replayed holder old
    · exact same

/-- Fewer claims, and fewer queued releases. -/
theorem mono {after : Holder → PacketId → Prop}
    {rest : List PacketId} (fewer : ∀ holder pkid, after holder pkid → holds holder pkid)
    (shorter : ∀ pkid ∈ rest, pkid ∈ relReplay) : Ledger after inUse rest where
  exclusive := ledger.exclusive.mono fewer
  reserved := fun holder pkid held => ledger.reserved holder pkid (fewer holder pkid held)
  replay_reserved := fun pkid member => ledger.replay_reserved pkid (shorter pkid member)
  replay_unheld := fun pkid member holder held =>
    ledger.replay_unheld pkid (shorter pkid member) holder (fewer holder pkid held)

protected theorem drop :
    Ledger (drop holds owner pkid) inUse relReplay :=
  ledger.mono (fun _ _ kept => kept.1) fun _ member => member

theorem insert (bit : Nat) :
    Ledger holds (inUse.growAndInsert bit) relReplay where
  exclusive := ledger.exclusive
  reserved := fun holder pkid held =>
    (mem_growAndInsert ..).mpr (.inr (ledger.reserved holder pkid held))
  replay_reserved := fun pkid member =>
    (mem_growAndInsert ..).mpr (.inr (ledger.replay_reserved pkid member))
  replay_unheld := ledger.replay_unheld

theorem remove (unheld : ∀ holder, ¬ holds holder pkid)
    (notReplay : pkid ∉ relReplay) : Ledger holds (inUse.remove pkid.toNat) relReplay where
  exclusive := ledger.exclusive
  reserved := by
    intro holder other held
    refine (mem_remove ..).mpr ⟨?_, ledger.reserved holder other held⟩
    intro same
    rw [UInt16.toNat_inj] at same
    exact unheld holder (same ▸ held)
  replay_reserved := by
    intro other replayed
    refine (mem_remove ..).mpr ⟨?_, ledger.replay_reserved other replayed⟩
    intro same
    rw [UInt16.toNat_inj] at same
    exact notReplay (same ▸ replayed)
  replay_unheld := ledger.replay_unheld

end

end Ledger

/-- **The tracking invariant**, relative to the pool of requests still to be replayed. -/
structure Tracked (f : Flows D) (pool : List (Request D)) : Prop where
  ids : f.toPacketIds.Valid
  noticeLength : f.outgoingPubNotice.length = f.outgoingPub.length
  relNoticeLength : f.outgoingRelNotice.length = f.outgoingPub.length
  relLength : f.outgoingRel.length = f.outgoingPub.length
  relReplayLength : f.outgoingRelReplay.length = f.outgoingPub.length
  lengthLe : f.outgoingPub.length ≤ fullPacketIdentifierLen
  mem_pubOrder : ∀ pkid, pkid ∈ f.outgoingPubOrder ↔ (f.outgoingPub.lookup pkid.toNat).isSome
  mem_relOrder : ∀ pkid, pkid ∈ f.outgoingRelOrder ↔ pkid.toNat ∈ f.outgoingRel
  mem_relReplayOrder : ∀ pkid, pkid ∈ f.outgoingRelReplayOrder ↔ pkid.toNat ∈ f.outgoingRelReplay
  pubOrder_nodup : f.outgoingPubOrder.Nodup
  relOrder_nodup : f.outgoingRelOrder.Nodup
  relReplayOrder_nodup : f.outgoingRelReplayOrder.Nodup
  stored : ∀ pkid publish, f.outgoingPub.lookup pkid.toNat = some publish →
    publish.pkid = pkid ∧ publish.qos ≠ .atMostOnce
  parked : ∀ publish, f.collision = some publish → publish.qos ≠ .atMostOnce
  subscribed : ∀ (pkid : PacketId) (pending : PendingSubscribe D),
    f.pendingSubscribe[pkid]? = some pending → pending.subscribe.pkid = pkid
  unsubscribed : ∀ (pkid : PacketId) (pending : PendingUnsubscribe D),
    f.pendingUnsubscribe[pkid]? = some pending → pending.unsubscribe.pkid = pkid
  ledger : Ledger (f.Holds pool) f.outboundPkidInUse f.outgoingRelReplayOrder
  pool_nodup : (poolIds pool).Nodup
  replay_kind : ∀ request ∈ pool, ∀ pkid, request.replayPkid = some pkid →
    (pkid ∈ f.outgoingRelReplayOrder ↔ request.pubRelPkid? = some pkid)

namespace Tracked

variable {f : Flows D} {pool : List (Request D)} {pkid : PacketId}

/-! ### Reading the invariant -/

section

variable (tracked : f.Tracked pool)
include tracked

theorem lt_of_mem_pubOrder (member : pkid ∈ f.outgoingPubOrder) :
    pkid.toNat < f.outgoingPub.length := by
  obtain ⟨publish, held⟩ := Option.isSome_iff_exists.mp ((tracked.mem_pubOrder pkid).mp member)
  exact SlotVec.lt_length_of_lookup held

theorem lt_of_mem_relOrder (member : pkid ∈ f.outgoingRelOrder) :
    pkid.toNat < f.outgoingPub.length := by
  rw [← tracked.relLength]
  exact lt_length ((tracked.mem_relOrder pkid).mp member)

theorem lt_of_mem_relReplayOrder
    (member : pkid ∈ f.outgoingRelReplayOrder) : pkid.toNat < f.outgoingPub.length := by
  rw [← tracked.relReplayLength]
  exact lt_length ((tracked.mem_relReplayOrder pkid).mp member)

theorem ne_zero_of_holds {holder : Holder} (held : f.Holds pool holder pkid) : pkid ≠ 0 :=
  tracked.ids.ne_zero (tracked.ledger.reserved holder pkid held)

theorem unheld_of_free (free : pkid.toNat ∉ f.outboundPkidInUse) :
    f.Unheld pool pkid := fun holder held => free (tracked.ledger.reserved holder pkid held)

theorem notMem_relReplayOrder_of_free
    (free : pkid.toNat ∉ f.outboundPkidInUse) : pkid ∉ f.outgoingRelReplayOrder :=
  fun member => free (tracked.ledger.replay_reserved pkid member)

end

end Tracked

end Flows

end Rumqtt
