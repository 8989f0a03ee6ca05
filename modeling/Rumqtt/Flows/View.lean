/-
**An abstract view of the outbound flows.**

`Flows.view` forgets storage, notices and capacities and keeps which identifiers are reserved and what
for. The operations of both state machines act on it as a few moves (`FlowView.send`, `FlowView.ack`,
…). `RequestMove` and `PacketMove` list the moves that a request or an incoming packet can make; each
protocol version proves that its outcomes are among them, and invariants of whole runs are proved from
the lists alone.
-/

import Rumqtt.Flows.HandedOut
import Rumqtt.Flows.Restore

namespace Rumqtt

/-- **What the outbound flows are, seen from outside.** -/
@[ext] structure FlowView where
  /-- Unacknowledged publishes, in send order. -/
  publishes : List PacketId
  /-- Active releases, in receipt order. -/
  releases : List PacketId
  /-- Releases that wait to be replayed. -/
  resumable : List PacketId
  /-- Subscribes and unsubscribes without an answer. -/
  controls : PacketId → Prop
  reserved : PacketId → Prop
  /-- The identifier of the publish that waits for the flow that owns it. -/
  parked : Option PacketId

namespace FlowView

/-! ### Moves -/

section

variable (v : FlowView) (pkid : PacketId)

def reserve : FlowView :=
  { v with reserved := fun other => other = pkid ∨ v.reserved other }

def unreserve : FlowView :=
  { v with reserved := fun other => other ≠ pkid ∧ v.reserved other }

/-- A publish that owns its identifier is sent. -/
def resend : FlowView :=
  { v with publishes := v.publishes ++ [pkid] }

/-- A fresh publish is sent. -/
def send : FlowView := (v.reserve pkid).resend pkid

def park : FlowView := { v with parked := some pkid }

/-- The parked publish is sent. -/
def unpark : FlowView := { v.send pkid with parked := none }

/-- A publish is over. -/
def ack : FlowView :=
  { v.unreserve pkid with publishes := v.publishes.erase pkid }

/-- A publish has been received and waits for its completion. -/
def receive : FlowView :=
  { v with publishes := v.publishes.erase pkid, releases := v.releases ++ [pkid] }

/-- A release that was to be replayed is active. -/
def resume : FlowView :=
  { v with resumable := v.resumable.erase pkid, releases := v.releases ++ [pkid] }

/-- A release is over. -/
def complete : FlowView :=
  { v.unreserve pkid with releases := v.releases.erase pkid }

/-- A control request that owns its identifier is sent. -/
def askAgain : FlowView :=
  { v with controls := fun other => other = pkid ∨ v.controls other }

/-- A fresh control request is sent. -/
def ask : FlowView := (v.reserve pkid).askAgain pkid

/-- A control request has its answer. -/
def answer : FlowView :=
  { v.unreserve pkid with controls := fun other => other ≠ pkid ∧ v.controls other }

end

/-- The connection is lost: every flow is handed out for replay. -/
def clean (v : FlowView) : FlowView :=
  { v with
    publishes := []
    releases := []
    resumable := v.resumable ++ v.releases
    controls := fun _ => False
    parked := none }

/-- The end of a flow lets a publish that was parked on its identifier go out. -/
inductive Settle (v : FlowView) (pkid : PacketId) : Option PacketId → FlowView → Prop where
  | quiet (other : v.parked ≠ some pkid) : Settle v pkid none v
  | unparked (parked : v.parked = some pkid) : Settle v pkid (some pkid) (v.unpark pkid)

end FlowView

/-- The incoming packets that matter to outbound flows. -/
inductive FlowPacket where
  | puback (pkid : PacketId)
  | pubrec (pkid : PacketId)
  /-- A PUBREC that refuses the publish. -/
  | refusal (pkid : PacketId)
  | pubcomp (pkid : PacketId)
  | control (pkid : PacketId)
  | other
  deriving DecidableEq, Repr

section Moves

variable {D : Dialect}

/-- **The moves of a request**, with the identifier of the QoS 1 or QoS 2 publish it puts on the wire.
`room` is what the version requires before it sends one. -/
inductive RequestMove (room : Prop) (v : FlowView) :
    Request D → Bool → Option PacketId → FlowView → Prop where
  | kept (request : Request D) (replay : Bool) : RequestMove room v request replay none v
  | sent (publish : Publish D) (pkid : PacketId) (acked : publish.qos ≠ .atMostOnce) (roomy : room)
    (free : ¬ v.reserved pkid) :
    RequestMove room v (.publish publish) false (some pkid) (v.send pkid)
  | parked (publish : Publish D) (given : publish.pkid ∈ v.publishes) :
    RequestMove room v (.publish publish) false none (v.park publish.pkid)
  | resent (publish : Publish D) (acked : publish.qos ≠ .atMostOnce) (roomy : room) :
    RequestMove room v (.publish publish) true (some publish.pkid) (v.resend publish.pkid)
  | resumed (pubrel : D.PubRel) (replay : Bool) (member : D.pubRelPkid pubrel ∈ v.resumable) :
    RequestMove room v (.pubRel pubrel) replay none (v.resume (D.pubRelPkid pubrel))
  | subscribed (subscribe : Subscribe D) (pkid : PacketId) (free : ¬ v.reserved pkid) :
    RequestMove room v (.subscribe subscribe) false none (v.ask pkid)
  | unsubscribed (unsubscribe : Unsubscribe D) (pkid : PacketId) (free : ¬ v.reserved pkid) :
    RequestMove room v (.unsubscribe unsubscribe) false none (v.ask pkid)
  | subscribedAgain (subscribe : Subscribe D) :
    RequestMove room v (.subscribe subscribe) true none (v.askAgain subscribe.pkid)
  | unsubscribedAgain (unsubscribe : Unsubscribe D) :
    RequestMove room v (.unsubscribe unsubscribe) true none (v.askAgain unsubscribe.pkid)

/-- **The moves of an incoming packet**, accepted or not, with the identifier of the publish that it
puts on the wire. -/
inductive PacketMove (v : FlowView) : FlowPacket → Bool → Option PacketId → FlowView → Prop where
  | rejected (packet : FlowPacket) : PacketMove v packet false none v
  | other : PacketMove v .other true none v
  | acked (pkid : PacketId) (member : pkid ∈ v.publishes) (written : Option PacketId) (w : FlowView)
    (settled : (v.ack pkid).Settle pkid written w) : PacketMove v (.puback pkid) true written w
  | refused (pkid : PacketId) (member : pkid ∈ v.publishes) (written : Option PacketId) (w : FlowView)
    (settled : (v.ack pkid).Settle pkid written w) : PacketMove v (.refusal pkid) true written w
  | received (pkid : PacketId) (member : pkid ∈ v.publishes) :
    PacketMove v (.pubrec pkid) true none (v.receive pkid)
  | completed (pkid : PacketId) (member : pkid ∈ v.releases) (written : Option PacketId)
    (w : FlowView) (settled : (v.complete pkid).Settle pkid written w) :
    PacketMove v (.pubcomp pkid) true written w
  | answered (pkid : PacketId) (waiting : v.controls pkid) :
    PacketMove v (.control pkid) true none (v.answer pkid)

end Moves

namespace Flows

variable {D : Dialect}

/-! ### The view of the flows -/

section

variable (f : Flows D)

def view : FlowView where
  publishes := f.outgoingPubOrder
  releases := f.outgoingRelOrder
  resumable := f.outgoingRelReplayOrder
  controls := fun pkid => pkid ∈ f.pendingSubscribe ∨ pkid ∈ f.pendingUnsubscribe
  reserved := fun pkid => pkid.toNat ∈ f.outboundPkidInUse
  parked := f.collision.map (·.pkid)

@[simp] theorem view_ensureCapacity (targetLen : Nat) :
    (f.ensureOutgoingTrackingCapacity targetLen).view = f.view := rfl

@[simp] theorem view_setLastPkid (pkid : PacketId) :
    view { f with lastPkid := pkid } = f.view := rfl

@[simp] theorem view_withReserved (pkid : PacketId) :
    (f.withReserved pkid).view = f.view.reserve pkid := by
  ext other <;> try rfl
  show other.toNat ∈ f.outboundPkidInUse.growAndInsert pkid.toNat ↔ _
  rw [FixedBitSet.mem_growAndInsert, UInt16.toNat_inj]
  rfl

@[simp] theorem view_withReleased (pkid : PacketId) :
    (f.withReleased pkid).view = f.view.unreserve pkid := by
  ext other <;> try rfl
  show other.toNat ∈ f.outboundPkidInUse.remove pkid.toNat ↔ _
  rw [FixedBitSet.mem_remove, ne_eq, UInt16.toNat_inj]
  rfl

@[simp] theorem view_withPublish (publish : Publish D) (notice : Option NoticeId) :
    (f.withPublish publish notice).view = f.view.resend publish.pkid := rfl

section

variable (pkid : PacketId)

@[simp] theorem view_withReleaseResumed :
    (f.withReleaseResumed pkid).view = f.view.resume pkid := rfl

@[simp] theorem view_withReleaseNote (notice : Option NoticeId) :
    (f.withReleaseNote pkid notice).view = f.view := rfl

@[simp] theorem view_received (notice : Option NoticeId) :
    ((f.withoutPublish pkid).withRelease pkid notice).view = f.view.receive pkid := rfl

theorem view_acked :
    ((f.withoutPublish pkid).withReleased pkid).view = f.view.ack pkid := by
  rw [view_withReleased]
  rfl

theorem view_completed :
    ((f.withoutRelease pkid).withReleased pkid).view = f.view.complete pkid := by
  rw [view_withReleased]
  rfl

end

theorem view_unparked {publish : Publish D} {pkid : PacketId}
    (same : publish.pkid = pkid) (notice : Option NoticeId) :
    ((f.unparking pkid).withPublish publish notice).view = f.view.unpark pkid := by
  unfold unparking
  rw [view_withPublish, view_withReserved, same]
  rfl

theorem view_insertSubscribe (pkid : PacketId) (pending : PendingSubscribe D) :
    view { f with pendingSubscribe := f.pendingSubscribe.insert pkid pending } =
      f.view.askAgain pkid := by
  ext other <;> try rfl
  show other ∈ f.pendingSubscribe.insert pkid pending ∨ _ ↔ _
  rw [Std.TreeMap.mem_insert, Std.compare_eq_iff_eq, eq_comm, or_assoc]
  rfl

theorem view_insertUnsubscribe (pkid : PacketId) (pending : PendingUnsubscribe D) :
    view { f with pendingUnsubscribe := f.pendingUnsubscribe.insert pkid pending } =
      f.view.askAgain pkid := by
  ext other <;> try rfl
  show _ ∨ other ∈ f.pendingUnsubscribe.insert pkid pending ↔ _
  rw [Std.TreeMap.mem_insert, Std.compare_eq_iff_eq, eq_comm, or_left_comm]
  rfl

theorem view_cleaned : f.cleaned.view = f.view.clean := by
  ext other <;> try rfl
  show other ∈ (∅ : Std.TreeMap PacketId (PendingSubscribe D)) ∨
    other ∈ (∅ : Std.TreeMap PacketId (PendingUnsubscribe D)) ↔ False
  simp

/-- Nothing is left to see of flows that have drained, so a shrink changes nothing. -/
theorem view_shrinkTo (drained : f.drained = true) (targetLen : Nat) :
    (f.shrinkTo targetLen).view = f.view := by
  simp only [Flows.drained, Bool.and_eq_true, List.isEmpty_iff] at drained
  ext other <;> try rfl
  · simp [view, shrinkTo, drained]
  · simp [view, shrinkTo, drained]

end

namespace Tracked

variable {f : Flows D} {pool : List (Request D)} {pkid : PacketId}

theorem view_eraseSubscribe (tracked : f.Tracked pool) (waiting : pkid ∈ f.pendingSubscribe) :
    (Flows.withReleased { f with pendingSubscribe := f.pendingSubscribe.erase pkid } pkid).view =
      f.view.answer pkid := by
  have alone : pkid ∉ f.pendingUnsubscribe := fun other =>
    nomatch tracked.ledger.exclusive (show f.Holds pool .subscribe pkid from waiting)
      (show f.Holds pool .unsubscribe pkid from other)
  rw [view_withReleased]
  ext other <;> try rfl
  show other ∈ f.pendingSubscribe.erase pkid ∨ other ∈ f.pendingUnsubscribe ↔
    other ≠ pkid ∧ (other ∈ f.pendingSubscribe ∨ other ∈ f.pendingUnsubscribe)
  rw [Std.TreeMap.mem_erase, ne_eq, Std.compare_eq_iff_eq, eq_comm]
  grind

theorem view_eraseUnsubscribe (tracked : f.Tracked pool) (waiting : pkid ∈ f.pendingUnsubscribe) :
    (Flows.withReleased { f with pendingUnsubscribe := f.pendingUnsubscribe.erase pkid } pkid).view =
      f.view.answer pkid := by
  have alone : pkid ∉ f.pendingSubscribe := fun other =>
    nomatch tracked.ledger.exclusive (show f.Holds pool .subscribe pkid from other)
      (show f.Holds pool .unsubscribe pkid from waiting)
  rw [view_withReleased]
  ext other <;> try rfl
  show other ∈ f.pendingSubscribe ∨ other ∈ f.pendingUnsubscribe.erase pkid ↔
    other ≠ pkid ∧ (other ∈ f.pendingSubscribe ∨ other ∈ f.pendingUnsubscribe)
  rw [Std.TreeMap.mem_erase, ne_eq, Std.compare_eq_iff_eq, eq_comm]
  grind

end Tracked

end Flows

end Rumqtt
