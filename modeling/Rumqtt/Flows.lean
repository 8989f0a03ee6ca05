/-
**Outbound flows: what a client still owes an answer for.**

The MQTT 5 and the MQTT 3.1.1 state machines track their unacknowledged publishes, releases,
subscribes and unsubscribes in the same fields, with the same code around them. `Flows` is that
shared part of `MqttState`: indexed storage for publishes and their notices, bit sets for releases,
one order deque for each, ordered maps for control requests and the packet identifier table.

The operations keep the source's names. Where both versions inline the same few statements in
several handlers, those statements are one operation here: `takePublish` (a publish leaves on PUBACK
or PUBREC), `recordRelease`, `takeRelease` and `trackPublish`.
-/

import Std.Data.TreeMap
import Rumqtt.Lib.SlotVec
import Rumqtt.PacketIds

namespace Rumqtt

structure PendingSubscribe (D : Dialect) where
  subscribe : Subscribe D
  notice : Option NoticeId

structure PendingUnsubscribe (D : Dialect) where
  unsubscribe : Unsubscribe D
  notice : Option NoticeId

/-- **The outbound flows of a session.** -/
structure Flows (D : Dialect) extends PacketIds where
  /-- Outgoing QoS 1 and QoS 2 publishes which are not acknowledged yet. -/
  outgoingPub : SlotVec (Publish D)
  /-- Their packet identifiers in original send order. -/
  outgoingPubOrder : List PacketId
  outgoingPubNotice : SlotVec NoticeId
  /-- Identifiers of released QoS 2 publishes. -/
  outgoingRel : FixedBitSet
  /-- The same in receipt order of their PUBREC. -/
  outgoingRelOrder : List PacketId
  /-- Identifiers of released publishes queued for replay after a clean. -/
  outgoingRelReplay : FixedBitSet
  outgoingRelReplayOrder : List PacketId
  outgoingRelNotice : SlotVec NoticeId
  /-- A publish parked until the flow that owns its identifier completes. -/
  collision : Option (Publish D)
  collisionNotice : Option NoticeId
  pendingSubscribe : Std.TreeMap PacketId (PendingSubscribe D)
  pendingUnsubscribe : Std.TreeMap PacketId (PendingUnsubscribe D)

/-- `WARM_TRACKING_SLOTS` -/
def warmTrackingSlots : Nat := 32

def outgoingTrackingLen (maxInflight : Nat) : Nat := maxInflight + 1

def warmTrackingLen (maxInflight : Nat) : Nat :=
  let fullLen := outgoingTrackingLen maxInflight
  let warmLen := warmTrackingSlots + 1
  if fullLen < warmLen then fullLen else warmLen

def validateOutgoingPkid (pkid : PacketId) : Except StateError Unit :=
  if pkid = 0 then .error (.unsolicited pkid) else .ok ()

/-- `remove_ordered_pkid` -/
def removeOrderedPkid (order : List PacketId) (pkid : PacketId) : List PacketId := order.erase pkid

namespace Flows

variable {D : Dialect}

/-- The outbound part of a new state. -/
def new (maxInflight : Nat) : Flows D where
  toPacketIds := .new
  outgoingPub := .withLength (warmTrackingLen maxInflight)
  outgoingPubOrder := []
  outgoingPubNotice := .withLength (warmTrackingLen maxInflight)
  outgoingRel := .withCapacity (warmTrackingLen maxInflight)
  outgoingRelOrder := []
  outgoingRelReplay := .withCapacity (warmTrackingLen maxInflight)
  outgoingRelReplayOrder := []
  outgoingRelNotice := .withLength (warmTrackingLen maxInflight)
  collision := none
  collisionNotice := none
  pendingSubscribe := ∅
  pendingUnsubscribe := ∅

/-! ### Tracking capacity -/

/-- Every tracking array grows to the target length; none shrinks. -/
def ensureOutgoingTrackingCapacity (f : Flows D) (targetLen : Nat) : Flows D :=
  { f with
    outgoingPub := f.outgoingPub.growTo targetLen
    outgoingPubNotice := f.outgoingPubNotice.growTo targetLen
    outgoingRelNotice := f.outgoingRelNotice.growTo targetLen
    outgoingRel := f.outgoingRel.grow targetLen
    outgoingRelReplay := f.outgoingRelReplay.grow targetLen }

/-- The part of `outbound_requests_drained` that both versions share. -/
def drained (f : Flows D) : Bool :=
  f.collision.isNone && f.collisionNotice.isNone && f.pendingSubscribe.isEmpty &&
    f.pendingUnsubscribe.isEmpty && f.outgoingPub.allNone && f.outgoingPubOrder.isEmpty &&
    f.outgoingPubNotice.allNone && f.outgoingRelNotice.allNone && f.outgoingRel.isClear &&
    f.outgoingRelOrder.isEmpty && f.outgoingRelReplay.isClear &&
    f.outgoingRelReplayOrder.isEmpty && f.outboundPkidCount == 0

/-- What `maybe_shrink_outgoing_tracking_capacity` does once everything has drained. -/
def shrinkTo (f : Flows D) (targetLen : Nat) : Flows D :=
  { f with
    outgoingPub := f.outgoingPub.truncate targetLen
    outgoingPubNotice := f.outgoingPubNotice.truncate targetLen
    outgoingRelNotice := f.outgoingRelNotice.truncate targetLen
    outgoingRel := .withCapacity targetLen
    outgoingRelOrder := []
    outgoingRelReplay := .withCapacity targetLen
    outgoingRelReplayOrder := []
    lastPkid := 0 }

/-! ### Publishes and releases -/

section

variable (f : Flows D)

/-- Stores a publish that is about to be written: `outgoing_pub`, its order and its notice. -/
def trackPublish (publish : Publish D) (notice : Option NoticeId) :
    Checked (Flows D) := do
  let outgoingPub ← f.outgoingPub.store publish.pkid.toNat (some publish)
  let outgoingPubNotice ← f.outgoingPubNotice.store publish.pkid.toNat notice
  return { f with
    outgoingPub, outgoingPubNotice
    outgoingPubOrder := f.outgoingPubOrder ++ [publish.pkid] }

section

variable (pkid : PacketId)

/-- A PUBACK or PUBREC takes the publish out of the tracking, with its notice. -/
def takePublish :
    Checked (Except StateError (Option NoticeId) × Flows D) :=
  match f.outgoingPub.get? pkid.toNat with
  | none | some none => return (.error (.unsolicited pkid), f)
  | some (some _) => do
    let (notice, outgoingPubNotice) ← f.outgoingPubNotice.take pkid.toNat
    return (.ok notice, { f with
      outgoingPub := f.outgoingPub.write pkid.toNat none
      outgoingPubOrder := removeOrderedPkid f.outgoingPubOrder pkid
      outgoingPubNotice })

/-- A successful PUBREC turns the publish into a release that waits for its PUBCOMP. -/
def recordRelease (notice : Option NoticeId) :
    Checked (Flows D) := do
  let outgoingRel ← f.outgoingRel.insert pkid.toNat
  let outgoingRelNotice ← f.outgoingRelNotice.store pkid.toNat notice
  return { f with
    outgoingRel, outgoingRelNotice
    outgoingRelOrder := f.outgoingRelOrder ++ [pkid] }

/-- A PUBCOMP takes the release out of the tracking, with its notice. -/
def takeRelease :
    Checked (Except StateError (Option NoticeId) × Flows D) := do
  if f.outgoingRel.contains pkid.toNat = false then
    return (.error (.unsolicited pkid), f)
  let outgoingRel ← f.outgoingRel.set pkid.toNat false
  let (notice, outgoingRelNotice) ← f.outgoingRelNotice.take pkid.toNat
  return (.ok notice, { f with
    outgoingRel, outgoingRelNotice
    outgoingRelOrder := removeOrderedPkid f.outgoingRelOrder pkid })

/-- A replayed PUBREL becomes an active release again. -/
def resumeRelease : Checked (Flows D) := do
  let outgoingRelReplay ← f.outgoingRelReplay.set pkid.toNat false
  let outgoingRel ← f.outgoingRel.insert pkid.toNat
  return { f with
    outgoingRelReplay, outgoingRel
    outgoingRelReplayOrder := removeOrderedPkid f.outgoingRelReplayOrder pkid
    outgoingRelOrder := f.outgoingRelOrder ++ [pkid] }

/-- The last statement of `save_pubrel_with_notice`: a missing notice does not replace one. -/
def noteRelease (notice : Option NoticeId) : Checked (Flows D) := do
  if notice.isSome || (← f.outgoingRelNotice.isNoneAt pkid.toNat) then
    let outgoingRelNotice ← f.outgoingRelNotice.store pkid.toNat notice
    return { f with outgoingRelNotice }
  else
    return f

end

/-- The parked publish taken out, with its notice. -/
def withoutCollision : Flows D := { f with collision := none, collisionNotice := none }

/-- `check_collision`: the parked publish, if it waits for this identifier. -/
def checkCollision (pkid : PacketId) :
    Option (Publish D × Option NoticeId) × Flows D :=
  match f.collision with
  | some publish =>
    if publish.pkid = pkid then (some (publish, f.collisionNotice), f.withoutCollision)
    else (none, f)
  | none => (none, f)

end

/-! ### Reserved identifiers -/

section

variable (f : Flows D)

def reserve (pkid : PacketId) : Checked (Except StateError Unit × Flows D) := do
  let (result, ids) ← f.toPacketIds.reserveOutboundPkid pkid
  return (result, { f with toPacketIds := ids })

/-- The reservation of a parked publish, whose identifier has just been released. -/
def reserveReleased (pkid : PacketId) : Checked (Flows D) := do
  match ← f.reserve pkid with
  | (.ok (), f) => return f
  | (.error _, _) =>
    .error (.expectFailed "collision replay packet identifier should have been released")

def release (pkid : PacketId) : Checked (Flows D) := do
  let ids ← f.toPacketIds.releaseOutboundPkid pkid
  return { f with toPacketIds := ids }

/-- Releases a list of identifiers, first to last. -/
def releaseAll (pkids : List PacketId) : Checked (Flows D) := pkids.foldlM release f

/-- `discard_replayed_request`: a replayed request that will not be sent gives its identifier up. -/
def discardReplayedRequest : Request D → Checked (Flows D)
  | .publish publish => if publish.qos ≠ .atMostOnce then f.release publish.pkid else return f
  | .pubRel pubrel => do
    let pkid := D.pubRelPkid pubrel
    let outgoingRelReplay ← f.outgoingRelReplay.set pkid.toNat false
    let f := { f with
      outgoingRelReplay
      outgoingRelReplayOrder := removeOrderedPkid f.outgoingRelReplayOrder pkid }
    f.release pkid
  | .subscribe subscribe => f.release subscribe.pkid
  | .unsubscribe unsubscribe => f.release unsubscribe.pkid
  | _ => return f

/-- Whether another flow than a publish holds the identifier. -/
def heldByOtherFlow (pkid : PacketId) : Bool :=
  f.outgoingRel.contains pkid.toNat || f.outgoingRelReplay.contains pkid.toNat ||
    f.pendingSubscribe.contains pkid || f.pendingUnsubscribe.contains pkid

/-- The part of `can_send_replayed_publish` that does not look at the window. -/
def replayedPublishIdentifierReady (pkid : PacketId) : Bool :=
  (validateOutgoingPkid pkid).isOk && f.packetIdentifierInUse pkid &&
    f.outgoingPub.get? pkid.toNat matches some none && !f.heldByOtherFlow pkid

/-- `can_send_replayed_control_packet` -/
def canSendReplayedControlPacket (pkid : PacketId) : Bool :=
  pkid != 0 && f.packetIdentifierInUse pkid && !f.heldByOtherFlow pkid

end

/-! ### Clean-up -/

/-- Packet identifiers of stored publishes that the order deque misses are appended to it. -/
def fillPubOrder (f : Flows D) : Checked (List PacketId) :=
  (List.range' 1 (f.outgoingPub.length - 1)).foldlM
    (fun order index =>
      if fullPacketIdentifierLen ≤ index then
        .error (.expectFailed "outgoing tracking index fits in u16")
      else
        let pkid := UInt16.ofNat index
        if (f.outgoingPub.lookup index).isSome ∧ pkid ∉ order then .ok (order ++ [pkid])
        else .ok order)
    f.outgoingPubOrder

/-- Identifiers of active releases that the order deque misses are appended to it. -/
def fillRelOrder (f : Flows D) : Checked (List PacketId) :=
  f.outgoingRel.ones.foldlM
    (fun order index =>
      if fullPacketIdentifierLen ≤ index then
        .error (.expectFailed "PUBREL identifier fits in u16")
      else
        let pkid := UInt16.ofNat index
        if pkid ∉ order then .ok (order ++ [pkid]) else .ok order)
    f.outgoingRelOrder

/-- A stored publish is sent again with its DUP flag set. -/
def markDup (publish : Publish D) : Publish D :=
  if publish.qos ≠ .atMostOnce then { publish with dup := true } else publish

/-- The stored publishes, taken out in the given order. -/
def drainPublishes (f : Flows D) : List PacketId → Checked (List (CleanRequest D) × Flows D)
  | [] => return ([], f)
  | pkid :: rest => do
    let (stored, outgoingPub) ← f.outgoingPub.take pkid.toNat
    match stored with
    | none => drainPublishes { f with outgoingPub } rest
    | some publish =>
      let (notice, outgoingPubNotice) ← f.outgoingPubNotice.take pkid.toNat
      let (pending, f) ← drainPublishes { f with outgoingPub, outgoingPubNotice } rest
      return (⟨.publish (markDup publish), notice.map .publish, true⟩ :: pending, f)

/-- The parked publish; its identifier belongs to another flow, so it is not a replay. -/
def drainCollision (f : Flows D) : List (CleanRequest D) × Flows D :=
  match f.collision with
  | none => ([], f)
  | some publish =>
    ([⟨.publish publish, f.collisionNotice.map .publish, false⟩],
      { f with collision := none, collisionNotice := none })

/-- A PUBREL for every active release, in the given order. -/
def drainReleases (f : Flows D) : List PacketId → Checked (List (CleanRequest D) × Flows D)
  | [] => return ([], f)
  | pkid :: rest => do
    let position ← Checked.expect D.releaseNoticeExpectation
      (f.outgoingRelNotice.get? pkid.toNat)
    let f := { f with outgoingRelNotice := f.outgoingRelNotice.write pkid.toNat none }
    let (pending, f) ← f.drainReleases rest
    return (⟨.pubRel (D.pubRel pkid), position.map .publish, true⟩ :: pending, f)

/-- Released identifiers wait for their PUBREL to be replayed. -/
def queueReleaseReplay (f : Flows D) (pkid : PacketId) : Checked (Flows D) := do
  let outgoingRelReplay ← f.outgoingRelReplay.insert pkid.toNat
  let outgoingRelReplayOrder :=
    if pkid ∉ f.outgoingRelReplayOrder then f.outgoingRelReplayOrder ++ [pkid]
    else f.outgoingRelReplayOrder
  return { f with outgoingRelReplay, outgoingRelReplayOrder }

/-- The pending subscribes in ascending order of their identifiers. -/
def subscribeRequests (f : Flows D) : List (CleanRequest D) :=
  f.pendingSubscribe.toList.map fun (pkid, pending) =>
    ⟨.subscribe { pending.subscribe with pkid }, pending.notice.map .subscribe, true⟩

/-- The pending unsubscribes in ascending order of their identifiers. -/
def unsubscribeRequests (f : Flows D) : List (CleanRequest D) :=
  f.pendingUnsubscribe.toList.map fun (pkid, pending) =>
    ⟨.unsubscribe { pending.unsubscribe with pkid }, pending.notice.map .unsubscribe, true⟩

/-- **`clean_with_notices_internal`, its outbound part**: every flow is taken out as a request. With
`keepReplayPkidsReserved` the identifiers stay reserved for the replay. -/
def clean (f : Flows D) (keepReplayPkidsReserved : Bool) :
    Checked (List (CleanRequest D) × Flows D) := do
  let pubOrder ← f.fillPubOrder
  let relOrder ← f.fillRelOrder
  let (publishes, f) ← drainPublishes { f with outgoingPubOrder := [] } pubOrder
  let f ← if keepReplayPkidsReserved then pure f
    else f.releaseAll (publishes.filterMap fun clean =>
      match clean.request with
      | .publish publish => some publish.pkid
      | _ => none)
  let (parked, f) := f.drainCollision
  let (releases, f) ← drainReleases { f with outgoingRelOrder := [] } relOrder
  let f ← relOrder.foldlM queueReleaseReplay f
  let f := { f with outgoingRel := f.outgoingRel.clear }
  let subscribes := f.subscribeRequests
  let f ← if keepReplayPkidsReserved then pure f else f.releaseAll f.pendingSubscribe.keys
  let unsubscribes := f.unsubscribeRequests
  let f ← if keepReplayPkidsReserved then pure f else f.releaseAll f.pendingUnsubscribe.keys
  return (publishes ++ parked ++ releases ++ subscribes ++ unsubscribes,
    { f with pendingSubscribe := ∅, pendingUnsubscribe := ∅ })

/-- `drain_tracked_requests_as_failed`: the number of control requests removed. -/
def drainTrackedRequestsAsFailed (f : Flows D) : Checked (Nat × Flows D) := do
  let drained := f.pendingSubscribe.size + f.pendingUnsubscribe.size
  let f ← f.releaseAll f.pendingSubscribe.keys
  let f ← f.releaseAll f.pendingUnsubscribe.keys
  return (drained, { f with pendingSubscribe := ∅, pendingUnsubscribe := ∅ })

end Flows

end Rumqtt
