/-
**Session checkpoints: saving and restoring outbound flows.**

Both clients write the same list of replay requests into a checkpoint and restore it with the same
code; they differ in the metadata of a session and in which requests count against the window. The
shared part works on `Flows`:

* `persistedReplayRequests` and `persistedRequestFromRequest` build the list;
* `validatePersistedReplay` checks identifiers and the window before anything changes;
* `restoreReplay` reserves the identifiers in new flows.

Persisted subscribes and unsubscribes copy every field, so they are the packets themselves; a
persisted publish has its own property block, given by a `PersistedForm`.
-/

import Rumqtt.Flows.Cleanup

namespace Rumqtt

/-- **How the property block of a publish is written to a checkpoint.** -/
structure PersistedForm (D : Dialect) where
  Properties : Type
  save : D.PublishProperties → Properties
  load : Properties → D.PublishProperties

structure PersistedPublish {D : Dialect} (P : PersistedForm D) where
  dup : Bool
  qos : QoS
  retain : Bool
  topic : Bytes
  pkid : PacketId
  payload : Bytes
  properties : P.Properties

inductive PersistedRequest {D : Dialect} (P : PersistedForm D) where
  | publish (publish : PersistedPublish P)
  | pubRel (pkid : PacketId)
  | subscribe (subscribe : Subscribe D)
  | unsubscribe (unsubscribe : Unsubscribe D)

/-- Why a checkpoint is not restored. -/
inductive SessionRestoreError where
  | unsupportedFormatVersion (actual : UInt16)
  | clientIdMismatch (persisted configured : String)
  | cleanStartMismatch (persisted configured : Bool)
  | cleanSessionMismatch (persisted configured : Bool)
  | outgoingInflightUpperLimitMismatch (persisted configured : Option UInt16)
  | maxInflightMismatch (persisted configured : UInt16)
  | ackModeMismatch
  | invalidPacketIdentifier (pkid : PacketId)
  | invalidOutgoingPublishQoS (pkid : PacketId)
  | duplicateOutgoingPacketIdentifier (pkid : PacketId)
  | outgoingPublishWindowExceeded (count : Nat) (maxInflight : UInt16)
  | outgoingPacketIdentifierCountOutOfRange (count : Nat)
  /-- Only MQTT 5 clients have a publish budget. -/
  | publishBudgetExceeded
  deriving DecidableEq, Repr

variable {D : Dialect} (P : PersistedForm D)

/-! ### Saving -/

/-- Publishes without an identifier or a topic are not part of a checkpoint; the others are written
with the DUP flag set. -/
def persistedPublish (publish : Publish D) : Option (PersistedPublish P) :=
  if publish.qos = .atMostOnce ∨ publish.pkid = 0 ∨ publish.topic.isEmpty then none
  else some {
    dup := true
    qos := publish.qos
    retain := publish.retain
    topic := publish.topic
    pkid := publish.pkid
    payload := publish.payload
    properties := P.save publish.properties }

def persistedRequestFromRequest : Request D → Option (PersistedRequest P)
  | .publish publish => (persistedPublish P publish).map .publish
  | .pubRel pubrel => some (.pubRel (D.pubRelPkid pubrel))
  | .subscribe subscribe => if subscribe.pkid ≠ 0 then some (.subscribe subscribe) else none
  | .unsubscribe unsubscribe => if unsubscribe.pkid ≠ 0 then some (.unsubscribe unsubscribe) else none
  | _ => none

/-- The tracked publishes in send order; `outgoing_pub[pkid]` panics past the end. -/
def persistedPublishes (f : Flows D) (order : List PacketId) : Checked (List (PersistedRequest P)) := do
  let stored ← order.mapM fun pkid =>
    match f.outgoingPub.get? pkid.toNat with
    | none => (.error (.indexOutOfBounds pkid.toNat f.outgoingPub.length) : Checked (Option (Publish D)))
    | some slot => .ok slot
  return stored.filterMap fun slot => (slot.bind (persistedPublish P)).map .publish

def persistedReplayRequests (f : Flows D) : Checked (List (PersistedRequest P)) := do
  let publishes ← persistedPublishes P f f.outgoingPubOrder
  return publishes ++ f.outgoingRelOrder.map .pubRel ++
    f.pendingSubscribe.values.map (fun pending => .subscribe pending.subscribe) ++
    f.pendingUnsubscribe.values.map (fun pending => .unsubscribe pending.unsubscribe)

/-! ### Restoring -/

variable {P}

def validatePkid (pkid : PacketId) : Except SessionRestoreError Unit :=
  if pkid = 0 then .error (.invalidPacketIdentifier pkid) else .ok ()

namespace PersistedRequest

def pkid : PersistedRequest P → PacketId
  | .publish packet => packet.pkid
  | .pubRel pkid => pkid
  | .subscribe packet => packet.pkid
  | .unsubscribe packet => packet.pkid

/-- `validate_persisted_replay_request` -/
def validate (request : PersistedRequest P) : Except SessionRestoreError PacketId := do
  validatePkid request.pkid
  match request with
  | .publish packet =>
    if packet.qos = .atMostOnce then .error (.invalidOutgoingPublishQoS packet.pkid)
    else .ok packet.pkid
  | _ => .ok request.pkid

/-- The request that will be replayed, once its identifier has been validated. -/
def toRequest : PersistedRequest P → Request D
  | .publish packet => .publish {
      dup := true
      qos := packet.qos
      retain := packet.retain
      topic := packet.topic
      pkid := packet.pkid
      payload := packet.payload
      properties := P.load packet.properties }
  | .pubRel pkid => .pubRel (D.pubRel pkid)
  | .subscribe packet => .subscribe packet
  | .unsubscribe packet => .unsubscribe packet

/-- `request_from_persisted_request` -/
def restore (request : PersistedRequest P) : Except SessionRestoreError (Request D) := do
  validatePkid request.pkid
  return request.toRequest

end PersistedRequest

/-- The loop of `validate_persisted_session_packet_ids`: the identifiers seen so far, and the number
of requests that count against the window. -/
def validateReplayFrom (counted : PersistedRequest P → Bool) :
    List (PersistedRequest P) → FixedBitSet → Nat → Checked (Except SessionRestoreError Nat)
  | [], _, count => return .ok count
  | request :: rest, packetIds, count =>
    match request.validate with
    | .error error => return .error error
    | .ok pkid => do
      if packetIds.contains pkid.toNat then
        return .error (.duplicateOutgoingPacketIdentifier pkid)
      let packetIds ← packetIds.insert pkid.toNat
      validateReplayFrom counted rest packetIds (if counted request then count + 1 else count)

/-- `validate_persisted_session_packet_ids` -/
def validatePersistedSessionPacketIds (counted : PersistedRequest P → Bool) (maxInflight : UInt16)
    (incomingQos2 : List PacketId) (replay : List (PersistedRequest P)) :
    Checked (Except SessionRestoreError Unit) := do
  match incomingQos2.forM validatePkid with
  | .error error => return .error error
  | .ok () =>
    match ← validateReplayFrom counted replay (.withCapacity fullPacketIdentifierLen) 0 with
    | .error error => return .error error
    | .ok count =>
      if maxInflight.toNat < count then
        return .error (.outgoingPublishWindowExceeded count maxInflight)
      else return .ok ()

namespace Flows

/-- One request of a checkpoint: room for it, its release and its identifier. -/
def restoreRequest (f : Flows D) (request : PersistedRequest P) : Checked (Flows D) := do
  let f ← match request with
    | .publish publish => pure (f.ensureOutgoingTrackingCapacity (publish.pkid.toNat + 1))
    | .pubRel pkid => do
      let f := f.ensureOutgoingTrackingCapacity (pkid.toNat + 1)
      let outgoingRelReplay ← f.outgoingRelReplay.insert pkid.toNat
      pure { f with
        outgoingRelReplay
        outgoingRelReplayOrder := f.outgoingRelReplayOrder ++ [pkid] }
    | .subscribe _ | .unsubscribe _ => pure f
  let outboundPkidInUse ← f.outboundPkidInUse.insert request.pkid.toNat
  return { f with outboundPkidInUse }

/-- The identifiers of a checkpoint reserved, before they are counted. -/
def restoreReplay (f : Flows D) (replay : List (PersistedRequest P)) : Checked (Flows D) := do
  let f ← replay.foldlM restoreRequest f
  let outboundPkidInUse ← f.outboundPkidInUse.set 0 false
  return { f with outboundPkidInUse }

end Flows

end Rumqtt
