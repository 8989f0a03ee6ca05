/-
**Outgoing requests of the MQTT 3.1.1 state machine.**

`handleOutgoingPacketWithNoticeInternal` is the entry point: it turns a request into the packet to
write and tracks what must be answered. The second component of its result is the notice of a QoS 0
publish, which the event loop completes once the packet has been flushed.
-/

import Rumqtt.V4.MqttState

namespace Rumqtt.V4.MqttState

open Handler

/-! ### Publishes -/

/-- A publish without an identifier gets the next free one, unless it is a replay. -/
def assignPublishPkid (publish : Publish) (replay : Bool) : Method Publish := do
  if publish.pkid ≠ 0 then return publish
  else if replay then fail .invalidState
  else
    let s ← get
    match s.toPacketIds.nextPkid with
    | none => fail .invalidState
    | some (pkid, ids) =>
      modify fun s => s.putFlows { s.toFlows with toPacketIds := ids }
      return { publish with pkid }

section

variable (publish : Publish) (notice : Option NoticeId) (replay : Bool)

/-- From the capacity check of `outgoing_publish_with_notice_internal` on: the publish is stored, or
parked when another publish still owns its identifier. -/
def trackOutgoingPublish :
    Method Bool := do
  let pkid := publish.pkid
  ofExcept (validateOutgoingPkid pkid)
  modify fun s => s.putFlows (s.toFlows.ensureOutgoingTrackingCapacity (pkid.toNat + 1))
  let s ← get
  match s.outgoingPub.get? pkid.toNat with
  | none => fail (.unsolicited pkid)
  | some (some _) =>
    modify fun s => pushEvent (.outgoing (.awaitAck pkid))
      { s with collision := some publish, collisionNotice := notice }
    return false
  | some none =>
    if s.heldByOtherFlow pkid then fail .invalidState
    else if replay then
      ofExcept (s.acceptReplayedOutboundPkid pkid)
      updateFlows (·.trackPublish publish notice)
      incrementInflight
      return true
    else
      flows (·.reserve pkid)
      updateFlows (·.trackPublish publish notice)
      incrementInflight
      return true

/-- The QoS 1 and QoS 2 part of `outgoing_publish_with_notice_internal`: a parked publish is not
written. -/
def sendTrackedPublish :
    Method (Option Packet × Option NoticeId) := do
  let publish ← assignPublishPkid publish replay
  if ← trackOutgoingPublish publish notice replay then
    modify (pushEvent (.outgoing (.publish publish.pkid)))
    return (some (.publish publish), none)
  else return (none, none)

def outgoingPublishWithNoticeInternal : Method (Option Packet × Option NoticeId) := do
  let s ← get
  if publish.qos = .atMostOnce then
    modify (pushEvent (.outgoing (.publish publish.pkid)))
    return (some (.publish publish), notice)
  else if s.inflight ≥ s.maxInflight.toNat then
    fail (.outgoingPublishWindowFull s.maxInflight.toNat)
  else sendTrackedPublish publish notice replay

end

/-! ### Releases -/

/-- A replayed release takes a place in the window before it becomes active. -/
def savePubrelWithNotice (pubrel : PubRel) (notice : Option NoticeId) : Method PubRel := do
  ofExcept (validateOutgoingPkid pubrel.pkid)
  let s ← get
  let replayingPubrel := s.outgoingRelReplay.contains pubrel.pkid.toNat
  if s.outgoingRel.contains pubrel.pkid.toNat = false ∧ replayingPubrel = false then
    fail (.unsolicited pubrel.pkid)
  else
    if replayingPubrel then
      if s.inflight ≥ s.maxInflight.toNat then
        fail (.outgoingPublishWindowFull s.maxInflight.toNat)
      else
        updateFlows (·.resumeRelease pubrel.pkid)
        incrementInflight
    modify fun s => s.putFlows (s.toFlows.ensureOutgoingTrackingCapacity (pubrel.pkid.toNat + 1))
    updateFlows (·.noteRelease pubrel.pkid notice)
    return pubrel

def outgoingPubrelWithNotice (pubrel : PubRel) (notice : Option NoticeId) :
    Method (Option Packet × Option NoticeId) := do
  let pubrel ← savePubrelWithNotice pubrel notice
  modify (pushEvent (.outgoing (.pubRel pubrel.pkid)))
  return (some (.pubRel pubrel), none)

/-! ### Acknowledgements of incoming publishes -/

def outgoingPuback (puback : PubAck) : Method Packet := do
  let s ← get
  if s.incomingPuback.contains puback.pkid.toNat = false then
    fail (.unsolicited puback.pkid)
  else
    let incomingPuback ← ofChecked (s.incomingPuback.set puback.pkid.toNat false)
    modify fun s => pushEvent (.outgoing (.pubAck puback.pkid)) { s with incomingPuback }
    return .pubAck puback

def outgoingPubrecInternal (pubrec : PubRec) (allowDuplicate : Bool) : Method Packet := do
  let s ← get
  if s.incomingPub.contains pubrec.pkid.toNat = false then fail (.unsolicited pubrec.pkid)
  else if s.incomingPubrec.contains pubrec.pkid.toNat then
    if allowDuplicate then
      modify (pushEvent (.outgoing (.pubRec pubrec.pkid)))
      return .pubRec pubrec
    else fail (.unsolicited pubrec.pkid)
  else
    let incomingPubrec ← ofChecked (s.incomingPubrec.insert pubrec.pkid.toNat)
    modify fun s => pushEvent (.outgoing (.pubRec pubrec.pkid)) { s with incomingPubrec }
    return .pubRec pubrec

def outgoingPubrec (pubrec : PubRec) : Method Packet := outgoingPubrecInternal pubrec false

def outgoingPubrecForIncomingPublish (pubrec : PubRec) : Method Packet :=
  outgoingPubrecInternal pubrec true

/-! ### Control requests -/

def outgoingPing : Method (Option Packet) := do
  let s ← get
  let (collisionCount, ping) :=
    if s.collision.isSome then s.ping.incrementCollisionCount else (0, s.ping)
  modify fun s => { s with ping }
  if 2 ≤ collisionCount then fail .collisionTimeout
  else if ping.awaitPingresp then fail .awaitPingResp
  else
    modify fun s => pushEvent (.outgoing .pingReq) { s with ping := ping.beginWaitingForResp }
    return some .pingReq

/-- The identifier of a fresh control request: the next free one, or the one it asks for. -/
def claimControlPkid (pkid : PacketId) : Method PacketId := do
  if pkid = 0 then
    flows fun f => do
      let (result, ids) ← f.toPacketIds.nextControlPkid
      return (result, { f with toPacketIds := ids })
  else
    -- `reserve_control_pkid`, which leaves the search position alone here
    flows (·.reserve pkid)
    return pkid

section

variable (subscription : Subscribe)

def saveOutgoingSubscribe (notice : Option NoticeId) : Method Packet := do
  modify fun s => pushEvent (.outgoing (.subscribe subscription.pkid))
    { s with pendingSubscribe := s.pendingSubscribe.insert subscription.pkid ⟨subscription, notice⟩ }
  return .subscribe subscription

def validateOutgoingSubscribe : Except StateError Unit :=
  if subscription.filters.isEmpty then .error .emptySubscription else .ok ()

def outgoingSubscribe (notice : Option NoticeId) : Method Packet := do
  ofExcept (validateOutgoingSubscribe subscription)
  let pkid ← claimControlPkid subscription.pkid
  saveOutgoingSubscribe { subscription with pkid } notice

def replayOutgoingSubscribe (notice : Option NoticeId) :
    Method Packet := do
  ofExcept (validateOutgoingSubscribe subscription)
  let s ← get
  ofExcept (s.acceptReplayedOutboundPkid subscription.pkid)
  saveOutgoingSubscribe subscription notice

end

def validateOutgoingUnsubscribe (unsub : Unsubscribe) : Except StateError Unit :=
  if unsub.filters.isEmpty then .error .emptyUnsubscription else .ok ()

section

variable (unsub : Unsubscribe) (notice : Option NoticeId)

def saveOutgoingUnsubscribe : Method Packet := do
  modify fun s => pushEvent (.outgoing (.unsubscribe unsub.pkid))
    { s with pendingUnsubscribe := s.pendingUnsubscribe.insert unsub.pkid ⟨unsub, notice⟩ }
  return .unsubscribe unsub

def outgoingUnsubscribe : Method Packet := do
  ofExcept (validateOutgoingUnsubscribe unsub)
  let pkid ← claimControlPkid unsub.pkid
  saveOutgoingUnsubscribe { unsub with pkid } notice

def replayOutgoingUnsubscribe : Method Packet := do
  ofExcept (validateOutgoingUnsubscribe unsub)
  let s ← get
  ofExcept (s.acceptReplayedOutboundPkid unsub.pkid)
  saveOutgoingUnsubscribe unsub notice

end

def outgoingDisconnect : Method Packet := do
  modify (pushEvent (.outgoing .disconnect))
  return .disconnect

/-! ### Dispatch -/

/-- A packet without a notice to complete on flush. -/
def packetOnly (method : Method Packet) : Method (Option Packet × Option NoticeId) := do
  let packet ← method
  return (some packet, none)

/-- **Outgoing requests.** Graceful disconnects never reach the state machine: the event loop handles
them, and this method would stop the program. -/
def handleOutgoingPacketWithNoticeInternal (request : Request) (notice : Option TrackedNotice)
    (replay : Bool) : Method (Option Packet × Option NoticeId) :=
  match request with
  | .publish publish =>
    outgoingPublishWithNoticeInternal publish (notice.bind TrackedNotice.publish?) replay
  | .pubRel pubrel => outgoingPubrelWithNotice pubrel (notice.bind TrackedNotice.publish?)
  | .subscribe subscribe =>
    packetOnly (if replay then
      replayOutgoingSubscribe subscribe (notice.bind TrackedNotice.subscribe?)
    else outgoingSubscribe subscribe (notice.bind TrackedNotice.subscribe?))
  | .unsubscribe unsubscribe =>
    packetOnly (if replay then
      replayOutgoingUnsubscribe unsubscribe (notice.bind TrackedNotice.unsubscribe?)
    else outgoingUnsubscribe unsubscribe (notice.bind TrackedNotice.unsubscribe?))
  | .pingReq => do
    let packet ← outgoingPing
    return (packet, none)
  | .disconnect _ | .disconnectWithTimeout .. | .disconnectAfterQueued _
  | .disconnectAfterQueuedWithTimeout .. =>
    ofChecked
      (.error (.unreachableCode "graceful disconnect requests are handled by the event loop"))
  | .disconnectNow _ => packetOnly outgoingDisconnect
  | .pubAck puback => packetOnly (outgoingPuback puback)
  | .pubRec pubrec => packetOnly (outgoingPubrec pubrec)
  | .auth auth => nomatch auth
  | .pubComp _ | .pingResp | .subAck _ | .unsubAck _ => fail .invalidState

/-- The public `handle_outgoing_packet`: a fresh request without a notice. -/
def handleOutgoingPacket (request : Request) : Method (Option Packet) := do
  let (packet, _) ← handleOutgoingPacketWithNoticeInternal request none false
  return packet

end Rumqtt.V4.MqttState
