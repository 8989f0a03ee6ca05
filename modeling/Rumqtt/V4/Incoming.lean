/-
**Incoming packets of the MQTT 3.1.1 state machine.**

`handleIncomingPacketWithEffects` is the entry point: it dispatches on the packet, and puts the
`Incoming` event in front of the events the handler raised. A CONNACK is consumed by the event loop
before the state machine sees the connection, so one that reaches it is a second one.
-/

import Rumqtt.V4.Outgoing

namespace Rumqtt.V4.MqttState

open Handler

/-! ### Outbound flows -/

/-- `replay_collision_publish`: the publish parked on an identifier is sent once it is free. -/
def replayCollisionPublish (pkid : PacketId) : Method (Option Packet) := do
  let s ← get
  match s.toFlows.checkCollision pkid with
  | (none, _) => return none
  | (some (publish, notice), f) =>
    modify (putFlows · (f.ensureOutgoingTrackingCapacity (publish.pkid.toNat + 1)))
    updateFlows (·.reserveReleased publish.pkid)
    updateFlows (·.trackPublish publish notice)
    incrementInflight
    modify fun s => pushEvent (.outgoing (.publish publish.pkid))
      { s with ping := s.ping.resetCollisionCount }
    return some (.publish publish)

/-- What follows the end of a flow in the handlers of PUBACK and PUBCOMP. -/
def settleFlow (pkid : PacketId) (notice : Option NoticeId) (result : PublishResult) :
    Method IncomingPacketEffects := do
  let outgoing ← replayCollisionPublish pkid
  if outgoing.isNone then modify maybeShrinkOutgoingTrackingCapacity
  return { outgoing, notices := (notice.map (DeferredNotice.publish · result)).toList }

def handleIncomingPuback (puback : PubAck) : Method IncomingPacketEffects := do
  let notice ← flows (·.takePublish puback.pkid)
  updateFlows (·.release puback.pkid)
  decrementInflight
  settleFlow puback.pkid notice (.qos1 puback)

def handleIncomingPubrec (pubrec : PubRec) : Method IncomingPacketEffects := do
  let notice ← flows (·.takePublish pubrec.pkid)
  -- the place in the window is kept until the PUBCOMP
  updateFlows (·.recordRelease pubrec.pkid notice)
  modify (pushEvent (.outgoing (.pubRel pubrec.pkid)))
  return { outgoing := some (.pubRel { pkid := pubrec.pkid }) }

def handleIncomingPubcomp (pubcomp : PubComp) : Method IncomingPacketEffects := do
  let notice ← flows (·.takeRelease pubcomp.pkid)
  updateFlows (·.release pubcomp.pkid)
  decrementInflight
  settleFlow pubcomp.pkid notice (.qos2Completed pubcomp)

def handleIncomingSuback (suback : SubAck) : Method IncomingPacketEffects := do
  let s ← get
  match s.pendingSubscribe[suback.pkid]? with
  | none => fail (.unsolicited suback.pkid)
  | some pending =>
    let expected := pending.subscribe.filters.length
    let actual := suback.returnCodes.length
    if expected ≠ actual then
      fail (.protocolViolation (.subAckReturnCodeCountMismatch suback.pkid expected actual))
    else
      modify fun s => { s with pendingSubscribe := s.pendingSubscribe.erase suback.pkid }
      updateFlows (·.release suback.pkid)
      return { notices := (pending.notice.map (DeferredNotice.subscribe · suback)).toList }

def handleIncomingUnsuback (unsuback : UnsubAck) : Method IncomingPacketEffects := do
  let s ← get
  match s.pendingUnsubscribe[unsuback.pkid]? with
  | none => fail (.unsolicited unsuback.pkid)
  | some pending =>
    modify fun s => { s with pendingUnsubscribe := s.pendingUnsubscribe.erase unsuback.pkid }
    updateFlows (·.release unsuback.pkid)
    return { notices := (pending.notice.map (DeferredNotice.unsubscribe · unsuback)).toList }

/-! ### Incoming publishes -/

/-- The publish is tracked, and answered in automatic mode or when its PUBREC was sent before. -/
def handleIncomingPublish (publish : Publish) : Method (Option Packet) := do
  let s ← get
  match publish.qos with
  | .atMostOnce => return none
  | .atLeastOnce =>
    let incomingPuback ← ofChecked (s.incomingPuback.insert publish.pkid.toNat)
    modify fun s => { s with incomingPuback }
    if s.ackMode = .automatic then
      let packet ← outgoingPuback { pkid := publish.pkid }
      return some packet
    else return none
  | .exactlyOnce =>
    let incomingPub ← ofChecked (s.incomingPub.insert publish.pkid.toNat)
    modify fun s => { s with incomingPub }
    if s.ackMode = .automatic ∨ s.incomingPubrec.contains publish.pkid.toNat then
      let packet ← outgoingPubrecForIncomingPublish { pkid := publish.pkid }
      return some packet
    else return none

def handleIncomingPubrel (pubrel : PubRel) : Method (Option Packet) := do
  let s ← get
  if s.incomingPub.contains pubrel.pkid.toNat = false then
    modify (pushEvent (.outgoing (.pubComp pubrel.pkid)))
    return some (.pubComp { pkid := pubrel.pkid })
  else if s.incomingPubrec.contains pubrel.pkid.toNat = false then
    fail (.unsolicited pubrel.pkid)
  else
    let incomingPub ← ofChecked (s.incomingPub.set pubrel.pkid.toNat false)
    let incomingPubrec ← ofChecked (s.incomingPubrec.set pubrel.pkid.toNat false)
    modify fun s => pushEvent (.outgoing (.pubComp pubrel.pkid))
      { s with incomingPub, incomingPubrec }
    return some (.pubComp { pkid := pubrel.pkid })

def handleIncomingPingresp (s : MqttState) : MqttState :=
  { s with ping := s.ping.finishWaitingForResp }

/-! ### Dispatch -/

def isDuplicateIncomingQos2Publish (s : MqttState) : Packet → Bool
  | .publish publish => publish.qos = .exactlyOnce && s.incomingPubrec.contains publish.pkid.toNat
  | _ => false

/-- The effects of a handler that completes no notice. -/
def outgoingOnly (method : Method (Option Packet)) : Method IncomingPacketEffects := do
  let outgoing ← method
  return { outgoing }

/-- The handler of each packet. -/
def dispatchIncoming (packet : Packet) : Method IncomingPacketEffects :=
  match packet with
  | .pingResp => do
    modify handleIncomingPingresp
    return {}
  | .publish publish => outgoingOnly (handleIncomingPublish publish)
  | .subAck suback => handleIncomingSuback suback
  | .unsubAck unsuback => handleIncomingUnsuback unsuback
  | .pubAck puback => handleIncomingPuback puback
  | .pubRec pubrec => handleIncomingPubrec pubrec
  | .pubRel pubrel => outgoingOnly (handleIncomingPubrel pubrel)
  | .pubComp pubcomp => handleIncomingPubcomp pubcomp
  | .connAck _ => fail (.protocolViolation .duplicateConnAck)
  | .connect .. => fail (.protocolViolation (.unexpectedIncomingPacket .connect))
  | .subscribe _ => fail (.protocolViolation (.unexpectedIncomingPacket .subscribe))
  | .unsubscribe _ => fail (.protocolViolation (.unexpectedIncomingPacket .unsubscribe))
  | .pingReq => fail (.protocolViolation (.unexpectedIncomingPacket .pingReq))
  | .disconnect => fail (.protocolViolation (.unexpectedIncomingPacket .disconnect))

/-- **Incoming packets.** A duplicate QoS 2 publish is not shown to the application. -/
def handleIncomingPacketWithEffects (packet : Packet) : Method IncomingPacketEffects := do
  let s ← get
  let effects ← dispatchIncoming packet
  if s.isDuplicateIncomingQos2Publish packet then return effects
  else
    insertEvent s.events.length (.incoming packet)
    return effects

end Rumqtt.V4.MqttState
