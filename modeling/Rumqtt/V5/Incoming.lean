/-
**Incoming packets of the MQTT 5 state machine.**

`handleIncomingPacketWithEffects` is the entry point: it dispatches on the packet, and puts the
`Incoming` event in front of the events the handler raised.
-/

import Rumqtt.V5.Outgoing

namespace Rumqtt.V5.MqttState

open Handler

/-! ### Outbound flows -/

/-- `replay_collision_publish`: the publish parked on an identifier is sent once it is free. -/
def replayCollisionPublish (pkid : PacketId) : Method (Option Packet) := do
  let s ← get
  match s.toFlows.checkCollision pkid with
  | (none, _) => return none
  | (some (publish, notice), f) =>
    modify (putFlows · (f.ensureOutgoingTrackingCapacity (publish.pkid.toNat + 1)))
    updateFlows (·.reserveReleased publish.pkid)
    updateFlows (·.trackPublish (s.topicAliases.publishForReplayTracking publish) notice)
    acquireOutgoingPublishQuota publish.pkid
    modify fun s => pushEvent (.outgoing (.publish publish.pkid))
      { s with
        topicAliases := s.topicAliases.recordOutgoingTopicAlias publish
        ping := s.ping.resetCollisionCount }
    return some (.publish publish)

/-- What follows the end of a flow in the three handlers below: a publish parked on its identifier is
sent, the notice is completed and the tracking may shrink. -/
def settleFlow (pkid : PacketId) (notice : Option NoticeId) (result : PublishResult) :
    Method IncomingPacketEffects := do
  let outgoing ← replayCollisionPublish pkid
  if outgoing.isNone then modify maybeShrinkOutgoingTrackingCapacity
  return { outgoing, notices := (notice.map (DeferredNotice.publish · result)).toList }

def handleIncomingPuback (puback : PubAck) : Method IncomingPacketEffects := do
  let notice ← flows (·.takePublish puback.pkid)
  updateFlows (·.release puback.pkid)
  releaseOutgoingPublishQuota puback.pkid
  settleFlow puback.pkid notice (.qos1 puback)

def handleIncomingPubrec (pubrec : PubRec) : Method IncomingPacketEffects := do
  let notice ← flows (·.takePublish pubrec.pkid)
  if 0x80 ≤ pubrec.reason.code then
    updateFlows (·.release pubrec.pkid)
    releaseOutgoingPublishQuota pubrec.pkid
    settleFlow pubrec.pkid notice (.qos2PubRecRejected pubrec)
  else
    -- the quota is kept until the PUBCOMP
    updateFlows (·.recordRelease pubrec.pkid notice)
    modify (pushEvent (.outgoing (.pubRel pubrec.pkid)))
    return { outgoing := some (.pubRel { pkid := pubrec.pkid }) }

/-- A finished release leaves the recovery set, which is dropped with the last release. -/
def forgetRecovery (pkid : PacketId) : Method Bool := do
  let s ← get
  let recovered := s.outgoingRelRecovery.contains pkid.toNat
  if recovered then
    let outgoingRelRecovery ← ofChecked (s.outgoingRelRecovery.set pkid.toNat false)
    modify fun s => { s with outgoingRelRecovery }
  modify fun s =>
    if s.outgoingRelOrder.isEmpty then { s with outgoingRelRecovery := .withCapacity 0 } else s
  return recovered

/-- An unknown identifier is no error for a release that was replayed. -/
def pubcompResult (recovered : Bool) (pubcomp : PubComp) : PublishResult :=
  if recovered ∧ pubcomp.reason = .packetIdentifierNotFound then .qos2Recovered pubcomp
  else .qos2Completed pubcomp

def handleIncomingPubcomp (pubcomp : PubComp) : Method IncomingPacketEffects := do
  let notice ← flows (·.takeRelease pubcomp.pkid)
  let recovered ← forgetRecovery pubcomp.pkid
  updateFlows (·.release pubcomp.pkid)
  releaseOutgoingPublishQuota pubcomp.pkid
  settleFlow pubcomp.pkid notice (pubcompResult recovered pubcomp)

def handleIncomingSuback (suback : SubAck) : Method IncomingPacketEffects := do
  let s ← get
  match s.pendingSubscribe[suback.pkid]? with
  | none => fail (.unsolicited suback.pkid)
  | some pending =>
    let expected := pending.subscribe.filters.length
    let actual := suback.returnCodes.length
    if actual ≠ expected then
      fail (.protocolViolation (.subAckReturnCodeCountMismatch suback.pkid expected actual))
    else
      modify fun s => { s with pendingSubscribe := s.pendingSubscribe.erase suback.pkid }
      updateFlows (·.release suback.pkid)
      return { notices := (pending.notice.map (DeferredNotice.subscribe · suback)).toList }

def handleIncomingUnsuback (unsuback : UnsubAck) : Method IncomingPacketEffects := do
  let s ← get
  match s.pendingUnsubscribe[unsuback.pkid]? with
  | none => fail (.unsolicited unsuback.pkid)
  | some pending =>
    let expected := pending.unsubscribe.filters.length
    let actual := unsuback.reasons.length
    if actual ≠ expected then
      fail
        (.protocolViolation (.unsubAckReasonCodeCountMismatch unsuback.pkid expected actual))
    else
      modify fun s => { s with pendingUnsubscribe := s.pendingUnsubscribe.erase unsuback.pkid }
      updateFlows (·.release unsuback.pkid)
      return { notices := (pending.notice.map (DeferredNotice.unsubscribe · unsuback)).toList }

/-! ### Incoming publishes -/

def handleProtocolError : Method (Option Packet) := do
  let packet ← outgoingDisconnect ⟨.protocolError, none⟩
  return some packet

section

variable (publish : Publish)

/-- The alias part of `handle_incoming_publish`: the publish under the topic its alias stands for, or
the DISCONNECT that answers a wrong alias. -/
def resolveIncomingAlias : Method (Publish ⊕ Option Packet) := do
  let s ← get
  match publishTopicAlias publish with
  | none => return .inl publish
  | some aliasId =>
    if s.topicAliases.clientMax < aliasId then
      let packet ← outgoingDisconnect ⟨.topicAliasInvalid, none⟩
      return .inr (some packet)
    else if publish.topic ≠ [] then
      modify fun s =>
        { s with topicAliases :=
          { s.topicAliases with incoming := s.topicAliases.incoming.insert aliasId publish.topic } }
      return .inl publish
    else match s.topicAliases.incoming aliasId with
      | some topic => return .inl { publish with topic }
      | none => return .inr (← handleProtocolError)

/-- The end of `handle_incoming_publish`: the publish is tracked, and answered in automatic mode or
when its PUBREC was sent before. -/
def answerIncomingPublish : Method (Option Packet) := do
  let s ← get
  match publish.qos with
  | .atMostOnce => return none
  | .atLeastOnce =>
    let incomingPuback ← ofChecked (s.incomingPuback.insert publish.pkid.toNat)
    modify fun s => { s with incomingPuback }
    if s.ackMode = .automatic then
      let packet ← outgoingPuback { pkid := publish.pkid }
      return some packet
    else return none
  | .exactlyOnce =>
    let incomingPub ← ofChecked (s.incomingPub.insert publish.pkid.toNat)
    modify fun s => { s with incomingPub }
    if s.ackMode = .automatic ∨ s.incomingPubrec.contains publish.pkid.toNat then
      let packet ← outgoingPubrecForIncomingPublish { pkid := publish.pkid }
      return some packet
    else return none

/-- The quota part of `handle_incoming_publish`. -/
def acceptIncomingPublish : Method (Option Packet) := do
  let s ← get
  let consumesNewQuota :=
    publish.qos ≠ .atMostOnce ∧ s.incomingPublishQuota.bits.contains publish.pkid.toNat = false
  if consumesNewQuota ∧ s.incomingPublishQuota.inflight ≥ s.maxIncomingInflight.toNat then
    let packet ← outgoingDisconnect ⟨.receiveMaximumExceeded, none⟩
    return some packet
  else
    if consumesNewQuota then
      zoomChecked incomingPublishQuota putReceiveQuota (·.take publish.pkid)
    answerIncomingPublish publish

/-- `handle_incoming_publish`, with the publish as the application sees it. -/
def handleIncomingPublish : Method (Publish × Option Packet) := do
  match ← resolveIncomingAlias publish with
  | .inr packet => return (publish, packet)
  | .inl publish =>
    let packet ← acceptIncomingPublish publish
    return (publish, packet)

end

def handleIncomingPubrel (pubrel : PubRel) : Method (Option Packet) := do
  let s ← get
  if s.incomingPub.contains pubrel.pkid.toNat = false then
    modify (pushEvent (.outgoing (.pubComp pubrel.pkid)))
    return some (.pubComp { pkid := pubrel.pkid, reason := .packetIdentifierNotFound })
  else if s.incomingPubrec.contains pubrel.pkid.toNat = false then
    fail (.unsolicited pubrel.pkid)
  else
    let incomingPub ← ofChecked (s.incomingPub.set pubrel.pkid.toNat false)
    let incomingPubrec ← ofChecked (s.incomingPubrec.set pubrel.pkid.toNat false)
    modify fun s => { s with incomingPub, incomingPubrec }
    modify (pushEvent (.outgoing (.pubComp pubrel.pkid)))
    releaseIncomingPublishQuota pubrel.pkid
    return some (.pubComp { pkid := pubrel.pkid })

/-! ### The connection -/

def handleIncomingPingresp (s : MqttState) : MqttState :=
  { s with ping := s.ping.finishWaitingForResp }

def validateIncomingConnack (s : MqttState) (connack : ConnAck) : Except StateError Unit :=
  if s.connackReceived then .error (.protocolViolation .duplicateConnAck)
  else if connack.code ≠ .success then .error (.connFail connack.code)
  else
    let props := connack.properties.getD {}
    let flags := [props.maxQos, props.retainAvailable, props.wildcardSubscriptionAvailable,
      props.subscriptionIdentifiersAvailable, props.sharedSubscriptionAvailable]
    if flags.reduceOption.any (1 < ·) then .error .deserializationProtocolError
    else s.auth.validateSuccessfulConnack connack

/-- What a CONNACK announces; an absent property means the default. -/
def negotiate (props : ConnAckProperties) (s : MqttState) : MqttState :=
  { s with
    topicAliases := { s.topicAliases with
      brokerMax := props.topicAliasMax.getD s.topicAliases.brokerMax }
    maxOutgoingInflight := match props.receiveMax with
      | some maxInflight => min maxInflight s.maxOutgoingInflightUpperLimit
      | none => s.maxOutgoingInflight
    broker := {
      retainAvailable := (props.retainAvailable.map (· == 1)).getD s.broker.retainAvailable
      maximumQos := (props.maxQos.map fun maximum =>
        if maximum = 0 then QoS.atMostOnce else .atLeastOnce).getD s.broker.maximumQos
      wildcardSubscriptionAvailable := (props.wildcardSubscriptionAvailable.map (· == 1)).getD
        s.broker.wildcardSubscriptionAvailable
      subscriptionIdentifiersAvailable := (props.subscriptionIdentifiersAvailable.map (· == 1)).getD
        s.broker.subscriptionIdentifiersAvailable
      sharedSubscriptionAvailable := (props.sharedSubscriptionAvailable.map (· == 1)).getD
        s.broker.sharedSubscriptionAvailable } }

def handleIncomingConnack (connack : ConnAck) : Method (Option Packet) := do
  let s ← get
  ofExcept (s.validateIncomingConnack connack)
  if s.auth.state.kind = some .initialConnect then authentication Authentication.authenticateSuccess
  modify resetConnackScopedState
  modify fun s => s.putAuthentication (s.toAuthentication.advance (·.completeInitialConnack))
  modify (negotiate (connack.properties.getD {}))
  modify fun s => { s with connackReceived := true }
  return none

def redirectReason : DisconnectReasonCode → Option RedirectReason
  | .useAnotherServer => some .useAnotherServer
  | .serverMoved => some .serverMoved
  | _ => none

def handleIncomingDisconn (disconn : Disconnect) : Method (Option Packet) := do
  match redirectReason disconn.reasonCode with
  | some reason =>
    fail (.serverRedirect
      ⟨reason, disconn.properties.bind DisconnectProperties.serverReference, .disconnect⟩)
  | none =>
    modify fun s => s.putAuthentication
      (s.toAuthentication.failAuthExchange (.brokerDisconnected disconn.reasonCode))
    fail (.serverDisconnect disconn.reasonCode
      (disconn.properties.bind DisconnectProperties.reasonString))

/-! ### Dispatch -/

def isDuplicateIncomingQos2Publish (s : MqttState) : Packet → Bool
  | .publish publish => publish.qos = .exactlyOnce && s.incomingPubrec.contains publish.pkid.toNat
  | _ => false

/-- The effects of a handler that completes no notice. -/
def outgoingOnly (packet : Packet) (method : Method (Option Packet)) :
    Method (Packet × IncomingPacketEffects) := do
  let outgoing ← method
  return (packet, { outgoing })

/-- The handler of each packet, with the packet as the application sees it. -/
def dispatchIncoming (packet : Packet) : Method (Packet × IncomingPacketEffects) :=
  match packet with
  | .pingResp => do
    modify handleIncomingPingresp
    return (packet, {})
  | .publish publish => do
    let (publish, outgoing) ← handleIncomingPublish publish
    return (.publish publish, { outgoing })
  | .subAck suback => do return (packet, ← handleIncomingSuback suback)
  | .unsubAck unsuback => do return (packet, ← handleIncomingUnsuback unsuback)
  | .pubAck puback => do return (packet, ← handleIncomingPuback puback)
  | .pubRec pubrec => do return (packet, ← handleIncomingPubrec pubrec)
  | .pubRel pubrel => outgoingOnly packet (handleIncomingPubrel pubrel)
  | .pubComp pubcomp => do return (packet, ← handleIncomingPubcomp pubcomp)
  | .connAck connack => outgoingOnly packet (handleIncomingConnack connack)
  | .disconnect disconn => outgoingOnly packet (handleIncomingDisconn disconn)
  | .auth auth => do
    let outgoing ← authentication (Authentication.handleIncomingAuth auth)
    return (packet, { outgoing := outgoing.map .auth })
  | .connect .. => fail (.protocolViolation (.unexpectedIncomingPacket .connect))
  | .subscribe _ => fail (.protocolViolation (.unexpectedIncomingPacket .subscribe))
  | .unsubscribe _ => fail (.protocolViolation (.unexpectedIncomingPacket .unsubscribe))
  | .pingReq => fail (.protocolViolation (.unexpectedIncomingPacket .pingReq))

/-- A publish answered with DISCONNECT is not shown to the application. -/
def refusedPublish : Packet → IncomingPacketEffects → Bool
  | .publish _, { outgoing := some (.disconnect _), .. } => true
  | _, _ => false

/-- The two errors after which the packet itself is still shown. -/
def queueIncomingEventOnError : Packet → StateError → Bool
  | .connAck _, .connFail _ => true
  | .disconnect _, .serverDisconnect .. => true
  | _, _ => false

/-- A broker DISCONNECT is kept for observation. -/
def retainFailurePacket (s : MqttState) (packet : Packet) : MqttState :=
  match packet with
  | .disconnect _ => { s with connectionFailurePacket := some packet }
  | _ => s

/-- **Incoming packets.** -/
def handleIncomingPacketWithEffects (packet : Packet) : Method IncomingPacketEffects := fun s =>
  let eventsLenBefore := s.events.length
  match (dispatchIncoming packet).run (s.retainFailurePacket packet) with
  | .error panic => .error panic
  | .ok (.ok (seen, effects), t) =>
    if refusedPublish seen effects || s.isDuplicateIncomingQos2Publish packet then .ok (.ok effects, t)
    else (do
      insertEvent eventsLenBefore (.incoming seen)
      return effects : Method IncomingPacketEffects).run t
  | .ok (.error error, t) =>
    if queueIncomingEventOnError packet error then (do
      insertEvent eventsLenBefore (.incoming packet)
      fail error : Method IncomingPacketEffects).run t
    else .ok (.error error, t)

end Rumqtt.V5.MqttState
