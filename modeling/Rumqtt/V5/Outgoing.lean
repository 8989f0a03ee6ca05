/-
**Outgoing requests of the MQTT 5 state machine.**

`handleOutgoingPacketWithNoticeInternal` is the entry point: it turns a request into the packet to
write and tracks what must be answered. The second component of its result is the notice of a QoS 0
publish, which the event loop completes once the packet has been flushed.
-/

import Rumqtt.V5.MqttState

namespace Rumqtt.V5

open Handler

inductive UnsupportedBrokerCapability where
  | retainedPublish
  | publishQoS (requested maximum : QoS)
  | subscriptionIdentifiers
  | sharedSubscription
  | wildcardSubscription
  deriving DecidableEq, Repr

def UnsupportedBrokerCapability.stateError : UnsupportedBrokerCapability → StateError
  | .retainedPublish => .retainNotSupported
  | .publishQoS requested maximum => .qoSNotSupported requested maximum
  | .subscriptionIdentifiers => .subscriptionIdentifiersNotSupported
  | .sharedSubscription => .sharedSubscriptionNotSupported
  | .wildcardSubscription => .wildcardSubscriptionNotSupported

/-- `mqttbytes::has_wildcards` -/
def hasWildcards (path : String) : Bool := path.toList.contains '+' || path.toList.contains '#'

namespace BrokerCapabilities

section

variable (broker : BrokerCapabilities)

def unsupportedPublishCapability (publish : Publish) :
    Option UnsupportedBrokerCapability :=
  if publish.retain ∧ ¬ broker.retainAvailable then some .retainedPublish
  else if broker.maximumQos.toNat < publish.qos.toNat then
    some (.publishQoS publish.qos broker.maximumQos)
  else none

def unsupportedSubscribeCapability (subscribe : Subscribe) :
    Option UnsupportedBrokerCapability :=
  if ¬ broker.subscriptionIdentifiersAvailable ∧
      (subscribe.properties.bind SubscribeProperties.id).isSome then
    some .subscriptionIdentifiers
  else if ¬ broker.sharedSubscriptionAvailable ∧
      subscribe.filters.any (fun filter => "$share/".toList.isPrefixOf filter.path.toList) then
    some .sharedSubscription
  else if ¬ broker.wildcardSubscriptionAvailable ∧
      subscribe.filters.any (fun filter => hasWildcards filter.path) then
    some .wildcardSubscription
  else none

def unsupportedBrokerCapability : Request → Option UnsupportedBrokerCapability
  | .publish publish => broker.unsupportedPublishCapability publish
  | .subscribe subscribe => broker.unsupportedSubscribeCapability subscribe
  | _ => none

end

end BrokerCapabilities

namespace MqttState

/-! ### Publishes -/

section

variable (publish : Publish)

/-- A publish without an identifier gets the next free one, unless it is a replay. -/
def assignPublishPkid (replay : Bool) : Method Publish := do
  if publish.pkid ≠ 0 then return publish
  else if replay then fail .invalidState
  else
    let s ← get
    match s.toPacketIds.nextPkid with
    | none => fail .invalidState
    | some (pkid, ids) =>
      modify fun s => s.putFlows { s.toFlows with toPacketIds := ids }
      return { publish with pkid }

/-- From the capacity check of `outgoing_publish_with_notice_internal` on: the publish is stored, or
parked when another publish still owns its identifier. -/
def trackOutgoingPublish (notice : Option NoticeId)
    (action : Option AutoTopicAliasAction) (replay : Bool) : Method Bool := do
  let pkid := publish.pkid
  ofExcept (validateOutgoingPkid pkid)
  modify fun s => s.putFlows (s.toFlows.ensureOutgoingTrackingCapacity (pkid.toNat + 1))
  let s ← get
  match s.outgoingPub.get? pkid.toNat with
  | none => fail (.unsolicited pkid)
  | some (some _) =>
    modify fun s => pushEvent (.outgoing (.awaitAck pkid))
      { s with
        collision := some (AutoTopicAliasAction.restoreParked action publish)
        collisionNotice := notice }
    return false
  | some none =>
    if s.heldByOtherFlow pkid then fail .invalidState
    else if replay then
      ofExcept (s.acceptReplayedOutboundPkid pkid)
      updateFlows (·.trackPublish (s.topicAliases.publishForReplayTracking publish) notice)
      acquireOutgoingPublishQuota pkid
      return true
    else
      flows (·.reserve pkid)
      updateFlows (·.trackPublish (s.topicAliases.publishForReplayTracking publish) notice)
      acquireOutgoingPublishQuota pkid
      return true

/-- The alias tables after a publish has been handed to the network. -/
def recordAliases (action : Option AutoTopicAliasAction) (a : TopicAliasState) :
    TopicAliasState :=
  let a := match action with
    | some (.new pending) => a.recordAutoTopicAlias pending
    | some (.existing _ aliasId) => a.recordAutoTopicAliasUse aliasId
    | none => a
  a.recordOutgoingTopicAlias publish

/-- The end of `outgoing_publish_with_notice_internal`: aliases and the event. -/
def recordPublish (action : Option AutoTopicAliasAction) (s : MqttState) :
    MqttState :=
  pushEvent (.outgoing (.publish publish.pkid))
    { s with topicAliases := recordAliases publish action s.topicAliases }

/-- The QoS 1 and QoS 2 part of `outgoing_publish_with_notice_internal`: a parked publish is not
written, and its aliases are not recorded. -/
def sendTrackedPublish (notice : Option NoticeId)
    (action : Option AutoTopicAliasAction) (replay : Bool) :
    Method (Option Packet × Option NoticeId) := do
  let publish ← assignPublishPkid publish replay
  if ← trackOutgoingPublish publish notice action replay then
    modify (recordPublish publish action)
    return (some (.publish publish), none)
  else return (none, none)

def outgoingPublishWithNoticeInternal (notice : Option NoticeId)
    (replay : Bool) : Method (Option Packet × Option NoticeId) := do
  let s ← get
  match s.broker.unsupportedPublishCapability publish with
  | some unsupported => fail unsupported.stateError
  | none =>
    if publish.qos ≠ .atMostOnce ∧ s.inflight ≥ s.maxOutgoingInflight.toNat then
      fail (.outgoingPublishQuotaExceeded s.maxOutgoingInflight.toNat)
    else
      let (publish, action) := s.topicAliases.applyAutoTopicAlias publish
      ofExcept (s.topicAliases.validateOutgoingTopicAlias publish)
      if publish.qos = .atMostOnce then
        modify (recordPublish publish action)
        return (some (.publish publish), notice)
      else sendTrackedPublish publish notice action replay

end

/-! ### Releases -/

def savePubrelWithNotice (pubrel : PubRel) (notice : Option NoticeId) : Method PubRel := do
  ofExcept (validateOutgoingPkid pubrel.pkid)
  let s ← get
  let replayingPubrel := s.outgoingRelReplay.contains pubrel.pkid.toNat
  if s.outgoingRel.contains pubrel.pkid.toNat = false ∧ replayingPubrel = false then
    fail (.unsolicited pubrel.pkid)
  else
    modify fun s => s.putFlows (s.toFlows.ensureOutgoingTrackingCapacity (pubrel.pkid.toNat + 1))
    if replayingPubrel then
      updateFlows (·.resumeRelease pubrel.pkid)
      modify fun s =>
        { s with outgoingRelRecovery := s.outgoingRelRecovery.growAndInsert pubrel.pkid.toNat }
    updateFlows (·.noteRelease pubrel.pkid notice)
    return pubrel

def outgoingPubrelWithNotice (pubrel : PubRel) (notice : Option NoticeId) :
    Method (Option Packet × Option NoticeId) := do
  let pubrel ← savePubrelWithNotice pubrel notice
  modify (pushEvent (.outgoing (.pubRel pubrel.pkid)))
  return (some (.pubRel { pkid := pubrel.pkid }), none)

/-! ### Acknowledgements of incoming publishes -/

def outgoingPuback (puback : PubAck) : Method Packet := do
  let s ← get
  if s.incomingPuback.contains puback.pkid.toNat = false then
    fail (.unsolicited puback.pkid)
  else
    let incomingPuback ← ofChecked (s.incomingPuback.set puback.pkid.toNat false)
    modify fun s => { s with incomingPuback }
    releaseIncomingPublishQuota puback.pkid
    modify (pushEvent (.outgoing (.pubAck puback.pkid)))
    return .pubAck puback

def outgoingPubrecInternal (pubrec : PubRec) (allowDuplicate : Bool) : Method Packet := do
  let s ← get
  if s.incomingPub.contains pubrec.pkid.toNat = false then fail (.unsolicited pubrec.pkid)
  else if s.incomingPubrec.contains pubrec.pkid.toNat then
    if allowDuplicate then
      modify (pushEvent (.outgoing (.pubRec pubrec.pkid)))
      return .pubRec pubrec
    else fail (.unsolicited pubrec.pkid)
  else if 0x80 ≤ pubrec.reason.code then
    let incomingPub ← ofChecked (s.incomingPub.set pubrec.pkid.toNat false)
    let incomingPubrec ← ofChecked (s.incomingPubrec.set pubrec.pkid.toNat false)
    modify fun s => { s with incomingPub, incomingPubrec }
    releaseIncomingPublishQuota pubrec.pkid
    modify (pushEvent (.outgoing (.pubRec pubrec.pkid)))
    return .pubRec pubrec
  else
    let incomingPubrec ← ofChecked (s.incomingPubrec.insert pubrec.pkid.toNat)
    modify fun s => { s with incomingPubrec }
    modify (pushEvent (.outgoing (.pubRec pubrec.pkid)))
    return .pubRec pubrec

def outgoingPubrec (pubrec : PubRec) : Method Packet := outgoingPubrecInternal pubrec false

def outgoingPubrecForIncomingPublish (pubrec : PubRec) : Method Packet :=
  outgoingPubrecInternal pubrec true

/-! ### Control requests -/

def outgoingPing : Method (Option Packet) := do
  let s ← get
  let (collisionCount, ping) :=
    if s.collision.isSome then s.ping.incrementCollisionCount else (0, s.ping)
  modify fun s => { s with ping }
  if 2 ≤ collisionCount then fail .collisionTimeout
  else if ping.awaitPingresp then fail .awaitPingResp
  else
    modify fun s => pushEvent (.outgoing .pingReq) { s with ping := ping.beginWaitingForResp }
    return some .pingReq

/-- The identifier of a fresh control request: the next free one, or the one it asks for. -/
def claimControlPkid (pkid : PacketId) : Method PacketId := do
  if pkid = 0 then
    flows fun f => do
      let (result, ids) ← f.toPacketIds.nextControlPkid
      return (result, { f with toPacketIds := ids })
  else
    -- `reserve_control_pkid`
    ofExcept (validateOutgoingPkid pkid)
    flows (·.reserve pkid)
    modify fun s => s.putFlows { s.toFlows with lastPkid := pkid }
    return pkid

def validateOutgoingSubscribe (s : MqttState) (subscription : Subscribe) : Except StateError Unit :=
  if subscription.filters.isEmpty then .error .emptySubscription
  else match s.broker.unsupportedSubscribeCapability subscription with
    | some unsupported => .error unsupported.stateError
    | none => .ok ()

section

variable (subscription : Subscribe) (notice : Option NoticeId)

def saveOutgoingSubscribe : Method Packet := do
  modify fun s => pushEvent (.outgoing (.subscribe subscription.pkid))
    { s with pendingSubscribe := s.pendingSubscribe.insert subscription.pkid ⟨subscription, notice⟩ }
  return .subscribe subscription

def outgoingSubscribe : Method Packet := do
  let s ← get
  ofExcept (s.validateOutgoingSubscribe subscription)
  let pkid ← claimControlPkid subscription.pkid
  saveOutgoingSubscribe { subscription with pkid } notice

def replayOutgoingSubscribe :
    Method Packet := do
  let s ← get
  ofExcept (s.validateOutgoingSubscribe subscription)
  ofExcept (s.acceptReplayedOutboundPkid subscription.pkid)
  saveOutgoingSubscribe subscription notice

end

def validateOutgoingUnsubscribe (unsub : Unsubscribe) : Except StateError Unit :=
  if unsub.filters.isEmpty then .error .emptyUnsubscription else .ok ()

section

variable (unsub : Unsubscribe) (notice : Option NoticeId)

def saveOutgoingUnsubscribe : Method Packet := do
  modify fun s => pushEvent (.outgoing (.unsubscribe unsub.pkid))
    { s with pendingUnsubscribe := s.pendingUnsubscribe.insert unsub.pkid ⟨unsub, notice⟩ }
  return .unsubscribe unsub

def outgoingUnsubscribe : Method Packet := do
  ofExcept (validateOutgoingUnsubscribe unsub)
  let pkid ← claimControlPkid unsub.pkid
  saveOutgoingUnsubscribe { unsub with pkid } notice

def replayOutgoingUnsubscribe : Method Packet := do
  ofExcept (validateOutgoingUnsubscribe unsub)
  let s ← get
  ofExcept (s.acceptReplayedOutboundPkid unsub.pkid)
  saveOutgoingUnsubscribe unsub notice

end

def outgoingDisconnect (disconnect : Disconnect) : Method Packet := do
  modify fun s => s.putAuthentication s.toAuthentication.failAuthExchangeDueToClientDisconnect
  modify (pushEvent (.outgoing .disconnect))
  return .disconnect disconnect

/-! ### Dispatch -/

/-- A packet without a notice to complete on flush. -/
def packetOnly (method : Method Packet) : Method (Option Packet × Option NoticeId) := do
  let packet ← method
  return (some packet, none)

/-- **Outgoing requests.** Graceful disconnects never reach the state machine: the event loop handles
them, and this method would stop the program. -/
def handleOutgoingPacketWithNoticeInternal (request : Request) (notice : Option TrackedNotice)
    (replay : Bool) : Method (Option Packet × Option NoticeId) :=
  match request with
  | .publish publish =>
    outgoingPublishWithNoticeInternal publish (notice.bind TrackedNotice.publish?) replay
  | .pubRel pubrel => outgoingPubrelWithNotice pubrel (notice.bind TrackedNotice.publish?)
  | .subscribe subscribe =>
    packetOnly (if replay then
      replayOutgoingSubscribe subscribe (notice.bind TrackedNotice.subscribe?)
    else outgoingSubscribe subscribe (notice.bind TrackedNotice.subscribe?))
  | .unsubscribe unsubscribe =>
    packetOnly (if replay then
      replayOutgoingUnsubscribe unsubscribe (notice.bind TrackedNotice.unsubscribe?)
    else outgoingUnsubscribe unsubscribe (notice.bind TrackedNotice.unsubscribe?))
  | .pingReq => do
    let packet ← outgoingPing
    return (packet, none)
  | .disconnect _ | .disconnectWithTimeout .. | .disconnectAfterQueued _
  | .disconnectAfterQueuedWithTimeout .. =>
    ofChecked
      (.error (.unreachableCode "graceful disconnect requests are handled by the event loop"))
  | .disconnectNow disconnect => packetOnly (outgoingDisconnect disconnect)
  | .pubAck puback => packetOnly (outgoingPuback puback)
  | .pubRec pubrec => packetOnly (outgoingPubrec pubrec)
  | .auth auth => do
    let auth ← authentication (Authentication.outgoingAuth auth (notice.bind TrackedNotice.auth?))
    return (some (.auth auth), none)
  | .pubComp _ | .pingResp | .subAck _ | .unsubAck _ => fail .invalidState

/-- The public `handle_outgoing_packet`: a fresh request without a notice. -/
def handleOutgoingPacket (request : Request) : Method (Option Packet) := do
  let (packet, _) ← handleOutgoingPacketWithNoticeInternal request none false
  return packet

end MqttState

end Rumqtt.V5
