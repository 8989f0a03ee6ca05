/-
**The MQTT 5 protocol state: fields, construction, clean-up and reset.**

`MqttState` extends the shared `Flows` and the `Authentication` part with what only MQTT 5 has: the
send and receive quotas of the connection, releases replayed on it, incoming publishes, topic aliases
and the capabilities the broker announced. Its methods are `Handler`s under the source's names; a
method of one component runs on the whole through `flows`, `authentication`, `sendQuota` and
`receiveQuota`. Instants and the identity shown to authenticators are left out.
-/

import Rumqtt.Flows
import Rumqtt.V5.Auth
import Rumqtt.V5.TopicAlias

namespace Rumqtt.V5

open Handler

/-- **Publishes that use up a Receive Maximum on the current connection**, with their number. -/
structure Quota where
  bits : FixedBitSet
  inflight : Nat

namespace Quota

def new : Quota := ⟨.withCapacity fullPacketIdentifierLen, 0⟩

def clear (quota : Quota) : Quota := ⟨quota.bits.clear, 0⟩

/-- `acquire_outgoing_publish_quota` -/
def acquire (quota : Quota) (pkid : PacketId) : Checked Quota :=
  if quota.bits.contains pkid.toNat then return quota
  else do
    let bits ← quota.bits.insert pkid.toNat
    let inflight ← Checked.expect "outgoing publish quota must not overflow"
      (if quota.inflight < u16Max then some (quota.inflight + 1) else none)
    return ⟨bits, inflight⟩

/-- `release_outgoing_publish_quota` and `release_incoming_publish_quota`, by their message. -/
def release (message : String) (quota : Quota) (pkid : PacketId) : Checked Quota :=
  if quota.bits.contains pkid.toNat then do
    let bits ← quota.bits.set pkid.toNat false
    let inflight ← Checked.expect message
      (if 1 ≤ quota.inflight then some (quota.inflight - 1) else none)
    return ⟨bits, inflight⟩
  else return quota

/-- An incoming publish takes a place; the caller has compared the count with the maximum. -/
def take (quota : Quota) (pkid : PacketId) : Checked Quota := do
  let bits ← quota.bits.insert pkid.toNat
  let inflight ← Checked.add u16Max quota.inflight 1
  return ⟨bits, inflight⟩

end Quota

/-- What the broker supports on the current connection. -/
structure BrokerCapabilities where
  retainAvailable : Bool := true
  maximumQos : QoS := .exactlyOnce
  wildcardSubscriptionAvailable : Bool := true
  subscriptionIdentifiersAvailable : Bool := true
  sharedSubscriptionAvailable : Bool := true
  deriving DecidableEq, Repr

/-- The arguments of `MqttState::new_internal`. -/
structure StateOptions where
  maxInflight : UInt16
  ackMode : AckMode := .automatic
  autoTopicAliasPolicy : TopicAliasPolicy := .disabled
  clientTopicAliasMax : UInt16 := 0
  clientReceiveMaximum : UInt16 := 65535
  authenticationMethod : Option String := none
  authenticator : Option Authenticator := none

/-- **State of the MQTT 5 connection.** -/
structure MqttState extends Flows dialect, Authentication where
  ping : PingState
  /-- `outgoing_publish_quota` with `inflight`. -/
  outgoingPublishQuota : Quota
  /-- Active releases that were replayed on this connection. -/
  outgoingRelRecovery : FixedBitSet
  /-- Incoming QoS 1 publishes waiting for their PUBACK. -/
  incomingPuback : FixedBitSet
  /-- Incoming QoS 2 publishes. -/
  incomingPub : FixedBitSet
  /-- Incoming QoS 2 publishes whose PUBREC has been sent. -/
  incomingPubrec : FixedBitSet
  /-- `incoming_publish_quota` with `incoming_inflight`. -/
  incomingPublishQuota : Quota
  /-- Receive Maximum of the client. -/
  maxIncomingInflight : UInt16
  /-- The latest broker DISCONNECT, kept for observation. -/
  connectionFailurePacket : Option Packet
  ackMode : AckMode
  topicAliases : TopicAliasState
  connackReceived : Bool
  broker : BrokerCapabilities
  /-- Effective limit on outgoing QoS 1 and QoS 2 publishes. -/
  maxOutgoingInflight : UInt16
  /-- Configured limit on outgoing QoS 1 and QoS 2 publishes. -/
  maxOutgoingInflightUpperLimit : UInt16

/-- What a request comes to: the packet to write, if there is one, and a notice to fail. -/
abbrev RequestResult := Except StateError (Option Packet × Option NoticeId)

/-- What an incoming packet comes to. -/
abbrev PacketResult := Except StateError IncomingPacketEffects

/-- What a packet comes to before its event is queued: the packet that is shown, and its effects. -/
abbrev DispatchResult := Except StateError (Packet × IncomingPacketEffects)

namespace MqttState

abbrev Method (α : Type) := Handler StateError MqttState α

def newInternal (options : StateOptions) : MqttState where
  toFlows := .new options.maxInflight.toNat
  auth := { method := options.authenticationMethod }
  authenticator := options.authenticator
  events := []
  ping := .new
  outgoingPublishQuota := .new
  outgoingRelRecovery := .withCapacity 0
  incomingPuback := .withCapacity fullPacketIdentifierLen
  incomingPub := .withCapacity fullPacketIdentifierLen
  incomingPubrec := .withCapacity fullPacketIdentifierLen
  incomingPublishQuota := .new
  maxIncomingInflight := options.clientReceiveMaximum
  connectionFailurePacket := none
  ackMode := options.ackMode
  topicAliases := .new options.autoTopicAliasPolicy options.clientTopicAliasMax
  connackReceived := false
  broker := {}
  maxOutgoingInflight := options.maxInflight
  maxOutgoingInflightUpperLimit := options.maxInflight

def inflight (s : MqttState) : Nat := s.outgoingPublishQuota.inflight

/-! ### Components -/

def putFlows (s : MqttState) (f : Flows dialect) : MqttState := { s with toFlows := f }

def putAuthentication (s : MqttState) (a : Authentication) : MqttState :=
  { s with toAuthentication := a }

def putSendQuota (s : MqttState) (quota : Quota) : MqttState :=
  { s with outgoingPublishQuota := quota }

def putReceiveQuota (s : MqttState) (quota : Quota) : MqttState :=
  { s with incomingPublishQuota := quota }

/-- A method of the outbound flows. -/
def flows {α : Type} (method : Handler StateError (Flows dialect) α) : Method α :=
  zoom toFlows putFlows method

/-- An update of the outbound flows that may panic. -/
def updateFlows (update : Flows dialect → Checked (Flows dialect)) : Method Unit :=
  zoomChecked toFlows putFlows update

/-- A method of the authentication exchange. -/
def authentication {α : Type} (method : Authentication.Method α) : Method α :=
  zoom toAuthentication putAuthentication method

def acquireOutgoingPublishQuota (pkid : PacketId) : Method Unit :=
  zoomChecked outgoingPublishQuota putSendQuota (·.acquire pkid)

def releaseOutgoingPublishQuota (pkid : PacketId) : Method Unit :=
  zoomChecked outgoingPublishQuota putSendQuota
    (Quota.release "outgoing publish quota tracking must remain balanced" · pkid)

def releaseIncomingPublishQuota (pkid : PacketId) : Method Unit :=
  zoomChecked incomingPublishQuota putReceiveQuota
    (Quota.release "incoming publish quota tracking must remain balanced" · pkid)

/-- `events.push_back` -/
def pushEvent (event : Event) (s : MqttState) : MqttState := { s with events := s.events ++ [event] }

/-- `events.insert`, which panics past the end. -/
def insertEvent (index : Nat) (event : Event) : Method Unit := fun s =>
  if index ≤ s.events.length then
    .ok (.ok (), { s with events := s.events.take index ++ event :: s.events.drop index })
  else .error (.indexOutOfBounds index s.events.length)

/-! ### Readiness -/

def canSendPublish (s : MqttState) (publish : Publish) : Bool :=
  if publish.qos = .atMostOnce then true
  else if s.inflight ≥ s.maxOutgoingInflight.toNat ∨ s.collision.isSome then false
  else if publish.pkid = 0 then s.nextPublishPkid.isSome
  else (validateOutgoingPkid publish.pkid).isOk && !s.packetIdentifierInUse publish.pkid

def canSendReplayedPublish (s : MqttState) (publish : Publish) : Bool :=
  if publish.qos = .atMostOnce then true
  else if s.inflight ≥ s.maxOutgoingInflight.toNat ∨ s.collision.isSome then false
  else s.replayedPublishIdentifierReady publish.pkid

def canSendPubrel (s : MqttState) (pkid : PacketId) : Bool :=
  pkid != 0 && (s.outgoingRel.contains pkid.toNat || s.outgoingRelReplay.contains pkid.toNat)

/-! ### Capacity -/

def outboundRequestsDrained (s : MqttState) : Bool :=
  s.inflight == 0 && s.drained && s.outgoingRelRecovery.isClear

def maybeShrinkOutgoingTrackingCapacity (s : MqttState) : MqttState :=
  let targetLen := warmTrackingLen s.maxOutgoingInflightUpperLimit.toNat
  if s.outgoingPub.length ≤ targetLen ∨ s.outboundRequestsDrained = false then s
  else { s with toFlows := s.toFlows.shrinkTo targetLen, outgoingRelRecovery := .withCapacity 0 }

def reconcileOutgoingTrackingCapacity (s : MqttState) (pendingEmpty : Bool) : MqttState :=
  if pendingEmpty then s.maybeShrinkOutgoingTrackingCapacity else s

/-! ### Connection scope and clean-up -/

def resetConnackScopedState (s : MqttState) : MqttState :=
  { s with
    topicAliases := s.topicAliases.resetConnectionScoped
    broker := {}
    maxOutgoingInflight := s.maxOutgoingInflightUpperLimit }

def resetConnectionScopedState (s : MqttState) : MqttState :=
  { resetConnackScopedState { s with connackReceived := false } with
    outgoingPublishQuota := s.outgoingPublishQuota.clear
    incomingPublishQuota := s.incomingPublishQuota.clear }

/-- **`clean_with_notices_internal`**: the outbound part is `Flows.clean`; incomplete incoming QoS 2
publishes stay. -/
def cleanWithNoticesInternal (keepReplayPkidsReserved : Bool) : Method (List CleanRequest) := do
  let pending ← flows fun f => do
    let (pending, f) ← f.clean keepReplayPkidsReserved
    return (.ok pending, f)
  modify fun s =>
    { s with
      outgoingRelRecovery := .withCapacity 0
      incomingPuback := s.incomingPuback.clear
      ping := .new
      outgoingPublishQuota := s.outgoingPublishQuota.clear }
  if pending.isEmpty then modify maybeShrinkOutgoingTrackingCapacity
  return pending

def cleanWithNoticesForReconnect : Method (List CleanRequest) := cleanWithNoticesInternal true

/-- The requests of a clean-up whose aliases can be repaired, in order. -/
def repairAll : List Request → AliasMap → List Request
  | [], _ => []
  | request :: rest, aliases =>
    match prepareRequestForReplayWithAliases request aliases with
    | (.ok request, aliases) => request :: repairAll rest aliases
    | (.error _, aliases) => repairAll rest aliases

/-- The public `clean`, for callers that drive the state machine themselves. -/
def clean : Method (List Request) := do
  let aliases := (← get).topicAliases.replayAliases
  let pending ← cleanWithNoticesInternal false
  modify resetConnectionScopedState
  return repairAll (pending.map (·.request)) aliases

/-- The state a session reset leaves: everything but the configuration, the events and the
authentication exchange is new. -/
def sessionReset (s : MqttState) : MqttState :=
  { newInternal {
      maxInflight := s.maxOutgoingInflightUpperLimit
      ackMode := s.ackMode
      autoTopicAliasPolicy := s.topicAliases.autoPolicy
      clientTopicAliasMax := s.topicAliases.clientMax
      clientReceiveMaximum := s.maxIncomingInflight
      authenticationMethod := s.auth.method
      authenticator := s.authenticator } with
    events := s.events
    auth := { s.auth with state := s.auth.state.clone } }

/-- `reset_session_state_with_reason`: pending notices fail, with the identifiers of control requests
released, before the state is replaced. -/
def resetSessionStateWithReason (s : MqttState) : Checked MqttState := do
  let _ ← s.toFlows.drainTrackedRequestsAsFailed
  return s.sessionReset

end MqttState

end Rumqtt.V5
