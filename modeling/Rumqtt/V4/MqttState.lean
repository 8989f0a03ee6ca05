/-
**The MQTT 3.1.1 protocol state: fields, construction, clean-up and reset.**

`MqttState` extends the shared `Flows` with the window counter, the incoming publishes and the event
buffer. Its methods are `Handler`s under the source's names; a method of the flows runs on the whole
through `flows` and `updateFlows`. Instants are left out.
-/

import Rumqtt.Flows
import Rumqtt.Lib.Handler
import Rumqtt.V4.Packet

namespace Rumqtt.V4

/-- **State of the MQTT 3.1.1 connection.** -/
structure MqttState extends Flows dialect where
  ping : PingState
  /-- Number of outgoing publishes and releases in the window. -/
  inflight : Nat
  maxInflight : UInt16
  /-- Incoming QoS 1 publishes waiting for their PUBACK. -/
  incomingPuback : FixedBitSet
  /-- Incoming QoS 2 publishes. -/
  incomingPub : FixedBitSet
  /-- Incoming QoS 2 publishes whose PUBREC has been sent. -/
  incomingPubrec : FixedBitSet
  events : List Event
  ackMode : AckMode

/-- What a request comes to: the packet to write, if there is one, and a notice to fail. -/
abbrev RequestResult := Except StateError (Option Packet × Option NoticeId)

/-- What an incoming packet comes to. -/
abbrev PacketResult := Except StateError IncomingPacketEffects

namespace MqttState

abbrev Method (α : Type) := Handler StateError MqttState α

def newInternal (maxInflight : UInt16) (ackMode : AckMode) : MqttState where
  toFlows := .new maxInflight.toNat
  ping := .new
  inflight := 0
  maxInflight
  incomingPuback := .withCapacity fullPacketIdentifierLen
  incomingPub := .withCapacity fullPacketIdentifierLen
  incomingPubrec := .withCapacity fullPacketIdentifierLen
  events := []
  ackMode

/-! ### Components -/

def putFlows (s : MqttState) (f : Flows dialect) : MqttState := { s with toFlows := f }

def putInflight (s : MqttState) (inflight : Nat) : MqttState := { s with inflight }

/-- A method of the outbound flows. -/
def flows {α : Type} (method : Handler StateError (Flows dialect) α) : Method α :=
  Handler.zoom toFlows putFlows method

/-- An update of the outbound flows that may panic. -/
def updateFlows (update : Flows dialect → Checked (Flows dialect)) : Method Unit :=
  Handler.zoomChecked toFlows putFlows update

/-- `inflight += 1` -/
def incrementInflight : Method Unit :=
  Handler.zoomChecked inflight putInflight (Checked.add u16Max · 1)

/-- `inflight -= 1` -/
def decrementInflight : Method Unit := Handler.zoomChecked inflight putInflight (Checked.sub · 1)

/-- `events.push_back` -/
def pushEvent (event : Event) (s : MqttState) : MqttState := { s with events := s.events ++ [event] }

/-- `events.insert`, which panics past the end. -/
def insertEvent (index : Nat) (event : Event) : Method Unit := fun s =>
  if index ≤ s.events.length then
    .ok (.ok (), { s with events := s.events.take index ++ event :: s.events.drop index })
  else .error (.indexOutOfBounds index s.events.length)

/-! ### Readiness -/

def canSendPublish (s : MqttState) (publish : Publish) : Bool :=
  if publish.qos = .atMostOnce then true
  else if s.inflight ≥ s.maxInflight.toNat ∨ s.collision.isSome then false
  else if publish.pkid = 0 then s.nextPublishPkid.isSome
  else (validateOutgoingPkid publish.pkid).isOk && !s.packetIdentifierInUse publish.pkid

def canSendReplayedPublish (s : MqttState) (publish : Publish) : Bool :=
  if publish.qos = .atMostOnce then true
  else if s.inflight ≥ s.maxInflight.toNat ∨ s.collision.isSome then false
  else s.replayedPublishIdentifierReady publish.pkid

/-- A replayed release needs a place in the window, an active one has it already. -/
def canSendPubrel (s : MqttState) (pkid : PacketId) : Bool :=
  pkid != 0 && (s.outgoingRel.contains pkid.toNat ||
    (s.outgoingRelReplay.contains pkid.toNat && decide (s.inflight < s.maxInflight.toNat)))

/-! ### Capacity -/

def outboundRequestsDrained (s : MqttState) : Bool := s.inflight == 0 && s.drained

def maybeShrinkOutgoingTrackingCapacity (s : MqttState) : MqttState :=
  let targetLen := warmTrackingLen s.maxInflight.toNat
  if s.outgoingPub.length ≤ targetLen ∨ s.outboundRequestsDrained = false then s
  else { s with toFlows := s.toFlows.shrinkTo targetLen }

/-! ### Clean-up and reset -/

/-- **`clean_with_notices_internal`**: the outbound part is `Flows.clean`; incomplete incoming QoS 2
publishes stay. -/
def cleanWithNoticesInternal (keepReplayPkidsReserved : Bool) : Method (List CleanRequest) := do
  let pending ← flows fun f => do
    let (pending, f) ← f.clean keepReplayPkidsReserved
    return (.ok pending, f)
  Handler.modify fun s =>
    { s with
      incomingPuback := s.incomingPuback.clear
      ping := .new
      inflight := 0 }
  if pending.isEmpty then Handler.modify maybeShrinkOutgoingTrackingCapacity
  return pending

def cleanWithNoticesForReconnect : Method (List CleanRequest) := cleanWithNoticesInternal true

/-- The public `clean`, for callers that drive the state machine themselves. -/
def clean : Method (List Request) := do
  let pending ← cleanWithNoticesInternal false
  return pending.map (·.request)

/-- `reset_session_state`: pending notices fail, with the identifiers of control requests released,
before the state is replaced. -/
def resetSessionState (s : MqttState) : Checked MqttState := do
  let _ ← s.toFlows.drainTrackedRequestsAsFailed
  return newInternal s.maxInflight s.ackMode

end MqttState

end Rumqtt.V4
