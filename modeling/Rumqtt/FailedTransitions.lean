/-
**Failed transitions change nothing.**

An error is often returned from the middle of a transition, after an identifier was looked up or the
tracking arrays were grown. What the state machines keep about flows is nevertheless the same before
and after, with MQTT 5 and with MQTT 3.1.1: the outcome lists of requests and packets say what every
error leaves, and the only traces are empty slots (`ensureOutgoingTrackingCapacity`), the ping of a
failed PINGREQ and the authentication exchange.

* `Flows.SameEntries`: two states of the outbound flows with the same entries;
* `FailuresChangeNothing`: every error of the state machine leaves the same entries;
* `failed_transitions_change_nothing`: this holds in every state of every run.
-/

import Rumqtt.V4.Driver
import Rumqtt.V5.Driver

namespace Rumqtt

open SlotVec

/-! ### Outbound flows with the same entries -/

/-- **The same entries**: `g` tracks what `f` tracks, in arrays that may have grown by empty slots. -/
structure Flows.SameEntries {D : Dialect} (f g : Flows D) : Prop where
  ids : g.toPacketIds = f.toPacketIds
  publish : ∀ slot, g.outgoingPub.lookup slot = f.outgoingPub.lookup slot
  publishOrder : g.outgoingPubOrder = f.outgoingPubOrder
  publishNotice : ∀ slot, g.outgoingPubNotice.lookup slot = f.outgoingPubNotice.lookup slot
  release : ∀ bit, bit ∈ g.outgoingRel ↔ bit ∈ f.outgoingRel
  releaseOrder : g.outgoingRelOrder = f.outgoingRelOrder
  releaseReplay : ∀ bit, bit ∈ g.outgoingRelReplay ↔ bit ∈ f.outgoingRelReplay
  releaseReplayOrder : g.outgoingRelReplayOrder = f.outgoingRelReplayOrder
  releaseNotice : ∀ slot, g.outgoingRelNotice.lookup slot = f.outgoingRelNotice.lookup slot
  collision : g.collision = f.collision
  collisionNotice : g.collisionNotice = f.collisionNotice
  pendingSubscribe : g.pendingSubscribe = f.pendingSubscribe
  pendingUnsubscribe : g.pendingUnsubscribe = f.pendingUnsubscribe
  publishRoom : f.outgoingPub.length ≤ g.outgoingPub.length
  publishNoticeRoom : f.outgoingPubNotice.length ≤ g.outgoingPubNotice.length
  releaseRoom : f.outgoingRel.length ≤ g.outgoingRel.length
  releaseReplayRoom : f.outgoingRelReplay.length ≤ g.outgoingRelReplay.length
  releaseNoticeRoom : f.outgoingRelNotice.length ≤ g.outgoingRelNotice.length

namespace Flows.SameEntries

variable {D : Dialect}

theorem refl (f : Flows D) : f.SameEntries f where
  ids := rfl
  publish _ := rfl
  publishOrder := rfl
  publishNotice _ := rfl
  release _ := Iff.rfl
  releaseOrder := rfl
  releaseReplay _ := Iff.rfl
  releaseReplayOrder := rfl
  releaseNotice _ := rfl
  collision := rfl
  collisionNotice := rfl
  pendingSubscribe := rfl
  pendingUnsubscribe := rfl
  publishRoom := le_rfl
  publishNoticeRoom := le_rfl
  releaseRoom := le_rfl
  releaseReplayRoom := le_rfl
  releaseNoticeRoom := le_rfl

/-- More room is no new entry. -/
theorem ensureOutgoingTrackingCapacity (f : Flows D) (targetLen : Nat) :
    f.SameEntries (f.ensureOutgoingTrackingCapacity targetLen) :=
  { refl f with
    publish := lookup_growTo f.outgoingPub targetLen
    publishNotice := lookup_growTo f.outgoingPubNotice targetLen
    releaseNotice := lookup_growTo f.outgoingRelNotice targetLen
    publishRoom := (length_growTo ..).symm ▸ le_max_left ..
    publishNoticeRoom := (length_growTo ..).symm ▸ le_max_left ..
    releaseRoom := le_max_left ..
    releaseReplayRoom := le_max_left ..
    releaseNoticeRoom := (length_growTo ..).symm ▸ le_max_left .. }

end Flows.SameEntries

/-! ### MQTT 5 -/

namespace V5

/-- **Everything the MQTT 5 state machine tracks is the same.** -/
structure MqttState.SameEntries (s t : MqttState) : Prop where
  flows : s.toFlows.SameEntries t.toFlows
  recovery : t.outgoingRelRecovery = s.outgoingRelRecovery
  sendQuota : t.outgoingPublishQuota = s.outgoingPublishQuota
  incomingPuback : t.incomingPuback = s.incomingPuback
  incomingPub : t.incomingPub = s.incomingPub
  incomingPubrec : t.incomingPubrec = s.incomingPubrec
  receiveQuota : t.incomingPublishQuota = s.incomingPublishQuota
  topicAliases : t.topicAliases = s.topicAliases

namespace MqttState

variable {s t : MqttState} {error : StateError}

theorem SameEntries.refl (s : MqttState) : s.SameEntries s :=
  ⟨.refl s.toFlows, rfl, rfl, rfl, rfl, rfl, rfl, rfl⟩

theorem Requested.sameEntries {notice : Option TrackedNotice} {request : Request} {replay : Bool}
    {result : RequestResult}
    (requested : Requested s notice request replay result t) (failed : result = .error error) :
    s.SameEntries t := by
  cases requested with
  | rejected => exact .refl s
  | refused publish =>
    exact { SameEntries.refl s with flows := .ensureOutgoingTrackingCapacity s.toFlows _ }
  | pingFailed => exact { SameEntries.refl s with }
  | auth => exact { SameEntries.refl s with }
  | _ => cases failed

theorem Dispatched.sameEntries {packet : Packet} {result : DispatchResult}
    (dispatched : Dispatched s packet result t) (failed : result = .error error) :
    s.SameEntries t := by
  cases dispatched with
  | rejected => exact .refl s
  | failed => exact { SameEntries.refl s with }
  | auth => exact { SameEntries.refl s with }
  | _ => cases failed

theorem Handled.sameEntries {packet : Packet} {result : PacketResult}
    (handled : Handled s packet result t) (failed : result = .error error) : s.SameEntries t := by
  obtain ⟨_, found, _, _, dispatched, rfl, rfl⟩ := handled.dispatched
  cases found with
  | ok => cases failed
  | error =>
    have same := dispatched.sameEntries rfl
    exact { same with }

end MqttState

namespace Driver

open MqttState

variable {d : Driver}

/-- **Every error leaves the same entries**, for any fresh request, any replay of a request that was
handed out and any incoming packet. -/
structure FailuresChangeNothing (d : Driver) : Prop where
  request : ∀ (request : Request) (notice : Option TrackedNotice) (error : StateError) (t : MqttState),
    (handleOutgoingPacketWithNoticeInternal request notice false).run d.state = .ok (.error error, t) →
      d.state.SameEntries t
  replay : ∀ request ∈ d.replays, ∀ (notice : Option TrackedNotice) (error : StateError)
    (t : MqttState),
    (handleOutgoingPacketWithNoticeInternal request notice true).run d.state = .ok (.error error, t) →
      d.state.SameEntries t
  incoming : ∀ (packet : Packet) (error : StateError) (t : MqttState),
    (handleIncomingPacketWithEffects packet).run d.state = .ok (.error error, t) →
      d.state.SameEntries t

theorem handed_of_failed {request : Request} {notice : Option TrackedNotice} {replay : Bool}
    {error : StateError} {s t : MqttState}
    (failed : (handleOutgoingPacketWithNoticeInternal request notice replay).run s =
      .ok (.error error, t)) : request.isLeftToEventLoop = false := by
  refine Bool.eq_false_iff.mpr fun graceful => ?_
  cases (handleOutgoing_graceful graceful notice replay s).symm.trans failed

theorem Healthy.failuresChangeNothing (healthy : d.Healthy) : d.FailuresChangeNothing := by
  obtain ⟨live, sound, inLive⟩ := Accounts.exists_live healthy
  refine ⟨fun request notice error t failed => ?_, fun request member notice error t failed => ?_,
    fun packet error t failed => ?_⟩
  · exact (Handler.of_failed (sound.handleOutgoing_run request notice false (handed_of_failed failed)
      (by simp)) failed).sameEntries rfl
  · exact (Handler.of_failed (sound.handleOutgoing_run request notice true (handed_of_failed failed)
      fun _ => inLive request member) failed).sameEntries rfl
  · exact (Handler.of_failed (sound.handleIncoming_run packet) failed).sameEntries rfl

end Driver

end V5

/-! ### MQTT 3.1.1 -/

namespace V4

/-- **Everything the MQTT 3.1.1 state machine tracks is the same.** -/
structure MqttState.SameEntries (s t : MqttState) : Prop where
  flows : s.toFlows.SameEntries t.toFlows
  inflight : t.inflight = s.inflight
  incomingPuback : t.incomingPuback = s.incomingPuback
  incomingPub : t.incomingPub = s.incomingPub
  incomingPubrec : t.incomingPubrec = s.incomingPubrec

namespace MqttState

variable {s t : MqttState} {error : StateError}

theorem SameEntries.refl (s : MqttState) : s.SameEntries s := ⟨.refl s.toFlows, rfl, rfl, rfl, rfl⟩

theorem Requested.sameEntries {notice : Option TrackedNotice} {request : Request} {replay : Bool}
    {result : RequestResult}
    (requested : Requested s notice request replay result t) (failed : result = .error error) :
    s.SameEntries t := by
  cases requested with
  | rejected => exact .refl s
  | refused publish =>
    exact { SameEntries.refl s with flows := .ensureOutgoingTrackingCapacity s.toFlows _ }
  | pingFailed => exact { SameEntries.refl s with }
  | _ => cases failed

theorem Handled.sameEntries {packet : Packet} {result : PacketResult}
    (handled : Handled s packet result t) (failed : result = .error error) : s.SameEntries t := by
  cases handled with
  | shown => cases failed
  | hidden => cases failed
  | failed _ _ dispatched =>
    cases dispatched with
    | rejected => exact .refl s

end MqttState

namespace Driver

open MqttState

variable {d : Driver}

/-- **Every error leaves the same entries**, for any fresh request, any replay of a request that was
handed out and any incoming packet. -/
structure FailuresChangeNothing (d : Driver) : Prop where
  request : ∀ (request : Request) (notice : Option TrackedNotice) (error : StateError) (t : MqttState),
    (handleOutgoingPacketWithNoticeInternal request notice false).run d.state = .ok (.error error, t) →
      d.state.SameEntries t
  replay : ∀ request ∈ d.replays, ∀ (notice : Option TrackedNotice) (error : StateError)
    (t : MqttState),
    (handleOutgoingPacketWithNoticeInternal request notice true).run d.state = .ok (.error error, t) →
      d.state.SameEntries t
  incoming : ∀ (packet : Packet) (error : StateError) (t : MqttState),
    (handleIncomingPacketWithEffects packet).run d.state = .ok (.error error, t) →
      d.state.SameEntries t

theorem handed_of_failed {request : Request} {notice : Option TrackedNotice} {replay : Bool}
    {error : StateError} {s t : MqttState}
    (failed : (handleOutgoingPacketWithNoticeInternal request notice replay).run s =
      .ok (.error error, t)) : request.isLeftToEventLoop = false := by
  refine Bool.eq_false_iff.mpr fun graceful => ?_
  cases (handleOutgoing_graceful graceful notice replay s).symm.trans failed

theorem Healthy.failuresChangeNothing (healthy : d.Healthy) : d.FailuresChangeNothing := by
  obtain ⟨live, sound, inLive⟩ := Accounts.exists_live healthy
  refine ⟨fun request notice error t failed => ?_, fun request member notice error t failed => ?_,
    fun packet error t failed => ?_⟩
  · exact (Handler.of_failed (sound.handleOutgoing_run request notice false (handed_of_failed failed)
      (by simp)) failed).sameEntries rfl
  · exact (Handler.of_failed (sound.handleOutgoing_run request notice true (handed_of_failed failed)
      fun _ => inLive request member) failed).sameEntries rfl
  · exact (Handler.of_failed (sound.handleIncoming_run packet) failed).sameEntries rfl

end Driver

end V4

/-! ### Every run -/

/-- **Failed transitions change nothing.** In every state of every run, a request, a replayed request
or a packet that the state machine answers with an error leaves all flows, identifiers, counts,
notices, incoming tables and aliases as they were. -/
theorem failed_transitions_change_nothing (options : V5.StateOptions) (ops : List V5.Op)
    (maxInflight : UInt16) (ackMode : AckMode) (ops4 : List V4.Op) :
    (runSteps V5.Driver.step (.new options) ops).Satisfies V5.Driver.Excused
        V5.Driver.FailuresChangeNothing ∧
      (runSteps V4.Driver.step (.new maxInflight ackMode) ops4).Satisfies V4.Driver.Excused
        V4.Driver.FailuresChangeNothing :=
  ⟨(V5.Driver.healthy_run options ops).mono fun _ healthy => healthy.failuresChangeNothing,
    (V4.Driver.healthy_run maxInflight ackMode ops4).mono fun _ healthy =>
      healthy.failuresChangeNothing⟩

end Rumqtt
