/-
**The MQTT 5 state machine makes the moves of the abstract flows.**

Every outcome of a request (`Requested.move`) and of an incoming packet (`Handled.move`) is one of the
moves listed for `FlowView`. A request or packet that is an error leaves the view as it was.
-/

import Rumqtt.Flows.View
import Rumqtt.V5.Requests

namespace Rumqtt.V5

/-- What an incoming packet means to the outbound flows. -/
def Packet.flowPacket : Packet → FlowPacket
  | .pubAck puback => .puback puback.pkid
  | .pubRec pubrec => if 0x80 ≤ pubrec.reason.code then .refusal pubrec.pkid else .pubrec pubrec.pkid
  | .pubComp pubcomp => .pubcomp pubcomp.pkid
  | .subAck suback => .control suback.pkid
  | .unsubAck unsuback => .control unsuback.pkid
  | _ => .other

/-- The identifier of a QoS 1 or QoS 2 publish on the wire. -/
def Packet.sentPublish : Packet → Option PacketId
  | .publish packet => if packet.qos = .atMostOnce then none else some packet.pkid
  | _ => none

namespace MqttState

variable {s t : MqttState} {pool : List Request} {pkid : PacketId}

theorem view_maybeShrink (s : MqttState) :
    s.maybeShrinkOutgoingTrackingCapacity.toFlows.view = s.toFlows.view := by
  unfold maybeShrinkOutgoingTrackingCapacity
  dsimp only
  split
  · rfl
  · next drained =>
    rw [not_or, Bool.not_eq_false, outboundRequestsDrained, Bool.and_eq_true, Bool.and_eq_true]
      at drained
    exact Flows.view_shrinkTo s.toFlows drained.2.1.2 _

/-! ### Requests -/

section

variable (s : MqttState)

theorem view_published (wired : Publish) (notice : Option NoticeId)
    (action : Option AutoTopicAliasAction) :
    (s.published wired notice action).toFlows.view = s.toFlows.view.resend wired.pkid := by
  rw [← pkid_publishForReplayTracking s.topicAliases wired]
  rfl

theorem view_reserving (pkid : PacketId) :
    (s.reserving pkid).toFlows.view = s.toFlows.view.reserve pkid :=
  Flows.view_withReserved s.toFlows pkid

theorem view_subscribing (subscription : Subscribe) (notice : Option NoticeId) :
    (s.subscribing subscription notice).toFlows.view = s.toFlows.view.askAgain subscription.pkid :=
  Flows.view_insertSubscribe s.toFlows _ _

theorem view_unsubscribing (unsub : Unsubscribe) (notice : Option NoticeId) :
    (s.unsubscribing unsub notice).toFlows.view = s.toFlows.view.askAgain unsub.pkid :=
  Flows.view_insertUnsubscribe s.toFlows _ _

theorem view_claiming (pkid : PacketId) :
    (s.claiming pkid).toFlows.view = s.toFlows.view.reserve pkid := s.view_reserving pkid

theorem view_parking (wired : Publish) (notice : Option NoticeId)
    (action : Option AutoTopicAliasAction) :
    (s.parking wired notice action).toFlows.view = s.toFlows.view.park wired.pkid := by
  have same : some (AutoTopicAliasAction.restoreParked action wired).pkid = some wired.pkid := by
    rw [pkid_restoreParked]
  rw [FlowView.park, ← same]
  rfl

end

/-- The identifier of the publish that a request puts on the wire. -/
def written : RequestResult → Option PacketId
  | .ok (some packet, _) => packet.sentPublish
  | _ => none

theorem written_wire (s : MqttState) {publish : Publish} (acked : publish.qos ≠ .atMostOnce)
    (pkid : PacketId) (notice : Option NoticeId) :
    written (.ok (some (.publish (s.wire publish pkid)), notice)) = some pkid :=
  if_neg (by rwa [qos_wire])

theorem written_qos0 (s : MqttState) {publish : Publish} (unacked : publish.qos = .atMostOnce)
    (pkid : PacketId) (notice : Option NoticeId) :
    written (.ok (some (.publish (s.wire publish pkid)), notice)) = none :=
  if_pos (by rwa [qos_wire])

/-- **A request makes one of the moves listed for requests.** -/
theorem Requested.move {request : Request} {replay : Bool} {notice : Option TrackedNotice}
    {result : RequestResult} (requested : Requested s notice request replay result t) :
    RequestMove (s.inflight < s.maxOutgoingInflight.toNat) s.toFlows.view request replay
      (written result) t.toFlows.view := by
  cases requested with
  | rejected => exact .kept ..
  | refused => exact .kept ..
  | qos0 publish replay unacked =>
    rw [written_qos0 s unacked]
    exact .kept ..
  | fresh publish pkid acked admitted nonzero free =>
    rw [written_wire s acked, view_published, view_reserving]
    exact .sent publish pkid acked (admitted.quota acked) free
  | parked publish acked admitted occupied =>
    rw [view_parking]
    exact .parked publish occupied
  | replayed publish acked admitted =>
    rw [written_wire s acked, view_published]
    exact .resent publish acked (admitted.quota acked)
  | pubrelResumed pubrel replay member => exact .resumed (D := dialect) pubrel replay member
  | pubrelAgain => exact .kept ..
  | subscribe subscription pkid valid nonzero free =>
    rw [view_subscribing, view_claiming]
    exact .subscribed subscription pkid free
  | subscribeAgain subscription =>
    rw [view_subscribing]
    exact .subscribedAgain subscription
  | unsubscribe unsub pkid valid nonzero free =>
    rw [view_unsubscribing, view_claiming]
    exact .unsubscribed unsub pkid free
  | unsubscribeAgain unsub =>
    rw [view_unsubscribing]
    exact .unsubscribedAgain unsub
  | pingFailed => exact .kept ..
  | ping => exact .kept ..
  | disconnect => exact .kept ..
  | puback => exact .kept ..
  | pubrec => exact .kept ..
  | pubrecFailure => exact .kept ..
  | auth packet replay result a kept => cases result <;> exact .kept ..

/-! ### Incoming packets -/

/-- The identifier of the publish that an incoming packet puts on the wire. -/
def answered : PacketResult → Option PacketId
  | .ok effects => effects.outgoing.bind Packet.sentPublish
  | .error _ => none

theorem Settled.move {outgoing : Option Packet} (sound : s.Sound pool)
    (settled : Settled s pkid outgoing t) :
    s.toFlows.view.Settle pkid (outgoing.bind Packet.sentPublish) t.toFlows.view := by
  cases settled with
  | quiet other =>
    rw [view_maybeShrink]
    refine .quiet fun parked => ?_
    obtain ⟨publish, found, same⟩ := Option.map_eq_some_iff.mp parked
    exact other publish found same
  | unparked publish parked same =>
    have acked := sound.tracked.parked publish parked
    have sent : (some (Packet.publish publish)).bind Packet.sentPublish = some pkid :=
      (if_neg acked).trans (congrArg some same)
    have shown : (s.unparked publish).toFlows.view = s.toFlows.view.unpark publish.pkid :=
      Flows.view_unparked s.toFlows (pkid_publishForReplayTracking s.topicAliases publish) _
    rw [sent, shown, same]
    exact .unparked (Option.map_eq_some_iff.mpr ⟨publish, parked, same⟩)

/-- **A dispatched packet makes one of the moves listed for packets.** -/
theorem Dispatched.move {packet : Packet} {result : DispatchResult}
    (sound : s.Sound pool) (dispatched : Dispatched s packet result t) :
    PacketMove s.toFlows.view packet.flowPacket result.isOk (answered (result.map Prod.snd))
      t.toFlows.view := by
  cases dispatched with
  | rejected packet => exact .rejected _
  | failed packet => exact .rejected _
  | auth packet outgoing a =>
    cases outgoing with
    | error => exact .rejected _
    | ok answer =>
      cases answer with
      | none => exact .other
      | some answer => exact .other
  | connected connack a => exact .other
  | pingResp => exact .other
  | refused publish disconnect => exact .other
  | publish publish topic incoming outgoing t _ outcome =>
    cases outcome with
    | exceeded => exact .other
    | qos0 => exact .other
    | qos1 => exact .other
    | qos1Answered => exact .other
    | qos2 => exact .other
    | qos2Answered => exact .other
    | qos2Again => exact .other
  | pubrelUnknown => exact .other
  | pubrel => exact .other
  | puback puback member outgoing notices t settled =>
    have moved := settled.move (sound.acked member)
    rw [show (s.acked puback.pkid).toFlows.view = _ from Flows.view_acked s.toFlows puback.pkid]
      at moved
    exact .acked puback.pkid member _ _ moved
  | pubrecFailed pubrec member failure outgoing notices t settled =>
    have moved := settled.move (sound.acked member)
    rw [show (s.acked pubrec.pkid).toFlows.view = _ from Flows.view_acked s.toFlows pubrec.pkid]
      at moved
    rw [Packet.flowPacket, if_pos failure]
    exact .refused pubrec.pkid member _ _ moved
  | pubrec pubrec member success =>
    rw [Packet.flowPacket, if_neg (Nat.not_le.mpr success)]
    exact .received pubrec.pkid member
  | pubcomp pubcomp member outgoing notices t settled =>
    have moved := settled.move (sound.completed member)
    rw [show (s.completed pubcomp.pkid).toFlows.view = _ from
      Flows.view_completed s.toFlows pubcomp.pkid] at moved
    exact .completed pubcomp.pkid member _ _ moved
  | suback suback member =>
    rw [show (s.subscribed suback.pkid).toFlows.view = _ from
      sound.tracked.view_eraseSubscribe member]
    exact .answered suback.pkid (.inl member)
  | unsuback unsuback member =>
    rw [show (s.unsubscribed unsuback.pkid).toFlows.view = _ from
      sound.tracked.view_eraseUnsubscribe member]
    exact .answered unsuback.pkid (.inr member)

/-- **An incoming packet makes one of the moves listed for packets.** -/
theorem Handled.move {packet : Packet} {result : PacketResult}
    (sound : s.Sound pool) (handled : Handled s packet result t) :
    PacketMove s.toFlows.view packet.flowPacket result.isOk (answered result) t.toFlows.view := by
  obtain ⟨retained, found, _, _, dispatched, rfl, rfl⟩ := handled.dispatched
  have kept : Sound { s with connectionFailurePacket := retained } pool := { sound with }
  have moved := dispatched.move kept
  cases found <;> exact moved

end MqttState

end Rumqtt.V5
