/-
**The MQTT 3.1.1 state machine makes the moves of the abstract flows.**

Every outcome of a request (`Requested.move`) and of an incoming packet (`Handled.move`) is one of the
moves listed for `FlowView`. A request or packet that is an error leaves the view as it was.
-/

import Rumqtt.Flows.View
import Rumqtt.V4.Requests

namespace Rumqtt.V4

/-- What an incoming packet means to the outbound flows. -/
def Packet.flowPacket : Packet → FlowPacket
  | .pubAck puback => .puback puback.pkid
  | .pubRec pubrec => .pubrec pubrec.pkid
  | .pubComp pubcomp => .pubcomp pubcomp.pkid
  | .subAck suback => .control suback.pkid
  | .unsubAck unsuback => .control unsuback.pkid
  | _ => .other

/-- The identifier of a QoS 1 or QoS 2 publish on the wire. -/
def Packet.sentPublish : Packet → Option PacketId
  | .publish packet => if packet.qos = .atMostOnce then none else some packet.pkid
  | _ => none

namespace MqttState

variable {s t : MqttState} {pool : List Request} {pkid : PacketId}

theorem view_maybeShrink (s : MqttState) :
    s.maybeShrinkOutgoingTrackingCapacity.toFlows.view = s.toFlows.view := by
  unfold maybeShrinkOutgoingTrackingCapacity
  dsimp only
  split
  · rfl
  · next drained =>
    rw [not_or, Bool.not_eq_false, outboundRequestsDrained, Bool.and_eq_true] at drained
    exact Flows.view_shrinkTo s.toFlows drained.2.2 _

/-! ### Requests -/

theorem view_reserving (s : MqttState) (pkid : PacketId) :
    (s.reserving pkid).toFlows.view = s.toFlows.view.reserve pkid :=
  Flows.view_withReserved s.toFlows pkid

theorem view_claiming (s : MqttState) (asked pkid : PacketId) :
    (s.claiming asked pkid).toFlows.view = s.toFlows.view.reserve pkid := s.view_reserving pkid

theorem view_subscribing (s : MqttState) (subscription : Subscribe) (notice : Option NoticeId) :
    (s.subscribing subscription notice).toFlows.view = s.toFlows.view.askAgain subscription.pkid :=
  Flows.view_insertSubscribe s.toFlows _ _

theorem view_unsubscribing (s : MqttState) (unsub : Unsubscribe) (notice : Option NoticeId) :
    (s.unsubscribing unsub notice).toFlows.view = s.toFlows.view.askAgain unsub.pkid :=
  Flows.view_insertUnsubscribe s.toFlows _ _

/-- The identifier of the publish that a request puts on the wire. -/
def written : RequestResult → Option PacketId
  | .ok (some packet, _) => packet.sentPublish
  | _ => none

/-- **A request makes one of the moves listed for requests.** -/
theorem Requested.move {request : Request} {replay : Bool} {notice : Option TrackedNotice}
    {result : RequestResult} (requested : Requested s notice request replay result t) :
    RequestMove (s.inflight < s.maxInflight.toNat) s.toFlows.view request replay
      (written result) t.toFlows.view := by
  cases requested with
  | rejected => exact .kept ..
  | refused => exact .kept ..
  | qos0 publish replay unacked =>
    rw [show written (.ok (some (.publish publish), notice.bind TrackedNotice.publish?)) = none from
      if_pos unacked]
    exact .kept ..
  | fresh publish pkid acked room nonzero free =>
    have sent : RequestMove (s.inflight < s.maxInflight.toNat) s.toFlows.view (.publish publish)
        false (some pkid) (s.toFlows.view.send pkid) := .sent publish pkid acked room free
    rw [FlowView.send, ← view_reserving] at sent
    rw [show written (.ok (some (.publish { publish with pkid }), none)) = some pkid from
      if_neg acked]
    exact sent
  | parked publish acked occupied => exact .parked publish occupied
  | replayed publish acked room =>
    rw [show written (.ok (some (.publish publish), none)) = some publish.pkid from if_neg acked]
    exact .resent publish acked room
  | pubrelResumed pubrel replay member => exact .resumed (D := dialect) pubrel replay member
  | pubrelAgain => exact .kept ..
  | subscribe subscription pkid valid nonzero free =>
    rw [view_subscribing, view_claiming]
    exact .subscribed subscription pkid free
  | subscribeAgain subscription =>
    rw [view_subscribing]
    exact .subscribedAgain subscription
  | unsubscribe unsub pkid valid nonzero free =>
    rw [view_unsubscribing, view_claiming]
    exact .unsubscribed unsub pkid free
  | unsubscribeAgain unsub =>
    rw [view_unsubscribing]
    exact .unsubscribedAgain unsub
  | pingFailed => exact .kept ..
  | ping => exact .kept ..
  | disconnect => exact .kept ..
  | puback => exact .kept ..
  | pubrec => exact .kept ..

/-! ### Incoming packets -/

/-- The identifier of the publish that an incoming packet puts on the wire. -/
def answered : PacketResult → Option PacketId
  | .ok effects => effects.outgoing.bind Packet.sentPublish
  | .error _ => none

theorem Settled.move {outgoing : Option Packet} (sound : s.Sound pool)
    (settled : Settled s pkid outgoing t) :
    s.toFlows.view.Settle pkid (outgoing.bind Packet.sentPublish) t.toFlows.view := by
  cases settled with
  | quiet other =>
    rw [view_maybeShrink]
    refine .quiet fun parked => ?_
    obtain ⟨publish, found, same⟩ := Option.map_eq_some_iff.mp parked
    exact other publish found same
  | unparked publish parked same =>
    have acked := sound.tracked.parked publish parked
    have sent : (some (Packet.publish publish)).bind Packet.sentPublish = some pkid :=
      (if_neg acked).trans (congrArg some same)
    have shown : (s.unparked publish).toFlows.view = s.toFlows.view.unpark publish.pkid :=
      Flows.view_unparked s.toFlows rfl _
    rw [sent, shown, same]
    exact .unparked (Option.map_eq_some_iff.mpr ⟨publish, parked, same⟩)

/-- **A dispatched packet makes one of the moves listed for packets.** -/
theorem Dispatched.move {packet : Packet} {result : PacketResult}
    (sound : s.Sound pool) (dispatched : Dispatched s packet result t) :
    PacketMove s.toFlows.view packet.flowPacket result.isOk (answered result) t.toFlows.view := by
  cases dispatched with
  | rejected packet => exact .rejected _
  | pingResp => exact .other
  | publish publish outgoing t outcome =>
    cases outcome with
    | qos0 => exact .other
    | qos1 => exact .other
    | qos1Answered => exact .other
    | qos2 => exact .other
    | qos2Answered => exact .other
    | qos2Again => exact .other
  | pubrelUnknown => exact .other
  | pubrel => exact .other
  | puback puback member outgoing notices t settled =>
    have moved := settled.move (sound.acked member)
    rw [show (s.acked puback.pkid).toFlows.view = _ from Flows.view_acked s.toFlows puback.pkid]
      at moved
    exact .acked puback.pkid member _ _ moved
  | pubrec pubrec member => exact .received pubrec.pkid member
  | pubcomp pubcomp member outgoing notices t settled =>
    have moved := settled.move (sound.completed member)
    rw [show (s.completed pubcomp.pkid).toFlows.view = _ from
      Flows.view_completed s.toFlows pubcomp.pkid] at moved
    exact .completed pubcomp.pkid member _ _ moved
  | suback suback member =>
    rw [show (s.subscribed suback.pkid).toFlows.view = _ from
      sound.tracked.view_eraseSubscribe member]
    exact .answered suback.pkid (.inl member)
  | unsuback unsuback member =>
    rw [show (s.unsubscribed unsuback.pkid).toFlows.view = _ from
      sound.tracked.view_eraseUnsubscribe member]
    exact .answered unsuback.pkid (.inr member)

/-- **An incoming packet makes one of the moves listed for packets.** -/
theorem Handled.move {packet : Packet} {result : PacketResult}
    (sound : s.Sound pool) (handled : Handled s packet result t) :
    PacketMove s.toFlows.view packet.flowPacket result.isOk (answered result) t.toFlows.view := by
  cases handled with
  | shown _ _ dispatched =>
    have moved := dispatched.move sound
    exact moved
  | hidden _ _ dispatched => exact dispatched.move sound
  | failed _ _ dispatched => exact dispatched.move sound

end MqttState

end Rumqtt.V4
