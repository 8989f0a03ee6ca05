/-
**What an incoming packet can do to the MQTT 5 state machine.**

`Dispatched s packet result t` lists every outcome of `dispatchIncoming` on a sound state, with the
exact state it leaves; `Sound.dispatchIncoming_run` proves the list complete and free of panics.
Invariants of runs are then read off the list.
-/

import Rumqtt.V5.Receive

namespace Rumqtt.V5.MqttState

open Handler

variable {s t : MqttState} {pool : List Request}

/-- An acknowledgement finds the flow it is for, whatever the QoS of its publish. -/
def Expects (s : MqttState) : Packet → Prop
  | .pubAck puback => puback.pkid ∈ s.outgoingPubOrder
  | .pubRec pubrec => pubrec.pkid ∈ s.outgoingPubOrder
  | .pubComp pubcomp => pubcomp.pkid ∈ s.outgoingRelOrder
  | _ => False

/-- A packet that may be an error: an acknowledgement that is not expected, or one that is none; a
publish is answered. -/
def Refusable (s : MqttState) : Packet → Prop
  | .publish _ => False
  | packet => ¬ s.Expects packet

theorem Refusable.unexpected {packet : Packet} (refusable : s.Refusable packet) :
    ¬ s.Expects packet := by
  cases packet with
  | publish => exact refusable.elim
  | _ => exact refusable

/-- **The outcomes of an incoming packet.** -/
inductive Dispatched (s : MqttState) :
    Packet → DispatchResult → MqttState → Prop where
  /-- The packet is an error and nothing changes. -/
  | rejected (packet : Packet) (error : StateError) (refusable : s.Refusable packet) :
    Dispatched s packet (.error error) s
  /-- A CONNACK or DISCONNECT that is an error touches the authentication exchange only. -/
  | failed (packet : Packet) (error : StateError) (a : Authentication)
    (kept : Raises s.events a.events) (refusable : s.Refusable packet) :
    Dispatched s packet (.error error) (s.putAuthentication a)
  | auth (packet : Auth) (outgoing : Except StateError (Option Auth)) (a : Authentication)
    (kept : Raises s.events a.events) :
    Dispatched s (.auth packet)
      (outgoing.map fun answer => (.auth packet, { outgoing := answer.map .auth }))
      (s.putAuthentication a)
  | connected (connack : ConnAck) (a : Authentication) (first : s.connackReceived = false)
    (kept : Raises s.events a.events) :
    Dispatched s (.connAck connack) (.ok (.connAck connack, {})) (s.connected connack a)
  | pingResp : Dispatched s .pingResp (.ok (.pingResp, {})) s.handleIncomingPingresp
  /-- A publish whose alias is wrong. -/
  | refused (publish : Publish) (disconnect : Disconnect) (wrong : s.WrongAlias publish)
    (refuses : RefusesAlias disconnect) :
    Dispatched s (.publish publish)
      (.ok (.publish publish, { outgoing := some (.disconnect disconnect) })) s.disconnecting
  | publish (publish : Publish) (topic : Bytes) (incoming : AliasMap) (outgoing : Option Packet)
    (t : MqttState) (resolution : Resolution s publish topic incoming)
    (outcome : PublishOutcome (s.withIncomingAliases incoming) { publish with topic } outgoing t) :
    Dispatched s (.publish publish) (.ok (.publish { publish with topic }, { outgoing })) t
  | pubrelUnknown (pubrel : PubRel) (absent : pubrel.pkid.toNat ∉ s.incomingPub) :
    Dispatched s (.pubRel pubrel)
      (.ok (.pubRel pubrel, {
        outgoing := some (.pubComp { pkid := pubrel.pkid, reason := .packetIdentifierNotFound }) }))
      (s.pushEvent (.outgoing (.pubComp pubrel.pkid)))
  | pubrel (pubrel : PubRel) (tracked : pubrel.pkid.toNat ∈ s.incomingPub)
    (sent : pubrel.pkid.toNat ∈ s.incomingPubrec) :
    Dispatched s (.pubRel pubrel)
      (.ok (.pubRel pubrel, { outgoing := some (.pubComp { pkid := pubrel.pkid }) }))
      (s.released pubrel.pkid)
  | puback (puback : PubAck) (member : puback.pkid ∈ s.outgoingPubOrder)
    (outgoing : Option Packet) (notices : List DeferredNotice) (t : MqttState)
    (settled : Settled (s.acked puback.pkid) puback.pkid outgoing t) :
    Dispatched s (.pubAck puback) (.ok (.pubAck puback, { outgoing, notices })) t
  | pubrecFailed (pubrec : PubRec) (member : pubrec.pkid ∈ s.outgoingPubOrder)
    (failure : 0x80 ≤ pubrec.reason.code) (outgoing : Option Packet)
    (notices : List DeferredNotice) (t : MqttState)
    (settled : Settled (s.acked pubrec.pkid) pubrec.pkid outgoing t) :
    Dispatched s (.pubRec pubrec) (.ok (.pubRec pubrec, { outgoing, notices })) t
  | pubrec (pubrec : PubRec) (member : pubrec.pkid ∈ s.outgoingPubOrder)
    (success : pubrec.reason.code < 0x80) :
    Dispatched s (.pubRec pubrec)
      (.ok (.pubRec pubrec, { outgoing := some (.pubRel { pkid := pubrec.pkid }) }))
      (s.received pubrec.pkid)
  | pubcomp (pubcomp : PubComp) (member : pubcomp.pkid ∈ s.outgoingRelOrder)
    (outgoing : Option Packet) (notices : List DeferredNotice) (t : MqttState)
    (settled : Settled (s.completed pubcomp.pkid) pubcomp.pkid outgoing t) :
    Dispatched s (.pubComp pubcomp) (.ok (.pubComp pubcomp, { outgoing, notices })) t
  | suback (suback : SubAck) (member : suback.pkid ∈ s.pendingSubscribe)
    (notices : List DeferredNotice) :
    Dispatched s (.subAck suback) (.ok (.subAck suback, { notices })) (s.subscribed suback.pkid)
  | unsuback (unsuback : UnsubAck) (member : unsuback.pkid ∈ s.pendingUnsubscribe)
    (notices : List DeferredNotice) :
    Dispatched s (.unsubAck unsuback) (.ok (.unsubAck unsuback, { notices }))
      (s.unsubscribed unsuback.pkid)

/-- **Dispatch does not panic, and ends in one of the listed outcomes.** -/
theorem Sound.dispatchIncoming_run (sound : s.Sound pool) (packet : Packet) :
    ∃ result t, (dispatchIncoming packet).run s = .ok (result, t) ∧ Dispatched s packet result t := by
  cases packet with
  | connect => exact ⟨_, _, rfl, .rejected _ _ id⟩
  | subscribe => exact ⟨_, _, rfl, .rejected _ _ id⟩
  | unsubscribe => exact ⟨_, _, rfl, .rejected _ _ id⟩
  | pingReq => exact ⟨_, _, rfl, .rejected _ _ id⟩
  | pingResp => exact ⟨_, _, rfl, .pingResp⟩
  | auth auth =>
    obtain ⟨result, a, ran, kept⟩ := Authentication.adds_handleIncomingAuth auth s.toAuthentication
    refine ⟨_, _, ?_, .auth auth result a kept⟩
    cases result with
    | error error => exact run_bind_error (run_zoom ran)
    | ok answer => exact run_bind_ok (run_zoom ran)
  | connAck connack =>
    rcases handleIncomingConnack_cases s connack with ⟨error, a, kept, ran⟩ | ⟨first, a, kept, ran⟩
    · exact ⟨_, _, run_bind_error ran, .failed _ _ _ kept id⟩
    · exact ⟨_, _, run_bind_ok ran, .connected connack a first kept⟩
  | disconnect disconn =>
    obtain ⟨error, a, kept, ran⟩ := handleIncomingDisconn_run s disconn
    exact ⟨_, _, run_bind_error ran, .failed _ _ _ kept id⟩
  | publish publish =>
    rcases sound.handleIncomingPublish_cases publish with
      ⟨wrong, disconnect, refuses, ran⟩ | ⟨topic, incoming, outgoing, t, resolution, outcome, ran⟩
    · exact ⟨_, _, run_bind_ok ran, .refused publish disconnect wrong refuses⟩
    · exact ⟨_, _, run_bind_ok ran, .publish publish topic incoming outgoing t resolution outcome⟩
  | pubRel pubrel =>
    by_cases tracked : pubrel.pkid.toNat ∈ s.incomingPub
    · by_cases sent : pubrel.pkid.toNat ∈ s.incomingPubrec
      · exact ⟨_, _, run_bind_ok (sound.handleIncomingPubrel_run tracked sent),
          .pubrel pubrel tracked sent⟩
      · exact ⟨_, _, run_bind_error (handleIncomingPubrel_early tracked sent), .rejected _ _ id⟩
    · exact ⟨_, _, run_bind_ok (handleIncomingPubrel_unknown tracked),
        .pubrelUnknown pubrel tracked⟩
  | pubAck puback =>
    by_cases member : puback.pkid ∈ s.outgoingPubOrder
    · obtain ⟨outgoing, t, settled, ran⟩ := sound.handleIncomingPuback_run member
      exact ⟨_, _, run_bind_ok ran, .puback puback member outgoing _ t settled⟩
    · exact ⟨_, _, run_bind_error (sound.handleIncomingPuback_unsolicited member),
        .rejected _ _ member⟩
  | pubRec pubrec =>
    by_cases member : pubrec.pkid ∈ s.outgoingPubOrder
    · by_cases failure : 0x80 ≤ pubrec.reason.code
      · obtain ⟨outgoing, t, settled, ran⟩ := sound.handleIncomingPubrec_failed member failure
        exact ⟨_, _, run_bind_ok ran, .pubrecFailed pubrec member failure outgoing _ t settled⟩
      · have success := Nat.lt_of_not_le failure
        exact ⟨_, _, run_bind_ok (sound.handleIncomingPubrec_run member success),
          .pubrec pubrec member success⟩
    · exact ⟨_, _, run_bind_error (sound.handleIncomingPubrec_unsolicited member),
        .rejected _ _ member⟩
  | pubComp pubcomp =>
    by_cases member : pubcomp.pkid ∈ s.outgoingRelOrder
    · obtain ⟨outgoing, t, settled, ran⟩ := sound.handleIncomingPubcomp_run member
      exact ⟨_, _, run_bind_ok ran, .pubcomp pubcomp member outgoing _ t settled⟩
    · exact ⟨_, _, run_bind_error (sound.handleIncomingPubcomp_unsolicited member),
        .rejected _ _ member⟩
  | subAck suback =>
    rcases sound.handleIncomingSuback_cases suback with ⟨error, ran⟩ | ⟨member, notices, ran⟩
    · exact ⟨_, _, run_bind_error ran, .rejected _ _ id⟩
    · exact ⟨_, _, run_bind_ok ran, .suback suback member notices⟩
  | unsubAck unsuback =>
    rcases sound.handleIncomingUnsuback_cases unsuback with ⟨error, ran⟩ | ⟨member, notices, ran⟩
    · exact ⟨_, _, run_bind_error ran, .rejected _ _ id⟩
    · exact ⟨_, _, run_bind_ok ran, .unsuback unsuback member notices⟩

/-! ### What every outcome keeps -/

@[simp] theorem events_maybeShrink (s : MqttState) :
    s.maybeShrinkOutgoingTrackingCapacity.events = s.events := by
  unfold maybeShrinkOutgoingTrackingCapacity
  dsimp only
  split <;> rfl

theorem Settled.events {pkid : PacketId} {outgoing : Option Packet}
    (settled : Settled s pkid outgoing t) : Raises s.events t.events := by
  cases settled with
  | unparked => exact .push _ rfl
  | quiet =>
    rw [events_maybeShrink]
    exact .refl _

theorem disconnecting_events (s : MqttState) : Raises s.events s.disconnecting.events :=
  (Authentication.failAuthExchange_events _ _).trans (.push _ rfl)

theorem PublishOutcome.events {publish : Publish} {outgoing : Option Packet}
    (outcome : PublishOutcome s publish outgoing t) : Raises s.events t.events := by
  cases outcome with
  | exceeded => exact s.disconnecting_events
  | qos0 => exact .refl _
  | qos1 => exact .refl _
  | qos1Answered => exact .push _ rfl
  | qos2 => exact .refl _
  | qos2Answered => exact .push _ rfl
  | qos2Again => exact .push _ rfl

/-- **Events of this side are added, and no others.** -/
theorem Dispatched.events {packet : Packet} {result : DispatchResult}
    (dispatched : Dispatched s packet result t) : Raises s.events t.events := by
  cases dispatched with
  | rejected => exact .refl _
  | failed _ _ _ kept => exact kept
  | auth _ _ _ kept => exact kept
  | connected _ _ _ kept => exact kept
  | pingResp => exact .refl _
  | refused => exact s.disconnecting_events
  | publish _ _ _ _ _ _ outcome => exact outcome.events
  | pubrelUnknown => exact .push _ rfl
  | pubrel => exact .push _ rfl
  | puback _ _ _ _ _ settled => exact settled.events
  | pubrecFailed _ _ _ _ _ _ settled => exact settled.events
  | pubrec => exact .push _ rfl
  | pubcomp _ _ _ _ _ settled => exact settled.events
  | suback => exact .refl _
  | unsuback => exact .refl _

/-- **The invariant is kept by every outcome.** -/
theorem Sound.dispatched (sound : s.Sound pool) {packet : Packet} {result : DispatchResult}
    (dispatched : Dispatched s packet result t) : t.Sound pool := by
  cases dispatched with
  | rejected => exact sound
  | failed _ _ a => exact sound.putAuthentication a
  | auth _ _ a => exact sound.putAuthentication a
  | connected connack a => exact sound.connected connack a
  | pingResp => exact { sound with }
  | refused => exact sound.disconnecting
  | publish _ _ incoming _ _ _ outcome =>
    exact (sound.withIncomingAliases incoming).publishOutcome outcome
  | pubrelUnknown => exact sound.pushEvent _
  | pubrel pubrel => exact sound.released pubrel.pkid
  | puback puback member _ _ _ settled =>
    have held : s.toFlows.Holds pool .publish puback.pkid := member
    exact (sound.acked member).settled (sound.tracked.ne_zero_of_holds held)
      (notMem_acked s puback.pkid) settled
  | pubrecFailed pubrec member _ _ _ _ settled =>
    have held : s.toFlows.Holds pool .publish pubrec.pkid := member
    exact (sound.acked member).settled (sound.tracked.ne_zero_of_holds held)
      (notMem_acked s pubrec.pkid) settled
  | pubrec pubrec member => exact sound.received member
  | pubcomp pubcomp member _ _ _ settled =>
    have held : s.toFlows.Holds pool .release pubcomp.pkid := member
    exact (sound.completed member).settled (sound.tracked.ne_zero_of_holds held)
      (notMem_completed s pubcomp.pkid) settled
  | suback suback member => exact sound.subscribed member
  | unsuback unsuback member => exact sound.unsubscribed member

/-! ### The `Incoming` event -/

/-- The packet put in front of the events its handler raised. -/
def queueIncoming (t : MqttState) (before : Nat) (seen : Packet) : MqttState :=
  { t with events := t.events.take before ++ .incoming seen :: t.events.drop before }

/-- **The outcomes of an incoming packet, with its event.** -/
inductive Handled (s : MqttState) (packet : Packet) :
    PacketResult → MqttState → Prop where
  | shown (seen : Packet) (effects : IncomingPacketEffects) (t : MqttState)
    (dispatched : Dispatched (s.retainFailurePacket packet) packet (.ok (seen, effects)) t)
    (visible : (refusedPublish seen effects || s.isDuplicateIncomingQos2Publish packet) = false) :
    Handled s packet (.ok effects) (t.queueIncoming s.events.length seen)
  | hidden (seen : Packet) (effects : IncomingPacketEffects) (t : MqttState)
    (dispatched : Dispatched (s.retainFailurePacket packet) packet (.ok (seen, effects)) t)
    (suppressed : (refusedPublish seen effects || s.isDuplicateIncomingQos2Publish packet) = true) :
    Handled s packet (.ok effects) t
  | errorShown (error : StateError) (t : MqttState)
    (dispatched : Dispatched (s.retainFailurePacket packet) packet (.error error) t)
    (visible : queueIncomingEventOnError packet error = true) :
    Handled s packet (.error error) (t.queueIncoming s.events.length packet)
  | errorHidden (error : StateError) (t : MqttState)
    (dispatched : Dispatched (s.retainFailurePacket packet) packet (.error error) t)
    (suppressed : queueIncomingEventOnError packet error = false) :
    Handled s packet (.error error) t

theorem insertEvent_run {before : Nat} (within : before ≤ t.events.length) (seen : Packet) :
    (insertEvent before (.incoming seen)).run t = .ok (.ok (), t.queueIncoming before seen) :=
  if_pos within

theorem Sound.retainFailurePacket (sound : s.Sound pool) (packet : Packet) :
    (s.retainFailurePacket packet).Sound pool := by
  unfold MqttState.retainFailurePacket
  split
  · exact { sound with }
  · exact sound

@[simp] theorem events_retainFailurePacket (s : MqttState) (packet : Packet) :
    (s.retainFailurePacket packet).events = s.events := by
  unfold MqttState.retainFailurePacket
  split <;> rfl

/-- **An incoming packet never causes a panic.** -/
theorem Sound.handleIncoming_run (sound : s.Sound pool) (packet : Packet) :
    ∃ result t, (handleIncomingPacketWithEffects packet).run s = .ok (result, t) ∧
      Handled s packet result t := by
  obtain ⟨result, t, ran, dispatched⟩ := (sound.retainFailurePacket packet).dispatchIncoming_run packet
  have within : s.events.length ≤ t.events.length := by
    have kept := dispatched.events.length_le
    rwa [events_retainFailurePacket] at kept
  simp only [handleIncomingPacketWithEffects, Handler.run] at ran ⊢
  rw [ran]
  cases result with
  | ok done =>
    obtain ⟨seen, effects⟩ := done
    cases suppressed : refusedPublish seen effects || s.isDuplicateIncomingQos2Publish packet with
    | true => exact ⟨_, _, if_pos suppressed, .hidden seen effects t dispatched suppressed⟩
    | false =>
      refine ⟨_, _, ?_, .shown seen effects t dispatched suppressed⟩
      simp only [suppressed]
      exact run_bind_ok (insertEvent_run within seen)
  | error error =>
    cases visible : queueIncomingEventOnError packet error with
    | true =>
      refine ⟨_, _, ?_, .errorShown error t dispatched visible⟩
      simp only [visible]
      exact run_bind_ok (insertEvent_run within packet)
    | false =>
      refine ⟨_, _, ?_, .errorHidden error t dispatched visible⟩
      simp only [visible]
      rfl

/-- **The packet is dispatched, whether or not its event is queued.** -/
theorem Handled.dispatched {packet : Packet} {result : PacketResult}
    (handled : Handled s packet result t) :
    ∃ retained found u events,
      Dispatched { s with connectionFailurePacket := retained } packet found u ∧
        result = found.map Prod.snd ∧ t = { u with events } := by
  have retains : ∃ retained, s.retainFailurePacket packet =
      { s with connectionFailurePacket := retained } := by
    cases packet <;> exact ⟨_, rfl⟩
  obtain ⟨retained, same⟩ := retains
  cases handled with
  | shown _ _ u dispatched => exact ⟨retained, _, u, _, same ▸ dispatched, rfl, rfl⟩
  | hidden _ _ _ dispatched => exact ⟨retained, _, t, _, same ▸ dispatched, rfl, rfl⟩
  | errorShown _ u dispatched => exact ⟨retained, _, u, _, same ▸ dispatched, rfl, rfl⟩
  | errorHidden _ _ dispatched => exact ⟨retained, _, t, _, same ▸ dispatched, rfl, rfl⟩

theorem Sound.handled (sound : s.Sound pool) {packet : Packet}
    {result : PacketResult} (handled : Handled s packet result t) :
    t.Sound pool := by
  obtain ⟨retained, _, u, _, dispatched, _, rfl⟩ := handled.dispatched
  have kept : Sound { s with connectionFailurePacket := retained } pool := { sound with }
  have after := kept.dispatched dispatched
  exact { after with }

end Rumqtt.V5.MqttState
