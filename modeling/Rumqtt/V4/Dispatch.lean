/-
**What an incoming packet can do to the MQTT 3.1.1 state machine.**

`PublishOutcome` lists the ways an incoming publish is answered, `Dispatched s packet result t` every
outcome of `dispatchIncoming` on a sound state with the exact state it leaves, and `Handled` adds the
`Incoming` event. The lists are complete and free of panics (`Sound.handleIncoming_run`), and every
outcome keeps the invariant (`Sound.handled`).
-/

import Rumqtt.V4.Acks

namespace Rumqtt.V4.MqttState

open Handler FixedBitSet List

variable {s t : MqttState} {pool : List Request} {pkid : PacketId}
variable {pubrec : PubRec} {outgoing : Option Packet} {pubrel : PubRel} {packet : Packet}
  {result : PacketResult}

/-! ### Answers to incoming publishes -/

section

variable (s : MqttState) (pkid : PacketId)

/-- A QoS 1 publish answered with a PUBACK. -/
def pubackSent : MqttState :=
  MqttState.pushEvent (.outgoing (.pubAck pkid))
    { s with incomingPuback := s.incomingPuback.remove pkid.toNat }

/-- A QoS 2 publish answered with a PUBREC. -/
def pubrecSent : MqttState :=
  MqttState.pushEvent (.outgoing (.pubRec pkid))
    { s with incomingPubrec := s.incomingPubrec.growAndInsert pkid.toNat }

/-- A QoS 1 publish tracked until its PUBACK. -/
def qos1Tracked : MqttState :=
  { s with incomingPuback := s.incomingPuback.growAndInsert pkid.toNat }

/-- A QoS 2 publish tracked until its PUBREL. -/
def qos2Tracked : MqttState :=
  { s with incomingPub := s.incomingPub.growAndInsert pkid.toNat }

end

section

variable (sound : s.Sound pool)
include sound

theorem Sound.pubackSent (pkid : PacketId) :
    (s.pubackSent pkid).Sound pool := { sound with }

theorem Sound.pubrecSent (pkid : PacketId) :
    (s.pubrecSent pkid).Sound pool :=
  { sound with pubrecLength := length_growAndInsert_full sound.pubrecLength pkid }

theorem Sound.qos1Tracked (pkid : PacketId) :
    (s.qos1Tracked pkid).Sound pool :=
  { sound with pubackLength := length_growAndInsert_full sound.pubackLength pkid }

theorem Sound.qos2Tracked (pkid : PacketId) :
    (s.qos2Tracked pkid).Sound pool :=
  { sound with pubLength := length_growAndInsert_full sound.pubLength pkid }

end

theorem outgoingPuback_run {puback : PubAck} (member : puback.pkid.toNat ∈ s.incomingPuback) :
    (outgoingPuback puback).run s = .ok (.ok (.pubAck puback), s.pubackSent puback.pkid) := by
  have cleared := set_false_ok (lt_length member)
  unfold outgoingPuback
  simp only [run_get_bind, contains_eq_true.mpr member, Bool.true_eq_false, if_false]
  exact run_bind_ok (run_ofChecked cleared s)

theorem outgoingPuback_unsolicited {puback : PubAck} (absent : puback.pkid.toNat ∉ s.incomingPuback) :
    (outgoingPuback puback).run s = .ok (.error (.unsolicited puback.pkid), s) := by
  simp [outgoingPuback, absent]

theorem outgoingPubrecInternal_untracked {allowDuplicate : Bool}
    (absent : pubrec.pkid.toNat ∉ s.incomingPub) :
    (outgoingPubrecInternal pubrec allowDuplicate).run s =
      .ok (.error (.unsolicited pubrec.pkid), s) := by
  simp [outgoingPubrecInternal, absent]

theorem outgoingPubrecInternal_again (tracked : pubrec.pkid.toNat ∈ s.incomingPub)
    (sent : pubrec.pkid.toNat ∈ s.incomingPubrec) (allowDuplicate : Bool) :
    (outgoingPubrecInternal pubrec allowDuplicate).run s = if allowDuplicate then
        .ok (.ok (.pubRec pubrec), s.pushEvent (.outgoing (.pubRec pubrec.pkid)))
      else .ok (.error (.unsolicited pubrec.pkid), s) := by
  cases allowDuplicate <;> simp [outgoingPubrecInternal, tracked, sent]

theorem Sound.outgoingPubrecInternal_sent (sound : s.Sound pool)
    (tracked : pubrec.pkid.toNat ∈ s.incomingPub) (unsent : pubrec.pkid.toNat ∉ s.incomingPubrec)
    (allowDuplicate : Bool) :
    (outgoingPubrecInternal pubrec allowDuplicate).run s =
      .ok (.ok (.pubRec pubrec), s.pubrecSent pubrec.pkid) := by
  have inserted := insert_ok (toNat_lt_of_full sound.pubrecLength pubrec.pkid)
  unfold outgoingPubrecInternal
  simp only [run_get_bind, contains_eq_true.mpr tracked,
    contains_eq_false.mpr unsent, Bool.true_eq_false, Bool.false_eq_true, if_false]
  exact run_bind_ok (run_ofChecked inserted s)

/-! ### PUBLISH -/

/-- **The ways an incoming publish is answered.** -/
inductive PublishOutcome (s : MqttState) (publish : Publish) : Option Packet → MqttState → Prop where
  | qos0 (qos : publish.qos = .atMostOnce) : PublishOutcome s publish none s
  | qos1 (qos : publish.qos = .atLeastOnce) (manual : s.ackMode = .manual) :
    PublishOutcome s publish none (s.qos1Tracked publish.pkid)
  | qos1Answered (qos : publish.qos = .atLeastOnce) (automatic : s.ackMode = .automatic) :
    PublishOutcome s publish (some (.pubAck { pkid := publish.pkid }))
      ((s.qos1Tracked publish.pkid).pubackSent publish.pkid)
  | qos2 (qos : publish.qos = .exactlyOnce) (manual : s.ackMode = .manual)
    (unsent : publish.pkid.toNat ∉ s.incomingPubrec) :
    PublishOutcome s publish none (s.qos2Tracked publish.pkid)
  | qos2Answered (qos : publish.qos = .exactlyOnce) (automatic : s.ackMode = .automatic)
    (unsent : publish.pkid.toNat ∉ s.incomingPubrec) :
    PublishOutcome s publish (some (.pubRec { pkid := publish.pkid }))
      ((s.qos2Tracked publish.pkid).pubrecSent publish.pkid)
  | qos2Again (qos : publish.qos = .exactlyOnce) (sent : publish.pkid.toNat ∈ s.incomingPubrec) :
    PublishOutcome s publish (some (.pubRec { pkid := publish.pkid }))
      ((s.qos2Tracked publish.pkid).pushEvent (.outgoing (.pubRec publish.pkid)))

theorem Sound.publishOutcome (sound : s.Sound pool) {publish : Publish}
    (outcome : PublishOutcome s publish outgoing t) : t.Sound pool := by
  cases outcome with
  | qos0 => exact sound
  | qos1 => exact sound.qos1Tracked publish.pkid
  | qos1Answered => exact (sound.qos1Tracked publish.pkid).pubackSent publish.pkid
  | qos2 => exact sound.qos2Tracked publish.pkid
  | qos2Answered => exact (sound.qos2Tracked publish.pkid).pubrecSent publish.pkid
  | qos2Again => exact (sound.qos2Tracked publish.pkid).pushEvent _

theorem mem_qos2Tracked (s : MqttState) (pkid : PacketId) :
    pkid.toNat ∈ (s.qos2Tracked pkid).incomingPub :=
  (mem_growAndInsert ..).mpr (.inl rfl)

theorem answerQos1_run (s : MqttState) (pkid : PacketId) :
    (outgoingPuback { pkid }).run (s.qos1Tracked pkid) =
      .ok (.ok (.pubAck { pkid }), (s.qos1Tracked pkid).pubackSent pkid) := by
  have tracked : (PubAck.mk pkid).pkid.toNat ∈ (s.qos1Tracked pkid).incomingPuback :=
    (mem_growAndInsert ..).mpr (.inl rfl)
  exact outgoingPuback_run tracked

theorem Sound.answerQos2_run (sound : s.Sound pool) (unsent : pkid.toNat ∉ s.incomingPubrec) :
    (outgoingPubrecForIncomingPublish { pkid }).run (s.qos2Tracked pkid) =
      .ok (.ok (.pubRec { pkid }), (s.qos2Tracked pkid).pubrecSent pkid) := by
  have tracked : (PubRec.mk pkid).pkid.toNat ∈ (s.qos2Tracked pkid).incomingPub :=
    mem_qos2Tracked s pkid
  exact (sound.qos2Tracked pkid).outgoingPubrecInternal_sent tracked unsent true

theorem answerQos2Again_run (sent : pkid.toNat ∈ s.incomingPubrec) :
    (outgoingPubrecForIncomingPublish { pkid }).run (s.qos2Tracked pkid) =
      .ok (.ok (.pubRec { pkid }), (s.qos2Tracked pkid).pushEvent (.outgoing (.pubRec pkid))) := by
  have tracked : (PubRec.mk pkid).pkid.toNat ∈ (s.qos2Tracked pkid).incomingPub :=
    mem_qos2Tracked s pkid
  exact outgoingPubrecInternal_again tracked sent true

/-- **Every incoming publish is answered in one of the listed ways.** -/
theorem Sound.handleIncomingPublish_run (sound : s.Sound pool) (publish : Publish) :
    ∃ outgoing t, PublishOutcome s publish outgoing t ∧
      (handleIncomingPublish publish).run s = .ok (.ok outgoing, t) := by
  unfold handleIncomingPublish
  rw [run_get_bind]
  cases qos : publish.qos with
  | atMostOnce => exact ⟨none, s, .qos0 qos, rfl⟩
  | atLeastOnce =>
    have inserted := insert_ok (toNat_lt_of_full sound.pubackLength publish.pkid)
    cases mode : s.ackMode with
    | automatic =>
      refine ⟨_, _, .qos1Answered qos mode, ?_⟩
      refine (run_bind_ok (run_ofChecked inserted _)).trans ?_
      rw [run_modify_bind, run_ite, if_pos rfl]
      exact run_bind_ok (answerQos1_run s publish.pkid)
    | manual =>
      refine ⟨_, _, .qos1 qos mode, ?_⟩
      refine (run_bind_ok (run_ofChecked inserted _)).trans ?_
      rw [run_modify_bind, run_ite, if_neg (by decide)]
      rfl
  | exactlyOnce =>
    have inserted := insert_ok (toNat_lt_of_full sound.pubLength publish.pkid)
    by_cases sent : publish.pkid.toNat ∈ s.incomingPubrec
    · refine ⟨_, _, .qos2Again qos sent, ?_⟩
      refine (run_bind_ok (run_ofChecked inserted _)).trans ?_
      rw [run_modify_bind, run_ite, if_pos (.inr (contains_eq_true.mpr sent))]
      exact run_bind_ok (answerQos2Again_run sent)
    · cases mode : s.ackMode with
      | automatic =>
        refine ⟨_, _, .qos2Answered qos mode sent, ?_⟩
        refine (run_bind_ok (run_ofChecked inserted _)).trans ?_
        rw [run_modify_bind, run_ite, if_pos (.inl rfl)]
        exact run_bind_ok (sound.answerQos2_run sent)
      | manual =>
        refine ⟨_, _, .qos2 qos mode sent, ?_⟩
        have silent : ¬ (AckMode.manual = .automatic ∨
            s.incomingPubrec.contains publish.pkid.toNat = true) := by
          simp [sent]
        refine (run_bind_ok (run_ofChecked inserted _)).trans ?_
        rw [run_modify_bind, run_ite, if_neg silent]
        rfl

/-! ### PUBREL -/

/-- A QoS 2 publish released by the broker: its flow is over. -/
def released (s : MqttState) (pkid : PacketId) : MqttState :=
  MqttState.pushEvent (.outgoing (.pubComp pkid))
    { s with
      incomingPub := s.incomingPub.remove pkid.toNat
      incomingPubrec := s.incomingPubrec.remove pkid.toNat }

theorem Sound.released (sound : s.Sound pool) (pkid : PacketId) : (s.released pkid).Sound pool :=
  { sound with }

theorem handleIncomingPubrel_unknown (absent : pubrel.pkid.toNat ∉ s.incomingPub) :
    (handleIncomingPubrel pubrel).run s = .ok (.ok (some (.pubComp { pkid := pubrel.pkid })),
        s.pushEvent (.outgoing (.pubComp pubrel.pkid))) := by
  simp [handleIncomingPubrel, absent]

theorem handleIncomingPubrel_early (tracked : pubrel.pkid.toNat ∈ s.incomingPub)
    (unsent : pubrel.pkid.toNat ∉ s.incomingPubrec) :
    (handleIncomingPubrel pubrel).run s = .ok (.error (.unsolicited pubrel.pkid), s) := by
  simp [handleIncomingPubrel, tracked, unsent]

theorem handleIncomingPubrel_run (tracked : pubrel.pkid.toNat ∈ s.incomingPub)
    (sent : pubrel.pkid.toNat ∈ s.incomingPubrec) :
    (handleIncomingPubrel pubrel).run s = .ok (.ok (some (.pubComp { pkid := pubrel.pkid })), s.released pubrel.pkid) := by
  have pubCleared := set_false_ok (lt_length tracked)
  have pubrecCleared := set_false_ok (lt_length sent)
  unfold handleIncomingPubrel
  simp only [run_get_bind, contains_eq_true.mpr tracked,
    contains_eq_true.mpr sent, Bool.true_eq_false, if_false]
  refine (run_bind_ok (run_ofChecked pubCleared s)).trans ?_
  exact run_bind_ok (run_ofChecked pubrecCleared s)

/-! ### Every packet -/

/-- An acknowledgement finds the flow it is for, whatever the QoS of its publish. -/
def Expects (s : MqttState) : Packet → Prop
  | .pubAck puback => puback.pkid ∈ s.outgoingPubOrder
  | .pubRec pubrec => pubrec.pkid ∈ s.outgoingPubOrder
  | .pubComp pubcomp => pubcomp.pkid ∈ s.outgoingRelOrder
  | _ => False

/-- **The outcomes of an incoming packet.** -/
inductive Dispatched (s : MqttState) :
    Packet → PacketResult → MqttState → Prop where
  /-- The packet is an error and nothing changes. -/
  | rejected (packet : Packet) (error : StateError) (unexpected : ¬ s.Expects packet) :
    Dispatched s packet (.error error) s
  | pingResp : Dispatched s .pingResp (.ok {}) s.handleIncomingPingresp
  | publish (publish : Publish) (outgoing : Option Packet) (t : MqttState)
    (outcome : PublishOutcome s publish outgoing t) :
    Dispatched s (.publish publish) (.ok { outgoing }) t
  | pubrelUnknown (pubrel : PubRel) (absent : pubrel.pkid.toNat ∉ s.incomingPub) :
    Dispatched s (.pubRel pubrel) (.ok { outgoing := some (.pubComp { pkid := pubrel.pkid }) })
      (s.pushEvent (.outgoing (.pubComp pubrel.pkid)))
  | pubrel (pubrel : PubRel) (tracked : pubrel.pkid.toNat ∈ s.incomingPub)
    (sent : pubrel.pkid.toNat ∈ s.incomingPubrec) :
    Dispatched s (.pubRel pubrel) (.ok { outgoing := some (.pubComp { pkid := pubrel.pkid }) })
      (s.released pubrel.pkid)
  | puback (puback : PubAck) (member : puback.pkid ∈ s.outgoingPubOrder)
    (outgoing : Option Packet) (notices : List DeferredNotice) (t : MqttState)
    (settled : Settled (s.acked puback.pkid) puback.pkid outgoing t) :
    Dispatched s (.pubAck puback) (.ok { outgoing, notices }) t
  | pubrec (pubrec : PubRec) (member : pubrec.pkid ∈ s.outgoingPubOrder) :
    Dispatched s (.pubRec pubrec) (.ok { outgoing := some (.pubRel { pkid := pubrec.pkid }) })
      (s.received pubrec.pkid)
  | pubcomp (pubcomp : PubComp) (member : pubcomp.pkid ∈ s.outgoingRelOrder)
    (outgoing : Option Packet) (notices : List DeferredNotice) (t : MqttState)
    (settled : Settled (s.completed pubcomp.pkid) pubcomp.pkid outgoing t) :
    Dispatched s (.pubComp pubcomp) (.ok { outgoing, notices }) t
  | suback (suback : SubAck) (member : suback.pkid ∈ s.pendingSubscribe)
    (notices : List DeferredNotice) :
    Dispatched s (.subAck suback) (.ok { notices }) (s.subscribed suback.pkid)
  | unsuback (unsuback : UnsubAck) (member : unsuback.pkid ∈ s.pendingUnsubscribe)
    (notices : List DeferredNotice) :
    Dispatched s (.unsubAck unsuback) (.ok { notices }) (s.unsubscribed unsuback.pkid)

/-- **Dispatch does not panic, and ends in one of the listed outcomes.** -/
theorem Sound.dispatchIncoming_run (sound : s.Sound pool) (packet : Packet) :
    ∃ result t, (dispatchIncoming packet).run s = .ok (result, t) ∧ Dispatched s packet result t := by
  cases packet with
  | connect => exact ⟨_, _, rfl, .rejected _ _ id⟩
  | connAck => exact ⟨_, _, rfl, .rejected _ _ id⟩
  | subscribe => exact ⟨_, _, rfl, .rejected _ _ id⟩
  | unsubscribe => exact ⟨_, _, rfl, .rejected _ _ id⟩
  | pingReq => exact ⟨_, _, rfl, .rejected _ _ id⟩
  | disconnect => exact ⟨_, _, rfl, .rejected _ _ id⟩
  | pingResp => exact ⟨_, _, rfl, .pingResp⟩
  | publish publish =>
    obtain ⟨outgoing, t, outcome, ran⟩ := sound.handleIncomingPublish_run publish
    exact ⟨_, _, run_bind_ok ran, .publish publish outgoing t outcome⟩
  | pubRel pubrel =>
    by_cases tracked : pubrel.pkid.toNat ∈ s.incomingPub
    · by_cases sent : pubrel.pkid.toNat ∈ s.incomingPubrec
      · exact ⟨_, _, run_bind_ok (handleIncomingPubrel_run tracked sent),
          .pubrel pubrel tracked sent⟩
      · exact ⟨_, _, run_bind_error (handleIncomingPubrel_early tracked sent), .rejected _ _ id⟩
    · exact ⟨_, _, run_bind_ok (handleIncomingPubrel_unknown tracked),
        .pubrelUnknown pubrel tracked⟩
  | pubAck puback =>
    by_cases member : puback.pkid ∈ s.outgoingPubOrder
    · obtain ⟨outgoing, t, settled, ran⟩ := sound.handleIncomingPuback_run member
      exact ⟨_, _, ran, .puback puback member outgoing _ t settled⟩
    · exact ⟨_, _, sound.handleIncomingPuback_unsolicited member, .rejected _ _ member⟩
  | pubRec pubrec =>
    by_cases member : pubrec.pkid ∈ s.outgoingPubOrder
    · exact ⟨_, _, sound.handleIncomingPubrec_run member, .pubrec pubrec member⟩
    · exact ⟨_, _, sound.handleIncomingPubrec_unsolicited member, .rejected _ _ member⟩
  | pubComp pubcomp =>
    by_cases member : pubcomp.pkid ∈ s.outgoingRelOrder
    · obtain ⟨outgoing, t, settled, ran⟩ := sound.handleIncomingPubcomp_run member
      exact ⟨_, _, ran, .pubcomp pubcomp member outgoing _ t settled⟩
    · exact ⟨_, _, sound.handleIncomingPubcomp_unsolicited member, .rejected _ _ member⟩
  | subAck suback =>
    rcases sound.handleIncomingSuback_cases suback with ⟨error, ran⟩ | ⟨member, notices, ran⟩
    · exact ⟨_, _, ran, .rejected _ _ id⟩
    · exact ⟨_, _, ran, .suback suback member notices⟩
  | unsubAck unsuback =>
    rcases sound.handleIncomingUnsuback_cases unsuback with ⟨error, ran⟩ | ⟨member, notices, ran⟩
    · exact ⟨_, _, ran, .rejected _ _ id⟩
    · exact ⟨_, _, ran, .unsuback unsuback member notices⟩

/-! ### What every outcome keeps -/

@[simp] theorem events_maybeShrink (s : MqttState) :
    s.maybeShrinkOutgoingTrackingCapacity.events = s.events := by
  unfold maybeShrinkOutgoingTrackingCapacity
  dsimp only
  split <;> rfl

theorem Settled.events (settled : Settled s pkid outgoing t) :
    s.events <+: t.events := by
  cases settled with
  | unparked => exact prefix_append ..
  | quiet =>
    simp only [events_maybeShrink, prefix_rfl]

theorem PublishOutcome.events {publish : Publish}
    (outcome : PublishOutcome s publish outgoing t) : s.events <+: t.events := by
  cases outcome with
  | qos0 => exact prefix_rfl
  | qos1 => exact prefix_rfl
  | qos1Answered => exact prefix_append ..
  | qos2 => exact prefix_rfl
  | qos2Answered => exact prefix_append ..
  | qos2Again => exact prefix_append ..

/-- **Events are only added.** -/
theorem Dispatched.events (dispatched : Dispatched s packet result t) : s.events <+: t.events := by
  cases dispatched with
  | rejected => exact prefix_rfl
  | pingResp => exact prefix_rfl
  | publish _ _ _ outcome => exact outcome.events
  | pubrelUnknown => exact prefix_append ..
  | pubrel => exact prefix_append ..
  | puback _ _ _ _ _ settled => exact settled.events
  | pubrec => exact prefix_append ..
  | pubcomp _ _ _ _ _ settled => exact settled.events
  | suback => exact prefix_rfl
  | unsuback => exact prefix_rfl

/-- **The invariant is kept by every outcome.** -/
theorem Sound.dispatched (sound : s.Sound pool) (dispatched : Dispatched s packet result t) :
    t.Sound pool := by
  cases dispatched with
  | rejected => exact sound
  | pingResp => exact { sound with }
  | publish _ _ _ outcome => exact sound.publishOutcome outcome
  | pubrelUnknown => exact sound.pushEvent _
  | pubrel pubrel => exact sound.released pubrel.pkid
  | puback puback member _ _ _ settled =>
    have held : s.toFlows.Holds pool .publish puback.pkid := member
    exact (sound.acked member).settled (sound.tracked.ne_zero_of_holds held)
      (notMem_acked s puback.pkid) (sound.room_acked member) settled
  | pubrec pubrec member => exact sound.received member
  | pubcomp pubcomp member _ _ _ settled =>
    have held : s.toFlows.Holds pool .release pubcomp.pkid := member
    exact (sound.completed member).settled (sound.tracked.ne_zero_of_holds held)
      (notMem_completed s pubcomp.pkid) (sound.room_completed member) settled
  | suback suback member => exact sound.subscribed member
  | unsuback unsuback member => exact sound.unsubscribed member

/-! ### The `Incoming` event -/

/-- The packet put in front of the events its handler raised. -/
def queueIncoming (t : MqttState) (before : Nat) (seen : Packet) : MqttState :=
  { t with events := t.events.take before ++ .incoming seen :: t.events.drop before }

/-- **The outcomes of an incoming packet, with its event.** -/
inductive Handled (s : MqttState) (packet : Packet) :
    PacketResult → MqttState → Prop where
  | shown (effects : IncomingPacketEffects) (t : MqttState)
    (dispatched : Dispatched s packet (.ok effects) t)
    (visible : s.isDuplicateIncomingQos2Publish packet = false) :
    Handled s packet (.ok effects) (t.queueIncoming s.events.length packet)
  | hidden (effects : IncomingPacketEffects) (t : MqttState)
    (dispatched : Dispatched s packet (.ok effects) t)
    (suppressed : s.isDuplicateIncomingQos2Publish packet = true) :
    Handled s packet (.ok effects) t
  | failed (error : StateError) (t : MqttState) (dispatched : Dispatched s packet (.error error) t) :
    Handled s packet (.error error) t

/-- **An incoming packet never causes a panic.** -/
theorem Sound.handleIncoming_run (sound : s.Sound pool) (packet : Packet) :
    ∃ result t, (handleIncomingPacketWithEffects packet).run s = .ok (result, t) ∧
      Handled s packet result t := by
  obtain ⟨result, t, ran, dispatched⟩ := sound.dispatchIncoming_run packet
  have within : s.events.length ≤ t.events.length := dispatched.events.length_le
  unfold handleIncomingPacketWithEffects
  rw [run_get_bind]
  cases result with
  | error error => exact ⟨_, _, run_bind_error ran, .failed error t dispatched⟩
  | ok effects =>
    rw [run_bind_ok ran, run_ite]
    cases suppressed : s.isDuplicateIncomingQos2Publish packet with
    | true => exact ⟨_, _, if_pos rfl, .hidden effects t dispatched suppressed⟩
    | false =>
      have queued : (insertEvent s.events.length (.incoming packet)).run t =
          .ok (.ok (), t.queueIncoming s.events.length packet) := if_pos within
      refine ⟨_, _, ?_, .shown effects t dispatched suppressed⟩
      rw [if_neg (by decide)]
      exact run_bind_ok queued

theorem Sound.handled (sound : s.Sound pool) (handled : Handled s packet result t) :
    t.Sound pool := by
  cases handled with
  | shown _ _ dispatched => exact { sound.dispatched dispatched with }
  | hidden _ _ dispatched => exact sound.dispatched dispatched
  | failed _ _ dispatched => exact sound.dispatched dispatched

end Rumqtt.V4.MqttState
