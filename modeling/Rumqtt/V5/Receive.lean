/-
**Incoming publishes and their acknowledgements, MQTT 5.**

What the handlers of PUBLISH and PUBREL and the requests PUBACK and PUBREC do to a sound state:
`PublishOutcome` lists every way an incoming publish can be answered, `outgoingPubrecInternal_cases`
every way a PUBREC can be sent. None of them touches the outbound flows.
-/

import Rumqtt.V5.Acks

namespace Rumqtt.V5.MqttState

open Handler FixedBitSet

variable {s : MqttState} {pool : List Request} {pkid : PacketId}
variable {pubrec : PubRec} {pubrel : PubRel}

theorem run_releaseReceiveQuota (valid : s.incomingPublishQuota.Valid) (pkid : PacketId) :
    (releaseIncomingPublishQuota pkid).run s =
      .ok (.ok (), s.putReceiveQuota (s.incomingPublishQuota.released pkid)) :=
  run_zoomChecked (valid.release_ok _ pkid)

/-! ### DISCONNECT -/

/-- The client gives the connection up. -/
def disconnecting (s : MqttState) : MqttState :=
  MqttState.pushEvent (.outgoing .disconnect)
    (s.putAuthentication s.toAuthentication.failAuthExchangeDueToClientDisconnect)

theorem outgoingDisconnect_run (s : MqttState) (disconnect : Disconnect) :
    (outgoingDisconnect disconnect).run s = .ok (.ok (.disconnect disconnect), s.disconnecting) := rfl

theorem Sound.disconnecting (sound : s.Sound pool) : s.disconnecting.Sound pool := { sound with }

/-! ### PUBACK requests -/

/-- A QoS 1 publish answered with PUBACK. -/
def pubackSent (s : MqttState) (pkid : PacketId) : MqttState :=
  MqttState.pushEvent (.outgoing (.pubAck pkid))
    { s with
      incomingPuback := s.incomingPuback.remove pkid.toNat
      incomingPublishQuota := s.incomingPublishQuota.released pkid }

theorem Sound.pubackSent (sound : s.Sound pool) (pkid : PacketId) : (s.pubackSent pkid).Sound pool :=
  { sound with receiveQuota := sound.receiveQuota.released pkid }

theorem Sound.outgoingPuback_run (sound : s.Sound pool) {puback : PubAck}
    (member : puback.pkid.toNat ∈ s.incomingPuback) :
    (outgoingPuback puback).run s = .ok (.ok (.pubAck puback), s.pubackSent puback.pkid) := by
  have cleared := set_false_ok (lt_length member)
  unfold outgoingPuback
  simp only [run_get_bind, contains_eq_true.mpr member, Bool.true_eq_false, if_false]
  refine (run_bind_ok (run_ofChecked cleared s)).trans ?_
  simp only [run_modify_bind]
  refine (run_bind_ok (run_releaseReceiveQuota ?valid puback.pkid)).trans rfl
  case valid => exact sound.receiveQuota

theorem outgoingPuback_unsolicited {puback : PubAck} (absent : puback.pkid.toNat ∉ s.incomingPuback) :
    (outgoingPuback puback).run s = .ok (.error (.unsolicited puback.pkid), s) := by
  simp [outgoingPuback, absent]

/-! ### PUBREC requests -/

/-- A QoS 2 publish answered with a successful PUBREC. -/
def pubrecSent (s : MqttState) (pkid : PacketId) : MqttState :=
  MqttState.pushEvent (.outgoing (.pubRec pkid))
    { s with incomingPubrec := s.incomingPubrec.growAndInsert pkid.toNat }

/-- A QoS 2 publish refused with PUBREC; its flow is over. -/
def pubrecRefused (s : MqttState) (pkid : PacketId) : MqttState :=
  MqttState.pushEvent (.outgoing (.pubRec pkid))
    { s with
      incomingPub := s.incomingPub.remove pkid.toNat
      incomingPubrec := s.incomingPubrec.remove pkid.toNat
      incomingPublishQuota := s.incomingPublishQuota.released pkid }

theorem Sound.pubrecSent (sound : s.Sound pool) (pkid : PacketId) : (s.pubrecSent pkid).Sound pool :=
  { sound with pubrecLength := length_growAndInsert_full sound.pubrecLength pkid }

theorem Sound.pubrecRefused (sound : s.Sound pool) (pkid : PacketId) :
    (s.pubrecRefused pkid).Sound pool :=
  { sound with receiveQuota := sound.receiveQuota.released pkid }

theorem outgoingPubrecInternal_untracked {allowDuplicate : Bool}
    (absent : pubrec.pkid.toNat ∉ s.incomingPub) :
    (outgoingPubrecInternal pubrec allowDuplicate).run s =
      .ok (.error (.unsolicited pubrec.pkid), s) := by
  simp [outgoingPubrecInternal, absent]

theorem outgoingPubrecInternal_again (tracked : pubrec.pkid.toNat ∈ s.incomingPub)
    (sent : pubrec.pkid.toNat ∈ s.incomingPubrec) (allowDuplicate : Bool) :
    (outgoingPubrecInternal pubrec allowDuplicate).run s = if allowDuplicate then
        .ok (.ok (.pubRec pubrec), s.pushEvent (.outgoing (.pubRec pubrec.pkid)))
      else .ok (.error (.unsolicited pubrec.pkid), s) := by
  cases allowDuplicate <;> simp [outgoingPubrecInternal, tracked, sent]

section

variable (sound : s.Sound pool) (tracked : pubrec.pkid.toNat ∈ s.incomingPub)
  (unsent : pubrec.pkid.toNat ∉ s.incomingPubrec)
include sound tracked unsent

theorem Sound.outgoingPubrecInternal_refused
    (failed : 0x80 ≤ pubrec.reason.code) (allowDuplicate : Bool) :
    (outgoingPubrecInternal pubrec allowDuplicate).run s =
      .ok (.ok (.pubRec pubrec), s.pubrecRefused pubrec.pkid) := by
  have pubCleared := set_false_ok (lt_length tracked)
  have pubrecCleared := set_false_ok (toNat_lt_of_full sound.pubrecLength pubrec.pkid)
  unfold outgoingPubrecInternal
  simp only [run_get_bind, contains_eq_true.mpr tracked,
    contains_eq_false.mpr unsent, failed, Bool.true_eq_false, Bool.false_eq_true,
    if_false, if_true]
  refine (run_bind_ok (run_ofChecked pubCleared s)).trans ?_
  refine (run_bind_ok (run_ofChecked pubrecCleared s)).trans ?_
  simp only [run_modify_bind]
  refine (run_bind_ok (run_releaseReceiveQuota ?valid pubrec.pkid)).trans rfl
  case valid => exact sound.receiveQuota

theorem Sound.outgoingPubrecInternal_sent
    (success : pubrec.reason.code < 0x80) (allowDuplicate : Bool) :
    (outgoingPubrecInternal pubrec allowDuplicate).run s =
      .ok (.ok (.pubRec pubrec), s.pubrecSent pubrec.pkid) := by
  have inserted := insert_ok (toNat_lt_of_full sound.pubrecLength pubrec.pkid)
  unfold outgoingPubrecInternal
  simp only [run_get_bind, contains_eq_true.mpr tracked,
    contains_eq_false.mpr unsent, Nat.not_le.mpr success, Bool.true_eq_false,
    Bool.false_eq_true, if_false]
  exact (run_bind_ok (run_ofChecked inserted s)).trans rfl

end

/-! ### PUBLISH -/

/-- A QoS 1 publish tracked until its PUBACK. -/
def qos1Tracked (s : MqttState) (pkid : PacketId) : MqttState :=
  { s with
    incomingPublishQuota := s.incomingPublishQuota.acquired pkid
    incomingPuback := s.incomingPuback.growAndInsert pkid.toNat }

/-- A QoS 2 publish tracked until its PUBREL. -/
def qos2Tracked (s : MqttState) (pkid : PacketId) : MqttState :=
  { s with
    incomingPublishQuota := s.incomingPublishQuota.acquired pkid
    incomingPub := s.incomingPub.growAndInsert pkid.toNat }

theorem Sound.qos1Tracked (sound : s.Sound pool) (pkid : PacketId) :
    (s.qos1Tracked pkid).Sound pool :=
  { sound with
    receiveQuota := sound.receiveQuota.acquired pkid
    pubackLength := length_growAndInsert_full sound.pubackLength pkid }

theorem Sound.qos2Tracked (sound : s.Sound pool) (pkid : PacketId) :
    (s.qos2Tracked pkid).Sound pool :=
  { sound with
    receiveQuota := sound.receiveQuota.acquired pkid
    pubLength := length_growAndInsert_full sound.pubLength pkid }

/-- **The ways an incoming publish is answered**, once its topic is known. -/
inductive PublishOutcome (s : MqttState) (publish : Publish) : Option Packet → MqttState → Prop where
  | exceeded (counted : publish.qos ≠ .atMostOnce)
    (fresh : publish.pkid.toNat ∉ s.incomingPublishQuota.bits)
    (full : s.maxIncomingInflight.toNat ≤ s.incomingPublishQuota.inflight) :
    PublishOutcome s publish (some (.disconnect ⟨.receiveMaximumExceeded, none⟩)) s.disconnecting
  | qos0 (qos : publish.qos = .atMostOnce) : PublishOutcome s publish none s
  | qos1 (qos : publish.qos = .atLeastOnce) (manual : s.ackMode = .manual) :
    PublishOutcome s publish none (s.qos1Tracked publish.pkid)
  | qos1Answered (qos : publish.qos = .atLeastOnce) (automatic : s.ackMode = .automatic) :
    PublishOutcome s publish (some (.pubAck { pkid := publish.pkid }))
      ((s.qos1Tracked publish.pkid).pubackSent publish.pkid)
  | qos2 (qos : publish.qos = .exactlyOnce) (manual : s.ackMode = .manual)
    (unsent : publish.pkid.toNat ∉ s.incomingPubrec) :
    PublishOutcome s publish none (s.qos2Tracked publish.pkid)
  | qos2Answered (qos : publish.qos = .exactlyOnce) (automatic : s.ackMode = .automatic)
    (unsent : publish.pkid.toNat ∉ s.incomingPubrec) :
    PublishOutcome s publish (some (.pubRec { pkid := publish.pkid }))
      ((s.qos2Tracked publish.pkid).pubrecSent publish.pkid)
  | qos2Again (qos : publish.qos = .exactlyOnce) (sent : publish.pkid.toNat ∈ s.incomingPubrec) :
    PublishOutcome s publish (some (.pubRec { pkid := publish.pkid }))
      ((s.qos2Tracked publish.pkid).pushEvent (.outgoing (.pubRec publish.pkid)))

theorem Sound.publishOutcome (sound : s.Sound pool) {publish : Publish} {outgoing : Option Packet}
    {t : MqttState} (outcome : PublishOutcome s publish outgoing t) : t.Sound pool := by
  cases outcome with
  | exceeded => exact sound.disconnecting
  | qos0 => exact sound
  | qos1 => exact sound.qos1Tracked publish.pkid
  | qos1Answered => exact (sound.qos1Tracked publish.pkid).pubackSent publish.pkid
  | qos2 => exact sound.qos2Tracked publish.pkid
  | qos2Answered => exact (sound.qos2Tracked publish.pkid).pubrecSent publish.pkid
  | qos2Again => exact (sound.qos2Tracked publish.pkid).pushEvent _

/-- The state once an incoming QoS 1 or QoS 2 publish has taken its place. -/
def quotaTaken (s : MqttState) (pkid : PacketId) : MqttState :=
  s.putReceiveQuota (s.incomingPublishQuota.acquired pkid)

theorem mem_qos2Tracked (s : MqttState) (pkid : PacketId) :
    pkid.toNat ∈ (s.qos2Tracked pkid).incomingPub :=
  (mem_growAndInsert ..).mpr (.inl rfl)

theorem Sound.answerQos2_run (sound : s.Sound pool) (unsent : pkid.toNat ∉ s.incomingPubrec) :
    (outgoingPubrecForIncomingPublish { pkid }).run (s.qos2Tracked pkid) =
      .ok (.ok (.pubRec { pkid }), (s.qos2Tracked pkid).pubrecSent pkid) := by
  have tracked : (PubRec.mk pkid .success none).pkid.toNat ∈ (s.qos2Tracked pkid).incomingPub :=
    mem_qos2Tracked s pkid
  have success : PubAckReason.success.code < 0x80 := by decide
  exact (sound.qos2Tracked pkid).outgoingPubrecInternal_sent tracked unsent success true

theorem answerQos2Again_run (sent : pkid.toNat ∈ s.incomingPubrec) :
    (outgoingPubrecForIncomingPublish { pkid }).run (s.qos2Tracked pkid) =
      .ok (.ok (.pubRec { pkid }), (s.qos2Tracked pkid).pushEvent (.outgoing (.pubRec pkid))) := by
  have tracked : (PubRec.mk pkid .success none).pkid.toNat ∈ (s.qos2Tracked pkid).incomingPub :=
    mem_qos2Tracked s pkid
  exact outgoingPubrecInternal_again tracked sent true

theorem Sound.answerQos1_run (sound : s.Sound pool) (pkid : PacketId) :
    (outgoingPuback { pkid }).run (s.qos1Tracked pkid) =
      .ok (.ok (.pubAck { pkid }), (s.qos1Tracked pkid).pubackSent pkid) := by
  have tracked : (PubAck.mk pkid .success none).pkid.toNat ∈ (s.qos1Tracked pkid).incomingPuback :=
    (mem_growAndInsert ..).mpr (.inl rfl)
  exact (sound.qos1Tracked pkid).outgoingPuback_run tracked

theorem Sound.answerIncomingPublish_run (sound : s.Sound pool) (publish : Publish)
    (counted : publish.qos ≠ .atMostOnce) :
    ∃ outgoing t, PublishOutcome s publish outgoing t ∧
      (answerIncomingPublish publish).run (s.quotaTaken publish.pkid) = .ok (.ok outgoing, t) := by
  unfold answerIncomingPublish
  simp only [run_get_bind]
  cases qos : publish.qos with
  | atMostOnce => exact absurd qos counted
  | atLeastOnce =>
    have inserted := insert_ok (toNat_lt_of_full sound.pubackLength publish.pkid)
    cases mode : s.ackMode with
    | automatic =>
      refine ⟨_, _, .qos1Answered qos mode, ?_⟩
      have ackMode : (s.quotaTaken publish.pkid).ackMode = .automatic := mode
      refine (run_bind_ok (run_ofChecked inserted _)).trans ?_
      rw [run_modify_bind, run_ite, if_pos ackMode]
      exact run_bind_ok (sound.answerQos1_run publish.pkid)
    | manual =>
      refine ⟨_, _, .qos1 qos mode, ?_⟩
      have ackMode : (s.quotaTaken publish.pkid).ackMode ≠ .automatic := by simp [quotaTaken,
        putReceiveQuota, mode]
      refine (run_bind_ok (run_ofChecked inserted _)).trans ?_
      rw [run_modify_bind, run_ite, if_neg ackMode]
      rfl
  | exactlyOnce =>
    have inserted := insert_ok (toNat_lt_of_full sound.pubLength publish.pkid)
    by_cases sent : publish.pkid.toNat ∈ s.incomingPubrec
    · refine ⟨_, _, .qos2Again qos sent, ?_⟩
      refine (run_bind_ok (run_ofChecked inserted _)).trans ?_
      have repeated : (s.quotaTaken publish.pkid).incomingPubrec.contains publish.pkid.toNat = true :=
        contains_eq_true.mpr sent
      rw [run_modify_bind, run_ite, if_pos (.inr repeated)]
      exact run_bind_ok (answerQos2Again_run sent)
    · cases mode : s.ackMode with
      | automatic =>
        refine ⟨_, _, .qos2Answered qos mode sent, ?_⟩
        have ackMode : (s.quotaTaken publish.pkid).ackMode = .automatic := mode
        refine (run_bind_ok (run_ofChecked inserted _)).trans ?_
        rw [run_modify_bind, run_ite, if_pos (.inl ackMode)]
        exact run_bind_ok (sound.answerQos2_run sent)
      | manual =>
        refine ⟨_, _, .qos2 qos mode sent, ?_⟩
        have silent : ¬ ((s.quotaTaken publish.pkid).ackMode = .automatic ∨
            (s.quotaTaken publish.pkid).incomingPubrec.contains publish.pkid.toNat = true) := by
          simp [quotaTaken, putReceiveQuota, mode, sent]
        refine (run_bind_ok (run_ofChecked inserted _)).trans ?_
        rw [run_modify_bind, run_ite, if_neg silent]
        rfl

/-- **Every incoming publish is answered in one of the listed ways.** -/
theorem Sound.acceptIncomingPublish_run (sound : s.Sound pool) (publish : Publish) :
    ∃ outgoing t, PublishOutcome s publish outgoing t ∧
      (acceptIncomingPublish publish).run s = .ok (.ok outgoing, t) := by
  unfold acceptIncomingPublish
  simp only [run_get_bind]
  by_cases counted : publish.qos = .atMostOnce
  · refine ⟨none, s, .qos0 counted, ?_⟩
    simp [counted, answerIncomingPublish]
  · by_cases held : publish.pkid.toNat ∈ s.incomingPublishQuota.bits
    · have same : s.quotaTaken publish.pkid = s := by
        simp [quotaTaken, putReceiveQuota, Quota.acquired, held]
      obtain ⟨outgoing, t, outcome, ran⟩ := sound.answerIncomingPublish_run publish counted
      rw [same] at ran
      refine ⟨outgoing, t, outcome, ?_⟩
      simp [held, ran]
    · by_cases full : s.maxIncomingInflight.toNat ≤ s.incomingPublishQuota.inflight
      · refine ⟨_, _, .exceeded counted held full, ?_⟩
        simp only [counted, contains_eq_false.mpr held, full, ne_eq,
          not_false_eq_true, and_self, if_true]
        exact run_bind_ok (outgoingDisconnect_run s _)
      · obtain ⟨outgoing, t, outcome, ran⟩ := sound.answerIncomingPublish_run publish counted
        refine ⟨outgoing, t, outcome, ?_⟩
        simp only [counted, contains_eq_false.mpr held, full, ne_eq,
          not_false_eq_true, and_self, and_false, if_true, if_false]
        exact (run_bind_ok (run_zoomChecked
          (sound.receiveQuota.take_ok held (Nat.lt_of_not_le full)))).trans ran

/-- The aliases bound by the broker replaced. -/
def withIncomingAliases (s : MqttState) (incoming : AliasMap) : MqttState :=
  { s with topicAliases := { s.topicAliases with incoming } }

theorem Sound.withIncomingAliases (sound : s.Sound pool) (incoming : AliasMap) :
    (s.withIncomingAliases incoming).Sound pool := { sound with }

/-- **The topic of a publish and the aliases after it**, where its alias is right. -/
inductive Resolution (s : MqttState) (publish : Publish) : Bytes → AliasMap → Prop where
  | unaliased (plain : publishTopicAlias publish = none) :
    Resolution s publish publish.topic s.topicAliases.incoming
  | binding (aliasId : UInt16) (carries : publishTopicAlias publish = some aliasId)
    (within : aliasId ≤ s.topicAliases.clientMax) (named : publish.topic ≠ []) :
    Resolution s publish publish.topic (s.topicAliases.incoming.insert aliasId publish.topic)
  | lookup (aliasId : UInt16) (topic : Bytes) (carries : publishTopicAlias publish = some aliasId)
    (within : aliasId ≤ s.topicAliases.clientMax) (unnamed : publish.topic = [])
    (bound : s.topicAliases.incoming aliasId = some topic) :
    Resolution s publish topic s.topicAliases.incoming

/-- The alias of a publish is wrong: above the maximum, or bound to nothing. -/
def WrongAlias (s : MqttState) (publish : Publish) : Prop :=
  ∃ aliasId, publishTopicAlias publish = some aliasId ∧ (s.topicAliases.clientMax < aliasId ∨
      publish.topic = [] ∧ s.topicAliases.incoming aliasId = none)

/-- The DISCONNECT that answers a wrong alias. -/
def RefusesAlias (disconnect : Disconnect) : Prop :=
  disconnect = { reasonCode := .topicAliasInvalid } ∨ disconnect = { reasonCode := .protocolError }

/-- **An alias is wrong and answered with DISCONNECT, or it is resolved.** -/
theorem resolveIncomingAlias_cases (s : MqttState) (publish : Publish) :
    (s.WrongAlias publish ∧ ∃ disconnect, RefusesAlias disconnect ∧
      (resolveIncomingAlias publish).run s =
        .ok (.ok (.inr (some (.disconnect disconnect))), s.disconnecting)) ∨
    ∃ topic incoming, Resolution s publish topic incoming ∧ (resolveIncomingAlias publish).run s =
        .ok (.ok (.inl { publish with topic }), s.withIncomingAliases incoming) := by
  unfold resolveIncomingAlias
  simp only [run_get_bind]
  cases carries : publishTopicAlias publish with
  | none => exact .inr ⟨_, _, .unaliased carries, rfl⟩
  | some aliasId =>
    simp only [run_ite]
    split
    · rename_i above
      exact .inl ⟨⟨aliasId, carries, .inl above⟩, _, .inl rfl, rfl⟩
    · rename_i notAbove
      have within : aliasId ≤ s.topicAliases.clientMax := UInt16.not_lt.mp notAbove
      split
      · rename_i named
        exact .inr ⟨_, _, .binding aliasId carries within named, rfl⟩
      · rename_i unnamed
        have empty : publish.topic = [] := not_not.mp unnamed
        cases bound : s.topicAliases.incoming aliasId with
        | some topic => exact .inr ⟨_, _, .lookup aliasId topic carries within empty bound, rfl⟩
        | none => exact .inl ⟨⟨aliasId, carries, .inr ⟨empty, bound⟩⟩, _, .inr rfl, rfl⟩

theorem Sound.handleIncomingPublish_cases (sound : s.Sound pool) (publish : Publish) :
    (s.WrongAlias publish ∧ ∃ disconnect, RefusesAlias disconnect ∧
      (handleIncomingPublish publish).run s =
        .ok (.ok (publish, some (.disconnect disconnect)), s.disconnecting)) ∨
    ∃ topic incoming outgoing t, Resolution s publish topic incoming ∧
      PublishOutcome (s.withIncomingAliases incoming) { publish with topic } outgoing t ∧
        (handleIncomingPublish publish).run s = .ok (.ok ({ publish with topic }, outgoing), t) := by
  rcases resolveIncomingAlias_cases s publish with
    ⟨wrong, disconnect, refuses, ran⟩ | ⟨topic, incoming, resolution, ran⟩
  · exact .inl ⟨wrong, disconnect, refuses, run_bind_ok ran⟩
  · obtain ⟨outgoing, t, outcome, accepted⟩ :=
      (sound.withIncomingAliases incoming).acceptIncomingPublish_run { publish with topic }
    refine .inr ⟨topic, incoming, outgoing, t, resolution, outcome, ?_⟩
    exact (run_bind_ok ran).trans (run_bind_ok accepted)

/-! ### PUBREL -/

/-- A QoS 2 publish released by the broker: its flow is over. -/
def released (s : MqttState) (pkid : PacketId) : MqttState :=
  { s with
    incomingPub := s.incomingPub.remove pkid.toNat
    incomingPubrec := s.incomingPubrec.remove pkid.toNat
    events := s.events ++ [.outgoing (.pubComp pkid)]
    incomingPublishQuota := s.incomingPublishQuota.released pkid }

theorem Sound.released (sound : s.Sound pool) (pkid : PacketId) : (s.released pkid).Sound pool :=
  { sound with receiveQuota := sound.receiveQuota.released pkid }

theorem handleIncomingPubrel_unknown (absent : pubrel.pkid.toNat ∉ s.incomingPub) :
    (handleIncomingPubrel pubrel).run s = .ok (.ok (some (.pubComp { pkid := pubrel.pkid, reason := .packetIdentifierNotFound })),
        s.pushEvent (.outgoing (.pubComp pubrel.pkid))) := by
  simp [handleIncomingPubrel, absent]

theorem handleIncomingPubrel_early (tracked : pubrel.pkid.toNat ∈ s.incomingPub)
    (unsent : pubrel.pkid.toNat ∉ s.incomingPubrec) :
    (handleIncomingPubrel pubrel).run s = .ok (.error (.unsolicited pubrel.pkid), s) := by
  simp [handleIncomingPubrel, tracked, unsent]

theorem Sound.handleIncomingPubrel_run (sound : s.Sound pool)
    (tracked : pubrel.pkid.toNat ∈ s.incomingPub) (sent : pubrel.pkid.toNat ∈ s.incomingPubrec) :
    (handleIncomingPubrel pubrel).run s = .ok (.ok (some (.pubComp { pkid := pubrel.pkid })), s.released pubrel.pkid) := by
  have pubCleared := set_false_ok (lt_length tracked)
  have pubrecCleared := set_false_ok (lt_length sent)
  unfold handleIncomingPubrel
  simp only [run_get_bind, contains_eq_true.mpr tracked,
    contains_eq_true.mpr sent, Bool.true_eq_false, if_false]
  refine (run_bind_ok (run_ofChecked pubCleared s)).trans ?_
  refine (run_bind_ok (run_ofChecked pubrecCleared s)).trans ?_
  simp only [run_modify_bind]
  refine (run_bind_ok (run_releaseReceiveQuota ?valid pubrel.pkid)).trans rfl
  case valid => exact sound.receiveQuota

/-! ### CONNACK -/

/-- The state after a CONNACK has been accepted. -/
def connected (s : MqttState) (connack : ConnAck) (a : Authentication) : MqttState :=
  { negotiate (connack.properties.getD {}) (resetConnackScopedState (s.putAuthentication a)) with
    connackReceived := true }

theorem Sound.connected (sound : s.Sound pool) (connack : ConnAck) (a : Authentication) :
    (s.connected connack a).Sound pool := { sound with }

/-- **A CONNACK is accepted as the first of its connection, or changes at most the exchange.** -/
theorem handleIncomingConnack_cases (s : MqttState) (connack : ConnAck) :
    (∃ (error : StateError) (a : Authentication), Raises s.events a.events ∧
      (handleIncomingConnack connack).run s = .ok (.error error, s.putAuthentication a)) ∨
    s.connackReceived = false ∧ ∃ a : Authentication, Raises s.events a.events ∧
      (handleIncomingConnack connack).run s = .ok (.ok none, s.connected connack a) := by
  unfold handleIncomingConnack
  simp only [run_get_bind]
  cases valid : s.validateIncomingConnack connack with
  | error error => exact .inl ⟨error, s.toAuthentication, .refl _, rfl⟩
  | ok accepted =>
    have first : s.connackReceived = false := by
      by_contra received
      rw [Bool.not_eq_false] at received
      simp [validateIncomingConnack, received] at valid
    rw [run_bind_ok (run_ofExcept_ok accepted s)]
    have completes : ∀ a : Authentication,
        Raises a.events (a.advance (·.completeInitialConnack)).events :=
      Authentication.advance_events AuthLifecycle.completeInitialConnack_own
    obtain ⟨result, a, verified, kept⟩ := Authentication.adds_authenticateSuccess s.toAuthentication
    by_cases initial : s.auth.state.kind = some .initialConnect
    · simp only [initial, if_true]
      cases result with
      | error error =>
        refine .inl ⟨error, a, kept, ?_⟩
        exact run_bind_error (run_zoom verified)
      | ok done =>
        refine .inr ⟨first, _, kept.trans (completes a), ?_⟩
        exact (run_bind_ok (run_zoom verified)).trans rfl
    · simp only [initial, if_false]
      exact .inr ⟨first, _, completes s.toAuthentication, rfl⟩

theorem handleIncomingDisconn_run (s : MqttState) (disconn : Disconnect) :
    ∃ (error : StateError) (a : Authentication), Raises s.events a.events ∧
      (handleIncomingDisconn disconn).run s = .ok (.error error, s.putAuthentication a) := by
  unfold handleIncomingDisconn
  cases redirectReason disconn.reasonCode with
  | some reason => exact ⟨_, s.toAuthentication, .refl _, rfl⟩
  | none => exact ⟨_, _, Authentication.failAuthExchange_events _ _, rfl⟩

end Rumqtt.V5.MqttState
