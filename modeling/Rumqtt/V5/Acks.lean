/-
**Acknowledgements of outbound flows, MQTT 5.**

For each of PUBACK, PUBREC, PUBCOMP, SUBACK and UNSUBACK: the state after the packet is accepted
(`acked`, `received`, `completed`, …), a lemma that the handler reaches it, a lemma that any other such
packet is rejected with the state unchanged, and a lemma that the new state is sound.
-/

import Rumqtt.V5.Sound

namespace Rumqtt.V5.MqttState

open Handler FixedBitSet

variable {s : MqttState} {pool : List Request} {pkid : PacketId}

@[simp] theorem pkid_publishForReplayTracking (a : TopicAliasState) (publish : Publish) :
    (a.publishForReplayTracking publish).pkid = publish.pkid := by
  unfold TopicAliasState.publishForReplayTracking
  split <;> rfl

@[simp] theorem qos_publishForReplayTracking (a : TopicAliasState) (publish : Publish) :
    (a.publishForReplayTracking publish).qos = publish.qos := by
  unfold TopicAliasState.publishForReplayTracking
  split <;> rfl

/-! ### Running components -/

theorem run_flows {α : Type} {method : Handler StateError (Flows dialect) α}
    {result : Except StateError α} {f : Flows dialect} (ran : method s.toFlows = .ok (result, f)) :
    (flows method).run s = .ok (result, s.putFlows f) := run_zoom ran

theorem run_updateFlows {update : Flows dialect → Checked (Flows dialect)} {f : Flows dialect}
    (ran : update s.toFlows = .ok f) : (updateFlows update).run s = .ok (.ok (), s.putFlows f) :=
  run_zoomChecked ran

theorem run_releaseQuota (valid : s.outgoingPublishQuota.Valid) (pkid : PacketId) :
    (releaseOutgoingPublishQuota pkid).run s =
      .ok (.ok (), s.putSendQuota (s.outgoingPublishQuota.released pkid)) :=
  run_zoomChecked (valid.release_ok _ pkid)

theorem run_acquireQuota (valid : s.outgoingPublishQuota.Valid) (nonzero : pkid ≠ 0)
    (zero : 0 ∉ s.outgoingPublishQuota.bits) : (acquireOutgoingPublishQuota pkid).run s =
      .ok (.ok (), s.putSendQuota (s.outgoingPublishQuota.acquired pkid)) :=
  run_zoomChecked (valid.acquire_ok nonzero zero)

/-! ### Shrinking -/

theorem Sound.maybeShrink (sound : s.Sound pool) :
    s.maybeShrinkOutgoingTrackingCapacity.Sound pool := by
  unfold maybeShrinkOutgoingTrackingCapacity
  dsimp only
  split
  · exact sound
  · rename_i large
    rw [not_or, Bool.not_eq_false] at large
    obtain ⟨longer, drained⟩ := large
    simp only [outboundRequestsDrained, Bool.and_eq_true, beq_iff_eq] at drained
    obtain ⟨⟨idle, drained⟩, -⟩ := drained
    have noQuota : ∀ bit, bit ∉ s.outgoingPublishQuota.bits := by
      intro bit member
      have counted := card_pos member
      rw [← sound.sendQuota.count] at counted
      exact absurd idle (Nat.ne_of_gt counted)
    exact { sound with
      tracked := sound.tracked.shrinkTo drained (by omega)
      sendQuota_owned := fun pkid member => absurd member (noQuota _)
      recovery_sub := by
        rintro bit ⟨⟩ }

/-! ### The parked publish -/

/-- The state after the parked publish has been sent. -/
def unparked (s : MqttState) (publish : Publish) : MqttState :=
  MqttState.pushEvent (.outgoing (.publish publish.pkid))
    { s with
      toFlows := (s.toFlows.unparking publish.pkid).withPublish
        (s.topicAliases.publishForReplayTracking publish) s.collisionNotice
      outgoingPublishQuota := s.outgoingPublishQuota.acquired publish.pkid
      topicAliases := s.topicAliases.recordOutgoingTopicAlias publish
      ping := s.ping.resetCollisionCount }

theorem replayCollisionPublish_none
    (other : ∀ publish, s.collision = some publish → publish.pkid ≠ pkid) :
    (replayCollisionPublish pkid).run s = .ok (.ok none, s) := by
  have nothing : s.toFlows.checkCollision pkid = (none, s.toFlows) := by
    unfold Flows.checkCollision
    split
    · rename_i publish parked
      rw [if_neg (other publish parked)]
    · rfl
  simp [replayCollisionPublish, nothing]

section Unpark

variable {publish : Publish}

section

variable (sound : s.Sound pool) (parked : s.collision = some publish) (nonzero : publish.pkid ≠ 0)
include nonzero parked sound

theorem Sound.unparked (free : publish.pkid.toNat ∉ s.outboundPkidInUse) :
    (s.unparked publish).Sound pool := by
  refine { sound with
    tracked := (sound.tracked.unparking nonzero free).withPublish ?_ ?_ ?_ ?_ ?_ _
    sendQuota := sound.sendQuota.acquired publish.pkid
    sendQuota_owned := ?_ }
  · rw [pkid_publishForReplayTracking]
    exact Flows.Tracked.lt_length_unparking s.toFlows publish.pkid
  · rw [pkid_publishForReplayTracking]
    exact (mem_growAndInsert ..).mpr (.inl rfl)
  · rw [pkid_publishForReplayTracking]
    exact sound.tracked.unheld_of_free free
  · rw [pkid_publishForReplayTracking]
    exact sound.tracked.notMem_relReplayOrder_of_free free
  · rw [qos_publishForReplayTracking]
    exact sound.tracked.parked publish parked
  · intro other member
    rcases Quota.mem_acquired.mp member with same | held
    · rw [UInt16.toNat_inj] at same
      refine .inl (List.mem_append_right _ ?_)
      rw [same, pkid_publishForReplayTracking]
      exact List.mem_singleton_self _
    · exact (sound.sendQuota_owned other held).imp (List.mem_append_left _) id

theorem Sound.replayCollisionPublish_some (free : publish.pkid.toNat ∉ s.outboundPkidInUse) :
    (replayCollisionPublish publish.pkid).run s =
      .ok (.ok (some (.publish publish)), s.unparked publish) := by
  have waiting : s.toFlows.checkCollision publish.pkid =
      (some (publish, s.collisionNotice), s.toFlows.withoutCollision) := by
    simp [Flows.checkCollision, parked]
  have grown := sound.tracked.withoutCollision.ensureCapacity publish.pkid.toNat_lt
  have ready := sound.tracked.unparking nonzero free
  have fits : (s.topicAliases.publishForReplayTracking publish).pkid.toNat <
      (s.toFlows.unparking publish.pkid).outgoingPub.length := by
    rw [pkid_publishForReplayTracking]
    exact Flows.Tracked.lt_length_unparking s.toFlows publish.pkid
  unfold replayCollisionPublish
  simp only [run_get_bind, waiting, run_modify_bind]
  refine (run_bind_ok (run_updateFlows (grown.reserveReleased_ok nonzero free))).trans ?_
  refine (run_bind_ok (run_updateFlows (ready.trackPublish_ok fits _))).trans ?_
  refine (run_bind_ok (run_acquireQuota ?valid nonzero ?zero)).trans rfl
  case valid => exact sound.sendQuota
  case zero => exact sound.zero_notMem_sendQuota

end

end Unpark

/-! ### The end of a flow -/

/-- What the end of the flow under an identifier leads to: the parked publish it was waiting for is
sent, or nothing is and the tracking may shrink. -/
inductive Settled (s : MqttState) (pkid : PacketId) : Option Packet → MqttState → Prop where
  | unparked (publish : Publish) (parked : s.collision = some publish) (same : publish.pkid = pkid) :
    Settled s pkid (some (.publish publish)) (s.unparked publish)
  | quiet (other : ∀ publish, s.collision = some publish → publish.pkid ≠ pkid) :
    Settled s pkid none s.maybeShrinkOutgoingTrackingCapacity

section

variable (sound : s.Sound pool) (nonzero : pkid ≠ 0) (free : pkid.toNat ∉ s.outboundPkidInUse)
include free nonzero sound

theorem Sound.settled {outgoing : Option Packet} {t : MqttState}
    (settled : Settled s pkid outgoing t) : t.Sound pool := by
  cases settled with
  | unparked publish parked same =>
    subst same
    exact sound.unparked parked nonzero free
  | quiet => exact sound.maybeShrink

theorem Sound.settleFlow_run (notice : Option NoticeId) (result : PublishResult) :
    ∃ outgoing t, Settled s pkid outgoing t ∧ (settleFlow pkid notice result).run s = .ok (.ok
        { outgoing, notices := (notice.map (DeferredNotice.publish · result)).toList }, t) := by
  by_cases waits : ∃ publish, s.collision = some publish ∧ publish.pkid = pkid
  · obtain ⟨publish, parked, rfl⟩ := waits
    refine ⟨_, _, .unparked publish parked rfl, ?_⟩
    exact run_bind_ok (sound.replayCollisionPublish_some parked nonzero free)
  · have other : ∀ publish, s.collision = some publish → publish.pkid ≠ pkid :=
      fun publish parked same => waits ⟨publish, parked, same⟩
    refine ⟨_, _, .quiet other, ?_⟩
    exact run_bind_ok (replayCollisionPublish_none other)

end

/-! ### PUBACK, and PUBREC with a failure -/

/-- A publish acknowledged for good: its slot, identifier and quota are free. -/
def acked (s : MqttState) (pkid : PacketId) : MqttState :=
  { s with
    toFlows := (s.toFlows.withoutPublish pkid).withReleased pkid
    outgoingPublishQuota := s.outgoingPublishQuota.released pkid }

theorem Sound.acked (sound : s.Sound pool) (member : pkid ∈ s.outgoingPubOrder) :
    (s.acked pkid).Sound pool := by
  have held : s.toFlows.Holds pool .publish pkid := member
  refine { sound with
    tracked := (sound.tracked.withoutPublish pkid).withReleased
      (sound.tracked.ledger.reserved _ _ held) (sound.tracked.unheld_withoutPublish member) ?_
    sendQuota := sound.sendQuota.released pkid
    sendQuota_owned := ?_ }
  · intro replayed
    cases sound.tracked.ledger.replay_unheld pkid replayed .publish held
  · intro other member
    obtain ⟨different, quota⟩ := Quota.mem_released.mp member
    refine (sound.sendQuota_owned other quota).imp (fun stored => ?_) id
    exact sound.tracked.pubOrder_nodup.mem_erase_iff.mpr ⟨fun same => different (same ▸ rfl), stored⟩

theorem notMem_acked (s : MqttState) (pkid : PacketId) :
    pkid.toNat ∉ (s.acked pkid).outboundPkidInUse := fun member =>
  ((mem_remove ..).mp member).1 rfl

/-- Taking a publish out, then its identifier and its quota. -/
theorem Sound.run_acked {α : Type} (sound : s.Sound pool) (member : pkid ∈ s.outgoingPubOrder)
    (next : Option NoticeId → Method α) :
    (do
      let notice ← flows (·.takePublish pkid)
      updateFlows (·.release pkid)
      releaseOutgoingPublishQuota pkid
      next notice : Method α).run s =
      (next (s.outgoingPubNotice.lookup pkid.toNat)).run (s.acked pkid) := by
  have held : s.toFlows.Holds pool .publish pkid := member
  have without := sound.tracked.withoutPublish pkid
  refine (run_bind_ok (run_flows (sound.tracked.takePublish_ok member))).trans ?_
  refine (run_bind_ok (run_updateFlows
    (without.release_ok (sound.tracked.ledger.reserved _ _ held)))).trans ?_
  refine run_bind_ok (run_releaseQuota ?valid pkid)
  case valid => exact sound.sendQuota

section

variable (sound : s.Sound pool)
include sound

theorem Sound.handleIncomingPuback_run {puback : PubAck}
    (member : puback.pkid ∈ s.outgoingPubOrder) :
    ∃ outgoing t, Settled (s.acked puback.pkid) puback.pkid outgoing t ∧
      (handleIncomingPuback puback).run s = .ok (.ok { outgoing, notices :=
        ((s.outgoingPubNotice.lookup puback.pkid.toNat).map
          (DeferredNotice.publish · (.qos1 puback))).toList }, t) := by
  have held : s.toFlows.Holds pool .publish puback.pkid := member
  have nonzero := sound.tracked.ne_zero_of_holds held
  unfold handleIncomingPuback
  rw [sound.run_acked member]
  exact (sound.acked member).settleFlow_run nonzero (notMem_acked s puback.pkid) _ _

theorem Sound.handleIncomingPuback_unsolicited {puback : PubAck}
    (absent : puback.pkid ∉ s.outgoingPubOrder) :
    (handleIncomingPuback puback).run s = .ok (.error (.unsolicited puback.pkid), s) :=
  run_bind_error (run_flows (sound.tracked.takePublish_unsolicited absent))

theorem Sound.handleIncomingPubrec_failed {pubrec : PubRec}
    (member : pubrec.pkid ∈ s.outgoingPubOrder) (failed : 0x80 ≤ pubrec.reason.code) :
    ∃ outgoing t, Settled (s.acked pubrec.pkid) pubrec.pkid outgoing t ∧
      (handleIncomingPubrec pubrec).run s = .ok (.ok { outgoing, notices :=
        ((s.outgoingPubNotice.lookup pubrec.pkid.toNat).map
          (DeferredNotice.publish · (.qos2PubRecRejected pubrec))).toList }, t) := by
  have held : s.toFlows.Holds pool .publish pubrec.pkid := member
  have nonzero := sound.tracked.ne_zero_of_holds held
  unfold handleIncomingPubrec
  simp only [failed, if_true]
  rw [sound.run_acked member]
  exact (sound.acked member).settleFlow_run nonzero (notMem_acked s pubrec.pkid) _ _

theorem Sound.handleIncomingPubrec_unsolicited {pubrec : PubRec}
    (absent : pubrec.pkid ∉ s.outgoingPubOrder) :
    (handleIncomingPubrec pubrec).run s = .ok (.error (.unsolicited pubrec.pkid), s) :=
  run_bind_error (run_flows (sound.tracked.takePublish_unsolicited absent))

end

/-! ### PUBREC with success -/

/-- A publish received by the broker: its release waits for the PUBCOMP, with quota and notice. -/
def received (s : MqttState) (pkid : PacketId) : MqttState :=
  MqttState.pushEvent (.outgoing (.pubRel pkid))
    { s with
      toFlows := (s.toFlows.withoutPublish pkid).withRelease pkid
        (s.outgoingPubNotice.lookup pkid.toNat) }

theorem Sound.received (sound : s.Sound pool) (member : pkid ∈ s.outgoingPubOrder) :
    (s.received pkid).Sound pool := by
  have held : s.toFlows.Holds pool .publish pkid := member
  refine { sound with
    tracked := (sound.tracked.withoutPublish pkid).withRelease ?_
      (sound.tracked.ledger.reserved _ _ held) (sound.tracked.unheld_withoutPublish member) ?_ _
    sendQuota_owned := ?_
    recovery_sub := ?_ }
  · show pkid.toNat < (s.outgoingPub.write pkid.toNat none).length
    rw [SlotVec.length_write]
    exact sound.tracked.lt_of_mem_pubOrder member
  · intro replayed
    cases sound.tracked.ledger.replay_unheld pkid replayed .publish held
  · intro other quota
    by_cases same : other = pkid
    · exact .inr (List.mem_append_right _ (List.mem_singleton.mpr same))
    · refine (sound.sendQuota_owned other quota).imp (fun stored => ?_) (List.mem_append_left _)
      exact sound.tracked.pubOrder_nodup.mem_erase_iff.mpr ⟨same, stored⟩
  · intro bit recovered
    exact (mem_growAndInsert ..).mpr (.inr (sound.recovery_sub bit recovered))

theorem Sound.handleIncomingPubrec_run (sound : s.Sound pool) {pubrec : PubRec}
    (member : pubrec.pkid ∈ s.outgoingPubOrder) (success : pubrec.reason.code < 0x80) :
    (handleIncomingPubrec pubrec).run s =
      .ok (.ok { outgoing := some (.pubRel { pkid := pubrec.pkid }) }, s.received pubrec.pkid) := by
  have fits : pubrec.pkid.toNat < (s.toFlows.withoutPublish pubrec.pkid).outgoingPub.length := by
    show _ < (s.outgoingPub.write pubrec.pkid.toNat none).length
    rw [SlotVec.length_write]
    exact sound.tracked.lt_of_mem_pubOrder member
  unfold handleIncomingPubrec
  refine (run_bind_ok (run_flows (sound.tracked.takePublish_ok member))).trans ?_
  simp only [Nat.not_le.mpr success, if_false]
  exact run_bind_ok (run_updateFlows
    ((sound.tracked.withoutPublish pubrec.pkid).recordRelease_ok fits _))

/-! ### PUBCOMP -/

/-- The recovery set after the release under an identifier has finished. -/
def recoveryWithout (s : MqttState) (pkid : PacketId) : FixedBitSet :=
  if (s.outgoingRelOrder.erase pkid).isEmpty then .withCapacity 0
  else s.outgoingRelRecovery.remove pkid.toNat

/-- A release completed: its bit, identifier and quota are free. -/
def completed (s : MqttState) (pkid : PacketId) : MqttState :=
  { s with
    toFlows := (s.toFlows.withoutRelease pkid).withReleased pkid
    outgoingRelRecovery := s.recoveryWithout pkid
    outgoingPublishQuota := s.outgoingPublishQuota.released pkid }

theorem mem_recoveryWithout {bit : Nat} (member : bit ∈ s.recoveryWithout pkid) :
    bit ≠ pkid.toNat ∧ bit ∈ s.outgoingRelRecovery := by
  unfold recoveryWithout at member
  split at member
  · cases member
  · exact (mem_remove ..).mp member

theorem Sound.completed (sound : s.Sound pool) (member : pkid ∈ s.outgoingRelOrder) :
    (s.completed pkid).Sound pool := by
  have held : s.toFlows.Holds pool .release pkid := member
  refine { sound with
    tracked := (sound.tracked.withoutRelease pkid).withReleased
      (sound.tracked.ledger.reserved _ _ held) (sound.tracked.unheld_withoutRelease member) ?_
    sendQuota := sound.sendQuota.released pkid
    sendQuota_owned := ?_
    recovery_sub := ?_ }
  · intro replayed
    cases sound.tracked.ledger.replay_unheld pkid replayed .release held
  · intro other member
    obtain ⟨different, quota⟩ := Quota.mem_released.mp member
    refine (sound.sendQuota_owned other quota).imp id (fun active => ?_)
    exact sound.tracked.relOrder_nodup.mem_erase_iff.mpr ⟨fun same => different (same ▸ rfl), active⟩
  · intro bit recovered
    obtain ⟨different, old⟩ := mem_recoveryWithout recovered
    exact (mem_remove ..).mpr ⟨different, sound.recovery_sub bit old⟩

theorem notMem_completed (s : MqttState) (pkid : PacketId) :
    pkid.toNat ∉ (s.completed pkid).outboundPkidInUse := fun member =>
  ((mem_remove ..).mp member).1 rfl

/-- The state that `forgetRecovery` leaves. -/
def recoveryForgotten (s : MqttState) (pkid : PacketId) : MqttState :=
  { s with
    outgoingRelRecovery := if s.outgoingRelOrder.isEmpty then .withCapacity 0
      else s.outgoingRelRecovery.remove pkid.toNat }

theorem forgetRecovery_run (t : MqttState) (pkid : PacketId) :
    (forgetRecovery pkid).run t = .ok (.ok (t.outgoingRelRecovery.contains pkid.toNat),
      t.recoveryForgotten pkid) := by
  unfold forgetRecovery recoveryForgotten
  by_cases recovered : pkid.toNat ∈ t.outgoingRelRecovery
  · have cleared := set_false_ok (lt_length recovered)
    simp only [run_get_bind, contains_eq_true.mpr recovered, if_true]
    refine (run_bind_ok (run_ofChecked cleared t)).trans ?_
    by_cases last : t.outgoingRelOrder = [] <;> simp [last]
  · have still := remove_of_notMem recovered
    by_cases last : t.outgoingRelOrder = [] <;> simp [last, recovered, still]

theorem Sound.handleIncomingPubcomp_run (sound : s.Sound pool) {pubcomp : PubComp}
    (member : pubcomp.pkid ∈ s.outgoingRelOrder) :
    ∃ outgoing t, Settled (s.completed pubcomp.pkid) pubcomp.pkid outgoing t ∧
      (handleIncomingPubcomp pubcomp).run s = .ok (.ok { outgoing, notices :=
        ((s.outgoingRelNotice.lookup pubcomp.pkid.toNat).map (DeferredNotice.publish ·
          (pubcompResult (s.outgoingRelRecovery.contains pubcomp.pkid.toNat) pubcomp))).toList },
        t) := by
  have held : s.toFlows.Holds pool .release pubcomp.pkid := member
  have nonzero := sound.tracked.ne_zero_of_holds held
  have without := sound.tracked.withoutRelease pubcomp.pkid
  obtain ⟨outgoing, t, ends, ran⟩ := (sound.completed member).settleFlow_run nonzero
    (notMem_completed s pubcomp.pkid) (s.outgoingRelNotice.lookup pubcomp.pkid.toNat)
    (pubcompResult (s.outgoingRelRecovery.contains pubcomp.pkid.toNat) pubcomp)
  refine ⟨outgoing, t, ends, ?_⟩
  unfold handleIncomingPubcomp
  refine (run_bind_ok (run_flows (sound.tracked.takeRelease_ok member))).trans ?_
  refine (run_bind_ok (forgetRecovery_run _ pubcomp.pkid)).trans ?_
  refine (run_bind_ok (run_updateFlows
    (without.release_ok (sound.tracked.ledger.reserved _ _ held)))).trans ?_
  refine (run_bind_ok (run_releaseQuota ?valid pubcomp.pkid)).trans ran
  case valid => exact sound.sendQuota

theorem Sound.handleIncomingPubcomp_unsolicited (sound : s.Sound pool) {pubcomp : PubComp}
    (absent : pubcomp.pkid ∉ s.outgoingRelOrder) :
    (handleIncomingPubcomp pubcomp).run s = .ok (.error (.unsolicited pubcomp.pkid), s) :=
  run_bind_error (run_flows (sound.tracked.takeRelease_unsolicited absent))

/-! ### SUBACK and UNSUBACK -/

/-- A subscribe answered: its entry and its identifier are free. -/
def subscribed (s : MqttState) (pkid : PacketId) : MqttState :=
  s.putFlows (Flows.withReleased
    { s.toFlows with pendingSubscribe := s.pendingSubscribe.erase pkid } pkid)

/-- An unsubscribe answered: its entry and its identifier are free. -/
def unsubscribed (s : MqttState) (pkid : PacketId) : MqttState :=
  s.putFlows (Flows.withReleased
    { s.toFlows with pendingUnsubscribe := s.pendingUnsubscribe.erase pkid } pkid)

section

variable (sound : s.Sound pool)
include sound

theorem Sound.subscribed (member : pkid ∈ s.pendingSubscribe) :
    (s.subscribed pkid).Sound pool := by
  have held : s.toFlows.Holds pool .subscribe pkid := member
  refine { sound with
    tracked := (sound.tracked.eraseSubscribe pkid).withReleased
      (sound.tracked.ledger.reserved _ _ held) ?_ ?_ }
  · exact sound.tracked.unheld_eraseSubscribe member
  · intro replayed
    cases sound.tracked.ledger.replay_unheld pkid replayed .subscribe held

theorem Sound.unsubscribed (member : pkid ∈ s.pendingUnsubscribe) :
    (s.unsubscribed pkid).Sound pool := by
  have held : s.toFlows.Holds pool .unsubscribe pkid := member
  refine { sound with
    tracked := (sound.tracked.eraseUnsubscribe pkid).withReleased
      (sound.tracked.ledger.reserved _ _ held) ?_ ?_ }
  · exact sound.tracked.unheld_eraseUnsubscribe member
  · intro replayed
    cases sound.tracked.ledger.replay_unheld pkid replayed .unsubscribe held

/-- **A SUBACK answers a pending subscribe, or is rejected with the state unchanged.** -/
theorem Sound.handleIncomingSuback_cases (suback : SubAck) :
    (∃ error, (handleIncomingSuback suback).run s = .ok (.error error, s)) ∨
      suback.pkid ∈ s.pendingSubscribe ∧ ∃ notices, (handleIncomingSuback suback).run s =
        .ok (.ok { notices }, s.subscribed suback.pkid) := by
  unfold handleIncomingSuback
  simp only [run_get_bind]
  cases found : s.pendingSubscribe[suback.pkid]? with
  | none => exact .inl ⟨_, rfl⟩
  | some pending =>
    have member : suback.pkid ∈ s.pendingSubscribe := by
      rw [Std.TreeMap.mem_iff_isSome_getElem?, found]
      rfl
    have held : s.toFlows.Holds pool .subscribe suback.pkid := member
    by_cases mismatch : suback.returnCodes.length ≠ pending.subscribe.filters.length
    · left
      simp [mismatch]
    · right
      refine ⟨member, (pending.notice.map (DeferredNotice.subscribe · suback)).toList, ?_⟩
      simp only [mismatch, if_false, run_modify_bind]
      exact run_bind_ok (run_updateFlows ((sound.tracked.eraseSubscribe suback.pkid).release_ok
          (sound.tracked.ledger.reserved _ _ held)))

/-- **An UNSUBACK answers a pending unsubscribe, or is rejected with the state unchanged.** -/
theorem Sound.handleIncomingUnsuback_cases (unsuback : UnsubAck) :
    (∃ error, (handleIncomingUnsuback unsuback).run s = .ok (.error error, s)) ∨
      unsuback.pkid ∈ s.pendingUnsubscribe ∧ ∃ notices, (handleIncomingUnsuback unsuback).run s =
        .ok (.ok { notices }, s.unsubscribed unsuback.pkid) := by
  unfold handleIncomingUnsuback
  simp only [run_get_bind]
  cases found : s.pendingUnsubscribe[unsuback.pkid]? with
  | none => exact .inl ⟨_, rfl⟩
  | some pending =>
    have member : unsuback.pkid ∈ s.pendingUnsubscribe := by
      rw [Std.TreeMap.mem_iff_isSome_getElem?, found]
      rfl
    have held : s.toFlows.Holds pool .unsubscribe unsuback.pkid := member
    by_cases mismatch : unsuback.reasons.length ≠ pending.unsubscribe.filters.length
    · left
      simp [mismatch]
    · right
      refine ⟨member, (pending.notice.map (DeferredNotice.unsubscribe · unsuback)).toList, ?_⟩
      simp only [mismatch, if_false, run_modify_bind]
      exact run_bind_ok (run_updateFlows ((sound.tracked.eraseUnsubscribe unsuback.pkid).release_ok
          (sound.tracked.ledger.reserved _ _ held)))

end

end Rumqtt.V5.MqttState
