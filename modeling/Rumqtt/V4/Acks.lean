/-
**The invariant of the MQTT 3.1.1 state machine, and acknowledgements of outbound flows.**

`Sound s pool` joins the tracking invariant of the outbound flows with what MQTT 3.1.1 adds: the window
counter counts the stored publishes and the active releases and stays within the window, and the bit
sets over incoming publishes span all packet identifiers.

For each of PUBACK, PUBREC, PUBCOMP, SUBACK and UNSUBACK: the state after the packet is accepted
(`acked`, `received`, `completed`, …), a lemma that the handler reaches it, a lemma that any other such
packet is rejected with the state unchanged, and a lemma that the new state is sound.
-/

import Rumqtt.Flows.Cleanup
import Rumqtt.V4.Incoming

namespace Rumqtt.V4.MqttState

open Handler List

/-- **The invariant**, relative to the requests still to be replayed. -/
structure Sound (s : MqttState) (pool : List Request) : Prop where
  tracked : s.toFlows.Tracked pool
  window : s.inflight = s.outgoingPubOrder.length + s.outgoingRelOrder.length
  bounded : s.inflight ≤ s.maxInflight.toNat
  pubackLength : s.incomingPuback.length = fullPacketIdentifierLen
  pubLength : s.incomingPub.length = fullPacketIdentifierLen
  pubrecLength : s.incomingPubrec.length = fullPacketIdentifierLen

theorem sound_new (maxInflight : UInt16) (ackMode : AckMode) :
    (newInternal maxInflight ackMode).Sound [] where
  tracked := Flows.tracked_new maxInflight.toNat
  window := rfl
  bounded := Nat.zero_le _
  pubackLength := rfl
  pubLength := rfl
  pubrecLength := rfl

variable {s : MqttState} {pool : List Request} {pkid : PacketId}

theorem Sound.pushEvent (sound : s.Sound pool) (event : Event) : (s.pushEvent event).Sound pool :=
  { sound with }

/-! ### Running components -/

theorem run_flows {α : Type} {method : Handler StateError (Flows dialect) α}
    {result : Except StateError α} {f : Flows dialect} (ran : method s.toFlows = .ok (result, f)) :
    (flows method).run s = .ok (result, s.putFlows f) := run_zoom ran

theorem run_updateFlows {update : Flows dialect → Checked (Flows dialect)} {f : Flows dialect}
    (ran : update s.toFlows = .ok f) : (updateFlows update).run s = .ok (.ok (), s.putFlows f) :=
  run_zoomChecked ran

theorem run_incrementInflight (room : s.inflight < s.maxInflight.toNat) :
    incrementInflight.run s = .ok (.ok (), s.putInflight (s.inflight + 1)) := by
  refine run_zoomChecked (Checked.add_ok ?_)
  have limit := s.maxInflight.toNat_lt
  show s.inflight + 1 ≤ 65535
  omega

theorem run_decrementInflight (counted : 1 ≤ s.inflight) :
    decrementInflight.run s = .ok (.ok (), s.putInflight (s.inflight - 1)) :=
  run_zoomChecked (Checked.sub_ok counted)

/-! ### The window -/

theorem Sound.counted_of_publish (sound : s.Sound pool) (member : pkid ∈ s.outgoingPubOrder) :
    1 ≤ s.inflight := by
  have stored := length_pos_of_mem member
  rw [sound.window]
  omega

theorem Sound.counted_of_release (sound : s.Sound pool) (member : pkid ∈ s.outgoingRelOrder) :
    1 ≤ s.inflight := by
  have active := length_pos_of_mem member
  rw [sound.window]
  omega

theorem Sound.maybeShrink (sound : s.Sound pool) :
    s.maybeShrinkOutgoingTrackingCapacity.Sound pool := by
  unfold maybeShrinkOutgoingTrackingCapacity
  dsimp only
  split
  · exact sound
  · rename_i large
    rw [not_or, Bool.not_eq_false] at large
    obtain ⟨longer, drained⟩ := large
    simp only [outboundRequestsDrained, Bool.and_eq_true, beq_iff_eq] at drained
    obtain ⟨idle, drained⟩ := drained
    have empty : s.outgoingPubOrder.length + s.outgoingRelOrder.length = 0 := sound.window ▸ idle
    refine { sound with tracked := sound.tracked.shrinkTo drained (by omega), window := ?_ }
    show s.inflight = s.outgoingPubOrder.length + 0
    omega

/-! ### The parked publish -/

/-- The state after the parked publish has been sent. -/
def unparked (s : MqttState) (publish : Publish) : MqttState :=
  MqttState.pushEvent (.outgoing (.publish publish.pkid))
    { s with
      toFlows := (s.toFlows.unparking publish.pkid).withPublish publish s.collisionNotice
      inflight := s.inflight + 1
      ping := s.ping.resetCollisionCount }

theorem replayCollisionPublish_none
    (other : ∀ publish, s.collision = some publish → publish.pkid ≠ pkid) :
    (replayCollisionPublish pkid).run s = .ok (.ok none, s) := by
  have nothing : s.toFlows.checkCollision pkid = (none, s.toFlows) := by
    unfold Flows.checkCollision
    split
    · rename_i publish parked
      rw [if_neg (other publish parked)]
    · rfl
  simp [replayCollisionPublish, nothing]

section Unpark

variable {publish : Publish}

section

variable (sound : s.Sound pool) (parked : s.collision = some publish) (nonzero : publish.pkid ≠ 0)
include nonzero parked sound

theorem Sound.unparked (free : publish.pkid.toNat ∉ s.outboundPkidInUse)
    (room : s.inflight < s.maxInflight.toNat) : (s.unparked publish).Sound pool := by
  refine { sound with
    tracked := (sound.tracked.unparking nonzero free).withPublish
      (Flows.Tracked.lt_length_unparking s.toFlows publish.pkid) ?_
      (sound.tracked.unheld_of_free free) (sound.tracked.notMem_relReplayOrder_of_free free)
      (sound.tracked.parked publish parked) _
    window := ?_
    bounded := room }
  · exact (FixedBitSet.mem_growAndInsert ..).mpr (.inl rfl)
  · show s.inflight + 1 = (s.outgoingPubOrder ++ [publish.pkid]).length + s.outgoingRelOrder.length
    rw [length_append, length_singleton, sound.window]
    omega

theorem Sound.replayCollisionPublish_some (free : publish.pkid.toNat ∉ s.outboundPkidInUse)
    (room : s.inflight < s.maxInflight.toNat) :
    (replayCollisionPublish publish.pkid).run s =
      .ok (.ok (some (.publish publish)), s.unparked publish) := by
  have waiting : s.toFlows.checkCollision publish.pkid =
      (some (publish, s.collisionNotice), s.toFlows.withoutCollision) := by
    simp [Flows.checkCollision, parked]
  have grown := sound.tracked.withoutCollision.ensureCapacity publish.pkid.toNat_lt
  have ready := sound.tracked.unparking nonzero free
  have fits := Flows.Tracked.lt_length_unparking s.toFlows publish.pkid
  unfold replayCollisionPublish
  simp only [run_get_bind, waiting, run_modify_bind]
  refine (run_bind_ok (run_updateFlows (grown.reserveReleased_ok nonzero free))).trans ?_
  refine (run_bind_ok (run_updateFlows (ready.trackPublish_ok fits _))).trans ?_
  refine (run_bind_ok (run_incrementInflight ?room)).trans rfl
  exact room

end

end Unpark

/-! ### The end of a flow -/

/-- What the end of the flow under an identifier leads to: the parked publish it was waiting for is
sent, or nothing is and the tracking may shrink. -/
inductive Settled (s : MqttState) (pkid : PacketId) : Option Packet → MqttState → Prop where
  | unparked (publish : Publish) (parked : s.collision = some publish) (same : publish.pkid = pkid) :
    Settled s pkid (some (.publish publish)) (s.unparked publish)
  | quiet (other : ∀ publish, s.collision = some publish → publish.pkid ≠ pkid) :
    Settled s pkid none s.maybeShrinkOutgoingTrackingCapacity

section

variable (sound : s.Sound pool) (nonzero : pkid ≠ 0) (free : pkid.toNat ∉ s.outboundPkidInUse)
include free nonzero sound

theorem Sound.settled (room : s.inflight < s.maxInflight.toNat)
    {outgoing : Option Packet} {t : MqttState} (settled : Settled s pkid outgoing t) :
    t.Sound pool := by
  cases settled with
  | unparked publish parked same =>
    subst same
    exact sound.unparked parked nonzero free room
  | quiet => exact sound.maybeShrink

theorem Sound.settleFlow_run (room : s.inflight < s.maxInflight.toNat)
    (notice : Option NoticeId) (result : PublishResult) :
    ∃ outgoing t, Settled s pkid outgoing t ∧ (settleFlow pkid notice result).run s = .ok (.ok
        { outgoing, notices := (notice.map (DeferredNotice.publish · result)).toList }, t) := by
  by_cases waits : ∃ publish, s.collision = some publish ∧ publish.pkid = pkid
  · obtain ⟨publish, parked, rfl⟩ := waits
    refine ⟨_, _, .unparked publish parked rfl, ?_⟩
    exact run_bind_ok (sound.replayCollisionPublish_some parked nonzero free room)
  · have other : ∀ publish, s.collision = some publish → publish.pkid ≠ pkid :=
      fun publish parked same => waits ⟨publish, parked, same⟩
    refine ⟨_, _, .quiet other, ?_⟩
    exact run_bind_ok (replayCollisionPublish_none other)

end

/-! ### PUBACK -/

/-- A publish acknowledged for good: its slot, identifier and place in the window are free. -/
def acked (s : MqttState) (pkid : PacketId) : MqttState :=
  { s with
    toFlows := (s.toFlows.withoutPublish pkid).withReleased pkid
    inflight := s.inflight - 1 }

theorem Sound.acked (sound : s.Sound pool) (member : pkid ∈ s.outgoingPubOrder) :
    (s.acked pkid).Sound pool := by
  have held : s.toFlows.Holds pool .publish pkid := member
  refine { sound with
    tracked := (sound.tracked.withoutPublish pkid).withReleased
      (sound.tracked.ledger.reserved _ _ held) (sound.tracked.unheld_withoutPublish member) ?_
    window := ?_
    bounded := (Nat.sub_le ..).trans sound.bounded }
  · intro replayed
    cases sound.tracked.ledger.replay_unheld pkid replayed .publish held
  · have stored := length_pos_of_mem member
    show s.inflight - 1 = (s.outgoingPubOrder.erase pkid).length + s.outgoingRelOrder.length
    rw [length_erase_of_mem member, sound.window]
    omega

theorem Sound.room_acked (sound : s.Sound pool) (member : pkid ∈ s.outgoingPubOrder) :
    (s.acked pkid).inflight < (s.acked pkid).maxInflight.toNat := by
  have counted := sound.counted_of_publish member
  have bounded := sound.bounded
  show s.inflight - 1 < s.maxInflight.toNat
  omega

theorem notMem_acked (s : MqttState) (pkid : PacketId) :
    pkid.toNat ∉ (s.acked pkid).outboundPkidInUse := fun member =>
  ((FixedBitSet.mem_remove ..).mp member).1 rfl

theorem Sound.handleIncomingPuback_run (sound : s.Sound pool) {puback : PubAck}
    (member : puback.pkid ∈ s.outgoingPubOrder) :
    ∃ outgoing t, Settled (s.acked puback.pkid) puback.pkid outgoing t ∧
      (handleIncomingPuback puback).run s = .ok (.ok { outgoing, notices :=
        ((s.outgoingPubNotice.lookup puback.pkid.toNat).map
          (DeferredNotice.publish · (.qos1 puback))).toList }, t) := by
  have held : s.toFlows.Holds pool .publish puback.pkid := member
  have without := sound.tracked.withoutPublish puback.pkid
  have counted := sound.counted_of_publish member
  obtain ⟨outgoing, t, ends, ran⟩ := (sound.acked member).settleFlow_run
    (sound.tracked.ne_zero_of_holds held) (notMem_acked s puback.pkid) (sound.room_acked member)
    (s.outgoingPubNotice.lookup puback.pkid.toNat) (.qos1 puback)
  refine ⟨outgoing, t, ends, ?_⟩
  unfold handleIncomingPuback
  refine (run_bind_ok (run_flows (sound.tracked.takePublish_ok member))).trans ?_
  refine (run_bind_ok (run_updateFlows
    (without.release_ok (sound.tracked.ledger.reserved _ _ held)))).trans ?_
  refine (run_bind_ok (run_decrementInflight ?counted)).trans ran
  exact counted

theorem Sound.handleIncomingPuback_unsolicited (sound : s.Sound pool) {puback : PubAck}
    (absent : puback.pkid ∉ s.outgoingPubOrder) :
    (handleIncomingPuback puback).run s = .ok (.error (.unsolicited puback.pkid), s) :=
  run_bind_error (run_flows (sound.tracked.takePublish_unsolicited absent))

/-! ### PUBREC -/

/-- A publish received by the broker: its release waits for the PUBCOMP, with its notice. -/
def received (s : MqttState) (pkid : PacketId) : MqttState :=
  MqttState.pushEvent (.outgoing (.pubRel pkid))
    { s with
      toFlows := (s.toFlows.withoutPublish pkid).withRelease pkid
        (s.outgoingPubNotice.lookup pkid.toNat) }

section

variable (sound : s.Sound pool)
include sound

theorem Sound.fits_withoutPublish (member : pkid ∈ s.outgoingPubOrder) :
    pkid.toNat < (s.toFlows.withoutPublish pkid).outgoingPub.length := by
  show pkid.toNat < (s.outgoingPub.write pkid.toNat none).length
  rw [SlotVec.length_write]
  exact sound.tracked.lt_of_mem_pubOrder member

theorem Sound.received (member : pkid ∈ s.outgoingPubOrder) :
    (s.received pkid).Sound pool := by
  have held : s.toFlows.Holds pool .publish pkid := member
  refine { sound with
    tracked := (sound.tracked.withoutPublish pkid).withRelease (sound.fits_withoutPublish member)
      (sound.tracked.ledger.reserved _ _ held) (sound.tracked.unheld_withoutPublish member) ?_ _
    window := ?_ }
  · intro replayed
    cases sound.tracked.ledger.replay_unheld pkid replayed .publish held
  · have stored := length_pos_of_mem member
    show s.inflight = (s.outgoingPubOrder.erase pkid).length + (s.outgoingRelOrder ++ [pkid]).length
    rw [length_erase_of_mem member, length_append, length_singleton, sound.window]
    omega

theorem Sound.handleIncomingPubrec_run {pubrec : PubRec}
    (member : pubrec.pkid ∈ s.outgoingPubOrder) :
    (handleIncomingPubrec pubrec).run s = .ok (.ok { outgoing := some (.pubRel { pkid := pubrec.pkid }) }, s.received pubrec.pkid) := by
  unfold handleIncomingPubrec
  refine (run_bind_ok (run_flows (sound.tracked.takePublish_ok member))).trans ?_
  exact run_bind_ok (run_updateFlows
    ((sound.tracked.withoutPublish pubrec.pkid).recordRelease_ok (sound.fits_withoutPublish member) _))

theorem Sound.handleIncomingPubrec_unsolicited {pubrec : PubRec}
    (absent : pubrec.pkid ∉ s.outgoingPubOrder) :
    (handleIncomingPubrec pubrec).run s = .ok (.error (.unsolicited pubrec.pkid), s) :=
  run_bind_error (run_flows (sound.tracked.takePublish_unsolicited absent))

end

/-! ### PUBCOMP -/

/-- A release completed: its bit, identifier and place in the window are free. -/
def completed (s : MqttState) (pkid : PacketId) : MqttState :=
  { s with
    toFlows := (s.toFlows.withoutRelease pkid).withReleased pkid
    inflight := s.inflight - 1 }

theorem Sound.completed (sound : s.Sound pool) (member : pkid ∈ s.outgoingRelOrder) :
    (s.completed pkid).Sound pool := by
  have held : s.toFlows.Holds pool .release pkid := member
  refine { sound with
    tracked := (sound.tracked.withoutRelease pkid).withReleased
      (sound.tracked.ledger.reserved _ _ held) (sound.tracked.unheld_withoutRelease member) ?_
    window := ?_
    bounded := (Nat.sub_le ..).trans sound.bounded }
  · intro replayed
    cases sound.tracked.ledger.replay_unheld pkid replayed .release held
  · have active := length_pos_of_mem member
    show s.inflight - 1 = s.outgoingPubOrder.length + (s.outgoingRelOrder.erase pkid).length
    rw [length_erase_of_mem member, sound.window]
    omega

theorem Sound.room_completed (sound : s.Sound pool) (member : pkid ∈ s.outgoingRelOrder) :
    (s.completed pkid).inflight < (s.completed pkid).maxInflight.toNat := by
  have counted := sound.counted_of_release member
  have bounded := sound.bounded
  show s.inflight - 1 < s.maxInflight.toNat
  omega

theorem notMem_completed (s : MqttState) (pkid : PacketId) :
    pkid.toNat ∉ (s.completed pkid).outboundPkidInUse := fun member =>
  ((FixedBitSet.mem_remove ..).mp member).1 rfl

theorem Sound.handleIncomingPubcomp_run (sound : s.Sound pool) {pubcomp : PubComp}
    (member : pubcomp.pkid ∈ s.outgoingRelOrder) :
    ∃ outgoing t, Settled (s.completed pubcomp.pkid) pubcomp.pkid outgoing t ∧
      (handleIncomingPubcomp pubcomp).run s = .ok (.ok { outgoing, notices :=
        ((s.outgoingRelNotice.lookup pubcomp.pkid.toNat).map
          (DeferredNotice.publish · (.qos2Completed pubcomp))).toList }, t) := by
  have held : s.toFlows.Holds pool .release pubcomp.pkid := member
  have without := sound.tracked.withoutRelease pubcomp.pkid
  have counted := sound.counted_of_release member
  obtain ⟨outgoing, t, ends, ran⟩ := (sound.completed member).settleFlow_run
    (sound.tracked.ne_zero_of_holds held) (notMem_completed s pubcomp.pkid)
    (sound.room_completed member) (s.outgoingRelNotice.lookup pubcomp.pkid.toNat)
    (.qos2Completed pubcomp)
  refine ⟨outgoing, t, ends, ?_⟩
  unfold handleIncomingPubcomp
  refine (run_bind_ok (run_flows (sound.tracked.takeRelease_ok member))).trans ?_
  refine (run_bind_ok (run_updateFlows
    (without.release_ok (sound.tracked.ledger.reserved _ _ held)))).trans ?_
  refine (run_bind_ok (run_decrementInflight ?counted)).trans ran
  exact counted

theorem Sound.handleIncomingPubcomp_unsolicited (sound : s.Sound pool) {pubcomp : PubComp}
    (absent : pubcomp.pkid ∉ s.outgoingRelOrder) :
    (handleIncomingPubcomp pubcomp).run s = .ok (.error (.unsolicited pubcomp.pkid), s) :=
  run_bind_error (run_flows (sound.tracked.takeRelease_unsolicited absent))

/-! ### SUBACK and UNSUBACK -/

/-- A subscribe answered: its entry and its identifier are free. -/
def subscribed (s : MqttState) (pkid : PacketId) : MqttState :=
  s.putFlows (Flows.withReleased
    { s.toFlows with pendingSubscribe := s.pendingSubscribe.erase pkid } pkid)

/-- An unsubscribe answered: its entry and its identifier are free. -/
def unsubscribed (s : MqttState) (pkid : PacketId) : MqttState :=
  s.putFlows (Flows.withReleased
    { s.toFlows with pendingUnsubscribe := s.pendingUnsubscribe.erase pkid } pkid)

section

variable (sound : s.Sound pool)
include sound

theorem Sound.subscribed (member : pkid ∈ s.pendingSubscribe) :
    (s.subscribed pkid).Sound pool := by
  have held : s.toFlows.Holds pool .subscribe pkid := member
  refine { sound with
    tracked := (sound.tracked.eraseSubscribe pkid).withReleased
      (sound.tracked.ledger.reserved _ _ held) (sound.tracked.unheld_eraseSubscribe member) ?_ }
  intro replayed
  cases sound.tracked.ledger.replay_unheld pkid replayed .subscribe held

theorem Sound.unsubscribed (member : pkid ∈ s.pendingUnsubscribe) :
    (s.unsubscribed pkid).Sound pool := by
  have held : s.toFlows.Holds pool .unsubscribe pkid := member
  refine { sound with
    tracked := (sound.tracked.eraseUnsubscribe pkid).withReleased
      (sound.tracked.ledger.reserved _ _ held) (sound.tracked.unheld_eraseUnsubscribe member) ?_ }
  intro replayed
  cases sound.tracked.ledger.replay_unheld pkid replayed .unsubscribe held

/-- **A SUBACK answers a pending subscribe, or is rejected with the state unchanged.** -/
theorem Sound.handleIncomingSuback_cases (suback : SubAck) :
    (∃ error, (handleIncomingSuback suback).run s = .ok (.error error, s)) ∨
      suback.pkid ∈ s.pendingSubscribe ∧ ∃ notices, (handleIncomingSuback suback).run s =
        .ok (.ok { notices }, s.subscribed suback.pkid) := by
  unfold handleIncomingSuback
  simp only [run_get_bind]
  cases found : s.pendingSubscribe[suback.pkid]? with
  | none => exact .inl ⟨_, rfl⟩
  | some pending =>
    have member : suback.pkid ∈ s.pendingSubscribe := by
      rw [Std.TreeMap.mem_iff_isSome_getElem?, found]
      rfl
    have held : s.toFlows.Holds pool .subscribe suback.pkid := member
    by_cases mismatch : pending.subscribe.filters.length ≠ suback.returnCodes.length
    · left
      simp [mismatch]
    · right
      refine ⟨member, (pending.notice.map (DeferredNotice.subscribe · suback)).toList, ?_⟩
      simp only [mismatch, if_false, run_modify_bind]
      exact run_bind_ok (run_updateFlows ((sound.tracked.eraseSubscribe suback.pkid).release_ok
          (sound.tracked.ledger.reserved _ _ held)))

/-- **An UNSUBACK answers a pending unsubscribe, or is rejected with the state unchanged.** -/
theorem Sound.handleIncomingUnsuback_cases (unsuback : UnsubAck) :
    (∃ error, (handleIncomingUnsuback unsuback).run s = .ok (.error error, s)) ∨
      unsuback.pkid ∈ s.pendingUnsubscribe ∧ ∃ notices, (handleIncomingUnsuback unsuback).run s =
        .ok (.ok { notices }, s.unsubscribed unsuback.pkid) := by
  unfold handleIncomingUnsuback
  simp only [run_get_bind]
  cases found : s.pendingUnsubscribe[unsuback.pkid]? with
  | none => exact .inl ⟨_, rfl⟩
  | some pending =>
    have member : unsuback.pkid ∈ s.pendingUnsubscribe := by
      rw [Std.TreeMap.mem_iff_isSome_getElem?, found]
      rfl
    have held : s.toFlows.Holds pool .unsubscribe unsuback.pkid := member
    right
    refine ⟨member, (pending.notice.map (DeferredNotice.unsubscribe · unsuback)).toList, ?_⟩
    exact run_bind_ok (run_updateFlows ((sound.tracked.eraseUnsubscribe unsuback.pkid).release_ok
        (sound.tracked.ledger.reserved _ _ held)))

end

end Rumqtt.V4.MqttState
