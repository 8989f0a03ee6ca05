/-
**Sending publishes, releases and control requests, MQTT 3.1.1.**

The states that the parts of an outgoing request lead to (`numbered`, `withRoom`, `reserving`,
`published`, `resuming`, …), lemmas that the methods reach them, and lemmas that they are sound.
-/

import Rumqtt.V4.Dispatch

namespace Rumqtt.V4.MqttState

open Handler FixedBitSet

variable {s t : MqttState} {pool rest : List Request} {pkid : PacketId}

/-! ### Publishes -/

section

variable (s : MqttState) (pkid : PacketId)

/-- The search for identifiers goes on after this one. -/
def numbered : MqttState :=
  s.putFlows { s.toFlows with lastPkid := pkid }

def withRoom : MqttState := s.putFlows (s.toFlows.ensureOutgoingTrackingCapacity (pkid.toNat + 1))

def reserving : MqttState := s.putFlows (s.toFlows.withReserved pkid)

end

section

variable (s : MqttState) (publish : Publish) (notice : Option NoticeId)

/-- A publish stored, with its place in the window. -/
def storing : MqttState :=
  { s with toFlows := s.toFlows.withPublish publish notice, inflight := s.inflight + 1 }

/-- A publish stored and handed to the network. -/
def published : MqttState :=
  MqttState.pushEvent (.outgoing (.publish publish.pkid)) (s.storing publish notice)

/-- A publish parked until the flow that owns its identifier completes. -/
def parking : MqttState :=
  MqttState.pushEvent (.outgoing (.awaitAck publish.pkid))
    { s with collision := some publish, collisionNotice := notice }

end

theorem Sound.numbered (sound : s.Sound pool) (pkid : PacketId) : (s.numbered pkid).Sound pool :=
  { sound with tracked := sound.tracked.setLastPkid pkid }

theorem Sound.withRoom (sound : s.Sound pool) (pkid : PacketId) : (s.withRoom pkid).Sound pool :=
  { sound with tracked := sound.tracked.ensureCapacity pkid.toNat_lt }

theorem lt_length_withRoom (s : MqttState) (pkid : PacketId) :
    pkid.toNat < (s.withRoom pkid).outgoingPub.length := by
  show _ < (s.toFlows.ensureOutgoingTrackingCapacity _).outgoingPub.length
  rw [Flows.Tracked.length_ensureCapacity]
  omega

theorem Sound.reserving (sound : s.Sound pool) (nonzero : pkid ≠ 0)
    (free : pkid.toNat ∉ s.outboundPkidInUse) : (s.reserving pkid).Sound pool :=
  { sound with tracked := sound.tracked.withReserved nonzero free }

theorem Sound.published (sound : s.Sound pool) {publish : Publish}
    (fits : publish.pkid.toNat < s.outgoingPub.length)
    (inUse : publish.pkid.toNat ∈ s.outboundPkidInUse) (unheld : s.toFlows.Unheld pool publish.pkid)
    (notReplay : publish.pkid ∉ s.outgoingRelReplayOrder) (acked : publish.qos ≠ .atMostOnce)
    (room : s.inflight < s.maxInflight.toNat) (notice : Option NoticeId) :
    (s.published publish notice).Sound pool := by
  refine { sound with
    tracked := sound.tracked.withPublish fits inUse unheld notReplay acked notice
    window := ?_
    bounded := room }
  show s.inflight + 1 = (s.outgoingPubOrder ++ [publish.pkid]).length + s.outgoingRelOrder.length
  rw [List.length_append, List.length_singleton, sound.window]
  omega

theorem Sound.parking (sound : s.Sound pool) {publish : Publish} (acked : publish.qos ≠ .atMostOnce)
    (notice : Option NoticeId) : (s.parking publish notice).Sound pool :=
  { sound with tracked := sound.tracked.setCollision acked notice }

section Track

variable {publish : Publish} {notice : Option NoticeId}

theorem Sound.track_run (sound : s.Sound pool) (fits : publish.pkid.toNat < s.outgoingPub.length)
    (room : s.inflight < s.maxInflight.toNat) (notice : Option NoticeId) :
    (do
      updateFlows (·.trackPublish publish notice)
      incrementInflight
      return true : Method Bool).run s = .ok (.ok true, s.storing publish notice) := by
  refine (run_bind_ok (run_updateFlows (sound.tracked.trackPublish_ok fits notice))).trans ?_
  refine (run_bind_ok (run_incrementInflight ?room)).trans rfl
  exact room

theorem Sound.lookup_withRoom (sound : s.Sound pool) (pkid : PacketId) :
    (s.withRoom pkid).outgoingPub.get? pkid.toNat = some none ↔ pkid ∉ s.outgoingPubOrder := by
  have roomy := (sound.withRoom pkid).tracked
  rw [SlotVec.get?_of_lt (lt_length_withRoom s pkid), Option.some_inj]
  have member : pkid ∈ s.outgoingPubOrder ↔
      ((s.withRoom pkid).outgoingPub.lookup pkid.toNat).isSome := roomy.mem_pubOrder pkid
  rw [member, Bool.not_eq_true, Option.isSome_eq_false_iff, Option.isNone_iff_eq_none]

theorem Sound.heldByOtherFlow_iff (sound : s.Sound pool) (pkid : PacketId) :
    s.toFlows.heldByOtherFlow pkid = true ↔ pkid ∈ s.outgoingRelOrder ∨
      pkid ∈ s.outgoingRelReplayOrder ∨ pkid ∈ s.pendingSubscribe ∨ pkid ∈ s.pendingUnsubscribe := by
  simp [Flows.heldByOtherFlow, sound.tracked.mem_relOrder, sound.tracked.mem_relReplayOrder,
    or_assoc]

theorem validateOutgoingPkid_ok (nonzero : pkid ≠ 0) : validateOutgoingPkid pkid = .ok () :=
  if_neg nonzero

section

variable (sound : s.Sound pool) (nonzero : publish.pkid ≠ 0)
include nonzero sound

theorem Sound.track_parked (occupied : publish.pkid ∈ s.outgoingPubOrder) (replay : Bool) :
    (trackOutgoingPublish publish notice replay).run s =
      .ok (.ok false, (s.withRoom publish.pkid).parking publish notice) := by
  have slot := SlotVec.get?_of_lt (lt_length_withRoom s publish.pkid)
  have stored : ((s.withRoom publish.pkid).outgoingPub.lookup publish.pkid.toNat).isSome :=
    ((sound.withRoom publish.pkid).tracked.mem_pubOrder publish.pkid).mp occupied
  obtain ⟨owner, found⟩ := Option.isSome_iff_exists.mp stored
  rw [found] at slot
  unfold trackOutgoingPublish
  dsimp only
  refine (run_bind_ok (run_passed (validateOutgoingPkid_ok nonzero) s)).trans ?_
  simp only [run_modify_bind, run_get_bind]
  rw [show (s.putFlows _).outgoingPub.get? publish.pkid.toNat = _ from slot]
  rfl

theorem Sound.track_empty (empty : publish.pkid ∉ s.outgoingPubOrder) (replay : Bool) :
    (trackOutgoingPublish publish notice replay).run s =
      (if (s.withRoom publish.pkid).toFlows.heldByOtherFlow publish.pkid then
        Handler.fail .invalidState
      else if replay then do
        Handler.ofExcept ((s.withRoom publish.pkid).acceptReplayedOutboundPkid publish.pkid)
        updateFlows (·.trackPublish publish notice)
        incrementInflight
        return true
      else do
        flows (·.reserve publish.pkid)
        updateFlows (·.trackPublish publish notice)
        incrementInflight
        return true : Method Bool).run (s.withRoom publish.pkid) := by
  have slot := (sound.lookup_withRoom publish.pkid).mpr empty
  unfold trackOutgoingPublish
  dsimp only
  refine (run_bind_ok (run_passed (validateOutgoingPkid_ok nonzero) s)).trans ?_
  simp only [run_modify_bind, run_get_bind]
  rw [show (s.putFlows _).outgoingPub.get? publish.pkid.toNat = _ from slot]
  rfl

theorem Sound.track_refused
    (empty : publish.pkid ∉ s.outgoingPubOrder) (taken : publish.pkid.toNat ∈ s.outboundPkidInUse) :
    (trackOutgoingPublish publish notice false).run s =
      .ok (.error .invalidState, s.withRoom publish.pkid) := by
  rw [sound.track_empty nonzero empty, run_ite]
  split
  · rfl
  · exact run_bind_error (run_flows (Flows.Tracked.reserve_refused taken))

theorem Sound.track_fresh
    (free : publish.pkid.toNat ∉ s.outboundPkidInUse) (room : s.inflight < s.maxInflight.toNat) :
    (trackOutgoingPublish publish notice false).run s =
      .ok (.ok true, ((s.withRoom publish.pkid).reserving publish.pkid).storing publish notice) := by
  have unheld := sound.tracked.unheld_of_free free
  have roomy := sound.withRoom publish.pkid
  have other : ¬ (s.withRoom publish.pkid).toFlows.heldByOtherFlow publish.pkid = true := by
    rw [roomy.heldByOtherFlow_iff]
    rintro (release | replayed | subscribe | unsubscribe)
    · exact unheld .release release
    · exact sound.tracked.notMem_relReplayOrder_of_free free replayed
    · exact unheld .subscribe subscribe
    · exact unheld .unsubscribe unsubscribe
  rw [sound.track_empty nonzero (unheld .publish), run_ite, if_neg other]
  refine (run_bind_ok (run_flows (roomy.tracked.reserve_ok nonzero free))).trans ?_
  exact (roomy.reserving nonzero free).track_run (lt_length_withRoom s publish.pkid) room notice

end

theorem Sound.track_replay {request : Request} (sound : s.Sound (request :: rest))
    (owns : request.replayPkid = some publish.pkid) (notRelease : request.pubRelPkid? = none)
    (room : s.inflight < s.maxInflight.toNat) :
    (trackOutgoingPublish publish notice true).run s =
      .ok (.ok true, (s.withRoom publish.pkid).storing publish notice) := by
  have unheld := sound.tracked.unheld_of_cons owns
  have inUse := sound.tracked.inUse_of_cons owns
  have nonzero := sound.tracked.ids.ne_zero inUse
  have roomy := sound.withRoom publish.pkid
  have other : ¬ (s.withRoom publish.pkid).toFlows.heldByOtherFlow publish.pkid = true := by
    rw [roomy.heldByOtherFlow_iff]
    rintro (release | replayed | subscribe | unsubscribe)
    · exact unheld .release release
    · exact sound.tracked.notMem_relReplayOrder_of_cons owns notRelease replayed
    · exact unheld .subscribe subscribe
    · exact unheld .unsubscribe unsubscribe
  have accepted : (s.withRoom publish.pkid).acceptReplayedOutboundPkid publish.pkid = .ok () :=
    PacketIds.acceptReplayedOutboundPkid_ok nonzero inUse
  rw [sound.track_empty nonzero (unheld .publish), run_ite, if_neg other, run_ite,
    if_pos rfl, accepted]
  refine (run_bind_ok (run_ofExcept_ok () _)).trans ?_
  exact roomy.track_run (lt_length_withRoom s publish.pkid) room notice

end Track

/-! ### Releases -/

/-- A release queued for replay is active again, with its place in the window. -/
def resuming (s : MqttState) (pkid : PacketId) : MqttState :=
  { s with toFlows := s.toFlows.withReleaseResumed pkid, inflight := s.inflight + 1 }

/-- A PUBREL handed to the network. -/
def releasing (s : MqttState) (pkid : PacketId) (notice : Option NoticeId) : MqttState :=
  MqttState.pushEvent (.outgoing (.pubRel pkid)) (s.putFlows (s.toFlows.withReleaseNote pkid notice))

theorem Sound.sublist (sound : s.Sound pool) (fewer : rest.Sublist pool) : s.Sound rest :=
  { sound with tracked := sound.tracked.sublist fewer }

theorem Sound.perm (sound : s.Sound pool) (same : pool.Perm rest) : s.Sound rest :=
  { sound with tracked := sound.tracked.perm same }

theorem Sound.resuming (sound : s.Sound pool) (member : pkid ∈ s.outgoingRelReplayOrder)
    (unheld : s.toFlows.Unheld pool pkid) (room : s.inflight < s.maxInflight.toNat) :
    (s.resuming pkid).Sound pool := by
  refine { sound with
    tracked := sound.tracked.withReleaseResumed member unheld
    window := ?_
    bounded := room }
  show s.inflight + 1 = s.outgoingPubOrder.length + (s.outgoingRelOrder ++ [pkid]).length
  rw [List.length_append, List.length_singleton, sound.window]
  omega

theorem Sound.releasing (sound : s.Sound pool) (pkid : PacketId) (notice : Option NoticeId) :
    (s.releasing pkid notice).Sound pool :=
  { sound with tracked := sound.tracked.withReleaseNote pkid notice }

section Pubrel

variable {pubrel : PubRel} {notice : Option NoticeId}

theorem Sound.note_run (sound : s.Sound pool) (pubrel : PubRel) (notice : Option NoticeId) :
    (do
      Handler.modify fun s =>
        s.putFlows (s.toFlows.ensureOutgoingTrackingCapacity (pubrel.pkid.toNat + 1))
      updateFlows (·.noteRelease pubrel.pkid notice)
      return pubrel : Method PubRel).run s = .ok (.ok pubrel, (s.withRoom pubrel.pkid).putFlows
        ((s.withRoom pubrel.pkid).toFlows.withReleaseNote pubrel.pkid notice)) :=
  run_bind_ok (run_updateFlows
    ((sound.withRoom pubrel.pkid).tracked.noteRelease_ok (lt_length_withRoom s pubrel.pkid) notice))

theorem Sound.outgoingPubrel_resumed (sound : s.Sound pool)
    (member : pubrel.pkid ∈ s.outgoingRelReplayOrder) (unheld : s.toFlows.Unheld pool pubrel.pkid)
    (room : s.inflight < s.maxInflight.toNat) :
    (outgoingPubrelWithNotice pubrel notice).run s = .ok (.ok (some (.pubRel pubrel), none),
        ((s.resuming pubrel.pkid).withRoom pubrel.pkid).releasing pubrel.pkid notice) := by
  have nonzero := sound.tracked.ids.ne_zero (sound.tracked.ledger.replay_reserved _ member)
  have replayed := (sound.tracked.mem_relReplayOrder pubrel.pkid).mp member
  have saved : (savePubrelWithNotice pubrel notice).run s = .ok (.ok pubrel,
      ((s.resuming pubrel.pkid).withRoom pubrel.pkid).putFlows
        (((s.resuming pubrel.pkid).withRoom pubrel.pkid).toFlows.withReleaseNote pubrel.pkid
          notice)) := by
    unfold savePubrelWithNotice
    refine (run_bind_ok (run_passed (validateOutgoingPkid_ok nonzero) s)).trans ?_
    simp only [run_get_bind, contains_eq_true.mpr replayed]
    rw [run_ite, if_neg (by simp), run_ite, if_pos trivial, run_ite,
      if_neg (Nat.not_le.mpr room)]
    refine (run_bind_ok (run_updateFlows (sound.tracked.resumeRelease_ok member))).trans ?_
    refine (run_bind_ok (run_incrementInflight ?room)).trans ?_
    case room => exact room
    exact (sound.resuming member unheld room).note_run pubrel notice
  exact run_bind_ok saved

theorem Sound.outgoingPubrel_full (sound : s.Sound pool)
    (member : pubrel.pkid ∈ s.outgoingRelReplayOrder) (full : s.maxInflight.toNat ≤ s.inflight) :
    (outgoingPubrelWithNotice pubrel notice).run s =
      .ok (.error (.outgoingPublishWindowFull s.maxInflight.toNat), s) := by
  have nonzero := sound.tracked.ids.ne_zero (sound.tracked.ledger.replay_reserved _ member)
  have replayed := (sound.tracked.mem_relReplayOrder pubrel.pkid).mp member
  have saved : (savePubrelWithNotice pubrel notice).run s =
      .ok (.error (.outgoingPublishWindowFull s.maxInflight.toNat), s) := by
    unfold savePubrelWithNotice
    refine (run_bind_ok (run_passed (validateOutgoingPkid_ok nonzero) s)).trans ?_
    simp only [run_get_bind, contains_eq_true.mpr replayed]
    rw [run_ite, if_neg (by simp), run_ite, if_pos trivial, run_ite,
      if_pos full]
    rfl
  exact run_bind_error saved

theorem Sound.outgoingPubrel_again (sound : s.Sound pool)
    (member : pubrel.pkid ∈ s.outgoingRelOrder) :
    (outgoingPubrelWithNotice pubrel notice).run s = .ok (.ok (some (.pubRel pubrel), none),
        (s.withRoom pubrel.pkid).releasing pubrel.pkid notice) := by
  have held : s.toFlows.Holds pool .release pubrel.pkid := member
  have nonzero := sound.tracked.ne_zero_of_holds held
  have active := (sound.tracked.mem_relOrder pubrel.pkid).mp member
  have notReplay : pubrel.pkid.toNat ∉ s.outgoingRelReplay := by
    rw [← sound.tracked.mem_relReplayOrder]
    intro replayed
    cases sound.tracked.ledger.replay_unheld _ replayed _ held
  have saved : (savePubrelWithNotice pubrel notice).run s = .ok (.ok pubrel,
      (s.withRoom pubrel.pkid).putFlows
        ((s.withRoom pubrel.pkid).toFlows.withReleaseNote pubrel.pkid notice)) := by
    unfold savePubrelWithNotice
    refine (run_bind_ok (run_passed (validateOutgoingPkid_ok nonzero) s)).trans ?_
    simp only [run_get_bind, contains_eq_true.mpr active, contains_eq_false.mpr notReplay]
    rw [run_ite, if_neg (by simp)]
    exact sound.note_run pubrel notice
  exact run_bind_ok saved

theorem Sound.outgoingPubrel_unknown (sound : s.Sound pool)
    (notReplay : pubrel.pkid ∉ s.outgoingRelReplayOrder) (inactive : pubrel.pkid ∉ s.outgoingRelOrder) :
    (outgoingPubrelWithNotice pubrel notice).run s = .ok (.error (.unsolicited pubrel.pkid), s) := by
  rw [sound.tracked.mem_relReplayOrder] at notReplay
  rw [sound.tracked.mem_relOrder] at inactive
  have saved : (savePubrelWithNotice pubrel notice).run s =
      .ok (.error (.unsolicited pubrel.pkid), s) := by
    by_cases zero : pubrel.pkid = 0
    · have refused : validateOutgoingPkid pubrel.pkid = .error (.unsolicited pubrel.pkid) := if_pos zero
      unfold savePubrelWithNotice
      rw [refused]
      exact run_bind_error (run_ofExcept_error ..)
    · unfold savePubrelWithNotice
      refine (run_bind_ok (run_passed (validateOutgoingPkid_ok zero) s)).trans ?_
      simp only [run_get_bind, contains_eq_false.mpr notReplay, contains_eq_false.mpr inactive]
      rfl
  exact run_bind_error saved

end Pubrel

/-! ### Control requests -/

/-- An identifier taken for a fresh control request; the search position moves when the request came
without one. -/
def claiming (s : MqttState) (asked pkid : PacketId) : MqttState :=
  (s.reserving pkid).numbered (if asked = 0 then pkid else s.lastPkid)

def subscribing (s : MqttState) (subscription : Subscribe) (notice : Option NoticeId) : MqttState :=
  MqttState.pushEvent (.outgoing (.subscribe subscription.pkid))
    { s with pendingSubscribe := s.pendingSubscribe.insert subscription.pkid ⟨subscription, notice⟩ }

def unsubscribing (s : MqttState) (unsub : Unsubscribe) (notice : Option NoticeId) : MqttState :=
  MqttState.pushEvent (.outgoing (.unsubscribe unsub.pkid))
    { s with pendingUnsubscribe := s.pendingUnsubscribe.insert unsub.pkid ⟨unsub, notice⟩ }

theorem Sound.claiming (sound : s.Sound pool) (nonzero : pkid ≠ 0)
    (free : pkid.toNat ∉ s.outboundPkidInUse) (asked : PacketId) :
    (s.claiming asked pkid).Sound pool := (sound.reserving nonzero free).numbered _

theorem mem_claiming (s : MqttState) (asked pkid : PacketId) :
    pkid.toNat ∈ (s.claiming asked pkid).outboundPkidInUse :=
  (mem_growAndInsert ..).mpr (.inl rfl)

theorem Sound.subscribing (sound : s.Sound pool) {subscription : Subscribe}
    (inUse : subscription.pkid.toNat ∈ s.outboundPkidInUse)
    (unheld : s.toFlows.Unheld pool subscription.pkid)
    (notReplay : subscription.pkid ∉ s.outgoingRelReplayOrder) (notice : Option NoticeId) :
    (s.subscribing subscription notice).Sound pool :=
  { sound with tracked := sound.tracked.insertSubscribe inUse unheld notReplay rfl }

theorem Sound.unsubscribing (sound : s.Sound pool) {unsub : Unsubscribe}
    (inUse : unsub.pkid.toNat ∈ s.outboundPkidInUse) (unheld : s.toFlows.Unheld pool unsub.pkid)
    (notReplay : unsub.pkid ∉ s.outgoingRelReplayOrder) (notice : Option NoticeId) :
    (s.unsubscribing unsub notice).Sound pool :=
  { sound with tracked := sound.tracked.insertUnsubscribe inUse unheld notReplay rfl }

/-- **A control request gets a free identifier, or it is an error and nothing changes.** -/
theorem Sound.claimControlPkid_cases (sound : s.Sound pool) (asked : PacketId) :
    (∃ error, (claimControlPkid asked).run s = .ok (.error error, s)) ∨
      ∃ chosen, chosen ≠ 0 ∧ chosen.toNat ∉ s.outboundPkidInUse ∧ (asked = 0 ∨ chosen = asked) ∧
        (claimControlPkid asked).run s = .ok (.ok chosen, s.claiming asked chosen) := by
  unfold claimControlPkid MqttState.claiming
  rw [run_ite]
  split
  case isTrue zero =>
    rcases PacketIds.nextControlPkid_cases sound.tracked.ids with none | ⟨chosen, nonzero, free, found⟩
    · left
      refine ⟨.invalidState, run_flows ?_⟩
      simp [none]
    · right
      refine ⟨chosen, nonzero, free, .inl zero, run_flows ?_⟩
      simp only [found, Checked.ok_bind, Checked.pure_eq]
      rfl
  case isFalse nonzero =>
    by_cases taken : asked.toNat ∈ s.outboundPkidInUse
    · left
      exact ⟨.invalidState, run_bind_error (run_flows (Flows.Tracked.reserve_refused taken))⟩
    · right
      refine ⟨asked, nonzero, taken, .inr rfl, ?_⟩
      exact run_bind_ok (run_flows (sound.tracked.reserve_ok nonzero taken))

end Rumqtt.V4.MqttState
