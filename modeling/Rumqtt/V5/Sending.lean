/-
**Sending publishes, releases and control requests, MQTT 5.**

For each kind of request that is tracked until its answer: the state after it has been handed to the
network (`published`, `parking`, `releasing`, `subscribing`, …), a lemma that this state is sound, and
the run of the method that builds it.
-/

import Rumqtt.V5.Dispatch

namespace Rumqtt.V5.MqttState

open Handler FixedBitSet

variable {s t : MqttState} {pool rest : List Request} {pkid : PacketId}

/-! ### Publishes -/

section

variable (s : MqttState)

/-- The identifier search has moved on to this identifier. -/
def numbered (pkid : PacketId) : MqttState :=
  s.putFlows { s.toFlows with lastPkid := pkid }

/-- The tracking arrays have a place for the identifier. -/
def withRoom (pkid : PacketId) : MqttState :=
  s.putFlows (s.toFlows.ensureOutgoingTrackingCapacity (pkid.toNat + 1))

def reserving (pkid : PacketId) : MqttState := s.putFlows (s.toFlows.withReserved pkid)

/-- The publish as it is written, under its identifier. -/
def wire (publish : Publish) (pkid : PacketId) : Publish :=
  { (s.topicAliases.applyAutoTopicAlias publish).1 with pkid }

/-- What the automatic alias policy did to the publish. -/
def aliasAction (publish : Publish) : Option AutoTopicAliasAction :=
  (s.topicAliases.applyAutoTopicAlias publish).2

section

variable (wired : Publish) (notice : Option NoticeId)

/-- A publish stored under its identifier, against the send quota. -/
def storing : MqttState :=
  { s with
    toFlows := s.toFlows.withPublish (s.topicAliases.publishForReplayTracking wired) notice
    outgoingPublishQuota := s.outgoingPublishQuota.acquired wired.pkid }

/-- A publish stored and handed to the network. -/
def published (action : Option AutoTopicAliasAction) : MqttState :=
  recordPublish wired action (s.storing wired notice)

/-- A publish parked behind the one that owns its identifier. -/
def parking (action : Option AutoTopicAliasAction) : MqttState :=
  MqttState.pushEvent (.outgoing (.awaitAck wired.pkid))
    { s with
      collision := some (AutoTopicAliasAction.restoreParked action wired)
      collisionNotice := notice }

end

end

@[simp] theorem qos_applyAutoTopicAlias (a : TopicAliasState) (publish : Publish) :
    (a.applyAutoTopicAlias publish).1.qos = publish.qos := by
  unfold TopicAliasState.applyAutoTopicAlias
  split
  · rfl
  · split
    · rfl
    · split <;> rfl

@[simp] theorem pkid_applyAutoTopicAlias (a : TopicAliasState) (publish : Publish) :
    (a.applyAutoTopicAlias publish).1.pkid = publish.pkid := by
  unfold TopicAliasState.applyAutoTopicAlias
  split
  · rfl
  · split
    · rfl
    · split <;> rfl

@[simp] theorem qos_wire (s : MqttState) (publish : Publish) (pkid : PacketId) :
    (s.wire publish pkid).qos = publish.qos := qos_applyAutoTopicAlias ..

theorem wire_self (s : MqttState) (publish : Publish) :
    s.wire publish publish.pkid = (s.topicAliases.applyAutoTopicAlias publish).1 := by
  unfold wire
  rw [← pkid_applyAutoTopicAlias s.topicAliases publish]

section

variable (action : Option AutoTopicAliasAction) (publish : Publish)

@[simp] theorem qos_restoreParked :
    (AutoTopicAliasAction.restoreParked action publish).qos = publish.qos := by
  rcases action with _ | (_ | _) <;> rfl

@[simp] theorem pkid_restoreParked :
    (AutoTopicAliasAction.restoreParked action publish).pkid = publish.pkid := by
  rcases action with _ | (_ | _) <;> rfl

end

theorem Sound.numbered (sound : s.Sound pool) (pkid : PacketId) : (s.numbered pkid).Sound pool :=
  { sound with tracked := sound.tracked.setLastPkid pkid }

theorem Sound.withRoom (sound : s.Sound pool) (pkid : PacketId) : (s.withRoom pkid).Sound pool :=
  { sound with
    tracked := sound.tracked.ensureCapacity pkid.toNat_lt
    recovery_sub := sound.recovery_sub }

theorem lt_length_withRoom (s : MqttState) (pkid : PacketId) :
    pkid.toNat < (s.withRoom pkid).outgoingPub.length := by
  show _ < (s.toFlows.ensureOutgoingTrackingCapacity _).outgoingPub.length
  rw [Flows.Tracked.length_ensureCapacity]
  omega

theorem Sound.reserving (sound : s.Sound pool) (nonzero : pkid ≠ 0)
    (free : pkid.toNat ∉ s.outboundPkidInUse) : (s.reserving pkid).Sound pool :=
  { sound with tracked := sound.tracked.withReserved nonzero free }

theorem Sound.published (sound : s.Sound pool) {wired : Publish}
    (fits : wired.pkid.toNat < s.outgoingPub.length)
    (inUse : wired.pkid.toNat ∈ s.outboundPkidInUse) (unheld : s.toFlows.Unheld pool wired.pkid)
    (notReplay : wired.pkid ∉ s.outgoingRelReplayOrder) (acked : wired.qos ≠ .atMostOnce)
    (notice : Option NoticeId) (action : Option AutoTopicAliasAction) :
    (s.published wired notice action).Sound pool := by
  refine { sound with
    tracked := sound.tracked.withPublish ?_ ?_ ?_ ?_ ?_ _
    sendQuota := sound.sendQuota.acquired wired.pkid
    sendQuota_owned := ?_ }
  · rwa [pkid_publishForReplayTracking]
  · rwa [pkid_publishForReplayTracking]
  · rwa [pkid_publishForReplayTracking]
  · rwa [pkid_publishForReplayTracking]
  · rwa [qos_publishForReplayTracking]
  · intro other member
    rcases Quota.mem_acquired.mp member with same | held
    · rw [UInt16.toNat_inj] at same
      refine .inl (List.mem_append_right _ ?_)
      rw [same, pkid_publishForReplayTracking]
      exact List.mem_singleton_self _
    · exact (sound.sendQuota_owned other held).imp (List.mem_append_left _) id

theorem Sound.parking (sound : s.Sound pool) {wired : Publish} (acked : wired.qos ≠ .atMostOnce)
    (notice : Option NoticeId) (action : Option AutoTopicAliasAction) :
    (s.parking wired notice action).Sound pool := by
  refine { sound with tracked := sound.tracked.setCollision ?_ notice }
  rwa [qos_restoreParked]

/-- The end of tracking a publish whose identifier is reserved: storage, then quota. -/
theorem Sound.track_run (sound : s.Sound pool) {wired : Publish}
    (fits : wired.pkid.toNat < s.outgoingPub.length) (nonzero : wired.pkid ≠ 0)
    (notice : Option NoticeId) :
    (do
      updateFlows (·.trackPublish (s.topicAliases.publishForReplayTracking wired) notice)
      acquireOutgoingPublishQuota wired.pkid
      return true : Method Bool).run s = .ok (.ok true, s.storing wired notice) := by
  have fits' : (s.topicAliases.publishForReplayTracking wired).pkid.toNat < s.outgoingPub.length := by
    rwa [pkid_publishForReplayTracking]
  refine (run_bind_ok (run_updateFlows (sound.tracked.trackPublish_ok fits' notice))).trans ?_
  refine (run_bind_ok (run_acquireQuota ?valid nonzero ?zero)).trans rfl
  case valid => exact sound.sendQuota
  case zero => exact sound.zero_notMem_sendQuota

section Track

variable {wired : Publish} {notice : Option NoticeId} {action : Option AutoTopicAliasAction}

theorem Sound.lookup_withRoom (sound : s.Sound pool) (pkid : PacketId) :
    (s.withRoom pkid).outgoingPub.get? pkid.toNat = some none ↔ pkid ∉ s.outgoingPubOrder := by
  have roomy := (sound.withRoom pkid).tracked
  rw [SlotVec.get?_of_lt (lt_length_withRoom s pkid), Option.some_inj]
  have member : pkid ∈ s.outgoingPubOrder ↔
      ((s.withRoom pkid).outgoingPub.lookup pkid.toNat).isSome := roomy.mem_pubOrder pkid
  rw [member, Bool.not_eq_true, Option.isSome_eq_false_iff, Option.isNone_iff_eq_none]

theorem Sound.heldByOtherFlow_iff (sound : s.Sound pool) (pkid : PacketId) :
    s.toFlows.heldByOtherFlow pkid = true ↔ pkid ∈ s.outgoingRelOrder ∨
      pkid ∈ s.outgoingRelReplayOrder ∨ pkid ∈ s.pendingSubscribe ∨ pkid ∈ s.pendingUnsubscribe := by
  simp [Flows.heldByOtherFlow, sound.tracked.mem_relOrder, sound.tracked.mem_relReplayOrder,
    or_assoc]

theorem validateOutgoingPkid_ok (nonzero : pkid ≠ 0) : validateOutgoingPkid pkid = .ok () :=
  if_neg nonzero

section

variable (sound : s.Sound pool) (nonzero : wired.pkid ≠ 0)
include nonzero sound

theorem Sound.track_parked (occupied : wired.pkid ∈ s.outgoingPubOrder) (replay : Bool) :
    (trackOutgoingPublish wired notice action replay).run s =
      .ok (.ok false, (s.withRoom wired.pkid).parking wired notice action) := by
  have slot := SlotVec.get?_of_lt (lt_length_withRoom s wired.pkid)
  have stored : ((s.withRoom wired.pkid).outgoingPub.lookup wired.pkid.toNat).isSome :=
    ((sound.withRoom wired.pkid).tracked.mem_pubOrder wired.pkid).mp occupied
  obtain ⟨owner, found⟩ := Option.isSome_iff_exists.mp stored
  rw [found] at slot
  unfold trackOutgoingPublish
  dsimp only
  refine (run_bind_ok (run_passed (validateOutgoingPkid_ok nonzero) s)).trans ?_
  simp only [run_modify_bind, run_get_bind]
  rw [show (s.putFlows _).outgoingPub.get? wired.pkid.toNat = _ from slot]
  rfl

/-- What `trackOutgoingPublish` does once its slot is known to be empty. -/
theorem Sound.track_empty (empty : wired.pkid ∉ s.outgoingPubOrder) (replay : Bool) :
    (trackOutgoingPublish wired notice action replay).run s =
      (if (s.withRoom wired.pkid).toFlows.heldByOtherFlow wired.pkid then Handler.fail .invalidState
      else if replay then do
        Handler.ofExcept ((s.withRoom wired.pkid).acceptReplayedOutboundPkid wired.pkid)
        updateFlows (·.trackPublish (s.topicAliases.publishForReplayTracking wired) notice)
        acquireOutgoingPublishQuota wired.pkid
        return true
      else do
        flows (·.reserve wired.pkid)
        updateFlows (·.trackPublish (s.topicAliases.publishForReplayTracking wired) notice)
        acquireOutgoingPublishQuota wired.pkid
        return true : Method Bool).run (s.withRoom wired.pkid) := by
  have slot := (sound.lookup_withRoom wired.pkid).mpr empty
  unfold trackOutgoingPublish
  dsimp only
  refine (run_bind_ok (run_passed (validateOutgoingPkid_ok nonzero) s)).trans ?_
  simp only [run_modify_bind, run_get_bind]
  rw [show (s.putFlows _).outgoingPub.get? wired.pkid.toNat = _ from slot]
  rfl

theorem Sound.track_refused
    (empty : wired.pkid ∉ s.outgoingPubOrder) (taken : wired.pkid.toNat ∈ s.outboundPkidInUse) :
    (trackOutgoingPublish wired notice action false).run s =
      .ok (.error .invalidState, s.withRoom wired.pkid) := by
  rw [sound.track_empty nonzero empty, run_ite]
  split
  · rfl
  · exact run_bind_error (run_flows (Flows.Tracked.reserve_refused taken))

theorem Sound.track_fresh (free : wired.pkid.toNat ∉ s.outboundPkidInUse) :
    (trackOutgoingPublish wired notice action false).run s =
      .ok (.ok true, ((s.withRoom wired.pkid).reserving wired.pkid).storing wired notice) := by
  have unheld := sound.tracked.unheld_of_free free
  have roomy := sound.withRoom wired.pkid
  have other : ¬ (s.withRoom wired.pkid).toFlows.heldByOtherFlow wired.pkid = true := by
    rw [roomy.heldByOtherFlow_iff]
    rintro (release | replayed | subscribe | unsubscribe)
    · exact unheld .release release
    · exact sound.tracked.notMem_relReplayOrder_of_free free replayed
    · exact unheld .subscribe subscribe
    · exact unheld .unsubscribe unsubscribe
  rw [sound.track_empty nonzero (unheld .publish), run_ite, if_neg other]
  refine (run_bind_ok (run_flows (roomy.tracked.reserve_ok nonzero free))).trans ?_
  exact (roomy.reserving nonzero free).track_run (lt_length_withRoom s wired.pkid) nonzero notice

end

/-- A replayed publish is stored when its identifier is reserved and no flow holds it. -/
theorem Sound.track_reserved (sound : s.Sound pool) (inUse : wired.pkid.toNat ∈ s.outboundPkidInUse)
    (empty : wired.pkid ∉ s.outgoingPubOrder)
    (unheld : ¬ s.toFlows.heldByOtherFlow wired.pkid = true) :
    (trackOutgoingPublish wired notice action true).run s =
      .ok (.ok true, (s.withRoom wired.pkid).storing wired notice) := by
  have nonzero := sound.tracked.ids.ne_zero inUse
  have roomy := sound.withRoom wired.pkid
  have other : ¬ (s.withRoom wired.pkid).toFlows.heldByOtherFlow wired.pkid = true := by
    rw [sound.heldByOtherFlow_iff] at unheld
    rw [roomy.heldByOtherFlow_iff]
    exact unheld
  have accepted : (s.withRoom wired.pkid).acceptReplayedOutboundPkid wired.pkid = .ok () :=
    PacketIds.acceptReplayedOutboundPkid_ok nonzero inUse
  rw [sound.track_empty nonzero empty, run_ite, if_neg other, run_ite, if_pos rfl, accepted]
  refine (run_bind_ok (run_ofExcept_ok () _)).trans ?_
  exact roomy.track_run (lt_length_withRoom s wired.pkid) nonzero notice

theorem Sound.track_replay {request : Request} (sound : s.Sound (request :: rest))
    (owns : request.replayPkid = some wired.pkid) (notRelease : request.pubRelPkid? = none) :
    (trackOutgoingPublish wired notice action true).run s =
      .ok (.ok true, (s.withRoom wired.pkid).storing wired notice) := by
  have unheld := sound.tracked.unheld_of_cons owns
  refine sound.track_reserved (sound.tracked.inUse_of_cons owns) (unheld .publish) ?_
  rw [sound.heldByOtherFlow_iff]
  rintro (release | replayed | subscribe | unsubscribe)
  · exact unheld .release release
  · exact sound.tracked.notMem_relReplayOrder_of_cons owns notRelease replayed
  · exact unheld .subscribe subscribe
  · exact unheld .unsubscribe unsubscribe

end Track

/-! ### Releases -/

/-- A release queued for replay is active again, and marked as replayed on this connection. -/
def resuming (s : MqttState) (pkid : PacketId) : MqttState :=
  { s with
    toFlows := s.toFlows.withReleaseResumed pkid
    outgoingRelRecovery := s.outgoingRelRecovery.growAndInsert pkid.toNat }

/-- A PUBREL handed to the network. -/
def releasing (s : MqttState) (pkid : PacketId) (notice : Option NoticeId) : MqttState :=
  MqttState.pushEvent (.outgoing (.pubRel pkid)) (s.putFlows (s.toFlows.withReleaseNote pkid notice))

theorem Sound.sublist (sound : s.Sound pool) (fewer : rest.Sublist pool) : s.Sound rest :=
  { sound with tracked := sound.tracked.sublist fewer }

theorem Sound.perm (sound : s.Sound pool) (same : pool.Perm rest) : s.Sound rest :=
  { sound with tracked := sound.tracked.perm same }

theorem Sound.resuming (sound : s.Sound pool) (member : pkid ∈ s.outgoingRelReplayOrder)
    (unheld : s.toFlows.Unheld pool pkid) : (s.resuming pkid).Sound pool :=
  { sound with
    tracked := sound.tracked.withReleaseResumed member unheld
    sendQuota_owned := fun other held =>
      (sound.sendQuota_owned other held).imp id (List.mem_append_left _)
    recovery_sub := by
      intro bit marked
      refine (mem_growAndInsert ..).mpr ?_
      exact ((mem_growAndInsert ..).mp marked).imp id (sound.recovery_sub bit) }

theorem Sound.releasing (sound : s.Sound pool) (pkid : PacketId) (notice : Option NoticeId) :
    (s.releasing pkid notice).Sound pool :=
  { sound with tracked := sound.tracked.withReleaseNote pkid notice }

section Pubrel

variable {pubrel : PubRel} {notice : Option NoticeId}

theorem Sound.outgoingPubrel_resumed (sound : s.Sound pool)
    (member : pubrel.pkid ∈ s.outgoingRelReplayOrder) (unheld : s.toFlows.Unheld pool pubrel.pkid) :
    (outgoingPubrelWithNotice pubrel notice).run s =
      .ok (.ok (some (.pubRel { pkid := pubrel.pkid }), none),
        ((s.withRoom pubrel.pkid).resuming pubrel.pkid).releasing pubrel.pkid notice) := by
  have nonzero := sound.tracked.ids.ne_zero (sound.tracked.ledger.replay_reserved _ member)
  have replayed := (sound.tracked.mem_relReplayOrder pubrel.pkid).mp member
  have roomy := sound.withRoom pubrel.pkid
  have saved : (savePubrelWithNotice pubrel notice).run s = .ok (.ok pubrel,
      ((s.withRoom pubrel.pkid).resuming pubrel.pkid).putFlows
        (((s.withRoom pubrel.pkid).resuming pubrel.pkid).toFlows.withReleaseNote pubrel.pkid notice)) := by
    unfold savePubrelWithNotice
    refine (run_bind_ok (run_passed (validateOutgoingPkid_ok nonzero) s)).trans ?_
    simp only [run_get_bind, contains_eq_true.mpr replayed]
    rw [run_ite, if_neg (by simp), run_modify_bind, run_ite, if_pos trivial]
    refine (run_bind_ok (run_updateFlows (roomy.tracked.resumeRelease_ok member))).trans ?_
    exact run_bind_ok (run_updateFlows
      ((roomy.resuming member unheld).tracked.noteRelease_ok (lt_length_withRoom s pubrel.pkid) notice))
  exact run_bind_ok saved

theorem Sound.outgoingPubrel_again (sound : s.Sound pool)
    (member : pubrel.pkid ∈ s.outgoingRelOrder) :
    (outgoingPubrelWithNotice pubrel notice).run s =
      .ok (.ok (some (.pubRel { pkid := pubrel.pkid }), none),
        (s.withRoom pubrel.pkid).releasing pubrel.pkid notice) := by
  have held : s.toFlows.Holds pool .release pubrel.pkid := member
  have nonzero := sound.tracked.ne_zero_of_holds held
  have active := (sound.tracked.mem_relOrder pubrel.pkid).mp member
  have notReplay : pubrel.pkid.toNat ∉ s.outgoingRelReplay := by
    rw [← sound.tracked.mem_relReplayOrder]
    intro replayed
    cases sound.tracked.ledger.replay_unheld _ replayed _ held
  have saved : (savePubrelWithNotice pubrel notice).run s = .ok (.ok pubrel,
      (s.withRoom pubrel.pkid).putFlows
        ((s.withRoom pubrel.pkid).toFlows.withReleaseNote pubrel.pkid notice)) := by
    unfold savePubrelWithNotice
    refine (run_bind_ok (run_passed (validateOutgoingPkid_ok nonzero) s)).trans ?_
    simp only [run_get_bind, contains_eq_true.mpr active, contains_eq_false.mpr notReplay]
    rw [run_ite, if_neg (by simp), run_modify_bind]
    exact run_bind_ok (run_updateFlows
      ((sound.withRoom pubrel.pkid).tracked.noteRelease_ok (lt_length_withRoom s pubrel.pkid) notice))
  exact run_bind_ok saved

theorem Sound.outgoingPubrel_unknown (sound : s.Sound pool)
    (notReplay : pubrel.pkid ∉ s.outgoingRelReplayOrder) (inactive : pubrel.pkid ∉ s.outgoingRelOrder) :
    (outgoingPubrelWithNotice pubrel notice).run s = .ok (.error (.unsolicited pubrel.pkid), s) := by
  rw [sound.tracked.mem_relReplayOrder] at notReplay
  rw [sound.tracked.mem_relOrder] at inactive
  have saved : (savePubrelWithNotice pubrel notice).run s =
      .ok (.error (.unsolicited pubrel.pkid), s) := by
    by_cases zero : pubrel.pkid = 0
    · have refused : validateOutgoingPkid pubrel.pkid = .error (.unsolicited pubrel.pkid) := if_pos zero
      unfold savePubrelWithNotice
      rw [refused]
      exact run_bind_error (run_ofExcept_error ..)
    · unfold savePubrelWithNotice
      refine (run_bind_ok (run_passed (validateOutgoingPkid_ok zero) s)).trans ?_
      simp only [run_get_bind, contains_eq_false.mpr notReplay, contains_eq_false.mpr inactive]
      rfl
  exact run_bind_error saved

end Pubrel

/-! ### Control requests -/

/-- An identifier taken for a fresh control request. -/
def claiming (s : MqttState) (pkid : PacketId) : MqttState := (s.reserving pkid).numbered pkid

def subscribing (s : MqttState) (subscription : Subscribe) (notice : Option NoticeId) : MqttState :=
  MqttState.pushEvent (.outgoing (.subscribe subscription.pkid))
    { s with pendingSubscribe := s.pendingSubscribe.insert subscription.pkid ⟨subscription, notice⟩ }

def unsubscribing (s : MqttState) (unsub : Unsubscribe) (notice : Option NoticeId) : MqttState :=
  MqttState.pushEvent (.outgoing (.unsubscribe unsub.pkid))
    { s with pendingUnsubscribe := s.pendingUnsubscribe.insert unsub.pkid ⟨unsub, notice⟩ }

theorem Sound.claiming (sound : s.Sound pool) (nonzero : pkid ≠ 0)
    (free : pkid.toNat ∉ s.outboundPkidInUse) : (s.claiming pkid).Sound pool :=
  (sound.reserving nonzero free).numbered pkid

theorem mem_claiming (s : MqttState) (pkid : PacketId) :
    pkid.toNat ∈ (s.claiming pkid).outboundPkidInUse := (mem_growAndInsert ..).mpr (.inl rfl)

theorem Sound.subscribing (sound : s.Sound pool) {subscription : Subscribe}
    (inUse : subscription.pkid.toNat ∈ s.outboundPkidInUse)
    (unheld : s.toFlows.Unheld pool subscription.pkid)
    (notReplay : subscription.pkid ∉ s.outgoingRelReplayOrder) (notice : Option NoticeId) :
    (s.subscribing subscription notice).Sound pool :=
  { sound with tracked := sound.tracked.insertSubscribe inUse unheld notReplay rfl }

theorem Sound.unsubscribing (sound : s.Sound pool) {unsub : Unsubscribe}
    (inUse : unsub.pkid.toNat ∈ s.outboundPkidInUse) (unheld : s.toFlows.Unheld pool unsub.pkid)
    (notReplay : unsub.pkid ∉ s.outgoingRelReplayOrder) (notice : Option NoticeId) :
    (s.unsubscribing unsub notice).Sound pool :=
  { sound with tracked := sound.tracked.insertUnsubscribe inUse unheld notReplay rfl }

/-- A control request without an identifier gets the one that the search finds. -/
theorem Sound.claimControlPkid_found (sound : s.Sound pool)
    (found : s.nextFreeOutboundPkidAfter s.lastPkid = some pkid) :
    (claimControlPkid 0).run s = .ok (.ok pkid, s.claiming pkid) := by
  unfold claimControlPkid
  rw [run_ite, if_pos rfl]
  refine run_flows ?_
  simp only [PacketIds.nextControlPkid_found sound.tracked.ids found, Checked.ok_bind, Checked.pure_eq]
  rfl

/-- **A control request gets a free identifier, or it is an error and nothing changes.** -/
theorem Sound.claimControlPkid_cases (sound : s.Sound pool) (pkid : PacketId) :
    (∃ error, (claimControlPkid pkid).run s = .ok (.error error, s)) ∨
      ∃ chosen, chosen ≠ 0 ∧ chosen.toNat ∉ s.outboundPkidInUse ∧ (pkid = 0 ∨ chosen = pkid) ∧
        (claimControlPkid pkid).run s = .ok (.ok chosen, s.claiming chosen) := by
  unfold claimControlPkid
  rw [run_ite]
  split
  case isTrue zero =>
    rcases PacketIds.nextControlPkid_cases sound.tracked.ids with none | ⟨chosen, nonzero, free, found⟩
    · left
      refine ⟨.invalidState, run_flows ?_⟩
      simp [none]
    · right
      refine ⟨chosen, nonzero, free, .inl zero, run_flows ?_⟩
      simp only [found, Checked.ok_bind, Checked.pure_eq]
      rfl
  case isFalse nonzero =>
    by_cases taken : pkid.toNat ∈ s.outboundPkidInUse
    · left
      refine ⟨.invalidState, ?_⟩
      refine (run_bind_ok (run_passed (validateOutgoingPkid_ok nonzero) s)).trans ?_
      exact run_bind_error (run_flows (Flows.Tracked.reserve_refused taken))
    · right
      refine ⟨pkid, nonzero, taken, .inr rfl, ?_⟩
      refine (run_bind_ok (run_passed (validateOutgoingPkid_ok nonzero) s)).trans ?_
      exact run_bind_ok (run_flows (sound.tracked.reserve_ok nonzero taken))

end Rumqtt.V5.MqttState
