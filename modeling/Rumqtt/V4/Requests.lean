/-
**What an outgoing request can do to the MQTT 3.1.1 state machine.**

`Requested s request replay result t` lists every outcome of `handleOutgoingPacketWithNoticeInternal`
with the exact state it leaves. A fresh request and a replayed request of the pool always end in one
of them (`Sound.handleOutgoing_run`), and the invariant is kept; a replayed request leaves the pool.
-/

import Rumqtt.Flows.HandedOut
import Rumqtt.V4.Sending

namespace Rumqtt.V4.MqttState

open Handler

variable {s t : MqttState} {pool rest : List Request} {pkid : PacketId}

/-! ### Every outcome -/

/-- The search position moves when the publish came without an identifier. -/
def assigned (s : MqttState) (publish : Publish) (pkid : PacketId) : MqttState :=
  s.numbered (if publish.pkid = 0 then pkid else s.lastPkid)

/-- **The outcomes of an outgoing request.** -/
inductive Requested (s : MqttState) (notice : Option TrackedNotice) :
    Request → Bool → RequestResult → MqttState → Prop where
  /-- The request is an error and nothing changes. -/
  | rejected (request : Request) (replay : Bool) (error : StateError) :
    Requested s notice request replay (.error error) s
  /-- Another flow owns the identifier of the publish; only the capacity has changed. -/
  | refused (publish : Publish) :
    Requested s notice (.publish publish) false (.error .invalidState) (s.withRoom publish.pkid)
  | qos0 (publish : Publish) (replay : Bool) (unacked : publish.qos = .atMostOnce) :
    Requested s notice (.publish publish) replay
      (.ok (some (.publish publish), notice.bind TrackedNotice.publish?))
      (MqttState.pushEvent (.outgoing (.publish publish.pkid)) s)
  | fresh (publish : Publish) (pkid : PacketId) (acked : publish.qos ≠ .atMostOnce)
    (room : s.inflight < s.maxInflight.toNat) (nonzero : pkid ≠ 0)
    (free : pkid.toNat ∉ s.outboundPkidInUse) (choice : publish.pkid = 0 ∨ publish.pkid = pkid) :
    Requested s notice (.publish publish) false (.ok (some (.publish { publish with pkid }), none))
      ((((s.assigned publish pkid).withRoom pkid).reserving pkid).published { publish with pkid }
        (notice.bind TrackedNotice.publish?))
  | parked (publish : Publish) (acked : publish.qos ≠ .atMostOnce)
    (occupied : publish.pkid ∈ s.outgoingPubOrder) :
    Requested s notice (.publish publish) false (.ok (none, none))
      ((s.withRoom publish.pkid).parking publish (notice.bind TrackedNotice.publish?))
  | replayed (publish : Publish) (acked : publish.qos ≠ .atMostOnce)
    (room : s.inflight < s.maxInflight.toNat) :
    Requested s notice (.publish publish) true (.ok (some (.publish publish), none))
      ((s.withRoom publish.pkid).published publish (notice.bind TrackedNotice.publish?))
  | pubrelResumed (pubrel : PubRel) (replay : Bool) (member : pubrel.pkid ∈ s.outgoingRelReplayOrder)
    (room : s.inflight < s.maxInflight.toNat) :
    Requested s notice (.pubRel pubrel) replay (.ok (some (.pubRel pubrel), none))
      (((s.resuming pubrel.pkid).withRoom pubrel.pkid).releasing pubrel.pkid
        (notice.bind TrackedNotice.publish?))
  | pubrelAgain (pubrel : PubRel) (replay : Bool) (member : pubrel.pkid ∈ s.outgoingRelOrder) :
    Requested s notice (.pubRel pubrel) replay (.ok (some (.pubRel pubrel), none))
      ((s.withRoom pubrel.pkid).releasing pubrel.pkid (notice.bind TrackedNotice.publish?))
  | subscribe (subscription : Subscribe) (pkid : PacketId)
    (valid : validateOutgoingSubscribe subscription = .ok ()) (nonzero : pkid ≠ 0)
    (free : pkid.toNat ∉ s.outboundPkidInUse)
    (choice : subscription.pkid = 0 ∨ pkid = subscription.pkid) :
    Requested s notice (.subscribe subscription) false
      (.ok (some (.subscribe { subscription with pkid }), none))
      ((s.claiming subscription.pkid pkid).subscribing { subscription with pkid }
        (notice.bind TrackedNotice.subscribe?))
  | subscribeAgain (subscription : Subscribe)
    (valid : validateOutgoingSubscribe subscription = .ok ()) :
    Requested s notice (.subscribe subscription) true (.ok (some (.subscribe subscription), none))
      (s.subscribing subscription (notice.bind TrackedNotice.subscribe?))
  | unsubscribe (unsub : Unsubscribe) (pkid : PacketId)
    (valid : validateOutgoingUnsubscribe unsub = .ok ()) (nonzero : pkid ≠ 0)
    (free : pkid.toNat ∉ s.outboundPkidInUse) (choice : unsub.pkid = 0 ∨ pkid = unsub.pkid) :
    Requested s notice (.unsubscribe unsub) false (.ok (some (.unsubscribe { unsub with pkid }), none))
      ((s.claiming unsub.pkid pkid).unsubscribing { unsub with pkid }
        (notice.bind TrackedNotice.unsubscribe?))
  | unsubscribeAgain (unsub : Unsubscribe) (valid : validateOutgoingUnsubscribe unsub = .ok ()) :
    Requested s notice (.unsubscribe unsub) true (.ok (some (.unsubscribe unsub), none))
      (s.unsubscribing unsub (notice.bind TrackedNotice.unsubscribe?))
  | pingFailed (replay : Bool) (error : StateError) (ping : PingState) :
    Requested s notice .pingReq replay (.error error) { s with ping }
  | ping (replay : Bool) (ping : PingState) :
    Requested s notice .pingReq replay (.ok (some .pingReq, none))
      (MqttState.pushEvent (.outgoing .pingReq) { s with ping })
  | disconnect (disconnect : Unit) (replay : Bool) :
    Requested s notice (.disconnectNow disconnect) replay (.ok (some .disconnect, none))
      (MqttState.pushEvent (.outgoing .disconnect) s)
  | puback (puback : PubAck) (replay : Bool) (waiting : puback.pkid.toNat ∈ s.incomingPuback) :
    Requested s notice (.pubAck puback) replay (.ok (some (.pubAck puback), none))
      (s.pubackSent puback.pkid)
  | pubrec (pubrec : PubRec) (replay : Bool) (tracked : pubrec.pkid.toNat ∈ s.incomingPub)
    (unsent : pubrec.pkid.toNat ∉ s.incomingPubrec) :
    Requested s notice (.pubRec pubrec) replay (.ok (some (.pubRec pubrec), none))
      (s.pubrecSent pubrec.pkid)

section RunPublish

variable {publish : Publish} {notice : Option TrackedNotice} {replay : Bool}

theorem run_sendTracked_true {tracked assigned : Publish} {noticeId : Option NoticeId}
    {u : MqttState} (assign : (assignPublishPkid tracked replay).run s = .ok (.ok assigned, t))
    (stored : (trackOutgoingPublish assigned noticeId replay).run t = .ok (.ok true, u)) :
    (sendTrackedPublish tracked noticeId replay).run s = .ok (.ok (some (.publish assigned), none),
        MqttState.pushEvent (.outgoing (.publish assigned.pkid)) u) :=
  (run_bind_ok assign).trans (run_bind_ok stored)

theorem assignPublishPkid_given (nonzero : publish.pkid ≠ 0) :
    (assignPublishPkid publish replay).run s = .ok (.ok publish, s) := by
  unfold assignPublishPkid
  rw [run_ite, if_pos nonzero]
  rfl

theorem assigned_given (s : MqttState) (pkid : PacketId) (nonzero : publish.pkid ≠ 0) :
    s.assigned publish pkid = s := by
  unfold assigned
  rw [if_neg nonzero]
  rfl

theorem assignPublishPkid_next (zero : publish.pkid = 0) (found : s.toPacketIds.nextPublishPkid = some pkid) :
    (assignPublishPkid publish false).run s =
      .ok (.ok { publish with pkid }, s.assigned publish pkid) := by
  unfold assignPublishPkid assigned
  rw [run_ite, if_neg (not_not.mpr zero), run_ite, if_neg (by decide),
    run_get_bind, if_pos zero]
  simp only [PacketIds.nextPkid, found, Option.map_some]
  rfl

theorem assignPublishPkid_exhausted (zero : publish.pkid = 0)
    (exhausted : s.toPacketIds.nextPublishPkid = none) :
    (assignPublishPkid publish false).run s = .ok (.error .invalidState, s) := by
  unfold assignPublishPkid
  rw [run_ite, if_neg (not_not.mpr zero), run_ite, if_neg (by decide),
    run_get_bind]
  simp only [PacketIds.nextPkid, exhausted, Option.map_none]
  rfl

theorem Sound.sendTracked_run (sound : s.Sound pool) (acked : publish.qos ≠ .atMostOnce)
    (room : s.inflight < s.maxInflight.toNat) :
    ∃ result t, (sendTrackedPublish publish (notice.bind TrackedNotice.publish?) false).run s =
      .ok (result, t) ∧ Requested s notice (.publish publish) false result t := by
  by_cases zero : publish.pkid = 0
  · cases found : s.toPacketIds.nextPublishPkid with
    | none =>
      exact ⟨_, _, run_bind_error (assignPublishPkid_exhausted zero found), .rejected ..⟩
    | some pkid =>
      obtain ⟨nonzero, free⟩ := PacketIds.nextFreeOutboundPkidAfter_free found
      have assign := assignPublishPkid_next zero found
      have numbered : (s.assigned publish pkid).Sound pool := sound.numbered _
      have stored : (trackOutgoingPublish { publish with pkid } (notice.bind TrackedNotice.publish?)
          false).run (s.assigned publish pkid) = _ := numbered.track_fresh nonzero free room
      refine ⟨_, _, run_sendTracked_true assign stored, ?_⟩
      exact .fresh publish pkid acked room nonzero free (.inl zero)
  · have assign : (assignPublishPkid publish false).run s = _ := assignPublishPkid_given zero
    by_cases occupied : publish.pkid ∈ s.outgoingPubOrder
    · refine ⟨_, _, ?_, .parked publish acked occupied⟩
      exact (run_bind_ok assign).trans (run_bind_ok (sound.track_parked zero occupied false))
    · by_cases taken : publish.pkid.toNat ∈ s.outboundPkidInUse
      · refine ⟨_, _, ?_, .refused publish⟩
        exact (run_bind_ok assign).trans (run_bind_error (sound.track_refused zero occupied taken))
      · refine ⟨_, _, run_sendTracked_true assign (sound.track_fresh zero taken room), ?_⟩
        have outcome : Requested s notice (.publish publish) false _ _ :=
          .fresh publish publish.pkid acked room zero taken (.inr rfl)
        rwa [assigned_given s publish.pkid zero] at outcome

theorem Sound.replayTracked_run (sound : s.Sound (.publish publish :: rest))
    (acked : publish.qos ≠ .atMostOnce) (room : s.inflight < s.maxInflight.toNat)
    (notice : Option NoticeId) :
    (sendTrackedPublish publish notice true).run s = .ok (.ok (some (.publish publish), none),
        (s.withRoom publish.pkid).published publish notice) := by
  have owns : (Request.publish publish).replayPkid = some publish.pkid := if_neg acked
  have nonzero := sound.tracked.ids.ne_zero (sound.tracked.inUse_of_cons owns)
  exact run_sendTracked_true (assignPublishPkid_given nonzero) (sound.track_replay owns rfl room)

theorem outgoingPublish_acked (acked : publish.qos ≠ .atMostOnce)
    (room : s.inflight < s.maxInflight.toNat) (notice : Option NoticeId) (replay : Bool) :
    (outgoingPublishWithNoticeInternal publish notice replay).run s =
      (sendTrackedPublish publish notice replay).run s := by
  unfold outgoingPublishWithNoticeInternal
  rw [run_get_bind, run_ite, if_neg acked, run_ite, if_neg (Nat.not_le.mpr room)]

theorem outgoingPublish_full (acked : publish.qos ≠ .atMostOnce)
    (full : s.maxInflight.toNat ≤ s.inflight) (notice : Option NoticeId) (replay : Bool) :
    (outgoingPublishWithNoticeInternal publish notice replay).run s =
      .ok (.error (.outgoingPublishWindowFull s.maxInflight.toNat), s) := by
  unfold outgoingPublishWithNoticeInternal
  rw [run_get_bind, run_ite, if_neg acked, run_ite, if_pos full]
  rfl

theorem outgoingPublish_qos0 (unacked : publish.qos = .atMostOnce) (notice : Option NoticeId)
    (replay : Bool) :
    (outgoingPublishWithNoticeInternal publish notice replay).run s =
      .ok (.ok (some (.publish publish), notice),
        MqttState.pushEvent (.outgoing (.publish publish.pkid)) s) := by
  unfold outgoingPublishWithNoticeInternal
  rw [run_get_bind, run_ite, if_pos unacked]
  rfl

end RunPublish

/-! ### The run of a request -/

section Run

variable {request : Request} {notice : Option TrackedNotice} {replay : Bool}
variable {result : RequestResult}

section

variable (sound : s.Sound pool)
include sound

theorem Sound.toFront (member : request ∈ pool) :
    ∃ rest, s.Sound (request :: rest) := by
  obtain ⟨before, after, rfl⟩ := List.append_of_mem member
  exact ⟨before ++ after, sound.perm List.perm_middle⟩

theorem Sound.outgoingPublish_run (publish : Publish)
    (inPool : replay = true → .publish publish ∈ pool) :
    ∃ result t, (outgoingPublishWithNoticeInternal publish (notice.bind TrackedNotice.publish?)
      replay).run s = .ok (result, t) ∧ Requested s notice (.publish publish) replay result t := by
  by_cases unacked : publish.qos = .atMostOnce
  · exact ⟨_, _, outgoingPublish_qos0 unacked _ _, .qos0 publish replay unacked⟩
  · by_cases full : s.maxInflight.toNat ≤ s.inflight
    · exact ⟨_, _, outgoingPublish_full unacked full _ _, .rejected ..⟩
    · have room := Nat.lt_of_not_le full
      rw [outgoingPublish_acked unacked room]
      cases replay with
      | false => exact sound.sendTracked_run unacked room
      | true =>
        obtain ⟨rest, front⟩ := sound.toFront (inPool rfl)
        exact ⟨_, _, front.replayTracked_run unacked room _, .replayed publish unacked room⟩

theorem Sound.accept_run (inUse : pkid.toNat ∈ s.outboundPkidInUse) :
    (Handler.ofExcept (s.acceptReplayedOutboundPkid pkid) : Method Unit).run s = .ok (.ok (), s) := by
  rw [PacketIds.acceptReplayedOutboundPkid_ok (sound.tracked.ids.ne_zero inUse) inUse]
  rfl

theorem Sound.outgoingSubscribe_run (subscription : Subscribe)
    (inPool : replay = true → .subscribe subscription ∈ pool) :
    ∃ result t, (handleOutgoingPacketWithNoticeInternal (.subscribe subscription) notice replay).run s =
      .ok (result, t) ∧ Requested s notice (.subscribe subscription) replay result t := by
  cases valid : validateOutgoingSubscribe subscription with
  | error error =>
    have refused := run_refused valid s
    refine ⟨_, _, run_bind_error ?_, .rejected _ _ error⟩
    cases replay <;> exact run_bind_error refused
  | ok =>
    have checked := run_passed valid s
    cases replay with
    | false =>
      rcases sound.claimControlPkid_cases subscription.pkid with
        ⟨error, claimed⟩ | ⟨pkid, nonzero, free, choice, claimed⟩
      · refine ⟨_, _, run_bind_error ?_, .rejected _ _ error⟩
        exact (run_bind_ok checked).trans (run_bind_error claimed)
      · refine ⟨_, _, run_bind_ok ?_, .subscribe subscription pkid valid nonzero free choice⟩
        exact (run_bind_ok checked).trans (run_bind_ok claimed)
    | true =>
      obtain ⟨rest, front⟩ := sound.toFront (inPool rfl)
      have inUse := front.tracked.inUse_of_cons rfl
      have accepted := front.accept_run inUse
      refine ⟨_, _, run_bind_ok ?_, .subscribeAgain subscription valid⟩
      exact (run_bind_ok checked).trans ((run_get_bind ..).trans (run_bind_ok accepted))

theorem Sound.outgoingUnsubscribe_run (unsub : Unsubscribe)
    (inPool : replay = true → .unsubscribe unsub ∈ pool) :
    ∃ result t, (handleOutgoingPacketWithNoticeInternal (.unsubscribe unsub) notice replay).run s =
      .ok (result, t) ∧ Requested s notice (.unsubscribe unsub) replay result t := by
  cases valid : validateOutgoingUnsubscribe unsub with
  | error error =>
    have refused := run_refused valid s
    refine ⟨_, _, run_bind_error ?_, .rejected _ _ error⟩
    cases replay <;> exact run_bind_error refused
  | ok =>
    have checked := run_passed valid s
    cases replay with
    | false =>
      rcases sound.claimControlPkid_cases unsub.pkid with
        ⟨error, claimed⟩ | ⟨pkid, nonzero, free, choice, claimed⟩
      · refine ⟨_, _, run_bind_error ?_, .rejected _ _ error⟩
        exact (run_bind_ok checked).trans (run_bind_error claimed)
      · refine ⟨_, _, run_bind_ok ?_, .unsubscribe unsub pkid valid nonzero free choice⟩
        exact (run_bind_ok checked).trans (run_bind_ok claimed)
    | true =>
      obtain ⟨rest, front⟩ := sound.toFront (inPool rfl)
      have inUse := front.tracked.inUse_of_cons rfl
      have accepted := front.accept_run inUse
      refine ⟨_, _, run_bind_ok ?_, .unsubscribeAgain unsub valid⟩
      exact (run_bind_ok checked).trans ((run_get_bind ..).trans (run_bind_ok accepted))

theorem Sound.outgoingPubrel_run (pubrel : PubRel) :
    ∃ result t, (outgoingPubrelWithNotice pubrel (notice.bind TrackedNotice.publish?)).run s =
      .ok (result, t) ∧ Requested s notice (.pubRel pubrel) replay result t := by
  by_cases member : pubrel.pkid ∈ s.outgoingRelReplayOrder
  · by_cases full : s.maxInflight.toNat ≤ s.inflight
    · exact ⟨_, _, sound.outgoingPubrel_full member full, .rejected ..⟩
    · have room := Nat.lt_of_not_le full
      have fewer : s.Sound (poolWithout pool pubrel.pkid) := sound.sublist List.filter_sublist
      exact ⟨_, _, fewer.outgoingPubrel_resumed member (sound.tracked.unheld_poolWithout member) room,
        .pubrelResumed pubrel replay member room⟩
  · by_cases active : pubrel.pkid ∈ s.outgoingRelOrder
    · exact ⟨_, _, sound.outgoingPubrel_again active, .pubrelAgain pubrel replay active⟩
    · exact ⟨_, _, sound.outgoingPubrel_unknown member active, .rejected ..⟩

end

theorem outgoingPing_run (s : MqttState) :
    ∃ result t, (handleOutgoingPacketWithNoticeInternal .pingReq notice replay).run s =
      .ok (result, t) ∧ Requested s notice .pingReq replay result t := by
  show ∃ result t, (outgoingPing >>= fun packet => pure (packet, none) :
    Method (Option Packet × Option NoticeId)).run s = _ ∧ _
  cases counted : (if s.collision.isSome then s.ping.incrementCollisionCount else (0, s.ping)) with
  | mk count ping =>
    have shape : (outgoingPing).run s = (if 2 ≤ count then Handler.fail .collisionTimeout
        else if ping.awaitPingresp then Handler.fail .awaitPingResp
        else do
          Handler.modify fun s =>
            MqttState.pushEvent (.outgoing .pingReq) { s with ping := ping.beginWaitingForResp }
          return some .pingReq : Method (Option Packet)).run { s with ping } := by
      unfold outgoingPing
      simp only [run_get_bind, counted, run_modify_bind]
    by_cases late : 2 ≤ count
    · refine ⟨_, _, run_bind_error ?_, .pingFailed replay .collisionTimeout ping⟩
      rw [shape, run_ite, if_pos late, run_fail]
    · by_cases waiting : ping.awaitPingresp = true
      · refine ⟨_, _, run_bind_error ?_, .pingFailed replay .awaitPingResp ping⟩
        rw [shape, run_ite, if_neg late, run_ite, if_pos waiting, run_fail]
      · refine ⟨_, _, run_bind_ok ?_, .ping replay ping.beginWaitingForResp⟩
        rw [shape, run_ite, if_neg late, run_ite, if_neg waiting]
        rfl

/-- **A request never causes a panic**, unless it is a graceful disconnect, which the event loop keeps
to itself. A replayed request must come from the pool, except that any PUBREL may be repeated. -/
theorem Sound.handleOutgoing_run (sound : s.Sound pool) (request : Request)
    (notice : Option TrackedNotice) (replay : Bool) (handed : request.isLeftToEventLoop = false)
    (inPool : replay = true → request.pubRelPkid? = none → request ∈ pool) :
    ∃ result t, (handleOutgoingPacketWithNoticeInternal request notice replay).run s =
      .ok (result, t) ∧ Requested s notice request replay result t := by
  cases request with
  | publish publish => exact sound.outgoingPublish_run publish fun replayed => inPool replayed rfl
  | pubRel pubrel => exact sound.outgoingPubrel_run pubrel
  | subscribe subscription =>
    exact sound.outgoingSubscribe_run subscription fun replayed => inPool replayed rfl
  | unsubscribe unsub =>
    exact sound.outgoingUnsubscribe_run unsub fun replayed => inPool replayed rfl
  | pingReq => exact outgoingPing_run s
  | disconnectNow disconnect => exact ⟨_, _, rfl, .disconnect disconnect replay⟩
  | pubAck puback =>
    by_cases waiting : puback.pkid.toNat ∈ s.incomingPuback
    · exact ⟨_, _, run_bind_ok (outgoingPuback_run waiting), .puback puback replay waiting⟩
    · exact ⟨_, _, run_bind_error (outgoingPuback_unsolicited waiting), .rejected ..⟩
  | pubRec pubrec =>
    by_cases tracked : pubrec.pkid.toNat ∈ s.incomingPub
    · by_cases sent : pubrec.pkid.toNat ∈ s.incomingPubrec
      · refine ⟨_, _, run_bind_error ?_, .rejected _ _ (.unsolicited pubrec.pkid)⟩
        exact outgoingPubrecInternal_again tracked sent false
      · have ran := sound.outgoingPubrecInternal_sent tracked sent false
        exact ⟨_, _, run_bind_ok ran, .pubrec pubrec replay tracked sent⟩
    · exact ⟨_, _, run_bind_error (outgoingPubrecInternal_untracked tracked), .rejected ..⟩
  | auth auth => cases auth
  | pubComp => exact ⟨_, _, rfl, .rejected ..⟩
  | pingResp => exact ⟨_, _, rfl, .rejected ..⟩
  | subAck => exact ⟨_, _, rfl, .rejected ..⟩
  | unsubAck => exact ⟨_, _, rfl, .rejected ..⟩
  | disconnect => cases handed
  | disconnectWithTimeout => cases handed
  | disconnectAfterQueued => cases handed
  | disconnectAfterQueuedWithTimeout => cases handed

/-! ### The invariant -/

theorem Sound.setPing (sound : s.Sound pool) (ping : PingState) :
    MqttState.Sound { s with ping } pool := { sound with }

/-- **A PUBREL leaves the invariant with at most the releases of its identifier gone from the pool.** -/
theorem Sound.pubrelRequested (sound : s.Sound pool) {pubrel : PubRel}
    (requested : Requested s notice (.pubRel pubrel) replay result t) :
    t.Sound pool ∨ pubrel.pkid ∈ s.outgoingRelReplayOrder ∧ t.Sound (poolWithout pool pubrel.pkid) := by
  cases requested with
  | rejected => exact .inl sound
  | pubrelAgain => exact .inl ((sound.withRoom _).releasing _ _)
  | pubrelResumed _ _ member room =>
    have fewer : s.Sound (poolWithout pool pubrel.pkid) := sound.sublist List.filter_sublist
    have unheld := sound.tracked.unheld_poolWithout member
    exact .inr ⟨member, (((fewer.resuming member unheld room).withRoom _).releasing _ _)⟩

/-- **A fresh request other than a PUBREL keeps the invariant and the pool.** -/
theorem Sound.requested (sound : s.Sound pool) (notRelease : request.pubRelPkid? = none)
    (requested : Requested s notice request false result t) : t.Sound pool := by
  cases requested with
  | rejected => exact sound
  | refused publish => exact sound.withRoom _
  | qos0 publish => exact sound.pushEvent _
  | fresh publish pkid acked room nonzero free =>
    have numbered : (s.assigned publish pkid).Sound pool := sound.numbered _
    refine ((numbered.withRoom pkid).reserving nonzero free).published ?_ ?_ ?_ ?_ ?_ room _
    · exact lt_length_withRoom _ pkid
    · exact (FixedBitSet.mem_growAndInsert ..).mpr (.inl rfl)
    · exact sound.tracked.unheld_of_free free
    · exact sound.tracked.notMem_relReplayOrder_of_free free
    · exact acked
  | parked publish acked => exact (sound.withRoom _).parking acked _
  | pubrelResumed => cases notRelease
  | pubrelAgain => cases notRelease
  | subscribe subscription pkid _ nonzero free =>
    exact (sound.claiming nonzero free _).subscribing (mem_claiming s _ pkid)
      (sound.tracked.unheld_of_free free) (sound.tracked.notMem_relReplayOrder_of_free free) _
  | unsubscribe unsub pkid _ nonzero free =>
    exact (sound.claiming nonzero free _).unsubscribing (mem_claiming s _ pkid)
      (sound.tracked.unheld_of_free free) (sound.tracked.notMem_relReplayOrder_of_free free) _
  | pingFailed _ _ ping => exact sound.setPing ping
  | ping _ ping => exact (sound.setPing ping).pushEvent _
  | disconnect => exact sound.pushEvent _
  | puback => exact sound.pubackSent _
  | pubrec => exact sound.pubrecSent _

/-- **A replayed request leaves the pool.** -/
theorem Sound.replayed (sound : s.Sound (request :: rest))
    (requested : Requested s notice request true result t) : t.Sound rest := by
  have fewer : s.Sound rest := sound.sublist (List.sublist_cons_self ..)
  cases requested with
  | rejected => exact fewer
  | qos0 publish => exact fewer.pushEvent _
  | replayed publish acked room =>
    have owns : (Request.publish publish).replayPkid = some publish.pkid := if_neg acked
    refine (fewer.withRoom publish.pkid).published ?_ ?_ ?_ ?_ acked room _
    · exact lt_length_withRoom s publish.pkid
    · exact sound.tracked.inUse_of_cons owns
    · exact sound.tracked.unheld_of_cons owns
    · exact sound.tracked.notMem_relReplayOrder_of_cons owns rfl
  | pubrelResumed pubrel _ member room =>
    exact ((fewer.resuming member (sound.tracked.unheld_of_cons rfl) room).withRoom _).releasing _ _
  | pubrelAgain => exact (fewer.withRoom _).releasing _ _
  | subscribeAgain subscription =>
    exact fewer.subscribing (sound.tracked.inUse_of_cons rfl) (sound.tracked.unheld_of_cons rfl)
      (sound.tracked.notMem_relReplayOrder_of_cons rfl rfl) _
  | unsubscribeAgain unsub =>
    exact fewer.unsubscribing (sound.tracked.inUse_of_cons rfl) (sound.tracked.unheld_of_cons rfl)
      (sound.tracked.notMem_relReplayOrder_of_cons rfl rfl) _
  | pingFailed _ _ ping => exact fewer.setPing ping
  | ping _ ping => exact (fewer.setPing ping).pushEvent _
  | disconnect => exact fewer.pushEvent _
  | puback => exact fewer.pubackSent _
  | pubrec => exact fewer.pubrecSent _

end Run

end Rumqtt.V4.MqttState
