/-
**What an outgoing request can do to the MQTT 5 state machine.**

`Requested s request replay result t` lists every outcome of `handleOutgoingPacketWithNoticeInternal`
with the exact state it leaves. A fresh request and a replayed request of the pool always end in one
of them (`Sound.handleOutgoing_run`, `Sound.handleReplay_run`), and the invariant is kept; a replayed
request leaves the pool.
-/

import Rumqtt.Flows.HandedOut
import Rumqtt.V5.Sending

namespace Rumqtt.V5.MqttState

open Handler

variable {s t : MqttState} {pool rest : List Request} {pkid : PacketId}

/-! ### Every outcome -/

/-- What lets a publish through: the broker supports it, the quota has room for it, and its alias is
known. -/
structure Admitted (s : MqttState) (publish : Publish) : Prop where
  supported : s.broker.unsupportedPublishCapability publish = none
  quota : publish.qos ≠ .atMostOnce → s.inflight < s.maxOutgoingInflight.toNat
  aliasValid : s.topicAliases.validateOutgoingTopicAlias
    (s.topicAliases.applyAutoTopicAlias publish).1 = .ok ()

/-- The search position moves when the publish came without an identifier. -/
def assigned (s : MqttState) (publish : Publish) (pkid : PacketId) : MqttState :=
  s.numbered (if publish.pkid = 0 then pkid else s.lastPkid)

/-- **The outcomes of an outgoing request.** -/
inductive Requested (s : MqttState) (notice : Option TrackedNotice) :
    Request → Bool → RequestResult → MqttState → Prop where
  /-- The request is an error and nothing changes. -/
  | rejected (request : Request) (replay : Bool) (error : StateError) :
    Requested s notice request replay (.error error) s
  /-- Another flow owns the identifier of the publish; only the capacity has changed. -/
  | refused (publish : Publish) :
    Requested s notice (.publish publish) false (.error .invalidState) (s.withRoom publish.pkid)
  | qos0 (publish : Publish) (replay : Bool) (unacked : publish.qos = .atMostOnce)
    (admitted : s.Admitted publish) :
    Requested s notice (.publish publish) replay
      (.ok (some (.publish (s.wire publish publish.pkid)), notice.bind TrackedNotice.publish?))
      (recordPublish (s.wire publish publish.pkid) (s.aliasAction publish) s)
  | fresh (publish : Publish) (pkid : PacketId) (acked : publish.qos ≠ .atMostOnce)
    (admitted : s.Admitted publish) (nonzero : pkid ≠ 0) (free : pkid.toNat ∉ s.outboundPkidInUse)
    (choice : publish.pkid = 0 ∨ publish.pkid = pkid) :
    Requested s notice (.publish publish) false (.ok (some (.publish (s.wire publish pkid)), none))
      ((((s.assigned publish pkid).withRoom pkid).reserving pkid).published (s.wire publish pkid)
        (notice.bind TrackedNotice.publish?) (s.aliasAction publish))
  | parked (publish : Publish) (acked : publish.qos ≠ .atMostOnce) (admitted : s.Admitted publish)
    (occupied : publish.pkid ∈ s.outgoingPubOrder) :
    Requested s notice (.publish publish) false (.ok (none, none))
      ((s.withRoom publish.pkid).parking (s.wire publish publish.pkid)
        (notice.bind TrackedNotice.publish?) (s.aliasAction publish))
  | replayed (publish : Publish) (acked : publish.qos ≠ .atMostOnce) (admitted : s.Admitted publish) :
    Requested s notice (.publish publish) true
      (.ok (some (.publish (s.wire publish publish.pkid)), none))
      ((s.withRoom publish.pkid).published (s.wire publish publish.pkid)
        (notice.bind TrackedNotice.publish?) (s.aliasAction publish))
  | pubrelResumed (pubrel : PubRel) (replay : Bool) (member : pubrel.pkid ∈ s.outgoingRelReplayOrder) :
    Requested s notice (.pubRel pubrel) replay (.ok (some (.pubRel { pkid := pubrel.pkid }), none))
      (((s.withRoom pubrel.pkid).resuming pubrel.pkid).releasing pubrel.pkid
        (notice.bind TrackedNotice.publish?))
  | pubrelAgain (pubrel : PubRel) (replay : Bool) (member : pubrel.pkid ∈ s.outgoingRelOrder) :
    Requested s notice (.pubRel pubrel) replay (.ok (some (.pubRel { pkid := pubrel.pkid }), none))
      ((s.withRoom pubrel.pkid).releasing pubrel.pkid (notice.bind TrackedNotice.publish?))
  | subscribe (subscription : Subscribe) (pkid : PacketId)
    (valid : s.validateOutgoingSubscribe subscription = .ok ()) (nonzero : pkid ≠ 0)
    (free : pkid.toNat ∉ s.outboundPkidInUse)
    (choice : subscription.pkid = 0 ∨ pkid = subscription.pkid) :
    Requested s notice (.subscribe subscription) false
      (.ok (some (.subscribe { subscription with pkid }), none))
      ((s.claiming pkid).subscribing { subscription with pkid } (notice.bind TrackedNotice.subscribe?))
  | subscribeAgain (subscription : Subscribe)
    (valid : s.validateOutgoingSubscribe subscription = .ok ()) :
    Requested s notice (.subscribe subscription) true (.ok (some (.subscribe subscription), none))
      (s.subscribing subscription (notice.bind TrackedNotice.subscribe?))
  | unsubscribe (unsub : Unsubscribe) (pkid : PacketId)
    (valid : validateOutgoingUnsubscribe unsub = .ok ()) (nonzero : pkid ≠ 0)
    (free : pkid.toNat ∉ s.outboundPkidInUse) (choice : unsub.pkid = 0 ∨ pkid = unsub.pkid) :
    Requested s notice (.unsubscribe unsub) false (.ok (some (.unsubscribe { unsub with pkid }), none))
      ((s.claiming pkid).unsubscribing { unsub with pkid } (notice.bind TrackedNotice.unsubscribe?))
  | unsubscribeAgain (unsub : Unsubscribe) (valid : validateOutgoingUnsubscribe unsub = .ok ()) :
    Requested s notice (.unsubscribe unsub) true (.ok (some (.unsubscribe unsub), none))
      (s.unsubscribing unsub (notice.bind TrackedNotice.unsubscribe?))
  | pingFailed (replay : Bool) (error : StateError) (ping : PingState) :
    Requested s notice .pingReq replay (.error error) { s with ping }
  | ping (replay : Bool) (ping : PingState) :
    Requested s notice .pingReq replay (.ok (some .pingReq, none))
      (MqttState.pushEvent (.outgoing .pingReq) { s with ping })
  | disconnect (disconnect : Disconnect) (replay : Bool) :
    Requested s notice (.disconnectNow disconnect) replay
      (.ok (some (.disconnect disconnect), none)) s.disconnecting
  | puback (puback : PubAck) (replay : Bool) (waiting : puback.pkid.toNat ∈ s.incomingPuback) :
    Requested s notice (.pubAck puback) replay (.ok (some (.pubAck puback), none))
      (s.pubackSent puback.pkid)
  | pubrec (pubrec : PubRec) (replay : Bool) (tracked : pubrec.pkid.toNat ∈ s.incomingPub)
    (unsent : pubrec.pkid.toNat ∉ s.incomingPubrec) (success : pubrec.reason.code < 0x80) :
    Requested s notice (.pubRec pubrec) replay (.ok (some (.pubRec pubrec), none))
      (s.pubrecSent pubrec.pkid)
  | pubrecFailure (pubrec : PubRec) (replay : Bool) (tracked : pubrec.pkid.toNat ∈ s.incomingPub)
    (unsent : pubrec.pkid.toNat ∉ s.incomingPubrec) (failure : 0x80 ≤ pubrec.reason.code) :
    Requested s notice (.pubRec pubrec) replay (.ok (some (.pubRec pubrec), none))
      (s.pubrecRefused pubrec.pkid)
  | auth (packet : Auth) (replay : Bool) (result : Except StateError Auth) (a : Authentication)
    (kept : Raises s.events a.events) :
    Requested s notice (.auth packet) replay (result.map fun auth => (some (.auth auth), none))
      (s.putAuthentication a)

section RunPublish

variable {publish : Publish} {notice : Option TrackedNotice} {replay : Bool}

/-- The checks in front of every publish: an error that changes nothing, or the publish goes on. -/
theorem outgoingPublish_cases (s : MqttState) (publish : Publish) (notice : Option NoticeId)
    (replay : Bool) :
    (∃ error, (outgoingPublishWithNoticeInternal publish notice replay).run s =
      .ok (.error error, s)) ∨
    (s.Admitted publish ∧ (outgoingPublishWithNoticeInternal publish notice replay).run s =
      if publish.qos = .atMostOnce then
        .ok (.ok (some (.publish (s.wire publish publish.pkid)), notice),
          recordPublish (s.wire publish publish.pkid) (s.aliasAction publish) s)
      else (sendTrackedPublish (s.topicAliases.applyAutoTopicAlias publish).1 notice
        (s.aliasAction publish) replay).run s) := by
  unfold outgoingPublishWithNoticeInternal
  rw [run_get_bind]
  cases supported : s.broker.unsupportedPublishCapability publish with
  | some unsupported => exact .inl ⟨_, rfl⟩
  | none =>
    dsimp only
    by_cases full : publish.qos ≠ .atMostOnce ∧ s.inflight ≥ s.maxOutgoingInflight.toNat
    · rw [if_pos full]
      exact .inl ⟨_, rfl⟩
    · rw [if_neg full]
      cases aliasValid : s.topicAliases.validateOutgoingTopicAlias
          (s.topicAliases.applyAutoTopicAlias publish).1 with
      | error error => exact .inl ⟨error, run_bind_error (run_ofExcept_error ..)⟩
      | ok =>
        have room : publish.qos ≠ .atMostOnce → s.inflight < s.maxOutgoingInflight.toNat :=
          fun acked => Nat.lt_of_not_le fun exceeded => full ⟨acked, exceeded⟩
        refine .inr ⟨⟨supported, room, aliasValid⟩, ?_⟩
        refine (run_bind_ok (run_ofExcept_ok () s)).trans ?_
        rw [qos_applyAutoTopicAlias, run_ite, wire_self]
        rfl

theorem run_sendTracked_true {tracked : Publish} {noticeId : Option NoticeId}
    {action : Option AutoTopicAliasAction} {u : MqttState} {assigned : Publish}
    (assign : (assignPublishPkid tracked replay).run s = .ok (.ok assigned, t))
    (stored : (trackOutgoingPublish assigned noticeId action replay).run t = .ok (.ok true, u)) :
    (sendTrackedPublish tracked noticeId action replay).run s =
      .ok (.ok (some (.publish assigned), none), recordPublish assigned action u) :=
  (run_bind_ok assign).trans (run_bind_ok stored)

theorem assignPublishPkid_given {tracked : Publish} (nonzero : tracked.pkid ≠ 0) :
    (assignPublishPkid tracked replay).run s = .ok (.ok tracked, s) := by
  unfold assignPublishPkid
  rw [run_ite, if_pos nonzero]
  rfl

theorem assigned_given (s : MqttState) (pkid : PacketId) (nonzero : publish.pkid ≠ 0) :
    s.assigned publish pkid = s := by
  unfold assigned
  rw [if_neg nonzero]
  rfl

/-- A publish with a free identifier, its own or the next one, is stored and sent. -/
theorem Sound.sendTracked_fresh (sound : s.Sound pool) (noticeId : Option NoticeId) {pkid : PacketId}
    (choice : publish.pkid = 0 ∧ s.nextPublishPkid = some pkid ∨
      publish.pkid = pkid ∧ pkid ≠ 0 ∧ pkid.toNat ∉ s.outboundPkidInUse) :
    (sendTrackedPublish (s.topicAliases.applyAutoTopicAlias publish).1 noticeId
      (s.aliasAction publish) false).run s = .ok (.ok (some (.publish (s.wire publish pkid)), none),
          (((s.assigned publish pkid).withRoom pkid).reserving pkid).published (s.wire publish pkid)
            noticeId (s.aliasAction publish)) := by
  rcases choice with ⟨given, found⟩ | ⟨rfl, nonzero, free⟩
  · obtain ⟨nonzero, free⟩ := PacketIds.nextFreeOutboundPkidAfter_free found
    have zero : ¬ (s.topicAliases.applyAutoTopicAlias publish).1.pkid ≠ 0 := by
      rw [pkid_applyAutoTopicAlias]
      exact not_not.mpr given
    have moved : s.assigned publish pkid = s.numbered pkid := by
      unfold assigned
      rw [if_pos given]
    have assign : (assignPublishPkid (s.topicAliases.applyAutoTopicAlias publish).1 false).run s =
        .ok (.ok (s.wire publish pkid), s.numbered pkid) := by
      unfold assignPublishPkid
      rw [run_ite, if_neg zero, run_ite, if_neg (by decide), run_get_bind]
      simp only [PacketIds.nextPkid, found, Option.map_some]
      rfl
    have wired : (s.wire publish pkid).pkid.toNat ∉ (s.numbered pkid).outboundPkidInUse := free
    rw [moved]
    exact run_sendTracked_true assign ((sound.numbered pkid).track_fresh nonzero wired)
  · rw [← wire_self, assigned_given s publish.pkid nonzero]
    exact run_sendTracked_true (assignPublishPkid_given nonzero) (sound.track_fresh nonzero free)

theorem Sound.sendTracked_run (sound : s.Sound pool) (acked : publish.qos ≠ .atMostOnce)
    (admitted : s.Admitted publish) :
    ∃ result t, (sendTrackedPublish (s.topicAliases.applyAutoTopicAlias publish).1
      (notice.bind TrackedNotice.publish?) (s.aliasAction publish) false).run s = .ok (result, t) ∧
        Requested s notice (.publish publish) false result t := by
  by_cases given : publish.pkid = 0
  · cases found : s.toPacketIds.nextPublishPkid with
    | none =>
      have zero : ¬ (s.topicAliases.applyAutoTopicAlias publish).1.pkid ≠ 0 := by
        rw [pkid_applyAutoTopicAlias]
        exact not_not.mpr given
      refine ⟨_, _, run_bind_error ?_, .rejected _ _ .invalidState⟩
      unfold assignPublishPkid
      rw [run_ite, if_neg zero, run_ite, if_neg (by decide), run_get_bind]
      simp only [PacketIds.nextPkid, found, Option.map_none]
      rfl
    | some pkid =>
      obtain ⟨nonzero, free⟩ := PacketIds.nextFreeOutboundPkidAfter_free found
      exact ⟨_, _, sound.sendTracked_fresh _ (.inl ⟨given, found⟩),
        .fresh publish pkid acked admitted nonzero free (.inl given)⟩
  · have nonzero : (s.wire publish publish.pkid).pkid ≠ 0 := given
    have assign : (assignPublishPkid (s.wire publish publish.pkid) false).run s = _ :=
      assignPublishPkid_given nonzero
    by_cases occupied : publish.pkid ∈ s.outgoingPubOrder
    · rw [← wire_self]
      refine ⟨_, _, ?_, .parked publish acked admitted occupied⟩
      exact (run_bind_ok assign).trans (run_bind_ok (sound.track_parked nonzero occupied false))
    · by_cases taken : publish.pkid.toNat ∈ s.outboundPkidInUse
      · rw [← wire_self]
        refine ⟨_, _, ?_, .refused publish⟩
        exact (run_bind_ok assign).trans
          (run_bind_error (sound.track_refused nonzero occupied taken))
      · exact ⟨_, _, sound.sendTracked_fresh _ (.inr ⟨rfl, given, taken⟩),
          .fresh publish publish.pkid acked admitted given taken (.inr rfl)⟩

theorem Sound.replayTracked_run (sound : s.Sound (.publish publish :: rest))
    (acked : publish.qos ≠ .atMostOnce) :
    (sendTrackedPublish (s.topicAliases.applyAutoTopicAlias publish).1
      (notice.bind TrackedNotice.publish?) (s.aliasAction publish) true).run s =
        .ok (.ok (some (.publish (s.wire publish publish.pkid)), none),
          (s.withRoom publish.pkid).published (s.wire publish publish.pkid)
            (notice.bind TrackedNotice.publish?) (s.aliasAction publish)) := by
  have owns : (Request.publish publish).replayPkid = some publish.pkid := if_neg acked
  have nonzero := sound.tracked.ids.ne_zero (sound.tracked.inUse_of_cons owns)
  rw [← wire_self]
  exact run_sendTracked_true (assignPublishPkid_given nonzero) (sound.track_replay owns rfl)

end RunPublish

/-! ### The run of a request -/

section Run

variable {request : Request} {notice : Option TrackedNotice} {replay : Bool}
variable {result : RequestResult}

section

variable (sound : s.Sound pool)
include sound

theorem Sound.toFront (member : request ∈ pool) :
    ∃ rest, s.Sound (request :: rest) := by
  obtain ⟨before, after, rfl⟩ := List.append_of_mem member
  exact ⟨before ++ after, sound.perm List.perm_middle⟩

theorem Sound.outgoingPublish_run (publish : Publish)
    (inPool : replay = true → .publish publish ∈ pool) :
    ∃ result t, (outgoingPublishWithNoticeInternal publish (notice.bind TrackedNotice.publish?)
      replay).run s = .ok (result, t) ∧ Requested s notice (.publish publish) replay result t := by
  rcases outgoingPublish_cases s publish (notice.bind TrackedNotice.publish?) replay with
    ⟨error, ran⟩ | ⟨admitted, ran⟩
  · exact ⟨_, _, ran, .rejected ..⟩
  · rw [ran]
    by_cases unacked : publish.qos = .atMostOnce
    · rw [if_pos unacked]
      exact ⟨_, _, rfl, .qos0 publish replay unacked admitted⟩
    · rw [if_neg unacked]
      cases replay with
      | false => exact sound.sendTracked_run unacked admitted
      | true =>
        obtain ⟨rest, front⟩ := sound.toFront (inPool rfl)
        exact ⟨_, _, front.replayTracked_run unacked, .replayed publish unacked admitted⟩

theorem Sound.accept_run (inUse : pkid.toNat ∈ s.outboundPkidInUse) :
    (Handler.ofExcept (s.acceptReplayedOutboundPkid pkid) : Method Unit).run s = .ok (.ok (), s) := by
  rw [PacketIds.acceptReplayedOutboundPkid_ok (sound.tracked.ids.ne_zero inUse) inUse]
  rfl

theorem Sound.outgoingSubscribe_run (subscription : Subscribe)
    (inPool : replay = true → .subscribe subscription ∈ pool) :
    ∃ result t, (handleOutgoingPacketWithNoticeInternal (.subscribe subscription) notice replay).run s =
      .ok (result, t) ∧ Requested s notice (.subscribe subscription) replay result t := by
  cases valid : s.validateOutgoingSubscribe subscription with
  | error error =>
    have refused := run_refused valid s
    refine ⟨_, _, run_bind_error ?_, .rejected _ _ error⟩
    cases replay <;> exact (run_get_bind ..).trans (run_bind_error refused)
  | ok =>
    have checked := run_passed valid s
    cases replay with
    | false =>
      rcases sound.claimControlPkid_cases subscription.pkid with
        ⟨error, claimed⟩ | ⟨pkid, nonzero, free, choice, claimed⟩
      · refine ⟨_, _, run_bind_error ?_, .rejected _ _ error⟩
        exact (run_bind_ok checked).trans (run_bind_error claimed)
      · refine ⟨_, _, run_bind_ok ?_, .subscribe subscription pkid valid nonzero free choice⟩
        exact (run_bind_ok checked).trans (run_bind_ok claimed)
    | true =>
      obtain ⟨rest, front⟩ := sound.toFront (inPool rfl)
      have inUse := front.tracked.inUse_of_cons rfl
      have accepted := front.accept_run inUse
      refine ⟨_, _, run_bind_ok ?_, .subscribeAgain subscription valid⟩
      exact (run_bind_ok checked).trans (run_bind_ok accepted)

theorem Sound.outgoingUnsubscribe_run (unsub : Unsubscribe)
    (inPool : replay = true → .unsubscribe unsub ∈ pool) :
    ∃ result t, (handleOutgoingPacketWithNoticeInternal (.unsubscribe unsub) notice replay).run s =
      .ok (result, t) ∧ Requested s notice (.unsubscribe unsub) replay result t := by
  cases valid : validateOutgoingUnsubscribe unsub with
  | error error =>
    have refused := run_refused valid s
    refine ⟨_, _, run_bind_error ?_, .rejected _ _ error⟩
    cases replay <;> exact run_bind_error refused
  | ok =>
    have checked := run_passed valid s
    cases replay with
    | false =>
      rcases sound.claimControlPkid_cases unsub.pkid with
        ⟨error, claimed⟩ | ⟨pkid, nonzero, free, choice, claimed⟩
      · refine ⟨_, _, run_bind_error ?_, .rejected _ _ error⟩
        exact (run_bind_ok checked).trans (run_bind_error claimed)
      · refine ⟨_, _, run_bind_ok ?_, .unsubscribe unsub pkid valid nonzero free choice⟩
        exact (run_bind_ok checked).trans (run_bind_ok claimed)
    | true =>
      obtain ⟨rest, front⟩ := sound.toFront (inPool rfl)
      have inUse := front.tracked.inUse_of_cons rfl
      have accepted := front.accept_run inUse
      refine ⟨_, _, run_bind_ok ?_, .unsubscribeAgain unsub valid⟩
      exact (run_bind_ok checked).trans ((run_get_bind ..).trans (run_bind_ok accepted))

theorem Sound.outgoingPubrel_run (pubrel : PubRel) :
    ∃ result t, (outgoingPubrelWithNotice pubrel (notice.bind TrackedNotice.publish?)).run s =
      .ok (result, t) ∧ Requested s notice (.pubRel pubrel) replay result t := by
  by_cases member : pubrel.pkid ∈ s.outgoingRelReplayOrder
  · have fewer : s.Sound (poolWithout pool pubrel.pkid) := sound.sublist List.filter_sublist
    exact ⟨_, _, fewer.outgoingPubrel_resumed member (sound.tracked.unheld_poolWithout member),
      .pubrelResumed pubrel replay member⟩
  · by_cases active : pubrel.pkid ∈ s.outgoingRelOrder
    · exact ⟨_, _, sound.outgoingPubrel_again active, .pubrelAgain pubrel replay active⟩
    · exact ⟨_, _, sound.outgoingPubrel_unknown member active, .rejected ..⟩

end

theorem outgoingPing_run (s : MqttState) :
    ∃ result t, (handleOutgoingPacketWithNoticeInternal .pingReq notice replay).run s =
      .ok (result, t) ∧ Requested s notice .pingReq replay result t := by
  show ∃ result t, (outgoingPing >>= fun packet => pure (packet, none) :
    Method (Option Packet × Option NoticeId)).run s = _ ∧ _
  cases counted : (if s.collision.isSome then s.ping.incrementCollisionCount else (0, s.ping)) with
  | mk count ping =>
    have shape : (outgoingPing).run s = (if 2 ≤ count then Handler.fail .collisionTimeout
        else if ping.awaitPingresp then Handler.fail .awaitPingResp
        else do
          Handler.modify fun s =>
            MqttState.pushEvent (.outgoing .pingReq) { s with ping := ping.beginWaitingForResp }
          return some .pingReq : Method (Option Packet)).run { s with ping } := by
      unfold outgoingPing
      simp only [run_get_bind, counted, run_modify_bind]
    by_cases late : 2 ≤ count
    · refine ⟨_, _, run_bind_error ?_, .pingFailed replay .collisionTimeout ping⟩
      rw [shape, run_ite, if_pos late, run_fail]
    · by_cases waiting : ping.awaitPingresp = true
      · refine ⟨_, _, run_bind_error ?_, .pingFailed replay .awaitPingResp ping⟩
        rw [shape, run_ite, if_neg late, run_ite, if_pos waiting, run_fail]
      · refine ⟨_, _, run_bind_ok ?_, .ping replay ping.beginWaitingForResp⟩
        rw [shape, run_ite, if_neg late, run_ite, if_neg waiting]
        rfl

/-- **A request never causes a panic**, unless it is a graceful disconnect, which the event loop keeps
to itself. A replayed request must come from the pool, except that any PUBREL may be repeated. -/
theorem Sound.handleOutgoing_run (sound : s.Sound pool) (request : Request)
    (notice : Option TrackedNotice) (replay : Bool) (handed : request.isLeftToEventLoop = false)
    (inPool : replay = true → request.pubRelPkid? = none → request ∈ pool) :
    ∃ result t, (handleOutgoingPacketWithNoticeInternal request notice replay).run s =
      .ok (result, t) ∧ Requested s notice request replay result t := by
  cases request with
  | publish publish => exact sound.outgoingPublish_run publish fun replayed => inPool replayed rfl
  | pubRel pubrel => exact sound.outgoingPubrel_run pubrel
  | subscribe subscription =>
    exact sound.outgoingSubscribe_run subscription fun replayed => inPool replayed rfl
  | unsubscribe unsub =>
    exact sound.outgoingUnsubscribe_run unsub fun replayed => inPool replayed rfl
  | pingReq => exact outgoingPing_run s
  | disconnectNow disconnect =>
    exact ⟨_, _, run_bind_ok (outgoingDisconnect_run s disconnect), .disconnect disconnect replay⟩
  | pubAck puback =>
    by_cases waiting : puback.pkid.toNat ∈ s.incomingPuback
    · exact ⟨_, _, run_bind_ok (sound.outgoingPuback_run waiting), .puback puback replay waiting⟩
    · exact ⟨_, _, run_bind_error (outgoingPuback_unsolicited waiting), .rejected ..⟩
  | pubRec pubrec =>
    by_cases tracked : pubrec.pkid.toNat ∈ s.incomingPub
    · by_cases sent : pubrec.pkid.toNat ∈ s.incomingPubrec
      · refine ⟨_, _, run_bind_error ?_, .rejected _ _ (.unsolicited pubrec.pkid)⟩
        exact outgoingPubrecInternal_again tracked sent false
      · by_cases failure : 0x80 ≤ pubrec.reason.code
        · have ran := sound.outgoingPubrecInternal_refused tracked sent failure false
          exact ⟨_, _, run_bind_ok ran, .pubrecFailure pubrec replay tracked sent failure⟩
        · have success := Nat.lt_of_not_le failure
          have ran := sound.outgoingPubrecInternal_sent tracked sent success false
          exact ⟨_, _, run_bind_ok ran, .pubrec pubrec replay tracked sent success⟩
    · exact ⟨_, _, run_bind_error (outgoingPubrecInternal_untracked tracked), .rejected ..⟩
  | auth auth =>
    obtain ⟨result, a, ran, kept⟩ := Authentication.adds_outgoingAuth auth
      (notice.bind TrackedNotice.auth?) s.toAuthentication
    refine ⟨_, _, ?_, .auth auth replay result a kept⟩
    cases result with
    | error error => exact run_bind_error (run_zoom ran)
    | ok answer => exact run_bind_ok (run_zoom ran)
  | pubComp => exact ⟨_, _, rfl, .rejected ..⟩
  | pingResp => exact ⟨_, _, rfl, .rejected ..⟩
  | subAck => exact ⟨_, _, rfl, .rejected ..⟩
  | unsubAck => exact ⟨_, _, rfl, .rejected ..⟩
  | disconnect => cases handed
  | disconnectWithTimeout => cases handed
  | disconnectAfterQueued => cases handed
  | disconnectAfterQueuedWithTimeout => cases handed

/-! ### The invariant -/

theorem Sound.recordPublish (sound : s.Sound pool) (publish : Publish)
    (action : Option AutoTopicAliasAction) : (MqttState.recordPublish publish action s).Sound pool :=
  { sound with }

theorem Sound.assigned (sound : s.Sound pool) (publish : Publish) (pkid : PacketId) :
    (s.assigned publish pkid).Sound pool := sound.numbered _

theorem Sound.setPing (sound : s.Sound pool) (ping : PingState) :
    MqttState.Sound { s with ping } pool := { sound with }

/-- **A PUBREL leaves the invariant with at most the releases of its identifier gone from the pool.** -/
theorem Sound.pubrelRequested (sound : s.Sound pool) {pubrel : PubRel}
    (requested : Requested s notice (.pubRel pubrel) replay result t) :
    t.Sound pool ∨ pubrel.pkid ∈ s.outgoingRelReplayOrder ∧ t.Sound (poolWithout pool pubrel.pkid) := by
  cases requested with
  | rejected => exact .inl sound
  | pubrelAgain => exact .inl ((sound.withRoom _).releasing _ _)
  | pubrelResumed _ _ member =>
    have fewer : s.Sound (poolWithout pool pubrel.pkid) := sound.sublist List.filter_sublist
    have unheld := sound.tracked.unheld_poolWithout member
    exact .inr ⟨member, (((fewer.withRoom _).resuming member unheld).releasing _ _)⟩

/-- **A fresh request other than a PUBREL keeps the invariant and the pool.** -/
theorem Sound.requested (sound : s.Sound pool) (notRelease : request.pubRelPkid? = none)
    (requested : Requested s notice request false result t) : t.Sound pool := by
  cases requested with
  | rejected => exact sound
  | refused publish => exact sound.withRoom _
  | qos0 publish => exact sound.recordPublish _ _
  | fresh publish pkid acked _ nonzero free =>
    have roomy := (sound.assigned publish pkid).withRoom pkid
    refine (roomy.reserving nonzero free).published ?_ ?_ ?_ ?_ ?_ _ _
    · exact lt_length_withRoom _ pkid
    · exact (FixedBitSet.mem_growAndInsert ..).mpr (.inl rfl)
    · exact sound.tracked.unheld_of_free free
    · exact sound.tracked.notMem_relReplayOrder_of_free free
    · rwa [qos_wire]
  | parked publish acked => exact (sound.withRoom _).parking (by rwa [qos_wire]) _ _
  | pubrelResumed => cases notRelease
  | pubrelAgain => cases notRelease
  | subscribe subscription pkid _ nonzero free =>
    exact (sound.claiming nonzero free).subscribing (mem_claiming s pkid)
      (sound.tracked.unheld_of_free free) (sound.tracked.notMem_relReplayOrder_of_free free) _
  | unsubscribe unsub pkid _ nonzero free =>
    exact (sound.claiming nonzero free).unsubscribing (mem_claiming s pkid)
      (sound.tracked.unheld_of_free free) (sound.tracked.notMem_relReplayOrder_of_free free) _
  | pingFailed _ _ ping => exact sound.setPing ping
  | ping _ ping => exact (sound.setPing ping).pushEvent _
  | disconnect => exact sound.disconnecting
  | puback => exact sound.pubackSent _
  | pubrec => exact sound.pubrecSent _
  | pubrecFailure => exact sound.pubrecRefused _
  | auth _ _ _ a => exact sound.putAuthentication a

/-- **A replayed request leaves the pool.** -/
theorem Sound.replayed (sound : s.Sound (request :: rest))
    (requested : Requested s notice request true result t) : t.Sound rest := by
  have fewer : s.Sound rest := sound.sublist (List.sublist_cons_self ..)
  cases requested with
  | rejected => exact fewer
  | qos0 publish => exact fewer.recordPublish _ _
  | replayed publish acked =>
    have owns : (Request.publish publish).replayPkid = some publish.pkid := if_neg acked
    refine (fewer.withRoom publish.pkid).published ?_ ?_ ?_ ?_ ?_ _ _
    · exact lt_length_withRoom s publish.pkid
    · exact sound.tracked.inUse_of_cons owns
    · exact sound.tracked.unheld_of_cons owns
    · exact sound.tracked.notMem_relReplayOrder_of_cons owns rfl
    · rwa [qos_wire]
  | pubrelResumed pubrel _ member =>
    exact ((fewer.withRoom _).resuming member (sound.tracked.unheld_of_cons rfl)).releasing _ _
  | pubrelAgain => exact (fewer.withRoom _).releasing _ _
  | subscribeAgain subscription =>
    exact fewer.subscribing (sound.tracked.inUse_of_cons rfl) (sound.tracked.unheld_of_cons rfl)
      (sound.tracked.notMem_relReplayOrder_of_cons rfl rfl) _
  | unsubscribeAgain unsub =>
    exact fewer.unsubscribing (sound.tracked.inUse_of_cons rfl) (sound.tracked.unheld_of_cons rfl)
      (sound.tracked.notMem_relReplayOrder_of_cons rfl rfl) _
  | pingFailed _ _ ping => exact fewer.setPing ping
  | ping _ ping => exact (fewer.setPing ping).pushEvent _
  | disconnect => exact fewer.disconnecting
  | puback => exact fewer.pubackSent _
  | pubrec => exact fewer.pubrecSent _
  | pubrecFailure => exact fewer.pubrecRefused _
  | auth _ _ _ a => exact fewer.putAuthentication a

end Run

end Rumqtt.V5.MqttState
