/-
**Scheduler readiness agrees with the MQTT 5 state machine.**

Before the event loop takes a request from its queue it classifies it: `classifyEnvelope` asks the
state machine whether the request can be sent now. The transition that then runs checks the same
things again, in its own words. The two agree on every state an event loop can reach:
a request that is ready and passes the checks on capabilities and aliases becomes one packet.

* `TopicAliasState.InRange`: aliases that the client assigns by itself are ones the broker accepts;
* `MqttState.Schedulable`, `Driver.Scheduling`: the invariants behind the agreement;
* `Driver.Reachable`: the states of event loops, restarts from a checkpoint included;
* `ready_request_sends_one_packet` is the agreement.
-/

import Rumqtt.Flows.Checkpoint
import Rumqtt.Scheduler
import Rumqtt.V5.Driver

namespace Rumqtt.V5

open Handler List Function

/-! ### Classification -/

/-- A request on its way through the event loop. -/
structure RequestEnvelope where
  request : Request
  notice : Option TrackedNotice
  replay : Bool

def requestNeedsFreshClientPacketId : Request → Bool
  | .subscribe _ | .unsubscribe _ => true
  | _ => false

def RequestReadiness.ofBool (ready : Bool) : RequestReadiness := if ready then .ready else .blocked

def classifyPublishOrControlRequest (request : Request) (canSendPublish : Publish → Bool)
    (canSendControl : Bool) : ScheduledRequest :=
  match request with
  | .disconnectAfterQueued _ | .disconnectAfterQueuedWithTimeout .. => ⟨.fence, .ready⟩
  | .publish publish =>
    if publish.qos ≠ .atMostOnce then
      ⟨.flowControlledPublish, RequestReadiness.ofBool (canSendPublish publish)⟩
    else ⟨.publish, .ready⟩
  | request =>
    if requestNeedsFreshClientPacketId request then
      ⟨.control, RequestReadiness.ofBool canSendControl⟩
    else ⟨.control, .ready⟩

def classifyRequest (s : MqttState) (request : Request) : ScheduledRequest :=
  classifyPublishOrControlRequest request s.canSendPublish s.controlPacketIdentifierAvailable

def classifyReplayRequest (s : MqttState) (request : Request) : ScheduledRequest :=
  match request with
  | .pubRel pubrel => ⟨.control, RequestReadiness.ofBool (s.canSendPubrel pubrel.pkid)⟩
  | request =>
    classifyPublishOrControlRequest request s.canSendReplayedPublish
      (match request with
      | .subscribe subscribe => s.canSendReplayedControlPacket subscribe.pkid
      | .unsubscribe unsubscribe => s.canSendReplayedControlPacket unsubscribe.pkid
      | _ => true)

def classifyEnvelope (s : MqttState) (envelope : RequestEnvelope) : ScheduledRequest :=
  if envelope.replay then classifyReplayRequest s envelope.request
  else classifyRequest s envelope.request

@[simp] theorem ofBool_eq_ready {ready : Bool} :
    RequestReadiness.ofBool ready = .ready ↔ ready = true := by
  cases ready <;> decide

theorem publish_of_ready {publish : Publish} {canSend : Publish → Bool} (control : Bool)
    (ready : (classifyPublishOrControlRequest (.publish publish) canSend control).readiness = .ready)
    (acked : publish.qos ≠ .atMostOnce) : canSend publish = true := by
  simp only [classifyPublishOrControlRequest, if_pos acked] at ready
  exact ofBool_eq_ready.mp ready

/-! ### Aliases the client assigns by itself -/

namespace TopicAliasState

variable {a : TopicAliasState} {publish : Publish}

/-- An alias that the broker accepts. -/
def Accepts (a : TopicAliasState) (aliasId : UInt16) : Prop := aliasId ≠ 0 ∧ aliasId ≤ a.brokerMax

/-- **Automatic aliases are ones the broker accepts.** -/
structure InRange (a : TopicAliasState) : Prop where
  assigned : ∀ topic aliasId, a.autoOutgoing topic = some aliasId → a.Accepts aliasId
  next : a.nextAuto ≠ some 0

theorem inRange_empty (auto : a.autoOutgoing = fun _ => none) (next : a.nextAuto = some 1) :
    a.InRange := by
  refine ⟨fun topic aliasId found => ?_, ?_⟩
  · rw [auto] at found
    cases found
  · rw [next]
    decide

theorem ne_zero_succ {aliasId : UInt16} (last : aliasId ≠ 65535) : aliasId + 1 ≠ 0 := by
  intro zero
  have wrapped : (aliasId.toNat + 1) % 65536 = 0 := congrArg UInt16.toNat zero
  have bounded := aliasId.toNat_lt
  refine last (UInt16.toNat_inj.mp ?_)
  show aliasId.toNat = 65535
  omega

theorem accepts_of_firstUnbound {count : Nat} {start aliasId : UInt16} (nonzero : start ≠ 0)
    (found : a.firstUnbound count start = some aliasId) : a.Accepts aliasId := by
  induction count generalizing start with
  | zero => cases found
  | succ count ih =>
    unfold firstUnbound at found
    split at found
    · cases found
    · rename_i within
      split at found
      · cases found
        exact ⟨nonzero, UInt16.not_lt.mp within⟩
      · split at found
        · cases found
        · rename_i notLast
          exact ih (ne_zero_succ notLast) found

theorem advanceFrom_ne_zero {fuel : Nat} {start : UInt16} (nonzero : start ≠ 0) :
    a.advanceFrom fuel start ≠ some 0 := by
  induction fuel generalizing start with
  | zero => exact Option.some_ne_none 0 ∘ Eq.symm
  | succ fuel ih =>
    unfold advanceFrom
    split
    · split
      · exact Option.some_ne_none 0 ∘ Eq.symm
      · rename_i notLast
        exact ih (ne_zero_succ notLast)
    · split
      · exact fun same => nonzero (Option.some_injective _ same)
      · exact Option.some_ne_none 0 ∘ Eq.symm

section

variable (inRange : a.InRange)
include inRange

theorem InRange.accepts_assignment {aliasId : UInt16} {previous : Option Bytes}
    (found : a.nextAutoTopicAliasAssignment = some (aliasId, previous)) : a.Accepts aliasId := by
  unfold nextAutoTopicAliasAssignment at found
  cases available : a.nextAvailableAutoTopicAlias with
  | some first =>
    rw [available] at found
    cases found
    obtain ⟨start, next, unbound⟩ := Option.bind_eq_some_iff.mp available
    refine accepts_of_firstUnbound ?_ unbound
    rintro rfl
    exact inRange.next next
  | none =>
    rw [available] at found
    dsimp only at found
    split at found
    · cases found
    · obtain ⟨candidate, -, taken⟩ := exists_of_findSome?_eq_some found
      split at taken
      · cases taken
      · rename_i accepted
        rw [not_or] at accepted
        split at taken
        · cases taken
        · split at taken
          · cases taken
            exact ⟨accepted.1, UInt16.not_lt.mp accepted.2⟩
          · cases taken

/-- What the automatic policy does to a publish: nothing, or it sets an alias the broker accepts. -/
theorem InRange.applyAuto_cases (publish : Publish) :
    a.applyAutoTopicAlias publish = (publish, none) ∨ ∃ aliasId, a.Accepts aliasId ∧
      publishTopicAlias (a.applyAutoTopicAlias publish).1 = some aliasId ∧
      ((a.applyAutoTopicAlias publish).2 = some (.existing publish.topic aliasId) ∨
        ∃ pending : PendingAutoTopicAlias, pending.aliasId = aliasId ∧
          (a.applyAutoTopicAlias publish).2 = some (.new pending)) := by
  unfold applyAutoTopicAlias
  split
  · exact .inl rfl
  · cases known : a.autoOutgoing publish.topic with
    | some aliasId =>
      exact .inr ⟨aliasId, inRange.assigned _ _ known, rfl, .inl rfl⟩
    | none =>
      cases found : a.nextAutoTopicAliasAssignment with
      | none => exact .inl rfl
      | some assignment =>
        obtain ⟨aliasId, previous⟩ := assignment
        exact .inr ⟨aliasId, inRange.accepts_assignment found, rfl, .inr ⟨_, rfl, rfl⟩⟩

/-- **The check of the event loop implies the check of the state machine**, after the publish has been
rewritten. -/
theorem InRange.validate_ok (checked : a.outgoingTopicAliasError publish = none) :
    a.validateOutgoingTopicAlias (a.applyAutoTopicAlias publish).1 = .ok () := by
  rcases inRange.applyAuto_cases publish with unchanged | ⟨aliasId, accepts, named, -⟩
  · rw [unchanged]
    unfold outgoingTopicAliasError at checked
    unfold validateOutgoingTopicAlias
    split at checked
    · rename_i plain
      simp only [plain]
    · rename_i aliasId named
      simp only [named]
      split at checked
      · cases checked
      · rename_i valid
        rw [if_neg valid]
  · unfold validateOutgoingTopicAlias
    simp only [named]
    refine if_neg ?_
    rintro (zero | above)
    · exact accepts.1 zero
    · exact UInt16.not_lt.mpr accepts.2 above

theorem InRange.recordUse (aliasId : UInt16) :
    (a.recordAutoTopicAliasUse aliasId).InRange := by
  unfold recordAutoTopicAliasUse
  split
  · exact inRange
  · exact ⟨inRange.assigned, inRange.next⟩

theorem InRange.advance : a.advanceNextAutoTopicAlias.InRange := by
  unfold advanceNextAutoTopicAlias
  split
  · exact inRange
  · rename_i start next
    refine ⟨inRange.assigned, advanceFrom_ne_zero ?_⟩
    rintro rfl
    exact inRange.next next

theorem InRange.recordAuto {pending : PendingAutoTopicAlias}
    (accepts : a.Accepts pending.aliasId) : (a.recordAutoTopicAlias pending).InRange := by
  unfold recordAutoTopicAlias
  refine InRange.advance (InRange.recordUse ?_ _)
  refine ⟨fun topic aliasId found => ?_, inRange.next⟩
  dsimp only at found
  by_cases here : topic = pending.topic
  · subst here
    rw [update_self] at found
    cases found
    exact accepts
  · rw [update_of_ne here] at found
    cases previous : pending.previousTopic with
    | none =>
      rw [previous] at found
      exact inRange.assigned topic aliasId found
    | some evicted =>
      rw [previous] at found
      dsimp only at found
      by_cases gone : topic = evicted
      · subst gone
        rw [update_self] at found
        cases found
      · rw [update_of_ne gone] at found
        exact inRange.assigned topic aliasId found

/-- A publish that is sent binds its alias and only ends assignments. -/
theorem InRange.recordOutgoing (publish : Publish) :
    (a.recordOutgoingTopicAlias publish).InRange := by
  have fewer : ∀ (lru : List UInt16) (topic : Bytes) (bound : UInt16) (auto : Bytes → Option UInt16),
      (∀ other found, auto other = some found → a.autoOutgoing other = some found) →
      InRange { a with
        outgoing := a.outgoing.insert bound topic
        autoOutgoing := fun other =>
          if auto other = some bound ∧ other ≠ topic then none else auto other
        autoLru := lru } := by
    intro lru topic bound auto kept
    refine ⟨fun other found named => ?_, inRange.next⟩
    dsimp only at named
    split at named
    · cases named
    · exact inRange.assigned other found (kept other found named)
  unfold recordOutgoingTopicAlias
  split
  · rename_i first rest aliasId _ _
    cases a.outgoing aliasId with
    | none => exact fewer a.autoLru (first :: rest) aliasId _ fun _ _ => id
    | some previous =>
      by_cases rebound : previous ≠ first :: rest
      · simp only [rebound, ne_eq, not_false_eq_true, if_true]
        refine fewer _ (first :: rest) aliasId _ fun other found named => ?_
        by_cases evicted : other = previous
        · subst evicted
          rw [update_self] at named
          cases named
        · rwa [update_of_ne evicted] at named
      · simp only [rebound, if_false]
        exact fewer a.autoLru (first :: rest) aliasId _ fun _ _ => id
  · exact inRange

end

end TopicAliasState

/-! ### The invariant of a state -/

/-- A control request has a filter. -/
def HasFilters : Request → Prop
  | .subscribe subscribe => subscribe.filters ≠ []
  | .unsubscribe unsubscribe => unsubscribe.filters ≠ []
  | _ => True

namespace MqttState

variable {s t : MqttState} {pool : List Request}
variable {subscription : Subscribe} {unsub : Unsubscribe}

/-- **What the scheduler relies on**: automatic aliases are accepted, and the control requests that
wait for their answer have filters. -/
structure Schedulable (s : MqttState) : Prop where
  aliases : s.topicAliases.InRange
  subscribes : ∀ (pkid : PacketId) (pending : PendingSubscribe dialect),
    s.pendingSubscribe[pkid]? = some pending → pending.subscribe.filters ≠ []
  unsubscribes : ∀ (pkid : PacketId) (pending : PendingUnsubscribe dialect),
    s.pendingUnsubscribe[pkid]? = some pending → pending.unsubscribe.filters ≠ []

namespace Schedulable

theorem of_empty (aliases : s.topicAliases.InRange) (subscribes : s.pendingSubscribe = ∅)
    (unsubscribes : s.pendingUnsubscribe = ∅) : s.Schedulable := by
  refine ⟨aliases, fun pkid pending found => ?_, fun pkid pending found => ?_⟩
  · rw [subscribes, Std.TreeMap.getElem?_emptyc] at found
    cases found
  · rw [unsubscribes, Std.TreeMap.getElem?_emptyc] at found
    cases found

theorem new (options : StateOptions) : (newInternal options).Schedulable :=
  of_empty (TopicAliasState.inRange_empty rfl rfl) rfl rfl

section

variable (schedulable : s.Schedulable)
include schedulable

theorem maybeShrink :
    s.maybeShrinkOutgoingTrackingCapacity.Schedulable := by
  unfold maybeShrinkOutgoingTrackingCapacity
  dsimp only
  split
  · exact schedulable
  · exact { schedulable with }

/-- The tables after a publish has been handed to the network. -/
theorem recordAliases (publish : Publish) (pkid : PacketId) :
    (MqttState.recordAliases (s.wire publish pkid) (s.aliasAction publish) s.topicAliases).InRange := by
  have inRange := schedulable.aliases
  unfold MqttState.recordAliases aliasAction
  refine TopicAliasState.InRange.recordOutgoing ?_ _
  rcases inRange.applyAuto_cases publish with
    unchanged | ⟨aliasId, accepts, -, existing | ⟨pending, rfl, new⟩⟩
  · rw [unchanged]
    exact inRange
  · rw [existing]
    exact inRange.recordUse aliasId
  · rw [new]
    exact inRange.recordAuto accepts

theorem subscribing (subscription : Subscribe)
    (filtered : subscription.filters ≠ []) (notice : Option NoticeId) :
    (s.subscribing subscription notice).Schedulable := by
  refine { schedulable with subscribes := fun pkid pending found => ?_ }
  rw [show (s.subscribing subscription notice).pendingSubscribe =
    s.pendingSubscribe.insert subscription.pkid ⟨subscription, notice⟩ from rfl,
    Std.TreeMap.getElem?_insert] at found
  split at found
  · cases found
    exact filtered
  · exact schedulable.subscribes pkid pending found

theorem unsubscribing (unsub : Unsubscribe)
    (filtered : unsub.filters ≠ []) (notice : Option NoticeId) :
    (s.unsubscribing unsub notice).Schedulable := by
  refine { schedulable with unsubscribes := fun pkid pending found => ?_ }
  rw [show (s.unsubscribing unsub notice).pendingUnsubscribe =
    s.pendingUnsubscribe.insert unsub.pkid ⟨unsub, notice⟩ from rfl,
    Std.TreeMap.getElem?_insert] at found
  split at found
  · cases found
    exact filtered
  · exact schedulable.unsubscribes pkid pending found

theorem subscribed (answered : PacketId) :
    (s.subscribed answered).Schedulable := by
  refine { schedulable with subscribes := fun pkid pending found => ?_ }
  rw [show (s.subscribed answered).pendingSubscribe = s.pendingSubscribe.erase answered from rfl,
    Std.TreeMap.getElem?_erase] at found
  split at found
  · cases found
  · exact schedulable.subscribes pkid pending found

theorem unsubscribed (answered : PacketId) :
    (s.unsubscribed answered).Schedulable := by
  refine { schedulable with unsubscribes := fun pkid pending found => ?_ }
  rw [show (s.unsubscribed answered).pendingUnsubscribe = s.pendingUnsubscribe.erase answered from rfl,
    Std.TreeMap.getElem?_erase] at found
  split at found
  · cases found
  · exact schedulable.unsubscribes pkid pending found

end

end Schedulable

theorem filters_of_valid
    (valid : s.validateOutgoingSubscribe subscription = .ok ()) : subscription.filters ≠ [] := by
  intro empty
  rw [validateOutgoingSubscribe, empty] at valid
  cases valid

theorem filters_of_validUnsubscribe
    (valid : validateOutgoingUnsubscribe unsub = .ok ()) : unsub.filters ≠ [] := by
  intro empty
  rw [validateOutgoingUnsubscribe, empty] at valid
  cases valid

/-- **Every request keeps the state schedulable.** -/
theorem Schedulable.requested (schedulable : s.Schedulable) {request : Request} {replay : Bool}
    {notice : Option TrackedNotice} {result : RequestResult}
    (requested : Requested s notice request replay result t) : t.Schedulable := by
  cases requested with
  | rejected => exact schedulable
  | refused => exact { schedulable with }
  | qos0 publish =>
    exact { schedulable with aliases := schedulable.recordAliases publish publish.pkid }
  | fresh publish pkid => exact { schedulable with aliases := schedulable.recordAliases publish pkid }
  | parked => exact { schedulable with }
  | replayed publish =>
    exact { schedulable with aliases := schedulable.recordAliases publish publish.pkid }
  | pubrelResumed => exact { schedulable with }
  | pubrelAgain => exact { schedulable with }
  | subscribe subscription pkid valid =>
    have claimed : (s.claiming pkid).Schedulable := { schedulable with }
    exact claimed.subscribing { subscription with pkid } (filters_of_valid valid) _
  | subscribeAgain subscription valid => exact schedulable.subscribing subscription (filters_of_valid valid) _
  | unsubscribe unsub pkid valid =>
    have claimed : (s.claiming pkid).Schedulable := { schedulable with }
    exact claimed.unsubscribing { unsub with pkid } (filters_of_validUnsubscribe valid) _
  | unsubscribeAgain unsub valid =>
    exact schedulable.unsubscribing unsub (filters_of_validUnsubscribe valid) _
  | pingFailed => exact { schedulable with }
  | ping => exact { schedulable with }
  | disconnect => exact { schedulable with }
  | puback => exact { schedulable with }
  | pubrec => exact { schedulable with }
  | pubrecFailure => exact { schedulable with }
  | auth => exact { schedulable with }

theorem Schedulable.settled (schedulable : s.Schedulable) {pkid : PacketId} {outgoing : Option Packet}
    (settled : Settled s pkid outgoing t) : t.Schedulable := by
  cases settled with
  | quiet => exact schedulable.maybeShrink
  | unparked publish =>
    exact { schedulable with aliases := schedulable.aliases.recordOutgoing publish }

theorem Schedulable.dispatched (schedulable : s.Schedulable) {packet : Packet}
    {result : DispatchResult} (dispatched : Dispatched s packet result t) : t.Schedulable := by
  cases dispatched with
  | rejected => exact schedulable
  | failed => exact { schedulable with }
  | auth => exact { schedulable with }
  | connected connack a =>
    exact { schedulable with aliases := TopicAliasState.inRange_empty rfl rfl }
  | pingResp => exact { schedulable with }
  | refused => exact { schedulable with }
  | publish publish topic incoming outgoing t _ outcome =>
    have same : (s.withIncomingAliases incoming).Schedulable :=
      { schedulable with aliases := ⟨schedulable.aliases.assigned, schedulable.aliases.next⟩ }
    cases outcome with
    | exceeded => exact { same with }
    | qos0 => exact { same with }
    | qos1 => exact { same with }
    | qos1Answered => exact { same with }
    | qos2 => exact { same with }
    | qos2Answered => exact { same with }
    | qos2Again => exact { same with }
  | pubrelUnknown => exact { schedulable with }
  | pubrel => exact { schedulable with }
  | puback puback member outgoing notices t settled =>
    have acked : (s.acked puback.pkid).Schedulable := { schedulable with }
    exact acked.settled settled
  | pubrecFailed pubrec member failure outgoing notices t settled =>
    have acked : (s.acked pubrec.pkid).Schedulable := { schedulable with }
    exact acked.settled settled
  | pubrec => exact { schedulable with }
  | pubcomp pubcomp member outgoing notices t settled =>
    have completed : (s.completed pubcomp.pkid).Schedulable := { schedulable with }
    exact completed.settled settled
  | suback suback => exact schedulable.subscribed suback.pkid
  | unsuback unsuback => exact schedulable.unsubscribed unsuback.pkid

/-- **Every incoming packet keeps the state schedulable.** -/
theorem Schedulable.handled (schedulable : s.Schedulable) {packet : Packet}
    {result : PacketResult} (handled : Handled s packet result t) :
    t.Schedulable := by
  obtain ⟨retained, _, _, _, dispatched, _, rfl⟩ := handled.dispatched
  have kept : Schedulable { s with connectionFailurePacket := retained } := { schedulable with }
  have after := kept.dispatched dispatched
  exact { after with }

/-! ### Requests that are ready -/

/-- **The request becomes one packet**: no error, no panic, and nothing is parked. -/
def SendsOnePacket (s : MqttState) (request : Request) (notice : Option TrackedNotice)
    (replay : Bool) : Prop :=
  ∃ packet flushed t, (handleOutgoingPacketWithNoticeInternal request notice replay).run s =
    .ok (.ok (some packet, flushed), t) ∧ t.collision = s.collision

variable {publish : Publish} {notice : Option TrackedNotice}

theorem Admitted.publish_run (admitted : s.Admitted publish) (noticeId : Option NoticeId)
    (replay : Bool) :
    (outgoingPublishWithNoticeInternal publish noticeId replay).run s =
      if publish.qos = .atMostOnce then
        .ok (.ok (some (.publish (s.wire publish publish.pkid)), noticeId),
          recordPublish (s.wire publish publish.pkid) (s.aliasAction publish) s)
      else (sendTrackedPublish (s.topicAliases.applyAutoTopicAlias publish).1 noticeId
        (s.aliasAction publish) replay).run s := by
  have room : ¬ (publish.qos ≠ .atMostOnce ∧ s.inflight ≥ s.maxOutgoingInflight.toNat) :=
    fun exceeded => Nat.not_le.mpr (admitted.quota exceeded.1) exceeded.2
  unfold outgoingPublishWithNoticeInternal
  rw [run_get_bind, admitted.supported]
  dsimp only
  rw [if_neg room, admitted.aliasValid]
  refine (run_bind_ok (run_ofExcept_ok () s)).trans ?_
  rw [qos_applyAutoTopicAlias, run_ite, wire_self]
  rfl

theorem Admitted.sends_qos0 (admitted : s.Admitted publish) (unacked : publish.qos = .atMostOnce)
    (replay : Bool) : s.SendsOnePacket (.publish publish) notice replay := by
  have ran := (admitted.publish_run (notice.bind TrackedNotice.publish?) replay).trans (if_pos unacked)
  exact ⟨_, _, _, ran, rfl⟩

/-- **A fresh publish that is ready is sent.** -/
theorem Sound.sends_publish (sound : s.Sound pool) (admitted : s.Admitted publish)
    (acked : publish.qos ≠ .atMostOnce) (ready : s.canSendPublish publish = true) :
    s.SendsOnePacket (.publish publish) notice false := by
  obtain ⟨pkid, choice⟩ : ∃ pkid : PacketId, publish.pkid = 0 ∧ s.nextPublishPkid = some pkid ∨
      publish.pkid = pkid ∧ pkid ≠ 0 ∧ pkid.toNat ∉ s.outboundPkidInUse := by
    unfold canSendPublish at ready
    rw [if_neg acked] at ready
    split at ready
    · cases ready
    · split at ready
      · rename_i given
        obtain ⟨pkid, found⟩ := Option.isSome_iff_exists.mp ready
        exact ⟨pkid, .inl ⟨given, found⟩⟩
      · rename_i given
        obtain ⟨-, free⟩ := Bool.and_eq_true_iff.mp ready
        refine ⟨publish.pkid, .inr ⟨rfl, given, ?_⟩⟩
        simpa [PacketIds.packetIdentifierInUse] using free
  have ran := (admitted.publish_run (notice.bind TrackedNotice.publish?) false).trans
    ((if_neg acked).trans (sound.sendTracked_fresh _ choice))
  exact ⟨_, _, _, ran, rfl⟩

/-- **A replayed publish that is ready is sent.** -/
theorem Sound.sends_replayedPublish (sound : s.Sound pool) (admitted : s.Admitted publish)
    (acked : publish.qos ≠ .atMostOnce) (ready : s.canSendReplayedPublish publish = true) :
    s.SendsOnePacket (.publish publish) notice true := by
  unfold canSendReplayedPublish at ready
  rw [if_neg acked] at ready
  split at ready
  · cases ready
  · simp only [Flows.replayedPublishIdentifierReady, Bool.and_eq_true] at ready
    obtain ⟨⟨⟨valid, inUse⟩, slot⟩, other⟩ := ready
    have member : publish.pkid.toNat ∈ s.outboundPkidInUse := FixedBitSet.contains_eq_true.mp inUse
    have nonzero : (s.wire publish publish.pkid).pkid ≠ 0 := sound.tracked.ids.ne_zero member
    have empty : publish.pkid ∉ s.outgoingPubOrder := by
      rw [sound.tracked.mem_pubOrder, SlotVec.lookup]
      split at slot
      · rename_i found
        rw [found]
        exact Bool.false_ne_true
      · cases slot
    have unheld : ¬ s.toFlows.heldByOtherFlow publish.pkid = true := by simpa using other
    have stored : (trackOutgoingPublish (s.wire publish publish.pkid)
        (notice.bind TrackedNotice.publish?) (s.aliasAction publish) true).run s = _ :=
      sound.track_reserved member empty unheld
    have tracked := run_sendTracked_true (assignPublishPkid_given nonzero) stored
    rw [wire_self] at tracked
    have ran := (admitted.publish_run (notice.bind TrackedNotice.publish?) true).trans
      ((if_neg acked).trans tracked)
    exact ⟨_, _, _, ran, rfl⟩

/-- **A release that is ready is sent**, as a replay or once more. -/
theorem Sound.sends_pubrel (sound : s.Sound pool) {pubrel : PubRel} {replay : Bool}
    (ready : s.canSendPubrel pubrel.pkid = true) :
    s.SendsOnePacket (.pubRel pubrel) notice replay := by
  simp only [canSendPubrel, Bool.and_eq_true, Bool.or_eq_true, FixedBitSet.contains_eq_true] at ready
  by_cases member : pubrel.pkid ∈ s.outgoingRelReplayOrder
  · have fewer : s.Sound (poolWithout pool pubrel.pkid) := sound.sublist filter_sublist
    exact ⟨_, _, _, fewer.outgoingPubrel_resumed member (sound.tracked.unheld_poolWithout member), rfl⟩
  · have active : pubrel.pkid ∈ s.outgoingRelOrder := by
      rcases ready.2 with release | replayed
      · exact (sound.tracked.mem_relOrder _).mpr release
      · exact absurd ((sound.tracked.mem_relReplayOrder _).mpr replayed) member
    exact ⟨_, _, _, sound.outgoingPubrel_again active, rfl⟩

theorem validate_of_filters (filtered : subscription.filters ≠ [])
    (supported : s.broker.unsupportedSubscribeCapability subscription = none) :
    s.validateOutgoingSubscribe subscription = .ok () := by
  unfold validateOutgoingSubscribe
  rw [if_neg (by simpa using filtered), supported]

theorem validateUnsubscribe_of_filters (filtered : unsub.filters ≠ []) :
    validateOutgoingUnsubscribe unsub = .ok () := by
  unfold validateOutgoingUnsubscribe
  rw [if_neg (by simpa using filtered)]

section

variable (sound : s.Sound pool)
include sound

/-- An identifier is found for a control request that is ready. -/
theorem Sound.exists_claim (ready : s.controlPacketIdentifierAvailable = true) :
    ∃ pkid, (claimControlPkid 0).run s = .ok (.ok pkid, s.claiming pkid) := by
  obtain ⟨pkid, found⟩ := Option.isSome_iff_exists.mp
    (sound.tracked.ids.nextFreeOutboundPkidAfter_isSome ready s.lastPkid)
  exact ⟨pkid, sound.claimControlPkid_found found⟩

/-- **A fresh SUBSCRIBE that is ready is sent.** -/
theorem Sound.sends_subscribe
    (unnumbered : subscription.pkid = 0) (filtered : subscription.filters ≠ [])
    (supported : s.broker.unsupportedSubscribeCapability subscription = none)
    (ready : s.controlPacketIdentifierAvailable = true) :
    s.SendsOnePacket (.subscribe subscription) notice false := by
  obtain ⟨pkid, claimed⟩ := sound.exists_claim ready
  rw [← unnumbered] at claimed
  have checked := run_passed (validate_of_filters filtered supported) s
  have ran : (outgoingSubscribe subscription (notice.bind TrackedNotice.subscribe?)).run s = _ :=
    (run_bind_ok checked).trans (run_bind_ok claimed)
  exact ⟨_, _, _, run_bind_ok ran, rfl⟩

/-- **A fresh UNSUBSCRIBE that is ready is sent.** -/
theorem Sound.sends_unsubscribe (unnumbered : unsub.pkid = 0) (filtered : unsub.filters ≠ [])
    (ready : s.controlPacketIdentifierAvailable = true) :
    s.SendsOnePacket (.unsubscribe unsub) notice false := by
  obtain ⟨pkid, claimed⟩ := sound.exists_claim ready
  rw [← unnumbered] at claimed
  have checked := run_passed (validateUnsubscribe_of_filters filtered) s
  have ran : (outgoingUnsubscribe unsub (notice.bind TrackedNotice.unsubscribe?)).run s = _ :=
    (run_bind_ok checked).trans (run_bind_ok claimed)
  exact ⟨_, _, _, run_bind_ok ran, rfl⟩

/-- The identifier of a replayed control request that is ready is accepted. -/
theorem Sound.accept_ready {pkid : PacketId} (ready : s.canSendReplayedControlPacket pkid = true) :
    (Handler.ofExcept (s.acceptReplayedOutboundPkid pkid) : Method Unit).run s = .ok (.ok (), s) := by
  simp only [Flows.canSendReplayedControlPacket, Bool.and_eq_true] at ready
  exact sound.accept_run (FixedBitSet.contains_eq_true.mp ready.1.2)

/-- **A replayed SUBSCRIBE that is ready is sent.** -/
theorem Sound.sends_replayedSubscribe (filtered : subscription.filters ≠ [])
    (supported : s.broker.unsupportedSubscribeCapability subscription = none)
    (ready : s.canSendReplayedControlPacket subscription.pkid = true) :
    s.SendsOnePacket (.subscribe subscription) notice true := by
  have checked := run_passed (validate_of_filters filtered supported) s
  have ran : (replayOutgoingSubscribe subscription (notice.bind TrackedNotice.subscribe?)).run s = _ :=
    (run_bind_ok checked).trans (run_bind_ok (sound.accept_ready ready))
  exact ⟨_, _, _, run_bind_ok ran, rfl⟩

/-- **A replayed UNSUBSCRIBE that is ready is sent.** -/
theorem Sound.sends_replayedUnsubscribe
    (filtered : unsub.filters ≠ []) (ready : s.canSendReplayedControlPacket unsub.pkid = true) :
    s.SendsOnePacket (.unsubscribe unsub) notice true := by
  have checked := run_passed (validateUnsubscribe_of_filters filtered) s
  have ran : (replayOutgoingUnsubscribe unsub (notice.bind TrackedNotice.unsubscribe?)).run s = _ :=
    (run_bind_ok checked).trans ((run_get_bind ..).trans (run_bind_ok (sound.accept_ready ready)))
  exact ⟨_, _, _, run_bind_ok ran, rfl⟩

end

end MqttState

/-! ### Reachable event loops -/

namespace Driver

open MqttState

variable {d : Driver}
variable {s : MqttState} {publish : Publish}

/-- **What the scheduler relies on in an event loop.** -/
structure Scheduling (d : Driver) : Prop where
  healthy : d.Healthy
  schedulable : d.state.Schedulable
  filtered : ∀ request ∈ d.replays, HasFilters request

/-- **The states of an event loop**: its state machine, and the requests it holds for replay. Requests
and packets may be any; the store returns checkpoints that an event loop has saved. -/
inductive Reachable : Driver → Prop where
  | new (options : StateOptions) : Reachable (.new options)
  | step {d after : Driver} (op : Op) (before : Reachable d)
    (live : ∀ options session, op ≠ .restore options session) (ran : d.step op = .ok after) :
    Reachable after
  /-- A checkpoint with requests of an event loop, taken under its options, is restored. -/
  | restore {d saved after : Driver} (options saving : SessionOptions) (expiry : Option UInt32)
    (requests : List Request) (session : PersistedSession) (before : Reachable d)
    (earlier : Reachable saved) (held : requests ⊆ saved.replays)
    (checkpoint : saved.state.persistedSession saving expiry requests = .ok session)
    (ran : d.step (.restore options session) = .ok after) : Reachable after
  /-- A request held for replay is refused before it reaches the state machine. -/
  | discard {d : Driver} {flows : Flows dialect} {request : Request} (position : Nat)
    (before : Reachable d) (found : d.replays[position]? = some request)
    (notRelease : request.pubRelPkid? = none)
    (ran : d.state.toFlows.discardReplayedRequest request = .ok flows) :
    Reachable { d.without position with state := d.state.putFlows flows }
  /-- The alias of a publish held for replay is repaired. -/
  | repair {d : Driver} {publish repaired : Publish} (position : Nat) (before : Reachable d)
    (found : d.replays[position]? = some (.publish publish)) (pkid : repaired.pkid = publish.pkid)
    (qos : repaired.qos = publish.qos) :
    Reachable { d with replays := d.replays.set position (.publish repaired) }

theorem Reachable.run {d after : Driver} {ops : List Op} (reachable : d.Reachable)
    (live : ∀ op ∈ ops, ∀ options session, op ≠ .restore options session)
    (ran : runSteps Driver.step d ops = .ok after) : after.Reachable := by
  induction ops generalizing d with
  | nil =>
    obtain rfl := Except.ok.inj ran
    exact reachable
  | cons op rest ih =>
    obtain ⟨next, stepped, later⟩ := Checked.bind_ok.mp ran
    exact ih (.step op reachable (live op mem_cons_self) stepped)
      (fun other member => live other (mem_cons_of_mem _ member)) later

theorem scheduling_new (options : StateOptions) : (new options).Scheduling :=
  ⟨healthy_new options, .new options, by rintro request ⟨⟩⟩

/-! ### Clean-up and restore -/

theorem filtered_handedOut (schedulable : s.Schedulable) :
    ∀ request ∈ handedOut s.toFlows.cleanRequests, HasFilters request := by
  intro request member
  unfold handedOut at member
  rw [Flows.Tracked.filter_replay_cleanRequests] at member
  obtain ⟨clean, among, rfl⟩ := mem_map.mp member
  simp only [Flows.replayRequests, mem_append] at among
  rcases among with ((stored | released) | subscribed) | unsubscribed
  · obtain ⟨pkid, -, found⟩ := mem_filterMap.mp stored
    obtain ⟨original, -, rfl⟩ := Option.map_eq_some_iff.mp found
    trivial
  · obtain ⟨pkid, -, rfl⟩ := mem_map.mp released
    trivial
  · obtain ⟨⟨pkid, pending⟩, inTable, rfl⟩ := mem_map.mp subscribed
    exact schedulable.subscribes pkid pending (Std.TreeMap.mem_toList_iff_getElem?_eq_some.mp inTable)
  · obtain ⟨⟨pkid, pending⟩, inTable, rfl⟩ := mem_map.mp unsubscribed
    exact schedulable.unsubscribes pkid pending (Std.TreeMap.mem_toList_iff_getElem?_eq_some.mp inTable)

theorem schedulable_afterClean (schedulable : s.Schedulable) :
    s.afterClean.resetConnectionScopedState.Schedulable := by
  have cleaned : s.cleanedUp.Schedulable := .of_empty schedulable.aliases rfl rfl
  have after : s.afterClean.Schedulable := by
    unfold afterClean
    split
    · exact cleaned.maybeShrink
    · exact cleaned
  exact { after with aliases := TopicAliasState.inRange_empty rfl rfl }

theorem schedulable_sessionReset (s : MqttState) : s.sessionReset.Schedulable :=
  .of_empty (TopicAliasState.inRange_empty rfl rfl) rfl rfl

/-- A restore does not bring control requests back; they wait in the pool. -/
theorem controls_restored (f : Flows dialect) (replay : List (PersistedRequest persistedForm)) :
    (f.restored replay).pendingSubscribe = f.pendingSubscribe ∧
      (f.restored replay).pendingUnsubscribe = f.pendingUnsubscribe := by
  induction replay generalizing f with
  | nil => exact ⟨rfl, rfl⟩
  | cons request rest ih =>
    obtain ⟨subscribes, unsubscribes⟩ := ih (f.restoring request)
    refine ⟨subscribes.trans ?_, unsubscribes.trans ?_⟩ <;> cases request <;> rfl

theorem schedulable_restoredFrom (s : MqttState) (session : PersistedSession) :
    (s.restoredFrom session).Schedulable := by
  obtain ⟨subscribes, unsubscribes⟩ := controls_restored
    (.new s.maxOutgoingInflightUpperLimit.toNat) session.replay
  exact .of_empty (TopicAliasState.inRange_empty rfl rfl) subscribes unsubscribes

theorem hasFilters_persisted {request : Request} {entry : PersistedRequest persistedForm}
    (filtered : HasFilters request)
    (saved : persistedRequestFromRequest persistedForm request = some entry) :
    HasFilters entry.toRequest := by
  cases request with
  | publish publish =>
    obtain ⟨packet, -, rfl⟩ := Option.map_eq_some_iff.mp saved
    trivial
  | pubRel pubrel =>
    cases saved
    trivial
  | subscribe subscribe =>
    obtain ⟨-, same⟩ := Option.ite_none_right_eq_some.mp saved
    cases same
    exact filtered
  | unsubscribe unsubscribe =>
    obtain ⟨-, same⟩ := Option.ite_none_right_eq_some.mp saved
    cases same
    exact filtered
  | _ => cases saved

/-- **What a checkpoint brings back has filters.** -/
theorem Scheduling.filtered_checkpoint (scheduling : d.Scheduling) {options : SessionOptions}
    {expiry : Option UInt32} {requests : List Request} {session : PersistedSession}
    (held : requests ⊆ d.replays)
    (checkpoint : d.state.persistedSession options expiry requests = .ok session) :
    ∀ request ∈ session.replay.map PersistedRequest.toRequest, HasFilters request := by
  obtain ⟨live, -, -, sound, -⟩ := scheduling.healthy
  have built := sound.tracked.persistedReplayRequests_ok persistedForm
  unfold persistedSession at checkpoint
  rw [built, Checked.ok_bind] at checkpoint
  cases checkpoint
  intro request member
  obtain ⟨entry, among, rfl⟩ := mem_map.mp member
  simp only [Flows.checkpointed, mem_append] at among
  rcases among with (((stored | released) | subscribed) | unsubscribed) | waiting
  · obtain ⟨pkid, -, found⟩ := mem_filterMap.mp stored
    obtain ⟨packet, -, rfl⟩ := Option.map_eq_some_iff.mp found
    trivial
  · obtain ⟨pkid, -, rfl⟩ := mem_map.mp released
    trivial
  · obtain ⟨pending, inTable, rfl⟩ := mem_map.mp subscribed
    obtain ⟨pkid, found⟩ := Flows.getElem?_of_mem_values inTable
    exact scheduling.schedulable.subscribes pkid pending found
  · obtain ⟨pending, inTable, rfl⟩ := mem_map.mp unsubscribed
    obtain ⟨pkid, found⟩ := Flows.getElem?_of_mem_values inTable
    exact scheduling.schedulable.unsubscribes pkid pending found
  · obtain ⟨original, inList, saved⟩ := mem_filterMap.mp waiting
    exact hasFilters_persisted (scheduling.filtered original (held inList)) saved

/-! ### The invariant of reachable event loops -/

/-- One operation keeps the state schedulable and the requests filtered; a restore needs a checkpoint
with filters. -/
theorem Scheduling.step {after : Driver} (scheduling : d.Scheduling) (op : Op)
    (filters : ∀ options session, op = .restore options session →
      ∀ request ∈ session.replay.map PersistedRequest.toRequest, HasFilters request)
    (ran : d.step op = .ok after) : after.Scheduling := by
  have cases := scheduling.healthy.step_cases op
  rw [ran] at cases
  obtain ⟨stepped, healthy⟩ := cases
  suffices rest : after.state.Schedulable ∧ ∀ request ∈ after.replays, HasFilters request from
    ⟨healthy, rest.1, rest.2⟩
  have fewer : ∀ position, ∀ request ∈ d.replays.eraseIdx position, HasFilters request :=
    fun position request member => scheduling.filtered request ((eraseIdx_sublist ..).subset member)
  cases stepped with
  | requested _ requested =>
    rw [state_afterRequest, replays_afterRequest]
    exact ⟨scheduling.schedulable.requested requested, scheduling.filtered⟩
  | replayed _ _ requested =>
    rw [state_afterRequest, replays_afterRequest]
    exact ⟨scheduling.schedulable.requested requested, fewer _⟩
  | forgotten position => exact ⟨scheduling.schedulable, fewer position⟩
  | received _ handled =>
    rw [state_afterPacket, replays_afterPacket]
    exact ⟨scheduling.schedulable.handled handled, scheduling.filtered⟩
  | lost =>
    refine ⟨schedulable_afterClean scheduling.schedulable, fun request member => ?_⟩
    rcases mem_append.mp member with held | handed
    · exact scheduling.filtered request held
    · exact filtered_handedOut scheduling.schedulable request handed
  | reset => exact ⟨schedulable_sessionReset d.state, by rintro request ⟨⟩⟩
  | @restored options session =>
    exact ⟨schedulable_restoredFrom d.state session, filters options session rfl⟩
  | shrunk => exact ⟨scheduling.schedulable.maybeShrink, scheduling.filtered⟩
  | absent | unrestored | kept => exact ⟨scheduling.schedulable, scheduling.filtered⟩

/-- **A request that is given up before it is replayed** gives its identifier back. -/
theorem Scheduling.discard (scheduling : d.Scheduling) {flows : Flows dialect} {request : Request}
    {position : Nat} (found : d.replays[position]? = some request)
    (notRelease : request.pubRelPkid? = none)
    (ran : d.state.toFlows.discardReplayedRequest request = .ok flows) :
    Scheduling { d.without position with state := d.state.putFlows flows } := by
  rcases Accounts.split scheduling.healthy (fun same sound => sound.perm same) found with
    ⟨rest, stale, sound, same, releases⟩ | ⟨released, -⟩
  · obtain ⟨discarded, tracked⟩ := sound.tracked.discard_ok
    cases discarded.symm.trans ran
    have fewer : ∀ other ∈ d.replays.eraseIdx position, HasFilters other := fun other member =>
      scheduling.filtered other ((eraseIdx_sublist ..).subset member)
    have schedulable := scheduling.schedulable
    -- only the reservation table changes
    unfold Flows.discarded at tracked ⊢
    rw [notRelease] at tracked ⊢
    cases owned : request.replayPkid with
    | none =>
      rw [owned] at tracked
      have kept : d.state.Sound rest := { sound with tracked }
      exact ⟨⟨rest, stale, same, kept, releases⟩, schedulable, fewer⟩
    | some pkid =>
      rw [owned] at tracked
      have kept : (d.state.putFlows (d.state.toFlows.withReleased pkid)).Sound rest :=
        { sound with tracked }
      exact ⟨⟨rest, stale, same, kept, releases⟩, { schedulable with }, fewer⟩
  · rw [notRelease] at released
    cases released

/-- A publish held for replay may change as long as it keeps its identifier and its QoS. -/
theorem sound_repaired {repaired : Publish} {rest : List Request}
    (sound : s.Sound (.publish publish :: rest)) (pkid : repaired.pkid = publish.pkid)
    (qos : repaired.qos = publish.qos) : s.Sound (.publish repaired :: rest) := by
  have owned : (Rumqtt.Request.publish repaired).replayPkid =
      (Rumqtt.Request.publish publish).replayPkid := by
    simp only [Request.replayPkid, pkid, qos]
  have ids : poolIds (.publish repaired :: rest) = poolIds (.publish publish :: rest) := by
    simp only [poolIds, filterMap_cons, owned]
  have holds : s.toFlows.Holds (.publish repaired :: rest) =
      s.toFlows.Holds (.publish publish :: rest) := by
    funext holder other
    cases holder <;> simp only [Flows.Holds, ids]
  refine { sound with tracked := { sound.tracked with
    ledger := holds ▸ sound.tracked.ledger
    pool_nodup := ids ▸ sound.tracked.pool_nodup
    replay_kind := ?_ } }
  intro request member other owns
  rcases mem_cons.mp member with rfl | inRest
  · exact sound.tracked.replay_kind _ mem_cons_self other (owned ▸ owns)
  · exact sound.tracked.replay_kind request (mem_cons_of_mem _ inRest) other owns

theorem Healthy.repair (healthy : d.Healthy) {repaired : Publish} {position : Nat}
    (found : d.replays[position]? = some (.publish publish)) (pkid : repaired.pkid = publish.pkid)
    (qos : repaired.qos = publish.qos) :
    Healthy { d with replays := d.replays.set position (.publish repaired) } := by
  obtain ⟨fits, -⟩ := List.getElem?_eq_some_iff.mp found
  rcases Accounts.split healthy (fun same sound => sound.perm same) found with
    ⟨rest, stale, sound, same, releases⟩ | ⟨released, -⟩
  · refine ⟨.publish repaired :: rest, stale, ?_, sound_repaired sound pkid qos, releases⟩
    exact (set_perm_cons_eraseIdx fits _).trans (same.cons _)
  · cases released

/-- **Every reachable event loop keeps what the scheduler relies on.** -/
theorem Reachable.scheduling (reachable : d.Reachable) : d.Scheduling := by
  induction reachable with
  | new options => exact scheduling_new options
  | step op before live ran ih =>
    exact ih.step op (fun options session restored => absurd restored (live options session)) ran
  | restore options saving expiry requests session before earlier held checkpoint ran ih saved =>
    refine ih.step _ (fun _ _ restored => ?_) ran
    cases restored
    exact saved.filtered_checkpoint held checkpoint
  | discard position before found notRelease ran ih => exact ih.discard found notRelease ran
  | repair position before found pkid qos ih =>
    refine ⟨ih.healthy.repair found pkid qos, ih.schedulable, ?_⟩
    intro request member
    rcases mem_or_eq_of_mem_set member with held | rfl
    · exact ih.filtered request held
    · trivial

/-! ### Agreement -/

/-- **Where an envelope comes from**: the client API, which checks that control requests have filters
and leaves their identifier open, or the requests held for replay. -/
inductive Submitted (d : Driver) : RequestEnvelope → Prop where
  | publish (publish : Publish) (notice : Option TrackedNotice) :
    Submitted d ⟨.publish publish, notice, false⟩
  | subscribe (subscribe : Subscribe) (notice : Option TrackedNotice)
    (unnumbered : subscribe.pkid = 0) (filtered : subscribe.filters ≠ []) :
    Submitted d ⟨.subscribe subscribe, notice, false⟩
  | unsubscribe (unsubscribe : Unsubscribe) (notice : Option TrackedNotice)
    (unnumbered : unsubscribe.pkid = 0) (filtered : unsubscribe.filters ≠ []) :
    Submitted d ⟨.unsubscribe unsubscribe, notice, false⟩
  | replayedPublish (publish : Publish) (notice : Option TrackedNotice)
    (held : .publish publish ∈ d.replays) : Submitted d ⟨.publish publish, notice, true⟩
  | replayedRelease (pubrel : PubRel) (notice : Option TrackedNotice)
    (held : .pubRel pubrel ∈ d.replays) : Submitted d ⟨.pubRel pubrel, notice, true⟩
  | replayedSubscribe (subscribe : Subscribe) (notice : Option TrackedNotice)
    (held : .subscribe subscribe ∈ d.replays) : Submitted d ⟨.subscribe subscribe, notice, true⟩
  | replayedUnsubscribe (unsubscribe : Unsubscribe) (notice : Option TrackedNotice)
    (held : .unsubscribe unsubscribe ∈ d.replays) :
    Submitted d ⟨.unsubscribe unsubscribe, notice, true⟩

/-- The checks of the event loop on a request it is about to send. -/
structure PassesChecks (s : MqttState) (request : Request) : Prop where
  capability : s.broker.unsupportedBrokerCapability request = none
  topicAlias : ∀ publish, request = .publish publish →
    s.topicAliases.outgoingTopicAliasError publish = none

theorem Scheduling.admitted (scheduling : d.Scheduling)
    (passes : PassesChecks d.state (.publish publish))
    (room : publish.qos ≠ .atMostOnce → d.state.inflight < d.state.maxOutgoingInflight.toNat) :
    d.state.Admitted publish :=
  ⟨passes.capability, room,
    scheduling.schedulable.aliases.validate_ok (passes.topicAlias publish rfl)⟩

theorem room_of_canSend (acked : publish.qos ≠ .atMostOnce)
    (ready : s.canSendPublish publish = true ∨ s.canSendReplayedPublish publish = true) :
    s.inflight < s.maxOutgoingInflight.toNat := by
  unfold canSendPublish canSendReplayedPublish at ready
  rw [if_neg acked, if_neg acked] at ready
  by_cases full : s.inflight ≥ s.maxOutgoingInflight.toNat ∨ s.collision.isSome = true
  · rw [if_pos full, if_pos full] at ready
    rcases ready with impossible | impossible <;> cases impossible
  · exact Nat.lt_of_not_le fun exceeded => full (.inl exceeded)

end Driver

open Driver in
/-- **Scheduler readiness agrees with the state machine.** In every reachable event loop, a request of
the client API or a request held for replay that is classified as ready and passes the checks on
capabilities and aliases becomes one packet: it is no error, parks nothing and does not panic. -/
theorem ready_request_sends_one_packet {d : Driver} (reachable : d.Reachable)
    {envelope : RequestEnvelope} (submitted : d.Submitted envelope)
    (ready : (classifyEnvelope d.state envelope).readiness = .ready)
    (passes : PassesChecks d.state envelope.request) :
    d.state.SendsOnePacket envelope.request envelope.notice envelope.replay := by
  have scheduling := reachable.scheduling
  obtain ⟨live, -, -, sound, -⟩ := scheduling.healthy
  cases submitted with
  | publish publish notice =>
    by_cases unacked : publish.qos = .atMostOnce
    · exact (scheduling.admitted passes fun acked => absurd unacked acked).sends_qos0 unacked false
    · have canSend : d.state.canSendPublish publish = true :=
        publish_of_ready d.state.controlPacketIdentifierAvailable ready unacked
      have room := room_of_canSend unacked (.inl canSend)
      exact sound.sends_publish (scheduling.admitted passes fun _ => room) unacked canSend
  | subscribe subscribe notice unnumbered filtered =>
    exact sound.sends_subscribe unnumbered filtered passes.capability (ofBool_eq_ready.mp ready)
  | unsubscribe unsubscribe notice unnumbered filtered =>
    exact sound.sends_unsubscribe unnumbered filtered (ofBool_eq_ready.mp ready)
  | replayedPublish publish notice =>
    by_cases unacked : publish.qos = .atMostOnce
    · exact (scheduling.admitted passes fun acked => absurd unacked acked).sends_qos0 unacked true
    · have canSend : d.state.canSendReplayedPublish publish = true :=
        publish_of_ready true ready unacked
      have room := room_of_canSend unacked (.inr canSend)
      exact sound.sends_replayedPublish (scheduling.admitted passes fun _ => room) unacked canSend
  | replayedRelease pubrel notice => exact sound.sends_pubrel (ofBool_eq_ready.mp ready)
  | replayedSubscribe subscribe notice held =>
    exact sound.sends_replayedSubscribe (scheduling.filtered _ held) passes.capability
      (ofBool_eq_ready.mp ready)
  | replayedUnsubscribe unsubscribe notice held =>
    exact sound.sends_replayedUnsubscribe (scheduling.filtered _ held) (ofBool_eq_ready.mp ready)

/-- A QoS 1 publish is sent, the connection is lost, and the session goes on on the next one. -/
def publishLost : List Op :=
  [.incoming (.connAck { sessionPresent := false, code := .success, properties := none }),
    .request (.publish ⟨false, .atLeastOnce, false, [97], 0, [1], none⟩) none, .clean,
    .incoming (.connAck { sessionPresent := true, code := .success, properties := none })]

/-- The publish as it is held for replay. -/
def lostPublish : Publish := ⟨true, .atLeastOnce, false, [97], 1, [1], none⟩

theorem replayed_publish_sends_one_packet :
    ∃ d, runSteps Driver.step (.new { maxInflight := 10 }) publishLost = .ok d ∧
      d.replays = [.publish lostPublish] ∧
      d.state.SendsOnePacket (.publish lostPublish) none true := by
  have held : (runSteps Driver.step (.new { maxInflight := 10 }) publishLost).map (·.replays) =
      .ok [.publish lostPublish] := rfl
  have ready : (runSteps Driver.step (.new { maxInflight := 10 }) publishLost).map (fun d =>
      (classifyEnvelope d.state ⟨.publish lostPublish, none, true⟩).readiness) = .ok .ready := by
    decide +kernel
  have capable : (runSteps Driver.step (.new { maxInflight := 10 }) publishLost).map (fun d =>
      (d.state.broker.unsupportedBrokerCapability (.publish lostPublish)).isNone) = .ok true := by
    decide +kernel
  obtain ⟨d, ran, replays⟩ := Checked.map_ok.mp held
  rw [ran] at ready capable
  have reachable : d.Reachable := (Driver.Reachable.new { maxInflight := 10 }).run (by
    simp [publishLost]) ran
  refine ⟨d, ran, replays, ready_request_sends_one_packet reachable
    (.replayedPublish lostPublish none ?_) (Except.ok.inj ready) ⟨?_, ?_⟩⟩
  · rw [replays]
    exact List.mem_singleton_self _
  · exact Option.isNone_iff_eq_none.mp (Except.ok.inj capable)
  · rintro publish ⟨⟩
    rfl

end Rumqtt.V5
