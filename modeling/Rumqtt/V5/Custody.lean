/-
**Custody of publishes in the MQTT 5 state machine.**

As in MQTT 3.1.1, a second parked publish overwrites the first. In addition the public `clean` leaves
out a publish whose alias has no topic, as its documentation says, and the state machine accepts such a
publish. `Fitting` asks for both: nothing is parked when a publish comes under the identifier of an
unacknowledged publish, and an alias that comes without a topic is bound. `balances_run` says that the
books balance in every run of such calls.

The content of a publish is what no alias policy touches: everything but the duplicate flag, the
topic and the topic alias.
-/

import Rumqtt.Flows.Custody
import Rumqtt.Flows.GiveBack
import Rumqtt.V5.Acknowledging
import Rumqtt.V5.Replayable

namespace Rumqtt.V5

open MqttState Handler List

/-! ### Content -/

/-- **What a publish says**, up to its topic, its alias and its duplicate flag. -/
structure Content where
  qos : QoS
  retain : Bool
  payload : Bytes
  /-- The properties without the alias. -/
  properties : PublishProperties
  deriving DecidableEq, Repr

def content (publish : Publish) : Content where
  qos := publish.qos
  retain := publish.retain
  payload := publish.payload
  properties := { publish.properties.getD {} with topicAlias := none }

section Content

variable (publish : Publish)

@[simp] theorem content_strip : content (stripPublishTopicAlias publish) = content publish := by
  obtain ⟨_, _, _, _, _, _, _ | properties⟩ := publish <;> rfl

@[simp] theorem content_markDup : content (Flows.markDup publish) = content publish := by
  unfold Flows.markDup
  split <;> rfl

@[simp] theorem content_applyAuto (a : TopicAliasState) :
    content (a.applyAutoTopicAlias publish).1 = content publish := by
  unfold TopicAliasState.applyAutoTopicAlias
  split
  · rfl
  · split
    · rfl
    · split <;> rfl

@[simp] theorem content_wire (s : MqttState) (pkid : PacketId) :
    content (s.wire publish pkid) = content publish := content_applyAuto publish s.topicAliases

@[simp] theorem content_publishForReplayTracking (a : TopicAliasState) :
    content (a.publishForReplayTracking publish) = content publish := by
  unfold TopicAliasState.publishForReplayTracking
  split <;> rfl

@[simp] theorem content_restoreParked (action : Option AutoTopicAliasAction) :
    content (AutoTopicAliasAction.restoreParked action publish) = content publish := by
  rcases action with _ | (_ | _)
  · rfl
  · exact content_strip _
  · exact content_strip _

end Content

/-! ### Cargo -/

namespace MqttState

variable {s t : MqttState} {pool : List Request} {pkid : PacketId}

/-- What the state machine holds. -/
def cargo (s : MqttState) : Cargo Content := s.toFlows.cargo content

theorem cargo_maybeShrink (s : MqttState) :
    s.maybeShrinkOutgoingTrackingCapacity.cargo = s.cargo := by
  unfold maybeShrinkOutgoingTrackingCapacity
  dsimp only
  split
  · rfl
  · next drained =>
    rw [not_or, Bool.not_eq_false, outboundRequestsDrained, Bool.and_eq_true, Bool.and_eq_true] at drained
    exact Flows.cargo_shrinkTo drained.2.1.2 _

theorem cargo_withRoom (s : MqttState) (pkid : PacketId) : (s.withRoom pkid).cargo = s.cargo :=
  Flows.cargo_ensureCapacity s.toFlows _

/-- **A publish that is stored is held**, with the content it came with. -/
theorem cargo_published {wired : Publish} (fits : wired.pkid.toNat < s.outgoingPub.length)
    (fresh : wired.pkid ∉ s.outgoingPubOrder) (notice : Option NoticeId)
    (action : Option AutoTopicAliasAction) :
    (s.published wired notice action).cargo = s.cargo.send (wired.pkid, content wired) := by
  have same := pkid_publishForReplayTracking s.topicAliases wired
  have stored : (s.published wired notice action).cargo = s.cargo.send
      ((s.topicAliases.publishForReplayTracking wired).pkid,
        content (s.topicAliases.publishForReplayTracking wired)) :=
    Flows.cargo_withPublish notice (by rwa [same]) (by rwa [same])
  rwa [same, content_publishForReplayTracking] at stored

theorem cargo_parking (s : MqttState) (wired : Publish) (notice : Option NoticeId)
    (action : Option AutoTopicAliasAction) :
    (s.parking wired notice action).cargo = s.cargo.park (wired.pkid, content wired) := by
  have same : ((AutoTopicAliasAction.restoreParked action wired).pkid,
      content (AutoTopicAliasAction.restoreParked action wired)) = (wired.pkid, content wired) := by
    rw [pkid_restoreParked, content_restoreParked]
  rw [← same]
  rfl

theorem Settled.cargo {outgoing : Option Packet} (fresh : pkid ∉ s.outgoingPubOrder)
    (settled : Settled s pkid outgoing t) : s.cargo.Settle pkid t.cargo := by
  cases settled with
  | quiet =>
    rw [cargo_maybeShrink]
    exact .quiet
  | unparked publish waiting same =>
    subst same
    have stored : (s.unparked publish).cargo = s.cargo.unpark (publish.pkid, content publish) :=
      Flows.cargo_unparked (pkid_publishForReplayTracking s.topicAliases publish)
        (content_publishForReplayTracking publish s.topicAliases) fresh s.collisionNotice
    rw [stored]
    exact .unparked _ (congrArg (Option.map _) waiting)

theorem cargo_acked (sound : s.Sound pool) (pkid : PacketId) :
    (s.acked pkid).cargo = s.cargo.ack pkid :=
  Flows.cargo_withoutPublish sound.tracked.pubOrder_nodup pkid

/-- **An accepted packet completes, moves or leaves alone the publishes it names.** -/
theorem Dispatched.cargo {packet : Packet} {result : DispatchResult} (sound : s.Sound pool)
    (dispatched : Dispatched s packet result t) (accepted : result.isOk = true) :
    s.cargo.Acknowledges packet.flowPacket t.cargo := by
  cases dispatched with
  | rejected | failed => cases accepted
  | puback puback member outgoing notices t settled =>
    have ended := settled.cargo (sound.tracked.notMem_withoutPublish puback.pkid)
    rw [cargo_acked sound] at ended
    exact .acked _ _ ended
  | pubrecFailed pubrec member failure outgoing notices t settled =>
    have ended := settled.cargo (sound.tracked.notMem_withoutPublish pubrec.pkid)
    rw [cargo_acked sound] at ended
    rw [Packet.flowPacket, if_pos failure]
    exact .refused _ _ ended
  | pubrec pubrec member success =>
    have received : (s.received pubrec.pkid).cargo = s.cargo.receive pubrec.pkid := by
      unfold Cargo.receive
      rw [← cargo_acked sound]
      rfl
    rw [Packet.flowPacket, if_neg (Nat.not_le.mpr success), received]
    exact .received _ (sound.tracked.under_publishes member)
  | pubcomp pubcomp member outgoing notices t settled =>
    have fresh := sound.tracked.notMem_pubOrder_of_release member
    exact .completed _ _ (Settled.cargo (s := s.completed pubcomp.pkid) fresh settled)
  | suback => exact .answered _
  | unsuback => exact .answered _
  | publish _ _ _ _ _ _ outcome =>
    cases outcome <;> exact .other
  | _ => exact .other

theorem Handled.cargo {packet : Packet} {result : PacketResult} (sound : s.Sound pool)
    (handled : Handled s packet result t) (accepted : result.isOk = true) :
    s.cargo.Acknowledges packet.flowPacket t.cargo := by
  obtain ⟨retained, found, u, _, dispatched, rfl, rfl⟩ := handled.dispatched
  cases found with
  | error => cases accepted
  | ok =>
    have kept : MqttState.Sound { s with connectionFailurePacket := retained } pool := { sound with }
    have acknowledges := Dispatched.cargo kept dispatched rfl
    exact acknowledges

end MqttState

/-! ### The public clean-up -/

namespace MqttState

variable {s : MqttState} {pool : List Request}

/-- The state after the public clean-up of the flows, before the tracking may shrink. -/
def returnedUp (s : MqttState) : MqttState := { s.cleanedUp with toFlows := s.toFlows.givenBack }

/-- The state after the public clean-up, on which the connection is over. -/
def afterReturn (s : MqttState) : MqttState :=
  (if s.toFlows.cleanRequests.isEmpty then s.returnedUp.maybeShrinkOutgoingTrackingCapacity
    else s.returnedUp).resetConnectionScopedState

theorem Sound.afterReturn (sound : s.Sound pool) : s.afterReturn.Sound pool := by
  have returned : s.returnedUp.Sound pool :=
    { sound with
      tracked := sound.tracked.givenBack
      sendQuota := sound.sendQuota.clear
      sendQuota_owned := by
        rintro pkid ⟨⟩
      recovery_sub := by
        rintro bit ⟨⟩ }
  unfold MqttState.afterReturn
  split
  · exact returned.maybeShrink.resetConnectionScopedState
  · exact returned.resetConnectionScopedState

/-- **The public clean-up does not panic**; it returns every flow whose alias can be repaired. -/
theorem Sound.publicClean_run (sound : s.Sound pool) : MqttState.clean.run s =
    .ok (.ok (repairAll (s.toFlows.cleanRequests.map (·.request)) s.topicAliases.replayAliases),
      s.afterReturn) := by
  have drained : (flows fun f => do
      let result ← f.clean false
      return (.ok result.1, result.2)).run s =
        .ok (.ok s.toFlows.cleanRequests, s.putFlows s.toFlows.givenBack) := by
    refine run_flows ?_
    rw [sound.tracked.clean_false_ok]
    rfl
  have cleaned : (cleanWithNoticesInternal false).run s = .ok (.ok s.toFlows.cleanRequests,
      if s.toFlows.cleanRequests.isEmpty then s.returnedUp.maybeShrinkOutgoingTrackingCapacity
      else s.returnedUp) := by
    refine (run_bind_ok drained).trans ?_
    rw [run_modify_bind]
    cases s.toFlows.cleanRequests.isEmpty <;> rfl
  unfold MqttState.clean
  rw [run_get_bind]
  exact run_bind_ok cleaned

theorem cargo_afterReturn (s : MqttState) : s.afterReturn.cargo = s.cargo.clean := by
  unfold afterReturn
  split
  · exact cargo_maybeShrink s.returnedUp
  · rfl

theorem Sound.lookup_of_empty (sound : s.Sound pool) (empty : s.outgoingPubOrder = []) (index : Nat) :
    s.outgoingPub.lookup index = none := by
  by_cases fits : index < s.outgoingPub.length
  · have small := Nat.lt_of_lt_of_le fits sound.tracked.lengthLe
    have index_eq : (UInt16.ofNat index).toNat = index := UInt16.toNat_ofNat_of_lt' small
    have absent := (sound.tracked.mem_pubOrder (UInt16.ofNat index)).not.mp (by simp [empty])
    rwa [index_eq, Bool.not_eq_true, Option.isSome_eq_false_iff, Option.isNone_iff_eq_none] at absent
  · exact SlotVec.lookup_eq_none_of_le (Nat.le_of_not_lt fits)

theorem Sound.replayable_afterReturn (sound : s.Sound pool) : s.afterReturn.Replayable := by
  have order : s.afterReturn.outgoingPubOrder = [] := by
    rw [← sound.afterReturn.tracked.fst_publishes content]
    exact congrArg (map Prod.fst) (congrArg Cargo.publishes (cargo_afterReturn s))
  have idle : s.afterReturn.cargo.parked = none := congrArg Cargo.parked (cargo_afterReturn s)
  have nothing : ∀ publish, ¬ Kept s.afterReturn.outgoingPub s.afterReturn.collision publish := by
    rintro publish (⟨index, found⟩ | parked)
    · rw [sound.afterReturn.lookup_of_empty order index] at found
      cases found
    · rw [Option.map_eq_none_iff.mp idle] at parked
      cases parked
  refine ⟨fun publish kept => absurd kept (nothing publish), ?_,
    fun _ => ⟨rfl, fun publish kept => absurd kept (nothing publish)⟩⟩
  rintro topic aliasId ⟨⟩

theorem Sound.resolves_clean (replayable : s.Replayable) :
    ∀ publish, .publish publish ∈ s.toFlows.cleanRequests.map (·.request) →
      s.topicAliases.replayAliases.Resolves publish := by
  intro publish member
  simp only [Flows.cleanRequests, map_append, mem_append] at member
  rcases member with (((stored | parked) | released) | subscribed) | unsubscribed
  · obtain ⟨clean, found, request_eq⟩ := mem_map.mp stored
    obtain ⟨pkid, -, slot⟩ := mem_filterMap.mp found
    obtain ⟨original, held, rfl⟩ := Option.map_eq_some_iff.mp slot
    cases request_eq
    have resolves := replayable.resolved original (.inl ⟨_, held⟩)
    unfold Flows.markDup
    split <;> exact resolves
  · obtain ⟨clean, found, request_eq⟩ := mem_map.mp parked
    obtain ⟨original, held, rfl⟩ := mem_map.mp found
    cases request_eq
    exact replayable.resolved _ (.inr (Option.mem_toList.mp held))
  · obtain ⟨clean, found, request_eq⟩ := mem_map.mp released
    obtain ⟨pkid, -, rfl⟩ := mem_map.mp found
    cases request_eq
  · obtain ⟨clean, found, request_eq⟩ := mem_map.mp subscribed
    obtain ⟨entry, -, rfl⟩ := mem_map.mp found
    cases request_eq
  · obtain ⟨clean, found, request_eq⟩ := mem_map.mp unsubscribed
    obtain ⟨entry, -, rfl⟩ := mem_map.mp found
    cases request_eq

/-- **The public clean-up of repairable publishes returns every publish held**, with its content. -/
theorem Sound.publishOf_clean (sound : s.Sound pool) (replayable : s.Replayable) :
    (repairAll (s.toFlows.cleanRequests.map (·.request))
      s.topicAliases.replayAliases).filterMap (Custody.publishOf content) =
        s.cargo.publishes ++ s.cargo.parked.toList := by
  rw [filterMap_repairAll _ (Sound.resolves_clean replayable)]
  · exact sound.tracked.publishOf_cleanRequests content_markDup
  · intro publish topic
    refine ⟨rfl, ?_⟩
    unfold Custody.publishOf
    dsimp only
    rw [content_strip]
    rfl

theorem releaseOf_clean (replayable : s.Replayable) :
    (repairAll (s.toFlows.cleanRequests.map (·.request))
      s.topicAliases.replayAliases).filterMap Custody.releaseOf = s.cargo.releases := by
  rw [filterMap_repairAll (fun _ _ => ⟨rfl, rfl⟩) (Sound.resolves_clean replayable)]
  exact Flows.Tracked.releaseOf_cleanRequests s.toFlows

end MqttState

/-! ### Runs of the public interface -/

/-- A call of the public interface of the state machine. -/
inductive Call where
  | outgoing (request : Request)
  | incoming (packet : Packet)
  | clean

/-- **The state machine and the books about its publishes.** -/
structure Custodian where
  state : MqttState
  custody : Custody Content

instance (aliases : AliasMap) (publish : Publish) : Decidable (aliases.Resolves publish) :=
  decidable_of_iff (publish.topic ≠ [] ∨ ((publishTopicAlias publish).all
    fun aliasId => (aliases aliasId).isSome) = true) (by
      unfold AliasMap.Resolves
      cases publishTopicAlias publish <;> simp)

namespace Custodian

variable {request : Request} {result : RequestResult}
  {t : MqttState}

def new (options : StateOptions) : Custodian := ⟨newInternal options, {}⟩

/-- **One call.** -/
def step (c : Custodian) : Call → Checked Custodian
  | .outgoing request => do
    let (result, s) ← (handleOutgoingPacket request).run c.state
    match result with
    | .ok packet => return ⟨s, c.custody.requested content c.state.outgoingRelOrder
        (packet.bind Packet.sentPublish) request⟩
    | .error _ => return { c with state := s }
  | .incoming packet => do
    let (result, s) ← (handleIncomingPacketWithEffects packet).run c.state
    match result with
    | .ok _ => return ⟨s, c.custody.handled c.state.cargo packet.flowPacket⟩
    | .error _ => return { c with state := s }
  | .clean => do
    let (result, s) ← MqttState.clean.run c.state
    match result with
    | .ok requests => return ⟨s, c.custody.cleaned content requests⟩
    | .error _ => return { c with state := s }

/-- A publish under the identifier of an unacknowledged publish comes while nothing is parked, and an
alias without a topic is bound. -/
def Fitting (c : Custodian) : Call → Prop
  | .outgoing (.publish publish) => publish.qos ≠ .atMostOnce →
    (publish.pkid ∈ c.state.outgoingPubOrder → c.state.collision = none) ∧
      c.state.topicAliases.outgoing.Resolves publish
  | _ => True

instance (c : Custodian) (call : Call) : Decidable (c.Fitting call) := by
  unfold Fitting
  split <;> infer_instance

/-- The invariant of all runs of fitting calls. -/
structure Kept (c : Custodian) : Prop where
  sound : c.state.Sound []
  replayable : c.state.Replayable
  keeps : c.custody.Keeps c.state.cargo

variable {c : Custodian}

theorem outgoing_run {s : MqttState}
    (ran : (handleOutgoingPacketWithNoticeInternal request none false).run s = .ok (result, t)) :
    (handleOutgoingPacket request).run s = .ok (result.map Prod.fst, t) := by
  cases result with
  | ok answer => exact run_bind_ok ran
  | error error => exact run_bind_error ran

/-- The books after an outgoing request. -/
def booked (c : Custodian) (request : Request)
    (result : RequestResult) : Custody Content :=
  match result with
  | .ok _ => c.custody.requested content c.state.outgoingRelOrder (written result) request
  | .error _ => c.custody

/-- **An outgoing request keeps the balance.** -/
theorem keeps_booked (kept : c.Kept) (fitting : c.Fitting (.outgoing request))
    (requested : Requested c.state none request false result t) :
    (c.booked request result).Keeps t.cargo := by
  have keeps := kept.keeps
  cases requested with
  | rejected => exact keeps
  | refused =>
    rw [cargo_withRoom]
    exact keeps
  | qos0 publish replay unacked =>
    unfold booked
    dsimp only [Custody.requested]
    rw [if_pos unacked]
    exact keeps
  | fresh publish pkid acked admitted nonzero free =>
    have unheld : pkid ∉ c.state.outgoingPubOrder :=
      kept.sound.tracked.unheld_of_free free .publish
    have room : pkid.toNat < (((c.state.assigned publish pkid).withRoom pkid).reserving
        pkid).outgoingPub.length := Flows.lt_length_ensureCapacity c.state.toFlows pkid
    have before : (((c.state.assigned publish pkid).withRoom pkid).reserving pkid).cargo =
        c.state.cargo := cargo_withRoom (c.state.assigned publish pkid) pkid
    unfold booked
    dsimp only [Custody.requested]
    rw [if_neg acked, written_wire _ acked, cargo_published room unheld, before, content_wire]
    exact keeps.sent (pkid, content publish)
  | parked publish acked admitted occupied =>
    have idle : c.state.cargo.parked = none :=
      congrArg (Option.map _) ((fitting acked).1 occupied)
    unfold booked
    dsimp only [Custody.requested]
    rw [if_neg acked, cargo_parking, cargo_withRoom, content_wire]
    exact keeps.parkedAt idle (publish.pkid, content publish)
  | pubrelResumed pubrel replay member =>
    have inactive : pubrel.pkid ∉ c.state.outgoingRelOrder :=
      fun active => kept.sound.tracked.relReplay_fresh pubrel.pkid active member
    unfold booked
    dsimp only [Custody.requested]
    rw [if_neg inactive]
    have resumed := keeps.resumed member kept.sound.tracked.relReplayOrder_nodup
    rwa [← cargo_withRoom c.state pubrel.pkid] at resumed
  | pubrelAgain pubrel replay member =>
    unfold booked
    dsimp only [Custody.requested]
    rw [if_pos member]
    rwa [← cargo_withRoom c.state pubrel.pkid] at keeps
  | subscribe => exact keeps
  | unsubscribe => exact keeps
  | pingFailed => exact keeps
  | ping => exact keeps
  | disconnect => exact keeps
  | puback => exact keeps
  | pubrec => exact keeps
  | pubrecFailure => exact keeps
  | auth packet replay outcome => cases outcome <;> exact keeps

theorem sound_requested {s : MqttState} (sound : s.Sound [])
    (requested : Requested s none request false result t) : t.Sound [] := by
  cases kind : request.pubRelPkid? with
  | none => exact sound.requested kind requested
  | some pkid =>
    cases request with
    | pubRel pubrel =>
      rcases sound.pubrelRequested requested with same | ⟨-, fewer⟩
      · exact same
      · exact fewer
    | _ => cases kind

/-- **One more fitting call keeps the balance.** -/
theorem kept_step (call : Call) (kept : c.Kept) (fitting : c.Fitting call) :
    (c.step call).Satisfies Driver.Excused Kept := by
  cases call with
  | outgoing request =>
    cases graceful : request.isLeftToEventLoop with
    | true =>
      have stopped := Driver.handleOutgoing_graceful graceful none false c.state
      unfold step
      dsimp only
      rw [show (handleOutgoingPacket request).run c.state = _ from Handler.run_bind_panic stopped]
      exact Eq.refl (Panic.unreachableCode _)
    | false =>
      obtain ⟨result, t, ran, requested⟩ :=
        kept.sound.handleOutgoing_run request none false graceful (by simp)
      have after := keeps_booked kept fitting requested
      have sound := sound_requested kept.sound requested
      have replayable := kept.replayable.requested (by
        rintro publish rfl acked
        exact (fitting acked).2) requested
      unfold step
      dsimp only
      rw [outgoing_run ran]
      cases result with
      | ok answer =>
        obtain ⟨packet, notice⟩ := answer
        refine ⟨sound, replayable, ?_⟩
        cases packet <;> exact after
      | error error => exact ⟨sound, replayable, after⟩
  | incoming packet =>
    obtain ⟨result, t, ran, handled⟩ := kept.sound.handleIncoming_run packet
    have sound := kept.sound.handled handled
    have replayable := kept.replayable.handled handled
    unfold step
    dsimp only
    rw [ran]
    cases result with
    | ok effects =>
      refine ⟨sound, replayable, ?_⟩
      exact kept.keeps.packet kept.sound.tracked.relOrder_nodup (handled.cargo kept.sound rfl)
    | error error =>
      refine ⟨sound, replayable, ?_⟩
      have same : t.cargo = c.state.cargo := congrArg (Flows.cargo content) handled.rejected_same.1
      rw [same]
      exact kept.keeps
  | clean =>
    unfold step
    dsimp only
    rw [kept.sound.publicClean_run]
    refine ⟨kept.sound.afterReturn, kept.sound.replayable_afterReturn, ?_⟩
    rw [cargo_afterReturn, Custody.cleaned, releaseOf_clean kept.replayable,
      kept.sound.publishOf_clean kept.replayable]
    exact kept.keeps.cleaned kept.sound.tracked.relOrder_nodup (.refl _)

/-- **No accepted publish is lost in a run of fitting calls.** -/
theorem balances_run (options : StateOptions) (calls : List Call)
    (fitting : Admissible step Fitting (new options) calls) :
    (runSteps step (new options) calls).Satisfies Driver.Excused
      fun c => c.custody.Balances c.state.cargo := by
  have start : (new options).Kept := by
    exact ⟨sound_new options, replayable_new options, ⟨⟨.refl [], rfl⟩, rfl⟩⟩
  refine (fitting.run_invariant (fun _ call fits kept => kept_step call kept fits) start).mono ?_
  exact fun c kept => kept.keeps.toBalances

end Custodian

end Rumqtt.V5
