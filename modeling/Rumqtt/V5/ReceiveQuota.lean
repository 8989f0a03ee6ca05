/-
**The receive quota of an MQTT 5 connection.**

A `Receiver` is a driver together with the incoming flows of the connection as the broker sees them,
told by packets only: a QoS 1 publish is open until its PUBACK is written, a QoS 2 publish until its
PUBREL arrives or a failing PUBREC is written. `Counted` ties the receive quota to these flows.

One bit of the quota stands for both kinds of flow, so the invariant needs a broker that does not use
an identifier for a QoS 1 and a QoS 2 publish at the same time (`Receiver.Distinct`). Then

* `counted_step`: every operation keeps the invariant;
* `receive_quota_respected`: in every run the counter counts the open identifiers, stays within the
  Receive Maximum of the client, and a publish beyond it is answered with DISCONNECT and not shown.

Without the condition the counter falls behind the open flows (`shared_identifier_uncounted`).
-/

import Mathlib.Data.Finset.Card
import Rumqtt.V5.Driver

namespace Rumqtt.V5

open MqttState Handler FixedBitSet

/-! ### Open flows -/

/-- **Incoming publishes of the current connection whose flow is open**, by identifier. -/
structure Inbound where
  /-- QoS 1 publishes received and not answered with PUBACK. -/
  qos1 : Finset PacketId
  /-- QoS 2 publishes received, neither released with PUBREL nor refused with PUBREC. -/
  qos2 : Finset PacketId

namespace Inbound

def empty : Inbound := ⟨∅, ∅⟩

section

variable (inbound : Inbound)

def identifiers : Finset PacketId := inbound.qos1 ∪ inbound.qos2

/-- The open flows after a packet has been received. -/
def received : Packet → Inbound
  | .publish publish =>
    match publish.qos with
    | .atMostOnce => inbound
    | .atLeastOnce => { inbound with qos1 := insert publish.pkid inbound.qos1 }
    | .exactlyOnce => { inbound with qos2 := insert publish.pkid inbound.qos2 }
  | .pubRel pubrel => { inbound with qos2 := inbound.qos2.erase pubrel.pkid }
  | _ => inbound

/-- The open flows after a packet has been written. -/
def wrote : Packet → Inbound
  | .pubAck puback => { inbound with qos1 := inbound.qos1.erase puback.pkid }
  | .pubRec pubrec =>
    if 0x80 ≤ pubrec.reason.code then { inbound with qos2 := inbound.qos2.erase pubrec.pkid }
    else inbound
  | _ => inbound

/-- The open flows after a packet has been accepted with an answer; a publish answered with DISCONNECT
opens no flow. -/
def answered (packet : Packet) : Option Packet → Inbound
  | some (.disconnect _) => inbound
  | some answer => (inbound.received packet).wrote answer
  | none => inbound.received packet

/-- The open flows after a request. -/
def requested : RequestResult → Inbound
  | .ok (some packet, _) => inbound.wrote packet
  | _ => inbound

/-- The open flows after a packet has been handled. -/
def handled (packet : Packet) : PacketResult → Inbound
  | .ok effects => inbound.answered packet effects.outgoing
  | .error _ => inbound

end

end Inbound

/-- **The state machine with the incoming flows of its connection.** -/
structure Receiver where
  driver : Driver
  inbound : Inbound

namespace Receiver

def new (options : StateOptions) : Receiver := ⟨.new options, .empty⟩

/-- The open flows after a request has been handled. -/
def afterRequest (r : Receiver) (request : Request) (notice : Option TrackedNotice) (replay : Bool) :
    Inbound :=
  match (handleOutgoingPacketWithNoticeInternal request notice replay).run r.driver.state with
  | .ok (result, _) => r.inbound.requested result
  | .error _ => r.inbound

/-- The open flows after an operation, as this side counts them. A lost connection has none. A session
reset forgets them too: `reset_session_state` may run on a live connection, whose broker still counts
the flows that were open. -/
def inboundAfter (r : Receiver) : Op → Inbound
  | .request request notice => r.afterRequest request notice false
  | .replay position notice =>
    match r.driver.replays[position]? with
    | none => r.inbound
    | some request => r.afterRequest request notice true
  | .incoming packet =>
    match (handleIncomingPacketWithEffects packet).run r.driver.state with
    | .ok (result, _) => r.inbound.handled packet result
    | .error _ => r.inbound
  | .restore options session =>
    match r.driver.state.restorePersistedSession options session with
    | .ok (.ok _, _) => .empty
    | _ => r.inbound
  | .clean | .resetSession => .empty
  | .forget _ | .reconcileCapacity _ => r.inbound

/-- **One operation.** -/
def step (r : Receiver) (op : Op) : Checked Receiver := do
  let driver ← r.driver.step op
  return ⟨driver, r.inboundAfter op⟩

/-- The broker uses no identifier for a QoS 1 and a QoS 2 publish at the same time. -/
def Distinct (r : Receiver) : Op → Prop
  | .incoming (.publish publish) =>
    match publish.qos with
    | .atMostOnce => True
    | .atLeastOnce => publish.pkid.toNat ∉ r.driver.state.incomingPub
    | .exactlyOnce => publish.pkid.toNat ∉ r.driver.state.incomingPuback
  | _ => True

instance (r : Receiver) (op : Op) : Decidable (r.Distinct op) := by
  unfold Distinct
  split
  · split <;> infer_instance
  · infer_instance

end Receiver

/-! ### The invariant -/

/-- **The receive quota counts the open flows**, up to the Receive Maximum of the client. -/
structure Counted (maximum : UInt16) (s : MqttState) (inbound : Inbound) : Prop where
  qos1 : ∀ pkid, pkid ∈ inbound.qos1 ↔ pkid.toNat ∈ s.incomingPuback
  qos2 : ∀ pkid ∈ inbound.qos2, pkid.toNat ∈ s.incomingPub
  apart : ∀ bit ∈ s.incomingPuback, bit ∉ s.incomingPub
  quota : ∀ pkid : PacketId, pkid.toNat ∈ s.incomingPublishQuota.bits ↔
    pkid ∈ inbound.qos1 ∨ pkid ∈ inbound.qos2
  bounded : s.incomingPublishQuota.inflight ≤ maximum.toNat
  limit : s.maxIncomingInflight = maximum

variable {maximum : UInt16} {s t : MqttState} {inbound : Inbound} {pool : List Request} {pkid : PacketId}

theorem counted_closed (puback : ∀ bit, bit ∉ s.incomingPuback)
    (quota : ∀ bit, bit ∉ s.incomingPublishQuota.bits) (none : s.incomingPublishQuota.inflight = 0)
    (limit : s.maxIncomingInflight = maximum) :
    Counted maximum s .empty where
  qos1 pkid := iff_of_false (Finset.notMem_empty pkid) (puback _)
  qos2 pkid member := absurd member (Finset.notMem_empty pkid)
  apart bit member := absurd member (puback bit)
  quota pkid := iff_of_false (quota _) (by simp [Inbound.empty])
  bounded := none ▸ Nat.zero_le _
  limit := limit

/-- The counter of a valid quota is the number of identifiers its bits stand for. -/
theorem Quota.Valid.inflight_eq_card {quota : Quota} (valid : quota.Valid) {ids : Finset PacketId}
    (same : ∀ pkid : PacketId, pkid.toNat ∈ quota.bits ↔ pkid ∈ ids) : quota.inflight = ids.card := by
  have ones : quota.bits.ones.toFinset = ids.image UInt16.toNat := by
    ext bit
    rw [List.mem_toFinset, Finset.mem_image]
    constructor
    · intro member
      have below : bit < 2 ^ 16 := by
        have := quota.bits.bounded bit member
        rwa [valid.length] at this
      have shown : (UInt16.ofNat bit).toNat = bit := UInt16.toNat_ofNat_of_lt' below
      refine ⟨UInt16.ofNat bit, (same _).mp ?_, shown⟩
      rwa [shown]
    · rintro ⟨pkid, member, rfl⟩
      exact (same pkid).mpr member
  have injective : Function.Injective UInt16.toNat := fun _ _ => UInt16.toNat_inj.mp
  rw [valid.count, FixedBitSet.card, ← List.toFinset_card_of_nodup quota.bits.ones_nodup, ones,
    Finset.card_image_of_injective ids injective]

theorem Quota.inflight_acquired_of_room {quota : Quota} {maximum : Nat}
    (bounded : quota.inflight ≤ maximum)
    (room : pkid.toNat ∈ quota.bits ∨ quota.inflight < maximum) :
    (quota.acquired pkid).inflight ≤ maximum := by
  unfold Quota.acquired
  split
  · exact bounded
  · rename_i absent
    exact room.resolve_left absent

theorem Quota.inflight_released_of_bounded {quota : Quota} {maximum : Nat}
    (bounded : quota.inflight ≤ maximum) (pkid : PacketId) :
    (quota.released pkid).inflight ≤ maximum := by
  unfold Quota.released
  split
  · exact (Nat.sub_le ..).trans bounded
  · exact bounded

namespace Counted

/-! ### Flows open -/

/-- There is a place for the publish: its flow has one, or the maximum is not reached. -/
def Room (s : MqttState) (pkid : PacketId) : Prop :=
  pkid.toNat ∈ s.incomingPublishQuota.bits ∨
    s.incomingPublishQuota.inflight < s.maxIncomingInflight.toNat

theorem qos1Tracked (counted : Counted maximum s inbound) (room : Room s pkid)
    (distinct : pkid.toNat ∉ s.incomingPub) :
    Counted maximum (s.qos1Tracked pkid) { inbound with qos1 := insert pkid inbound.qos1 } where
  qos1 other := by
    rw [Finset.mem_insert, counted.qos1, ← UInt16.toNat_inj]
    exact (mem_growAndInsert ..).symm
  qos2 := counted.qos2
  apart bit member := by
    rcases (mem_growAndInsert ..).mp member with rfl | old
    · exact distinct
    · exact counted.apart bit old
  quota other := by
    refine Quota.mem_acquired.trans ?_
    rw [counted.quota, UInt16.toNat_inj, Finset.mem_insert, or_assoc]
  bounded := Quota.inflight_acquired_of_room counted.bounded (counted.limit ▸ room)
  limit := counted.limit

theorem qos2Tracked (counted : Counted maximum s inbound) (room : Room s pkid)
    (distinct : pkid.toNat ∉ s.incomingPuback) :
    Counted maximum (s.qos2Tracked pkid) { inbound with qos2 := insert pkid inbound.qos2 } where
  qos1 := counted.qos1
  qos2 other member := by
    refine (mem_growAndInsert ..).mpr ?_
    rw [UInt16.toNat_inj]
    exact (Finset.mem_insert.mp member).imp_right (counted.qos2 other)
  apart bit member inPub := by
    rcases (mem_growAndInsert ..).mp inPub with rfl | old
    · exact distinct member
    · exact counted.apart bit member old
  quota other := by
    refine Quota.mem_acquired.trans ?_
    rw [counted.quota, UInt16.toNat_inj, Finset.mem_insert, or_left_comm]
  bounded := Quota.inflight_acquired_of_room counted.bounded (counted.limit ▸ room)
  limit := counted.limit

/-! ### Flows end -/

theorem pubackSent (counted : Counted maximum s inbound) (waiting : pkid.toNat ∈ s.incomingPuback) :
    Counted maximum (s.pubackSent pkid) { inbound with qos1 := inbound.qos1.erase pkid } where
  qos1 other := by
    rw [Finset.mem_erase, counted.qos1, ne_eq, ← UInt16.toNat_inj]
    exact (mem_remove ..).symm
  qos2 := counted.qos2
  apart bit member := counted.apart bit ((mem_remove ..).mp member).2
  quota other := by
    -- the identifier has no QoS 2 flow, so its bit stood for the QoS 1 flow alone
    have alone : pkid ∉ inbound.qos2 := fun open2 => counted.apart _ waiting (counted.qos2 pkid open2)
    refine Quota.mem_released.trans ?_
    rw [counted.quota, ne_eq, UInt16.toNat_inj, Finset.mem_erase]
    grind
  bounded := Quota.inflight_released_of_bounded counted.bounded pkid
  limit := counted.limit

/-- The end of a QoS 2 flow, in the handlers of PUBREL and of a failing PUBREC. -/
theorem qos2Ended (counted : Counted maximum s inbound) (tracked : pkid.toNat ∈ s.incomingPub)
    (puback : t.incomingPuback = s.incomingPuback)
    (pub : t.incomingPub = s.incomingPub.remove pkid.toNat)
    (quota : t.incomingPublishQuota = s.incomingPublishQuota.released pkid)
    (limit : t.maxIncomingInflight = s.maxIncomingInflight) :
    Counted maximum t { inbound with qos2 := inbound.qos2.erase pkid } where
  qos1 other := by rw [puback]; exact counted.qos1 other
  qos2 other member := by
    obtain ⟨different, old⟩ := Finset.mem_erase.mp member
    rw [pub, mem_remove, ne_eq, UInt16.toNat_inj]
    exact ⟨different, counted.qos2 other old⟩
  apart bit member inPub := by
    rw [puback] at member
    rw [pub, mem_remove] at inPub
    exact counted.apart bit member inPub.2
  quota other := by
    have alone : pkid ∉ inbound.qos1 := fun open1 =>
      counted.apart _ ((counted.qos1 pkid).mp open1) tracked
    rw [quota, Quota.mem_released, counted.quota, ne_eq, UInt16.toNat_inj, Finset.mem_erase]
    grind
  bounded := by
    rw [quota]
    exact Quota.inflight_released_of_bounded counted.bounded pkid
  limit := limit.trans counted.limit

/-! ### Requests -/

theorem requested (counted : Counted maximum s inbound) {request : Request} {notice : Option TrackedNotice}
    {replay : Bool} {result : RequestResult}
    (requested : Requested s notice request replay result t) :
    Counted maximum t (inbound.requested result) := by
  cases requested with
  | rejected => exact counted
  | refused => exact { counted with }
  | qos0 => exact { counted with }
  | fresh => exact { counted with }
  | replayed => exact { counted with }
  | parked => exact { counted with }
  | pubrelResumed => exact { counted with }
  | pubrelAgain => exact { counted with }
  | subscribe => exact { counted with }
  | subscribeAgain => exact { counted with }
  | unsubscribe => exact { counted with }
  | unsubscribeAgain => exact { counted with }
  | pingFailed => exact { counted with }
  | ping => exact { counted with }
  | disconnect => exact { counted with }
  | puback puback _ waiting => exact counted.pubackSent waiting
  | pubrec pubrec _ _ _ success =>
    have goesOn : inbound.requested (.ok (some (.pubRec pubrec), none)) = inbound :=
      if_neg (Nat.not_le.mpr success)
    rw [goesOn]
    exact { counted with }
  | pubrecFailure pubrec _ tracked _ failure =>
    have ends : inbound.requested (.ok (some (.pubRec pubrec), none)) =
        { inbound with qos2 := inbound.qos2.erase pubrec.pkid } := if_pos failure
    rw [ends]
    exact counted.qos2Ended tracked rfl rfl rfl rfl
  | auth _ _ result =>
    cases result with
    | ok => exact { counted with }
    | error => exact { counted with }

/-! ### Incoming packets -/

section

variable (counted : Counted maximum s inbound)
include counted

theorem publishOutcome {publish : Publish}
    {outgoing : Option Packet} (outcome : PublishOutcome s publish outgoing t)
    (room : publish.qos ≠ .atMostOnce → Room s publish.pkid)
    (distinct1 : publish.qos = .atLeastOnce → publish.pkid.toNat ∉ s.incomingPub)
    (distinct2 : publish.qos = .exactlyOnce → publish.pkid.toNat ∉ s.incomingPuback) :
    Counted maximum t (inbound.answered (.publish publish) outgoing) := by
  have opened1 : publish.qos = .atLeastOnce → inbound.received (.publish publish) =
      { inbound with qos1 := insert publish.pkid inbound.qos1 } := fun qos => by
    simp only [Inbound.received, qos]
  have opened2 : publish.qos = .exactlyOnce → inbound.received (.publish publish) =
      { inbound with qos2 := insert publish.pkid inbound.qos2 } := fun qos => by
    simp only [Inbound.received, qos]
  cases outcome with
  | exceeded => exact { counted with }
  | qos0 qos =>
    simp only [Inbound.answered, Inbound.received, qos]
    exact counted
  | qos1 qos =>
    simp only [Inbound.answered, opened1 qos]
    exact counted.qos1Tracked (room (by simp [qos])) (distinct1 qos)
  | qos1Answered qos =>
    have tracked := counted.qos1Tracked (room (by simp [qos])) (distinct1 qos)
    simp only [Inbound.answered, opened1 qos]
    exact tracked.pubackSent ((mem_growAndInsert ..).mpr (.inl rfl))
  | qos2 qos =>
    simp only [Inbound.answered, opened2 qos]
    exact counted.qos2Tracked (room (by simp [qos])) (distinct2 qos)
  | qos2Answered qos =>
    simp only [Inbound.answered, opened2 qos]
    exact { counted.qos2Tracked (room (by simp [qos])) (distinct2 qos) with }
  | qos2Again qos =>
    simp only [Inbound.answered, opened2 qos]
    exact { counted.qos2Tracked (room (by simp [qos])) (distinct2 qos) with }

theorem maybeShrink :
    Counted maximum s.maybeShrinkOutgoingTrackingCapacity inbound := by
  unfold maybeShrinkOutgoingTrackingCapacity
  dsimp only
  split
  · exact counted
  · exact { counted with }

theorem settled {packet : Packet} {outgoing : Option Packet}
    (quiet : inbound.received packet = inbound) (settled : Settled s pkid outgoing t) :
    Counted maximum t (inbound.answered packet outgoing) := by
  cases settled with
  | unparked =>
    simp only [Inbound.answered, quiet]
    exact { counted with }
  | quiet =>
    simp only [Inbound.answered, quiet]
    exact counted.maybeShrink

end

/-- What lets the flow of an incoming packet be counted: a publish has a place, and an identifier of
its own. -/
structure Fitting (s : MqttState) (packet : Packet) : Prop where
  room : ∀ publish, packet = .publish publish → publish.qos ≠ .atMostOnce → Room s publish.pkid
  distinct1 : ∀ publish, packet = .publish publish → publish.qos = .atLeastOnce →
    publish.pkid.toNat ∉ s.incomingPub
  distinct2 : ∀ publish, packet = .publish publish → publish.qos = .exactlyOnce →
    publish.pkid.toNat ∉ s.incomingPuback

/-- The open flows after a packet has been dispatched. -/
def dispatchedInbound (inbound : Inbound) (packet : Packet) : DispatchResult → Inbound
  | .ok (_, effects) => inbound.answered packet effects.outgoing
  | .error _ => inbound

theorem dispatched (counted : Counted maximum s inbound) {packet : Packet} (fitting : Fitting s packet)
    {result : DispatchResult} (dispatched : Dispatched s packet result t) :
    Counted maximum t (dispatchedInbound inbound packet result) := by
  cases dispatched with
  | rejected => exact counted
  | failed => exact { counted with }
  | auth _ answer =>
    cases answer with
    | error => exact { counted with }
    | ok answer => cases answer <;> exact { counted with }
  | connected => exact { counted with }
  | pingResp => exact { counted with }
  | refused => exact { counted with }
  | publish publish topic incoming outgoing _ _ outcome =>
    have kept : Counted maximum (s.withIncomingAliases incoming) inbound := { counted with }
    have after := kept.publishOutcome outcome (fitting.room publish rfl)
      (fitting.distinct1 publish rfl) (fitting.distinct2 publish rfl)
    exact after
  | pubrelUnknown pubrel absent =>
    have unknown : pubrel.pkid ∉ inbound.qos2 := fun member => absent (counted.qos2 _ member)
    have same : inbound.received (.pubRel pubrel) = inbound := by
      simp only [Inbound.received, Finset.erase_eq_of_notMem unknown]
    simp only [dispatchedInbound, Inbound.answered, same]
    exact { counted with }
  | pubrel pubrel tracked => exact counted.qos2Ended tracked rfl rfl rfl rfl
  | puback puback _ _ _ _ settled =>
    have kept : Counted maximum (s.acked puback.pkid) inbound := { counted with }
    exact kept.settled rfl settled
  | pubrecFailed pubrec _ _ _ _ _ settled =>
    have kept : Counted maximum (s.acked pubrec.pkid) inbound := { counted with }
    exact kept.settled rfl settled
  | pubrec => exact { counted with }
  | pubcomp pubcomp _ _ _ _ settled =>
    have kept : Counted maximum (s.completed pubcomp.pkid) inbound := { counted with }
    exact kept.settled rfl settled
  | suback => exact { counted with }
  | unsuback => exact { counted with }

theorem handled (counted : Counted maximum s inbound) {packet : Packet} (fitting : Fitting s packet)
    {result : PacketResult} (handled : Handled s packet result t) :
    Counted maximum t (inbound.handled packet result) := by
  obtain ⟨retained, found, _, _, dispatched, rfl, rfl⟩ := handled.dispatched
  have kept : Counted maximum { s with connectionFailurePacket := retained } inbound := { counted with }
  have after := kept.dispatched { fitting with } dispatched
  cases found <;> exact { after with }

end Counted

/-! ### A publish beyond the maximum -/

/-- The publish would open one flow more than the Receive Maximum allows. -/
structure Exceeds (s : MqttState) (publish : Publish) : Prop where
  counted : publish.qos ≠ .atMostOnce
  fresh : publish.pkid.toNat ∉ s.incomingPublishQuota.bits
  full : s.maxIncomingInflight.toNat ≤ s.incomingPublishQuota.inflight

theorem Exceeds.accept_run {publish : Publish} (exceeds : Exceeds s publish) :
    (acceptIncomingPublish publish).run s =
      .ok (.ok (some (.disconnect ⟨.receiveMaximumExceeded, none⟩)), s.disconnecting) := by
  unfold acceptIncomingPublish
  rw [run_get_bind]
  simp only [exceeds.counted, contains_eq_false.mpr exceeds.fresh, ge_iff_le,
    exceeds.full, ne_eq, not_false_eq_true, and_self, if_true]
  exact run_bind_ok (outgoingDisconnect_run s _)

/-- **A publish beyond the Receive Maximum is answered with DISCONNECT** and changes nothing but the
aliases of the broker and the authentication exchange. -/
theorem Exceeds.handleIncoming_run {publish : Publish} (exceeds : Exceeds s publish) :
    ∃ disconnect incoming, (handleIncomingPacketWithEffects (.publish publish)).run s =
      .ok (.ok { outgoing := some (.disconnect disconnect) },
        (s.withIncomingAliases incoming).disconnecting) := by
  have shown : ∀ (seen : Publish) (disconnect : Disconnect) (incoming : AliasMap),
      (handleIncomingPublish publish).run s = .ok (.ok (seen, some (.disconnect disconnect)),
        (s.withIncomingAliases incoming).disconnecting) →
      (handleIncomingPacketWithEffects (.publish publish)).run s =
        .ok (.ok { outgoing := some (.disconnect disconnect) },
          (s.withIncomingAliases incoming).disconnecting) := by
    intro seen disconnect incoming ran
    have dispatched : (dispatchIncoming (.publish publish)).run s =
        .ok (.ok (.publish seen, { outgoing := some (.disconnect disconnect) }),
          (s.withIncomingAliases incoming).disconnecting) := run_bind_ok ran
    simp only [Handler.run] at dispatched
    simp only [handleIncomingPacketWithEffects, Handler.run, retainFailurePacket, dispatched,
      refusedPublish, Bool.true_or, if_true]
  rcases resolveIncomingAlias_cases s publish with
    ⟨-, disconnect, -, ran⟩ | ⟨topic, incoming, -, ran⟩
  · exact ⟨_, _, shown publish disconnect s.topicAliases.incoming (run_bind_ok ran)⟩
  · have still : Exceeds (s.withIncomingAliases incoming) { publish with topic } := { exceeds with }
    refine ⟨_, _, shown { publish with topic } ⟨.receiveMaximumExceeded, none⟩ incoming ?_⟩
    exact (run_bind_ok ran).trans (run_bind_ok still.accept_run)

/-- Giving the connection up shows nothing to the application but the failed exchange and the
DISCONNECT. -/
theorem disconnecting_added (s : MqttState) :
    ∃ added, s.disconnecting.events = s.events ++ added ∧ ∀ packet, .incoming packet ∉ added := by
  obtain ⟨added, same, own⟩ := s.disconnecting_events
  refine ⟨added, same, fun packet member => ?_⟩
  cases List.all_eq_true.mp own _ member

theorem afterClean_incoming (s : MqttState) : s.afterClean.incomingPuback = s.incomingPuback.clear ∧
      s.afterClean.maxIncomingInflight = s.maxIncomingInflight := by
  unfold MqttState.afterClean maybeShrinkOutgoingTrackingCapacity
  dsimp only
  split
  · split <;> exact ⟨rfl, rfl⟩
  · exact ⟨rfl, rfl⟩

/-! ### Runs -/

namespace Receiver

variable {r : Receiver}

/-- A healthy driver whose incoming flows are counted. -/
def Balanced (maximum : UInt16) (r : Receiver) : Prop :=
  r.driver.Healthy ∧ Counted maximum r.driver.state r.inbound

theorem balanced_new (options : StateOptions) :
    (new options).Balanced options.clientReceiveMaximum :=
  ⟨Driver.healthy_new options, counted_closed (notMem_withCapacity _)
    (notMem_withCapacity _) rfl rfl⟩

theorem counted_receive (counted : Counted maximum r.driver.state r.inbound) {packet : Packet}
    (distinct : r.Distinct (.incoming packet)) {result : PacketResult} {t : MqttState}
    (ran : (handleIncomingPacketWithEffects packet).run r.driver.state = .ok (result, t))
    (handled : Handled r.driver.state packet result t) :
    Counted maximum t (r.inbound.handled packet result) := by
  by_cases exceeding : ∃ publish, packet = .publish publish ∧ Exceeds r.driver.state publish
  · obtain ⟨publish, rfl, exceeds⟩ := exceeding
    obtain ⟨disconnect, incoming, exceeded⟩ := exceeds.handleIncoming_run
    cases exceeded.symm.trans ran
    exact { counted with }
  · refine counted.handled ⟨?room, ?distinct1, ?distinct2⟩ handled
    case room =>
      rintro publish rfl acked
      by_contra none
      obtain ⟨fresh, full⟩ := not_or.mp none
      exact exceeding ⟨publish, rfl, acked, fresh, Nat.le_of_not_lt full⟩
    case distinct1 =>
      rintro publish rfl qos
      simpa only [Distinct, qos] using distinct
    case distinct2 =>
      rintro publish rfl qos
      simpa only [Distinct, qos] using distinct

/-- **An operation keeps the incoming flows counted.** -/
theorem counted_step (op : Op) (distinct : r.Distinct op) (balanced : r.Balanced maximum) :
    (r.driver.step op).Satisfies Driver.Excused
      fun d => Counted maximum d.state (r.inboundAfter op) := by
  obtain ⟨healthy, counted⟩ := balanced
  refine (healthy.step_cases op).mono fun after ⟨stepped, _⟩ => ?_
  cases stepped with
  | requested ran requested =>
    rw [Driver.state_afterRequest, inboundAfter, afterRequest, ran]
    exact counted.requested requested
  | absent missing =>
    rw [inboundAfter, missing]
    exact counted
  | replayed found ran requested =>
    simp only [Driver.state_afterRequest, inboundAfter, found, afterRequest, ran]
    exact counted.requested requested
  | received ran handled =>
    rw [Driver.state_afterPacket, inboundAfter, ran]
    exact counted_receive counted distinct ran handled
  | lost =>
    obtain ⟨puback, limit⟩ := afterClean_incoming r.driver.state
    refine counted_closed ?_ (notMem_clear _) rfl (limit.trans counted.limit)
    show ∀ bit, bit ∉ r.driver.state.afterClean.incomingPuback
    rw [puback]
    exact notMem_clear _
  | reset =>
    exact counted_closed (notMem_withCapacity _) (notMem_withCapacity _) rfl
      counted.limit
  | unrestored ran =>
    rw [inboundAfter, ran]
    exact counted
  | restored _ ran =>
    rw [inboundAfter, ran]
    exact counted_closed (notMem_withCapacity _) (notMem_withCapacity _) rfl
      counted.limit
  | shrunk => exact counted.maybeShrink
  | forgotten | kept => exact counted

theorem balanced_step (op : Op) (distinct : r.Distinct op) (balanced : r.Balanced maximum) :
    (r.step op).Satisfies Driver.Excused (Balanced maximum) :=
  ((Driver.healthy_step op balanced.1).and (counted_step op distinct balanced)).bind
    fun _ kept => kept

theorem balanced_run {options : StateOptions} {ops : List Op}
    (distinct : Admissible step Distinct (new options) ops) :
    (runSteps step (new options) ops).Satisfies Driver.Excused
      (Balanced options.clientReceiveMaximum) :=
  distinct.run_invariant (fun _ op allowed balanced => balanced_step op allowed balanced)
    (balanced_new options)

end Receiver

/-- What the receive quota guarantees in one state of a run. -/
structure ReceiveQuotaRespected (maximum : UInt16) (r : Receiver) : Prop where
  counted : r.driver.state.incomingPublishQuota.inflight = r.inbound.identifiers.card
  bounded : r.driver.state.incomingPublishQuota.inflight ≤ maximum.toNat
  /-- One publish more is answered with DISCONNECT, opens no flow and is not shown. -/
  refused : ∀ publish : Publish, publish.qos ≠ .atMostOnce → publish.pkid ∉ r.inbound.identifiers →
    r.inbound.identifiers.card = maximum.toNat →
    ∃ disconnect t added, (handleIncomingPacketWithEffects (.publish publish)).run r.driver.state =
        .ok (.ok { outgoing := some (.disconnect disconnect) }, t) ∧
      t.incomingPublishQuota = r.driver.state.incomingPublishQuota ∧
      t.events = r.driver.state.events ++ added ∧ ∀ packet, .incoming packet ∉ added

/-- **The receive quota is respected in every run** against a broker that uses no identifier for a
QoS 1 and a QoS 2 publish at the same time, in both acknowledgement modes: the counter counts the
identifiers whose flow is open on the connection and stays within the Receive Maximum, and a publish
beyond it is answered with DISCONNECT and delivered to nobody. -/
theorem receive_quota_respected (options : StateOptions) (ops : List Op)
    (distinct : Admissible Receiver.step Receiver.Distinct (Receiver.new options) ops) :
    (runSteps Receiver.step (Receiver.new options) ops).Satisfies Driver.Excused
      (ReceiveQuotaRespected options.clientReceiveMaximum) := by
  refine (Receiver.balanced_run distinct).mono ?_
  rintro r ⟨⟨live, -, -, sound, -⟩, counted⟩
  have open_iff : ∀ pkid : PacketId, pkid.toNat ∈ r.driver.state.incomingPublishQuota.bits ↔
      pkid ∈ r.inbound.identifiers := by
    intro pkid
    rw [counted.quota, Inbound.identifiers, Finset.mem_union]
  have count := sound.receiveQuota.inflight_eq_card open_iff
  refine ⟨count, counted.bounded, fun publish acked fresh full => ?_⟩
  have exceeds : Exceeds r.driver.state publish := by
    refine ⟨acked, fun held => fresh ((open_iff _).mp held), ?_⟩
    rw [counted.limit, count, full]
  obtain ⟨disconnect, incoming, ran⟩ := exceeds.handleIncoming_run
  obtain ⟨added, events, hidden⟩ :=
    disconnecting_added (r.driver.state.withIncomingAliases incoming)
  exact ⟨disconnect, _, added, ran, rfl, events, hidden⟩

/-- A QoS 2 and a QoS 1 publish of the broker under their own identifiers, answered by hand. -/
def receiveScenario : List Op :=
  let publish (qos : QoS) (pkid : PacketId) : Packet :=
    .publish ⟨false, qos, false, [116], pkid, [], none⟩
  [.incoming (publish .exactlyOnce 5), .incoming (publish .atLeastOnce 6),
    .request (.pubAck { pkid := 6 }) none, .incoming (publish .atLeastOnce 7)]

theorem receive_quota_respected_scenario : Admissible Receiver.step Receiver.Distinct
        (Receiver.new { maxInflight := 10, clientReceiveMaximum := 2, ackMode := .manual })
        receiveScenario ∧
      (runSteps Receiver.step
          (Receiver.new { maxInflight := 10, clientReceiveMaximum := 2, ackMode := .manual })
          receiveScenario).Satisfies Driver.Excused (ReceiveQuotaRespected 2) := by
  have distinct : Admissible Receiver.step Receiver.Distinct
      (Receiver.new { maxInflight := 10, clientReceiveMaximum := 2, ackMode := .manual })
      receiveScenario := by decide
  exact ⟨distinct, receive_quota_respected _ _ distinct⟩

/-- **One identifier, two flows.** In automatic mode, with a Receive Maximum of one, the PUBACK of a
QoS 1 publish gives back the place of the QoS 2 publish under the same identifier; the next publish is
accepted although a flow is open, so two are. -/
theorem shared_identifier_uncounted :
    let publish (qos : QoS) (pkid : PacketId) : Packet :=
      .publish ⟨false, qos, false, [116], pkid, [], none⟩
    (runSteps Receiver.step (Receiver.new { maxInflight := 10, clientReceiveMaximum := 1 })
        [.incoming (publish .exactlyOnce 5), .incoming (publish .atLeastOnce 5),
          .incoming (publish .exactlyOnce 6)]).map
      (fun r => (r.driver.state.incomingPublishQuota.inflight, r.inbound.identifiers.card)) =
        .ok (1, 2) := by
  decide

end Rumqtt.V5
