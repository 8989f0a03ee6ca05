/-
**The send quota of an MQTT 5 connection.**

`Metered s unfinished` ties the send quota of the state machine to the publishes the broker has seen:
the unfinished flows of the connection are exactly the quota bits, every stored or parked publish has
one, and their number stays within the negotiated limit. Requests need a processed CONNACK, and the
session must not be reset while the connection lives: `reset_session_state` keeps the network and
forgets what has been sent on it (`receive_maximum_exceeded`). Under these conditions every operation
keeps the invariant (`metered_step`), so every run does (`send_quota_respected`).
-/

import Rumqtt.V5.Driver

namespace Rumqtt.V5

open MqttState FixedBitSet List

variable {publish : Publish} {d : Driver} {outgoing : Option Packet}

/-- **The send quota counts the unfinished publishes of the connection.** -/
structure Metered (s : MqttState) (unfinished : List PacketId) (maximum : UInt16) : Prop where
  published : ∀ pkid ∈ s.outgoingPubOrder, pkid.toNat ∈ s.outgoingPublishQuota.bits
  parked : ∀ publish, s.collision = some publish → publish.pkid.toNat ∈ s.outgoingPublishQuota.bits
  bounded : s.inflight ≤ s.maxOutgoingInflight.toNat
  announced : s.maxOutgoingInflight ≤ maximum
  early : s.connackReceived = false → ∀ bit, bit ∉ s.outgoingPublishQuota.bits
  unannounced : s.connackReceived = false → maximum = 65535
  seen : ∀ pkid, pkid ∈ unfinished ↔ pkid.toNat ∈ s.outgoingPublishQuota.bits
  nodup : unfinished.Nodup

variable {s t : MqttState} {unfinished : List PacketId} {maximum : UInt16} {pool : List Request}
  {pkid : PacketId}

/-! ### Packets on the wire -/

theorem wrote_other {packet : Option Packet} (other : packet.bind Packet.sentPublish = none) :
    Driver.wrote unfinished packet = unfinished := by
  unfold Driver.wrote
  rw [other]

theorem mem_wrote {packet : Option Packet} (sent : packet.bind Packet.sentPublish = some pkid)
    {other : PacketId} : other ∈ Driver.wrote unfinished packet ↔ other = pkid ∨ other ∈ unfinished := by
  unfold Driver.wrote
  rw [sent]
  dsimp only
  by_cases known : pkid ∈ unfinished
  · rw [if_pos known]
    refine ⟨.inr, ?_⟩
    rintro (rfl | member)
    · exact known
    · exact member
  · rw [if_neg known, mem_append, mem_singleton, or_comm]

theorem nodup_wrote (packet : Option Packet) (nodup : unfinished.Nodup) :
    (Driver.wrote unfinished packet).Nodup := by
  unfold Driver.wrote
  split
  · split
    · exact nodup
    · rename_i absent
      exact Flows.nodup_append_singleton nodup absent
  · exact nodup

theorem sentPublish_acked (acked : publish.qos ≠ .atMostOnce) :
    (some (Packet.publish publish)).bind Packet.sentPublish = some publish.pkid := if_neg acked

/-! ### One more publish -/

theorem Quota.inflight_acquired_le (quota : Quota) (pkid : PacketId) :
    (quota.acquired pkid).inflight ≤ quota.inflight + 1 := by
  unfold Quota.acquired
  split
  · exact Nat.le_succ _
  · exact Nat.le_refl _

/-- **A publish takes quota when there is room for one more flow.** -/
theorem metered_take (acked : publish.qos ≠ .atMostOnce)
    (published : ∀ pkid ∈ s.outgoingPubOrder, pkid.toNat ∈ s.outgoingPublishQuota.bits)
    (room : s.inflight < s.maxOutgoingInflight.toNat)
    (seen : ∀ pkid, pkid ∈ unfinished ↔ pkid.toNat ∈ s.outgoingPublishQuota.bits)
    (nodup : unfinished.Nodup)
    (quota : t.outgoingPublishQuota = s.outgoingPublishQuota.acquired publish.pkid)
    (order : t.outgoingPubOrder = s.outgoingPubOrder ++ [publish.pkid])
    (parked : ∀ other, t.collision = some other → other.pkid.toNat ∈ s.outgoingPublishQuota.bits)
    (limit : t.maxOutgoingInflight = s.maxOutgoingInflight)
    (announced : s.maxOutgoingInflight ≤ maximum) (connected : t.connackReceived = true) :
    Metered t (Driver.wrote unfinished (some (.publish publish))) maximum where
  published := by
    intro other member
    rw [order, mem_append, mem_singleton] at member
    rw [quota, Quota.mem_acquired]
    rcases member with old | rfl
    · exact .inr (published other old)
    · exact .inl rfl
  parked := by
    intro other found
    rw [quota, Quota.mem_acquired]
    exact .inr (parked other found)
  bounded := by
    have grown := s.outgoingPublishQuota.inflight_acquired_le publish.pkid
    unfold inflight at *
    rw [quota, limit]
    omega
  announced := limit ▸ announced
  early := by
    intro unconnected
    rw [connected] at unconnected
    cases unconnected
  unannounced := by
    intro unconnected
    rw [connected] at unconnected
    cases unconnected
  seen := by
    intro other
    rw [mem_wrote (sentPublish_acked acked), quota, Quota.mem_acquired, UInt16.toNat_inj, seen]
  nodup := nodup_wrote _ nodup

theorem Metered.published_publish (metered : Metered s unfinished maximum) {wired : Publish}
    {notice : Option NoticeId} {action : Option AutoTopicAliasAction}
    (acked : wired.qos ≠ .atMostOnce) (room : s.inflight < s.maxOutgoingInflight.toNat)
    (connected : s.connackReceived = true) :
    Metered (s.published wired notice action)
      (Driver.wrote unfinished (some (.publish wired))) maximum := by
  refine metered_take acked metered.published room metered.seen metered.nodup rfl ?_
    metered.parked rfl metered.announced connected
  show s.outgoingPubOrder ++ [(s.topicAliases.publishForReplayTracking wired).pkid] = _
  rw [pkid_publishForReplayTracking]

/-! ### Requests -/

/-- **A request after the CONNACK keeps the quota.** -/
theorem Metered.requested (metered : Metered d.state d.unfinished d.receiveMaximum)
    (connected : d.state.connackReceived = true) {request : Request} {notice : Option TrackedNotice}
    {replay : Bool} {result : RequestResult}
    (requested : Requested d.state notice request replay result t) :
    Metered t (d.afterRequest result t).unfinished (d.afterRequest result t).receiveMaximum := by
  cases requested with
  | rejected => exact metered
  | refused => exact { metered with }
  | qos0 publish _ unacked =>
    have other : (some (Packet.publish (d.state.wire publish publish.pkid))).bind
        Packet.sentPublish = none := if_pos ((qos_wire ..).trans unacked)
    show Metered _ (Driver.wrote d.unfinished _) d.receiveMaximum
    rw [wrote_other other]
    exact { metered with }
  | fresh publish pkid acked admitted =>
    have kept : Metered (((d.state.assigned publish pkid).withRoom pkid).reserving pkid) d.unfinished
        d.receiveMaximum :=
      { metered with }
    exact kept.published_publish (by rwa [qos_wire]) (admitted.quota acked) connected
  | replayed publish acked admitted =>
    have kept : Metered (d.state.withRoom publish.pkid) d.unfinished d.receiveMaximum :=
      { metered with }
    exact kept.published_publish (by rwa [qos_wire]) (admitted.quota acked) connected
  | parked publish acked _ occupied =>
    refine { metered with parked := ?_ }
    rintro parked ⟨⟩
    rw [pkid_restoreParked]
    exact metered.published publish.pkid occupied
  | pubrelResumed => exact { metered with }
  | pubrelAgain => exact { metered with }
  | subscribe => exact { metered with }
  | subscribeAgain => exact { metered with }
  | unsubscribe => exact { metered with }
  | unsubscribeAgain => exact { metered with }
  | pingFailed => exact { metered with }
  | ping => exact { metered with }
  | disconnect => exact { metered with }
  | puback => exact { metered with }
  | pubrec => exact { metered with }
  | pubrecFailure => exact { metered with }
  | auth _ _ result =>
    cases result with
    | ok => exact { metered with }
    | error => exact { metered with }

/-! ### The end of a flow -/

theorem Quota.inflight_released_le (quota : Quota) (pkid : PacketId) :
    (quota.released pkid).inflight ≤ quota.inflight := by
  unfold Quota.released
  split
  · exact Nat.sub_le ..
  · exact Nat.le_refl _

theorem Quota.Valid.inflight_released_lt {quota : Quota} (valid : quota.Valid)
    (held : pkid.toNat ∈ quota.bits) : (quota.released pkid).inflight < quota.inflight := by
  have counted : 1 ≤ quota.inflight := valid.count ▸ card_pos held
  rw [Quota.released, if_pos held]
  exact Nat.sub_lt counted Nat.one_pos

section

variable (metered : Metered s unfinished maximum)
include metered

theorem Metered.maybeShrink :
    Metered s.maybeShrinkOutgoingTrackingCapacity unfinished maximum := by
  unfold maybeShrinkOutgoingTrackingCapacity
  dsimp only
  split
  · exact metered
  · exact { metered with }

/-- **A finished flow gives its quota back**, and the publish parked behind it takes it over. -/
theorem Metered.settled (valid : s.outgoingPublishQuota.Valid)
    {u : MqttState} (quota : u.outgoingPublishQuota = s.outgoingPublishQuota.released pkid)
    (order : ∀ other ∈ u.outgoingPubOrder, other ∈ s.outgoingPubOrder ∧ other ≠ pkid)
    (parkedAcked : ∀ publish, u.collision = some publish → publish.qos ≠ .atMostOnce)
    (collision : u.collision = s.collision) (limit : u.maxOutgoingInflight = s.maxOutgoingInflight)
    (connected : u.connackReceived = s.connackReceived) (settled : Settled u pkid outgoing t) :
    Metered t (Driver.wrote (unfinished.erase pkid) outgoing) maximum := by
  have published : ∀ other ∈ u.outgoingPubOrder, other.toNat ∈ u.outgoingPublishQuota.bits := by
    intro other member
    obtain ⟨old, different⟩ := order other member
    rw [quota, Quota.mem_released]
    exact ⟨fun same => different (UInt16.toNat_inj.mp same), metered.published other old⟩
  have seen : ∀ other, other ∈ unfinished.erase pkid ↔ other.toNat ∈ u.outgoingPublishQuota.bits := by
    intro other
    rw [quota, Quota.mem_released, metered.nodup.mem_erase_iff, metered.seen, ne_eq, ne_eq,
      UInt16.toNat_inj]
  have nodup := metered.nodup.erase pkid
  have fewer := s.outgoingPublishQuota.inflight_released_le pkid
  have bounded := metered.bounded
  unfold inflight at bounded
  cases settled with
  | unparked publish parked same =>
    subst same
    have held := metered.parked publish (collision ▸ parked)
    have less := valid.inflight_released_lt held
    refine metered_take (parkedAcked publish parked) published ?_ seen nodup rfl ?_ ?_ rfl ?_ ?_
    · unfold inflight
      rw [quota, limit]
      omega
    · show u.outgoingPubOrder ++ [(u.topicAliases.publishForReplayTracking publish).pkid] = _
      rw [pkid_publishForReplayTracking]
    · rintro other ⟨⟩
    · exact limit ▸ metered.announced
    · show u.connackReceived = true
      rw [connected]
      by_contra unconnected
      rw [Bool.not_eq_true] at unconnected
      exact metered.early unconnected _ held
  | quiet other =>
    refine Metered.maybeShrink ⟨published, ?_, ?_, limit ▸ metered.announced, ?_,
      fun unconnected => metered.unannounced (connected ▸ unconnected), seen, nodup⟩
    · intro publish parked
      rw [quota, Quota.mem_released]
      refine ⟨fun same => other publish parked (UInt16.toNat_inj.mp same), ?_⟩
      exact metered.parked publish (collision ▸ parked)
    · unfold inflight
      rw [quota, limit]
      omega
    · intro unconnected bit member
      rw [quota, Quota.mem_released] at member
      exact metered.early (connected ▸ unconnected) bit member.2

theorem Metered.acked (sound : s.Sound pool) (settled : Settled (s.acked pkid) pkid outgoing t) :
    Metered t (Driver.wrote (unfinished.erase pkid) outgoing) maximum := by
  refine metered.settled (u := s.acked pkid) sound.sendQuota rfl ?_ sound.tracked.parked rfl rfl rfl
    settled
  intro other member
  exact ((sound.tracked.pubOrder_nodup.mem_erase_iff).mp member).symm

theorem Metered.completed (sound : s.Sound pool)
    (member : pkid ∈ s.outgoingRelOrder) (settled : Settled (s.completed pkid) pkid outgoing t) :
    Metered t (Driver.wrote (unfinished.erase pkid) outgoing) maximum := by
  refine metered.settled (u := s.completed pkid) sound.sendQuota rfl ?_ sound.tracked.parked rfl rfl
    rfl settled
  intro other stored
  refine ⟨stored, ?_⟩
  rintro rfl
  have held : s.toFlows.Holds pool .publish other := stored
  have held' : s.toFlows.Holds pool .release other := member
  cases sound.tracked.ledger.exclusive held held'

end

/-! ### Incoming packets -/

theorem publishOutcome_sentPublish
    (outcome : PublishOutcome s publish outgoing t) : outgoing.bind Packet.sentPublish = none := by
  cases outcome <;> rfl

theorem Metered.publishOutcome (metered : Metered s unfinished maximum)
    (outcome : PublishOutcome s publish outgoing t) :
    Metered t unfinished maximum := by
  cases outcome with
  | exceeded => exact { metered with }
  | qos0 => exact metered
  | qos1 => exact { metered with }
  | qos1Answered => exact { metered with }
  | qos2 => exact { metered with }
  | qos2Answered => exact { metered with }
  | qos2Again => exact { metered with }

theorem Quota.Valid.inflight_eq_zero {quota : Quota} (valid : quota.Valid)
    (empty : ∀ bit, bit ∉ quota.bits) : quota.inflight = 0 := by
  rw [valid.count, FixedBitSet.card, length_eq_zero_iff]
  exact eq_nil_iff_forall_not_mem.mpr empty

/-- The first CONNACK of a connection finds the quota unused. -/
theorem Metered.connected (metered : Metered s unfinished maximum) (valid : s.outgoingPublishQuota.Valid)
    (first : s.connackReceived = false) (connack : ConnAck) (a : Authentication) :
    Metered (s.connected connack a) unfinished (Driver.announced maximum (.connAck connack)) where
  published := metered.published
  parked := metered.parked
  bounded := by
    show s.outgoingPublishQuota.inflight ≤ _
    rw [valid.inflight_eq_zero (metered.early first)]
    exact Nat.zero_le _
  announced := by
    unfold Driver.announced MqttState.connected MqttState.negotiate
    dsimp only
    cases (connack.properties.getD {}).receiveMax with
    | some limit =>
      show (if limit ≤ s.maxOutgoingInflightUpperLimit then limit
        else s.maxOutgoingInflightUpperLimit) ≤ limit
      split
      · exact UInt16.le_refl limit
      · rename_i larger
        exact UInt16.le_of_lt (UInt16.not_le.mp larger)
    | none => exact UInt16.le_iff_toNat_le.mpr (Nat.le_of_lt_succ (UInt16.toNat_lt _))
  early := by
    rintro ⟨⟩
  unannounced := by
    rintro ⟨⟩
  seen := metered.seen
  nodup := metered.nodup

/-- The Receive Maximum after a packet has been dispatched. -/
def maximumAfter (maximum : UInt16) (packet : Packet) : DispatchResult → UInt16
  | .ok _ => Driver.announced maximum packet
  | .error _ => maximum

/-- The unfinished publishes after a packet has been dispatched. -/
def unfinishedAfter (unfinished : List PacketId) (packet : Packet) : DispatchResult → List PacketId
  | .ok (_, effects) => Driver.wrote (Driver.acknowledged unfinished packet) effects.outgoing
  | .error _ => unfinished

theorem Metered.dispatched (metered : Metered s unfinished maximum) (sound : s.Sound pool) {packet : Packet}
    {result : DispatchResult} (dispatched : Dispatched s packet result t) :
    Metered t (unfinishedAfter unfinished packet result) (maximumAfter maximum packet result) := by
  cases dispatched with
  | rejected => exact metered
  | failed => exact { metered with }
  | auth _ answer =>
    cases answer with
    | error => exact { metered with }
    | ok answer => cases answer <;> exact { metered with }
  | connected connack a first => exact metered.connected sound.sendQuota first connack a
  | pingResp => exact { metered with }
  | refused => exact { metered with }
  | publish publish topic incoming outgoing _ _ outcome =>
    have kept : Metered (s.withIncomingAliases incoming) unfinished maximum := { metered with }
    have same : unfinishedAfter unfinished (.publish publish)
        (.ok (.publish { publish with topic }, { outgoing })) = unfinished :=
      wrote_other (publishOutcome_sentPublish outcome)
    rw [same]
    exact kept.publishOutcome outcome
  | pubrelUnknown => exact { metered with }
  | pubrel => exact { metered with }
  | puback puback member outgoing _ _ settled => exact metered.acked sound settled
  | pubrecFailed pubrec member failure outgoing notices _ settled =>
    have ends : unfinishedAfter unfinished (.pubRec pubrec)
        (.ok (.pubRec pubrec, { outgoing, notices })) =
          Driver.wrote (unfinished.erase pubrec.pkid) outgoing := by
      simp [unfinishedAfter, Driver.acknowledged, Packet.endsFlow, failure]
    rw [ends]
    exact metered.acked sound settled
  | pubrec pubrec member success =>
    have goesOn : unfinishedAfter unfinished (.pubRec pubrec)
        (.ok (.pubRec pubrec, { outgoing := some (.pubRel { pkid := pubrec.pkid }) })) =
          unfinished := by
      have notFailure := Nat.not_le.mpr success
      simp [unfinishedAfter, Driver.acknowledged, Packet.endsFlow, notFailure, Driver.wrote,
        Packet.sentPublish]
    rw [goesOn]
    exact { metered with
      published := fun other stored => metered.published other (mem_of_mem_erase stored) }
  | pubcomp pubcomp member outgoing _ _ settled => exact metered.completed sound member settled
  | suback => exact { metered with }
  | unsuback => exact { metered with }

theorem Metered.handled (metered : Metered d.state d.unfinished d.receiveMaximum)
    (sound : d.state.Sound pool) {packet : Packet} {result : PacketResult}
    (handled : Handled d.state packet result t) :
    Metered t (d.afterPacket packet result t).unfinished
      (d.afterPacket packet result t).receiveMaximum := by
  obtain ⟨retained, found, u, _, dispatched, rfl, rfl⟩ := handled.dispatched
  have kept : Metered { d.state with connectionFailurePacket := retained } d.unfinished
      d.receiveMaximum := { metered with }
  have after := kept.dispatched { sound with } dispatched
  cases found <;> exact { after with }

/-! ### Runs -/

namespace Driver

variable {d : Driver}

/-- Requests are made after the CONNACK of their connection has been processed, and the session is not
reset between that CONNACK and the loss of the connection. -/
def AfterConnack (d : Driver) : Op → Prop
  | .request .. | .replay .. => d.state.connackReceived = true
  | .resetSession => d.state.connackReceived = false
  | _ => True

instance (d : Driver) : (op : Op) → Decidable (d.AfterConnack op)
  | .request .. | .replay .. => inferInstanceAs (Decidable (d.state.connackReceived = true))
  | .resetSession => inferInstanceAs (Decidable (d.state.connackReceived = false))
  | .forget _ | .incoming _ | .clean | .restore .. | .reconcileCapacity _ => isTrue trivial

/-- A healthy driver whose connection is metered. -/
def WithinQuota (d : Driver) : Prop := d.Healthy ∧ Metered d.state d.unfinished d.receiveMaximum

theorem metered_disconnected {s : MqttState} (order : s.outgoingPubOrder = [])
    (collision : s.collision = none) (valid : s.outgoingPublishQuota.Valid)
    (empty : ∀ bit, bit ∉ s.outgoingPublishQuota.bits) : Metered s [] 65535 where
  published := by simp [order]
  parked := by simp [collision]
  bounded := by
    rw [inflight, valid.inflight_eq_zero empty]
    exact Nat.zero_le _
  announced := UInt16.le_iff_toNat_le.mpr (Nat.le_of_lt_succ s.maxOutgoingInflight.toNat_lt)
  early := fun _ => empty
  unannounced := fun _ => rfl
  seen := fun pkid => iff_of_false not_mem_nil (empty _)
  nodup := nodup_nil

/-- **An operation on a metered connection leaves it metered.** -/
theorem metered_step (op : Op) (allowed : d.AfterConnack op) (within : d.WithinQuota) :
    (d.step op).Satisfies Excused fun e => Metered e.state e.unfinished e.receiveMaximum := by
  obtain ⟨healthy, metered⟩ := within
  obtain ⟨live, stale, -, sound, -⟩ := id healthy
  refine (healthy.step_cases op).mono fun after ⟨stepped, _⟩ => ?_
  cases stepped with
  | requested _ requested =>
    rw [state_afterRequest]
    exact metered.requested allowed requested
  | @replayed position _ _ _ _ _ _ requested =>
    rw [state_afterRequest]
    exact Metered.requested (d := d.without position) metered allowed requested
  | received _ handled =>
    rw [state_afterPacket]
    exact metered.handled sound handled
  | lost =>
    obtain ⟨order, collision⟩ := d.state.afterClean_unsent
    exact metered_disconnected order collision sound.afterClean.resetConnectionScopedState.sendQuota
      (notMem_clear _)
  | reset =>
    -- before the CONNACK nothing has been sent on the connection
    have unsent : d.unfinished = [] := eq_nil_iff_forall_not_mem.mpr fun pkid member =>
      metered.early allowed _ ((metered.seen pkid).mp member)
    show Metered d.state.sessionReset d.unfinished d.receiveMaximum
    rw [unsent, metered.unannounced allowed]
    exact metered_disconnected rfl rfl Quota.valid_new (notMem_withCapacity _)
  | @restored _ session =>
    obtain ⟨order, -, collision⟩ := (Flows.new d.state.maxOutgoingInflightUpperLimit.toNat).restored_unsent
      session.replay
    exact metered_disconnected order collision Quota.valid_new (notMem_withCapacity _)
  | shrunk => exact metered.maybeShrink
  | absent | forgotten | unrestored | kept => exact metered

theorem withinQuota_new (options : StateOptions) : (new options).WithinQuota :=
  ⟨healthy_new options, metered_disconnected rfl rfl Quota.valid_new (notMem_withCapacity _)⟩

theorem withinQuota_run {options : StateOptions} {ops : List Op}
    (admissible : Admissible step AfterConnack (new options) ops) :
    (runSteps step (new options) ops).Satisfies Excused WithinQuota :=
  admissible.run_invariant
    (fun _ op allowed within => (healthy_step op within.1).and (metered_step op allowed within))
    (withinQuota_new options)

end Driver

/-- What the send quota guarantees in one state of a run. -/
structure QuotaRespected (d : Driver) : Prop where
  counted : d.state.inflight = d.state.outgoingPublishQuota.bits.card
  bounded : d.state.inflight ≤ d.state.maxOutgoingInflight.toNat
  published : ∀ pkid ∈ d.state.outgoingPubOrder, pkid.toNat ∈ d.state.outgoingPublishQuota.bits
  owned : ∀ pkid : PacketId, pkid.toNat ∈ d.state.outgoingPublishQuota.bits →
    pkid ∈ d.state.outgoingPubOrder ∨ pkid ∈ d.state.outgoingRelOrder
  receiveMaximum : d.unfinished.length ≤ d.receiveMaximum.toNat

theorem Metered.length_le (metered : Metered d.state d.unfinished d.receiveMaximum)
    (valid : d.state.outgoingPublishQuota.Valid) : d.unfinished.length ≤ d.state.inflight := by
  have within : d.unfinished.map UInt16.toNat ⊆ d.state.outgoingPublishQuota.bits.ones := by
    intro bit member
    obtain ⟨pkid, inside, rfl⟩ := mem_map.mp member
    exact (metered.seen pkid).mp inside
  have nodup : (d.unfinished.map UInt16.toNat).Nodup :=
    metered.nodup.map fun _ _ same => UInt16.toNat_inj.mp same
  have shorter := (subperm_of_subset nodup within).length_le
  rw [length_map] at shorter
  exact (valid.count ▸ shorter : d.unfinished.length ≤ d.state.outgoingPublishQuota.inflight)

/-- **The send quota is respected in every run** that processes the CONNACK of a connection before any
request on it and resets the session only between connections: the counter counts the quota bits and stays within the limit, the bits cover exactly
stored publishes and releases, and the broker never sees more unfinished publishes of the connection
than its Receive Maximum. -/
theorem send_quota_respected (options : StateOptions) (ops : List Op)
    (afterConnack : Admissible Driver.step Driver.AfterConnack (Driver.new options) ops) :
    (runSteps Driver.step (Driver.new options) ops).Satisfies Driver.Excused QuotaRespected := by
  refine (Driver.withinQuota_run afterConnack).mono ?_
  rintro d ⟨⟨live, -, -, sound, -⟩, metered⟩
  have few := metered.length_le sound.sendQuota
  have announced := UInt16.le_iff_toNat_le.mp metered.announced
  exact ⟨sound.sendQuota.count, metered.bounded, metered.published, sound.sendQuota_owned,
    few.trans (metered.bounded.trans announced)⟩

/-- A broker that takes one publish at a time, and a client with two. -/
def quotaScenario : List Op :=
  let publish : Publish := ⟨false, .atLeastOnce, false, [116], 0, [], none⟩
  [.incoming (.connAck ⟨false, .success, some { receiveMax := some 1 }⟩),
    .request (.publish publish) none, .incoming (.pubAck { pkid := 1 }),
    .request (.publish publish) none]

theorem send_quota_respected_scenario :
    Admissible Driver.step Driver.AfterConnack (Driver.new { maxInflight := 10 }) quotaScenario ∧
      (runSteps Driver.step (Driver.new { maxInflight := 10 }) quotaScenario).Satisfies
        Driver.Excused QuotaRespected := by
  have afterConnack : Admissible Driver.step Driver.AfterConnack
      (Driver.new { maxInflight := 10 }) quotaScenario := by decide
  exact ⟨afterConnack, send_quota_respected _ _ afterConnack⟩

/-- The session is reset while the connection lives on, and two more publishes follow. -/
def liveResetScenario : List Op :=
  let publish : Publish := ⟨false, .atLeastOnce, false, [116], 0, [], none⟩
  [.incoming (.connAck ⟨false, .success, some { receiveMax := some 1 }⟩),
    .request (.publish publish) none, .resetSession, .request (.publish publish) none,
    .request (.publish publish) none]

/-- **A session reset on a live connection forgets the broker's Receive Maximum**: the CONNACK is
processed before every request, and two publishes are unfinished where the broker takes one. -/
theorem receive_maximum_exceeded :
    (runSteps Driver.step (Driver.new { maxInflight := 10 }) liveResetScenario).map
      (fun d => (d.receiveMaximum, d.unfinished)) = .ok (1, [1, 2]) := by decide

end Rumqtt.V5
