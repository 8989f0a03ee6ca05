/-
**Acknowledgements and the flows they complete, MQTT 3.1.1.**

`Acknowledging` is a run of the state machine with an observer that keeps the QoS 2 publishes whose
PUBREC has been accepted in this session and that are not completed. `Respects` is what an incoming
packet should do: complete the flow it belongs to, or be an error that leaves flows, identifiers,
notices and the window alone. In runs of packets that fit the QoS of the stored publishes, exactly the
fitting packets are respected (`respects_run`).
-/

import Rumqtt.Flows.Acknowledged
import Rumqtt.V4.Driver

namespace Rumqtt.V4

open MqttState

/-- **A run and the publishes received by the broker.** -/
structure Acknowledging where
  driver : Driver
  /-- QoS 2 publishes whose PUBREC has been accepted in this session, not completed yet. -/
  received : List PacketId

namespace Acknowledging

def new (maxInflight : UInt16) (ackMode : AckMode) : Acknowledging := ⟨.new maxInflight ackMode, []⟩

/-- The publishes received after an operation. -/
def observe (a : Acknowledging) : Op → Checked (List PacketId)
  | .incoming packet => do
    let (result, _) ← (handleIncomingPacketWithEffects packet).run a.driver.state
    return a.driver.state.nextReceived a.received packet.flowPacket result.isOk
  | .resetSession => return []
  | .restore options session => do
    let (result, _) ← a.driver.state.restorePersistedSession options session
    match result with
    | .ok _ => return session.replay.filterMap PersistedRequest.release?
    | .error _ => return a.received
  | _ => return a.received

def step (a : Acknowledging) (op : Op) : Checked Acknowledging := do
  let received ← a.observe op
  let driver ← a.driver.step op
  return ⟨driver, received⟩

/-- **An incoming packet completes the flow it belongs to and leaves all other flows alone, or it is an
error that changes nothing outbound.** -/
def Respects (a : Acknowledging) (packet : Packet) : Prop :=
  ∃ result t, (handleIncomingPacketWithEffects packet).run a.driver.state = .ok (result, t) ∧
    (a.driver.state.Belongs a.received packet.flowPacket ∧ result.isOk = true ∧
        a.driver.state.toFlows.Completes packet.flowPacket (answered result) t.toFlows ∨
      result.isOk = false ∧ t.toFlows = a.driver.state.toFlows ∧
        t.inflight = a.driver.state.inflight)

/-- Acknowledgements that are fed to the state machine fit the publish they find. -/
def Fitting (a : Acknowledging) : Op → Prop
  | .incoming packet => a.driver.state.FitsQos packet.flowPacket
  | _ => True

instance (a : Acknowledging) (op : Op) : Decidable (a.Fitting op) := by
  cases op <;> unfold Fitting <;> infer_instance

end Acknowledging

namespace MqttState

variable {s t : MqttState} {pool : List Request} {packet : Packet}

theorem expects_iff (s : MqttState) (packet : Packet) :
    s.toFlows.Expects packet.flowPacket ↔ s.Expects packet := by
  cases packet <;> exact Iff.rfl

/-- **A rejected packet changes nothing**, and an expected one is not rejected. -/
theorem Handled.rejected_same {error : StateError} (handled : Handled s packet (.error error) t) :
    t = s ∧ ¬ s.Expects packet := by
  cases handled with
  | failed _ _ dispatched =>
    generalize outcome : Except.error error = result at dispatched
    cases dispatched with
    | rejected _ _ unexpected => exact ⟨rfl, unexpected⟩
    | _ => cases outcome

theorem sameBut_maybeShrink (s : MqttState) (pkid : PacketId) :
    s.toFlows.SameBut pkid s.maybeShrinkOutgoingTrackingCapacity.toFlows := by
  unfold maybeShrinkOutgoingTrackingCapacity
  dsimp only
  split
  · exact .refl ..
  · next drained =>
    rw [not_or, Bool.not_eq_false, outboundRequestsDrained, Bool.and_eq_true] at drained
    exact .shrinkTo drained.2.2 ..

/-- The publish that was parked for the identifier may take the place of the flow that ended. -/
theorem Settled.sameBut {pkid : PacketId} {outgoing : Option Packet}
    (settled : Settled s pkid outgoing t) : s.toFlows.SameBut pkid t.toFlows := by
  cases settled with
  | quiet => exact sameBut_maybeShrink s pkid
  | unparked publish waiting same =>
    subst same
    exact (Flows.SameBut.unparking waiting).trans (.withPublish ..)

theorem sameBut_acked (s : MqttState) (pkid : PacketId) :
    s.toFlows.SameBut pkid (s.acked pkid).toFlows :=
  (Flows.SameBut.withoutPublish ..).trans (.withReleased ..)

theorem sameBut_received (s : MqttState) (pkid : PacketId) :
    s.toFlows.SameBut pkid (s.received pkid).toFlows :=
  (Flows.SameBut.withoutPublish ..).trans (.withRelease ..)

theorem sameBut_completed (s : MqttState) (pkid : PacketId) :
    s.toFlows.SameBut pkid (s.completed pkid).toFlows :=
  (Flows.SameBut.withoutRelease ..).trans (.withReleased ..)

/-- **An accepted acknowledgement leaves the flows of all other identifiers alone.** -/
theorem Dispatched.sameBut {result : PacketResult} {pkid : PacketId}
    (dispatched : Dispatched s packet result t) (accepted : result.isOk = true)
    (acks : pkid ∈ packet.flowPacket.acks) : s.toFlows.SameBut pkid t.toFlows := by
  cases dispatched with
  | rejected => cases accepted
  | puback puback member outgoing notices t settled =>
    cases acks
    exact (sameBut_acked s _).trans settled.sameBut
  | pubrec pubrec =>
    cases acks
    exact sameBut_received s _
  | pubcomp pubcomp member outgoing notices t settled =>
    cases acks
    exact (sameBut_completed s _).trans settled.sameBut
  | _ => cases acks

theorem Handled.completes {result : PacketResult} (sound : s.Sound pool)
    (handled : Handled s packet result t) (accepted : result.isOk = true) :
    s.toFlows.Completes packet.flowPacket (answered result) t.toFlows := by
  have moved := handled.move sound
  rw [accepted] at moved
  refine ⟨moved, fun pkid acks => ?_⟩
  cases handled with
  | shown _ u dispatched =>
    have same : s.toFlows.SameBut pkid u.toFlows := dispatched.sameBut accepted acks
    exact same
  | hidden _ _ dispatched => exact dispatched.sameBut accepted acks
  | failed => cases accepted

end MqttState

namespace Acknowledging

variable {a : Acknowledging}

/-- The invariant of runs whose packets fit. -/
structure Orderly (a : Acknowledging) : Prop where
  healthy : a.driver.Healthy
  awaits : a.driver.state.toFlows.view.Awaits a.received

/-- **Exactly the fitting packets are respected.** -/
theorem Orderly.respects_iff (orderly : a.Orderly) (packet : Packet) :
    a.driver.state.FitsQos packet.flowPacket ↔ a.Respects packet := by
  obtain ⟨live, stale, -, sound, -⟩ := orderly.healthy
  obtain ⟨result, t, ran, handled⟩ := sound.handleIncoming_run packet
  have rejected : result.isOk = false → (t.toFlows = a.driver.state.toFlows ∧
      t.inflight = a.driver.state.inflight) ∧
        ¬ a.driver.state.toFlows.Expects packet.flowPacket := by
    intro failed
    cases result with
    | ok effects => cases failed
    | error error =>
      obtain ⟨rfl, unexpected⟩ := handled.rejected_same
      exact ⟨⟨rfl, rfl⟩, (expects_iff _ packet).not.mpr unexpected⟩
  rw [(handled.move sound).fits_iff sound.tracked orderly.awaits (handled.completes sound) rejected]
  refine ⟨fun outcome => ⟨result, t, ran, outcome⟩, ?_⟩
  rintro ⟨result', t', ran', outcome⟩
  cases ran.symm.trans ran'
  exact outcome

theorem orderly_new (maxInflight : UInt16) (ackMode : AckMode) :
    (new maxInflight ackMode).Orderly where
  healthy := Driver.healthy_new maxInflight ackMode
  awaits := Flows.awaits_new _

theorem Orderly.step_of {op : Op} {received : List PacketId} (orderly : a.Orderly)
    (observed : a.observe op = .ok received)
    (stepped : (a.driver.step op).Satisfies Driver.Excused fun d =>
      d.state.toFlows.view.Awaits received) :
    (a.step op).Satisfies Driver.Excused Orderly := by
  have both := (Driver.healthy_step op orderly.healthy).and stepped
  unfold step
  rw [observed, Checked.ok_bind]
  cases ran : a.driver.step op with
  | error panic =>
    rw [ran] at both
    exact both
  | ok d =>
    rw [ran] at both
    exact ⟨both.1, both.2⟩

theorem view_afterClean (s : MqttState) :
    s.afterClean.toFlows.view = s.toFlows.view.clean := by
  rw [← Flows.view_cleaned]
  unfold MqttState.afterClean
  split
  · exact view_maybeShrink s.cleanedUp
  · rfl

theorem observed {pool : List Request} (sound : a.driver.state.Sound pool) (op : Op) :
    ∃ received, a.observe op = .ok received := by
  cases op with
  | incoming packet =>
    obtain ⟨result, t, ran, -⟩ := sound.handleIncoming_run packet
    exact ⟨_, Checked.bind_ok.mpr ⟨_, ran, rfl⟩⟩
  | restore options session =>
    rcases sound.restore_cases options session with ⟨error, ran⟩ | ⟨-, ran⟩
    · exact ⟨_, Checked.bind_ok.mpr ⟨_, ran, rfl⟩⟩
    · exact ⟨_, Checked.bind_ok.mpr ⟨_, ran, rfl⟩⟩
  | _ => exact ⟨_, rfl⟩

/-- **A step whose packet fits stays orderly.** -/
theorem orderly_step (a : Acknowledging) (op : Op) (fitting : a.Fitting op) (orderly : a.Orderly) :
    (a.step op).Satisfies Driver.Excused Orderly := by
  obtain ⟨live, stale, same, sound, releases⟩ := orderly.healthy
  obtain ⟨received, observed⟩ := observed sound op
  refine orderly.step_of observed ((orderly.healthy.step_cases op).mono fun after ⟨stepped, _⟩ => ?_)
  cases stepped with
  | requested requested =>
    cases observed
    exact requested.move.awaits orderly.awaits
  | replayed _ requested =>
    cases observed
    exact requested.move.awaits orderly.awaits
  | received ran handled =>
    rw [observe, ran] at observed
    cases observed
    exact (handled.move sound).awaits sound.tracked fitting orderly.awaits
  | lost =>
    cases observed
    show a.driver.state.afterClean.toFlows.view.Awaits a.received
    rw [view_afterClean]
    exact orderly.awaits.clean
  | reset =>
    cases observed
    exact Flows.awaits_new _
  | unrestored ran =>
    rw [observe, ran] at observed
    cases observed
    exact orderly.awaits
  | @restored _ session _ ran =>
    rw [observe, ran] at observed
    cases observed
    exact Flows.awaits_restored _ session.replay
  | absent | forgotten =>
    cases observed
    exact orderly.awaits

/-- **In runs of fitting packets, exactly the fitting packets are respected.** -/
theorem respects_run (maxInflight : UInt16) (ackMode : AckMode) (ops : List Op)
    (fitting : Admissible step Fitting (new maxInflight ackMode) ops) :
    (runSteps step (new maxInflight ackMode) ops).Satisfies Driver.Excused fun a =>
      ∀ packet, a.driver.state.FitsQos packet.flowPacket ↔ a.Respects packet :=
  (fitting.run_invariant orderly_step (orderly_new maxInflight ackMode)).mono fun _ orderly =>
    orderly.respects_iff

end Acknowledging

end Rumqtt.V4
