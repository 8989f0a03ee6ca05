/-
**Custody of publishes in the MQTT 3.1.1 state machine.**

A `Custodian` is the state machine as a caller of its public interface sees it, with the books of
`Custody` beside it. The single slot for a parked publish is the only place where a publish can get
lost: `Fitting` asks that a publish under an identifier that an unacknowledged publish has comes only
while nothing is parked. `balances_run` says that the books balance in every run of such calls.

The content of a publish is everything but its identifier and the duplicate flag.
-/

import Rumqtt.Flows.Custody
import Rumqtt.V4.Acknowledging

namespace Rumqtt.V4

open MqttState

/-! ### Content -/

/-- **What a publish says**, up to its duplicate flag. -/
structure Content where
  qos : QoS
  retain : Bool
  topic : Bytes
  payload : Bytes
  deriving DecidableEq, Repr

def content (publish : Publish) : Content where
  qos := publish.qos
  retain := publish.retain
  topic := publish.topic
  payload := publish.payload

theorem content_markDup (publish : Publish) : content (Flows.markDup publish) = content publish := by
  unfold Flows.markDup
  split <;> rfl

/-! ### Cargo -/

namespace MqttState

variable {s t : MqttState} {pool : List Request} {pkid : PacketId}

/-- What the state machine holds. -/
def cargo (s : MqttState) : Cargo Content := s.toFlows.cargo content

theorem cargo_maybeShrink (s : MqttState) :
    s.maybeShrinkOutgoingTrackingCapacity.cargo = s.cargo := by
  unfold maybeShrinkOutgoingTrackingCapacity
  dsimp only
  split
  · rfl
  · next drained =>
    rw [not_or, Bool.not_eq_false, outboundRequestsDrained, Bool.and_eq_true] at drained
    exact Flows.cargo_shrinkTo drained.2.2 _

theorem cargo_withRoom (s : MqttState) (pkid : PacketId) : (s.withRoom pkid).cargo = s.cargo :=
  Flows.cargo_ensureCapacity s.toFlows _

theorem Settled.cargo {outgoing : Option Packet} (fresh : pkid ∉ s.outgoingPubOrder)
    (settled : Settled s pkid outgoing t) : s.cargo.Settle pkid t.cargo := by
  cases settled with
  | quiet =>
    rw [cargo_maybeShrink]
    exact .quiet
  | unparked publish waiting same =>
    subst same
    have stored : (s.unparked publish).cargo = s.cargo.unpark (publish.pkid, content publish) :=
      Flows.cargo_unparked rfl rfl fresh s.collisionNotice
    rw [stored]
    exact .unparked _ (congrArg (Option.map _) waiting)

theorem cargo_acked (sound : s.Sound pool) (pkid : PacketId) :
    (s.acked pkid).cargo = s.cargo.ack pkid :=
  Flows.cargo_withoutPublish sound.tracked.pubOrder_nodup pkid

/-- **An accepted packet completes, moves or leaves alone the publishes it names.** -/
theorem Dispatched.cargo {packet : Packet} {result : PacketResult} (sound : s.Sound pool)
    (dispatched : Dispatched s packet result t) (accepted : result.isOk = true) :
    s.cargo.Acknowledges packet.flowPacket t.cargo := by
  cases dispatched with
  | rejected => cases accepted
  | puback puback member outgoing notices t settled =>
    have ended := settled.cargo (sound.tracked.notMem_withoutPublish puback.pkid)
    rw [cargo_acked sound] at ended
    exact .acked _ _ ended
  | pubrec pubrec member =>
    have received : (s.received pubrec.pkid).cargo = s.cargo.receive pubrec.pkid := by
      unfold Cargo.receive
      rw [← cargo_acked sound]
      rfl
    rw [received]
    exact .received _ (sound.tracked.under_publishes member)
  | pubcomp pubcomp member outgoing notices t settled =>
    have fresh := sound.tracked.notMem_pubOrder_of_release member
    exact .completed _ _ (Settled.cargo (s := s.completed pubcomp.pkid) fresh settled)
  | suback => exact .answered _
  | unsuback => exact .answered _
  | publish _ _ _ outcome => cases outcome <;> exact .other
  | _ => exact .other

theorem Handled.cargo {packet : Packet} {result : PacketResult} (sound : s.Sound pool)
    (handled : Handled s packet result t) (accepted : result.isOk = true) :
    s.cargo.Acknowledges packet.flowPacket t.cargo := by
  cases handled with
  | shown _ u dispatched =>
    have acknowledges : s.cargo.Acknowledges packet.flowPacket u.cargo := dispatched.cargo sound rfl
    exact acknowledges
  | hidden _ _ dispatched => exact dispatched.cargo sound rfl
  | failed => cases accepted

end MqttState

/-- A call of the public interface of the state machine. -/
inductive Call where
  | outgoing (request : Request)
  | incoming (packet : Packet)
  | clean

/-- **The state machine and the books about its publishes.** -/
structure Custodian where
  state : MqttState
  custody : Custody Content

namespace Custodian

variable {request : Request} {result : RequestResult}
  {t : MqttState}

def new (maxInflight : UInt16) (ackMode : AckMode) : Custodian := ⟨newInternal maxInflight ackMode, {}⟩

/-- **One call.** -/
def step (c : Custodian) : Call → Checked Custodian
  | .outgoing request => do
    let (result, s) ← (handleOutgoingPacket request).run c.state
    match result with
    | .ok packet => return ⟨s, c.custody.requested content c.state.outgoingRelOrder
        (packet.bind Packet.sentPublish) request⟩
    | .error _ => return { c with state := s }
  | .incoming packet => do
    let (result, s) ← (handleIncomingPacketWithEffects packet).run c.state
    match result with
    | .ok _ => return ⟨s, c.custody.handled c.state.cargo packet.flowPacket⟩
    | .error _ => return { c with state := s }
  | .clean => do
    let (result, s) ← MqttState.clean.run c.state
    match result with
    | .ok requests => return ⟨s, c.custody.cleaned content requests⟩
    | .error _ => return { c with state := s }

/-- A publish under the identifier of an unacknowledged publish comes while nothing is parked. -/
def Fitting (c : Custodian) : Call → Prop
  | .outgoing (.publish publish) =>
    publish.qos ≠ .atMostOnce → publish.pkid ∈ c.state.outgoingPubOrder → c.state.collision = none
  | _ => True

instance (c : Custodian) (call : Call) : Decidable (c.Fitting call) := by
  unfold Fitting
  split <;> infer_instance

/-- The invariant of all runs of fitting calls. -/
structure Kept (c : Custodian) : Prop where
  sound : c.state.Sound []
  keeps : c.custody.Keeps c.state.cargo

variable {c : Custodian}

theorem outgoing_run {s : MqttState}
    (ran : (handleOutgoingPacketWithNoticeInternal request none false).run s = .ok (result, t)) :
    (handleOutgoingPacket request).run s = .ok (result.map Prod.fst, t) := by
  cases result with
  | ok answer => exact Handler.run_bind_ok ran
  | error error => exact Handler.run_bind_error ran

/-- The books after an outgoing request. -/
def booked (c : Custodian) (request : Request)
    (result : RequestResult) : Custody Content :=
  match result with
  | .ok _ => c.custody.requested content c.state.outgoingRelOrder (written result) request
  | .error _ => c.custody

/-- **An outgoing request keeps the balance.** -/
theorem keeps_booked (kept : c.Kept) (fitting : c.Fitting (.outgoing request))
    (requested : Requested c.state none request false result t) :
    (c.booked request result).Keeps t.cargo := by
  have keeps := kept.keeps
  cases requested with
  | rejected => exact keeps
  | refused =>
    rw [cargo_withRoom]
    exact keeps
  | qos0 publish replay unacked =>
    unfold booked
    dsimp only [Custody.requested]
    rw [if_pos unacked]
    exact keeps
  | fresh publish pkid acked room nonzero free =>
    have unheld : pkid ∉ c.state.outgoingPubOrder :=
      kept.sound.tracked.unheld_of_free free .publish
    have stored : ((((c.state.assigned publish pkid).withRoom pkid).reserving pkid).published
        { publish with pkid } none).cargo =
          (((c.state.assigned publish pkid).withRoom pkid).reserving pkid).cargo.send
            (pkid, content publish) :=
      Flows.cargo_withPublish none (Flows.lt_length_ensureCapacity c.state.toFlows pkid) unheld
    have before : (((c.state.assigned publish pkid).withRoom pkid).reserving pkid).cargo =
        c.state.cargo := cargo_withRoom (c.state.assigned publish pkid) pkid
    have wrote : written (.ok (some (.publish { publish with pkid }), none)) = some pkid :=
      if_neg acked
    unfold booked
    dsimp only [Custody.requested]
    rw [if_neg acked, wrote, Option.bind_none, stored, before]
    exact keeps.sent (pkid, content publish)
  | parked publish acked occupied =>
    have idle : c.state.cargo.parked = none :=
      congrArg (Option.map _) (fitting acked occupied)
    have parked := keeps.parkedAt idle (publish.pkid, content publish)
    rw [← cargo_withRoom c.state publish.pkid] at parked
    unfold booked
    dsimp only [Custody.requested]
    rw [if_neg acked]
    exact parked
  | pubrelResumed pubrel replay member =>
    have inactive : pubrel.pkid ∉ c.state.outgoingRelOrder :=
      fun active => kept.sound.tracked.relReplay_fresh pubrel.pkid active member
    unfold booked
    dsimp only [Custody.requested]
    rw [if_neg inactive]
    have resumed := keeps.resumed member kept.sound.tracked.relReplayOrder_nodup
    exact (cargo_withRoom (c.state.resuming pubrel.pkid) pubrel.pkid).symm ▸ resumed
  | pubrelAgain pubrel replay member =>
    unfold booked
    dsimp only [Custody.requested]
    rw [if_pos member]
    rwa [← cargo_withRoom c.state pubrel.pkid] at keeps
  | subscribe => exact keeps
  | unsubscribe => exact keeps
  | pingFailed => exact keeps
  | ping => exact keeps
  | disconnect => exact keeps
  | puback => exact keeps
  | pubrec => exact keeps

theorem sound_requested {s : MqttState} (sound : s.Sound [])
    (requested : Requested s none request false result t) : t.Sound [] := by
  cases kind : request.pubRelPkid? with
  | none => exact sound.requested kind requested
  | some pkid =>
    cases request with
    | pubRel pubrel =>
      rcases sound.pubrelRequested requested with same | ⟨-, fewer⟩
      · exact same
      · exact fewer
    | _ => cases kind

theorem cargo_afterReturn (s : MqttState) : s.afterReturn.cargo = s.cargo.clean := by
  unfold afterReturn
  split
  · exact cargo_maybeShrink s.returnedUp
  · rfl

/-- **One more fitting call keeps the balance.** -/
theorem kept_step (call : Call) (kept : c.Kept) (fitting : c.Fitting call) :
    (c.step call).Satisfies Driver.Excused Kept := by
  cases call with
  | outgoing request =>
    cases graceful : request.isLeftToEventLoop with
    | true =>
      have stopped := Driver.handleOutgoing_graceful graceful none false c.state
      unfold step
      dsimp only
      rw [show (handleOutgoingPacket request).run c.state = _ from Handler.run_bind_panic stopped]
      exact Eq.refl (Panic.unreachableCode _)
    | false =>
      obtain ⟨result, t, ran, requested⟩ :=
        kept.sound.handleOutgoing_run request none false graceful (by simp)
      have after := keeps_booked kept fitting requested
      have sound := sound_requested kept.sound requested
      unfold step
      dsimp only
      rw [outgoing_run ran]
      cases result with
      | ok answer =>
        obtain ⟨packet, notice⟩ := answer
        refine ⟨sound, ?_⟩
        cases packet <;> exact after
      | error error => exact ⟨sound, after⟩
  | incoming packet =>
    obtain ⟨result, t, ran, handled⟩ := kept.sound.handleIncoming_run packet
    have sound := kept.sound.handled handled
    unfold step
    dsimp only
    rw [ran]
    cases result with
    | ok effects =>
      refine ⟨sound, ?_⟩
      exact kept.keeps.packet kept.sound.tracked.relOrder_nodup (handled.cargo kept.sound rfl)
    | error error =>
      obtain ⟨rfl, -⟩ := handled.rejected_same
      exact ⟨sound, kept.keeps⟩
  | clean =>
    unfold step
    dsimp only
    rw [kept.sound.publicClean_run]
    refine ⟨kept.sound.afterReturn, ?_⟩
    rw [cargo_afterReturn, Custody.cleaned, kept.sound.tracked.publishOf_cleanRequests content_markDup,
      Flows.Tracked.releaseOf_cleanRequests]
    exact kept.keeps.cleaned kept.sound.tracked.relOrder_nodup (.refl _)

/-- **No accepted publish is lost in a run of fitting calls.** -/
theorem balances_run (maxInflight : UInt16) (ackMode : AckMode) (calls : List Call)
    (fitting : Admissible step Fitting (new maxInflight ackMode) calls) :
    (runSteps step (new maxInflight ackMode) calls).Satisfies Driver.Excused
      fun c => c.custody.Balances c.state.cargo := by
  have start : (new maxInflight ackMode).Kept := by
    exact ⟨sound_new maxInflight ackMode, ⟨⟨.refl [], rfl⟩, rfl⟩⟩
  refine (fitting.run_invariant (fun _ call fits kept => kept_step call kept fits) start).mono ?_
  exact fun c kept => kept.keeps.toBalances

end Custodian

end Rumqtt.V4
