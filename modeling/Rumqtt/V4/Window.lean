/-
**The window and the identifiers of the MQTT 3.1.1 state machine.**

`inflight` is a bare counter: two handlers decrement it without a check, and a clean-up resets it while
identifiers stay reserved. `WindowKept` is what relates it to the tables, and
`window_and_identifiers_kept` says that it holds in every state of every run. The same invariant keeps
every run free of panics. Runs are made of the operations of `Driver` and of the public clean-up.
-/

import Rumqtt.Flows.Custody
import Rumqtt.Flows.Tables
import Rumqtt.V4.Driver

namespace Rumqtt.V4

open MqttState

namespace MqttState

/-- **The window counts the flows that fill it, and every identifier has one owner.** -/
structure WindowKept (s : MqttState) : Prop where
  inflight_eq : s.inflight = s.outgoingPub.occupied + s.outgoingRel.card
  inflight_le : s.inflight ≤ s.maxInflight.toNat
  /-- A parked publish has an identifier in `outgoing_pub` or `outgoing_rel`. -/
  parked : ∀ publish, s.collision = some publish →
    s.toFlows.Tracks .publish publish.pkid ∨ s.toFlows.Tracks .release publish.pkid
  count : s.outboundPkidCount = s.outboundPkidInUse.card
  exclusive : Exclusive s.toFlows.Tracks
  inUse : ∀ table pkid, s.toFlows.Tracks table pkid → pkid.toNat ∈ s.outboundPkidInUse

theorem Sound.windowKept {s : MqttState} {pool : List Request} (sound : s.Sound pool)
    (parked : s.toFlows.view.ParkedHeld) : s.WindowKept where
  inflight_eq := by
    rw [sound.window, sound.tracked.length_pubOrder, sound.tracked.length_relOrder]
  inflight_le := sound.bounded
  parked := by
    intro publish found
    rcases parked publish.pkid (congrArg (Option.map _) found) with member | member
    · exact .inl ((sound.tracked.mem_pubOrder _).mp member)
    · exact .inr ((sound.tracked.mem_relOrder _).mp member)
  count := sound.tracked.ids.count
  exclusive := sound.tracked.exclusive_tracks
  inUse := fun _ _ tracks => sound.tracked.inUse_of_tracks tracks

end MqttState

/-- An operation on the state machine, the public clean-up included. -/
inductive StateOp where
  | op (op : Op)
  | publicClean

namespace Driver

variable {d : Driver} {pool : List Request}

/-- The public clean-up; what it returns is not for replay. -/
def returnAll (d : Driver) : Checked Driver := do
  let (_, s) ← MqttState.clean.run d.state
  return { d with state := s }

def stateStep (d : Driver) : StateOp → Checked Driver
  | .op op => d.step op
  | .publicClean => d.returnAll

theorem returnAll_run (sound : d.state.Sound pool) :
    d.returnAll = .ok { d with state := d.state.afterReturn } :=
  Checked.bind_ok.mpr ⟨_, sound.publicClean_run, rfl⟩

/-- The invariant of these runs. -/
structure Windowed (d : Driver) : Prop where
  healthy : d.Healthy
  parked : d.state.toFlows.view.ParkedHeld

theorem Windowed.windowKept (windowed : d.Windowed) : d.state.WindowKept := by
  obtain ⟨live, -, -, sound, -⟩ := windowed.healthy
  exact sound.windowKept windowed.parked

/-! ### Clean-ups park nothing -/

theorem parked_afterClean (s : MqttState) : s.afterClean.toFlows.view.parked = none := by
  unfold MqttState.afterClean
  split
  · rw [view_maybeShrink]
    rfl
  · rfl

theorem parked_afterReturn (s : MqttState) : s.afterReturn.toFlows.view.parked = none := by
  unfold MqttState.afterReturn
  split
  · rw [view_maybeShrink]
    rfl
  · rfl

/-! ### Every operation -/

theorem parkedHeld_step (op : Op) (windowed : d.Windowed) :
    (d.step op).Satisfies Excused fun e => e.state.toFlows.view.ParkedHeld := by
  obtain ⟨healthy, parked⟩ := windowed
  obtain ⟨live, stale, same, sound, releases⟩ := id healthy
  refine (healthy.step_cases op).mono fun after ⟨stepped, _⟩ => ?_
  cases stepped with
  | requested requested => exact parked.request requested.move
  | replayed _ requested => exact parked.request requested.move
  | received _ handled => exact parked.packet (handled.move sound)
  | lost => exact .of_none (parked_afterClean d.state)
  | reset => exact .of_none rfl
  | @restored _ session =>
    obtain ⟨-, -, unparked⟩ :=
      Flows.restored_unsent (Flows.new d.state.maxInflight.toNat) session.replay
    refine .of_none ?_
    show ((Flows.new d.state.maxInflight.toNat).restored session.replay).collision.map _ = none
    rw [unparked]
    rfl
  | absent | forgotten | unrestored => exact parked

theorem windowed_step (op : StateOp) (windowed : d.Windowed) :
    (d.stateStep op).Satisfies Excused Windowed := by
  cases op with
  | op op =>
    refine ((healthy_step op windowed.healthy).and (parkedHeld_step op windowed)).mono ?_
    rintro e ⟨healthy, parked⟩
    exact ⟨healthy, parked⟩
  | publicClean =>
    obtain ⟨live, stale, same, sound, releases⟩ := windowed.healthy
    show d.returnAll.Satisfies Excused Windowed
    rw [returnAll_run sound]
    exact ⟨⟨live, stale, same, sound.afterReturn, releases⟩, .of_none (parked_afterReturn d.state)⟩

end Driver

/-- **The window and the identifiers are kept in every run.** Whatever operations are performed on a
new state, restores of checkpoints included, the counter equals the flows that fill the window and
stays within the limit, a parked publish waits for an active flow, and every identifier has one owner;
no run ends in a panic other than the one reserved for graceful disconnects. -/
theorem window_and_identifiers_kept (maxInflight : UInt16) (ackMode : AckMode)
    (ops : List StateOp) :
    (runSteps Driver.stateStep (Driver.new maxInflight ackMode) ops).Satisfies Driver.Excused
      fun d => d.state.WindowKept := by
  have start : (Driver.new maxInflight ackMode).Windowed :=
    ⟨Driver.healthy_new maxInflight ackMode, .of_none rfl⟩
  refine (runSteps_invariant (fun _ op windowed => Driver.windowed_step op windowed) start ops).mono ?_
  exact fun d windowed => windowed.windowKept

end Rumqtt.V4
