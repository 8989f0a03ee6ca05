/-
**No accepted publish is lost by the protocol state.**

The slot for a parked publish holds one, and nothing keeps a second one from being parked: it
overwrites the first (`lost_publishes`). The MQTT 5 state machine also accepts an alias that no topic is
bound to, and its public `clean` leaves such a publish out, as documented. Calls that avoid both lose
nothing (`no_accepted_publish_lost`): every accepted publish is, with its content, completed, held, or
returned.
-/

import Rumqtt.V4.Custody
import Rumqtt.V5.Custody

namespace Rumqtt

/-- **The books balance in both versions**, in every run of fitting calls. -/
theorem no_accepted_publish_lost (options : V5.StateOptions) (calls : List V5.Call)
    (maxInflight : UInt16) (ackMode : AckMode) (calls₄ : List V4.Call) :
    (Admissible V5.Custodian.step V5.Custodian.Fitting (.new options) calls →
      (runSteps V5.Custodian.step (.new options) calls).Satisfies V5.Driver.Excused
        fun c => c.custody.Balances c.state.cargo) ∧
    (Admissible V4.Custodian.step V4.Custodian.Fitting (.new maxInflight ackMode) calls₄ →
      (runSteps V4.Custodian.step (.new maxInflight ackMode) calls₄).Satisfies V4.Driver.Excused
        fun c => c.custody.Balances c.state.cargo) :=
  ⟨V5.Custodian.balances_run options calls, V4.Custodian.balances_run maxInflight ackMode calls₄⟩

/-- A QoS 1 publish under an identifier of the caller's choice, MQTT 5. -/
def V5.chosen (pkid : PacketId) : V5.Call :=
  .outgoing (.publish ⟨false, .atLeastOnce, false, [116], pkid, [], none⟩)

/-- A QoS 1 publish under an identifier of the caller's choice, MQTT 3.1.1. -/
def V4.chosen (pkid : PacketId) : V4.Call :=
  .outgoing (.publish ⟨false, .atLeastOnce, false, [116], pkid, [], ()⟩)

/-- A publish is parked behind another one, takes its place, and both versions are cleaned. -/
theorem no_accepted_publish_lost_parked_once :
    (runSteps V5.Custodian.step (.new { maxInflight := 10 })
      [V5.chosen 1, V5.chosen 1, .incoming (.pubAck { pkid := 1 }), V5.chosen 0,
        .clean]).Satisfies V5.Driver.Excused (fun c => c.custody.Balances c.state.cargo) ∧
    (runSteps V4.Custodian.step (.new 10 .automatic)
      [V4.chosen 1, V4.chosen 1, .incoming (.pubAck { pkid := 1 }), V4.chosen 0,
        .clean]).Satisfies V4.Driver.Excused (fun c => c.custody.Balances c.state.cargo) :=
  (no_accepted_publish_lost _ _ _ _ _).imp (fun holds => holds (by decide))
    fun holds => holds (by decide)

/-- **Publishes get lost**: the second of three publishes under one identifier, in both versions. -/
theorem lost_publishes :
    (∃ c, runSteps V5.Custodian.step (.new { maxInflight := 10 })
        [V5.chosen 1, V5.chosen 1, V5.chosen 1] = .ok c ∧ ¬ c.custody.Balances c.state.cargo) ∧
    (∃ c, runSteps V4.Custodian.step (.new 10 .automatic)
        [V4.chosen 1, V4.chosen 1, V4.chosen 1] = .ok c ∧ ¬ c.custody.Balances c.state.cargo) := by
  refine ⟨?_, ?_⟩
  · have missing : (runSteps V5.Custodian.step (.new { maxInflight := 10 })
        [V5.chosen 1, V5.chosen 1, V5.chosen 1]).map
        (fun c => decide (c.custody.Balances c.state.cargo)) = .ok false := by decide +kernel
    obtain ⟨c, ran, unbalanced⟩ := Checked.map_ok.mp missing
    exact ⟨c, ran, of_decide_eq_false unbalanced⟩
  · have missing : (runSteps V4.Custodian.step (.new 10 .automatic)
        [V4.chosen 1, V4.chosen 1, V4.chosen 1]).map
        (fun c => decide (c.custody.Balances c.state.cargo)) = .ok false := by decide +kernel
    obtain ⟨c, ran, unbalanced⟩ := Checked.map_ok.mp missing
    exact ⟨c, ran, of_decide_eq_false unbalanced⟩

end Rumqtt
