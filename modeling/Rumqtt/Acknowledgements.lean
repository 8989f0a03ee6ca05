/-
**Acknowledgements complete only the flow they belong to.**

Neither client compares the QoS of a stored publish with the acknowledgement that arrives for it: a
PUBACK ends a QoS 2 publish and a PUBREC advances a QoS 1 publish (`mismatched_acknowledgements`). As
long as the broker sends no such acknowledgement, every PUBACK, PUBREC and PUBCOMP completes the flow
it belongs to or is rejected without effect (`acknowledgements_complete_their_flow`), and in the
states reached then, exactly the fitting packets are treated that way.
-/

import Rumqtt.V4.Acknowledging
import Rumqtt.V5.Acknowledging

namespace Rumqtt

/-- **Acknowledgements are respected in both versions**: in every run of fitting packets, in the state
reached, a packet completes the flow it belongs to or is rejected without effect on outbound flows,
identifiers, notices and quota, if and only if it fits. -/
theorem acknowledgements_complete_their_flow (options : V5.StateOptions) (ops : List V5.Op)
    (maxInflight : UInt16) (ackMode : AckMode) (ops₄ : List V4.Op) :
    (Admissible V5.Acknowledging.step V5.Acknowledging.Fitting (.new options) ops →
      (runSteps V5.Acknowledging.step (.new options) ops).Satisfies V5.Driver.Excused fun a =>
        ∀ packet, a.driver.state.FitsQos packet.flowPacket ↔ a.Respects packet) ∧
    (Admissible V4.Acknowledging.step V4.Acknowledging.Fitting (.new maxInflight ackMode) ops₄ →
      (runSteps V4.Acknowledging.step (.new maxInflight ackMode) ops₄).Satisfies V4.Driver.Excused
        fun a => ∀ packet, a.driver.state.FitsQos packet.flowPacket ↔ a.Respects packet) :=
  ⟨V5.Acknowledging.respects_run options ops,
    V4.Acknowledging.respects_run maxInflight ackMode ops₄⟩

/-- A QoS 2 publish with identifier 1 and a QoS 1 publish with identifier 2, MQTT 5. -/
def V5.twoPublishes : List V5.Op :=
  [.request (.publish ⟨false, .exactlyOnce, false, [116], 0, [], none⟩) none,
    .request (.publish ⟨false, .atLeastOnce, false, [116], 0, [], none⟩) none]

/-- A QoS 2 publish with identifier 1 and a QoS 1 publish with identifier 2, MQTT 3.1.1. -/
def V4.twoPublishes : List V4.Op :=
  [.request (.publish ⟨false, .exactlyOnce, false, [116], 0, [], ()⟩) none,
    .request (.publish ⟨false, .atLeastOnce, false, [116], 0, [], ()⟩) none]

/-- The two publishes are acknowledged as their QoS asks for. -/
theorem acknowledgements_complete_their_flow_exchange :
    (runSteps V5.Acknowledging.step (.new { maxInflight := 10 })
      (V5.twoPublishes ++ [.incoming (.pubRec { pkid := 1 }), .incoming (.pubAck { pkid := 2 }),
        .incoming (.pubComp { pkid := 1 })])).Satisfies V5.Driver.Excused
      (fun a => ∀ packet, a.driver.state.FitsQos packet.flowPacket ↔ a.Respects packet) ∧
    (runSteps V4.Acknowledging.step (.new 10 .automatic)
      (V4.twoPublishes ++ [.incoming (.pubRec { pkid := 1 }), .incoming (.pubAck { pkid := 2 }),
        .incoming (.pubComp { pkid := 1 })])).Satisfies V4.Driver.Excused
      (fun a => ∀ packet, a.driver.state.FitsQos packet.flowPacket ↔ a.Respects packet) :=
  (acknowledgements_complete_their_flow _ _ _ _ _).imp (fun holds => holds (by decide))
    fun holds => holds (by decide)

/-- **A PUBACK for the QoS 2 publish and a PUBREC for the QoS 1 publish are not respected**, in either
version. -/
theorem mismatched_acknowledgements :
    (∃ a, runSteps V5.Acknowledging.step (.new { maxInflight := 10 }) V5.twoPublishes = .ok a ∧
      ¬ a.Respects (.pubAck { pkid := 1 }) ∧ ¬ a.Respects (.pubRec { pkid := 2 })) ∧
    (∃ a, runSteps V4.Acknowledging.step (.new 10 .automatic) V4.twoPublishes = .ok a ∧
      ¬ a.Respects (.pubAck { pkid := 1 }) ∧ ¬ a.Respects (.pubRec { pkid := 2 })) := by
  constructor
  · have respected := V5.Acknowledging.respects_run { maxInflight := 10 } V5.twoPublishes (by decide)
    have misfit : (runSteps V5.Acknowledging.step (.new { maxInflight := 10 }) V5.twoPublishes).map
        (fun a => (decide (a.driver.state.FitsQos (.puback 1)),
          decide (a.driver.state.FitsQos (.pubrec 2)))) = .ok (false, false) := by decide
    obtain ⟨a, ran, seen, iff_fits⟩ := respected.observed misfit
    rw [Prod.mk.injEq, decide_eq_false_iff_not, decide_eq_false_iff_not] at seen
    exact ⟨a, ran, (iff_fits _).not.mp seen.1, (iff_fits _).not.mp seen.2⟩
  · have respected := V4.Acknowledging.respects_run 10 .automatic V4.twoPublishes (by decide)
    have misfit : (runSteps V4.Acknowledging.step (.new 10 .automatic) V4.twoPublishes).map
        (fun a => (decide (a.driver.state.FitsQos (.puback 1)),
          decide (a.driver.state.FitsQos (.pubrec 2)))) = .ok (false, false) := by decide
    obtain ⟨a, ran, seen, iff_fits⟩ := respected.observed misfit
    rw [Prod.mk.injEq, decide_eq_false_iff_not, decide_eq_false_iff_not] at seen
    exact ⟨a, ran, (iff_fits _).not.mp seen.1, (iff_fits _).not.mp seen.2⟩

end Rumqtt
