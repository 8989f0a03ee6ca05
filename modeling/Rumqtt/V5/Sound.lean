/-
**The invariant of the MQTT 5 state machine.**

`Sound s pool` joins the tracking invariant of the outbound flows with what MQTT 5 adds: both quota
counters count their bits, only an outbound publish or release holds send quota, only active releases
are marked as replayed, and the bit sets over incoming publishes span all packet identifiers.
-/

import Rumqtt.Flows.Cleanup
import Rumqtt.V5.Incoming

namespace Rumqtt.V5

open FixedBitSet

namespace Quota

/-- The counter counts the bits of a set over all packet identifiers. -/
structure Valid (quota : Quota) : Prop where
  length : quota.bits.length = fullPacketIdentifierLen
  count : quota.inflight = quota.bits.card

/-- The quota with an identifier added. -/
def acquired (quota : Quota) (pkid : PacketId) : Quota :=
  if pkid.toNat ∈ quota.bits then quota
  else ⟨quota.bits.growAndInsert pkid.toNat, quota.inflight + 1⟩

/-- The quota with an identifier taken out. -/
def released (quota : Quota) (pkid : PacketId) : Quota :=
  if pkid.toNat ∈ quota.bits then ⟨quota.bits.remove pkid.toNat, quota.inflight - 1⟩ else quota

theorem valid_new : new.Valid := ⟨rfl, rfl⟩

theorem mem_acquired {quota : Quota} {pkid : PacketId} {bit : Nat} :
    bit ∈ (quota.acquired pkid).bits ↔ bit = pkid.toNat ∨ bit ∈ quota.bits := by
  unfold acquired
  split
  · rename_i held
    constructor
    · exact .inr
    · rintro (rfl | member)
      · exact held
      · exact member
  · simp

theorem mem_released {quota : Quota} {pkid : PacketId} {bit : Nat} :
    bit ∈ (quota.released pkid).bits ↔ bit ≠ pkid.toNat ∧ bit ∈ quota.bits := by
  unfold released
  split
  · simp
  · rename_i absent
    refine ⟨fun member => ⟨?_, member⟩, And.right⟩
    rintro rfl
    exact absent member

namespace Valid

variable {quota : Quota} {pkid : PacketId}

section

variable (valid : quota.Valid)
include valid

theorem toNat_lt (pkid : PacketId) : pkid.toNat < quota.bits.length := by
  rw [valid.length]
  exact pkid.toNat_lt

protected theorem clear : quota.clear.Valid := ⟨valid.length, rfl⟩

protected theorem acquired (pkid : PacketId) : (quota.acquired pkid).Valid := by
  have fits := valid.toNat_lt pkid
  unfold Quota.acquired
  split
  · exact valid
  · rename_i absent
    refine ⟨?_, ?_⟩
    · rw [length_growAndInsert, valid.length]
      rw [valid.length] at fits
      omega
    · rw [card_growAndInsert absent, valid.count]

protected theorem released (pkid : PacketId) : (quota.released pkid).Valid := by
  unfold Quota.released
  split
  · rename_i held
    exact ⟨valid.length, by rw [card_remove held, valid.count]⟩
  · exact valid

/-- **A publish with an identifier takes quota without an overflow**: the bit of zero is never set,
so a free bit leaves room in the counter. -/
theorem acquire_ok (nonzero : pkid ≠ 0) (zero : 0 ∉ quota.bits) :
    quota.acquire pkid = .ok (quota.acquired pkid) := by
  by_cases held : pkid.toNat ∈ quota.bits
  · simp [acquire, Quota.acquired, held]
  · have different : 0 ≠ pkid.toNat := fun same => nonzero (UInt16.toNat_inj.mp same.symm)
    have room := card_add_two_le different (valid.toNat_lt 0) (valid.toNat_lt pkid)
      zero held
    have below : quota.inflight < u16Max := by
      rw [valid.length] at room
      rw [valid.count]
      simp only [fullPacketIdentifierLen, u16Max] at *
      omega
    simp [acquire, Quota.acquired, held, insert_ok (valid.toNat_lt pkid), below]

/-- **Giving quota back does not underflow.** -/
theorem release_ok (message : String) (pkid : PacketId) :
    quota.release message pkid = .ok (quota.released pkid) := by
  by_cases held : pkid.toNat ∈ quota.bits
  · have counted : 1 ≤ quota.inflight := valid.count ▸ card_pos held
    simp [release, Quota.released, held, set_false_ok (valid.toNat_lt pkid), counted]
  · simp [release, Quota.released, held]

theorem take_ok (absent : pkid.toNat ∉ quota.bits) {maximum : UInt16}
    (below : quota.inflight < maximum.toNat) : quota.take pkid = .ok (quota.acquired pkid) := by
  have fits : quota.inflight + 1 ≤ u16Max := by
    have := maximum.toNat_lt
    simp only [u16Max]
    omega
  simp [take, Quota.acquired, absent, insert_ok (valid.toNat_lt pkid), Checked.add_ok fits]

end

end Valid

end Quota

namespace MqttState

/-- **The invariant**, relative to the requests still to be replayed. -/
structure Sound (s : MqttState) (pool : List Request) : Prop where
  tracked : s.toFlows.Tracked pool
  sendQuota : s.outgoingPublishQuota.Valid
  sendQuota_owned : ∀ pkid : PacketId, pkid.toNat ∈ s.outgoingPublishQuota.bits →
    pkid ∈ s.outgoingPubOrder ∨ pkid ∈ s.outgoingRelOrder
  recovery_sub : ∀ bit ∈ s.outgoingRelRecovery, bit ∈ s.outgoingRel
  receiveQuota : s.incomingPublishQuota.Valid
  pubackLength : s.incomingPuback.length = fullPacketIdentifierLen
  pubLength : s.incomingPub.length = fullPacketIdentifierLen
  pubrecLength : s.incomingPubrec.length = fullPacketIdentifierLen

theorem sound_new (options : StateOptions) : (newInternal options).Sound [] where
  tracked := Flows.tracked_new options.maxInflight.toNat
  sendQuota := Quota.valid_new
  sendQuota_owned := by
    rintro pkid ⟨⟩
  recovery_sub := by
    rintro bit ⟨⟩
  receiveQuota := Quota.valid_new
  pubackLength := rfl
  pubLength := rfl
  pubrecLength := rfl

namespace Sound

variable {s : MqttState} {pool : List Request} {pkid : PacketId}

theorem zero_notMem_sendQuota (sound : s.Sound pool) : 0 ∉ s.outgoingPublishQuota.bits := by
  intro member
  have held : ∃ holder, s.toFlows.Holds pool holder 0 := by
    rcases sound.sendQuota_owned 0 member with publish | release
    · exact ⟨.publish, publish⟩
    · exact ⟨.release, release⟩
  obtain ⟨holder, owned⟩ := held
  exact sound.tracked.ne_zero_of_holds owned rfl

/-! ### Fields the invariant does not read -/

theorem pushEvent (sound : s.Sound pool) (event : Event) : (s.pushEvent event).Sound pool :=
  { sound with }

theorem putAuthentication (sound : s.Sound pool) (a : Authentication) :
    (s.putAuthentication a).Sound pool :=
  { sound with }

end Sound

end MqttState

end Rumqtt.V5
