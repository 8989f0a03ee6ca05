/-
**Which acknowledgement belongs to which flow.**

`Flows.sentQos` is the QoS of the publish stored under an identifier. An acknowledgement `Belongs` to
an unfinished flow when it is the one that the QoS of the publish asks for: PUBACK for QoS 1, PUBREC
for QoS 2, PUBCOMP for a QoS 2 publish whose PUBREC has been accepted. `FitsQos` is weaker: no publish
of the other QoS is stored under the identifier.

`nextReceived` observes which QoS 2 publishes have been received, and `Awaits` says that releases are
waiting for the completion of those only; the moves of requests and of fitting packets keep it.
`Completes` is what an accepted acknowledgement does: the move of its own flow, and nothing else
(`SameBut`).
-/

import Rumqtt.Flows.View

namespace Rumqtt

open List

variable {D : Dialect}
variable {f : Flows D} {pool : List (Request D)} {packet : FlowPacket}

namespace Flows

/-- The QoS of the publish stored under an identifier. -/
def sentQos (f : Flows D) (pkid : PacketId) : Option QoS :=
  (f.outgoingPub.lookup pkid.toNat).map (·.qos)

/-- The acknowledgement does not find a publish of the other QoS. -/
def FitsQos (f : Flows D) : FlowPacket → Prop
  | .puback pkid => f.sentQos pkid ≠ some .exactlyOnce
  | .pubrec pkid | .refusal pkid => f.sentQos pkid ≠ some .atLeastOnce
  | _ => True

instance (f : Flows D) (packet : FlowPacket) : Decidable (f.FitsQos packet) := by
  cases packet <;> unfold FitsQos <;> infer_instance

/-- The acknowledgement is the one its flow waits for; other packets belong anywhere. -/
def Belongs (f : Flows D) (received : List PacketId) : FlowPacket → Prop
  | .puback pkid => f.sentQos pkid = some .atLeastOnce
  | .pubrec pkid | .refusal pkid => f.sentQos pkid = some .exactlyOnce
  | .pubcomp pkid => pkid ∈ received
  | _ => True

instance (f : Flows D) (received : List PacketId) (packet : FlowPacket) :
    Decidable (f.Belongs received packet) := by
  cases packet <;> unfold Belongs <;> infer_instance

/-- The acknowledgement finds a flow, whatever the QoS of its publish. -/
def Expects (f : Flows D) : FlowPacket → Prop
  | .puback pkid | .pubrec pkid | .refusal pkid => pkid ∈ f.outgoingPubOrder
  | .pubcomp pkid => pkid ∈ f.outgoingRelOrder
  | _ => False

/-- The QoS 2 publishes whose PUBREC has been accepted and that are not completed, after one more
packet. -/
def nextReceived (f : Flows D) (received : List PacketId) (packet : FlowPacket) (accepted : Bool) :
    List PacketId :=
  match packet, accepted with
  | .pubrec pkid, true => if f.sentQos pkid = some .exactlyOnce then received ++ [pkid] else received
  | .pubcomp pkid, true => received.filter (· != pkid)
  | _, _ => received

namespace Tracked

variable {f : Flows D} {pool : List (Request D)} {pkid : PacketId}

theorem sentQos_of_mem (tracked : f.Tracked pool) (member : pkid ∈ f.outgoingPubOrder) :
    f.sentQos pkid = some .atLeastOnce ∨ f.sentQos pkid = some .exactlyOnce := by
  obtain ⟨publish, stored⟩ := Option.isSome_iff_exists.mp ((tracked.mem_pubOrder pkid).mp member)
  have acked := (tracked.stored pkid publish stored).2
  unfold sentQos
  rw [stored, Option.map_some]
  cases qos : publish.qos with
  | atMostOnce => exact absurd qos acked
  | atLeastOnce => exact .inl rfl
  | exactlyOnce => exact .inr rfl

theorem mem_of_sentQos (tracked : f.Tracked pool) {qos : QoS} (stored : f.sentQos pkid = some qos) :
    pkid ∈ f.outgoingPubOrder := by
  obtain ⟨publish, found, -⟩ := Option.map_eq_some_iff.mp stored
  exact (tracked.mem_pubOrder pkid).mpr (Option.isSome_iff_exists.mpr ⟨publish, found⟩)

end Tracked

end Flows

/-! ### Releases wait for publishes that have been received -/

/-- Every release, active or to be replayed, belongs to a publish of the list. -/
def FlowView.Awaits (v : FlowView) (received : List PacketId) : Prop :=
  ∀ pkid, pkid ∈ v.releases ∨ pkid ∈ v.resumable → pkid ∈ received

variable {v w : FlowView} {received : List PacketId} {written : Option PacketId}

theorem RequestMove.awaits {room : Prop} {request : Request D} {replay : Bool}
    (moved : RequestMove room v request replay written w) (awaits : v.Awaits received) :
    w.Awaits received := by
  cases moved with
  | resumed pubrel replay member =>
    rintro pkid (active | waiting)
    · rcases mem_append.mp active with old | new
      · exact awaits pkid (.inl old)
      · rw [mem_singleton.mp new]
        exact awaits _ (.inr member)
    · exact awaits pkid (.inr (mem_of_mem_erase waiting))
  | _ => exact awaits

theorem FlowView.Settle.awaits {pkid : PacketId} (settled : v.Settle pkid written w)
    (awaits : v.Awaits received) : w.Awaits received := by
  cases settled with
  | quiet => exact awaits
  | unparked => exact awaits

/-- **A packet that fits keeps the releases with the publishes received.** -/
theorem PacketMove.awaits
    {accepted : Bool} (tracked : f.Tracked pool) (moved : PacketMove f.view packet accepted written w)
    (fits : f.FitsQos packet) (awaits : f.view.Awaits received) :
    w.Awaits (f.nextReceived received packet accepted) := by
  cases moved with
  | rejected packet => cases packet <;> exact awaits
  | other => exact awaits
  | acked _ _ _ _ settled => exact settled.awaits awaits
  | refused _ _ _ _ settled => exact settled.awaits awaits
  | received pkid member =>
    have qos2 := (tracked.sentQos_of_mem member).resolve_left fits
    show FlowView.Awaits _ (if f.sentQos pkid = some .exactlyOnce then received ++ [pkid] else received)
    rw [if_pos qos2]
    rintro other (active | waiting)
    · rcases mem_append.mp active with old | new
      · exact mem_append_left _ (awaits other (.inl old))
      · exact mem_append_right _ new
    · exact mem_append_left _ (awaits other (.inr waiting))
  | completed pkid member _ _ settled =>
    -- the completed release was the only entry of its identifier
    refine settled.awaits ?_
    rintro other (active | waiting)
    · have kept := tracked.relOrder_nodup.mem_erase_iff.mp active
      exact mem_filter.mpr ⟨awaits other (.inl kept.2), by simpa using kept.1⟩
    · refine mem_filter.mpr ⟨awaits other (.inr waiting), ?_⟩
      have held : f.Holds pool .release pkid := member
      have different : other ≠ pkid := by
        rintro rfl
        cases tracked.ledger.replay_unheld other waiting _ held
      simpa using different
  | answered => exact awaits

/-! ### Respected acknowledgements -/

/-- A packet fits when the flow it finds, if any, is the one it belongs to. -/
theorem Flows.Tracked.fits_iff (tracked : f.Tracked pool)
    (awaits : f.view.Awaits received) (packet : FlowPacket) :
    f.FitsQos packet ↔ (f.Expects packet → f.Belongs received packet) := by
  cases packet with
  | puback pkid =>
    refine ⟨fun fits expected => (tracked.sentQos_of_mem expected).resolve_right fits, ?_⟩
    intro belongs other
    have qos1 : f.sentQos pkid = some .atLeastOnce := belongs (tracked.mem_of_sentQos other)
    rw [qos1] at other
    cases other
  | pubrec pkid =>
    refine ⟨fun fits expected => (tracked.sentQos_of_mem expected).resolve_left fits, ?_⟩
    intro belongs other
    have qos2 : f.sentQos pkid = some .exactlyOnce := belongs (tracked.mem_of_sentQos other)
    rw [qos2] at other
    cases other
  | refusal pkid =>
    refine ⟨fun fits expected => (tracked.sentQos_of_mem expected).resolve_left fits, ?_⟩
    intro belongs other
    have qos2 : f.sentQos pkid = some .exactlyOnce := belongs (tracked.mem_of_sentQos other)
    rw [qos2] at other
    cases other
  | pubcomp pkid => exact ⟨fun _ expected => awaits pkid (.inl expected), fun _ => trivial⟩
  | control pkid => exact ⟨fun _ _ => trivial, fun _ => trivial⟩
  | other => exact ⟨fun _ _ => trivial, fun _ => trivial⟩

/-- An accepted packet has found a flow, or it is not an acknowledgement of a publish. -/
theorem PacketMove.expects
    (moved : PacketMove f.view packet true written w) (received : List PacketId) :
    f.Expects packet ∨ f.Belongs received packet := by
  cases moved with
  | other => exact .inr trivial
  | acked _ member => exact .inl member
  | refused _ member => exact .inl member
  | received _ member => exact .inl member
  | completed _ member => exact .inl member
  | answered => exact .inr trivial

/-- **Exactly the fitting packets complete the flow they belong to or are rejected**, where a rejected
packet was not expected and leaves something the same. -/
theorem PacketMove.fits_iff {accepted : Bool} {same complete : Prop} (tracked : f.Tracked pool)
    (awaits : f.view.Awaits received) (moved : PacketMove f.view packet accepted written w)
    (completes : accepted = true → complete)
    (rejected : accepted = false → same ∧ ¬ f.Expects packet) :
    f.FitsQos packet ↔
      f.Belongs received packet ∧ accepted = true ∧ complete ∨ accepted = false ∧ same := by
  rw [tracked.fits_iff awaits]
  constructor
  · intro belongs
    cases accepted with
    | false => exact .inr ⟨rfl, (rejected rfl).1⟩
    | true => exact .inl ⟨(moved.expects received).elim belongs id, rfl, completes rfl⟩
  · rintro (⟨belongs, -⟩ | ⟨failed, -⟩) expected
    · exact belongs
    · exact absurd expected (rejected failed).2

/-! ### What an acknowledgement leaves alone -/

/-- The identifier of the publish that a packet acknowledges. -/
def FlowPacket.acks : FlowPacket → Option PacketId
  | .puback pkid | .pubrec pkid | .refusal pkid | .pubcomp pkid => some pkid
  | .control _ | .other => none

namespace Flows

/-- **Everything outside the flow of one identifier is as before**: stored publishes with their
contents and notices, releases and theirs, reserved identifiers, pending subscriptions, and the parked
publish unless it waits for this identifier. -/
structure SameBut (f : Flows D) (pkid : PacketId) (g : Flows D) : Prop where
  publishes : ∀ other ≠ pkid, g.outgoingPub.lookup other.toNat = f.outgoingPub.lookup other.toNat
  publishNotices : ∀ other ≠ pkid, (f.outgoingPub.lookup other.toNat).isSome →
    g.outgoingPubNotice.lookup other.toNat = f.outgoingPubNotice.lookup other.toNat
  releases : ∀ other ≠ pkid, other.toNat ∈ g.outgoingRel ↔ other.toNat ∈ f.outgoingRel
  releaseNotices : ∀ other ≠ pkid, other.toNat ∈ f.outgoingRel →
    g.outgoingRelNotice.lookup other.toNat = f.outgoingRelNotice.lookup other.toNat
  replays : ∀ other : PacketId,
    other.toNat ∈ g.outgoingRelReplay ↔ other.toNat ∈ f.outgoingRelReplay
  reserved : ∀ other ≠ pkid, other.toNat ∈ g.outboundPkidInUse ↔ other.toNat ∈ f.outboundPkidInUse
  pending : g.pendingSubscribe = f.pendingSubscribe ∧ g.pendingUnsubscribe = f.pendingUnsubscribe
  parked : g.collision = f.collision ∨
    g.collision = none ∧ ∃ publish, f.collision = some publish ∧ publish.pkid = pkid

namespace SameBut

variable {g h : Flows D} {pkid : PacketId}

theorem refl (f : Flows D) (pkid : PacketId) : f.SameBut pkid f :=
  ⟨fun _ _ => rfl, fun _ _ _ => rfl, fun _ _ => Iff.rfl, fun _ _ _ => rfl, fun _ => Iff.rfl,
    fun _ _ => Iff.rfl, ⟨rfl, rfl⟩, .inl rfl⟩

theorem trans (first : f.SameBut pkid g) (second : g.SameBut pkid h) : f.SameBut pkid h where
  publishes other different :=
    (second.publishes other different).trans (first.publishes other different)
  publishNotices other different held :=
    (second.publishNotices other different ((first.publishes other different).symm ▸ held)).trans
      (first.publishNotices other different held)
  releases other different := (second.releases other different).trans (first.releases other different)
  releaseNotices other different held :=
    (second.releaseNotices other different ((first.releases other different).mpr held)).trans
      (first.releaseNotices other different held)
  replays other := (second.replays other).trans (first.replays other)
  reserved other different := (second.reserved other different).trans (first.reserved other different)
  pending := ⟨second.pending.1.trans first.pending.1, second.pending.2.trans first.pending.2⟩
  parked := by
    rcases second.parked with same | ⟨gone, publish, waiting, its⟩
    · rw [same]
      exact first.parked
    · rcases first.parked with same | ⟨absent, -⟩
      · exact .inr ⟨gone, publish, same ▸ waiting, its⟩
      · rw [absent] at waiting
        cases waiting

theorem toNat_ne {other : PacketId} (different : other ≠ pkid) : other.toNat ≠ pkid.toNat :=
  fun same => different (UInt16.toNat_inj.mp same)

theorem withPublish (f : Flows D) (publish : Publish D) (notice : Option NoticeId) :
    f.SameBut publish.pkid (f.withPublish publish notice) :=
  { refl f publish.pkid with
    publishes := fun _ different => SlotVec.lookup_write_of_ne _ (toNat_ne different) _
    publishNotices := fun _ different _ => SlotVec.lookup_write_of_ne _ (toNat_ne different) _ }

theorem withoutPublish (f : Flows D) (pkid : PacketId) : f.SameBut pkid (f.withoutPublish pkid) :=
  { refl f pkid with
    publishes := fun _ different => SlotVec.lookup_write_of_ne _ (toNat_ne different) _
    publishNotices := fun _ different _ => SlotVec.lookup_write_of_ne _ (toNat_ne different) _ }

theorem withRelease (f : Flows D) (pkid : PacketId) (notice : Option NoticeId) :
    f.SameBut pkid (f.withRelease pkid notice) :=
  { refl f pkid with
    releases := fun _ different =>
      (FixedBitSet.mem_growAndInsert ..).trans (or_iff_right (toNat_ne different))
    releaseNotices := fun _ different _ => SlotVec.lookup_write_of_ne _ (toNat_ne different) _ }

theorem withoutRelease (f : Flows D) (pkid : PacketId) : f.SameBut pkid (f.withoutRelease pkid) :=
  { refl f pkid with
    releases := fun _ different =>
      (FixedBitSet.mem_remove ..).trans (and_iff_right (toNat_ne different))
    releaseNotices := fun _ different _ => SlotVec.lookup_write_of_ne _ (toNat_ne different) _ }

theorem withReleased (f : Flows D) (pkid : PacketId) : f.SameBut pkid (f.withReleased pkid) :=
  { refl f pkid with
    reserved := fun _ different =>
      (FixedBitSet.mem_remove ..).trans (and_iff_right (toNat_ne different)) }

/-- Room is made, the identifier is reserved again and the parked publish is gone. -/
theorem unparking {publish : Publish D} (waiting : f.collision = some publish) :
    f.SameBut publish.pkid (f.unparking publish.pkid) where
  publishes _ _ := SlotVec.lookup_growTo ..
  publishNotices _ _ _ := SlotVec.lookup_growTo ..
  releases _ _ := FixedBitSet.mem_grow ..
  releaseNotices _ _ _ := SlotVec.lookup_growTo ..
  replays _ := FixedBitSet.mem_grow ..
  reserved _ different :=
    (FixedBitSet.mem_growAndInsert ..).trans (or_iff_right (toNat_ne different))
  pending := ⟨rfl, rfl⟩
  parked := .inr ⟨rfl, publish, waiting, rfl⟩

/-- Shrinking takes away positions of drained tables only. -/
theorem shrinkTo (drained : f.drained = true) (targetLen : Nat) (pkid : PacketId) :
    f.SameBut pkid (f.shrinkTo targetLen) := by
  simp only [Flows.drained, Bool.and_eq_true, FixedBitSet.isClear_iff] at drained
  obtain ⟨⟨⟨⟨⟨⟨⟨⟨⟨-, empty⟩, -⟩, -⟩, -⟩, noRelease⟩, -⟩, noReplay⟩, -⟩, -⟩ := drained
  have unstored : ∀ index, f.outgoingPub.lookup index = none := SlotVec.lookup_of_allNone empty
  exact { refl f pkid with
    publishes := fun other _ => by
      rw [unstored]
      exact (SlotVec.lookup_truncate ..).trans (ite_eq_right_iff.mpr fun _ => unstored _)
    publishNotices := fun other _ held => by
      rw [unstored] at held
      cases held
    releases := fun other _ =>
      iff_of_false (FixedBitSet.notMem_withCapacity _ _) (noRelease _)
    releaseNotices := fun other _ held => absurd held (noRelease _)
    replays := fun other => iff_of_false (FixedBitSet.notMem_withCapacity _ _) (noReplay _) }

end SameBut

/-- **A packet makes the move listed for it, and leaves every other flow alone** if it acknowledges a
publish. -/
def Completes (f : Flows D) (packet : FlowPacket) (written : Option PacketId) (g : Flows D) : Prop :=
  PacketMove f.view packet true written g.view ∧ ∀ pkid ∈ packet.acks, f.SameBut pkid g

end Flows

/-! ### Checkpoints and lost connections -/

/-- The identifier of a release in a checkpoint: the PUBREC has been received before it was saved. -/
def PersistedRequest.release? {P : PersistedForm D} : PersistedRequest P → Option PacketId
  | .pubRel pkid => some pkid
  | _ => none

theorem Flows.restored_resumable {P : PersistedForm D} (f : Flows D)
    (replay : List (PersistedRequest P)) :
    (f.restored replay).outgoingRelReplayOrder =
      f.outgoingRelReplayOrder ++ replay.filterMap PersistedRequest.release? := by
  induction replay generalizing f with
  | nil => exact (append_nil _).symm
  | cons request rest ih =>
    show ((f.restoring request).restored rest).outgoingRelReplayOrder = _
    rw [ih]
    cases request with
    | pubRel pkid => exact append_assoc f.outgoingRelReplayOrder [pkid] _
    | publish packet => rfl
    | subscribe packet => rfl
    | unsubscribe packet => rfl

theorem Flows.awaits_new (maxInflight : Nat) : (Flows.new maxInflight : Flows D).view.Awaits [] := by
  rintro pkid (active | waiting)
  · cases active
  · cases waiting

/-- A restored session waits for the completion of the releases of its checkpoint. -/
theorem Flows.awaits_restored {P : PersistedForm D} (maxInflight : Nat)
    (replay : List (PersistedRequest P)) :
    ((Flows.new maxInflight).restored replay).view.Awaits
      (replay.filterMap PersistedRequest.release?) := by
  rintro pkid (active | waiting)
  · rw [show (((Flows.new maxInflight).restored replay).view.releases) = [] from
      (Flows.restored_unsent (Flows.new maxInflight) replay).2.1] at active
    cases active
  · rwa [show (((Flows.new maxInflight).restored replay).view.resumable) = _ from
      Flows.restored_resumable (Flows.new maxInflight) replay] at waiting

/-- A lost connection moves the releases to those that wait to be replayed. -/
theorem FlowView.Awaits.clean (awaits : v.Awaits received) : v.clean.Awaits received := by
  rintro pkid (active | waiting)
  · cases active
  · rcases mem_append.mp waiting with old | new
    · exact awaits pkid (.inr old)
    · exact awaits pkid (.inl new)

end Rumqtt
