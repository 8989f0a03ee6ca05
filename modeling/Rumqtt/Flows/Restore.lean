/-
**A checkpoint that passes validation restores tracked flows.**

`validateReplayFrom_accepts` says which lists of replay requests are accepted: valid ones, with
pairwise distinct identifiers. `restored` is the state `restoreReplay` builds from such a list, and
`Tracked.restored` shows it tracked, with the restored requests as its pool.
-/

import Rumqtt.Persistence

namespace Rumqtt

open FixedBitSet Checked List

variable {D : Dialect} {P : PersistedForm D}

/-! ### Validation -/

namespace PersistedRequest

variable {request : PersistedRequest P}

/-- What `validate` accepts. -/
structure Valid (request : PersistedRequest P) : Prop where
  nonzero : request.pkid ≠ 0
  acked : ∀ packet, request = .publish packet → packet.qos ≠ .atMostOnce

theorem validate_of_valid (valid : request.Valid) :
    request.validate = .ok request.pkid := by
  unfold validate validatePkid
  rw [if_neg valid.nonzero]
  cases request with
  | publish packet => exact if_neg (valid.acked packet rfl)
  | pubRel released => rfl
  | subscribe packet => rfl
  | unsubscribe packet => rfl

theorem validate_of_not_valid (invalid : ¬ request.Valid) :
    ∃ error, request.validate = .error error := by
  unfold validate validatePkid
  by_cases zero : request.pkid = 0
  · rw [if_pos zero]
    exact ⟨_, rfl⟩
  · rw [if_neg zero]
    cases request with
    | publish packet =>
      by_cases unacked : packet.qos = .atMostOnce
      · exact ⟨_, if_pos unacked⟩
      · refine absurd ⟨zero, ?_⟩ invalid
        rintro _ ⟨⟩
        exact unacked
    | pubRel released => exact absurd ⟨zero, by rintro _ ⟨⟩⟩ invalid
    | subscribe packet => exact absurd ⟨zero, by rintro _ ⟨⟩⟩ invalid
    | unsubscribe packet => exact absurd ⟨zero, by rintro _ ⟨⟩⟩ invalid

theorem restore_of_valid (valid : request.Valid) :
    request.restore = .ok request.toRequest := by
  unfold restore validatePkid
  rw [if_neg valid.nonzero]
  rfl

/-- The restored request owns the identifier of its checkpoint entry. -/
theorem replayPkid_toRequest (valid : request.Valid) :
    request.toRequest.replayPkid = some request.pkid := by
  cases request with
  | publish packet => exact if_neg (valid.acked packet rfl)
  | pubRel released => exact congrArg some (D.pubRelPkid_pubRel released)
  | subscribe packet => rfl
  | unsubscribe packet => rfl

end PersistedRequest

theorem validateReplayFrom_total (counted : PersistedRequest P → Bool)
    (replay : List (PersistedRequest P)) {packetIds : FixedBitSet}
    (full : packetIds.length = fullPacketIdentifierLen) (count : Nat) :
    ∃ result, validateReplayFrom counted replay packetIds count = .ok result := by
  induction replay generalizing packetIds count with
  | nil => exact ⟨_, rfl⟩
  | cons request rest ih =>
    unfold validateReplayFrom
    cases request.validate with
    | error error => exact ⟨_, rfl⟩
    | ok pkid =>
      have fits := toNat_lt_of_full full pkid
      by_cases seen : packetIds.contains pkid.toNat = true
      · simp [seen]
      · obtain ⟨result, ran⟩ := ih (length_growAndInsert_full full pkid)
          (if counted request then count + 1 else count)
        exact ⟨result, by simp [seen, insert_ok fits, ran]⟩

/-- **What the validation of a checkpoint accepts.** -/
theorem validateReplayFrom_accepts {counted : PersistedRequest P → Bool}
    {replay : List (PersistedRequest P)} {packetIds : FixedBitSet}
    (full : packetIds.length = fullPacketIdentifierLen) {count total : Nat} :
    validateReplayFrom counted replay packetIds count = .ok (.ok total) ↔
      (∀ request ∈ replay, request.Valid) ∧ (replay.map PersistedRequest.pkid).Nodup ∧
        (∀ request ∈ replay, request.pkid.toNat ∉ packetIds) ∧
          total = count + replay.countP counted := by
  induction replay generalizing packetIds count with
  | nil => simp [validateReplayFrom, eq_comm]
  | cons request rest ih =>
    unfold validateReplayFrom
    by_cases valid : request.Valid
    · have fits := toNat_lt_of_full full request.pkid
      rw [PersistedRequest.validate_of_valid valid]
      by_cases seen : request.pkid.toNat ∈ packetIds
      · refine iff_of_false ?_ fun accepted => accepted.2.2.1 request mem_cons_self seen
        simp [seen]
      · simp only [contains_eq_false.mpr seen, Bool.false_eq_true, if_false,
          insert_ok fits, ok_bind,
          ih (length_growAndInsert_full full request.pkid), forall_mem_cons, map_cons,
          nodup_cons, mem_growAndInsert, not_or, countP_cons]
        constructor
        · rintro ⟨validRest, nodup, fresh, rfl⟩
          refine ⟨⟨valid, validRest⟩, ⟨?_, nodup⟩, ⟨seen, fun other member => (fresh other member).2⟩, ?_⟩
          · rintro repeated
            obtain ⟨other, member, same⟩ := mem_map.mp repeated
            exact (fresh other member).1 (congrArg UInt16.toNat same)
          · split <;> omega
        · rintro ⟨⟨-, validRest⟩, ⟨once, nodup⟩, ⟨-, fresh⟩, rfl⟩
          refine ⟨validRest, nodup, fun other member => ⟨?_, fresh other member⟩, ?_⟩
          · intro same
            exact once (mem_map.mpr ⟨other, member, UInt16.toNat_inj.mp same⟩)
          · split <;> omega
    · obtain ⟨error, refused⟩ := PersistedRequest.validate_of_not_valid valid
      rw [refused]
      refine iff_of_false ?_ fun accepted => valid (accepted.1 request mem_cons_self)
      rintro ⟨⟩

/-- **A checkpoint that will be restored**: valid requests with distinct identifiers that fit the
window, and incoming publishes with an identifier. -/
structure Restorable (counted : PersistedRequest P → Bool) (maxInflight : UInt16)
    (incomingQos2 : List PacketId) (replay : List (PersistedRequest P)) : Prop where
  valid : ∀ request ∈ replay, request.Valid
  nodup : (replay.map PersistedRequest.pkid).Nodup
  window : replay.countP counted ≤ maxInflight.toNat
  incoming : ∀ pkid ∈ incomingQos2, pkid ≠ 0

theorem forM_validatePkid_ok {pkids : List PacketId} :
    pkids.forM validatePkid = .ok () ↔ ∀ pkid ∈ pkids, pkid ≠ 0 := by
  induction pkids with
  | nil => exact iff_of_true rfl (by simp)
  | cons pkid rest ih =>
    have unfolded : (pkid :: rest).forM validatePkid = (validatePkid pkid >>= fun _ =>
      rest.forM validatePkid) := rfl
    rw [unfolded, forall_mem_cons]
    by_cases zero : pkid = 0
    · have refused : validatePkid pkid = .error (.invalidPacketIdentifier pkid) := if_pos zero
      rw [refused]
      refine iff_of_false ?_ fun accepted => accepted.1 zero
      rintro ⟨⟩
    · have accepted : validatePkid pkid = .ok () := if_neg zero
      rw [accepted]
      exact ih.trans (and_iff_right zero).symm

/-- **Validation accepts exactly the restorable checkpoints, and never panics.** -/
theorem validatePersistedSessionPacketIds_cases (counted : PersistedRequest P → Bool)
    (maxInflight : UInt16) (incomingQos2 : List PacketId) (replay : List (PersistedRequest P)) :
    (validatePersistedSessionPacketIds counted maxInflight incomingQos2 replay = .ok (.ok ()) ∧
      Restorable counted maxInflight incomingQos2 replay) ∨
    ((∃ error, validatePersistedSessionPacketIds counted maxInflight incomingQos2 replay =
      .ok (.error error)) ∧ ¬ Restorable counted maxInflight incomingQos2 replay) := by
  have full : (FixedBitSet.withCapacity fullPacketIdentifierLen).length = fullPacketIdentifierLen := rfl
  unfold validatePersistedSessionPacketIds
  cases checked : incomingQos2.forM validatePkid with
  | error error =>
    refine .inr ⟨⟨error, rfl⟩, fun restorable => ?_⟩
    rw [forM_validatePkid_ok.mpr restorable.incoming] at checked
    cases checked
  | ok =>
    have incoming := forM_validatePkid_ok.mp checked
    obtain ⟨result, ran⟩ := validateReplayFrom_total counted replay full 0
    dsimp only
    rw [ran, ok_bind]
    cases result with
    | error error =>
      refine .inr ⟨⟨error, rfl⟩, fun restorable => ?_⟩
      have accepted := (validateReplayFrom_accepts full).mpr
        ⟨restorable.valid, restorable.nodup, by simp, Eq.refl (0 + replay.countP counted)⟩
      rw [ran] at accepted
      cases accepted
    | ok count =>
      obtain ⟨valid, nodup, -, rfl⟩ := (validateReplayFrom_accepts full).mp ran
      dsimp only
      by_cases exceeded : maxInflight.toNat < 0 + replay.countP counted
      · rw [if_pos exceeded]
        refine .inr ⟨⟨_, rfl⟩, fun restorable => ?_⟩
        have := restorable.window
        omega
      · rw [if_neg exceeded]
        exact .inl ⟨rfl, valid, nodup, by omega, incoming⟩

theorem restore_all {replay : List (PersistedRequest P)} (valid : ∀ request ∈ replay, request.Valid) :
    replay.mapM PersistedRequest.restore = .ok (replay.map PersistedRequest.toRequest) := by
  induction replay with
  | nil => rfl
  | cons request rest ih =>
    rw [mapM_cons, PersistedRequest.restore_of_valid (valid request mem_cons_self),
      ih fun other member => valid other (mem_cons_of_mem request member)]
    rfl

/-! ### Restoring -/

namespace Flows

section

variable (f : Flows D)

/-- The counter recomputed from the reserved set. -/
def recounted : Flows D := { f with outboundPkidCount := f.outboundPkidInUse.card }

/-- A release queued for replay under an identifier. -/
def withReleaseQueued (pkid : PacketId) : Flows D :=
  { f with
    outgoingRelReplay := f.outgoingRelReplay.growAndInsert pkid.toNat
    outgoingRelReplayOrder := f.outgoingRelReplayOrder ++ [pkid] }

/-- The flows with one more request of a checkpoint. -/
def restoring : PersistedRequest P → Flows D
  | .publish packet =>
    (f.ensureOutgoingTrackingCapacity (packet.pkid.toNat + 1)).withReserved packet.pkid
  | .pubRel pkid =>
    ((f.ensureOutgoingTrackingCapacity (pkid.toNat + 1)).withReleaseQueued pkid).withReserved pkid
  | .subscribe packet => f.withReserved packet.pkid
  | .unsubscribe packet => f.withReserved packet.pkid

def restored (replay : List (PersistedRequest P)) : Flows D := replay.foldl restoring f

/-- A checkpoint restores nothing as sent: its requests wait in the pool. -/
theorem restored_unsent (replay : List (PersistedRequest P)) :
    (f.restored replay).outgoingPubOrder = f.outgoingPubOrder ∧
      (f.restored replay).outgoingRelOrder = f.outgoingRelOrder ∧
        (f.restored replay).collision = f.collision := by
  induction replay generalizing f with
  | nil => exact ⟨rfl, rfl, rfl⟩
  | cons request rest ih =>
    obtain ⟨publishes, releases, collision⟩ := ih (f.restoring request)
    refine ⟨publishes.trans ?_, releases.trans ?_, collision.trans ?_⟩ <;> cases request <;> rfl

theorem recounted_reserved {pkid : PacketId} (free : pkid.toNat ∉ f.outboundPkidInUse) :
    recounted { f with outboundPkidInUse := f.outboundPkidInUse.growAndInsert pkid.toNat } =
      f.recounted.withReserved pkid := by
  unfold recounted withReserved PacketIds.reserved
  rw [card_growAndInsert free]

theorem restoreRequest_ok {request : PersistedRequest P}
    (full : f.outboundPkidInUse.length = fullPacketIdentifierLen)
    (free : request.pkid.toNat ∉ f.outboundPkidInUse) :
    ∃ g, f.restoreRequest request = .ok g ∧ g.recounted = f.recounted.restoring request ∧
      g.outboundPkidInUse = f.outboundPkidInUse.growAndInsert request.pkid.toNat := by
  have inserted := insert_ok (toNat_lt_of_full full request.pkid)
  cases request with
  | publish packet =>
    refine ⟨_, ?_, recounted_reserved (f.ensureOutgoingTrackingCapacity _) free, rfl⟩
    exact bind_ok.mpr ⟨_, rfl, bind_ok.mpr ⟨_, inserted, rfl⟩⟩
  | pubRel pkid =>
    have relFits : pkid.toNat <
        (f.ensureOutgoingTrackingCapacity (pkid.toNat + 1)).outgoingRelReplay.length := by
      simp only [ensureOutgoingTrackingCapacity, length_grow]
      omega
    have queued := insert_ok relFits
    refine ⟨_, ?_, recounted_reserved
      ((f.ensureOutgoingTrackingCapacity (pkid.toNat + 1)).withReleaseQueued pkid) free, rfl⟩
    exact bind_ok.mpr ⟨_, queued, bind_ok.mpr ⟨_, rfl, bind_ok.mpr ⟨_, inserted, rfl⟩⟩⟩
  | subscribe packet =>
    refine ⟨_, ?_, recounted_reserved f free, rfl⟩
    exact bind_ok.mpr ⟨_, rfl, bind_ok.mpr ⟨_, inserted, rfl⟩⟩
  | unsubscribe packet =>
    refine ⟨_, ?_, recounted_reserved f free, rfl⟩
    exact bind_ok.mpr ⟨_, rfl, bind_ok.mpr ⟨_, inserted, rfl⟩⟩

theorem restoreRequests_ok {replay : List (PersistedRequest P)}
    (full : f.outboundPkidInUse.length = fullPacketIdentifierLen)
    (nodup : (replay.map PersistedRequest.pkid).Nodup)
    (free : ∀ request ∈ replay, request.pkid.toNat ∉ f.outboundPkidInUse) :
    ∃ g, replay.foldlM restoreRequest f = .ok g ∧ g.recounted = f.recounted.restored replay := by
  induction replay generalizing f with
  | nil => exact ⟨f, rfl, rfl⟩
  | cons request rest ih =>
    obtain ⟨once, nodupRest⟩ := nodup_cons.mp nodup
    obtain ⟨g, ran, counted, inUse⟩ := f.restoreRequest_ok full (free request mem_cons_self)
    have fullAfter : g.outboundPkidInUse.length = fullPacketIdentifierLen :=
      inUse ▸ length_growAndInsert_full full request.pkid
    have freeAfter : ∀ other ∈ rest, other.pkid.toNat ∉ g.outboundPkidInUse := by
      intro other member
      rw [inUse, mem_growAndInsert, not_or]
      refine ⟨fun same => once ?_, free other (mem_cons_of_mem request member)⟩
      exact mem_map.mpr ⟨other, member, UInt16.toNat_inj.mp same⟩
    obtain ⟨last, ranRest, countedRest⟩ := ih g fullAfter nodupRest freeAfter
    refine ⟨last, ?_, ?_⟩
    · rw [foldlM_cons, ran, ok_bind, ranRest]
    · rw [countedRest, counted]
      rfl

end

namespace Tracked

variable {f : Flows D} {pool : List (Request D)} {pkid : PacketId}
variable {request : Request D}

theorem holds_append_singleton (f : Flows D) (pool : List (Request D))
    (owns : request.replayPkid = some pkid) :
    f.Holds (pool ++ [request]) = acquire (f.Holds pool) .replay pkid := by
  funext holder other
  cases holder <;> simp [Holds, acquire, poolIds, owns]

section

variable (tracked : f.Tracked pool)
include tracked

/-- **A reserved identifier without a holder may be handed to a replay request.** -/
theorem grant (owns : request.replayPkid = some pkid) (inUse : pkid.toNat ∈ f.outboundPkidInUse)
    (unheld : f.Unheld pool pkid)
    (kind : pkid ∈ f.outgoingRelReplayOrder ↔ request.pubRelPkid? = some pkid) :
    f.Tracked (pool ++ [request]) :=
  { tracked with
    ledger := holds_append_singleton f pool owns ▸ tracked.ledger.grant inUse unheld
    pool_nodup := by
      rw [poolIds_append, show poolIds [request] = [pkid] by simp [poolIds, owns]]
      exact nodup_append_singleton tracked.pool_nodup (unheld .replay)
    replay_kind := by
      intro other member otherPkid otherOwns
      rcases mem_append.mp member with old | new
      · exact tracked.replay_kind other old otherPkid otherOwns
      · rw [mem_singleton.mp new] at otherOwns ⊢
        rw [owns, Option.some_inj] at otherOwns
        exact otherOwns ▸ kind }

theorem withReleaseQueued (fits : pkid.toNat < f.outgoingPub.length)
    (inUse : pkid.toNat ∈ f.outboundPkidInUse) (unheld : f.Unheld pool pkid)
    (absent : pkid ∉ f.outgoingRelReplayOrder) : (f.withReleaseQueued pkid).Tracked pool := by
  have queued : ∀ other, other ∈ (f.withReleaseQueued pkid).outgoingRelReplayOrder ↔
      other ∈ f.outgoingRelReplayOrder ∨ other = pkid := by
    intro other
    simp [Flows.withReleaseQueued]
  exact { tracked with
    relReplayLength := by
      simp only [Flows.withReleaseQueued, length_growAndInsert, tracked.relReplayLength]
      omega
    mem_relReplayOrder := by
      intro other
      rw [queued, tracked.mem_relReplayOrder]
      simp [Flows.withReleaseQueued, UInt16.toNat_inj, or_comm]
    relReplayOrder_nodup := nodup_append_singleton tracked.relReplayOrder_nodup absent
    ledger := {
      exclusive := tracked.ledger.exclusive
      reserved := tracked.ledger.reserved
      replay_reserved := by
        intro other member
        rcases (queued other).mp member with old | rfl
        · exact tracked.ledger.replay_reserved other old
        · exact inUse
      replay_unheld := by
        intro other member holder held
        rcases (queued other).mp member with old | rfl
        · exact tracked.ledger.replay_unheld other old holder held
        · exact absurd held (unheld holder) }
    replay_kind := by
      intro request member other owns
      rw [queued, ← tracked.replay_kind request member other owns]
      refine or_iff_left ?_
      rintro rfl
      exact unheld .replay (mem_poolIds.mpr ⟨request, member, owns⟩) }

/-- A reservation for a request that is not a PUBREL. -/
theorem grantReserved
    (owns : request.replayPkid = some pkid) (notRelease : request.pubRelPkid? = none)
    (nonzero : pkid ≠ 0) (free : pkid.toNat ∉ f.outboundPkidInUse) :
    (f.withReserved pkid).Tracked (pool ++ [request]) := by
  refine (tracked.withReserved nonzero free).grant owns ?_ (tracked.unheld_of_free free) ?_
  · exact (mem_growAndInsert ..).mpr (.inl rfl)
  · rw [notRelease]
    exact iff_of_false (tracked.notMem_relReplayOrder_of_free free) (by rintro ⟨⟩)

/-- **One more request of a checkpoint keeps the flows tracked, with the request in the pool.** -/
theorem restoring {request : PersistedRequest P} (valid : request.Valid)
    (free : request.pkid.toNat ∉ f.outboundPkidInUse) :
    (f.restoring request).Tracked (pool ++ [request.toRequest]) := by
  have owns := PersistedRequest.replayPkid_toRequest valid
  cases request with
  | publish packet =>
    exact (tracked.ensureCapacity packet.pkid.toNat_lt).grantReserved owns rfl valid.nonzero free
  | subscribe packet => exact tracked.grantReserved owns rfl valid.nonzero free
  | unsubscribe packet => exact tracked.grantReserved owns rfl valid.nonzero free
  | pubRel released =>
    have roomy := tracked.ensureCapacity released.toNat_lt
    have absent := roomy.notMem_relReplayOrder_of_free free
    have fits : released.toNat <
        (f.ensureOutgoingTrackingCapacity (released.toNat + 1)).outgoingPub.length := by
      rw [length_ensureCapacity]
      omega
    have inUse : released.toNat ∈
        ((f.ensureOutgoingTrackingCapacity (released.toNat + 1)).withReserved
          released).outboundPkidInUse := (mem_growAndInsert ..).mpr (.inl rfl)
    have unheld := roomy.unheld_of_free free
    have queued := (roomy.withReserved valid.nonzero free).withReleaseQueued fits inUse unheld absent
    refine queued.grant owns inUse unheld (iff_of_true ?_ ?_)
    · exact mem_append_right _ (mem_singleton_self released)
    · exact congrArg some (D.pubRelPkid_pubRel released)

end

theorem inUse_restoring (f : Flows D) (request : PersistedRequest P) :
    (f.restoring request).outboundPkidInUse =
      f.outboundPkidInUse.growAndInsert request.pkid.toNat := by
  cases request <;> rfl

/-- **The flows restored from a checkpoint are tracked, with its requests in the pool.** -/
theorem restored (tracked : f.Tracked pool) {replay : List (PersistedRequest P)}
    (valid : ∀ request ∈ replay, request.Valid) (nodup : (replay.map PersistedRequest.pkid).Nodup)
    (free : ∀ request ∈ replay, request.pkid.toNat ∉ f.outboundPkidInUse) :
    (f.restored replay).Tracked (pool ++ replay.map PersistedRequest.toRequest) := by
  induction replay generalizing f pool with
  | nil =>
    rw [map_nil, append_nil]
    exact tracked
  | cons request rest ih =>
    obtain ⟨once, nodupRest⟩ := nodup_cons.mp nodup
    have step := tracked.restoring (valid request mem_cons_self) (free request mem_cons_self)
    rw [map_cons, append_cons]
    refine ih step (fun other member => valid other (mem_cons_of_mem request member)) nodupRest ?_
    intro other member
    rw [inUse_restoring, mem_growAndInsert, not_or]
    refine ⟨fun same => once ?_, free other (mem_cons_of_mem request member)⟩
    exact mem_map.mpr ⟨other, member, UInt16.toNat_inj.mp same⟩

end Tracked

/-- **Restoring a valid checkpoint into new flows does not panic and reserves its identifiers.** -/
theorem restoreReplay_ok (maxInflight : Nat) {replay : List (PersistedRequest P)}
    (valid : ∀ request ∈ replay, request.Valid) (nodup : (replay.map PersistedRequest.pkid).Nodup) :
    ∃ g, (new maxInflight : Flows D).restoreReplay replay = .ok g ∧
      g.recounted = (new maxInflight).restored replay := by
  have full : (new maxInflight : Flows D).outboundPkidInUse.length = fullPacketIdentifierLen := rfl
  have free : ∀ request ∈ replay,
      request.pkid.toNat ∉ (new maxInflight : Flows D).outboundPkidInUse := by
    simp [new, PacketIds.new]
  obtain ⟨g, ran, counted⟩ := (new maxInflight).restoreRequests_ok full nodup free
  have ids : g.recounted.toPacketIds.Valid := by
    rw [counted]
    exact ((tracked_new maxInflight).restored valid nodup free).ids
  have zeroFits : 0 < g.outboundPkidInUse.length := ids.toNat_lt 0
  have zero : 0 ∉ g.outboundPkidInUse := ids.zero
  refine ⟨g, ?_, counted⟩
  refine bind_ok.mpr ⟨g, ran, bind_ok.mpr ⟨_, set_false_ok zeroFits, ?_⟩⟩
  rw [remove_of_notMem zero]
  rfl

end Flows

end Rumqtt
