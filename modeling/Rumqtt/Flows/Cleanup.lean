/-
**Clean-up of the outbound flows.**

`Tracked.clean_ok` says what a clean-up for reconnection returns: the stored publishes in send order
with DUP set, the parked publish, a PUBREL for every active release in receipt order, and the control
requests. `Tracked.cleaned` says that the emptied flows are tracked again once those requests are in
the replay pool. `Tracked.shrinkTo` does the same for the shrinking of drained flows, and
`Tracked.discard` for a replay request that is given up.
-/

import Rumqtt.Flows.Steps

namespace Rumqtt.Flows

open FixedBitSet Checked SlotVec List

variable {D : Dialect}

/-! ### What a clean-up returns -/

section

variable (f : Flows D)

/-- The stored publish under an identifier, as a request to send it again. -/
def publishRequest (pkid : PacketId) : Option (CleanRequest D) :=
  (f.outgoingPub.lookup pkid.toNat).map fun publish =>
    ⟨.publish (markDup publish), (f.outgoingPubNotice.lookup pkid.toNat).map .publish, true⟩

/-- The stored publishes, in send order. -/
def publishRequests : List (CleanRequest D) := f.outgoingPubOrder.filterMap f.publishRequest

/-- The active releases, in receipt order. -/
def releaseRequests : List (CleanRequest D) :=
  f.outgoingRelOrder.map fun pkid =>
    ⟨.pubRel (D.pubRel pkid), (f.outgoingRelNotice.lookup pkid.toNat).map .publish, true⟩

/-- The parked publish as a request that owns no identifier yet. -/
def parkedRequests : List (CleanRequest D) :=
  f.collision.toList.map fun publish => ⟨.publish publish, f.collisionNotice.map .publish, false⟩

/-- Everything a clean-up returns, in its order. -/
def cleanRequests : List (CleanRequest D) :=
  f.publishRequests ++ f.parkedRequests ++ f.releaseRequests ++ f.subscribeRequests ++
    f.unsubscribeRequests

/-- The requests that a clean-up hands out for replay: everything but the parked publish. -/
def replayRequests : List (CleanRequest D) :=
  f.publishRequests ++ f.releaseRequests ++ f.subscribeRequests ++ f.unsubscribeRequests

/-- The flows after a clean-up for reconnection. -/
def cleaned : Flows D :=
  { f with
    outgoingPub := f.outgoingPub.clearAll (f.outgoingPubOrder.map (·.toNat))
    outgoingPubOrder := []
    outgoingPubNotice := f.outgoingPubNotice.clearAll (f.outgoingPubOrder.map (·.toNat))
    outgoingRel := f.outgoingRel.clear
    outgoingRelOrder := []
    outgoingRelReplay := (f.outgoingRelOrder.map (·.toNat)).foldl .growAndInsert f.outgoingRelReplay
    outgoingRelReplayOrder := f.outgoingRelReplayOrder ++ f.outgoingRelOrder
    outgoingRelNotice := f.outgoingRelNotice.clearAll (f.outgoingRelOrder.map (·.toNat))
    collision := none
    collisionNotice := if f.collision.isSome then none else f.collisionNotice
    pendingSubscribe := ∅
    pendingUnsubscribe := ∅ }

end

namespace Tracked

variable {f : Flows D} {pool : List (Request D)} {pkid : PacketId}

theorem fillPubOrder_ok (tracked : f.Tracked pool) : f.fillPubOrder = .ok f.outgoingPubOrder := by
  refine foldlM_unchanged fun index member => ?_
  obtain ⟨above, below⟩ := List.mem_range'_1.mp member
  have small : index < fullPacketIdentifierLen := by
    have fits := tracked.lengthLe
    omega
  have index_eq : (UInt16.ofNat index).toNat = index := UInt16.toNat_ofNat_of_lt' small
  have listed : (f.outgoingPub.lookup index).isSome → UInt16.ofNat index ∈ f.outgoingPubOrder := by
    rw [tracked.mem_pubOrder, index_eq]
    exact id
  simp only [Nat.not_le.mpr small, if_false]
  rw [if_neg fun missing => missing.2 (listed missing.1)]

theorem fillRelOrder_ok (tracked : f.Tracked pool) : f.fillRelOrder = .ok f.outgoingRelOrder := by
  refine foldlM_unchanged fun index member => ?_
  have small : index < fullPacketIdentifierLen := by
    have inside := f.outgoingRel.bounded index member
    rw [tracked.relLength] at inside
    exact Nat.lt_of_lt_of_le inside tracked.lengthLe
  have index_eq : (UInt16.ofNat index).toNat = index := UInt16.toNat_ofNat_of_lt' small
  have listed : UInt16.ofNat index ∈ f.outgoingRelOrder := by
    rw [tracked.mem_relOrder, index_eq]
    exact member
  simp only [Nat.not_le.mpr small, if_false]
  rw [if_neg fun missing => missing listed]

end Tracked

/-! ### The three loops -/

theorem drainPublishes_ok (f : Flows D) (sameLength : f.outgoingPubNotice.length = f.outgoingPub.length)
    {order : List PacketId} (nodup : order.Nodup)
    (held : ∀ pkid ∈ order, (f.outgoingPub.lookup pkid.toNat).isSome) :
    f.drainPublishes order = .ok (order.filterMap f.publishRequest,
      { f with
        outgoingPub := f.outgoingPub.clearAll (order.map (·.toNat))
        outgoingPubNotice := f.outgoingPubNotice.clearAll (order.map (·.toNat)) }) := by
  induction order generalizing f with
  | nil => rfl
  | cons pkid rest ih =>
    obtain ⟨absent, nodup⟩ := nodup_cons.mp nodup
    obtain ⟨publish, here⟩ := Option.isSome_iff_exists.mp (held pkid mem_cons_self)
    have fits := SlotVec.lt_length_of_lookup here
    have noticeFits : pkid.toNat < f.outgoingPubNotice.length := sameLength ▸ fits
    have apart : ∀ other ∈ rest, other.toNat ≠ pkid.toNat := fun other member same =>
      absent (UInt16.toNat_inj.mp same ▸ member)
    -- the rest of the loop runs on the flows without this publish
    have tail := ih
      { f with
        outgoingPub := f.outgoingPub.write pkid.toNat none
        outgoingPubNotice := f.outgoingPubNotice.write pkid.toNat none }
      (by simp [sameLength]) nodup
      (fun other member => by
        rw [lookup_write_of_ne _ (apart other member)]
        exact held other (mem_cons_of_mem pkid member))
    have unchanged : rest.filterMap (publishRequest
        { f with
          outgoingPub := f.outgoingPub.write pkid.toNat none
          outgoingPubNotice := f.outgoingPubNotice.write pkid.toNat none }) =
        rest.filterMap f.publishRequest := by
      refine filterMap_congr fun other member => ?_
      simp only [publishRequest, lookup_write_of_ne _ (apart other member)]
    have head : f.publishRequest pkid = some ⟨.publish (markDup publish),
        (f.outgoingPubNotice.lookup pkid.toNat).map .publish, true⟩ := by
      simp [publishRequest, here]
    rw [unchanged] at tail
    simp only [drainPublishes, take_ok fits, take_ok noticeFits, here,
      ok_bind, tail, pure_eq, filterMap_cons, head, map_cons,
      SlotVec.clearAll_cons]

theorem drainReleases_ok (f : Flows D) {order : List PacketId} (nodup : order.Nodup)
    (fits : ∀ pkid ∈ order, pkid.toNat < f.outgoingRelNotice.length) :
    f.drainReleases order = .ok
      (order.map (fun pkid => ⟨.pubRel (D.pubRel pkid),
        (f.outgoingRelNotice.lookup pkid.toNat).map .publish, true⟩),
      { f with outgoingRelNotice := f.outgoingRelNotice.clearAll (order.map (·.toNat)) }) := by
  induction order generalizing f with
  | nil => rfl
  | cons pkid rest ih =>
    obtain ⟨absent, nodup⟩ := nodup_cons.mp nodup
    have apart : ∀ other ∈ rest, other.toNat ≠ pkid.toNat := fun other member same =>
      absent (UInt16.toNat_inj.mp same ▸ member)
    have tail := ih { f with outgoingRelNotice := f.outgoingRelNotice.write pkid.toNat none } nodup
      (fun other member => by
        rw [length_write]
        exact fits other (mem_cons_of_mem pkid member))
    have unchanged : (rest.map fun other => (⟨.pubRel (D.pubRel other),
          ((f.outgoingRelNotice.write pkid.toNat none).lookup other.toNat).map .publish, true⟩ :
            CleanRequest D)) =
        rest.map fun other => ⟨.pubRel (D.pubRel other),
          (f.outgoingRelNotice.lookup other.toNat).map .publish, true⟩ := by
      refine map_congr_left fun other member => ?_
      rw [lookup_write_of_ne _ (apart other member)]
    rw [unchanged] at tail
    simp only [drainReleases, SlotVec.get?_of_lt (fits pkid mem_cons_self),
      expect_some, ok_bind, tail, pure_eq, map_cons,
      SlotVec.clearAll_cons]

theorem queueReleaseReplay_ok (f : Flows D) {order : List PacketId} (nodup : order.Nodup)
    (fits : ∀ pkid ∈ order, pkid.toNat < f.outgoingRelReplay.length)
    (fresh : ∀ pkid ∈ order, pkid ∉ f.outgoingRelReplayOrder) :
    order.foldlM queueReleaseReplay f = .ok
      { f with
        outgoingRelReplay := (order.map (·.toNat)).foldl .growAndInsert f.outgoingRelReplay
        outgoingRelReplayOrder := f.outgoingRelReplayOrder ++ order } := by
  induction order generalizing f with
  | nil => simp
  | cons pkid rest ih =>
    obtain ⟨absent, nodup⟩ := nodup_cons.mp nodup
    have here := fits pkid mem_cons_self
    have step : f.queueReleaseReplay pkid = .ok
        { f with
          outgoingRelReplay := f.outgoingRelReplay.growAndInsert pkid.toNat
          outgoingRelReplayOrder := f.outgoingRelReplayOrder ++ [pkid] } := by
      simp [queueReleaseReplay, insert_ok here, fresh pkid mem_cons_self]
    rw [foldlM_cons, step, ok_bind, ih _ nodup]
    · simp
    · intro other member
      have := fits other (mem_cons_of_mem pkid member)
      simp only [length_growAndInsert]
      omega
    · intro other member
      rw [mem_append, mem_singleton]
      rintro (old | rfl)
      · exact fresh other (mem_cons_of_mem pkid member) old
      · exact absent member

theorem drainCollision_eq (f : Flows D) : f.drainCollision = (f.parkedRequests,
    { f with
      collision := none
      collisionNotice := if f.collision.isSome then none else f.collisionNotice }) := by
  obtain ⟨ids, pub, order, notices, rel, relOrder, replay, replayOrder, relNotices, collision, notice,
    subscribes, unsubscribes⟩ := f
  cases collision <;> rfl

/-! ### The clean-up as a whole -/

namespace Tracked

variable {f : Flows D} {pool : List (Request D)} {pkid : PacketId}

theorem relNotice_fits (tracked : f.Tracked pool) :
    ∀ pkid ∈ f.outgoingRelOrder, pkid.toNat < f.outgoingRelNotice.length :=
  fun _ member => tracked.relNoticeLength ▸ tracked.lt_of_mem_relOrder member

theorem relReplay_fits (tracked : f.Tracked pool) :
    ∀ pkid ∈ f.outgoingRelOrder, pkid.toNat < f.outgoingRelReplay.length :=
  fun _ member => tracked.relReplayLength ▸ tracked.lt_of_mem_relOrder member

theorem relReplay_fresh (tracked : f.Tracked pool) :
    ∀ pkid ∈ f.outgoingRelOrder, pkid ∉ f.outgoingRelReplayOrder := by
  intro pkid member replayed
  have held : f.Holds pool .release pkid := member
  cases tracked.ledger.replay_unheld pkid replayed .release held

/-- **What a clean-up for reconnection returns.** -/
theorem clean_ok (tracked : f.Tracked pool) : f.clean true = .ok (f.cleanRequests, f.cleaned) := by
  have publishes := drainPublishes_ok { f with outgoingPubOrder := [] } tracked.noticeLength
    tracked.pubOrder_nodup fun pkid member => (tracked.mem_pubOrder pkid).mp member
  unfold clean
  rw [tracked.fillPubOrder_ok, ok_bind, tracked.fillRelOrder_ok, ok_bind, publishes, ok_bind]
  simp only [if_true, pure_eq, ok_bind, drainCollision_eq]
  rw [drainReleases_ok _ tracked.relOrder_nodup ?notices, ok_bind,
    queueReleaseReplay_ok _ tracked.relOrder_nodup ?replays ?fresh]
  case notices => exact tracked.relNotice_fits
  case replays => exact tracked.relReplay_fits
  case fresh => exact tracked.relReplay_fresh
  rfl

/-- **All but the parked publish keep their identifiers.** -/
theorem filter_replay_cleanRequests (f : Flows D) :
    f.cleanRequests.filter (·.replay) = f.replayRequests := by
  have publishes : f.publishRequests.filter (·.replay) = f.publishRequests := by
    refine filter_eq_self.mpr fun clean member => ?_
    obtain ⟨pkid, -, found⟩ := mem_filterMap.mp member
    obtain ⟨publish, -, rfl⟩ := Option.map_eq_some_iff.mp found
    rfl
  have parked : f.parkedRequests.filter (·.replay) = [] := by
    refine filter_eq_nil_iff.mpr fun clean member => ?_
    obtain ⟨publish, -, rfl⟩ := mem_map.mp member
    exact Bool.false_ne_true
  have releases : f.releaseRequests.filter (·.replay) = f.releaseRequests := by
    refine filter_eq_self.mpr fun clean member => ?_
    obtain ⟨pkid, -, rfl⟩ := mem_map.mp member
    rfl
  have subscribes : f.subscribeRequests.filter (·.replay) = f.subscribeRequests := by
    refine filter_eq_self.mpr fun clean member => ?_
    obtain ⟨entry, -, rfl⟩ := mem_map.mp member
    rfl
  have unsubscribes : f.unsubscribeRequests.filter (·.replay) = f.unsubscribeRequests := by
    refine filter_eq_self.mpr fun clean member => ?_
    obtain ⟨entry, -, rfl⟩ := mem_map.mp member
    rfl
  simp only [cleanRequests, filter_append, publishes, parked, releases, subscribes,
    unsubscribes, append_nil, replayRequests]

/-! ### The identifiers handed to the pool -/

@[simp] theorem markDup_pkid (publish : Publish D) : (markDup publish).pkid = publish.pkid := by
  unfold markDup
  split <;> rfl

@[simp] theorem markDup_qos (publish : Publish D) : (markDup publish).qos = publish.qos := by
  unfold markDup
  split <;> rfl

theorem publishRequest_replayPkid (tracked : f.Tracked pool) (member : pkid ∈ f.outgoingPubOrder) :
    ∃ clean, f.publishRequest pkid = some clean ∧ clean.request.replayPkid = some pkid := by
  obtain ⟨publish, held⟩ := Option.isSome_iff_exists.mp ((tracked.mem_pubOrder pkid).mp member)
  obtain ⟨same, acked⟩ := tracked.stored pkid publish held
  refine ⟨_, by simp [publishRequest, held]; rfl, ?_⟩
  simp [Request.replayPkid, acked, same]

theorem poolIds_publishRequests (tracked : f.Tracked pool) :
    poolIds (f.publishRequests.map (·.request)) = f.outgoingPubOrder := by
  have loop : ∀ order : List PacketId, (∀ pkid ∈ order, pkid ∈ f.outgoingPubOrder) →
      poolIds ((order.filterMap f.publishRequest).map (·.request)) = order := by
    intro order
    induction order with
    | nil => intro _; rfl
    | cons pkid rest ih =>
      intro inside
      obtain ⟨clean, found, owns⟩ := tracked.publishRequest_replayPkid (inside pkid mem_cons_self)
      have tail := ih fun other member => inside other (mem_cons_of_mem pkid member)
      rw [filterMap_cons, found, map_cons, poolIds, filterMap_cons, owns]
      exact congrArg (pkid :: ·) tail
  exact loop f.outgoingPubOrder fun _ member => member

theorem poolIds_releaseRequests (f : Flows D) :
    poolIds (f.releaseRequests.map (·.request)) = f.outgoingRelOrder := by
  simp [poolIds, releaseRequests, filterMap_map, Function.comp_def, Request.replayPkid,
    D.pubRelPkid_pubRel]

theorem poolIds_subscribeRequests (f : Flows D) :
    poolIds (f.subscribeRequests.map (·.request)) = f.pendingSubscribe.keys := by
  simp [poolIds, subscribeRequests, filterMap_map, Function.comp_def, Request.replayPkid,
    ← Std.TreeMap.map_fst_toList_eq_keys, List.filterMap_eq_map']

theorem poolIds_unsubscribeRequests (f : Flows D) :
    poolIds (f.unsubscribeRequests.map (·.request)) = f.pendingUnsubscribe.keys := by
  simp [poolIds, unsubscribeRequests, filterMap_map, Function.comp_def, Request.replayPkid,
    ← Std.TreeMap.map_fst_toList_eq_keys, List.filterMap_eq_map']

section

variable (tracked : f.Tracked pool)
include tracked

/-- **A clean-up hands out every held identifier once**: publishes, releases, control requests. -/
theorem poolIds_replayRequests :
    poolIds (f.replayRequests.map (·.request)) = f.outgoingPubOrder ++ f.outgoingRelOrder ++
      f.pendingSubscribe.keys ++ f.pendingUnsubscribe.keys := by
  simp only [replayRequests, map_append, poolIds_append, tracked.poolIds_publishRequests,
    poolIds_releaseRequests, poolIds_subscribeRequests, poolIds_unsubscribeRequests]

theorem mem_poolIds_replayRequests : pkid ∈ poolIds (f.replayRequests.map (·.request)) ↔
      ∃ holder, holder ≠ .replay ∧ f.Holds pool holder pkid := by
  rw [tracked.poolIds_replayRequests]
  simp only [mem_append, Std.TreeMap.mem_keys]
  constructor
  · rintro (((member | member) | member) | member)
    · exact ⟨.publish, by decide, member⟩
    · exact ⟨.release, by decide, member⟩
    · exact ⟨.subscribe, by decide, member⟩
    · exact ⟨.unsubscribe, by decide, member⟩
  · rintro ⟨holder, other, held⟩
    cases holder with
    | publish => exact .inl (.inl (.inl held))
    | release => exact .inl (.inl (.inr held))
    | subscribe => exact .inl (.inr held)
    | unsubscribe => exact .inr held
    | replay => exact absurd rfl other

theorem nodup_replayRequests :
    (poolIds (f.replayRequests.map (·.request))).Nodup := by
  have apart : ∀ {first second : Holder} {pkid other : PacketId}, first ≠ second →
      f.Holds pool first pkid → f.Holds pool second other → pkid ≠ other := by
    rintro first second pkid _ different held held' rfl
    exact different (tracked.ledger.exclusive held held')
  rw [tracked.poolIds_replayRequests]
  refine nodup_append.mpr ⟨nodup_append.mpr ⟨nodup_append.mpr
    ⟨tracked.pubOrder_nodup, tracked.relOrder_nodup, ?_⟩, Std.TreeMap.nodup_keys, ?_⟩,
    Std.TreeMap.nodup_keys, ?_⟩
  · intro pkid member other member'
    have held : f.Holds pool .publish pkid := member
    have held' : f.Holds pool .release other := member'
    exact apart (by decide) held held'
  · intro pkid member other member'
    have held' : f.Holds pool .subscribe other := Std.TreeMap.mem_keys.mp member'
    rcases mem_append.mp member with member | member
    · have held : f.Holds pool .publish pkid := member
      exact apart (by decide) held held'
    · have held : f.Holds pool .release pkid := member
      exact apart (by decide) held held'
  · intro pkid member other member'
    have held' : f.Holds pool .unsubscribe other := Std.TreeMap.mem_keys.mp member'
    rcases mem_append.mp member with member | member
    · rcases mem_append.mp member with member | member
      · have held : f.Holds pool .publish pkid := member
        exact apart (by decide) held held'
      · have held : f.Holds pool .release pkid := member
        exact apart (by decide) held held'
    · have held : f.Holds pool .subscribe pkid := Std.TreeMap.mem_keys.mp member
      exact apart (by decide) held held'

/-- Among the requests handed out, the PUBRELs are those of the active releases. -/
theorem replayRequests_kind {request : Request D}
    (member : request ∈ f.replayRequests.map (·.request)) (owns : request.replayPkid = some pkid) :
    pkid ∈ f.outgoingRelOrder ↔ request.pubRelPkid? = some pkid := by
  have apart : ∀ holder, holder ≠ .release → f.Holds pool holder pkid → pkid ∉ f.outgoingRelOrder := by
    intro holder different held inRel
    have held' : f.Holds pool .release pkid := inRel
    exact different (tracked.ledger.exclusive held held')
  simp only [replayRequests, map_append, mem_append] at member
  rcases member with ((member | member) | member) | member
  · have held : f.Holds pool .publish pkid := by
      show pkid ∈ f.outgoingPubOrder
      rw [← tracked.poolIds_publishRequests]
      exact mem_poolIds.mpr ⟨request, member, owns⟩
    obtain ⟨clean, inside, rfl⟩ := mem_map.mp member
    obtain ⟨source, -, found⟩ := mem_filterMap.mp inside
    obtain ⟨publish, -, rfl⟩ := Option.map_eq_some_iff.mp found
    exact iff_of_false (apart .publish (by decide) held) (by simp [Request.pubRelPkid?])
  · have inRel : pkid ∈ f.outgoingRelOrder := by
      rw [← poolIds_releaseRequests]
      exact mem_poolIds.mpr ⟨request, member, owns⟩
    obtain ⟨clean, inside, rfl⟩ := mem_map.mp member
    obtain ⟨source, -, rfl⟩ := mem_map.mp inside
    exact iff_of_true inRel owns
  · have held : f.Holds pool .subscribe pkid := by
      show pkid ∈ f.pendingSubscribe
      rw [← Std.TreeMap.mem_keys, ← poolIds_subscribeRequests]
      exact mem_poolIds.mpr ⟨request, member, owns⟩
    obtain ⟨clean, inside, rfl⟩ := mem_map.mp member
    obtain ⟨source, -, rfl⟩ := mem_map.mp inside
    exact iff_of_false (apart .subscribe (by decide) held) (by simp [Request.pubRelPkid?])
  · have held : f.Holds pool .unsubscribe pkid := by
      show pkid ∈ f.pendingUnsubscribe
      rw [← Std.TreeMap.mem_keys, ← poolIds_unsubscribeRequests]
      exact mem_poolIds.mpr ⟨request, member, owns⟩
    obtain ⟨clean, inside, rfl⟩ := mem_map.mp member
    obtain ⟨source, -, rfl⟩ := mem_map.mp inside
    exact iff_of_false (apart .unsubscribe (by decide) held) (by simp [Request.pubRelPkid?])

/-- After a clean-up only the pool holds identifiers: those it had and those handed out. -/
theorem holds_cleaned {holder : Holder} :
    f.cleaned.Holds (pool ++ f.replayRequests.map (·.request)) holder pkid ↔
      holder = .replay ∧ ∃ old, f.Holds pool old pkid := by
  cases holder with
  | publish => simp [Holds, Flows.cleaned]
  | release => simp [Holds, Flows.cleaned]
  | subscribe => simp [Holds, Flows.cleaned]
  | unsubscribe => simp [Holds, Flows.cleaned]
  | replay =>
    show pkid ∈ poolIds _ ↔ _
    rw [poolIds_append, mem_append, tracked.mem_poolIds_replayRequests]
    constructor
    · rintro (inPool | ⟨old, -, held⟩)
      · exact ⟨rfl, .replay, inPool⟩
      · exact ⟨rfl, old, held⟩
    · rintro ⟨-, old, held⟩
      by_cases isReplay : old = .replay
      · subst isReplay
        exact .inl held
      · exact .inr ⟨old, isReplay, held⟩

end

theorem toNat_mem_map {order : List PacketId} :
    pkid.toNat ∈ order.map (·.toNat) ↔ pkid ∈ order := by
  constructor
  · intro member
    obtain ⟨other, inside, same⟩ := mem_map.mp member
    exact UInt16.toNat_inj.mp same ▸ inside
  · exact mem_map_of_mem

/-- **The flows after a clean-up are tracked, with the requests handed out in the pool.** -/
theorem cleaned (tracked : f.Tracked pool) :
    f.cleaned.Tracked (pool ++ f.replayRequests.map (·.request)) := by
  have emptied : ∀ pkid : PacketId, f.cleaned.outgoingPub.lookup pkid.toNat = none := by
    intro pkid
    simp only [Flows.cleaned, lookup_clearAll, toNat_mem_map, tracked.mem_pubOrder]
    split
    · rfl
    · rename_i absent
      simpa using absent
  have fits : ∀ bit ∈ f.outgoingRelOrder.map (·.toNat), bit < f.outgoingRelReplay.length := by
    intro bit member
    obtain ⟨pkid, inside, rfl⟩ := mem_map.mp member
    exact tracked.relReplayLength ▸ tracked.lt_of_mem_relOrder inside
  exact { tracked with
    noticeLength := by simp [Flows.cleaned, tracked.noticeLength]
    relNoticeLength := by simp [Flows.cleaned, tracked.relNoticeLength]
    relLength := by simp [Flows.cleaned, tracked.relLength]
    relReplayLength := by
      simp only [Flows.cleaned, length_foldl_growAndInsert _ fits,
        length_clearAll, tracked.relReplayLength]
    lengthLe := by simp [Flows.cleaned, tracked.lengthLe]
    mem_pubOrder := by
      intro pkid
      rw [emptied]
      simp [Flows.cleaned]
    mem_relOrder := by
      intro pkid
      simp [Flows.cleaned]
    mem_relReplayOrder := by
      intro pkid
      simp only [Flows.cleaned, mem_append, mem_foldl_growAndInsert,
        toNat_mem_map, tracked.mem_relReplayOrder]
    pubOrder_nodup := nodup_nil
    relOrder_nodup := nodup_nil
    relReplayOrder_nodup := by
      refine nodup_append.mpr ⟨tracked.relReplayOrder_nodup, tracked.relOrder_nodup, ?_⟩
      rintro pkid replayed _ active rfl
      have held : f.Holds pool .release pkid := active
      cases tracked.ledger.replay_unheld pkid replayed .release held
    stored := by
      intro pkid publish held
      rw [emptied] at held
      cases held
    parked := by
      rintro publish ⟨⟩
    subscribed := by simp [Flows.cleaned]
    unsubscribed := by simp [Flows.cleaned]
    ledger := {
      exclusive := by
        intro first second pkid held held'
        rw [tracked.holds_cleaned] at held held'
        rw [held.1, held'.1]
      reserved := by
        intro holder pkid held
        obtain ⟨-, old, held⟩ := tracked.holds_cleaned.mp held
        exact tracked.ledger.reserved old pkid held
      replay_reserved := by
        intro pkid member
        rcases mem_append.mp member with replayed | active
        · exact tracked.ledger.replay_reserved pkid replayed
        · exact tracked.ledger.reserved .release pkid active
      replay_unheld := fun pkid _ holder held => (tracked.holds_cleaned.mp held).1 }
    pool_nodup := by
      rw [poolIds_append]
      refine nodup_append.mpr ⟨tracked.pool_nodup, tracked.nodup_replayRequests, ?_⟩
      rintro pkid inPool _ handed rfl
      obtain ⟨holder, other, held⟩ := tracked.mem_poolIds_replayRequests.mp handed
      have held' : f.Holds pool .replay pkid := inPool
      exact other (tracked.ledger.exclusive held held')
    replay_kind := by
      intro request member pkid owns
      show pkid ∈ f.outgoingRelReplayOrder ++ f.outgoingRelOrder ↔ _
      rw [mem_append]
      rcases mem_append.mp member with inPool | handed
      · have held : f.Holds pool .replay pkid := mem_poolIds.mpr ⟨request, inPool, owns⟩
        have notActive : pkid ∉ f.outgoingRelOrder := fun active => by
          have held' : f.Holds pool .release pkid := active
          cases tracked.ledger.exclusive held held'
        rw [tracked.replay_kind request inPool pkid owns]
        exact or_iff_left notActive
      · have notReplayed : pkid ∉ f.outgoingRelReplayOrder := fun replayed => by
          obtain ⟨holder, other, held⟩ :=
            tracked.mem_poolIds_replayRequests.mp (mem_poolIds.mpr ⟨request, handed, owns⟩)
          exact other (tracked.ledger.replay_unheld pkid replayed holder held)
        rw [tracked.replayRequests_kind handed owns]
        exact or_iff_right notReplayed }

/-! ### Shrinking drained flows -/

theorem not_inUse_of_drained (tracked : f.Tracked pool) (drained : f.drained = true) (bit : Nat) :
    bit ∉ f.outboundPkidInUse := by
  have empty : f.outboundPkidCount = 0 := by
    simp only [Flows.drained, Bool.and_eq_true, beq_iff_eq] at drained
    exact drained.2
  intro member
  have := card_pos member
  rw [← tracked.ids.count] at this
  omega

theorem shrinkTo (tracked : f.Tracked pool) (drained : f.drained = true) {targetLen : Nat}
    (shorter : targetLen ≤ f.outgoingPub.length) : (f.shrinkTo targetLen).Tracked pool := by
  have free := tracked.not_inUse_of_drained drained
  have nobody : ∀ holder pkid, ¬ f.Holds pool holder pkid := fun holder pkid held =>
    free _ (tracked.ledger.reserved holder pkid held)
  have still : ∀ holder pkid, ¬ (f.shrinkTo targetLen).Holds pool holder pkid := by
    intro holder pkid held
    cases holder with
    | publish => exact nobody .publish pkid held
    | subscribe => exact nobody .subscribe pkid held
    | unsubscribe => exact nobody .unsubscribe pkid held
    | replay => exact nobody .replay pkid held
    | release => cases held
  have emptied : ∀ pkid : PacketId, (f.shrinkTo targetLen).outgoingPub.lookup pkid.toNat = none := by
    intro pkid
    have before : ¬ (f.outgoingPub.lookup pkid.toNat).isSome := fun held =>
      nobody .publish pkid ((tracked.mem_pubOrder pkid).mpr held)
    simp only [Flows.shrinkTo, lookup_truncate]
    split
    · simpa using before
    · rfl
  exact { tracked with
    ids := ⟨tracked.ids.length, tracked.ids.count, tracked.ids.zero⟩
    noticeLength := by simp [Flows.shrinkTo, tracked.noticeLength]
    relNoticeLength := by simp [Flows.shrinkTo, tracked.relNoticeLength]
    relLength := by
      simp only [Flows.shrinkTo, length_withCapacity, length_truncate]
      omega
    relReplayLength := by
      simp only [Flows.shrinkTo, length_withCapacity, length_truncate]
      omega
    lengthLe := by
      have := tracked.lengthLe
      simp only [Flows.shrinkTo, length_truncate]
      omega
    mem_pubOrder := by
      intro pkid
      rw [emptied]
      exact iff_of_false (still .publish pkid) (by simp)
    mem_relOrder := fun pkid => by simp [Flows.shrinkTo]
    mem_relReplayOrder := fun pkid => by simp [Flows.shrinkTo]
    relOrder_nodup := nodup_nil
    relReplayOrder_nodup := nodup_nil
    stored := by
      intro pkid publish held
      rw [emptied] at held
      cases held
    ledger := {
      exclusive := fun first _ pkid held => absurd held (still first pkid)
      reserved := fun holder pkid held => absurd held (still holder pkid)
      replay_reserved := fun pkid member => by cases member
      replay_unheld := fun pkid member => by cases member }
    replay_kind := by
      intro request member pkid owns
      exact absurd (mem_poolIds.mpr ⟨request, member, owns⟩) (nobody .replay pkid) }

end Tracked

/-! ### Giving a replay request up -/

/-- A release no longer queued for replay. -/
def withoutReleaseReplay (f : Flows D) (pkid : PacketId) : Flows D :=
  { f with
    outgoingRelReplay := f.outgoingRelReplay.remove pkid.toNat
    outgoingRelReplayOrder := f.outgoingRelReplayOrder.erase pkid }

/-- The flows once a replay request has given its identifier up. -/
def discarded (f : Flows D) (request : Request D) : Flows D :=
  match request.replayPkid with
  | none => f
  | some pkid =>
    if request.pubRelPkid?.isSome then (f.withoutReleaseReplay pkid).withReleased pkid
    else f.withReleased pkid

namespace Tracked

variable {f : Flows D} {pool : List (Request D)} {pkid : PacketId} {request : Request D}

theorem withoutReleaseReplay (tracked : f.Tracked pool) (unheld : f.Unheld pool pkid) :
    (f.withoutReleaseReplay pkid).Tracked pool := by
  have remaining : ∀ other, other ∈ (f.withoutReleaseReplay pkid).outgoingRelReplayOrder ↔
      other ≠ pkid ∧ other ∈ f.outgoingRelReplayOrder :=
    fun other => tracked.relReplayOrder_nodup.mem_erase_iff
  exact { tracked with
    mem_relReplayOrder := by
      intro other
      rw [remaining, tracked.mem_relReplayOrder]
      simp [Flows.withoutReleaseReplay, UInt16.toNat_inj]
    relReplayOrder_nodup := tracked.relReplayOrder_nodup.erase pkid
    ledger := tracked.ledger.mono (fun _ _ held => held) fun other still =>
      ((remaining other).mp still).2
    replay_kind := by
      intro request inPool other owns
      rw [remaining, tracked.replay_kind request inPool other owns]
      refine ⟨And.right, fun kind => ⟨?_, kind⟩⟩
      rintro rfl
      exact unheld .replay (mem_poolIds.mpr ⟨request, inPool, owns⟩) }

/-- A discard of a request that is not a PUBREL releases its identifier. -/
theorem release_of_cons (tracked : f.Tracked (request :: pool)) (owns : request.replayPkid = some pkid)
    (notRelease : request.pubRelPkid? = none) :
    f.release pkid = .ok (f.withReleased pkid) ∧ (f.withReleased pkid).Tracked pool := by
  have member := tracked.inUse_of_cons owns
  refine ⟨tracked.release_ok member, ?_⟩
  exact (tracked.sublist (sublist_cons_self ..)).withReleased member
    (tracked.unheld_of_cons owns) (tracked.notMem_relReplayOrder_of_cons owns notRelease)

/-- **A discarded replay request gives its identifier up, and nothing else changes hands.** -/
theorem discard_ok (tracked : f.Tracked (request :: pool)) :
    f.discardReplayedRequest request = .ok (f.discarded request) ∧
      (f.discarded request).Tracked pool := by
  have unchanged : f.Tracked pool := tracked.sublist (sublist_cons_self ..)
  cases request with
  | publish packet =>
    by_cases unacked : packet.qos = .atMostOnce
    · simp only [discardReplayedRequest, discarded, Request.replayPkid, unacked, if_true]
      exact ⟨rfl, unchanged⟩
    · have owns : (Request.publish packet).replayPkid = some packet.pkid := by
        simp [Request.replayPkid, unacked]
      have result := tracked.release_of_cons owns rfl
      simp only [discardReplayedRequest, discarded, owns, ne_eq, unacked, not_false_eq_true, if_true]
      exact result
  | pubRel packet =>
    have owns : (Request.pubRel packet).replayPkid = some (D.pubRelPkid packet) := rfl
    have replayed := (tracked.mem_relReplayOrder_of_cons owns).mpr rfl
    have fits : (D.pubRelPkid packet).toNat < f.outgoingRelReplay.length :=
      lt_length ((tracked.mem_relReplayOrder _).mp replayed)
    have unheld := tracked.unheld_of_cons owns
    have removed := unchanged.withoutReleaseReplay unheld
    have member := tracked.inUse_of_cons owns
    have result := removed.release_ok member
    refine ⟨?_, removed.withReleased member unheld unchanged.relReplayOrder_nodup.not_mem_erase⟩
    simp only [discardReplayedRequest, set_false_ok fits, ok_bind, discarded, owns]
    exact result
  | subscribe packet => exact tracked.release_of_cons rfl rfl
  | unsubscribe packet => exact tracked.release_of_cons rfl rfl
  | pubAck packet => exact ⟨rfl, unchanged⟩
  | pubRec packet => exact ⟨rfl, unchanged⟩
  | pubComp packet => exact ⟨rfl, unchanged⟩
  | pingReq => exact ⟨rfl, unchanged⟩
  | pingResp => exact ⟨rfl, unchanged⟩
  | subAck packet => exact ⟨rfl, unchanged⟩
  | unsubAck packet => exact ⟨rfl, unchanged⟩
  | auth packet => exact ⟨rfl, unchanged⟩
  | disconnect packet => exact ⟨rfl, unchanged⟩
  | disconnectNow packet => exact ⟨rfl, unchanged⟩
  | disconnectWithTimeout packet timeout => exact ⟨rfl, unchanged⟩
  | disconnectAfterQueued packet => exact ⟨rfl, unchanged⟩
  | disconnectAfterQueuedWithTimeout packet timeout => exact ⟨rfl, unchanged⟩

end Tracked

/-! ### Giving all control requests up -/

theorem releaseAll_total {f : Flows D} (valid : f.toPacketIds.Valid) (pkids : List PacketId) :
    ∃ g, f.releaseAll pkids = .ok g ∧ g.toPacketIds.Valid := by
  induction pkids generalizing f with
  | nil => exact ⟨f, rfl, valid⟩
  | cons pkid rest ih =>
    obtain ⟨ids, ran, validAfter⟩ := PacketIds.releaseOutboundPkid_total valid pkid
    have released : f.release pkid = .ok { f with toPacketIds := ids } := by
      simp [release, ran]
    obtain ⟨g, ranRest, validRest⟩ := ih (f := { f with toPacketIds := ids }) validAfter
    refine ⟨g, ?_, validRest⟩
    rw [releaseAll, foldlM_cons, released, ok_bind]
    exact ranRest

theorem drainTrackedRequestsAsFailed_total {f : Flows D} (valid : f.toPacketIds.Valid) :
    ∃ result, f.drainTrackedRequestsAsFailed = .ok result := by
  obtain ⟨g, ran, validAfter⟩ := releaseAll_total valid f.pendingSubscribe.keys
  obtain ⟨h, ranAgain, -⟩ := releaseAll_total validAfter g.pendingUnsubscribe.keys
  exact ⟨_, bind_ok.mpr ⟨g, ran, bind_ok.mpr ⟨h, ranAgain, rfl⟩⟩⟩

/-! ### New flows -/

theorem warmTrackingLen_le (maxInflight : Nat) : warmTrackingLen maxInflight ≤ 33 := by
  unfold warmTrackingLen warmTrackingSlots
  dsimp only
  split <;> omega

/-- **The flows of a new state are tracked with an empty pool.** -/
theorem tracked_new (maxInflight : Nat) : (new maxInflight : Flows D).Tracked [] where
  ids := PacketIds.valid_new
  noticeLength := by simp [new]
  relNoticeLength := by simp [new]
  relLength := by simp [new]
  relReplayLength := by simp [new]
  lengthLe := by
    have := warmTrackingLen_le maxInflight
    simp only [new, length_withLength, fullPacketIdentifierLen]
    omega
  mem_pubOrder := by simp [new]
  mem_relOrder := by simp [new]
  mem_relReplayOrder := by simp [new]
  pubOrder_nodup := nodup_nil
  relOrder_nodup := nodup_nil
  relReplayOrder_nodup := nodup_nil
  stored := by simp [new]
  parked := by simp [new]
  subscribed := by simp [new]
  unsubscribed := by simp [new]
  ledger := {
    exclusive := by
      intro first _ _ held
      cases first <;> simp [Holds, new] at held
    reserved := by
      intro holder _ held
      cases holder <;> simp [Holds, new] at held
    replay_reserved := by simp [new]
    replay_unheld := by simp [new] }
  pool_nodup := nodup_nil
  replay_kind := by simp

end Rumqtt.Flows
