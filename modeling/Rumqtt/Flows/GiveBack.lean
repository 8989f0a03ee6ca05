/-
**A clean-up that gives the identifiers back.**

The public `clean` of both state machines is for callers that drive the state machine themselves. It
returns the same requests as the clean-up before a reconnect, but publishes and control requests do
not keep their identifiers; only releases do.

* `Tracked.clean_false_ok`: it does not panic, returns every flow and leaves `givenBack`.
* `Tracked.givenBack`: the flows it leaves are tracked, and the pool is what it was before.
-/

import Rumqtt.Flows.View

namespace Rumqtt

open Checked List

namespace PacketIds

/-- The table with a list of identifiers released. -/
def releasedAll (ids : PacketIds) (pkids : List PacketId) : PacketIds := pkids.foldl released ids

end PacketIds

namespace Flows

variable {D : Dialect}

/-- The flows with a list of identifiers given back. -/
def withReleasedAll (f : Flows D) (pkids : List PacketId) : Flows D :=
  { f with toPacketIds := f.toPacketIds.releasedAll pkids }

/-- The identifiers that the public clean-up gives back. -/
def returnedIds (f : Flows D) : List PacketId :=
  f.outgoingPubOrder ++ f.pendingSubscribe.keys ++ f.pendingUnsubscribe.keys

/-- The flows after a clean-up that gives the identifiers back. -/
def givenBack (f : Flows D) : Flows D := f.cleaned.withReleasedAll f.returnedIds

/-- What is returned without an identifier of its own: everything but the releases. -/
def returnedRequests (f : Flows D) : List (CleanRequest D) :=
  f.publishRequests ++ f.subscribeRequests ++ f.unsubscribeRequests

/-- Releasing looks at the reservation table only. -/
theorem releaseAll_congr {f g : Flows D} {pkids : List PacketId} {ids : PacketIds}
    (same : g.toPacketIds = f.toPacketIds)
    (released : f.releaseAll pkids = .ok { f with toPacketIds := ids }) :
    g.releaseAll pkids = .ok { g with toPacketIds := ids } := by
  have table : ∀ (pkids : List PacketId) (f : Flows D), f.releaseAll pkids =
      (pkids.foldlM PacketIds.releaseOutboundPkid f.toPacketIds).map
        fun ids => { f with toPacketIds := ids } := by
    intro pkids
    induction pkids with
    | nil => intro f; rfl
    | cons pkid rest ih =>
      intro f
      rw [releaseAll, foldlM_cons, foldlM_cons, release]
      cases f.toPacketIds.releaseOutboundPkid pkid with
      | error panic => rfl
      | ok after => exact ih { f with toPacketIds := after }
  rw [table] at released ⊢
  rw [same]
  cases ran : pkids.foldlM PacketIds.releaseOutboundPkid f.toPacketIds with
  | error panic => rw [ran] at released; cases released
  | ok after =>
    rw [ran] at released
    have equal : after = ids := congrArg Flows.toPacketIds (Except.ok.inj released)
    rw [equal]
    rfl

namespace Tracked

variable {f : Flows D} {pool given : List (Request D)} {pkid : PacketId}

/-- **Requests that are given up give their identifiers back**, in order. -/
theorem releaseAll_of_append (tracked : f.Tracked (given ++ pool))
    (plain : ∀ request ∈ given, request.pubRelPkid? = none) :
    f.releaseAll (poolIds given) = .ok (f.withReleasedAll (poolIds given)) ∧
      (f.withReleasedAll (poolIds given)).Tracked pool := by
  induction given generalizing f with
  | nil => exact ⟨rfl, tracked⟩
  | cons request rest ih =>
    have others : ∀ other ∈ rest, other.pubRelPkid? = none :=
      fun other member => plain other (mem_cons_of_mem request member)
    cases owns : request.replayPkid with
    | none =>
      rw [poolIds, filterMap_cons_none owns]
      exact ih (tracked.sublist (sublist_cons_self ..)) others
    | some pkid =>
      obtain ⟨released, after⟩ := tracked.release_of_cons owns (plain request mem_cons_self)
      rw [poolIds, filterMap_cons_some owns, releaseAll, foldlM_cons, released, ok_bind]
      exact ih after others

/-- No request that is returned without an identifier is a PUBREL. -/
theorem returnedRequests_plain (f : Flows D) {request : Request D}
    (member : request ∈ f.returnedRequests.map (·.request)) : request.pubRelPkid? = none := by
  simp only [returnedRequests, map_append, mem_append] at member
  rcases member with (publish | subscribe) | unsubscribe
  · obtain ⟨clean, found, rfl⟩ := mem_map.mp publish
    obtain ⟨pkid, -, stored⟩ := mem_filterMap.mp found
    obtain ⟨packet, -, rfl⟩ := Option.map_eq_some_iff.mp stored
    rfl
  · obtain ⟨clean, found, rfl⟩ := mem_map.mp subscribe
    obtain ⟨entry, -, rfl⟩ := mem_map.mp found
    rfl
  · obtain ⟨clean, found, rfl⟩ := mem_map.mp unsubscribe
    obtain ⟨entry, -, rfl⟩ := mem_map.mp found
    rfl

section

variable (tracked : f.Tracked pool)
include tracked

theorem poolIds_returnedRequests :
    poolIds (f.returnedRequests.map (·.request)) = f.returnedIds := by
  simp only [returnedRequests, map_append, poolIds_append, tracked.poolIds_publishRequests,
    poolIds_subscribeRequests, poolIds_unsubscribeRequests, returnedIds]

/-- A clean-up is tracked by what it returns, releases last. -/
theorem cleaned_returned : f.cleaned.Tracked (f.returnedRequests.map (·.request) ++
      (f.releaseRequests.map (·.request) ++ pool)) := by
  refine tracked.cleaned.perm ?_
  rw [← append_assoc, ← map_append]
  refine perm_append_comm.trans (List.Perm.append_right pool (List.Perm.map _ ?_))
  -- the releases move behind the control requests
  simp only [replayRequests, returnedRequests, append_assoc]
  refine List.Perm.append_left _ (perm_append_comm.trans ?_)
  rw [append_assoc]

/-- **Giving the identifiers back succeeds**, and only the releases keep theirs. -/
theorem givenBack_ok :
    f.cleaned.releaseAll f.returnedIds = .ok f.givenBack ∧ f.givenBack.Tracked pool := by
  obtain ⟨released, after⟩ :=
    tracked.cleaned_returned.releaseAll_of_append fun _ member => returnedRequests_plain f member
  rw [tracked.poolIds_returnedRequests] at released after
  exact ⟨released, after.sublist (sublist_append_right ..)⟩

theorem givenBack : f.givenBack.Tracked pool := tracked.givenBack_ok.2

/-- The identifiers are given back in three steps, each of which succeeds. -/
theorem releaseAll_returnedIds : ∃ first second : PacketIds,
      f.cleaned.releaseAll f.outgoingPubOrder = .ok { f.cleaned with toPacketIds := first } ∧
      releaseAll { f.cleaned with toPacketIds := first } f.pendingSubscribe.keys =
        .ok { f.cleaned with toPacketIds := second } ∧
      releaseAll { f.cleaned with toPacketIds := second } f.pendingUnsubscribe.keys =
        .ok f.givenBack := by
  obtain ⟨released, -⟩ := tracked.givenBack_ok
  have start := tracked.cleaned_returned
  have plain : ∀ (part : List (CleanRequest D)) {request : Request D},
      part ⊆ f.returnedRequests → request ∈ part.map (·.request) → request.pubRelPkid? = none :=
    fun _ _ inside member => returnedRequests_plain f (map_subset _ inside member)
  simp only [returnedRequests, map_append, append_assoc] at start
  obtain ⟨publishes, afterPublishes⟩ := start.releaseAll_of_append fun _ member =>
    plain f.publishRequests (by simp [returnedRequests]) member
  obtain ⟨subscribes, -⟩ := afterPublishes.releaseAll_of_append fun _ member =>
    plain f.subscribeRequests (by simp [returnedRequests]) member
  rw [tracked.poolIds_publishRequests] at publishes subscribes
  rw [poolIds_subscribeRequests] at subscribes
  refine ⟨_, _, publishes, subscribes, ?_⟩
  rw [returnedIds, releaseAll, foldlM_append, foldlM_append] at released
  obtain ⟨both, ran, rest⟩ := bind_ok.mp released
  obtain ⟨one, ranOne, ranTwo⟩ := bind_ok.mp ran
  rw [show one = _ from Except.ok.inj (ranOne.symm.trans publishes)] at ranTwo
  rw [show both = _ from Except.ok.inj (ranTwo.symm.trans subscribes)] at rest
  exact rest

theorem publishIds_publishRequests :
    (f.publishRequests.filterMap fun clean => match clean.request with
      | .publish publish => some publish.pkid
      | _ => none) = f.outgoingPubOrder := by
  refine Eq.trans ?_ tracked.poolIds_publishRequests
  rw [poolIds, filterMap_map]
  refine filterMap_congr fun clean member => ?_
  obtain ⟨pkid, -, found⟩ := mem_filterMap.mp member
  obtain ⟨publish, stored, rfl⟩ := Option.map_eq_some_iff.mp found
  have acked := (tracked.stored pkid publish stored).2
  simp [Request.replayPkid, acked]

/-- **What the public clean-up returns**: the same requests as before a reconnect. -/
theorem clean_false_ok :
    f.clean false = .ok (f.cleanRequests, f.givenBack) := by
  have publishes := drainPublishes_ok { f with outgoingPubOrder := [] } tracked.noticeLength
    tracked.pubOrder_nodup fun pkid member => (tracked.mem_pubOrder pkid).mp member
  obtain ⟨first, second, releasedFirst, releasedSecond, releasedThird⟩ :=
    tracked.releaseAll_returnedIds
  unfold clean
  rw [tracked.fillPubOrder_ok, ok_bind, tracked.fillRelOrder_ok, ok_bind, publishes, ok_bind]
  simp only [Bool.false_eq_true, if_false]
  refine bind_ok.mpr ⟨_, (congrArg (releaseAll _) tracked.publishIds_publishRequests).trans
    (releaseAll_congr (f := f.cleaned) rfl releasedFirst), ?_⟩
  rw [drainCollision_eq]
  dsimp only
  rw [drainReleases_ok _ tracked.relOrder_nodup ?notices, ok_bind,
    queueReleaseReplay_ok _ tracked.relOrder_nodup ?replays ?fresh, ok_bind]
  case notices => exact tracked.relNotice_fits
  case replays => exact tracked.relReplay_fits
  case fresh => exact tracked.relReplay_fresh
  refine bind_ok.mpr ⟨_, releaseAll_congr
    (f := { f.cleaned with toPacketIds := first }) rfl releasedSecond, ?_⟩
  refine bind_ok.mpr ⟨_, releaseAll_congr
    (f := { f.cleaned with toPacketIds := second }) rfl releasedThird, ?_⟩
  rfl

end

end Tracked

end Flows

end Rumqtt
