/-
**The primitive operations on outbound flows keep the tracking invariant.**

For every operation of `Flows` that can panic there is its result when it does not (`withPublish`,
`withoutPublish`, `withRelease`, …), a lemma that it gives this result on tracked flows, and a lemma
that the result is tracked again. A handler of a state machine composes them.
-/

import Rumqtt.Flows.Tracked

namespace Rumqtt.Flows

open FixedBitSet SlotVec

variable {D : Dialect}

theorem nodup_append_singleton {α : Type} {order : List α} {last : α} (nodup : order.Nodup)
    (absent : last ∉ order) : (order ++ [last]).Nodup :=
  List.nodup_append.mpr ⟨nodup, List.nodup_singleton last, fun _ member _ only same =>
    absent (List.mem_singleton.mp only ▸ same ▸ member)⟩

/-! ### The results of the operations -/

section

variable (f : Flows D)

/-- A publish stored under its identifier. -/
def withPublish (publish : Publish D) (notice : Option NoticeId) : Flows D :=
  { f with
    outgoingPub := f.outgoingPub.write publish.pkid.toNat (some publish)
    outgoingPubNotice := f.outgoingPubNotice.write publish.pkid.toNat notice
    outgoingPubOrder := f.outgoingPubOrder ++ [publish.pkid] }

section

variable (pkid : PacketId)

/-- The publish under an identifier taken out. -/
def withoutPublish : Flows D :=
  { f with
    outgoingPub := f.outgoingPub.write pkid.toNat none
    outgoingPubNotice := f.outgoingPubNotice.write pkid.toNat none
    outgoingPubOrder := f.outgoingPubOrder.erase pkid }

/-- An active release added under an identifier. -/
def withRelease (notice : Option NoticeId) : Flows D :=
  { f with
    outgoingRel := f.outgoingRel.growAndInsert pkid.toNat
    outgoingRelNotice := f.outgoingRelNotice.write pkid.toNat notice
    outgoingRelOrder := f.outgoingRelOrder ++ [pkid] }

/-- The active release under an identifier taken out. -/
def withoutRelease : Flows D :=
  { f with
    outgoingRel := f.outgoingRel.remove pkid.toNat
    outgoingRelNotice := f.outgoingRelNotice.write pkid.toNat none
    outgoingRelOrder := f.outgoingRelOrder.erase pkid }

/-- A release moved from the replay set to the active set. -/
def withReleaseResumed : Flows D :=
  { f with
    outgoingRelReplay := f.outgoingRelReplay.remove pkid.toNat
    outgoingRel := f.outgoingRel.growAndInsert pkid.toNat
    outgoingRelReplayOrder := f.outgoingRelReplayOrder.erase pkid
    outgoingRelOrder := f.outgoingRelOrder ++ [pkid] }

/-- A notice kept with a release. -/
def withReleaseNote (notice : Option NoticeId) : Flows D :=
  { f with
    outgoingRelNotice :=
      if notice.isSome || (f.outgoingRelNotice.lookup pkid.toNat).isNone then
        f.outgoingRelNotice.write pkid.toNat notice
      else f.outgoingRelNotice }

/-- An identifier reserved for a flow about to start. -/
def withReserved : Flows D :=
  { f with toPacketIds := f.toPacketIds.reserved pkid }

/-- An identifier given back. -/
def withReleased : Flows D :=
  { f with toPacketIds := f.toPacketIds.released pkid }

/-- Room made and an identifier reserved for a publish that was parked. -/
def unparking : Flows D :=
  (f.withoutCollision.ensureOutgoingTrackingCapacity (pkid.toNat + 1)).withReserved pkid

end

end

namespace Tracked

variable {f : Flows D} {pool : List (Request D)} {pkid : PacketId} {publish : Publish D}

/-! ### The operations do not panic -/

section

variable (tracked : f.Tracked pool)
include tracked

theorem trackPublish_ok (fits : publish.pkid.toNat < f.outgoingPub.length)
    (notice : Option NoticeId) :
    f.trackPublish publish notice = .ok (f.withPublish publish notice) := by
  have noticeFits : publish.pkid.toNat < f.outgoingPubNotice.length := tracked.noticeLength ▸ fits
  simp [trackPublish, store_ok fits, store_ok noticeFits, withPublish]

theorem takePublish_ok (member : pkid ∈ f.outgoingPubOrder) :
    f.takePublish pkid = .ok (.ok (f.outgoingPubNotice.lookup pkid.toNat), f.withoutPublish pkid) := by
  have fits := tracked.lt_of_mem_pubOrder member
  have noticeFits : pkid.toNat < f.outgoingPubNotice.length := tracked.noticeLength ▸ fits
  obtain ⟨publish, held⟩ := Option.isSome_iff_exists.mp ((tracked.mem_pubOrder pkid).mp member)
  simp [takePublish, SlotVec.get?_of_lt fits, held, take_ok noticeFits, withoutPublish,
    removeOrderedPkid]

theorem takePublish_unsolicited (absent : pkid ∉ f.outgoingPubOrder) :
    f.takePublish pkid = .ok (.error (.unsolicited pkid), f) := by
  have empty : f.outgoingPub.lookup pkid.toNat = none := by
    rw [tracked.mem_pubOrder, Bool.not_eq_true, Option.isSome_eq_false_iff, Option.isNone_iff_eq_none]
      at absent
    exact absent
  unfold takePublish
  split
  · rfl
  · rfl
  · rename_i held
    rw [SlotVec.lookup, held] at empty
    cases empty

theorem recordRelease_ok (fits : pkid.toNat < f.outgoingPub.length) (notice : Option NoticeId) :
    f.recordRelease pkid notice = .ok (f.withRelease pkid notice) := by
  have relFits : pkid.toNat < f.outgoingRel.length := tracked.relLength ▸ fits
  have noticeFits : pkid.toNat < f.outgoingRelNotice.length := tracked.relNoticeLength ▸ fits
  simp [recordRelease, insert_ok relFits, store_ok noticeFits, withRelease]

theorem takeRelease_ok (member : pkid ∈ f.outgoingRelOrder) :
    f.takeRelease pkid = .ok (.ok (f.outgoingRelNotice.lookup pkid.toNat), f.withoutRelease pkid) := by
  have fits := tracked.lt_of_mem_relOrder member
  have relFits : pkid.toNat < f.outgoingRel.length := tracked.relLength ▸ fits
  have noticeFits : pkid.toNat < f.outgoingRelNotice.length := tracked.relNoticeLength ▸ fits
  have present := (tracked.mem_relOrder pkid).mp member
  simp [takeRelease, present, set_false_ok relFits, take_ok noticeFits,
    withoutRelease, removeOrderedPkid]

theorem takeRelease_unsolicited (absent : pkid ∉ f.outgoingRelOrder) :
    f.takeRelease pkid = .ok (.error (.unsolicited pkid), f) := by
  rw [tracked.mem_relOrder] at absent
  simp [takeRelease, absent]

theorem resumeRelease_ok (member : pkid ∈ f.outgoingRelReplayOrder) :
    f.resumeRelease pkid = .ok (f.withReleaseResumed pkid) := by
  have fits := tracked.lt_of_mem_relReplayOrder member
  have relFits : pkid.toNat < f.outgoingRel.length := tracked.relLength ▸ fits
  have replayFits : pkid.toNat < f.outgoingRelReplay.length := tracked.relReplayLength ▸ fits
  simp [resumeRelease, set_false_ok replayFits, insert_ok relFits,
    withReleaseResumed, removeOrderedPkid]

theorem reserve_ok (nonzero : pkid ≠ 0) (free : pkid.toNat ∉ f.outboundPkidInUse) :
    f.reserve pkid = .ok (.ok (), f.withReserved pkid) := by
  simp [reserve, PacketIds.reserveOutboundPkid_ok tracked.ids nonzero free, withReserved]

end

theorem reserve_refused (taken : pkid.toNat ∈ f.outboundPkidInUse) :
    f.reserve pkid = .ok (.error .invalidState, f) := by
  simp [reserve, PacketIds.reserveOutboundPkid_refused (.inr taken)]

theorem reserveReleased_ok (tracked : f.Tracked pool) (nonzero : pkid ≠ 0)
    (free : pkid.toNat ∉ f.outboundPkidInUse) :
    f.reserveReleased pkid = .ok (f.withReserved pkid) := by
  simp [reserveReleased, tracked.reserve_ok nonzero free]

theorem release_ok (tracked : f.Tracked pool) (member : pkid.toNat ∈ f.outboundPkidInUse) :
    f.release pkid = .ok (f.withReleased pkid) := by
  simp [Flows.release, PacketIds.releaseOutboundPkid_ok tracked.ids member, withReleased]

/-! ### The pool -/

theorem sublist (tracked : f.Tracked pool) {rest : List (Request D)} (fewer : rest.Sublist pool) :
    f.Tracked rest :=
  have ids : (poolIds rest).Sublist (poolIds pool) := fewer.filterMap Request.replayPkid
  { tracked with
    ledger := tracked.ledger.mono (fun _ _ held => held.mono ids.subset) fun _ member => member
    pool_nodup := tracked.pool_nodup.sublist ids
    replay_kind := fun request member => tracked.replay_kind request (fewer.subset member) }

theorem perm (tracked : f.Tracked pool) {other : List (Request D)} (same : pool.Perm other) :
    f.Tracked other :=
  have ids : (poolIds pool).Perm (poolIds other) := same.filterMap Request.replayPkid
  { tracked with
    ledger := tracked.ledger.mono (fun _ _ held => held.mono ids.symm.subset) fun _ member => member
    pool_nodup := ids.nodup_iff.mp tracked.pool_nodup
    replay_kind := fun request member => tracked.replay_kind request (same.mem_iff.mpr member) }

theorem unheld_of_cons {request : Request D} (tracked : f.Tracked (request :: pool))
    (owns : request.replayPkid = some pkid) : f.Unheld pool pkid := by
  have cons : poolIds (request :: pool) = pkid :: poolIds pool := by
    simp [poolIds, owns]
  have held : f.Holds (request :: pool) .replay pkid := by
    show pkid ∈ poolIds (request :: pool)
    rw [cons]
    exact List.mem_cons_self
  have absent : pkid ∉ poolIds pool := by
    have nodup := tracked.pool_nodup
    rw [cons, List.nodup_cons] at nodup
    exact nodup.1
  intro holder other
  have larger : f.Holds (request :: pool) holder pkid :=
    other.mono (cons ▸ List.subset_cons_self ..)
  cases tracked.ledger.exclusive held larger
  exact absent other

theorem inUse_of_cons {request : Request D} (tracked : f.Tracked (request :: pool))
    (owns : request.replayPkid = some pkid) : pkid.toNat ∈ f.outboundPkidInUse :=
  tracked.ledger.reserved .replay pkid (mem_poolIds.mpr ⟨request, List.mem_cons_self, owns⟩)

/-- Only a PUBREL in the pool has its identifier queued for replay. -/
theorem mem_relReplayOrder_of_cons {request : Request D} (tracked : f.Tracked (request :: pool))
    (owns : request.replayPkid = some pkid) :
    pkid ∈ f.outgoingRelReplayOrder ↔ request.pubRelPkid? = some pkid :=
  tracked.replay_kind request List.mem_cons_self pkid owns

theorem notMem_relReplayOrder_of_cons {request : Request D} (tracked : f.Tracked (request :: pool))
    (owns : request.replayPkid = some pkid) (notRelease : request.pubRelPkid? = none) :
    pkid ∉ f.outgoingRelReplayOrder := by
  rw [tracked.mem_relReplayOrder_of_cons owns, notRelease]
  rintro ⟨⟩

/-! ### Identifiers and capacity -/

theorem setLastPkid (tracked : f.Tracked pool) (last : PacketId) :
    Tracked { f with lastPkid := last } pool :=
  { tracked with ids := ⟨tracked.ids.length, tracked.ids.count, tracked.ids.zero⟩ }

theorem withReserved (tracked : f.Tracked pool) (nonzero : pkid ≠ 0)
    (free : pkid.toNat ∉ f.outboundPkidInUse) : (f.withReserved pkid).Tracked pool :=
  { tracked with
    ids := tracked.ids.reserved nonzero free
    ledger := tracked.ledger.insert pkid.toNat }

theorem withReleased (tracked : f.Tracked pool) (member : pkid.toNat ∈ f.outboundPkidInUse)
    (unheld : f.Unheld pool pkid) (notReplay : pkid ∉ f.outgoingRelReplayOrder) :
    (f.withReleased pkid).Tracked pool :=
  { tracked with
    ids := tracked.ids.released member
    ledger := tracked.ledger.remove unheld notReplay }

theorem ensureCapacity (tracked : f.Tracked pool) {targetLen : Nat}
    (small : targetLen ≤ fullPacketIdentifierLen) :
    (f.ensureOutgoingTrackingCapacity targetLen).Tracked pool :=
  { tracked with
    noticeLength := by
      simp [ensureOutgoingTrackingCapacity, tracked.noticeLength]
    relNoticeLength := by
      simp [ensureOutgoingTrackingCapacity, tracked.relNoticeLength]
    relLength := by
      simp [ensureOutgoingTrackingCapacity, tracked.relLength]
    relReplayLength := by
      simp [ensureOutgoingTrackingCapacity, tracked.relReplayLength]
    lengthLe := by
      simpa [ensureOutgoingTrackingCapacity] using ⟨tracked.lengthLe, small⟩
    mem_pubOrder := fun other => by
      simpa [ensureOutgoingTrackingCapacity] using tracked.mem_pubOrder other
    stored := fun other publish held =>
      tracked.stored other publish (by simpa [ensureOutgoingTrackingCapacity] using held) }

theorem length_ensureCapacity (f : Flows D) (targetLen : Nat) :
    (f.ensureOutgoingTrackingCapacity targetLen).outgoingPub.length =
      max f.outgoingPub.length targetLen := by
  simp [ensureOutgoingTrackingCapacity]

/-! ### Publishes -/

theorem holds_withPublish (f : Flows D) (pool : List (Request D)) (publish : Publish D)
    (notice : Option NoticeId) : (f.withPublish publish notice).Holds pool =
      acquire (f.Holds pool) .publish publish.pkid := by
  funext holder other
  cases holder <;> simp [Holds, acquire, Flows.withPublish]

theorem withPublish (tracked : f.Tracked pool) (fits : publish.pkid.toNat < f.outgoingPub.length)
    (inUse : publish.pkid.toNat ∈ f.outboundPkidInUse) (unheld : f.Unheld pool publish.pkid)
    (notReplay : publish.pkid ∉ f.outgoingRelReplayOrder) (acked : publish.qos ≠ .atMostOnce)
    (notice : Option NoticeId) : (f.withPublish publish notice).Tracked pool := by
  have same : ∀ other : PacketId, other ≠ publish.pkid →
      (f.withPublish publish notice).outgoingPub.lookup other.toNat
        = f.outgoingPub.lookup other.toNat := fun other different =>
    lookup_write_of_ne _ (fun equal => different (UInt16.toNat_inj.mp equal)) _
  have here : (f.withPublish publish notice).outgoingPub.lookup publish.pkid.toNat = some publish :=
    lookup_write_self fits _
  exact { tracked with
    noticeLength := by simp [Flows.withPublish, tracked.noticeLength]
    relNoticeLength := by simp [Flows.withPublish, tracked.relNoticeLength]
    relLength := by simp [Flows.withPublish, tracked.relLength]
    relReplayLength := by simp [Flows.withPublish, tracked.relReplayLength]
    lengthLe := by simp [Flows.withPublish, tracked.lengthLe]
    mem_pubOrder := by
      intro other
      by_cases equal : other = publish.pkid
      · subst equal
        rw [here]
        simp [Flows.withPublish]
      · rw [same other equal, ← tracked.mem_pubOrder]
        simp [Flows.withPublish, equal]
    pubOrder_nodup := nodup_append_singleton tracked.pubOrder_nodup (unheld .publish)
    stored := by
      intro other found held
      by_cases equal : other = publish.pkid
      · subst equal
        rw [here] at held
        cases held
        exact ⟨rfl, acked⟩
      · rw [same other equal] at held
        exact tracked.stored other found held
    ledger := holds_withPublish f pool publish notice ▸ tracked.ledger.acquire inUse unheld notReplay }

theorem holds_withoutPublish (tracked : f.Tracked pool) (pkid : PacketId) :
    (f.withoutPublish pkid).Holds pool = drop (f.Holds pool) .publish pkid := by
  funext holder other
  cases holder <;>
    simp [Holds, drop, Flows.withoutPublish, tracked.pubOrder_nodup.mem_erase_iff, and_comm]

theorem withoutPublish (tracked : f.Tracked pool) (pkid : PacketId) :
    (f.withoutPublish pkid).Tracked pool := by
  have read : ∀ other : PacketId, (f.withoutPublish pkid).outgoingPub.lookup other.toNat =
      if other = pkid then none else f.outgoingPub.lookup other.toNat := by
    intro other
    simp [Flows.withoutPublish, lookup_write_none, UInt16.toNat_inj]
  exact { tracked with
    noticeLength := by simp [Flows.withoutPublish, tracked.noticeLength]
    relNoticeLength := by simp [Flows.withoutPublish, tracked.relNoticeLength]
    relLength := by simp [Flows.withoutPublish, tracked.relLength]
    relReplayLength := by simp [Flows.withoutPublish, tracked.relReplayLength]
    lengthLe := by simp [Flows.withoutPublish, tracked.lengthLe]
    mem_pubOrder := by
      intro other
      show other ∈ f.outgoingPubOrder.erase pkid ↔ _
      rw [read, tracked.pubOrder_nodup.mem_erase_iff, tracked.mem_pubOrder]
      by_cases equal : other = pkid
      · simp [equal]
      · simp [equal]
    pubOrder_nodup := tracked.pubOrder_nodup.erase pkid
    stored := by
      intro other found held
      rw [read] at held
      split at held
      · cases held
      · exact tracked.stored other found held
    ledger := tracked.holds_withoutPublish pkid ▸ tracked.ledger.drop }

theorem unheld_withoutPublish (tracked : f.Tracked pool) (member : pkid ∈ f.outgoingPubOrder) :
    (f.withoutPublish pkid).Unheld pool pkid := by
  have held : f.Holds pool .publish pkid := member
  intro holder
  rw [tracked.holds_withoutPublish]
  exact tracked.ledger.exclusive.free_drop held holder

/-! ### Releases -/

theorem holds_withRelease (f : Flows D) (pool : List (Request D)) (pkid : PacketId)
    (notice : Option NoticeId) : (f.withRelease pkid notice).Holds pool =
      acquire (f.Holds pool) .release pkid := by
  funext holder other
  cases holder <;> simp [Holds, acquire, Flows.withRelease]

section

variable (tracked : f.Tracked pool)
include tracked

/-- Growing a bit set by a bit below its length keeps the length. -/
theorem length_insert_rel (fits : pkid.toNat < f.outgoingPub.length) :
    (f.outgoingRel.growAndInsert pkid.toNat).length = f.outgoingPub.length := by
  rw [length_growAndInsert, tracked.relLength]
  omega

theorem withRelease (fits : pkid.toNat < f.outgoingPub.length)
    (inUse : pkid.toNat ∈ f.outboundPkidInUse) (unheld : f.Unheld pool pkid)
    (notReplay : pkid ∉ f.outgoingRelReplayOrder) (notice : Option NoticeId) :
    (f.withRelease pkid notice).Tracked pool :=
  { tracked with
    relNoticeLength := by simp [Flows.withRelease, tracked.relNoticeLength]
    relLength := tracked.length_insert_rel fits
    mem_relOrder := by
      intro other
      simp [Flows.withRelease, tracked.mem_relOrder, UInt16.toNat_inj, or_comm]
    relOrder_nodup := nodup_append_singleton tracked.relOrder_nodup (unheld .release)
    ledger := holds_withRelease f pool pkid notice ▸ tracked.ledger.acquire inUse unheld notReplay }

theorem holds_withoutRelease (pkid : PacketId) :
    (f.withoutRelease pkid).Holds pool = drop (f.Holds pool) .release pkid := by
  funext holder other
  cases holder <;>
    simp [Holds, drop, Flows.withoutRelease, tracked.relOrder_nodup.mem_erase_iff, and_comm]

theorem withoutRelease (pkid : PacketId) :
    (f.withoutRelease pkid).Tracked pool :=
  { tracked with
    relNoticeLength := by simp [Flows.withoutRelease, tracked.relNoticeLength]
    mem_relOrder := by
      intro other
      simp [Flows.withoutRelease, tracked.mem_relOrder, tracked.relOrder_nodup.mem_erase_iff,
        UInt16.toNat_inj]
    relOrder_nodup := tracked.relOrder_nodup.erase pkid
    ledger := tracked.holds_withoutRelease pkid ▸ tracked.ledger.drop }

theorem unheld_withoutRelease (member : pkid ∈ f.outgoingRelOrder) :
    (f.withoutRelease pkid).Unheld pool pkid := by
  have held : f.Holds pool .release pkid := member
  intro holder
  rw [tracked.holds_withoutRelease]
  exact tracked.ledger.exclusive.free_drop held holder

end

theorem holds_withReleaseResumed (f : Flows D) (pool : List (Request D)) (pkid : PacketId) :
    (f.withReleaseResumed pkid).Holds pool = acquire (f.Holds pool) .release pkid := by
  funext holder other
  cases holder <;> simp [Holds, acquire, Flows.withReleaseResumed]

theorem withReleaseResumed (tracked : f.Tracked pool) (member : pkid ∈ f.outgoingRelReplayOrder)
    (unheld : f.Unheld pool pkid) : (f.withReleaseResumed pkid).Tracked pool := by
  have remaining : ∀ other, other ∈ (f.withReleaseResumed pkid).outgoingRelReplayOrder ↔
      other ≠ pkid ∧ other ∈ f.outgoingRelReplayOrder :=
    fun other => tracked.relReplayOrder_nodup.mem_erase_iff
  exact { tracked with
    relLength := tracked.length_insert_rel (tracked.lt_of_mem_relReplayOrder member)
    relReplayLength := tracked.relReplayLength
    mem_relOrder := by
      intro other
      simp [Flows.withReleaseResumed, tracked.mem_relOrder, UInt16.toNat_inj, or_comm]
    mem_relReplayOrder := by
      intro other
      rw [remaining, tracked.mem_relReplayOrder]
      simp [Flows.withReleaseResumed, UInt16.toNat_inj]
    relOrder_nodup := nodup_append_singleton tracked.relOrder_nodup (unheld .release)
    relReplayOrder_nodup := tracked.relReplayOrder_nodup.erase pkid
    ledger := holds_withReleaseResumed f pool pkid ▸
      (tracked.ledger.mono (fun _ _ held => held) fun other still => ((remaining other).mp still).2).acquire
        (tracked.ledger.replay_reserved pkid member) unheld
        fun still => ((remaining pkid).mp still).1 rfl
    replay_kind := by
      intro request inPool other owns
      rw [remaining, tracked.replay_kind request inPool other owns]
      refine ⟨And.right, fun kind => ⟨?_, kind⟩⟩
      rintro rfl
      exact unheld .replay (mem_poolIds.mpr ⟨request, inPool, owns⟩) }

theorem noteRelease_ok (tracked : f.Tracked pool) (fits : pkid.toNat < f.outgoingPub.length)
    (notice : Option NoticeId) :
    f.noteRelease pkid notice = .ok (f.withReleaseNote pkid notice) := by
  have noticeFits : pkid.toNat < f.outgoingRelNotice.length := tracked.relNoticeLength ▸ fits
  unfold noteRelease Flows.withReleaseNote
  rw [SlotVec.isNoneAt_ok noticeFits, store_ok noticeFits]
  simp only [Checked.ok_bind, Checked.pure_eq]
  split <;> rfl

theorem withReleaseNote (tracked : f.Tracked pool) (pkid : PacketId) (notice : Option NoticeId) :
    (f.withReleaseNote pkid notice).Tracked pool :=
  { tracked with
    relNoticeLength := by
      unfold Flows.withReleaseNote
      split
      · rw [length_write, tracked.relNoticeLength]
      · exact tracked.relNoticeLength }

/-! ### Control requests -/

theorem holds_insertSubscribe (f : Flows D) (pool : List (Request D)) (pkid : PacketId)
    (pending : PendingSubscribe D) :
    Holds { f with pendingSubscribe := f.pendingSubscribe.insert pkid pending } pool =
      acquire (f.Holds pool) .subscribe pkid := by
  funext holder other
  cases holder <;> simp [Holds, acquire]
  tauto

theorem insertSubscribe (tracked : f.Tracked pool) (inUse : pkid.toNat ∈ f.outboundPkidInUse)
    (unheld : f.Unheld pool pkid) (notReplay : pkid ∉ f.outgoingRelReplayOrder)
    {pending : PendingSubscribe D} (named : pending.subscribe.pkid = pkid) :
    Tracked { f with pendingSubscribe := f.pendingSubscribe.insert pkid pending } pool :=
  { tracked with
    subscribed := by
      intro other found held
      rw [Std.TreeMap.getElem?_insert] at held
      split at held
      · rename_i same
        cases held
        rw [named, Std.LawfulEqCmp.eq_of_compare same]
      · exact tracked.subscribed other found held
    ledger := holds_insertSubscribe f pool pkid pending ▸ tracked.ledger.acquire inUse unheld notReplay }

theorem holds_eraseSubscribe (f : Flows D) (pool : List (Request D)) (pkid : PacketId) :
    Holds { f with pendingSubscribe := f.pendingSubscribe.erase pkid } pool =
      drop (f.Holds pool) .subscribe pkid := by
  funext holder other
  cases holder <;> simp [Holds, drop]
  tauto

theorem eraseSubscribe (tracked : f.Tracked pool) (pkid : PacketId) :
    Tracked { f with pendingSubscribe := f.pendingSubscribe.erase pkid } pool :=
  { tracked with
    subscribed := by
      intro other found held
      rw [Std.TreeMap.getElem?_erase] at held
      split at held
      · cases held
      · exact tracked.subscribed other found held
    ledger := holds_eraseSubscribe f pool pkid ▸ tracked.ledger.drop }

theorem unheld_eraseSubscribe (tracked : f.Tracked pool) (member : pkid ∈ f.pendingSubscribe) :
    Unheld { f with pendingSubscribe := f.pendingSubscribe.erase pkid } pool pkid := by
  have held : f.Holds pool .subscribe pkid := member
  intro holder
  rw [holds_eraseSubscribe]
  exact tracked.ledger.exclusive.free_drop held holder

theorem holds_insertUnsubscribe (f : Flows D) (pool : List (Request D)) (pkid : PacketId)
    (pending : PendingUnsubscribe D) :
    Holds { f with pendingUnsubscribe := f.pendingUnsubscribe.insert pkid pending } pool =
      acquire (f.Holds pool) .unsubscribe pkid := by
  funext holder other
  cases holder <;> simp [Holds, acquire]
  tauto

theorem insertUnsubscribe (tracked : f.Tracked pool) (inUse : pkid.toNat ∈ f.outboundPkidInUse)
    (unheld : f.Unheld pool pkid) (notReplay : pkid ∉ f.outgoingRelReplayOrder)
    {pending : PendingUnsubscribe D} (named : pending.unsubscribe.pkid = pkid) :
    Tracked { f with pendingUnsubscribe := f.pendingUnsubscribe.insert pkid pending } pool :=
  { tracked with
    unsubscribed := by
      intro other found held
      rw [Std.TreeMap.getElem?_insert] at held
      split at held
      · rename_i same
        cases held
        rw [named, Std.LawfulEqCmp.eq_of_compare same]
      · exact tracked.unsubscribed other found held
    ledger := holds_insertUnsubscribe f pool pkid pending ▸ tracked.ledger.acquire inUse unheld notReplay }

theorem holds_eraseUnsubscribe (f : Flows D) (pool : List (Request D)) (pkid : PacketId) :
    Holds { f with pendingUnsubscribe := f.pendingUnsubscribe.erase pkid } pool =
      drop (f.Holds pool) .unsubscribe pkid := by
  funext holder other
  cases holder <;> simp [Holds, drop]
  tauto

theorem eraseUnsubscribe (tracked : f.Tracked pool) (pkid : PacketId) :
    Tracked { f with pendingUnsubscribe := f.pendingUnsubscribe.erase pkid } pool :=
  { tracked with
    unsubscribed := by
      intro other found held
      rw [Std.TreeMap.getElem?_erase] at held
      split at held
      · cases held
      · exact tracked.unsubscribed other found held
    ledger := holds_eraseUnsubscribe f pool pkid ▸ tracked.ledger.drop }

theorem unheld_eraseUnsubscribe (tracked : f.Tracked pool) (member : pkid ∈ f.pendingUnsubscribe) :
    Unheld { f with pendingUnsubscribe := f.pendingUnsubscribe.erase pkid } pool pkid := by
  have held : f.Holds pool .unsubscribe pkid := member
  intro holder
  rw [holds_eraseUnsubscribe]
  exact tracked.ledger.exclusive.free_drop held holder

/-! ### The parked publish -/

theorem withoutCollision (tracked : f.Tracked pool) : f.withoutCollision.Tracked pool :=
  { tracked with
    parked := by
      rintro _ ⟨⟩ }

theorem unparking (tracked : f.Tracked pool) (nonzero : pkid ≠ 0)
    (free : pkid.toNat ∉ f.outboundPkidInUse) : (f.unparking pkid).Tracked pool :=
  (tracked.withoutCollision.ensureCapacity pkid.toNat_lt).withReserved nonzero free

theorem lt_length_unparking (f : Flows D) (pkid : PacketId) :
    pkid.toNat < (f.unparking pkid).outgoingPub.length := by
  show _ < (f.withoutCollision.ensureOutgoingTrackingCapacity _).outgoingPub.length
  rw [length_ensureCapacity]
  omega

theorem setCollision (tracked : f.Tracked pool) (acked : publish.qos ≠ .atMostOnce)
    (notice : Option NoticeId) :
    Tracked { f with collision := some publish, collisionNotice := notice } pool :=
  { tracked with
    parked := by
      rintro _ ⟨⟩
      exact acked }

end Tracked

end Rumqtt.Flows
