/-
**What a checkpoint lists of the outbound flows.**

`checkpointed P f` is the list that `persistedReplayRequests` builds from tracked flows: the stored
publishes in send order, a release for every active one in receipt order, and the control requests.
`Tracked.persistedReplayRequests_ok` says that building it does not panic.
-/

import Rumqtt.Persistence

namespace Rumqtt.Flows

variable {D : Dialect} (P : PersistedForm D)

/-- The stored publish under an identifier as an entry of a checkpoint. -/
def checkpointedPublish (f : Flows D) (pkid : PacketId) : Option (PersistedRequest P) :=
  ((f.outgoingPub.lookup pkid.toNat).bind (persistedPublish P)).map .publish

/-- **The entries of a checkpoint** that stand for the flows. -/
def checkpointed (f : Flows D) : List (PersistedRequest P) :=
  f.outgoingPubOrder.filterMap (f.checkpointedPublish P) ++ f.outgoingRelOrder.map .pubRel ++
    f.pendingSubscribe.values.map (fun pending => .subscribe pending.subscribe) ++
    f.pendingUnsubscribe.values.map (fun pending => .unsubscribe pending.unsubscribe)

/-- The values of a table are those of its entries. -/
theorem values_eq_map_toList {β : Type} (table : Std.TreeMap PacketId β) :
    table.values = table.toList.map Prod.snd := by
  have values := @Std.DTreeMap.Internal.Impl.values_eq_map_snd _ _ table.inner.inner
  have entries := @Std.DTreeMap.Internal.Impl.Const.toList_eq_toListModel_map _ _ table.inner.inner
  refine values.trans ?_
  show _ = (Std.DTreeMap.Internal.Impl.Const.toList table.inner.inner).map Prod.snd
  rw [entries, List.map_map]
  rfl

theorem getElem?_of_mem_values {β : Type} {table : Std.TreeMap PacketId β} {value : β}
    (member : value ∈ table.values) : ∃ pkid : PacketId, table[pkid]? = some value := by
  rw [values_eq_map_toList] at member
  obtain ⟨⟨pkid, other⟩, inTable, rfl⟩ := List.mem_map.mp member
  exact ⟨pkid, Std.TreeMap.mem_toList_iff_getElem?_eq_some.mp inTable⟩

theorem persistedPublishes_ok {f : Flows D} {order : List PacketId}
    (fits : ∀ pkid ∈ order, pkid.toNat < f.outgoingPub.length) :
    persistedPublishes P f order = .ok (order.filterMap (f.checkpointedPublish P)) := by
  refine Checked.bind_ok.mpr ⟨order.map fun pkid => f.outgoingPub.lookup pkid.toNat, ?_, ?_⟩
  · refine Checked.mapM_ok fun pkid member => ?_
    rw [SlotVec.get?_of_lt (fits pkid member)]
  · rw [Checked.pure_eq, List.filterMap_map]
    rfl

/-- **Tracked flows are checkpointed without a panic.** -/
theorem Tracked.persistedReplayRequests_ok {f : Flows D} {pool : List (Request D)}
    (tracked : f.Tracked pool) : persistedReplayRequests P f = .ok (f.checkpointed P) := by
  have fits : ∀ pkid ∈ f.outgoingPubOrder, pkid.toNat < f.outgoingPub.length :=
    fun _ member => tracked.lt_of_mem_pubOrder member
  unfold persistedReplayRequests
  rw [persistedPublishes_ok P fits, Checked.ok_bind]
  rfl

end Rumqtt.Flows
