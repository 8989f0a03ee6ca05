/-
**Publishes that a clean-up can repair.**

Topic aliases end with their connection. The public `clean` writes a topic back into every publish
that has only an alias, and leaves a publish out when its alias has no topic. `Replayable` is the
invariant under which nothing is left out: every publish that is stored or parked has a topic or an
alias with a topic.

The state machine itself accepts an alias without a topic, so a publish that enters must resolve when
it comes (`AliasMap.Resolves`); from then on the invariant is kept by every request
(`Replayable.requested`) and every incoming packet (`Replayable.handled`).
-/

import Rumqtt.V5.Driver

namespace Rumqtt.V5

open SlotVec Function

/-! ### Alias tables -/

namespace AliasMap

variable {aliases more rest : AliasMap} {publish : Publish}

/-- **The alias of the publish has a topic**: its own, or the one of the table. -/
def Resolves (aliases : AliasMap) (publish : Publish) : Prop :=
  ∀ aliasId, publishTopicAlias publish = some aliasId →
    publish.topic ≠ [] ∨ (aliases aliasId).isSome

/-- Every alias of the first table has a topic in the second. -/
def Extends (aliases more : AliasMap) : Prop :=
  ∀ aliasId, (aliases aliasId).isSome → (more aliasId).isSome

theorem extends_refl (aliases : AliasMap) : aliases.Extends aliases := fun _ => id

theorem Extends.trans (first : aliases.Extends more) (second : more.Extends rest) :
    aliases.Extends rest := fun aliasId bound => second aliasId (first aliasId bound)

section

variable (aliases : AliasMap) (aliasId : UInt16) (topic : Bytes)

theorem extends_insert :
    aliases.Extends (aliases.insert aliasId topic) := by
  intro other bound
  by_cases same : other = aliasId
  · subst same
    simp [insert]
  · simpa [insert, update_of_ne same] using bound

theorem isSome_insert :
    (aliases.insert aliasId topic aliasId).isSome := by
  simp [insert]

end

theorem Resolves.mono (resolves : aliases.Resolves publish) (extended : aliases.Extends more) :
    more.Resolves publish :=
  fun aliasId named => (resolves aliasId named).imp_right (extended aliasId)

theorem resolves_of_none (unnamed : publishTopicAlias publish = none) : aliases.Resolves publish := by
  intro aliasId named
  rw [unnamed] at named
  cases named

end AliasMap

@[simp] theorem publishTopicAlias_strip (publish : Publish) :
    publishTopicAlias (stripPublishTopicAlias publish) = none := by
  unfold publishTopicAlias stripPublishTopicAlias
  cases publish.properties <;> rfl

namespace TopicAliasState

variable {a : TopicAliasState} {publish : Publish}

/-- Every alias that the client assigned by itself has a topic. -/
def Consistent (a : TopicAliasState) : Prop :=
  ∀ topic aliasId, a.autoOutgoing topic = some aliasId → (a.outgoing aliasId).isSome

/-- What a record adds to the tables: bindings, and no assignment without one. -/
structure Grows (a b : TopicAliasState) : Prop where
  extended : a.outgoing.Extends b.outgoing
  consistent : a.Consistent → b.Consistent
  brokerMax : b.brokerMax = a.brokerMax

theorem Grows.trans {b c : TopicAliasState} (first : a.Grows b) (second : b.Grows c) : a.Grows c where
  extended := first.extended.trans second.extended
  consistent := fun consistent => second.consistent (first.consistent consistent)
  brokerMax := second.brokerMax.trans first.brokerMax

theorem grows_refl (a : TopicAliasState) : a.Grows a := ⟨AliasMap.extends_refl _, id, rfl⟩

theorem grows_advance (a : TopicAliasState) : a.Grows a.advanceNextAutoTopicAlias := by
  unfold advanceNextAutoTopicAlias
  split
  · exact grows_refl a
  · exact ⟨AliasMap.extends_refl _, id, rfl⟩

theorem grows_recordUse (a : TopicAliasState) (aliasId : UInt16) :
    a.Grows (a.recordAutoTopicAliasUse aliasId) := by
  unfold recordAutoTopicAliasUse
  split
  · exact grows_refl a
  · exact ⟨AliasMap.extends_refl _, id, rfl⟩

theorem assigned_of_update {assigned : Bytes → Option UInt16} {previous topic : Bytes}
    {aliasId : UInt16} (found : update assigned previous none topic = some aliasId) :
    assigned topic = some aliasId := by
  by_cases evicted : topic = previous
  · subst evicted
    rw [update_self] at found
    cases found
  · rwa [update_of_ne evicted] at found

theorem grows_recordAuto (a : TopicAliasState) (pending : PendingAutoTopicAlias) :
    a.Grows (a.recordAutoTopicAlias pending) := by
  have added : ∀ assigned : Bytes → Option UInt16,
      (∀ topic aliasId, assigned topic = some aliasId → a.autoOutgoing topic = some aliasId) →
      a.Grows { a with
        autoOutgoing := update assigned pending.topic (some pending.aliasId)
        outgoing := a.outgoing.insert pending.aliasId pending.topic } := by
    intro assigned earlier
    refine ⟨a.outgoing.extends_insert _ _, fun consistent topic aliasId found => ?_, rfl⟩
    dsimp only at found ⊢
    by_cases here : topic = pending.topic
    · subst here
      rw [update_self] at found
      cases found
      exact AliasMap.isSome_insert ..
    · rw [update_of_ne here] at found
      exact a.outgoing.extends_insert _ _ aliasId (consistent topic aliasId (earlier topic aliasId found))
  unfold recordAutoTopicAlias
  cases pending.previousTopic with
  | none => exact (added _ fun _ _ => id).trans ((grows_recordUse _ _).trans (grows_advance _))
  | some previous =>
    exact (added _ fun _ _ => assigned_of_update).trans
      ((grows_recordUse _ _).trans (grows_advance _))

/-- A binding is added, and assignments are only taken away. -/
theorem grows_bind (a : TopicAliasState) (aliasId : UInt16) (topic : Bytes)
    {assigned : Bytes → Option UInt16} (lru : List UInt16)
    (earlier : ∀ topic other, assigned topic = some other → a.autoOutgoing topic = some other) :
    a.Grows { a with
      outgoing := a.outgoing.insert aliasId topic
      autoOutgoing := fun other =>
        if assigned other = some aliasId ∧ other ≠ topic then none else assigned other
      autoLru := lru } := by
  refine ⟨a.outgoing.extends_insert _ _, fun consistent other found named => ?_, rfl⟩
  dsimp only at named ⊢
  split at named
  · cases named
  · exact a.outgoing.extends_insert _ _ found (consistent other found (earlier other found named))

theorem grows_recordOutgoing (a : TopicAliasState) (publish : Publish) :
    a.Grows (a.recordOutgoingTopicAlias publish) := by
  unfold recordOutgoingTopicAlias
  split
  · next first rest aliasId _ _ =>
    cases a.outgoing aliasId with
    | none => exact a.grows_bind aliasId (first :: rest) a.autoLru fun _ _ => id
    | some previous =>
      by_cases rebound : previous ≠ first :: rest
      · simp only [rebound, ne_eq, not_false_eq_true, if_true]
        exact a.grows_bind aliasId (first :: rest) _ fun _ _ => assigned_of_update
      · simp only [rebound, if_false]
        exact a.grows_bind aliasId (first :: rest) a.autoLru fun _ _ => id
  · exact grows_refl a

theorem resolves_applyAuto (consistent : a.Consistent) (resolves : a.outgoing.Resolves publish) :
    a.outgoing.Resolves (a.applyAutoTopicAlias publish).1 := by
  unfold applyAutoTopicAlias
  split
  · exact resolves
  · next rewritten =>
    simp only [not_or] at rewritten
    cases assigned : a.autoOutgoing publish.topic with
    | some aliasId =>
      rintro other ⟨⟩
      exact .inr (consistent publish.topic aliasId assigned)
    | none =>
      dsimp only
      split
      · exact resolves
      · exact fun _ _ => .inl rewritten.2.2.1

theorem resolves_publishForReplayTracking {aliases : AliasMap} (resolves : aliases.Resolves publish)
    (bound : a.outgoing.Extends aliases) : aliases.Resolves (a.publishForReplayTracking publish) := by
  unfold publishForReplayTracking
  split
  · next topic _ found =>
    intro aliasId named
    obtain ⟨other, alias_eq, there⟩ := Option.bind_eq_some_iff.mp found
    have same : other = aliasId := Option.some_injective _ (alias_eq.symm.trans named)
    subst same
    exact .inr (bound other (Option.isSome_iff_exists.mpr ⟨topic, there⟩))
  · exact resolves

@[simp] theorem publishTopicAlias_publishForReplayTracking (a : TopicAliasState) (publish : Publish) :
    publishTopicAlias (a.publishForReplayTracking publish) = publishTopicAlias publish := by
  unfold publishForReplayTracking
  split <;> rfl

end TopicAliasState

theorem grows_recordAliases (publish : Publish) (action : Option AutoTopicAliasAction)
    (a : TopicAliasState) : a.Grows (MqttState.recordAliases publish action a) := by
  unfold MqttState.recordAliases
  refine TopicAliasState.Grows.trans ?_ (TopicAliasState.grows_recordOutgoing _ publish)
  rcases action with _ | (_ | _)
  · exact a.grows_refl
  · exact a.grows_recordUse _
  · exact a.grows_recordAuto _

/-! ### Repair -/

/-- **A publish that resolves is repaired**: only its topic and its alias change. -/
theorem preparePublish_of_resolves {aliases : AliasMap} {publish : Publish}
    (resolves : aliases.Resolves publish) :
    ∃ repaired more, preparePublishForReplayWithAliases publish aliases = (.ok repaired, more) ∧
      aliases.Extends more := by
  unfold preparePublishForReplayWithAliases
  cases named : publishTopicAlias publish with
  | none => exact ⟨_, _, rfl, aliases.extends_refl⟩
  | some aliasId =>
    dsimp only
    by_cases topic : publish.topic ≠ []
    · rw [if_pos topic]
      exact ⟨_, _, rfl, aliases.extends_insert _ _⟩
    · rw [if_neg topic]
      obtain ⟨bound, found⟩ := Option.isSome_iff_exists.mp
        ((resolves aliasId named).resolve_left topic)
      rw [found]
      exact ⟨_, _, rfl, aliases.extends_insert _ _⟩

/-- What a repair leaves of a publish: its identifier, and everything that its content is. -/
theorem repaired_eq {aliases more : AliasMap} {publish repaired : Publish}
    (prepared : preparePublishForReplayWithAliases publish aliases = (.ok repaired, more)) :
    ∃ topic, repaired = { publish with topic } ∨
      repaired = stripPublishTopicAlias { publish with topic } := by
  unfold preparePublishForReplayWithAliases at prepared
  split at prepared
  · cases prepared
    exact ⟨_, .inl rfl⟩
  · split at prepared
    · cases prepared
      exact ⟨_, .inr rfl⟩
    · split at prepared
      · cases prepared
        exact ⟨_, .inr rfl⟩
      · cases prepared

/-- **Nothing is left out of a clean-up whose publishes resolve**, as far as something is concerned that
a repair does not change. -/
theorem filterMap_repairAll {β : Type} {part : Request → Option β}
    (kept : ∀ publish topic, part (.publish { publish with topic }) = part (.publish publish) ∧
      part (.publish (stripPublishTopicAlias { publish with topic })) = part (.publish publish))
    {requests : List Request} {aliases : AliasMap}
    (resolves : ∀ publish, .publish publish ∈ requests → aliases.Resolves publish) :
    (MqttState.repairAll requests aliases).filterMap part = requests.filterMap part := by
  induction requests generalizing aliases with
  | nil => rfl
  | cons request rest ih =>
    have later : ∀ {more : AliasMap}, aliases.Extends more →
        (MqttState.repairAll rest more).filterMap part = rest.filterMap part := by
      intro more extended
      refine ih fun publish member => ?_
      exact (resolves publish (List.mem_cons_of_mem _ member)).mono extended
    have unchanged : prepareRequestForReplayWithAliases request aliases = (.ok request, aliases) →
        (MqttState.repairAll (request :: rest) aliases).filterMap part =
          (request :: rest).filterMap part := by
      intro prepared
      rw [MqttState.repairAll, prepared, List.filterMap_cons, List.filterMap_cons,
        later aliases.extends_refl]
    cases request with
    | publish publish =>
      obtain ⟨repaired, more, prepared, extended⟩ :=
        preparePublish_of_resolves (resolves publish List.mem_cons_self)
      have same : part (.publish repaired) = part (.publish publish) := by
        obtain ⟨topic, rfl | rfl⟩ := repaired_eq prepared
        · exact (kept publish topic).1
        · exact (kept publish topic).2
      rw [MqttState.repairAll, prepareRequestForReplayWithAliases, prepared]
      dsimp only
      rw [List.filterMap_cons, List.filterMap_cons, same, later extended]
    | _ => exact unchanged rfl

/-! ### The invariant -/

/-- A publish is stored or parked. -/
def Kept (slots : SlotVec Publish) (parked : Option Publish) (publish : Publish) : Prop :=
  (∃ index, slots.lookup index = some publish) ∨ parked = some publish

/-- **Every publish that is kept can be repaired.** Before a CONNACK no alias is accepted. -/
structure Repairable (slots : SlotVec Publish) (parked : Option Publish) (a : TopicAliasState)
    (announced : Bool) : Prop where
  resolved : ∀ publish, Kept slots parked publish → a.outgoing.Resolves publish
  consistent : a.Consistent
  unannounced : announced = false → a.brokerMax = 0 ∧
    ∀ publish, Kept slots parked publish → publishTopicAlias publish = none

namespace Repairable

variable {slots fewer : SlotVec Publish} {parked left : Option Publish} {a b : TopicAliasState}
  {announced : Bool} {publish : Publish}

section

variable (repairable : Repairable slots parked a announced)
include repairable

/-- Fewer publishes, and larger tables. -/
theorem mono
    (subset : ∀ publish, Kept fewer left publish → Kept slots parked publish) (grown : a.Grows b) :
    Repairable fewer left b announced where
  resolved := fun publish kept => (repairable.resolved publish (subset publish kept)).mono grown.extended
  consistent := grown.consistent repairable.consistent
  unannounced := by
    intro unannounced
    obtain ⟨none, plain⟩ := repairable.unannounced unannounced
    exact ⟨grown.brokerMax.trans none, fun publish kept => plain publish (subset publish kept)⟩

theorem store (index : Nat) (resolves : a.outgoing.Resolves publish)
    (plain : announced = false → publishTopicAlias publish = none) :
    Repairable (slots.write index (some publish)) parked a announced := by
  have either : ∀ other, Kept (slots.write index (some publish)) parked other →
      Kept slots parked other ∨ other = publish := by
    rintro other (⟨position, found⟩ | held)
    · by_cases here : position = index
      · subst here
        by_cases fits : position < slots.length
        · rw [lookup_write_self fits] at found
          exact .inr (Option.some_injective _ found).symm
        · rw [lookup_eq_none_of_le (by simpa using fits)] at found
          cases found
      · rw [lookup_write_of_ne _ here] at found
        exact .inl (.inl ⟨position, found⟩)
    · exact .inl (.inr held)
  refine ⟨?_, repairable.consistent, fun unannounced => ?_⟩
  · intro other kept
    rcases either other kept with old | rfl
    · exact repairable.resolved other old
    · exact resolves
  · obtain ⟨none, others⟩ := repairable.unannounced unannounced
    refine ⟨none, fun other kept => ?_⟩
    rcases either other kept with old | rfl
    · exact others other old
    · exact plain unannounced

theorem park (resolves : a.outgoing.Resolves publish)
    (plain : announced = false → publishTopicAlias publish = none) :
    Repairable slots (some publish) a announced := by
  have either : ∀ other, Kept slots (some publish) other → Kept slots parked other ∨ other = publish := by
    rintro other (stored | held)
    · exact .inl (.inl stored)
    · exact .inr (Option.some_injective _ held).symm
  refine ⟨?_, repairable.consistent, fun unannounced => ?_⟩
  · intro other kept
    rcases either other kept with old | rfl
    · exact repairable.resolved other old
    · exact resolves
  · obtain ⟨none, others⟩ := repairable.unannounced unannounced
    refine ⟨none, fun other kept => ?_⟩
    rcases either other kept with old | rfl
    · exact others other old
    · exact plain unannounced

theorem write_none (index : Nat) :
    Repairable (slots.write index none) parked a announced := by
  refine repairable.mono ?_ a.grows_refl
  rintro publish (⟨position, found⟩ | held)
  · rw [lookup_write_none] at found
    split at found
    · cases found
    · exact .inl ⟨position, found⟩
  · exact .inr held

theorem growTo (length : Nat) :
    Repairable (slots.growTo length) parked a announced := by
  refine repairable.mono ?_ a.grows_refl
  rintro publish (⟨position, found⟩ | held)
  · rw [lookup_growTo] at found
    exact .inl ⟨position, found⟩
  · exact .inr held

theorem unpark :
    Repairable slots none a announced := by
  refine repairable.mono ?_ a.grows_refl
  rintro publish (stored | held)
  · exact .inl stored
  · cases held

theorem grow (grown : a.Grows b) :
    Repairable slots parked b announced := repairable.mono (fun _ => id) grown

end

/-- **An alias table that is reset leaves every publish without an alias as it is.** -/
theorem connect (repairable : Repairable slots parked a false)
    (reset : b.Consistent) : Repairable slots parked b true where
  resolved := fun publish kept =>
    AliasMap.resolves_of_none ((repairable.unannounced rfl).2 publish kept)
  consistent := reset
  unannounced := fun absurd => by cases absurd

end Repairable

namespace MqttState

variable {s t : MqttState} {pool : List Request} {pkid : PacketId}

def Replayable (s : MqttState) : Prop :=
  Repairable s.outgoingPub s.collision s.topicAliases s.connackReceived

theorem replayable_new (options : StateOptions) : (newInternal options).Replayable where
  resolved := by
    rintro publish (⟨index, found⟩ | held)
    · rw [show (newInternal options).outgoingPub = .withLength _ from rfl,
        lookup_withLength] at found
      cases found
    · cases held
  consistent := by
    rintro topic aliasId ⟨⟩
  unannounced := by
    refine fun _ => ⟨rfl, ?_⟩
    rintro publish (⟨index, found⟩ | held)
    · rw [show (newInternal options).outgoingPub = .withLength _ from rfl,
        lookup_withLength] at found
      cases found
    · cases held

theorem Replayable.withRoom (replayable : s.Replayable) (pkid : PacketId) :
    (s.withRoom pkid).Replayable := by
  show Repairable (s.toFlows.ensureOutgoingTrackingCapacity _).outgoingPub _ _ _
  exact replayable.growTo _

theorem Replayable.maybeShrink (replayable : s.Replayable) :
    s.maybeShrinkOutgoingTrackingCapacity.Replayable := by
  unfold maybeShrinkOutgoingTrackingCapacity
  dsimp only
  split
  · exact replayable
  · refine replayable.mono ?_ s.topicAliases.grows_refl
    rintro publish (⟨index, found⟩ | held)
    · rw [show (s.toFlows.shrinkTo _).outgoingPub = s.outgoingPub.truncate _ from rfl,
        lookup_truncate] at found
      split at found
      · exact .inl ⟨index, found⟩
      · cases found
    · exact .inr held

/-! ### Requests -/

/-- What is written before a CONNACK has no alias. -/
theorem Replayable.wire_plain (replayable : s.Replayable) {publish : Publish}
    (admitted : s.Admitted publish) (unannounced : s.connackReceived = false) (pkid : PacketId) :
    publishTopicAlias (s.wire publish pkid) = none := by
  have none := (replayable.unannounced unannounced).1
  have valid := admitted.aliasValid
  show publishTopicAlias (s.topicAliases.applyAutoTopicAlias publish).1 = Option.none
  cases named : publishTopicAlias (s.topicAliases.applyAutoTopicAlias publish).1 with
  | none => rfl
  | some aliasId =>
    rw [TopicAliasState.validateOutgoingTopicAlias, named] at valid
    dsimp only at valid
    rw [none] at valid
    have invalid : aliasId = 0 ∨ 0 < aliasId := by
      rcases Nat.eq_zero_or_pos aliasId.toNat with zero | positive
      · exact .inl (UInt16.toNat_inj.mp zero)
      · exact .inr (UInt16.lt_iff_toNat_lt.mpr positive)
    rw [if_pos invalid] at valid
    cases valid

theorem Replayable.wire_resolves (replayable : s.Replayable) {publish : Publish}
    (resolves : s.topicAliases.outgoing.Resolves publish) (pkid : PacketId) :
    s.topicAliases.outgoing.Resolves (s.wire publish pkid) :=
  TopicAliasState.resolves_applyAuto replayable.consistent resolves

/-- The copy that is parked has its own topic, or is the publish as it came. -/
theorem resolves_restoreParked (s : MqttState) {wired : Publish}
    (action : Option AutoTopicAliasAction) (resolves : s.topicAliases.outgoing.Resolves wired) :
    s.topicAliases.outgoing.Resolves (AutoTopicAliasAction.restoreParked action wired) := by
  rcases action with _ | (_ | _)
  · exact resolves
  · exact AliasMap.resolves_of_none (publishTopicAlias_strip _)
  · exact AliasMap.resolves_of_none (publishTopicAlias_strip _)

theorem plain_restoreParked {wired : Publish} (action : Option AutoTopicAliasAction)
    (plain : publishTopicAlias wired = none) :
    publishTopicAlias (AutoTopicAliasAction.restoreParked action wired) = none := by
  rcases action with _ | (_ | _)
  · exact plain
  · exact publishTopicAlias_strip _
  · exact publishTopicAlias_strip _

theorem Replayable.published (replayable : s.Replayable) {wired : Publish}
    (resolves : s.topicAliases.outgoing.Resolves wired)
    (plain : s.connackReceived = false → publishTopicAlias wired = none)
    (notice : Option NoticeId) (action : Option AutoTopicAliasAction) :
    (s.published wired notice action).Replayable := by
  refine (Repairable.store replayable _ ?_ ?_).grow (grows_recordAliases wired action _)
  · exact TopicAliasState.resolves_publishForReplayTracking resolves (AliasMap.extends_refl _)
  · intro unannounced
    rw [TopicAliasState.publishTopicAlias_publishForReplayTracking]
    exact plain unannounced

/-- **A request whose alias has a topic keeps every publish repairable.** -/
theorem Replayable.requested (replayable : s.Replayable) {request : Request} {replay : Bool}
    {notice : Option TrackedNotice} {result : RequestResult}
    (resolves : ∀ publish, request = .publish publish → publish.qos ≠ .atMostOnce →
      s.topicAliases.outgoing.Resolves publish)
    (requested : Requested s notice request replay result t) : t.Replayable := by
  cases requested with
  | rejected => exact replayable
  | refused publish => exact replayable.withRoom publish.pkid
  | qos0 publish replay unacked admitted =>
    exact Repairable.grow replayable (grows_recordAliases _ _ s.topicAliases)
  | fresh publish pkid acked admitted =>
    have room : (((s.assigned publish pkid).withRoom pkid).reserving pkid).Replayable :=
      Replayable.withRoom (s := s.assigned publish pkid) replayable pkid
    exact room.published (replayable.wire_resolves (resolves publish rfl acked) pkid)
      (fun unannounced => replayable.wire_plain admitted unannounced pkid) _ _
  | parked publish acked admitted =>
    refine Repairable.park (replayable.withRoom publish.pkid) ?_ ?_
    · exact resolves_restoreParked s _
        (replayable.wire_resolves (resolves publish rfl acked) _)
    · exact fun unannounced => plain_restoreParked _ (replayable.wire_plain admitted unannounced _)
  | replayed publish acked admitted =>
    exact (replayable.withRoom publish.pkid).published
      (replayable.wire_resolves (resolves publish rfl acked) _)
      (fun unannounced => replayable.wire_plain admitted unannounced _) _ _
  | pubrelResumed pubrel => exact replayable.withRoom pubrel.pkid
  | pubrelAgain pubrel => exact replayable.withRoom pubrel.pkid
  | subscribe => exact replayable
  | subscribeAgain => exact replayable
  | unsubscribe => exact replayable
  | unsubscribeAgain => exact replayable
  | pingFailed => exact replayable
  | ping => exact replayable
  | disconnect => exact replayable
  | puback => exact replayable
  | pubrec => exact replayable
  | pubrecFailure => exact replayable
  | auth => exact replayable

/-! ### Incoming packets -/

section

variable (replayable : s.Replayable)
include replayable

theorem Replayable.settled {outgoing : Option Packet}
    (settled : Settled s pkid outgoing t) : t.Replayable := by
  cases settled with
  | quiet => exact replayable.maybeShrink
  | unparked publish parked =>
    have held : Kept s.outgoingPub s.collision publish := .inr parked
    refine (Repairable.store (Repairable.growTo (Repairable.unpark replayable) _) _ ?_ ?_).grow
      (TopicAliasState.grows_recordOutgoing s.topicAliases publish)
    · exact TopicAliasState.resolves_publishForReplayTracking (replayable.resolved publish held)
        (AliasMap.extends_refl _)
    · intro unannounced
      rw [TopicAliasState.publishTopicAlias_publishForReplayTracking]
      exact (replayable.unannounced unannounced).2 publish held

theorem Replayable.acked (pkid : PacketId) : (s.acked pkid).Replayable :=
  Repairable.write_none replayable pkid.toNat

theorem Replayable.dispatched {packet : Packet}
    {result : DispatchResult} (dispatched : Dispatched s packet result t) : t.Replayable := by
  cases dispatched with
  | rejected => exact replayable
  | failed => exact replayable
  | auth => exact replayable
  | connected connack a first =>
    have before : Repairable s.outgoingPub s.collision s.topicAliases false := first ▸ replayable
    refine Repairable.connect before ?_
    rintro topic aliasId ⟨⟩
  | pingResp => exact replayable
  | refused => exact replayable
  | publish publish topic incoming outgoing t _ outcome =>
    have same : (s.withIncomingAliases incoming).Replayable :=
      Repairable.grow replayable ⟨AliasMap.extends_refl _, id, rfl⟩
    cases outcome with
    | exceeded => exact same
    | qos0 => exact same
    | qos1 => exact same
    | qos1Answered => exact same
    | qos2 => exact same
    | qos2Answered => exact same
    | qos2Again => exact same
  | pubrelUnknown => exact replayable
  | pubrel => exact replayable
  | puback puback member outgoing notices t settled => exact (replayable.acked _).settled settled
  | pubrecFailed pubrec member failure outgoing notices t settled =>
    exact (replayable.acked _).settled settled
  | pubrec pubrec => exact replayable.acked pubrec.pkid
  | pubcomp pubcomp member outgoing notices t settled =>
    exact Replayable.settled (s := s.completed pubcomp.pkid) replayable settled
  | suback => exact replayable
  | unsuback => exact replayable

/-- **Every incoming packet keeps every publish repairable.** -/
theorem Replayable.handled {packet : Packet}
    {result : PacketResult} (handled : Handled s packet result t) :
    t.Replayable := by
  obtain ⟨retained, _, u, _, dispatched, _, rfl⟩ := handled.dispatched
  have kept : Replayable { s with connectionFailurePacket := retained } := replayable
  have after : u.Replayable := kept.dispatched dispatched
  exact after

end

end MqttState

end Rumqtt.V5
