/-
**MQTT 5 topic aliases.**

`TopicAliasState` is what both ends of the current connection have agreed on: the aliases the broker
bound for incoming publishes, those this client bound for outgoing ones, and the bookkeeping of the
aliases the client assigns by itself. The hash maps are functions to `Option`.
-/

import Mathlib.Logic.Function.Basic
import Rumqtt.V5.Packet

namespace Rumqtt.V5

inductive TopicAliasPolicy where
  | disabled
  | monotonic
  | lru
  deriving DecidableEq, Repr

/-- A table of topics by alias. -/
abbrev AliasMap := UInt16 → Option Bytes

/-- `HashMap::insert` -/
def AliasMap.insert (map : AliasMap) (aliasId : UInt16) (topic : Bytes) : AliasMap :=
  Function.update map aliasId (some topic)

structure PendingAutoTopicAlias where
  topic : Bytes
  aliasId : UInt16
  previousTopic : Option Bytes
  deriving DecidableEq, Repr

inductive AutoTopicAliasAction where
  | existing (originalTopic : Bytes) (aliasId : UInt16)
  | new (pending : PendingAutoTopicAlias)
  deriving DecidableEq, Repr

def publishTopicAlias (publish : Publish) : Option UInt16 :=
  publish.properties.bind PublishProperties.topicAlias

def setPublishTopicAlias (publish : Publish) (aliasId : UInt16) : Publish :=
  { publish with properties := some { publish.properties.getD {} with topicAlias := some aliasId } }

def stripPublishTopicAlias (publish : Publish) : Publish :=
  { publish with properties := publish.properties.map fun props => { props with topicAlias := none } }

namespace AutoTopicAliasAction

/-- Undoes the rewriting for the copy that is kept for replay. -/
def restoreForReplay (action : AutoTopicAliasAction) (publish : Publish) : Publish :=
  match action with
  | .existing originalTopic _ => stripPublishTopicAlias { publish with topic := originalTopic }
  | .new _ => stripPublishTopicAlias publish

/-- The copy of a publish that is parked: without the automatic rewriting, if there was one. -/
def restoreParked (action : Option AutoTopicAliasAction) (publish : Publish) : Publish :=
  match action with
  | some action => action.restoreForReplay publish
  | none => publish

end AutoTopicAliasAction

structure TopicAliasState where
  /-- Server-to-client aliases of the current connection. -/
  incoming : AliasMap
  /-- Client-to-server aliases of the current connection. -/
  outgoing : AliasMap
  /-- Aliases this client assigned by itself. -/
  autoOutgoing : Bytes → Option UInt16
  nextAuto : Option UInt16
  autoPolicy : TopicAliasPolicy
  autoLru : List UInt16
  /-- The broker's Topic Alias Maximum. -/
  brokerMax : UInt16
  /-- The Topic Alias Maximum of the CONNECT packet. -/
  clientMax : UInt16

namespace TopicAliasState

def new (autoPolicy : TopicAliasPolicy) (clientMax : UInt16) : TopicAliasState where
  incoming := fun _ => none
  outgoing := fun _ => none
  autoOutgoing := fun _ => none
  nextAuto := some 1
  autoPolicy
  autoLru := []
  brokerMax := 0
  clientMax

def resetConnectionScoped (a : TopicAliasState) : TopicAliasState :=
  { a with
    incoming := fun _ => none
    outgoing := fun _ => none
    autoOutgoing := fun _ => none
    nextAuto := some 1
    autoLru := []
    brokerMax := 0 }

def replayAliases (a : TopicAliasState) : AliasMap := a.outgoing

/-! ### Automatic assignment -/

/-- The first alias of `start..=broker_max` without a binding, `count` aliases at most. -/
def firstUnbound (a : TopicAliasState) : Nat → UInt16 → Option UInt16
  | 0, _ => none
  | count + 1, aliasId =>
    if a.brokerMax < aliasId then none
    else if (a.outgoing aliasId).isNone then some aliasId
    else if aliasId = 65535 then none
    else a.firstUnbound count (aliasId + 1)

section

variable (a : TopicAliasState)

def nextAvailableAutoTopicAlias : Option UInt16 :=
  a.nextAuto.bind fun start => a.firstUnbound (a.brokerMax.toNat + 1 - start.toNat) start

def leastRecentAutoTopicAlias : Option (UInt16 × Option Bytes) :=
  a.autoLru.findSome? fun aliasId =>
    if aliasId = 0 ∨ a.brokerMax < aliasId then none
    else match a.outgoing aliasId with
      | none => none
      | some topic => if a.autoOutgoing topic = some aliasId then some (aliasId, some topic) else none

def nextAutoTopicAliasAssignment : Option (UInt16 × Option Bytes) :=
  match a.nextAvailableAutoTopicAlias with
  | some aliasId => some (aliasId, none)
  | none => if a.autoPolicy ≠ .lru then none else a.leastRecentAutoTopicAlias

def applyAutoTopicAlias (publish : Publish) :
    Publish × Option AutoTopicAliasAction :=
  if a.autoPolicy = .disabled ∨ a.brokerMax = 0 ∨ publish.topic = [] ∨
      (publishTopicAlias publish).isSome then
    (publish, none)
  else match a.autoOutgoing publish.topic with
    | some aliasId =>
      ({ setPublishTopicAlias publish aliasId with topic := [] },
        some (.existing publish.topic aliasId))
    | none =>
      match a.nextAutoTopicAliasAssignment with
      | none => (publish, none)
      | some (aliasId, previousTopic) =>
        (setPublishTopicAlias publish aliasId, some (.new ⟨publish.topic, aliasId, previousTopic⟩))

def recordAutoTopicAliasUse (aliasId : UInt16) : TopicAliasState :=
  if a.autoPolicy ≠ .lru then a
  else { a with autoLru := a.autoLru.filter (· ≠ aliasId) ++ [aliasId] }

end

/-- The loop of `advance_next_auto_topic_alias`; `fuel` bounds its rounds. -/
def advanceFrom (a : TopicAliasState) : Nat → UInt16 → Option UInt16
  | 0, _ => none
  | fuel + 1, aliasId =>
    if aliasId ≤ a.brokerMax ∧ (a.outgoing aliasId).isSome then
      if aliasId = 65535 then none else a.advanceFrom fuel (aliasId + 1)
    else if aliasId ≤ a.brokerMax then some aliasId else none

def advanceNextAutoTopicAlias (a : TopicAliasState) : TopicAliasState :=
  match a.nextAuto with
  | none => a
  | some aliasId => { a with nextAuto := a.advanceFrom 65536 aliasId }

def recordAutoTopicAlias (a : TopicAliasState) (pending : PendingAutoTopicAlias) :
    TopicAliasState :=
  let autoOutgoing := match pending.previousTopic with
    | some previous => Function.update a.autoOutgoing previous none
    | none => a.autoOutgoing
  let a := { a with
    autoOutgoing := Function.update autoOutgoing pending.topic (some pending.aliasId)
    outgoing := a.outgoing.insert pending.aliasId pending.topic }
  (a.recordAutoTopicAliasUse pending.aliasId).advanceNextAutoTopicAlias

/-! ### Explicit aliases -/

section

variable (a : TopicAliasState) (publish : Publish)

def publishForReplayTracking : Publish :=
  match publish.topic, (publishTopicAlias publish).bind a.outgoing with
  | [], some topic => { publish with topic }
  | _, _ => publish

def validateOutgoingTopicAlias : Except StateError Unit :=
  match publishTopicAlias publish with
  | some aliasId =>
    if aliasId = 0 ∨ a.brokerMax < aliasId then .error (.invalidAlias aliasId a.brokerMax) else .ok ()
  | none => .ok ()

def outgoingTopicAliasError : Option PublishNoticeError :=
  match publishTopicAlias publish with
  | none => none
  | some aliasId =>
    if aliasId = 0 ∨ a.brokerMax < aliasId then some (.topicAliasInvalid aliasId a.brokerMax)
    else if publish.topic = [] ∧ (a.outgoing aliasId).isNone then
      some (.topicAliasMappingUnavailable aliasId)
    else none

/-- A publish that carries a topic and an alias binds the alias; automatic assignments of the same
alias to another topic end. -/
def recordOutgoingTopicAlias : TopicAliasState :=
  match publish.topic, publishTopicAlias publish with
  | first :: rest, some aliasId =>
    let topic := first :: rest
    let a := match a.outgoing aliasId with
      | some previous =>
        if previous ≠ topic then
          { a with
            autoOutgoing := Function.update a.autoOutgoing previous none
            autoLru := a.autoLru.filter (· ≠ aliasId) }
        else a
      | none => a
    { a with
      outgoing := a.outgoing.insert aliasId topic
      autoOutgoing := fun other =>
        if a.autoOutgoing other = some aliasId ∧ other ≠ topic then none else a.autoOutgoing other }
  | _, _ => a

end

end TopicAliasState

/-! ### Repair for replay -/

/-- `prepare_publish_for_replay_with_aliases`: the publish without its alias, under the topic the
table gives, and the table it leaves; or the alias that has no topic. -/
def preparePublishForReplayWithAliases (publish : Publish) (topicAliases : AliasMap) :
    Except PublishNoticeError Publish × AliasMap :=
  match publishTopicAlias publish with
  | none => (.ok publish, topicAliases)
  | some aliasId =>
    if publish.topic ≠ [] then
      (.ok (stripPublishTopicAlias publish), topicAliases.insert aliasId publish.topic)
    else match topicAliases aliasId with
      | some topic =>
        (.ok (stripPublishTopicAlias { publish with topic }), topicAliases.insert aliasId topic)
      | none => (.error (.topicAliasReplayUnavailable aliasId), topicAliases)

def prepareRequestForReplayWithAliases (request : Request) (topicAliases : AliasMap) :
    Except PublishNoticeError Request × AliasMap :=
  match request with
  | .publish publish =>
    match preparePublishForReplayWithAliases publish topicAliases with
    | (.ok publish, topicAliases) => (.ok (.publish publish), topicAliases)
    | (.error error, topicAliases) => (.error error, topicAliases)
  | request => (.ok request, topicAliases)

end Rumqtt.V5
