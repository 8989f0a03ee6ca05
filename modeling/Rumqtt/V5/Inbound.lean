/-
**Incoming topics, from the bytes to the application.**

A `Link` is the state machine behind the decoder: bytes arrive, `read` takes one frame off them, and
`poll` hands an event to the application. The observer keeps the frames of every connection, and for
every publish shown the frame it was read from with the frames before it.

The broker's view of its aliases is a function of the frames it sent (`bindings`), with every PUBLISH
read as the standard has it (`sentPublish`). The table of the state machine is a part of that view
over faithful frames. A frame is not faithful where it has so many subscription identifiers that the
cursor of the source ends the block early, or where the publish has neither topic nor alias.

* `Requested.quieter`, `Dispatched.quieter`: everything but an incoming publish leaves the table
  and the publishes shown alone, or empties the table;
* `Answered`: what an incoming publish does to both;
* `incoming_topics_resolved`: in every run over faithful frames, every publish shown is the one in the
  frame being read then, under its topic or the one most recently bound to its alias on its connection.
-/

import Rumqtt.V5.Codec.Standard
import Rumqtt.V5.Codec.Stream
import Rumqtt.V5.Driver

namespace Rumqtt.V5

open Mqttbytes Handler List

variable {t : Rumqtt.Input (List Block)} {publish : Publish} {header : FixedHeader} {frame : Bytes}

/-! ### Publishes among the events -/

def Event.publish? : Event → Option Publish
  | .incoming (.publish publish) => some publish
  | _ => none

/-- The `Incoming` publish events, in order. -/
def publishesIn (events : List Event) : List Publish := events.filterMap Event.publish?

@[simp] theorem publishesIn_nil : publishesIn [] = [] := rfl

@[simp] theorem publishesIn_append (first second : List Event) :
    publishesIn (first ++ second) = publishesIn first ++ publishesIn second :=
  filterMap_append

/-- Events of this side show no publish. -/
theorem Raises.publishesIn {before after : List Event} (raises : Raises before after) :
    publishesIn after = publishesIn before := by
  obtain ⟨raised, rfl, own⟩ := raises
  have none : ∀ event ∈ raised, event.publish? = none := by
    intro event member
    cases event with
    | incoming packet => cases all_eq_true.mp own _ member
    | _ => rfl
  rw [publishesIn_append, append_right_eq_self]
  exact filterMap_eq_nil_iff.mpr none

/-! ### Everything but an incoming publish -/

namespace TopicAliasState

@[simp] theorem incoming_recordAutoTopicAliasUse (a : TopicAliasState) (aliasId : UInt16) :
    (a.recordAutoTopicAliasUse aliasId).incoming = a.incoming := by
  unfold recordAutoTopicAliasUse
  split <;> rfl

@[simp] theorem incoming_recordAutoTopicAlias (a : TopicAliasState) (pending : PendingAutoTopicAlias) :
    (a.recordAutoTopicAlias pending).incoming = a.incoming := by
  unfold recordAutoTopicAlias advanceNextAutoTopicAlias
  dsimp only
  split <;> simp

@[simp] theorem incoming_recordOutgoingTopicAlias (a : TopicAliasState) (publish : Publish) :
    (a.recordOutgoingTopicAlias publish).incoming = a.incoming := by
  unfold recordOutgoingTopicAlias
  split
  · dsimp only
    split
    · split <;> rfl
    · rfl
  · rfl

end TopicAliasState

namespace MqttState

variable {s t u : MqttState} {pool : List Request}
variable {packet : Packet} {publish : Publish}

/-- The publishes shown to the application so far, or about to be. -/
def shown (s : MqttState) : List Publish := publishesIn s.events

/-- **No alias is bound and no publish is shown** from one state to the other. -/
structure Quieter (s t : MqttState) : Prop where
  aliases : ∀ aliasId topic, t.topicAliases.incoming aliasId = some topic →
    s.topicAliases.incoming aliasId = some topic
  shown : t.shown = s.shown

theorem Quieter.of_eq (aliases : t.topicAliases.incoming = s.topicAliases.incoming)
    (shown : t.shown = s.shown) : Quieter s t := by
  refine ⟨fun aliasId topic bound => ?_, shown⟩
  rwa [aliases] at bound

/-- All bindings have ended. -/
theorem Quieter.of_unbound (unbound : ∀ aliasId, t.topicAliases.incoming aliasId = none)
    (shown : t.shown = s.shown) : Quieter s t := by
  refine ⟨fun aliasId topic bound => ?_, shown⟩
  rw [unbound] at bound
  cases bound

theorem Quieter.refl (s : MqttState) : Quieter s s := ⟨fun _ _ bound => bound, rfl⟩

theorem Quieter.trans (first : Quieter s t) (second : Quieter t u) : Quieter s u :=
  ⟨fun aliasId topic bound => first.aliases aliasId topic (second.aliases aliasId topic bound),
    second.shown.trans first.shown⟩

theorem shown_pushEvent (s : MqttState) {event : Event} (silent : event.publish? = none) :
    (s.pushEvent event).shown = s.shown := by
  simp [MqttState.shown, pushEvent, publishesIn, silent]

theorem shown_maybeShrink (s : MqttState) :
    s.maybeShrinkOutgoingTrackingCapacity.shown = s.shown := by
  simp [MqttState.shown]

theorem incoming_maybeShrink (s : MqttState) :
    s.maybeShrinkOutgoingTrackingCapacity.topicAliases = s.topicAliases := by
  unfold maybeShrinkOutgoingTrackingCapacity
  dsimp only
  split <;> rfl

theorem incoming_recordAliases (publish : Publish) (action : Option AutoTopicAliasAction)
    (a : TopicAliasState) : (recordAliases publish action a).incoming = a.incoming := by
  unfold recordAliases
  dsimp only
  rw [TopicAliasState.incoming_recordOutgoingTopicAlias]
  split
  · exact TopicAliasState.incoming_recordAutoTopicAlias ..
  · exact TopicAliasState.incoming_recordAutoTopicAliasUse ..
  · rfl

/-- **A request binds no alias and shows no publish.** -/
theorem Requested.quieter {request : Request} {replay : Bool} {notice : Option TrackedNotice}
    {result : RequestResult}
    (requested : Requested s notice request replay result t) : Quieter s t := by
  cases requested with
  | rejected => exact .refl s
  | refused => exact .of_eq rfl rfl
  | qos0 => exact .of_eq (incoming_recordAliases ..) (shown_pushEvent _ rfl)
  | fresh => exact .of_eq (incoming_recordAliases ..) (shown_pushEvent _ rfl)
  | parked => exact .of_eq rfl (shown_pushEvent _ rfl)
  | replayed => exact .of_eq (incoming_recordAliases ..) (shown_pushEvent _ rfl)
  | pubrelResumed => exact .of_eq rfl (shown_pushEvent _ rfl)
  | pubrelAgain => exact .of_eq rfl (shown_pushEvent _ rfl)
  | subscribe => exact .of_eq rfl (shown_pushEvent _ rfl)
  | subscribeAgain => exact .of_eq rfl (shown_pushEvent _ rfl)
  | unsubscribe => exact .of_eq rfl (shown_pushEvent _ rfl)
  | unsubscribeAgain => exact .of_eq rfl (shown_pushEvent _ rfl)
  | pingFailed => exact .of_eq rfl rfl
  | ping => exact .of_eq rfl (shown_pushEvent _ rfl)
  | disconnect => exact .of_eq rfl s.disconnecting_events.publishesIn
  | puback => exact .of_eq rfl (shown_pushEvent _ rfl)
  | pubrec => exact .of_eq rfl (shown_pushEvent _ rfl)
  | pubrecFailure => exact .of_eq rfl (shown_pushEvent _ rfl)
  | auth _ _ _ _ kept => exact .of_eq rfl kept.publishesIn

theorem Settled.incoming {pkid : PacketId} {outgoing : Option Packet}
    (settled : Settled s pkid outgoing t) : t.topicAliases.incoming = s.topicAliases.incoming := by
  cases settled with
  | unparked => exact TopicAliasState.incoming_recordOutgoingTopicAlias ..
  | quiet => rw [incoming_maybeShrink]

/-- **An incoming packet other than a publish binds no alias and shows no publish**; a CONNACK ends all
bindings. -/
theorem Dispatched.quieter {result : DispatchResult}
    (dispatched : Dispatched s packet result t) (other : ∀ publish, packet ≠ .publish publish) :
    Quieter s t := by
  have shown : t.shown = s.shown := dispatched.events.publishesIn
  cases dispatched with
  | publish publish => exact absurd rfl (other publish)
  | connected => exact .of_unbound (fun _ => rfl) shown
  | puback _ _ _ _ _ settled => exact .of_eq settled.incoming shown
  | pubrecFailed _ _ _ _ _ _ settled => exact .of_eq settled.incoming shown
  | pubcomp _ _ _ _ _ settled => exact .of_eq settled.incoming shown
  | _ => exact .of_eq rfl shown

theorem retainFailurePacket_quieter (s : MqttState) (packet : Packet) :
    Quieter s (s.retainFailurePacket packet) := by
  unfold MqttState.retainFailurePacket
  split <;> exact .of_eq rfl rfl

theorem shown_queueIncoming (t : MqttState) (before : Nat) {seen : Packet}
    (silent : (Event.incoming seen).publish? = none) :
    (t.queueIncoming before seen).shown = t.shown := by
  have whole := publishesIn_append (t.events.take before) (t.events.drop before)
  rw [take_append_drop] at whole
  unfold MqttState.shown queueIncoming
  rw [publishesIn_append, whole]
  simp [publishesIn, silent]

theorem silent_other (other : ∀ publish, packet ≠ .publish publish) :
    (Event.incoming packet).publish? = none := by
  cases packet with
  | publish publish => exact absurd rfl (other publish)
  | _ => rfl

theorem Dispatched.seen_eq {seen : Packet} {effects : IncomingPacketEffects}
    {result : DispatchResult}
    (dispatched : Dispatched s packet result t) (passed : result = .ok (seen, effects))
    (other : ∀ publish, packet ≠ .publish publish) : seen = packet := by
  cases dispatched with
  | publish publish => exact absurd rfl (other publish)
  | refused publish => exact absurd rfl (other publish)
  | rejected => cases passed
  | failed => cases passed
  | auth packet outgoing =>
    cases outgoing with
    | error error => cases passed
    | ok answer =>
      cases passed
      rfl
  | _ =>
    cases passed
    rfl

/-- **The whole of handling such a packet is as quiet.** -/
theorem Handled.quieter {result : PacketResult}
    (handled : Handled s packet result t) (other : ∀ publish, packet ≠ .publish publish) :
    Quieter s t := by
  have begun := s.retainFailurePacket_quieter packet
  have queued {u : MqttState} {seen : Packet} (same : seen = packet) (quieter : Quieter s u) :
      Quieter s (u.queueIncoming s.events.length seen) :=
    quieter.trans (.of_eq rfl (shown_queueIncoming u _ (same ▸ silent_other other)))
  cases handled with
  | shown _ _ _ dispatched =>
    exact queued (dispatched.seen_eq rfl other) (begun.trans (dispatched.quieter other))
  | hidden _ _ _ dispatched => exact begun.trans (dispatched.quieter other)
  | errorShown _ _ dispatched => exact queued rfl (begun.trans (dispatched.quieter other))
  | errorHidden _ _ dispatched => exact begun.trans (dispatched.quieter other)

/-! ### An incoming publish -/

theorem WrongAlias.not_resolved {topic : Bytes} {incoming : AliasMap}
    (wrong : s.WrongAlias publish) : ¬ Resolution s publish topic incoming := by
  obtain ⟨aliasId, carries, reason⟩ := wrong
  intro resolution
  cases resolution with
  | unaliased plain =>
    rw [plain] at carries
    cases carries
  | binding other carries' within named =>
    obtain rfl := Option.some.inj (carries'.symm.trans carries)
    rcases reason with above | ⟨unnamed, -⟩
    · exact absurd above (UInt16.not_lt.mpr within)
    · exact named unnamed
  | lookup other topic carries' within unnamed bound =>
    obtain rfl := Option.some.inj (carries'.symm.trans carries)
    rcases reason with above | ⟨-, unbound⟩
    · exact absurd above (UInt16.not_lt.mpr within)
    · rw [unbound] at bound
      cases bound

theorem PublishOutcome.incoming {outgoing : Option Packet}
    (outcome : PublishOutcome s publish outgoing t) :
    t.topicAliases.incoming = s.topicAliases.incoming := by
  cases outcome <;> rfl

/-- A DISCONNECT with the code of an error. -/
def isFailure (disconnect : Disconnect) : Bool := 0x80 ≤ disconnectCode disconnect.reasonCode

/-- What ends a connection when its packet has been handled. -/
def givesUp : PacketResult → Bool
  | .error _ => true
  | .ok effects =>
    match effects.outgoing with
    | some (.disconnect disconnect) => isFailure disconnect
    | _ => false

/-- **What an incoming publish does to the aliases and to the publishes shown.** -/
inductive Answered (s : MqttState) (publish : Publish) :
    PacketResult → MqttState → Prop where
  | wrongAlias (effects : IncomingPacketEffects) (t : MqttState) (wrong : s.WrongAlias publish)
    (gone : givesUp (.ok effects) = true)
    (aliases : t.topicAliases.incoming = s.topicAliases.incoming) (hidden : t.shown = s.shown) :
    Answered s publish (.ok effects) t
  | resolved (topic : Bytes) (incoming : AliasMap) (effects : IncomingPacketEffects) (t : MqttState)
    (resolution : Resolution s publish topic incoming) (aliases : t.topicAliases.incoming = incoming)
    (shown : t.shown = s.shown ∨
      givesUp (.ok effects) = false ∧ t.shown = s.shown ++ [{ publish with topic }]) :
    Answered s publish (.ok effects) t

theorem shown_queuePublish (kept : Raises s.events t.events) (seen : Publish) :
    (t.queueIncoming s.events.length (.publish seen)).shown = s.shown ++ [seen] := by
  have later : t.shown = s.shown := kept.publishesIn
  obtain ⟨raised, added, -⟩ := kept
  unfold MqttState.shown at later ⊢
  unfold queueIncoming
  rw [added, publishesIn_append, append_right_eq_self] at later
  rw [added, take_left, drop_left, publishesIn_append]
  exact congrArg (publishesIn s.events ++ seen :: ·) later

theorem givesUp_of_visible {seen : Publish} {outgoing : Option Packet}
    (visible : refusedPublish (.publish seen) { outgoing } = false) :
    givesUp (.ok { outgoing }) = false := by
  unfold givesUp
  cases outgoing with
  | none => rfl
  | some packet =>
    cases packet with
    | disconnect => cases visible
    | _ => rfl

/-- **Every incoming publish is answered so.** -/
theorem Handled.answered {result : PacketResult} (handled : Handled s (.publish publish) result t) :
    Answered s publish result t := by
  cases handled with
  | shown seen effects u dispatched visible =>
    have refused := (Bool.or_eq_false_iff.mp visible).1
    cases dispatched with
    | refused => cases refused
    | publish _ topic incoming outgoing _ resolution outcome =>
      refine .resolved topic incoming _ _ resolution outcome.incoming (.inr ⟨?_, ?_⟩)
      · exact givesUp_of_visible refused
      · exact shown_queuePublish outcome.events _
  | hidden seen effects u dispatched =>
    cases dispatched with
    | refused _ disconnect wrong refuses =>
      have gone : givesUp (.ok { outgoing := some (.disconnect disconnect) }) = true := by
        rcases refuses with rfl | rfl <;> rfl
      exact .wrongAlias _ _ wrong gone rfl s.disconnecting_events.publishesIn
    | publish _ topic incoming outgoing _ resolution outcome =>
      exact .resolved topic incoming _ _ resolution outcome.incoming (.inl outcome.events.publishesIn)
  | errorShown _ _ dispatched =>
    cases dispatched with
    | rejected _ _ refusable => cases refusable
    | failed _ _ _ _ refusable => cases refusable
  | errorHidden _ _ dispatched =>
    cases dispatched with
    | rejected _ _ refusable => cases refusable
    | failed _ _ _ _ refusable => cases refusable

end MqttState

/-! ### What a frame carries -/

/-- What a reader of publishes makes of a frame; nothing where it is no PUBLISH with a body. -/
def publishBy (reader : FixedHeader → FrameReader Publish) (frame : Bytes) :
    Option (Except Error Publish) :=
  match parseFixedHeader frame with
  | .error _ => none
  | .ok header =>
    if packetType header = .ok .publish ∧ header.remainingLen ≠ 0 then
      match (reader header).run ⟨frame, []⟩ with
      | .ok (result, _) => some result
      | .error _ => none
    else none

/-- The publish that the broker put into a frame. -/
def sentPublish (frame : Bytes) : Option (Except Error Publish) := publishBy Publish.readStandard frame

/-- The publish that the decoder finds in a frame. -/
def foundPublish (frame : Bytes) : Option (Except Error Publish) := publishBy Publish.read frame

/-- The aliases after a publish: one with a topic and an alias binds it. -/
def bindPublish (aliases : AliasMap) (publish : Publish) : AliasMap :=
  match publishTopicAlias publish with
  | some aliasId => if publish.topic ≠ [] then aliases.insert aliasId publish.topic else aliases
  | none => aliases

/-- The aliases after a frame. -/
def bindFrame (aliases : AliasMap) (frame : Bytes) : AliasMap :=
  match sentPublish frame with
  | some (.ok publish) => bindPublish aliases publish
  | _ => aliases

/-- **The aliases that the frames of a connection have bound**, each to the topic it was bound to
last. -/
def bindings (frames : List Bytes) : AliasMap := frames.foldl bindFrame fun _ => none

theorem bindings_append (frames : List Bytes) (frame : Bytes) :
    bindings (frames ++ [frame]) = bindFrame (bindings frames) frame := by
  unfold bindings
  rw [foldl_append]
  rfl

/-- A frame that is no PUBLISH, or one whose property block is orderly. -/
def OrderlyFrame (frame : Bytes) : Prop :=
  match parseFixedHeader frame with
  | .error _ => True
  | .ok header => packetType header = .ok .publish → OrderlyPublish header frame

/-- The publish in a frame has a topic or an alias. -/
def HasTopicOrAlias (frame : Bytes) : Prop :=
  match sentPublish frame with
  | some (.ok publish) => publish.topic ≠ [] ∨ publishTopicAlias publish ≠ none
  | _ => True

/-- **A faithful frame.** -/
def Faithful (frame : Bytes) : Prop := OrderlyFrame frame ∧ HasTopicOrAlias frame

/-! ### The decoder on a frame -/

theorem not_publish {α : Type} {reader : FrameReader α} {wrap : α → FrameReader Packet}
    (wraps : ∀ a, ∃ packet, wrap a = pure packet ∧ ∀ publish, packet ≠ .publish publish)
    {s : Rumqtt.Input (List Block)} :
    (reader >>= wrap).run s ≠ .ok (.ok (.publish publish), t) := by
  intro ran
  obtain ⟨a, u, -, last⟩ := of_run_bind ran
  obtain ⟨packet, same, other⟩ := wraps a
  rw [same] at last
  cases last
  exact other publish rfl

/-- Only the frame of a PUBLISH is read as one. -/
theorem packetType_of_read_publish {s : Rumqtt.Input (List Block)}
    (ran : (Packet.readWhole header).run s = .ok (.ok (.publish publish), t)) :
    packetType header = .ok .publish ∧ header.remainingLen ≠ 0 := by
  unfold Packet.readWhole at ran
  obtain ⟨type, s, known, later⟩ := of_run_bind ran
  obtain ⟨isType, rfl⟩ := of_run_ofExcept known
  obtain ⟨_, s, checked, inside⟩ := of_run_bind later
  obtain ⟨-, rfl⟩ := of_run_ofExcept checked
  unfold Packet.readFrame at inside
  by_cases empty : header.remainingLen = 0
  · rw [if_pos empty] at inside
    cases type with
    | disconnect => exact absurd inside (not_publish fun _ => ⟨_, rfl, by
      intro publish same
      cases same⟩)
    | _ => cases inside
  · rw [if_neg empty] at inside
    cases type with
    | publish => exact ⟨isType, empty⟩
    | pingReq => cases inside
    | pingResp => cases inside
    | _ => exact absurd inside (not_publish fun _ => ⟨_, rfl, by
      intro publish same
      cases same⟩)

theorem readWhole_publish (isPublish : packetType header = .ok .publish)
    (body : header.remainingLen ≠ 0) : Packet.readWhole header = (do
      let packet ← Publish.read header
      return .publish packet) := by
  unfold Packet.readWhole
  rw [isPublish]
  show (do
    ofExcept (validateFixedHeaderFlags .publish header.byte1)
    Packet.readFrame header .publish : FrameReader Packet) = _
  have valid : validateFixedHeaderFlags .publish header.byte1 = .ok () := rfl
  rw [valid]
  show Packet.readFrame header .publish = _
  unfold Packet.readFrame
  rw [if_neg body]

/-- **What the decoder makes of a frame.** A PUBLISH with a body is the one that `foundPublish` finds;
anything else is no publish. -/
theorem decoded_publish (whole : HasHeader header frame) {result : Except Error Packet}
    (ran : (Packet.readWhole header).run ⟨frame, []⟩ = .ok (result, t)) :
    (∃ found, foundPublish frame = some found ∧ result = found.map .publish) ∨
    foundPublish frame = none ∧ sentPublish frame = none ∧
      ∀ publish, result ≠ .ok (.publish publish) := by
  have parsed : parseFixedHeader frame = .ok header := by
    simpa using whole.parse []
  by_cases isPublish : packetType header = .ok .publish ∧ header.remainingLen ≠ 0
  · refine .inl ?_
    rw [readWhole_publish isPublish.1 isPublish.2] at ran
    have finds {found : Except Error Publish} {u : Rumqtt.Input (List Block)}
        (read : (Publish.read header).run ⟨frame, []⟩ = .ok (found, u)) :
        foundPublish frame = some found := by
      simp only [foundPublish, publishBy, parsed, if_pos isPublish, read]
    cases read : (Publish.read header).run ⟨frame, []⟩ with
    | error panic =>
      rw [run_bind_panic read] at ran
      cases ran
    | ok done =>
      obtain ⟨found, u⟩ := done
      refine ⟨found, finds read, ?_⟩
      cases found with
      | error error =>
        cases (run_bind_error read).symm.trans ran
        rfl
      | ok publish =>
        cases (run_bind_ok read).symm.trans ran
        rfl
  · refine .inr ⟨?_, ?_, ?_⟩
    · simp only [foundPublish, publishBy, parsed, if_neg isPublish]
    · simp only [sentPublish, publishBy, parsed, if_neg isPublish]
    · rintro publish rfl
      exact isPublish (packetType_of_read_publish ran)

theorem bindFrame_other (other : ∀ publish, sentPublish frame ≠ some (.ok publish))
    (aliases : AliasMap) : bindFrame aliases frame = aliases := by
  unfold bindFrame
  split
  · rename_i publish found
    exact absurd found (other publish)
  · rfl

theorem bindFrame_publish (sent : sentPublish frame = some (.ok publish)) (aliases : AliasMap) :
    bindFrame aliases frame = bindPublish aliases publish := by
  unfold bindFrame
  rw [sent]

/-- **What the decoder finds in an orderly frame** is what was sent, or it refuses an alias of zero. -/
theorem OrderlyFrame.found (orderly : OrderlyFrame frame) {found : Except Error Publish}
    (finds : foundPublish frame = some found) :
    sentPublish frame = some found ∧ (∀ publish, found = .ok publish →
        publishTopicAlias publish ≠ some 0) ∨
      found = .error aliasInvalid := by
  unfold foundPublish publishBy at finds
  unfold OrderlyFrame at orderly
  unfold sentPublish publishBy
  split at finds
  · cases finds
  rename_i header parsed
  rw [parsed] at orderly
  split at finds
  · rename_i isPublish
    rw [if_pos isPublish]
    have agree := agree_publish (orderly isPublish.1)
    split at finds
    · rename_i result t ran
      obtain rfl := Option.some.inj finds
      rcases agree with ⟨same, fine⟩ | ⟨u, refused⟩
      · refine .inl ⟨?_, ?_⟩
        · rw [← same, ran]
        · rintro publish rfl
          exact fine publish t ran
      · obtain ⟨rfl, -⟩ := Prod.mk.inj (Except.ok.inj (ran.symm.trans refused))
        exact .inr rfl
    · cases finds
  · cases finds

theorem Faithful.named (faithful : Faithful frame) (sends : sentPublish frame = some (.ok publish)) :
    publish.topic ≠ [] ∨ publishTopicAlias publish ≠ none := by
  have named := faithful.2
  unfold HasTopicOrAlias at named
  rwa [sends] at named

/-! ### Operations on this side -/

open MqttState

/-- An operation that is neither a packet nor the end of the connection. -/
def Op.isLocal : Op → Bool
  | .incoming _ | .clean => false
  | _ => true

namespace Driver

variable {d : Driver}

/-- **Whatever is done on this side binds no alias and shows no publish.** -/
theorem quieter_step (healthy : d.Healthy) {op : Op} (isLocal : op.isLocal = true) :
    (d.step op).Satisfies Excused fun after => Quieter d.state after.state := by
  refine (healthy.step_cases op).mono fun after ⟨stepped, _⟩ => ?_
  cases stepped with
  | requested _ requested =>
    rw [state_afterRequest]
    exact requested.quieter
  | replayed _ _ requested =>
    rw [state_afterRequest]
    exact requested.quieter
  | received => cases isLocal
  | lost => cases isLocal
  | reset | restored => exact .of_unbound (fun _ => rfl) rfl
  | shrunk => exact .of_eq (by rw [incoming_maybeShrink]) (shown_maybeShrink _)
  | absent | forgotten | unrestored | kept => exact .refl d.state

theorem lost_quieter (d : Driver) : Quieter d.state d.lost.state := by
  refine .of_unbound (fun _ => rfl) ?_
  show d.state.afterClean.shown = d.state.shown
  unfold afterClean
  split
  · exact shown_maybeShrink _
  · rfl

end Driver

/-! ### The link -/

/-- The frame at the front of the bytes, once it is there. -/
def front (limit : Option UInt32) (buffer : Bytes) : Option Bytes :=
  match check buffer limit with
  | .ok header => some (buffer.take header.frameLength)
  | .error _ => none

/-- **The state machine behind the decoder.** -/
structure Link where
  /-- `max_incoming_size` of the codec. -/
  limit : Option UInt32
  driver : Driver
  /-- Bytes that have arrived and are not read yet. -/
  buffer : Bytes
  /-- The connection has ended with an error. -/
  ended : Bool
  /-- The publishes that the application has polled. -/
  given : List Publish
  /-- Observer: the frames read on this connection. -/
  frames : List Bytes
  /-- Observer: the frames read on the connections before. -/
  past : List (List Bytes)
  /-- Observer: for every publish shown, the frame it was read from, behind the frames before it on the
  connection. -/
  origins : List (List Bytes × Bytes)

inductive LinkOp where
  /-- Bytes from the broker. -/
  | arrive (bytes : Bytes)
  /-- One round of `readb`: the next frame is decoded and handled. -/
  | read
  /-- The application takes an event. -/
  | poll
  /-- An operation on this side. -/
  | act (op : Op)
  /-- The connection is given up for another. -/
  | lose

/-- `discard_last_outgoing_disconnect_event` -/
def MqttState.discardLastOutgoingDisconnectEvent (s : MqttState) : MqttState :=
  match s.events.getLast? with
  | some (.outgoing .disconnect) => { s with events := s.events.dropLast }
  | _ => s

namespace Link

def new (options : StateOptions) (limit : Option UInt32) : Link where
  limit
  driver := .new options
  buffer := []
  ended := false
  given := []
  frames := []
  past := []
  origins := []

/-- The state after a packet; a DISCONNECT that is written at once leaves no event. -/
def settle (driver : Driver) : PacketResult → Driver
  | .error _ => driver
  | .ok effects =>
    if givesUp (.ok effects) then
      { driver with state := driver.state.discardLastOutgoingDisconnectEvent }
    else driver

section

variable (link : Link)

/-- What `readb` does with a packet. -/
def handle (packet : Packet) : Checked Link := do
  let (result, _) ← (handleIncomingPacketWithEffects packet).run link.driver.state
  let driver ← link.driver.receive packet
  return { link with driver := settle driver result, ended := givesUp result }

/-- What `readb` does with the result of the decoder. -/
def proceed : Except Error (Option Packet) → Checked Link
  | .ok none => return link
  | .ok (some packet) => link.handle packet
  | .error _ => return { link with ended := true }

/-- The bytes that are left, and the observer's line about the frame that was taken. -/
def took (rest : Bytes) : Link :=
  { link with buffer := rest, frames := link.frames ++ (front link.limit link.buffer).toList }

/-- The same for a frame that is there. -/
def taking (frame rest : Bytes) : Link :=
  { link with buffer := rest, frames := link.frames ++ [frame] }

/-- The publishes that the application has polled or is about to. -/
def publishes : List Publish := link.given ++ link.driver.state.shown

/-- The observer's lines about the publishes that are new. -/
def noting (after : Link) : Link :=
  { after with
    origins := link.origins ++ List.replicate (after.publishes.length - link.publishes.length)
      (link.frames, (front link.limit link.buffer).getD []) }

/-- **One frame is decoded and handled.** -/
def read : Checked Link := do
  let (decoded, rest) ← (decode link.limit).run link.buffer
  let after ← (link.took rest).proceed decoded
  return link.noting after

def poll : Link :=
  match link.driver.state.events with
  | [] => link
  | event :: rest =>
    { link with
      driver := { link.driver with state := { link.driver.state with events := rest } }
      given := link.given ++ event.publish?.toList }

end

/-- The clean-up after a lost connection. -/
def lose (link : Link) : Checked Link := do
  let driver ← link.driver.lose
  return { link with
    driver
    buffer := []
    ended := false
    frames := []
    past := link.past ++ [link.frames] }

def step (link : Link) : LinkOp → Checked Link
  | .arrive bytes => return { link with buffer := link.buffer ++ bytes }
  | .read => if link.ended then return link else link.read
  | .poll => return link.poll
  | .act op =>
    if op.isLocal then do
      let driver ← link.driver.step op
      return { link with driver }
    else return link
  | .lose => link.lose

/-- **The condition on a run**: the frame about to be read is faithful. -/
def FaithfulRead (link : Link) : LinkOp → Prop
  | .read => ∀ frame ∈ front link.limit link.buffer, Faithful frame
  | _ => True

/-! ### The invariant -/

/-- **The publish in a frame**, under its own topic or under the one bound to its alias by the frames
before. -/
def Carried (origin : List Bytes × Bytes) (publish : Publish) : Prop :=
  ∃ sent, sentPublish origin.2 = some (.ok sent) ∧ publish = { sent with topic := publish.topic } ∧
    publish.topic ≠ [] ∧
    (publish.topic = sent.topic ∨ sent.topic = [] ∧ ∃ aliasId,
      publishTopicAlias sent = some aliasId ∧ bindings origin.1 aliasId = some publish.topic)

/-- **Every publish given to the application, or waiting for it, is the one in the frame that was read
when it was shown**, and has its topic. -/
structure TopicsResolved (link : Link) : Prop where
  carried : Forall₂ Carried link.origins link.publishes
  /-- The frames before are those of the same connection. -/
  placed : ∀ origin ∈ link.origins, ∃ connection ∈ link.frames :: link.past,
    origin.1 ++ [origin.2] <+: connection

/-- A table of topics that is a part of another. -/
def Known (whole part : AliasMap) : Prop :=
  ∀ aliasId topic, part aliasId = some topic → topic ≠ [] ∧ whole aliasId = some topic

/-- The invariant of runs over faithful frames. -/
structure Inv (link : Link) : Prop where
  healthy : link.driver.Healthy
  /-- While the connection lasts, the table is a part of the broker's view. -/
  aliases : link.ended = false → Known (bindings link.frames) link.driver.state.topicAliases.incoming
  resolved : link.TopicsResolved

variable {link : Link}

theorem inv_new (options : StateOptions) (limit : Option UInt32) : (new options limit).Inv where
  healthy := Driver.healthy_new options
  aliases := fun _ _ _ bound => nomatch bound
  resolved := ⟨.nil, fun _ member => nomatch member⟩

theorem Inv.quieter (inv : link.Inv) {driver : Driver} (healthy : driver.Healthy)
    (quieter : Quieter link.driver.state driver.state) : { link with driver }.Inv where
  healthy := healthy
  aliases := fun lasts aliasId topic bound =>
    inv.aliases lasts aliasId topic (quieter.aliases aliasId topic bound)
  resolved := by
    refine ⟨?_, inv.resolved.placed⟩
    show Forall₂ Carried link.origins (link.given ++ driver.state.shown)
    rw [quieter.shown]
    exact inv.resolved.carried

theorem discard_quieter (s : MqttState) : Quieter s s.discardLastOutgoingDisconnectEvent := by
  unfold discardLastOutgoingDisconnectEvent
  split
  · rename_i last
    obtain ⟨before, same⟩ := List.getLast?_eq_some_iff.mp last
    refine .of_eq rfl ?_
    unfold MqttState.shown
    rw [same, dropLast_concat, publishesIn_append]
    simp [publishesIn, Event.publish?]
  · exact .refl s

theorem settle_quieter (driver : Driver) (result : PacketResult) :
    Quieter driver.state (settle driver result).state := by
  unfold settle
  split
  · exact .refl _
  · split
    · exact discard_quieter driver.state
    · exact .refl _

theorem healthy_congr {driver : Driver} (healthy : driver.Healthy) {s : MqttState}
    (sound : ∀ pool, driver.state.Sound pool → s.Sound pool) :
    { driver with state := s }.Healthy := by
  obtain ⟨live, stale, same, kept, releases⟩ := healthy
  exact ⟨live, stale, same, sound live kept, releases⟩

theorem settle_healthy {driver : Driver} (healthy : driver.Healthy)
    (result : PacketResult) : (settle driver result).Healthy := by
  unfold settle
  split
  · exact healthy
  · split
    · refine healthy_congr healthy fun pool sound => ?_
      unfold discardLastOutgoingDisconnectEvent
      split
      · exact { sound with }
      · exact sound
    · exact healthy

theorem handle_run (link : Link) (healthy : link.driver.Healthy) (packet : Packet) :
    ∃ result t, Handled link.driver.state packet result t ∧ ∃ driver, driver.Healthy ∧ Quieter t driver.state ∧
        link.handle packet = .ok { link with driver, ended := givesUp result } := by
  have kept := Driver.healthy_step (.incoming packet) healthy
  obtain ⟨live, stale, same, sound, releases⟩ := healthy
  obtain ⟨result, t, ran, handled⟩ := sound.handleIncoming_run packet
  have received : link.driver.receive packet = .ok (link.driver.afterPacket packet result t) := by
    refine Checked.bind_ok.mpr ⟨(result, t), ran, ?_⟩
    cases result <;> rfl
  have after : (link.driver.afterPacket packet result t).Healthy := by
    have stepped : link.driver.step (.incoming packet) =
        .ok (link.driver.afterPacket packet result t) := received
    rw [stepped] at kept
    exact kept
  refine ⟨result, t, handled, _, settle_healthy after result, ?_,
    Checked.bind_ok.mpr ⟨_, ran, Checked.bind_ok.mpr ⟨_, received, rfl⟩⟩⟩
  have settled := settle_quieter (link.driver.afterPacket packet result t) result
  rwa [Driver.state_afterPacket] at settled

theorem noting_nothing (link : Link) (ended : Bool) :
    link.noting { link with ended } = { link with ended } := by
  unfold noting publishes
  simp

/-- **What reading leads to**: nothing is there to be read, or a frame is taken and its result goes
on. -/
theorem read_run (link : Link) :
    (front link.limit link.buffer = none ∧ ∃ ended, link.read = .ok { link with ended }) ∨
    ∃ frame rest result, front link.limit link.buffer = some frame ∧
      link.read = ((link.taking frame rest).proceed (awaited result)).map link.noting ∧
      ((∃ found, foundPublish frame = some found ∧ result = found.map .publish) ∨
        foundPublish frame = none ∧ sentPublish frame = none ∧
          ∀ publish, result ≠ .ok (.publish publish)) := by
  have spec := Packet.read_spec link.limit link.buffer
  cases checked : check link.buffer link.limit with
  | error error =>
    rw [checked] at spec
    have nothing : front link.limit link.buffer = none := by
      unfold front
      rw [checked]
    have ran : link.read =
        ((link.took link.buffer).proceed (awaited (.error error))).map link.noting := by
      unfold Link.read
      rw [decode_of_read spec]
      rfl
    have same : link.took link.buffer = link := by
      unfold took
      rw [nothing]
      simp
    refine .inl ⟨nothing, ?_⟩
    rw [ran, same]
    cases error with
    | insufficientBytes n => exact ⟨link.ended, congrArg Except.ok (link.noting_nothing link.ended)⟩
    | _ => exact ⟨true, congrArg Except.ok (link.noting_nothing true)⟩
  | ok header =>
    rw [checked] at spec
    obtain ⟨-, whole, result, t, inside, -, read, -⟩ := spec
    have there : front link.limit link.buffer = some (link.buffer.take header.frameLength) := by
      unfold front
      rw [checked]
    refine .inr ⟨_, link.buffer.drop header.frameLength, result, there, ?_,
      decoded_publish whole inside⟩
    have ran : link.read =
        ((link.took (link.buffer.drop header.frameLength)).proceed (awaited result)).map
          link.noting := by
      unfold Link.read
      rw [decode_of_read read]
      rfl
    rw [ran]
    unfold took
    rw [there]
    rfl

theorem proceed_error (link : Link) (error : Error) :
    ∃ ended, link.proceed (awaited (.error error)) = .ok { link with ended } := by
  cases error with
  | insufficientBytes n => exact ⟨link.ended, rfl⟩
  | _ => exact ⟨true, rfl⟩

/-- **What handling a frame leaves behind**, before the observer has noted it: at most one publish, the
one in the frame, is new. -/
structure Proceeded (link : Link) (frame : Bytes) (after : Link) : Prop where
  healthy : after.driver.Healthy
  aliases : after.ended = false →
    Known (bindings (link.frames ++ [frame])) after.driver.state.topicAliases.incoming
  frames : after.frames = link.frames ++ [frame]
  past : after.past = link.past
  publishes : after.publishes = link.publishes ∨
    ∃ publish, Carried (link.frames, frame) publish ∧ after.publishes = link.publishes ++ [publish]

theorem TopicsResolved.noted (resolved : link.TopicsResolved) {frame : Bytes} {after : Link}
    (there : front link.limit link.buffer = some frame) (proceeded : Proceeded link frame after) :
    (link.noting after).TopicsResolved := by
  have origins : (link.noting after).origins = link.origins ++
      replicate (after.publishes.length - link.publishes.length) (link.frames, frame) := by
    unfold noting
    rw [there]
    rfl
  refine ⟨?_, fun origin member => ?_⟩
  · show Forall₂ Carried (link.noting after).origins after.publishes
    rw [origins]
    rcases proceeded.publishes with same | ⟨publish, carried, added⟩
    · rw [same, Nat.sub_self, replicate_zero, append_nil]
      exact resolved.carried
    · rw [added, List.length_append, length_singleton, Nat.add_sub_cancel_left]
      exact rel_append resolved.carried (.cons carried .nil)
  · show ∃ connection ∈ after.frames :: after.past, _
    rw [proceeded.frames, proceeded.past]
    rw [origins] at member
    rcases mem_append.mp member with older | new
    · obtain ⟨connection, among, before⟩ := resolved.placed origin older
      rcases mem_cons.mp among with rfl | earlier
      · exact ⟨_, mem_cons_self, before.trans (prefix_append _ _)⟩
      · exact ⟨connection, mem_cons_of_mem _ earlier, before⟩
    · obtain rfl := eq_of_mem_replicate new
      exact ⟨_, mem_cons_self, prefix_rfl⟩

theorem Inv.noted (inv : link.Inv) {frame : Bytes} {after : Link}
    (there : front link.limit link.buffer = some frame) (proceeded : Proceeded link frame after) :
    (link.noting after).Inv where
  healthy := proceeded.healthy
  aliases := by
    show after.ended = false → Known (bindings after.frames) _
    rw [proceeded.frames]
    exact proceeded.aliases
  resolved := inv.resolved.noted there proceeded

/-- **The table after a publish is a part of the broker's view after its frame**, and the topic under
which it is shown is the one the broker means. -/
theorem known_resolution {s : MqttState} {sent : Publish} {topic : Bytes}
    {incoming before : AliasMap} (known : Known before s.topicAliases.incoming)
    (either : sent.topic ≠ [] ∨ publishTopicAlias sent ≠ none)
    (resolution : Resolution s sent topic incoming) :
    Known (bindPublish before sent) incoming ∧ topic ≠ [] ∧
      (topic = sent.topic ∨ sent.topic = [] ∧ ∃ aliasId, publishTopicAlias sent = some aliasId ∧
        before aliasId = some topic) := by
  unfold bindPublish
  cases resolution with
  | unaliased plain =>
    rw [plain]
    have named : sent.topic ≠ [] := either.resolve_right (not_not.mpr plain)
    exact ⟨known, named, .inl rfl⟩
  | binding aliasId carries within named =>
    rw [carries]
    refine ⟨?_, named, .inl rfl⟩
    intro other topic bound
    dsimp only
    rw [if_pos named]
    unfold AliasMap.insert at bound ⊢
    by_cases same : other = aliasId
    · subst same
      rw [Function.update_self] at bound ⊢
      cases bound
      exact ⟨named, rfl⟩
    · rw [Function.update_of_ne same] at bound ⊢
      exact known other topic bound
  | lookup aliasId topic carries within unnamed bound =>
    obtain ⟨nonempty, there⟩ := known aliasId topic bound
    rw [carries]
    refine ⟨?_, nonempty, .inr ⟨unnamed, aliasId, rfl, there⟩⟩
    dsimp only
    rw [if_neg (not_not.mpr unnamed)]
    exact known

/-- **A publish that is read as it was sent.** -/
theorem Inv.readPublish (inv : link.Inv) (lasts : link.ended = false) {frame rest : Bytes}
    {sent : Publish} (sends : sentPublish frame = some (.ok sent))
    (either : sent.topic ≠ [] ∨ publishTopicAlias sent ≠ none) :
    ((link.taking frame rest).handle (.publish sent)).Satisfies Driver.Excused
      (Proceeded link frame) := by
  obtain ⟨result, t, outcome, driver, healthy, quieter, handled⟩ :=
    (link.taking frame rest).handle_run inv.healthy (.publish sent)
  rw [handled]
  have answered : Answered link.driver.state sent result t := outcome.answered
  have publishes (more : List Publish) (shown : t.shown = link.driver.state.shown ++ more) :
      { link.taking frame rest with driver, ended := givesUp result }.publishes =
        link.publishes ++ more := by
    show link.given ++ driver.state.shown = link.given ++ link.driver.state.shown ++ more
    rw [quieter.shown, shown, append_assoc]
  cases answered with
  | wrongAlias effects _ wrong gone _ hidden =>
    refine ⟨healthy, fun continues => ?_, rfl, rfl, .inl ?_⟩
    · rw [show givesUp (.ok effects) = false from continues] at gone
      cases gone
    · simpa using publishes [] (by simpa using hidden)
  | resolved topic incoming effects _ resolution table shown =>
    obtain ⟨known, nonempty, meant⟩ := known_resolution (inv.aliases lasts) either resolution
    refine ⟨healthy, fun _ aliasId topic bound => ?_, rfl, rfl, ?_⟩
    · rw [bindings_append, bindFrame_publish sends]
      refine known aliasId topic ?_
      rw [← table]
      exact quieter.aliases aliasId topic bound
    · rcases shown with hidden | ⟨-, added⟩
      · exact .inl (by simpa using publishes [] (by simpa using hidden))
      · exact .inr ⟨_, ⟨sent, sends, rfl, nonempty, meant⟩, publishes _ added⟩

/-- **A frame that binds nothing and shows nothing.** -/
theorem Inv.readOther (inv : link.Inv) {frame rest : Bytes} {driver : Driver} {ended : Bool}
    (lasts : link.ended = false) (other : ∀ publish, sentPublish frame ≠ some (.ok publish))
    (healthy : driver.Healthy) (quieter : Quieter link.driver.state driver.state) :
    Proceeded link frame { link.taking frame rest with driver, ended } where
  healthy := healthy
  aliases := fun _ aliasId topic bound => by
    rw [bindings_append, bindFrame_other other]
    exact inv.aliases lasts aliasId topic (quieter.aliases aliasId topic bound)
  frames := rfl
  past := rfl
  publishes := .inl (congrArg (link.given ++ ·) quieter.shown)

/-- **An alias of zero ends the connection.** -/
theorem Inv.readRefused (inv : link.Inv) (frame rest : Bytes) :
    Proceeded link frame { link.taking frame rest with ended := true } where
  healthy := inv.healthy
  aliases := nofun
  frames := rfl
  past := rfl
  publishes := .inl rfl

/-- **Reading a faithful frame keeps the invariant.** -/
theorem Inv.read (inv : link.Inv) (lasts : link.ended = false)
    (faithful : link.FaithfulRead .read) : link.read.Satisfies Driver.Excused Inv := by
  rcases link.read_run with ⟨-, ended, ran⟩ | ⟨frame, rest, result, there, ran, decoded⟩
  · rw [ran]
    exact ⟨inv.healthy, fun _ => inv.aliases lasts, inv.resolved.carried, inv.resolved.placed⟩
  · have fine : Faithful frame := faithful frame there
    suffices proceeded : ((link.taking frame rest).proceed (awaited result)).Satisfies
        Driver.Excused (Proceeded link frame) by
      rw [ran]
      exact Checked.Satisfies.bind proceeded fun after => inv.noted there
    have failed (error : Error) (other : ∀ publish, sentPublish frame ≠ some (.ok publish)) :
        ((link.taking frame rest).proceed (awaited (.error error))).Satisfies Driver.Excused
          (Proceeded link frame) := by
      obtain ⟨ended, stopped⟩ := (link.taking frame rest).proceed_error error
      rw [stopped]
      exact inv.readOther lasts other inv.healthy (.refl _)
    rcases decoded with ⟨found, finds, rfl⟩ | ⟨-, sends, notPublish⟩
    · rcases fine.1.found finds with ⟨sends, -⟩ | rfl
      · cases found with
        | error error =>
          refine failed error fun publish sent => ?_
          rw [sends] at sent
          cases sent
        | ok found => exact inv.readPublish lasts sends (fine.named sends)
      · exact inv.readRefused frame rest
    · have other : ∀ publish, sentPublish frame ≠ some (.ok publish) := by
        intro publish found
        rw [sends] at found
        cases found
      cases result with
      | error error => exact failed error other
      | ok packet =>
        have unlike : ∀ publish, packet ≠ .publish publish := fun publish same =>
          notPublish publish (congrArg Except.ok same)
        obtain ⟨result, t, outcome, driver, healthy, quieter, handled⟩ :=
          (link.taking frame rest).handle_run inv.healthy packet
        show ((link.taking frame rest).handle packet).Satisfies _ _
        rw [handled]
        exact inv.readOther lasts other healthy ((outcome.quieter unlike).trans quieter)

theorem Inv.poll (inv : link.Inv) : link.poll.Inv := by
  unfold Link.poll
  split
  · exact inv
  · rename_i event later waiting
    refine ⟨healthy_congr inv.healthy fun pool sound => { sound with }, inv.aliases, ?_,
      inv.resolved.placed⟩
    have queue : link.driver.state.shown = event.publish?.toList ++ publishesIn later := by
      unfold MqttState.shown publishesIn
      rw [waiting, filterMap_cons]
      cases event.publish? <;> rfl
    have same : link.publishes = link.given ++ event.publish?.toList ++ publishesIn later := by
      unfold publishes
      rw [queue, append_assoc]
    show Forall₂ Carried link.origins (link.given ++ event.publish?.toList ++ publishesIn later)
    rw [← same]
    exact inv.resolved.carried

theorem lose_run (inv : link.Inv) :
    link.lose = .ok { link with
      driver := link.driver.lost
      buffer := []
      ended := false
      frames := []
      past := link.past ++ [link.frames] } := by
  obtain ⟨live, stale, same, sound, releases⟩ := inv.healthy
  exact Checked.bind_ok.mpr ⟨_, Driver.lose_run sound, rfl⟩

/-- **One more operation keeps the invariant.** -/
theorem inv_step (link : Link) (op : LinkOp) (faithful : link.FaithfulRead op) (inv : link.Inv) :
    (link.step op).Satisfies Driver.Excused Inv := by
  cases op with
  | arrive bytes =>
    exact ⟨inv.healthy, inv.aliases, inv.resolved.carried, inv.resolved.placed⟩
  | read =>
    show (if link.ended = true then pure link else link.read : Checked Link).Satisfies _ _
    cases gone : link.ended with
    | true => exact inv
    | false => exact inv.read gone faithful
  | poll => exact inv.poll
  | act op =>
    show (if op.isLocal = true then _ else pure link : Checked Link).Satisfies _ _
    cases isLocal : op.isLocal with
    | false => exact inv
    | true =>
      refine Checked.Satisfies.bind ((Driver.healthy_step op inv.healthy).and
        (Driver.quieter_step inv.healthy isLocal)) ?_
      rintro driver ⟨healthy, quieter⟩
      exact inv.quieter healthy quieter
  | lose =>
    show link.lose.Satisfies _ _
    rw [lose_run inv]
    have quieter := link.driver.lost_quieter
    refine ⟨inv.healthy.lost, ?_, ?_, fun origin member => ?_⟩
    · rintro - aliasId topic ⟨⟩
    · show Forall₂ Carried link.origins (link.given ++ link.driver.lost.state.shown)
      rw [quieter.shown]
      exact inv.resolved.carried
    · obtain ⟨connection, among, before⟩ := inv.resolved.placed origin member
      refine ⟨connection, ?_, before⟩
      simp only [mem_cons, mem_append] at among ⊢
      tauto

/-! ### Publishes that end the connection -/

/-- **A publish that has no right topic**: its alias is zero, above the maximum or bound to nothing, or
it has neither topic nor alias. -/
inductive Topicless (frames : List Bytes) (clientMax : UInt16) (publish : Publish) : Prop where
  | zero (carries : publishTopicAlias publish = some 0)
  | above (aliasId : UInt16) (carries : publishTopicAlias publish = some aliasId)
    (outside : clientMax < aliasId)
  | unmapped (aliasId : UInt16) (carries : publishTopicAlias publish = some aliasId)
    (unnamed : publish.topic = []) (unbound : bindings frames aliasId = none)
  | neither (plain : publishTopicAlias publish = none) (unnamed : publish.topic = [])

/-- **Reading a publish without a right topic ends the connection** and shows nothing. -/
def TopiclessEnds (link : Link) : Prop :=
  ∀ frame sent, link.ended = false → front link.limit link.buffer = some frame → Faithful frame →
    sentPublish frame = some (.ok sent) →
    Topicless link.frames link.driver.state.topicAliases.clientMax sent →
    ∃ after, link.step .read = .ok after ∧ after.ended = true ∧ after.publishes = link.publishes

theorem handle_wrongAlias (link : Link) (healthy : link.driver.Healthy) {publish : Publish}
    (wrong : link.driver.state.WrongAlias publish) :
    ∃ after, link.handle (.publish publish) = .ok after ∧ after.ended = true ∧
      after.publishes = link.publishes := by
  obtain ⟨result, t, outcome, driver, -, quieter, handled⟩ := link.handle_run healthy (.publish publish)
  cases outcome.answered with
  | wrongAlias effects _ _ gone _ hidden =>
    exact ⟨_, handled, gone, congrArg (link.given ++ ·) (quieter.shown.trans hidden)⟩
  | resolved _ _ _ _ resolution => exact absurd resolution wrong.not_resolved

theorem Inv.topiclessEnds (inv : link.Inv) : link.TopiclessEnds := by
  intro frame sent lasts there faithful sends topicless
  have same : link.step .read = link.read := by
    show (if link.ended = true then pure link else link.read : Checked Link) = _
    rw [lasts]
    rfl
  rw [same]
  rcases link.read_run with ⟨nothing, -⟩ | ⟨frame', rest, result, there', ran, decoded⟩
  · rw [there] at nothing
    cases nothing
  · obtain rfl : frame' = frame := Option.some.inj (there'.symm.trans there)
    -- what the handling ends in, the observer notes
    have noted (after : Link) (gone : after.ended = true) (same : after.publishes = link.publishes)
        (proceeds : (link.taking frame' rest).proceed (awaited result) = .ok after) :
        ∃ after, link.read = .ok after ∧ after.ended = true ∧ after.publishes = link.publishes := by
      refine ⟨link.noting after, ?_, gone, same⟩
      rw [ran, proceeds]
      rfl
    rcases decoded with ⟨found, finds, rfl⟩ | ⟨-, absent, -⟩
    · rcases faithful.1.found finds with ⟨sends', aliased⟩ | rfl
      · obtain rfl : found = .ok sent := Option.some.inj (sends'.symm.trans sends)
        have wrong {aliasId : UInt16} (carries : publishTopicAlias sent = some aliasId)
            (reason : link.driver.state.topicAliases.clientMax < aliasId ∨ sent.topic = [] ∧
              link.driver.state.topicAliases.incoming aliasId = none) :
            ∃ after, link.read = .ok after ∧ after.ended = true ∧
              after.publishes = link.publishes := by
          obtain ⟨after, handled, gone, hidden⟩ :=
            (link.taking frame' rest).handle_wrongAlias inv.healthy ⟨aliasId, carries, reason⟩
          exact noted after gone hidden handled
        cases topicless with
        | zero carries => exact absurd carries (aliased sent rfl)
        | neither plain unnamed =>
          rcases faithful.named sends with named | other
          · exact absurd unnamed named
          · exact absurd plain other
        | above aliasId carries outside => exact wrong carries (.inl outside)
        | unmapped aliasId carries unnamed unbound =>
          refine wrong carries (.inr ⟨unnamed, ?_⟩)
          cases bound : link.driver.state.topicAliases.incoming aliasId with
          | none => rfl
          | some topic =>
            rw [(inv.aliases lasts aliasId topic bound).2] at unbound
            cases unbound
      · exact noted { link.taking frame' rest with ended := true } rfl rfl rfl
    · rw [sends] at absent
      cases absent

/-- No alias is bound when the next connection begins. -/
def LosesBindings (link : Link) : Prop :=
  ∀ after, link.step .lose = .ok after →
    after.frames = [] ∧ ∀ aliasId, after.driver.state.topicAliases.incoming aliasId = none

theorem Inv.losesBindings (inv : link.Inv) : link.LosesBindings := by
  intro after lost
  obtain rfl := Except.ok.inj ((lose_run inv).symm.trans lost)
  exact ⟨rfl, fun _ => rfl⟩

end Link

/-- **Incoming topics.** In every run over any number of connections, in which every frame that is read
is faithful: every publish given to the application is the one in the frame read when it was shown, it
has the topic of its packet or, where that is empty, the one most recently bound to its alias on its
connection, and the topic is not empty; a publish without a right topic ends the connection and is not shown; and no binding outlives its
connection. -/
theorem incoming_topics_resolved (options : StateOptions) (limit : Option UInt32) (ops : List LinkOp)
    (faithful : Admissible Link.step Link.FaithfulRead (.new options limit) ops) :
    (runSteps Link.step (.new options limit) ops).Satisfies Driver.Excused fun link =>
      link.TopicsResolved ∧ link.TopiclessEnds ∧ link.LosesBindings := by
  refine (faithful.run_invariant Link.inv_step (Link.inv_new options limit)).mono ?_
  intro link inv
  exact ⟨inv.resolved, inv.topiclessEnds, inv.losesBindings⟩

instance (frame : Bytes) : Decidable (OrderlyFrame frame) := by
  unfold OrderlyFrame
  split <;> infer_instance

instance (frame : Bytes) : Decidable (HasTopicOrAlias frame) := by
  unfold HasTopicOrAlias
  split <;> infer_instance

instance (frame : Bytes) : Decidable (Faithful frame) := inferInstanceAs (Decidable (_ ∧ _))

instance (link : Link) (op : LinkOp) : Decidable (link.FaithfulRead op) :=
  match op with
  | .read => inferInstanceAs (Decidable (∀ frame ∈ front link.limit link.buffer, Faithful frame))
  | .arrive _ | .poll | .act _ | .lose => .isTrue trivial

/-- A CONNACK, a publish that binds the alias 1, and one that uses it. -/
def boundThenUsed : List LinkOp :=
  [.arrive [0x20, 3, 0, 0, 0], .read,
    .arrive [0x30, 7, 0, 1, 97, 3, 35, 0, 1], .read, .arrive [0x30, 6, 0, 0, 3, 35, 0, 1], .read]

theorem incoming_topics_resolved_bound : Admissible Link.step Link.FaithfulRead
        (.new { maxInflight := 10, clientTopicAliasMax := 5 } none) boundThenUsed ∧
      (runSteps Link.step (.new { maxInflight := 10, clientTopicAliasMax := 5 } none)
        boundThenUsed).map (fun link => link.driver.state.shown.map (·.topic)) = .ok [[97], [97]] ∧
      (runSteps Link.step (.new { maxInflight := 10, clientTopicAliasMax := 5 } none)
        boundThenUsed).Satisfies Driver.Excused fun link =>
          link.TopicsResolved ∧ link.TopiclessEnds ∧ link.LosesBindings := by
  have faithful : Admissible Link.step Link.FaithfulRead
      (.new { maxInflight := 10, clientTopicAliasMax := 5 } none) boundThenUsed := by decide +kernel
  have topics : (runSteps Link.step (.new { maxInflight := 10, clientTopicAliasMax := 5 } none)
      boundThenUsed).map (fun link => link.driver.state.shown.map (·.topic)) = .ok [[97], [97]] := by
    decide +kernel
  -- the run is not to be evaluated again
  generalize boundThenUsed = ops at faithful topics ⊢
  exact ⟨faithful, topics, incoming_topics_resolved _ _ ops faithful⟩

/-- **Two frames that are not faithful.** A publish without topic and alias is shown under the empty
topic, and the connection goes on. A publish with three subscription identifiers in front of its alias
binds nothing, so that the alias is then resolved to the topic `a` it was bound to before, and not to
`b`. -/
theorem unresolved_topics :
    (runSteps Link.step (.new { maxInflight := 10 } none)
        [.arrive [0x20, 3, 0, 0, 0], .read, .arrive [0x30, 3, 0, 0, 0], .read]).map
      (fun link => (link.ended, link.driver.state.shown.map (·.topic))) = .ok (false, [[]]) ∧
    (runSteps Link.step (.new { maxInflight := 10, clientTopicAliasMax := 5 } none)
        [.arrive [0x20, 3, 0, 0, 0], .read, .arrive [0x30, 7, 0, 1, 97, 3, 35, 0, 1], .read,
          .arrive [0x30, 13, 0, 1, 98, 9, 11, 1, 11, 2, 11, 3, 35, 0, 1], .read,
          .arrive [0x30, 6, 0, 0, 3, 35, 0, 1], .read]).map
      (fun link => (link.ended, link.driver.state.shown.map (·.topic), bindings link.frames 1)) =
        .ok (false, [[97], [98], [97]], some [98]) := by
  constructor
  · decide +kernel
  · decide +kernel

end Rumqtt.V5
