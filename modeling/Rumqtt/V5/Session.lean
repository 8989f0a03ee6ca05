/-
**MQTT 5 session checkpoints.**

`persistedSession` is what the client would save; `restorePersistedSession` validates a checkpoint
before it touches the state, then resets the session and reserves the identifiers of the requests that
will be replayed. Only publishes count against the window.
-/

import Rumqtt.Flows.Restore
import Rumqtt.V5.Requests

namespace Rumqtt.V5

open Checked

/-- Persisted subset of the PUBLISH properties: the topic alias belongs to a connection. -/
structure PersistedPublishProperties where
  payloadFormatIndicator : Option UInt8
  messageExpiryInterval : Option UInt32
  responseTopic : Option String
  correlationData : Option Bytes
  userProperties : List (String × String)
  subscriptionIdentifiers : List Nat
  contentType : Option String
  deriving DecidableEq, Repr

def persistedPublishProperties (properties : PublishProperties) : PersistedPublishProperties where
  payloadFormatIndicator := properties.payloadFormatIndicator
  messageExpiryInterval := properties.messageExpiryInterval
  responseTopic := properties.responseTopic
  correlationData := properties.correlationData
  userProperties := properties.userProperties
  subscriptionIdentifiers := properties.subscriptionIdentifiers
  contentType := properties.contentType

def publishPropertiesFromPersisted (properties : PersistedPublishProperties) : PublishProperties where
  payloadFormatIndicator := properties.payloadFormatIndicator
  messageExpiryInterval := properties.messageExpiryInterval
  topicAlias := none
  responseTopic := properties.responseTopic
  correlationData := properties.correlationData
  userProperties := properties.userProperties
  subscriptionIdentifiers := properties.subscriptionIdentifiers
  contentType := properties.contentType

abbrev persistedForm : PersistedForm dialect where
  Properties := Option PersistedPublishProperties
  save := Option.map persistedPublishProperties
  load := Option.map publishPropertiesFromPersisted

/-- The options a checkpoint must agree with. -/
structure SessionOptions where
  clientId : String
  cleanStart : Bool
  outgoingInflightUpperLimit : Option UInt16
  ackMode : AckMode
  deriving DecidableEq, Repr

structure PersistedSession where
  formatVersion : UInt16
  clientId : String
  cleanStart : Bool
  sessionExpiryInterval : Option UInt32
  outgoingInflightUpperLimit : Option UInt16
  ackMode : AckMode
  replay : List (PersistedRequest persistedForm)
  /-- Incoming QoS 2 publishes whose PUBREC has been sent. -/
  incomingQos2 : List PacketId

def validatePersistedSessionSignature (options : SessionOptions) (session : PersistedSession) :
    Except SessionRestoreError Unit :=
  if session.formatVersion ≠ 2 then .error (.unsupportedFormatVersion session.formatVersion)
  else if session.clientId ≠ options.clientId then
    .error (.clientIdMismatch session.clientId options.clientId)
  else if session.cleanStart ≠ options.cleanStart then
    .error (.cleanStartMismatch session.cleanStart options.cleanStart)
  else if session.outgoingInflightUpperLimit ≠ options.outgoingInflightUpperLimit then
    .error (.outgoingInflightUpperLimitMismatch session.outgoingInflightUpperLimit
      options.outgoingInflightUpperLimit)
  else if session.ackMode ≠ options.ackMode then .error .ackModeMismatch
  else .ok ()

/-- Only publishes use up the window of a restored session. -/
def countsAgainstWindow : PersistedRequest persistedForm → Bool
  | .publish _ => true
  | _ => false

namespace MqttState

/-- **The checkpoint of a session**: the flows of the state machine, then the requests the event loop
still holds. -/
def persistedSession (s : MqttState) (options : SessionOptions)
    (sessionExpiryInterval : Option UInt32) (replayRequests : List Request) :
    Checked PersistedSession := do
  let replay ← persistedReplayRequests persistedForm s.toFlows
  return {
    formatVersion := 2
    clientId := options.clientId
    cleanStart := options.cleanStart
    sessionExpiryInterval
    outgoingInflightUpperLimit := options.outgoingInflightUpperLimit
    ackMode := options.ackMode
    replay := replay ++ replayRequests.filterMap (persistedRequestFromRequest persistedForm)
    -- positions past `u16::MAX` have no identifier
    incomingQos2 := (s.incomingPubrec.ones.filter (· < fullPacketIdentifierLen)).map UInt16.ofNat }

/-- An incoming QoS 2 publish whose PUBREC was sent before the checkpoint. -/
def restoreIncomingQos2 (s : MqttState) (pkid : PacketId) : Checked MqttState := do
  let incomingPub ← s.incomingPub.insert pkid.toNat
  let incomingPubrec ← s.incomingPubrec.insert pkid.toNat
  return { s with incomingPub, incomingPubrec }

/-- The part of `restore_persisted_session` after validation. -/
def restoreValidated (s : MqttState) (session : PersistedSession) : Checked MqttState := do
  let s ← s.resetSessionStateWithReason
  let s ← session.incomingQos2.foldlM restoreIncomingQos2 s
  let f ← s.toFlows.restoreReplay session.replay
  let outboundPkidCount ← f.outboundPkidInUse.ones.foldlM (fun count _ => Checked.add u16Max count 1) 0
  return s.putFlows { f with outboundPkidCount }

def restorePersistedSession (s : MqttState) (options : SessionOptions) (session : PersistedSession) :
    Checked (Except SessionRestoreError (List Request) × MqttState) := do
  match validatePersistedSessionSignature options session with
  | .error error => return (.error error, s)
  | .ok () =>
    match ← validatePersistedSessionPacketIds countsAgainstWindow s.maxOutgoingInflightUpperLimit
        session.incomingQos2 session.replay with
    | .error error => return (.error error, s)
    | .ok () =>
      let s ← s.restoreValidated session
      return (session.replay.mapM PersistedRequest.restore, s)

/-! ### The restored state -/

variable {s : MqttState} {pool : List Request}

/-- **A session reset leaves nothing to replay.** -/
theorem sound_sessionReset (s : MqttState) : s.sessionReset.Sound [] := { sound_new _ with }

theorem Sound.resetSession_run (sound : s.Sound pool) :
    s.resetSessionStateWithReason = .ok s.sessionReset := by
  obtain ⟨result, drained⟩ := Flows.drainTrackedRequestsAsFailed_total sound.tracked.ids
  exact bind_ok.mpr ⟨result, drained, rfl⟩

/-- Incoming QoS 2 publishes marked as answered by a PUBREC. -/
def withIncomingQos2 (s : MqttState) (pkids : List PacketId) : MqttState :=
  { s with
    incomingPub := (pkids.map (·.toNat)).foldl .growAndInsert s.incomingPub
    incomingPubrec := (pkids.map (·.toNat)).foldl .growAndInsert s.incomingPubrec }

theorem restoreIncomingQos2_run (s : MqttState)
    (pubLength : s.incomingPub.length = fullPacketIdentifierLen)
    (pubrecLength : s.incomingPubrec.length = fullPacketIdentifierLen) (pkids : List PacketId) :
    pkids.foldlM restoreIncomingQos2 s = .ok (s.withIncomingQos2 pkids) := by
  induction pkids generalizing s with
  | nil => rfl
  | cons pkid rest ih =>
    have inserted := FixedBitSet.insert_ok (toNat_lt_of_full pubLength pkid)
    have marked := FixedBitSet.insert_ok (toNat_lt_of_full pubrecLength pkid)
    have step : s.restoreIncomingQos2 pkid = .ok { s with
        incomingPub := s.incomingPub.growAndInsert pkid.toNat
        incomingPubrec := s.incomingPubrec.growAndInsert pkid.toNat } :=
      bind_ok.mpr ⟨_, inserted, bind_ok.mpr ⟨_, marked, rfl⟩⟩
    rw [List.foldlM_cons, step, ok_bind,
      ih _ (length_growAndInsert_full pubLength pkid) (length_growAndInsert_full pubrecLength pkid)]
    rfl

/-- The state restored from a checkpoint. -/
def restoredFrom (s : MqttState) (session : PersistedSession) : MqttState :=
  (s.sessionReset.withIncomingQos2 session.incomingQos2).putFlows
    ((Flows.new s.maxOutgoingInflightUpperLimit.toNat).restored session.replay)

theorem Sound.withIncomingQos2 (sound : s.Sound pool) (pkids : List PacketId) :
    (s.withIncomingQos2 pkids).Sound pool :=
  { sound with
    pubLength := length_foldl_full sound.pubLength pkids
    pubrecLength := length_foldl_full sound.pubrecLength pkids }

theorem sound_restoredFrom (s : MqttState) {session : PersistedSession}
    (restorable : Restorable countsAgainstWindow s.maxOutgoingInflightUpperLimit
      session.incomingQos2 session.replay) :
    (s.restoredFrom session).Sound (session.replay.map PersistedRequest.toRequest) := by
  have free : ∀ request ∈ session.replay, request.pkid.toNat ∉
      (Flows.new s.maxOutgoingInflightUpperLimit.toNat : Flows dialect).outboundPkidInUse := by
    simp [Flows.new, PacketIds.new]
  have restored := (Flows.tracked_new s.maxOutgoingInflightUpperLimit.toNat).restored
    restorable.valid restorable.nodup free
  exact { s.sound_sessionReset.withIncomingQos2 session.incomingQos2 with
    tracked := restored
    sendQuota_owned := by
      rintro pkid ⟨⟩
    recovery_sub := by
      rintro bit ⟨⟩ }

theorem count_run {ones : List Nat} {count : Nat} (fits : count + ones.length ≤ u16Max) :
    ones.foldlM (fun count _ => Checked.add u16Max count 1) count = .ok (count + ones.length) := by
  induction ones generalizing count with
  | nil => rfl
  | cons bit rest ih =>
    rw [List.length_cons] at fits
    rw [List.foldlM_cons, add_ok (by omega), ok_bind, ih (by omega), List.length_cons]
    congr 1
    omega

theorem Sound.restoreValidated_run (sound : s.Sound pool) {session : PersistedSession}
    (restorable : Restorable countsAgainstWindow s.maxOutgoingInflightUpperLimit
      session.incomingQos2 session.replay) :
    s.restoreValidated session = .ok (s.restoredFrom session) := by
  have fresh := s.sound_sessionReset
  have marked := restoreIncomingQos2_run s.sessionReset fresh.pubLength fresh.pubrecLength
    session.incomingQos2
  obtain ⟨f, restored, recounted⟩ := Flows.restoreReplay_ok s.maxOutgoingInflightUpperLimit.toNat
    restorable.valid restorable.nodup
  have ids : f.recounted.toPacketIds.Valid := by
    rw [recounted]
    exact (sound_restoredFrom s restorable).tracked.ids
  have few : 0 + f.outboundPkidInUse.ones.length ≤ u16Max := by
    rw [Nat.zero_add]
    exact ids.count_le
  refine bind_ok.mpr ⟨_, sound.resetSession_run, bind_ok.mpr ⟨_, marked, ?_⟩⟩
  refine bind_ok.mpr ⟨f, restored, bind_ok.mpr ⟨_, count_run few, ?_⟩⟩
  rw [Nat.zero_add, restoredFrom, ← recounted]
  rfl

/-- **A checkpoint is restored as a whole, or the state stays as it was.** -/
theorem Sound.restore_cases (sound : s.Sound pool) (options : SessionOptions)
    (session : PersistedSession) :
    (∃ error, s.restorePersistedSession options session = .ok (.error error, s)) ∨
    (Restorable countsAgainstWindow s.maxOutgoingInflightUpperLimit session.incomingQos2
      session.replay ∧ s.restorePersistedSession options session =
        .ok (.ok (session.replay.map PersistedRequest.toRequest), s.restoredFrom session)) := by
  unfold restorePersistedSession
  cases signed : validatePersistedSessionSignature options session with
  | error error => exact .inl ⟨error, rfl⟩
  | ok =>
    dsimp only
    rcases validatePersistedSessionPacketIds_cases countsAgainstWindow
      s.maxOutgoingInflightUpperLimit session.incomingQos2 session.replay with
      ⟨accepted, restorable⟩ | ⟨⟨error, refused⟩, -⟩
    · right
      refine ⟨restorable, ?_⟩
      rw [accepted, ok_bind]
      dsimp only
      rw [sound.restoreValidated_run restorable, ok_bind, restore_all restorable.valid]
      rfl
    · left
      rw [refused, ok_bind]
      exact ⟨error, rfl⟩

end MqttState

end Rumqtt.V5
