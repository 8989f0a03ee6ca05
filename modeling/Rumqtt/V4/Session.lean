/-
**MQTT 3.1.1 session checkpoints, and the state after a lost connection.**

`persistedSession` is what the client would save; `restorePersistedSession` validates a checkpoint
before it touches the state, then resets the session and reserves the identifiers of the requests that
will be replayed. Publishes and releases count against the window.
-/

import Rumqtt.Flows.GiveBack
import Rumqtt.Flows.Restore
import Rumqtt.V4.Requests

namespace Rumqtt.V4

open Handler Checked

abbrev persistedForm : PersistedForm dialect where
  Properties := Unit
  save := id
  load := id

/-- The options a checkpoint must agree with. -/
structure SessionOptions where
  clientId : String
  cleanSession : Bool
  inflight : UInt16
  ackMode : AckMode
  deriving DecidableEq, Repr

structure PersistedSession where
  formatVersion : UInt16
  clientId : String
  cleanSession : Bool
  maxInflight : UInt16
  ackMode : AckMode
  replay : List (PersistedRequest persistedForm)
  /-- Incoming QoS 2 publishes whose PUBREC has been sent. -/
  incomingQos2 : List PacketId

def validatePersistedSessionSignature (options : SessionOptions) (session : PersistedSession) :
    Except SessionRestoreError Unit :=
  if session.formatVersion ≠ 2 then .error (.unsupportedFormatVersion session.formatVersion)
  else if session.clientId ≠ options.clientId then
    .error (.clientIdMismatch session.clientId options.clientId)
  else if session.cleanSession ≠ options.cleanSession then
    .error (.cleanSessionMismatch session.cleanSession options.cleanSession)
  else if session.maxInflight ≠ options.inflight then
    .error (.maxInflightMismatch session.maxInflight options.inflight)
  else if session.ackMode ≠ options.ackMode then .error .ackModeMismatch
  else .ok ()

/-- Publishes and releases use up the window of a restored session. -/
def countsAgainstWindow : PersistedRequest persistedForm → Bool
  | .publish _ | .pubRel _ => true
  | _ => false

namespace MqttState

/-- **The checkpoint of a session**: the flows of the state machine, then the requests the event loop
still holds. -/
def persistedSession (s : MqttState) (options : SessionOptions) (replayRequests : List Request) :
    Checked PersistedSession := do
  let replay ← persistedReplayRequests persistedForm s.toFlows
  return {
    formatVersion := 2
    clientId := options.clientId
    cleanSession := options.cleanSession
    maxInflight := options.inflight
    ackMode := options.ackMode
    replay := replay ++ replayRequests.filterMap (persistedRequestFromRequest persistedForm)
    -- positions past `u16::MAX` have no identifier
    incomingQos2 := (s.incomingPubrec.ones.filter (· < fullPacketIdentifierLen)).map UInt16.ofNat }

/-- An incoming QoS 2 publish whose PUBREC was sent before the checkpoint. -/
def restoreIncomingQos2 (s : MqttState) (pkid : PacketId) : Checked MqttState := do
  let incomingPub ← s.incomingPub.insert pkid.toNat
  let incomingPubrec ← s.incomingPubrec.insert pkid.toNat
  return { s with incomingPub, incomingPubrec }

/-- The part of `restore_persisted_session` after validation. Too many identifiers are an error that
comes after the changes. -/
def restoreValidated (s : MqttState) (session : PersistedSession) :
    Checked (Except SessionRestoreError Unit × MqttState) := do
  let s ← s.resetSessionState
  let s ← session.incomingQos2.foldlM restoreIncomingQos2 s
  let f ← s.toFlows.restoreReplay session.replay
  let outboundPkidCount := f.outboundPkidInUse.ones.length
  if u16Max < outboundPkidCount then
    return (.error (.outgoingPacketIdentifierCountOutOfRange outboundPkidCount), s.putFlows f)
  else return (.ok (), s.putFlows { f with outboundPkidCount })

def restorePersistedSession (s : MqttState) (options : SessionOptions) (session : PersistedSession) :
    Checked (Except SessionRestoreError (List Request) × MqttState) := do
  match validatePersistedSessionSignature options session with
  | .error error => return (.error error, s)
  | .ok () =>
    match ← validatePersistedSessionPacketIds countsAgainstWindow s.maxInflight session.incomingQos2
        session.replay with
    | .error error => return (.error error, s)
    | .ok () =>
      match ← s.restoreValidated session with
      | (.error error, s) => return (.error error, s)
      | (.ok (), s) => return (session.replay.mapM PersistedRequest.restore, s)

/-! ### The restored state -/

variable {s : MqttState} {pool : List Request}

/-- The state after a session reset. -/
def sessionReset (s : MqttState) : MqttState := newInternal s.maxInflight s.ackMode

theorem Sound.resetSession_run (sound : s.Sound pool) :
    s.resetSessionState = .ok s.sessionReset := by
  obtain ⟨result, drained⟩ := Flows.drainTrackedRequestsAsFailed_total sound.tracked.ids
  exact bind_ok.mpr ⟨result, drained, rfl⟩

/-- Incoming QoS 2 publishes marked as answered by a PUBREC. -/
def withIncomingQos2 (s : MqttState) (pkids : List PacketId) : MqttState :=
  { s with
    incomingPub := (pkids.map (·.toNat)).foldl .growAndInsert s.incomingPub
    incomingPubrec := (pkids.map (·.toNat)).foldl .growAndInsert s.incomingPubrec }

theorem restoreIncomingQos2_run (s : MqttState)
    (pubLength : s.incomingPub.length = fullPacketIdentifierLen)
    (pubrecLength : s.incomingPubrec.length = fullPacketIdentifierLen) (pkids : List PacketId) :
    pkids.foldlM restoreIncomingQos2 s = .ok (s.withIncomingQos2 pkids) := by
  induction pkids generalizing s with
  | nil => rfl
  | cons pkid rest ih =>
    have inserted := FixedBitSet.insert_ok (toNat_lt_of_full pubLength pkid)
    have marked := FixedBitSet.insert_ok (toNat_lt_of_full pubrecLength pkid)
    have step : s.restoreIncomingQos2 pkid = .ok { s with
        incomingPub := s.incomingPub.growAndInsert pkid.toNat
        incomingPubrec := s.incomingPubrec.growAndInsert pkid.toNat } :=
      bind_ok.mpr ⟨_, inserted, bind_ok.mpr ⟨_, marked, rfl⟩⟩
    rw [List.foldlM_cons, step, ok_bind,
      ih _ (length_growAndInsert_full pubLength pkid) (length_growAndInsert_full pubrecLength pkid)]
    rfl

/-- The state restored from a checkpoint. -/
def restoredFrom (s : MqttState) (session : PersistedSession) : MqttState :=
  (s.sessionReset.withIncomingQos2 session.incomingQos2).putFlows
    ((Flows.new s.maxInflight.toNat).restored session.replay)

theorem Sound.withIncomingQos2 (sound : s.Sound pool) (pkids : List PacketId) :
    (s.withIncomingQos2 pkids).Sound pool :=
  { sound with
    pubLength := length_foldl_full sound.pubLength pkids
    pubrecLength := length_foldl_full sound.pubrecLength pkids }

theorem sound_restoredFrom (s : MqttState) {session : PersistedSession}
    (restorable : Restorable countsAgainstWindow s.maxInflight session.incomingQos2
      session.replay) :
    (s.restoredFrom session).Sound (session.replay.map PersistedRequest.toRequest) := by
  have free : ∀ request ∈ session.replay, request.pkid.toNat ∉
      (Flows.new s.maxInflight.toNat : Flows dialect).outboundPkidInUse := by
    simp [Flows.new, PacketIds.new]
  have restored := (Flows.tracked_new s.maxInflight.toNat).restored
    restorable.valid restorable.nodup free
  obtain ⟨publishes, releases, -⟩ :=
    Flows.restored_unsent (Flows.new s.maxInflight.toNat) session.replay
  have reset : s.sessionReset.Sound [] := sound_new s.maxInflight s.ackMode
  refine { reset.withIncomingQos2 session.incomingQos2 with
    tracked := restored
    window := ?_ }
  show 0 = ((Flows.new s.maxInflight.toNat).restored session.replay).outgoingPubOrder.length +
    ((Flows.new s.maxInflight.toNat).restored session.replay).outgoingRelOrder.length
  rw [publishes, releases]
  rfl

theorem Sound.restoreValidated_run (sound : s.Sound pool) {session : PersistedSession}
    (restorable : Restorable countsAgainstWindow s.maxInflight session.incomingQos2
      session.replay) :
    s.restoreValidated session = .ok (.ok (), s.restoredFrom session) := by
  have fresh : s.sessionReset.Sound [] := sound_new s.maxInflight s.ackMode
  have marked := restoreIncomingQos2_run s.sessionReset fresh.pubLength fresh.pubrecLength
    session.incomingQos2
  obtain ⟨f, restored, recounted⟩ := Flows.restoreReplay_ok s.maxInflight.toNat
    restorable.valid restorable.nodup
  have ids : f.recounted.toPacketIds.Valid := by
    rw [recounted]
    exact (sound_restoredFrom s restorable).tracked.ids
  have few : ¬ u16Max < f.outboundPkidInUse.ones.length := Nat.not_lt.mpr ids.count_le
  refine bind_ok.mpr ⟨_, sound.resetSession_run, bind_ok.mpr ⟨_, marked, ?_⟩⟩
  refine bind_ok.mpr ⟨f, restored, ?_⟩
  rw [if_neg few, restoredFrom, ← recounted]
  rfl

/-- **A checkpoint is restored as a whole, or the state stays as it was.** -/
theorem Sound.restore_cases (sound : s.Sound pool) (options : SessionOptions)
    (session : PersistedSession) :
    (∃ error, s.restorePersistedSession options session = .ok (.error error, s)) ∨
    (Restorable countsAgainstWindow s.maxInflight session.incomingQos2 session.replay ∧
      s.restorePersistedSession options session =
        .ok (.ok (session.replay.map PersistedRequest.toRequest), s.restoredFrom session)) := by
  unfold restorePersistedSession
  cases signed : validatePersistedSessionSignature options session with
  | error error => exact .inl ⟨error, rfl⟩
  | ok =>
    dsimp only
    rcases validatePersistedSessionPacketIds_cases countsAgainstWindow s.maxInflight
      session.incomingQos2 session.replay with ⟨accepted, restorable⟩ | ⟨⟨error, refused⟩, -⟩
    · right
      refine ⟨restorable, ?_⟩
      rw [accepted, ok_bind]
      dsimp only
      rw [sound.restoreValidated_run restorable, ok_bind]
      dsimp only
      rw [restore_all restorable.valid]
      rfl
    · left
      rw [refused, ok_bind]
      exact ⟨error, rfl⟩

/-! ### A lost connection -/

/-- The state after a clean-up, before the tracking may shrink. -/
def cleanedUp (s : MqttState) : MqttState :=
  { s with
    toFlows := s.toFlows.cleaned
    incomingPuback := s.incomingPuback.clear
    ping := .new
    inflight := 0 }

/-- The state after a clean-up; the tracking may shrink when nothing was handed out. -/
def afterClean (s : MqttState) : MqttState :=
  if s.toFlows.cleanRequests.isEmpty then s.cleanedUp.maybeShrinkOutgoingTrackingCapacity
  else s.cleanedUp

theorem Sound.cleanedUp (sound : s.Sound pool) :
    s.cleanedUp.Sound (pool ++ s.toFlows.replayRequests.map (·.request)) :=
  { sound with
    tracked := sound.tracked.cleaned
    window := rfl
    bounded := Nat.zero_le _ }

theorem Sound.afterClean (sound : s.Sound pool) :
    s.afterClean.Sound (pool ++ s.toFlows.replayRequests.map (·.request)) := by
  unfold MqttState.afterClean
  split
  · exact sound.cleanedUp.maybeShrink
  · exact sound.cleanedUp

/-- **A clean-up for reconnection does not panic and returns every flow.** -/
theorem Sound.clean_run (sound : s.Sound pool) :
    cleanWithNoticesForReconnect.run s = .ok (.ok s.toFlows.cleanRequests, s.afterClean) := by
  have drained : (flows fun f => do
      let result ← f.clean true
      return (.ok result.1, result.2)).run s = .ok (.ok s.toFlows.cleanRequests, s.putFlows s.toFlows.cleaned) := by
    refine run_flows ?_
    rw [sound.tracked.clean_ok]
    rfl
  refine (run_bind_ok drained).trans ?_
  rw [run_modify_bind, MqttState.afterClean]
  cases s.toFlows.cleanRequests.isEmpty <;> rfl

/-! ### The public clean-up -/

/-- The state after the public clean-up, before the tracking may shrink. -/
def returnedUp (s : MqttState) : MqttState := { s.cleanedUp with toFlows := s.toFlows.givenBack }

/-- The state after the public clean-up. -/
def afterReturn (s : MqttState) : MqttState :=
  if s.toFlows.cleanRequests.isEmpty then s.returnedUp.maybeShrinkOutgoingTrackingCapacity
  else s.returnedUp

theorem Sound.afterReturn (sound : s.Sound pool) : s.afterReturn.Sound pool := by
  have returned : s.returnedUp.Sound pool :=
    { sound with
      tracked := sound.tracked.givenBack
      window := rfl
      bounded := Nat.zero_le _ }
  unfold MqttState.afterReturn
  split
  · exact returned.maybeShrink
  · exact returned

/-- **The public clean-up does not panic and returns every flow.** -/
theorem Sound.publicClean_run (sound : s.Sound pool) :
    MqttState.clean.run s = .ok (.ok (s.toFlows.cleanRequests.map (·.request)), s.afterReturn) := by
  have drained : (flows fun f => do
      let result ← f.clean false
      return (.ok result.1, result.2)).run s =
        .ok (.ok s.toFlows.cleanRequests, s.putFlows s.toFlows.givenBack) := by
    refine run_flows ?_
    rw [sound.tracked.clean_false_ok]
    rfl
  have cleaned : (cleanWithNoticesInternal false).run s =
      .ok (.ok s.toFlows.cleanRequests, s.afterReturn) := by
    refine (run_bind_ok drained).trans ?_
    rw [run_modify_bind, MqttState.afterReturn]
    cases s.toFlows.cleanRequests.isEmpty <;> rfl
  exact run_bind_ok cleaned

end MqttState

end Rumqtt.V4
