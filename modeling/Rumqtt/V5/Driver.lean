/-
**Runs of the MQTT 5 state machine.**

A `Driver` is the state machine together with what its caller holds: the requests that a clean-up or
a restore handed out and that have not been replayed yet. It also records what the broker can see, in
terms of packets only: which publishes sent on the connection are unfinished, and the Receive Maximum
the broker announced. `Driver.step` performs one operation; a run is any sequence of them.

* `Driver.Healthy` is the invariant of all runs: the state machine is sound for the requests that are
  still to be replayed, up to PUBRELs the application has sent itself.
* `packet_identifiers_owned` reads identifier ownership and the absence of panics off it.
-/

import Mathlib.Data.List.Perm.Basic
import Rumqtt.Flows.Tables
import Rumqtt.Lib.Run
import Rumqtt.V5.Moves
import Rumqtt.V5.Session

namespace Rumqtt.V5

open MqttState

/-- **The state machine and its surroundings.** -/
structure Driver where
  state : MqttState
  /-- Requests handed out for replay and not replayed yet. -/
  replays : List Request
  /-- QoS 1 and QoS 2 publishes sent on this connection whose flow is not finished. -/
  unfinished : List PacketId
  /-- Receive Maximum of the broker on this connection. -/
  receiveMaximum : UInt16

/-- An operation on the state machine. -/
inductive Op where
  | request (request : Request) (notice : Option TrackedNotice)
  /-- Replays the request at a position of the list handed out. -/
  | replay (position : Nat) (notice : Option TrackedNotice)
  /-- A request handed out for replay is given up without telling the state machine. -/
  | forget (position : Nat)
  | incoming (packet : Packet)
  /-- The connection is lost. -/
  | clean
  | resetSession
  | restore (options : SessionOptions) (session : PersistedSession)
  | reconcileCapacity (pendingEmpty : Bool)

/-- The identifier of the publish whose flow an acknowledgement ends. -/
def Packet.endsFlow : Packet → Option PacketId
  | .pubAck puback => some puback.pkid
  | .pubRec pubrec => if 0x80 ≤ pubrec.reason.code then some pubrec.pkid else none
  | .pubComp pubcomp => some pubcomp.pkid
  | _ => none

namespace Driver

def new (options : StateOptions) : Driver := ⟨newInternal options, [], [], 65535⟩

/-- The unfinished publishes after a packet has been written. -/
def wrote (unfinished : List PacketId) (packet : Option Packet) : List PacketId :=
  match packet.bind Packet.sentPublish with
  | some pkid => if pkid ∈ unfinished then unfinished else unfinished ++ [pkid]
  | none => unfinished

/-- The unfinished publishes after an acknowledgement has been accepted. -/
def acknowledged (unfinished : List PacketId) (packet : Packet) : List PacketId :=
  match packet.endsFlow with
  | some pkid => unfinished.erase pkid
  | none => unfinished

/-- The Receive Maximum after a packet has been accepted. -/
def announced (receiveMaximum : UInt16) : Packet → UInt16
  | .connAck connack => ((connack.properties.getD {}).receiveMax).getD 65535
  | _ => receiveMaximum

def sendRequest (d : Driver) (request : Request) (notice : Option TrackedNotice) (replay : Bool) :
    Checked Driver := do
  let (result, s) ← (handleOutgoingPacketWithNoticeInternal request notice replay).run d.state
  match result with
  | .ok (packet, _) => return { d with state := s, unfinished := wrote d.unfinished packet }
  | .error _ => return { d with state := s }

def receive (d : Driver) (packet : Packet) : Checked Driver := do
  let (result, s) ← (handleIncomingPacketWithEffects packet).run d.state
  match result with
  | .ok effects => return { d with
      state := s
      unfinished := wrote (acknowledged d.unfinished packet) effects.outgoing
      receiveMaximum := announced d.receiveMaximum packet }
  | .error _ => return { d with state := s }

/-- The requests of a clean-up that keep their identifiers. -/
def handedOut (requests : List CleanRequest) : List Request :=
  (requests.filter (·.replay)).map (·.request)

def lose (d : Driver) : Checked Driver := do
  let (result, s) ← cleanWithNoticesForReconnect.run d.state
  match result with
  | .ok requests => return {
      state := s.resetConnectionScopedState
      replays := d.replays ++ handedOut requests
      unfinished := []
      receiveMaximum := 65535 }
  | .error _ => return { d with state := s }

def restore (d : Driver) (options : SessionOptions) (session : PersistedSession) : Checked Driver := do
  let (result, s) ← d.state.restorePersistedSession options session
  match result with
  | .ok requests => return ⟨s, requests, [], 65535⟩
  | .error _ => return { d with state := s }

/-- The driver without the request at a position of the list handed out. -/
def without (d : Driver) (position : Nat) : Driver :=
  { d with replays := d.replays.eraseIdx position }

/-- **One operation.** -/
def step (d : Driver) : Op → Checked Driver
  | .request request notice => d.sendRequest request notice false
  | .replay position notice =>
    match d.replays[position]? with
    | none => return d
    | some request => (d.without position).sendRequest request notice true
  | .forget position => return d.without position
  | .incoming packet => d.receive packet
  | .clean => d.lose
  | .resetSession => do
    -- the network is kept, and with it what the broker has seen and announced
    let s ← d.state.resetSessionStateWithReason
    return { d with state := s, replays := [] }
  | .restore options session => d.restore options session
  | .reconcileCapacity pendingEmpty =>
    return { d with state := d.state.reconcileOutgoingTrackingCapacity pendingEmpty }

end Driver

/-! ### A lost connection -/

namespace MqttState

variable {s : MqttState} {pool : List Request}

/-- The state after a clean-up, before the tracking may shrink. -/
def cleanedUp (s : MqttState) : MqttState :=
  { s with
    toFlows := s.toFlows.cleaned
    outgoingRelRecovery := .withCapacity 0
    incomingPuback := s.incomingPuback.clear
    ping := .new
    outgoingPublishQuota := s.outgoingPublishQuota.clear }

/-- The state after a clean-up; the tracking may shrink when nothing was handed out. -/
def afterClean (s : MqttState) : MqttState :=
  if s.toFlows.cleanRequests.isEmpty then s.cleanedUp.maybeShrinkOutgoingTrackingCapacity
  else s.cleanedUp

theorem Sound.cleanedUp (sound : s.Sound pool) :
    s.cleanedUp.Sound (pool ++ s.toFlows.replayRequests.map (·.request)) :=
  { sound with
    tracked := sound.tracked.cleaned
    sendQuota := sound.sendQuota.clear
    sendQuota_owned := by
      rintro pkid ⟨⟩
    recovery_sub := by
      rintro bit ⟨⟩ }

theorem Sound.afterClean (sound : s.Sound pool) :
    s.afterClean.Sound (pool ++ s.toFlows.replayRequests.map (·.request)) := by
  unfold MqttState.afterClean
  split
  · exact sound.cleanedUp.maybeShrink
  · exact sound.cleanedUp

/-- **A clean-up for reconnection does not panic and returns every flow.** -/
theorem Sound.clean_run (sound : s.Sound pool) :
    cleanWithNoticesForReconnect.run s = .ok (.ok s.toFlows.cleanRequests, s.afterClean) := by
  have drained : (flows fun f => do
      let result ← f.clean true
      return (.ok result.1, result.2)).run s =
        .ok (.ok s.toFlows.cleanRequests, s.putFlows s.toFlows.cleaned) := by
    refine run_flows ?_
    rw [sound.tracked.clean_ok]
    rfl
  refine (Handler.run_bind_ok drained).trans ?_
  rw [Handler.run_modify_bind, MqttState.afterClean]
  cases s.toFlows.cleanRequests.isEmpty <;> rfl

theorem afterClean_unsent (s : MqttState) :
    s.afterClean.outgoingPubOrder = [] ∧ s.afterClean.collision = none := by
  unfold MqttState.afterClean maybeShrinkOutgoingTrackingCapacity
  dsimp only
  split
  · split <;> exact ⟨rfl, rfl⟩
  · exact ⟨rfl, rfl⟩

theorem Sound.resetConnectionScopedState (sound : s.Sound pool) :
    s.resetConnectionScopedState.Sound pool :=
  { sound with
    sendQuota := sound.sendQuota.clear
    sendQuota_owned := by
      rintro pkid ⟨⟩
    receiveQuota := sound.receiveQuota.clear }

end MqttState

/-! ### The invariant of all runs -/

namespace Driver

variable {d : Driver}
variable {request : Request} {notice : Option TrackedNotice}
  {result : RequestResult} {t : MqttState}

/-- **A driver is healthy** when its state machine is sound for the requests it will replay. A PUBREL
that the application has sent in the meantime may be left over among them. -/
def Healthy (d : Driver) : Prop := Accounts d.state.Sound d.replays

/-- Graceful disconnects are the event loop's business; the state machine stops at them. -/
def Excused (panic : Panic) : Prop :=
  panic = .unreachableCode "graceful disconnect requests are handled by the event loop"

theorem healthy_new (options : StateOptions) : (new options).Healthy :=
  .of_sound (sound_new options)

/-! ### What an operation leads to -/

/-- The driver after a request. -/
def afterRequest (d : Driver) (result : RequestResult)
    (t : MqttState) : Driver :=
  match result with
  | .ok (packet, _) => { d with state := t, unfinished := wrote d.unfinished packet }
  | .error _ => { d with state := t }

/-- The driver after an incoming packet. -/
def afterPacket (d : Driver) (packet : Packet) (result : PacketResult)
    (t : MqttState) : Driver :=
  match result with
  | .ok effects => { d with
      state := t
      unfinished := wrote (acknowledged d.unfinished packet) effects.outgoing
      receiveMaximum := announced d.receiveMaximum packet }
  | .error _ => { d with state := t }

variable {pool : List Request}

/-- A graceful disconnect stops the state machine. -/
theorem handleOutgoing_graceful {request : Request} (graceful : request.isLeftToEventLoop = true)
    (notice : Option TrackedNotice) (replay : Bool) (s : MqttState) :
    (handleOutgoingPacketWithNoticeInternal request notice replay).run s = .error (.unreachableCode
      "graceful disconnect requests are handled by the event loop") := by
  cases request with
  | disconnect => rfl
  | disconnectWithTimeout => rfl
  | disconnectAfterQueued => rfl
  | disconnectAfterQueuedWithTimeout => rfl
  | _ => cases graceful

theorem sendRequest_graceful {post : Driver → Prop} (graceful : request.isLeftToEventLoop = true)
    (notice : Option TrackedNotice) (replay : Bool) :
    (d.sendRequest request notice replay).Satisfies Excused post := by
  unfold sendRequest
  rw [handleOutgoing_graceful graceful]
  exact Eq.refl (Panic.unreachableCode _)

theorem sendRequest_ok {replay : Bool}
    (ran : (handleOutgoingPacketWithNoticeInternal request notice replay).run d.state =
      .ok (result, t)) : d.sendRequest request notice replay = .ok (d.afterRequest result t) := by
  refine Checked.bind_ok.mpr ⟨(result, t), ran, ?_⟩
  cases result <;> rfl

theorem receive_ok {packet : Packet} {result : PacketResult}
    (ran : (handleIncomingPacketWithEffects packet).run d.state = .ok (result, t)) :
    d.receive packet = .ok (d.afterPacket packet result t) := by
  refine Checked.bind_ok.mpr ⟨(result, t), ran, ?_⟩
  cases result <;> rfl

/-- The driver after a lost connection. -/
def lost (d : Driver) : Driver :=
  ⟨d.state.afterClean.resetConnectionScopedState,
    d.replays ++ handedOut d.state.toFlows.cleanRequests, [], 65535⟩

theorem lose_run (sound : d.state.Sound pool) : d.lose = .ok d.lost :=
  Checked.bind_ok.mpr ⟨_, sound.clean_run, rfl⟩

section

variable (d : Driver) (result : RequestResult) (t : MqttState)

@[simp] theorem state_afterRequest :
    (d.afterRequest result t).state = t := by
  cases result <;> rfl

@[simp] theorem replays_afterRequest :
    (d.afterRequest result t).replays = d.replays := by
  cases result <;> rfl

end

section

variable (d : Driver) (packet : Packet) (result : PacketResult)

@[simp] theorem state_afterPacket (t : MqttState) :
    (d.afterPacket packet result t).state = t := by
  cases result <;> rfl

@[simp] theorem replays_afterPacket (t : MqttState) :
    (d.afterPacket packet result t).replays = d.replays := by
  cases result <;> rfl

end

/-! ### Every operation keeps a driver healthy -/

theorem healthy_pubrel {live stale : List Request} {pubrel : PubRel} {replay : Bool}
    (same : d.replays.Perm (live ++ stale)) (sound : d.state.Sound live)
    (releases : ∀ request ∈ stale, request.pubRelPkid?.isSome)
    (requested : Requested d.state notice (.pubRel pubrel) replay result t) :
    (d.afterRequest result t).Healthy := by
  unfold Healthy
  rw [replays_afterRequest, state_afterRequest]
  rcases sound.pubrelRequested requested with kept | ⟨member, fewer⟩
  · exact ⟨live, stale, same, kept, releases⟩
  · refine .of_poolWithout same releases (fun request inLive owns => ?_) fewer
    rw [(sound.tracked.replay_kind request inLive _ owns).mp member]
    rfl

theorem healthy_request {live stale : List Request} (same : d.replays.Perm (live ++ stale))
    (sound : d.state.Sound live) (releases : ∀ request ∈ stale, request.pubRelPkid?.isSome)
    (requested : Requested d.state notice request false result t) :
    (d.afterRequest result t).Healthy := by
  cases kind : request.pubRelPkid? with
  | none =>
    refine ⟨live, stale, ?_, ?_, releases⟩
    · rwa [replays_afterRequest]
    · rw [state_afterRequest]
      exact sound.requested kind requested
  | some pkid =>
    cases request with
    | pubRel pubrel => exact healthy_pubrel same sound releases requested
    | _ => cases kind

theorem Healthy.forget (healthy : d.Healthy) (position : Nat) : (d.without position).Healthy :=
  Accounts.forget healthy (fun same sound => sound.perm same)
    (fun sound => sound.sublist (List.sublist_cons_self ..)) position

theorem Healthy.replay_run {position : Nat} (healthy : d.Healthy)
    (found : d.replays[position]? = some request) (notice : Option TrackedNotice)
    (handed : request.isLeftToEventLoop = false) :
    ∃ result t, (handleOutgoingPacketWithNoticeInternal request notice true).run d.state =
        .ok (result, t) ∧ Requested d.state notice request true result t ∧
      ((d.without position).afterRequest result t).Healthy := by
  rcases Accounts.split healthy (fun same sound => sound.perm same) found with
    ⟨rest, stale, sound, same, releases⟩ | ⟨released, live, stale, sound, same, releases⟩
  · obtain ⟨result, t, ran, requested⟩ :=
      sound.handleOutgoing_run request notice true handed fun _ _ => List.mem_cons_self
    refine ⟨result, t, ran, requested, rest, stale, ?_, ?_, releases⟩
    · rwa [replays_afterRequest]
    · rw [state_afterRequest]
      exact sound.replayed requested
  · obtain ⟨result, t, ran, requested⟩ := sound.handleOutgoing_run request notice true handed
      fun _ notRelease => by simp [notRelease] at released
    refine ⟨result, t, ran, requested, ?_⟩
    cases request with
    | pubRel pubrel => exact healthy_pubrel (d := d.without position) same sound releases requested
    | _ => cases released

theorem Healthy.lost (healthy : d.Healthy) : d.lost.Healthy := by
  obtain ⟨live, stale, same, sound, releases⟩ := healthy
  have handed : handedOut d.state.toFlows.cleanRequests =
      d.state.toFlows.replayRequests.map (·.request) :=
    congrArg _ (Flows.Tracked.filter_replay_cleanRequests d.state.toFlows)
  refine ⟨live ++ handedOut d.state.toFlows.cleanRequests, stale, ?_, ?_, releases⟩
  · refine (same.append_right _).trans ?_
    rw [List.append_assoc, List.append_assoc]
    exact List.perm_append_comm.append_left live
  · rw [handed]
    exact sound.afterClean.resetConnectionScopedState

/-- **What an operation does to a driver.** -/
inductive Stepped (d : Driver) : Op → Driver → Prop where
  | requested {request : Request} {notice : Option TrackedNotice}
    {result : RequestResult} {t : MqttState}
    (ran : (handleOutgoingPacketWithNoticeInternal request notice false).run d.state =
      .ok (result, t)) (requested : Requested d.state notice request false result t) :
    Stepped d (.request request notice) (d.afterRequest result t)
  | absent {position : Nat} {notice : Option TrackedNotice}
    (absent : d.replays[position]? = none) : Stepped d (.replay position notice) d
  | replayed {position : Nat} {request : Request} {notice : Option TrackedNotice}
    {result : RequestResult} {t : MqttState}
    (found : d.replays[position]? = some request)
    (ran : (handleOutgoingPacketWithNoticeInternal request notice true).run d.state =
      .ok (result, t)) (requested : Requested d.state notice request true result t) :
    Stepped d (.replay position notice) ((d.without position).afterRequest result t)
  | forgotten (position : Nat) : Stepped d (.forget position) (d.without position)
  | received {packet : Packet} {result : PacketResult} {t : MqttState}
    (ran : (handleIncomingPacketWithEffects packet).run d.state = .ok (result, t))
    (handled : Handled d.state packet result t) :
    Stepped d (.incoming packet) (d.afterPacket packet result t)
  | lost : Stepped d .clean d.lost
  | reset : Stepped d .resetSession { d with state := d.state.sessionReset, replays := [] }
  | unrestored {options : SessionOptions} {session : PersistedSession} {error : SessionRestoreError}
    (ran : d.state.restorePersistedSession options session = .ok (.error error, d.state)) :
    Stepped d (.restore options session) d
  | restored {options : SessionOptions} {session : PersistedSession}
    (restorable : Restorable countsAgainstWindow d.state.maxOutgoingInflightUpperLimit
      session.incomingQos2 session.replay)
    (ran : d.state.restorePersistedSession options session =
      .ok (.ok (session.replay.map PersistedRequest.toRequest), d.state.restoredFrom session)) :
    Stepped d (.restore options session)
      ⟨d.state.restoredFrom session, session.replay.map PersistedRequest.toRequest, [], 65535⟩
  | kept (pendingEmpty : Bool) : Stepped d (.reconcileCapacity pendingEmpty) d
  | shrunk (pendingEmpty : Bool) : Stepped d (.reconcileCapacity pendingEmpty)
      { d with state := d.state.maybeShrinkOutgoingTrackingCapacity }

/-- **Every operation of a healthy driver is one of these, and keeps it healthy.** -/
theorem Healthy.step_cases (healthy : d.Healthy) (op : Op) :
    (d.step op).Satisfies Excused fun after => Stepped d op after ∧ after.Healthy := by
  obtain ⟨live, stale, same, sound, releases⟩ := id healthy
  cases op with
  | request request notice =>
    show (d.sendRequest request notice false).Satisfies Excused _
    cases graceful : request.isLeftToEventLoop with
    | true => exact sendRequest_graceful graceful notice false
    | false =>
      obtain ⟨result, t, ran, requested⟩ :=
        sound.handleOutgoing_run request notice false graceful (by simp)
      rw [sendRequest_ok ran]
      exact ⟨.requested ran requested, healthy_request same sound releases requested⟩
  | replay position notice =>
    dsimp only [step]
    cases found : d.replays[position]? with
    | none => exact ⟨.absent found, healthy⟩
    | some request =>
      cases graceful : request.isLeftToEventLoop with
      | true => exact sendRequest_graceful graceful notice true
      | false =>
        obtain ⟨result, t, ran, requested, after⟩ := healthy.replay_run found notice graceful
        dsimp only
        rw [sendRequest_ok (d := d.without position) ran]
        exact ⟨.replayed found ran requested, after⟩
  | forget position => exact ⟨.forgotten position, Healthy.forget healthy position⟩
  | incoming packet =>
    obtain ⟨result, t, ran, handled⟩ := sound.handleIncoming_run packet
    show (d.receive packet).Satisfies Excused _
    rw [receive_ok ran]
    refine ⟨.received ran handled, live, stale, ?_, ?_, releases⟩
    · rwa [replays_afterPacket]
    · rw [state_afterPacket]
      exact sound.handled handled
  | clean =>
    show d.lose.Satisfies Excused _
    rw [lose_run sound]
    exact ⟨.lost, healthy.lost⟩
  | resetSession =>
    unfold step
    rw [sound.resetSession_run]
    exact ⟨.reset, .of_sound d.state.sound_sessionReset⟩
  | restore options session =>
    show (d.restore options session).Satisfies Excused _
    unfold restore
    rcases sound.restore_cases options session with ⟨error, ran⟩ | ⟨restorable, ran⟩
    · rw [ran]
      exact ⟨.unrestored ran, healthy⟩
    · rw [ran]
      exact ⟨.restored restorable ran, .of_sound (sound_restoredFrom d.state restorable)⟩
  | reconcileCapacity pendingEmpty =>
    dsimp only [step, reconcileOutgoingTrackingCapacity]
    split
    · exact ⟨.shrunk pendingEmpty, live, stale, same, sound.maybeShrink, releases⟩
    · exact ⟨.kept pendingEmpty, healthy⟩

theorem healthy_step (op : Op) (healthy : d.Healthy) : (d.step op).Satisfies Excused Healthy :=
  (healthy.step_cases op).mono fun _ => And.right

theorem healthy_run (options : StateOptions) (ops : List Op) :
    (runSteps step (new options) ops).Satisfies Excused Healthy :=
  runSteps_invariant (fun _ op healthy => healthy_step op healthy) (healthy_new options) ops

end Driver

/-! ### Identifier ownership -/

namespace MqttState

/-- The identifier has an entry in the table. -/
def Tracks (s : MqttState) : Table → PacketId → Prop
  | .publish, pkid => (s.outgoingPub.lookup pkid.toNat).isSome
  | .release, pkid => pkid.toNat ∈ s.outgoingRel
  | .releaseReplay, pkid => pkid.toNat ∈ s.outgoingRelReplay
  | .subscribe, pkid => pkid ∈ s.pendingSubscribe
  | .unsubscribe, pkid => pkid ∈ s.pendingUnsubscribe

/-- An order deque lists the entries of its table, each once. -/
def Enumerates (s : MqttState) (order : List PacketId) (table : Table) : Prop :=
  order.Nodup ∧ ∀ pkid, pkid ∈ order ↔ s.Tracks table pkid

/-- The position lies within every tracking array. -/
structure Fits (s : MqttState) (pkid : PacketId) : Prop where
  publish : pkid.toNat < s.outgoingPub.length
  publishNotice : pkid.toNat < s.outgoingPubNotice.length
  release : pkid.toNat < s.outgoingRel.length
  releaseReplay : pkid.toNat < s.outgoingRelReplay.length
  releaseNotice : pkid.toNat < s.outgoingRelNotice.length

/-- **Every identifier has at most one owner, and the owner's tables agree.** -/
structure IdentifiersOwned (s : MqttState) : Prop where
  count : s.outboundPkidCount = s.outboundPkidInUse.card
  zero : 0 ∉ s.outboundPkidInUse
  exclusive : Exclusive s.Tracks
  inUse : ∀ table pkid, s.Tracks table pkid → pkid.toNat ∈ s.outboundPkidInUse
  pubOrder : s.Enumerates s.outgoingPubOrder .publish
  relOrder : s.Enumerates s.outgoingRelOrder .release
  relReplayOrder : s.Enumerates s.outgoingRelReplayOrder .releaseReplay
  recovery : ∀ bit ∈ s.outgoingRelRecovery, bit ∈ s.outgoingRel
  fits : ∀ pkid, s.Tracks .publish pkid ∨ s.Tracks .release pkid ∨ s.Tracks .releaseReplay pkid →
    s.Fits pkid

variable {s : MqttState} {pool : List Request}

theorem tracks_eq (s : MqttState) : s.Tracks = s.toFlows.Tracks := by
  funext table pkid
  cases table <;> rfl

/-- **A sound state machine owns its identifiers.** -/
theorem Sound.identifiersOwned (sound : s.Sound pool) : s.IdentifiersOwned where
  count := sound.tracked.ids.count
  zero := sound.tracked.ids.zero
  exclusive := by
    rw [tracks_eq]
    exact sound.tracked.exclusive_tracks
  inUse := by
    rw [tracks_eq]
    exact fun table pkid tracks => sound.tracked.inUse_of_tracks tracks
  pubOrder := ⟨sound.tracked.pubOrder_nodup, sound.tracked.mem_pubOrder⟩
  relOrder := ⟨sound.tracked.relOrder_nodup, sound.tracked.mem_relOrder⟩
  relReplayOrder := ⟨sound.tracked.relReplayOrder_nodup, sound.tracked.mem_relReplayOrder⟩
  recovery := sound.recovery_sub
  fits := by
    intro pkid tracks
    have within : pkid.toNat < s.outgoingPub.length := by
      rcases tracks with publish | release | replay
      · exact sound.tracked.lt_of_mem_pubOrder ((sound.tracked.mem_pubOrder pkid).mpr publish)
      · exact sound.tracked.lt_of_mem_relOrder ((sound.tracked.mem_relOrder pkid).mpr release)
      · exact sound.tracked.lt_of_mem_relReplayOrder
          ((sound.tracked.mem_relReplayOrder pkid).mpr replay)
    exact ⟨within, sound.tracked.noticeLength ▸ within, sound.tracked.relLength ▸ within,
      sound.tracked.relReplayLength ▸ within, sound.tracked.relNoticeLength ▸ within⟩

end MqttState

/-- **Packet identifier ownership in every run.** Whatever operations are performed on a new state,
restores of checkpoints included, every identifier has one owner afterwards, and no run ends in a
panic other than the one reserved for graceful disconnects. -/
theorem packet_identifiers_owned (options : StateOptions) (ops : List Op) :
    (runSteps Driver.step (Driver.new options) ops).Satisfies Driver.Excused
      fun d => d.state.IdentifiersOwned := by
  refine (Driver.healthy_run options ops).mono ?_
  rintro d ⟨live, -, -, sound, -⟩
  exact sound.identifiersOwned

end Rumqtt.V5
