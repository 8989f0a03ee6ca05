/-
**Runs of the MQTT 3.1.1 state machine.**

A `Driver` is the state machine together with what its caller holds: the requests that a clean-up or
a restore handed out and that have not been replayed yet. `Driver.step` performs one operation; a run
is any sequence of them. `Driver.Healthy` is the invariant of all runs: the state machine is sound for
the requests that are still to be replayed, up to PUBRELs the application has sent itself.
-/

import Mathlib.Data.List.Perm.Basic
import Rumqtt.Lib.Run
import Rumqtt.V4.Moves
import Rumqtt.V4.Session

namespace Rumqtt.V4

open MqttState

/-- **The state machine and its surroundings.** -/
structure Driver where
  state : MqttState
  /-- Requests handed out for replay and not replayed yet. -/
  replays : List Request

/-- An operation on the state machine. -/
inductive Op where
  | request (request : Request) (notice : Option TrackedNotice)
  /-- Replays the request at a position of the list handed out. -/
  | replay (position : Nat) (notice : Option TrackedNotice)
  /-- A request handed out for replay is given up without telling the state machine. -/
  | forget (position : Nat)
  | incoming (packet : Packet)
  /-- The connection is lost. -/
  | clean
  | resetSession
  | restore (options : SessionOptions) (session : PersistedSession)

namespace Driver

def new (maxInflight : UInt16) (ackMode : AckMode) : Driver := ⟨newInternal maxInflight ackMode, []⟩

def sendRequest (d : Driver) (request : Request) (notice : Option TrackedNotice) (replay : Bool) :
    Checked Driver := do
  let (_, s) ← (handleOutgoingPacketWithNoticeInternal request notice replay).run d.state
  return { d with state := s }

def receive (d : Driver) (packet : Packet) : Checked Driver := do
  let (_, s) ← (handleIncomingPacketWithEffects packet).run d.state
  return { d with state := s }

/-- The requests of a clean-up that keep their identifiers. -/
def handedOut (requests : List CleanRequest) : List Request :=
  (requests.filter (·.replay)).map (·.request)

def lose (d : Driver) : Checked Driver := do
  let (result, s) ← cleanWithNoticesForReconnect.run d.state
  match result with
  | .ok requests => return ⟨s, d.replays ++ handedOut requests⟩
  | .error _ => return { d with state := s }

def restore (d : Driver) (options : SessionOptions) (session : PersistedSession) : Checked Driver := do
  let (result, s) ← d.state.restorePersistedSession options session
  match result with
  | .ok requests => return ⟨s, requests⟩
  | .error _ => return { d with state := s }

/-- The driver without the request at a position of the list handed out. -/
def without (d : Driver) (position : Nat) : Driver :=
  { d with replays := d.replays.eraseIdx position }

/-- **One operation.** -/
def step (d : Driver) : Op → Checked Driver
  | .request request notice => d.sendRequest request notice false
  | .replay position notice =>
    match d.replays[position]? with
    | none => return d
    | some request => (d.without position).sendRequest request notice true
  | .forget position => return d.without position
  | .incoming packet => d.receive packet
  | .clean => d.lose
  | .resetSession => do
    let s ← d.state.resetSessionState
    return ⟨s, []⟩
  | .restore options session => d.restore options session

/-! ### The invariant of all runs -/

variable {d : Driver} {pool : List Request}

/-- **A driver is healthy** when its state machine is sound for the requests it will replay. A PUBREL
that the application has sent in the meantime may be left over among them. -/
def Healthy (d : Driver) : Prop := Accounts d.state.Sound d.replays

/-- Graceful disconnects are the event loop's business; the state machine stops at them. -/
def Excused (panic : Panic) : Prop :=
  panic = .unreachableCode "graceful disconnect requests are handled by the event loop"

theorem healthy_new (maxInflight : UInt16) (ackMode : AckMode) : (new maxInflight ackMode).Healthy :=
  .of_sound (sound_new maxInflight ackMode)

/-! ### What an operation leads to -/

/-- A graceful disconnect stops the state machine. -/
theorem handleOutgoing_graceful {request : Request} (graceful : request.isLeftToEventLoop = true)
    (notice : Option TrackedNotice) (replay : Bool) (s : MqttState) :
    (handleOutgoingPacketWithNoticeInternal request notice replay).run s = .error (.unreachableCode
      "graceful disconnect requests are handled by the event loop") := by
  cases request with
  | disconnect => rfl
  | disconnectWithTimeout => rfl
  | disconnectAfterQueued => rfl
  | disconnectAfterQueuedWithTimeout => rfl
  | _ => cases graceful

theorem sendRequest_graceful {post : Driver → Prop} {request : Request}
    (graceful : request.isLeftToEventLoop = true) (notice : Option TrackedNotice) (replay : Bool) :
    (d.sendRequest request notice replay).Satisfies Excused post := by
  unfold sendRequest
  rw [handleOutgoing_graceful graceful]
  exact Eq.refl (Panic.unreachableCode _)

theorem sendRequest_ok {request : Request} {notice : Option TrackedNotice} {replay : Bool}
    {result : RequestResult} {t : MqttState}
    (ran : (handleOutgoingPacketWithNoticeInternal request notice replay).run d.state =
      .ok (result, t)) : d.sendRequest request notice replay = .ok { d with state := t } :=
  Checked.bind_ok.mpr ⟨(result, t), ran, rfl⟩

/-- The driver after a lost connection. -/
def lost (d : Driver) : Driver :=
  ⟨d.state.afterClean, d.replays ++ handedOut d.state.toFlows.cleanRequests⟩

theorem lose_run (sound : d.state.Sound pool) : d.lose = .ok d.lost :=
  Checked.bind_ok.mpr ⟨_, sound.clean_run, rfl⟩

/-! ### Every operation keeps a driver healthy -/

theorem healthy_pubrel {live stale : List Request} {pubrel : PubRel} {notice : Option TrackedNotice}
    {replay : Bool} {result : RequestResult} {t : MqttState}
    (same : d.replays.Perm (live ++ stale)) (sound : d.state.Sound live)
    (releases : ∀ request ∈ stale, request.pubRelPkid?.isSome)
    (requested : Requested d.state notice (.pubRel pubrel) replay result t) :
    Healthy { d with state := t } := by
  rcases sound.pubrelRequested requested with kept | ⟨member, fewer⟩
  · exact ⟨live, stale, same, kept, releases⟩
  · refine Accounts.of_poolWithout same releases (fun request inLive owns => ?_) fewer
    rw [(sound.tracked.replay_kind request inLive _ owns).mp member]
    rfl

theorem healthy_request {live stale : List Request} (same : d.replays.Perm (live ++ stale))
    (sound : d.state.Sound live) (releases : ∀ request ∈ stale, request.pubRelPkid?.isSome)
    {request : Request} {notice : Option TrackedNotice} {result : RequestResult} {t : MqttState}
    (requested : Requested d.state notice request false result t) :
    Healthy { d with state := t } := by
  cases kind : request.pubRelPkid? with
  | none => exact ⟨live, stale, same, sound.requested kind requested, releases⟩
  | some pkid =>
    cases request with
    | pubRel pubrel => exact healthy_pubrel same sound releases requested
    | _ => cases kind

theorem Healthy.forget (healthy : d.Healthy) (position : Nat) : (d.without position).Healthy :=
  Accounts.forget healthy (fun same sound => sound.perm same)
    (fun sound => sound.sublist (List.sublist_cons_self ..)) position

theorem Healthy.replay_run {position : Nat} {request : Request} (healthy : d.Healthy)
    (found : d.replays[position]? = some request) (notice : Option TrackedNotice)
    (handed : request.isLeftToEventLoop = false) :
    ∃ result t, (handleOutgoingPacketWithNoticeInternal request notice true).run d.state =
        .ok (result, t) ∧ Requested d.state notice request true result t ∧
      Healthy { d.without position with state := t } := by
  rcases Accounts.split healthy (fun same sound => sound.perm same) found with
    ⟨rest, stale, sound, same, releases⟩ | ⟨released, live, stale, sound, same, releases⟩
  · obtain ⟨result, t, ran, requested⟩ :=
      sound.handleOutgoing_run request notice true handed fun _ _ => List.mem_cons_self
    exact ⟨result, t, ran, requested, rest, stale, same, sound.replayed requested, releases⟩
  · obtain ⟨result, t, ran, requested⟩ := sound.handleOutgoing_run request notice true handed
      fun _ notRelease => by simp [notRelease] at released
    refine ⟨result, t, ran, requested, ?_⟩
    cases request with
    | pubRel pubrel => exact healthy_pubrel (d := d.without position) same sound releases requested
    | _ => cases released

/-- A lost connection adds the requests of the clean-up to those handed out. -/
theorem Healthy.lost (healthy : d.Healthy) : d.lost.Healthy := by
  obtain ⟨live, stale, same, sound, releases⟩ := healthy
  have handed : handedOut d.state.toFlows.cleanRequests =
      d.state.toFlows.replayRequests.map (·.request) :=
    congrArg _ (Flows.Tracked.filter_replay_cleanRequests d.state.toFlows)
  refine ⟨live ++ handedOut d.state.toFlows.cleanRequests, stale, ?_, ?_, releases⟩
  · refine (same.append_right _).trans ?_
    rw [List.append_assoc, List.append_assoc]
    exact List.perm_append_comm.append_left live
  · rw [handed]
    exact sound.afterClean

/-- **What an operation does to a driver.** -/
inductive Stepped (d : Driver) : Op → Driver → Prop where
  | requested {request : Request} {notice : Option TrackedNotice} {result : RequestResult}
    {t : MqttState} (requested : Requested d.state notice request false result t) :
    Stepped d (.request request notice) { d with state := t }
  | absent (position : Nat) (notice : Option TrackedNotice) : Stepped d (.replay position notice) d
  | replayed {position : Nat} {request : Request} {notice : Option TrackedNotice}
    {result : RequestResult} {t : MqttState} (found : d.replays[position]? = some request)
    (requested : Requested d.state notice request true result t) :
    Stepped d (.replay position notice) { d.without position with state := t }
  | forgotten (position : Nat) : Stepped d (.forget position) (d.without position)
  | received {packet : Packet} {result : PacketResult} {t : MqttState}
    (ran : (handleIncomingPacketWithEffects packet).run d.state = .ok (result, t))
    (handled : Handled d.state packet result t) :
    Stepped d (.incoming packet) { d with state := t }
  | lost : Stepped d .clean d.lost
  | reset : Stepped d .resetSession ⟨d.state.sessionReset, []⟩
  | unrestored {options : SessionOptions} {session : PersistedSession} {error : SessionRestoreError}
    (ran : d.state.restorePersistedSession options session = .ok (.error error, d.state)) :
    Stepped d (.restore options session) d
  | restored {options : SessionOptions} {session : PersistedSession}
    (restorable : Restorable countsAgainstWindow d.state.maxInflight session.incomingQos2
      session.replay)
    (ran : d.state.restorePersistedSession options session =
      .ok (.ok (session.replay.map PersistedRequest.toRequest), d.state.restoredFrom session)) :
    Stepped d (.restore options session)
      ⟨d.state.restoredFrom session, session.replay.map PersistedRequest.toRequest⟩

/-- **Every operation of a healthy driver is one of these, and keeps it healthy.** -/
theorem Healthy.step_cases (healthy : d.Healthy) (op : Op) :
    (d.step op).Satisfies Excused fun after => Stepped d op after ∧ after.Healthy := by
  obtain ⟨live, stale, same, sound, releases⟩ := id healthy
  cases op with
  | request request notice =>
    show (d.sendRequest request notice false).Satisfies Excused _
    cases graceful : request.isLeftToEventLoop with
    | true => exact sendRequest_graceful graceful notice false
    | false =>
      obtain ⟨result, t, ran, requested⟩ :=
        sound.handleOutgoing_run request notice false graceful (by simp)
      rw [sendRequest_ok ran]
      exact ⟨.requested requested, healthy_request same sound releases requested⟩
  | replay position notice =>
    dsimp only [step]
    cases found : d.replays[position]? with
    | none => exact ⟨.absent position notice, healthy⟩
    | some request =>
      cases graceful : request.isLeftToEventLoop with
      | true => exact sendRequest_graceful graceful notice true
      | false =>
        obtain ⟨result, t, ran, requested, after⟩ := healthy.replay_run found notice graceful
        dsimp only
        rw [sendRequest_ok (d := d.without position) ran]
        exact ⟨.replayed found requested, after⟩
  | forget position => exact ⟨.forgotten position, Healthy.forget healthy position⟩
  | incoming packet =>
    obtain ⟨result, t, ran, handled⟩ := sound.handleIncoming_run packet
    have received : d.receive packet = .ok { d with state := t } :=
      Checked.bind_ok.mpr ⟨(result, t), ran, rfl⟩
    show (d.receive packet).Satisfies Excused _
    rw [received]
    exact ⟨.received ran handled, live, stale, same, sound.handled handled, releases⟩
  | clean =>
    show d.lose.Satisfies Excused _
    rw [lose_run sound]
    exact ⟨.lost, healthy.lost⟩
  | resetSession =>
    unfold step
    rw [sound.resetSession_run]
    exact ⟨.reset, .of_sound (sound_new d.state.maxInflight d.state.ackMode)⟩
  | restore options session =>
    show (d.restore options session).Satisfies Excused _
    unfold restore
    rcases sound.restore_cases options session with ⟨error, ran⟩ | ⟨restorable, ran⟩
    · rw [ran]
      exact ⟨.unrestored ran, healthy⟩
    · rw [ran]
      exact ⟨.restored restorable ran, .of_sound (sound_restoredFrom d.state restorable)⟩

theorem healthy_step (op : Op) (healthy : d.Healthy) : (d.step op).Satisfies Excused Healthy :=
  (healthy.step_cases op).mono fun _ => And.right

theorem healthy_run (maxInflight : UInt16) (ackMode : AckMode) (ops : List Op) :
    (runSteps step (new maxInflight ackMode) ops).Satisfies Excused Healthy :=
  runSteps_invariant (fun _ op healthy => healthy_step op healthy)
    (healthy_new maxInflight ackMode) ops

end Driver

end Rumqtt.V4
