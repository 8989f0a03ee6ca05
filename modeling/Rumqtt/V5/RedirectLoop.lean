/-
**The event loop that follows redirects.**

The redirect part of the MQTT 5 event loop. A server that redirects is put before the policy; an
accepted profile becomes the connection target and the chain goes on until a connection is established
or fails. A failure puts the options of the origin back.

The model runs from one completed wait of `poll` to the next: an SRV lookup, a connection attempt, an
event of the connection, the checkpoint before a redirect is handled. What servers, the policy, the
resolver, the store and the clock answer is the input `Answer`, and any wait may be cancelled. The
session is whatever `SessionOps` says; nothing is assumed of it.

`Redirecting.installed` is a log of the targets that redirects installed, `Redirecting.hops` of how the
options came about since the origin; no step reads them.
-/

import Rumqtt.V5.Redirect

namespace Rumqtt.V5

/-! ### The redirect state of the event loop -/

inductive ConnectFailurePhase where
  | targetSetup
  | transport
  | mqttHandshake
  deriving DecidableEq, Repr

/-- Why an attempt to follow a redirect failed. -/
inductive AttemptError where
  | connection (code : Nat)
  | requestsDone
  | orderedRedirected
  deriving DecidableEq, Repr

inductive RedirectFailure where
  | disabled
  | rejected
  | invalidReference (error : RedirectReferenceError)
  | target (error : RedirectTargetError)
  | unadvertisedTarget
  | loop
  | attemptLimit
  | srvResolverUnavailable (owner : Text)
  | srvLookup (owner : Text) (source : Nat)
  | srvLookupTimeout (owner : Text)
  | srvServiceUnavailable (owner : Text)
  | srvAnswerTooLarge (owner : Text) (count max : Nat)
  | srvNoUsableTargets (owner : Text) (rejected : Nat)
  | srvAllTargetsVisited (owner : Text)
  | srvTargetsExhausted (owner : Text) (attempted : Nat) (lastError : AttemptError)
  | followFailed (error : AttemptError)
  deriving DecidableEq, Repr

/-- The errors of `poll` that redirects meet. -/
inductive PollError where
  | redirect (outcome : RedirectOutcome) (failure : RedirectFailure)
  | sessionRestore
  | sessionStore
  | requestsDone
  | orderedRedirected
  | disconnectTimeout
  | attempt (error : AttemptError)
  | connectionLost
  deriving DecidableEq, Repr

/-- The error of an attempt that ended in a redirect which was not followed, where the redirect before
it is still active. -/
def PollError.asAttempt : PollError → AttemptError
  | .orderedRedirected => .orderedRedirected
  | _ => .requestsDone

/-- Errors after which a fenced shutdown may go on. -/
def PollError.transport : PollError → Bool
  | .attempt _ => true
  | .connectionLost => true
  | _ => false

structure SrvConnectionPlan where
  owner : Text
  candidates : List ResolvedSrvTarget
  attempted : Nat
  deriving DecidableEq, Repr

inductive SrvRedirectState where
  | unresolved (owner : Text)
  | resolved (plan : SrvConnectionPlan)
  deriving DecidableEq, Repr

/-- Errors of an established connection. -/
inductive NetworkError where
  | serverRedirect (outcome : RedirectOutcome)
  | disconnectTimeout
  | other
  deriving DecidableEq, Repr

inductive PendingServerRedirect where
  | handshakeEvents (outcome : RedirectOutcome)
  | drainEvents (outcome : RedirectOutcome)
  | checkpoint (outcome : RedirectOutcome)
  deriving DecidableEq, Repr

/-- A target that a redirect has installed. -/
structure Target where
  broker : Broker
  transport : Transport
  deriving DecidableEq, Repr

/-- What redirects do with the session `σ` of the event loop: `κ` is what is kept of the origin's
session, `ι` what a connection attempt finds in the store and in the CONNACK. -/
structure SessionOps (σ κ ι : Type) where
  /-- `redirect_origin_session`: `none` where the session cannot be resumed. -/
  originSession : MqttOptions → σ → Option κ
  /-- `reset_session_state_for_redirect` -/
  reset : σ → σ
  /-- `session_store.loaded = true` -/
  markLoaded : σ → σ
  /-- `restore_publish_replay` with the keys of the origin; false where it is refused. -/
  restore : MqttOptions → κ → σ → Bool × σ
  /-- `clean_with_notice_reason` -/
  clean : σ → σ
  /-- What an attempt does before it succeeds or fails. -/
  attempt : MqttOptions → ι → σ → σ

structure ActiveRedirect (addresses : Addresses) (κ : Type) where
  outcome : RedirectOutcome
  profile : RedirectTargetProfile addresses
  previousOptions : MqttOptions
  originSession : Option κ
  sessionPreserved : Bool
  established : Bool
  srv : Option SrvRedirectState

/-- What has changed the options since the origin: an accepted profile, an SRV target of it, or a CONNACK
that assigns a client identifier. -/
inductive Hop (addresses : Addresses) where
  | profile (profile : RedirectTargetProfile addresses)
  | target (broker : Broker)
  | assigned (clientId : String)

/-- What a hop does to the options. -/
def Hop.apply {addresses : Addresses} (options : MqttOptions) : Hop addresses → MqttOptions
  | .profile followed => followed.apply options
  | .target broker => { options with broker }
  -- `mqtt_connect` takes the identifier of the broker where it has sent none
  | .assigned clientId =>
    { options with clientId := if options.clientId.isEmpty then clientId else options.clientId }

/-- **How a client came to the options it goes back to**: those it was configured with, and the hops that
are not undone any more. A permanent redirect stays when its connection is established. -/
structure Journey (addresses : Addresses) where
  start : MqttOptions
  hops : List (Hop addresses) := []

/-- The options a journey leads to. -/
def Journey.options {addresses : Addresses} (journey : Journey addresses) : MqttOptions :=
  journey.hops.foldl Hop.apply journey.start

/-- More hops become permanent. -/
def Journey.extend {addresses : Addresses} (journey : Journey addresses)
    (hops : List (Hop addresses)) : Journey addresses :=
  { journey with hops := journey.hops ++ hops }

theorem Journey.options_extend {addresses : Addresses} (journey : Journey addresses)
    (hops : List (Hop addresses)) :
    (journey.extend hops).options = hops.foldl Hop.apply journey.options :=
  List.foldl_append

/-- The authenticators of the state machine. -/
structure Authenticators where
  authenticator : Option Nat
  asyncAuthenticator : Option Nat
  deriving DecidableEq, Repr

def MqttOptions.authenticators (options : MqttOptions) : Authenticators :=
  ⟨options.authenticator, options.asyncAuthenticator⟩

/-- **The event loop, as far as redirects go.** -/
structure Redirecting (addresses : Addresses) (σ κ : Type) where
  options : MqttOptions
  session : σ
  /-- Those of `state`. -/
  authenticators : Authenticators := options.authenticators
  /-- `network.is_some()` -/
  connected : Bool := false
  activeRedirect : Option (ActiveRedirect addresses κ) := none
  pendingServerRedirect : Option PendingServerRedirect := none
  pendingConnectionError : Option NetworkError := none
  pendingRedirectShutdown : Bool := false
  redirectAttempts : Nat := 0
  redirectVisited : List Text := []
  disconnectComplete : Bool := false
  /-- Every target that a redirect installed, oldest first. -/
  installed : List Target := []
  /-- How the client came to the origin. -/
  journey : Journey addresses := ⟨options, []⟩
  /-- Every hop since the origin, oldest first. -/
  hops : List (Hop addresses) := []

/-- What one completed wait led to. -/
inductive Outcome where
  /-- `Event::Redirect` was returned. -/
  | redirected (outcome : RedirectOutcome)
  /-- The SRV lookup gave a target. -/
  | resolved
  /-- The attempt failed and the next SRV target is installed. -/
  | retried
  /-- A redirect waits until the queued events are delivered. -/
  | deferred
  /-- The wait was cancelled. -/
  | cancelled
  /-- `clean` found no temporary redirect. -/
  | cleaned
  /-- `clean` left a temporary redirect. -/
  | left
  /-- An event of an established connection. -/
  | delivered
  | established
  | error (error : PollError)
  /-- `unreachable!` was reached. -/
  | panicked
  deriving DecidableEq, Repr

/-! ### What the environment answers -/

/-- Answers while one redirect outcome is handled. -/
structure RedirectAnswers (addresses : Addresses) where
  /-- `has_fence()` of an ordered shutdown. -/
  fenced : Bool := false
  /-- `redirect_shutdown_requested()` before and after the policy decides. -/
  shutdown : Bool := false
  shutdownLater : Bool := false
  decision : Except RedirectTargetError (RedirectDecision addresses)
  /-- Whether the deadline of the decision has passed, each time it is checked. -/
  expired : Bool := false
  expiredLater : Bool := false

inductive LookupAnswer where
  | records (records : List SrvRecord)
  | failed (source : Nat)
  | unavailable
  | timeout
  | cancelled

inductive AttemptAnswer where
  /-- `assigned`: the client identifier of the CONNACK. -/
  | established (assigned : String := "")
  | redirect (outcome : RedirectOutcome) (eventsQueued : Bool)
  /-- `terminal`: a terminal transport error is found. -/
  | failed (phase : Option ConnectFailurePhase) (terminal : Bool) (code : Nat)
  | cancelled

/-- What an established connection brings. A read batch whose notices could not be saved keeps its
redirect for later. -/
inductive NetworkAnswer where
  | event
  | error (error : NetworkError) (drainFirst eventsQueued : Bool)
  | failedBatch (outcome : RedirectOutcome) (drainFirst : Bool)

inductive CheckpointAnswer where
  | done
  | failed
  | cancelled

structure Answer (addresses : Addresses) (ι : Type) where
  redirect : RedirectAnswers addresses
  /-- `redirect_shutdown_requested()` -/
  shutdown : Bool := false
  /-- `immediate_disconnect_rx.try_recv()` -/
  immediate : Bool := false
  lookup : LookupAnswer := .unavailable
  rng : Rng := .idle
  attempt : AttemptAnswer := .cancelled
  session : ι
  network : NetworkAnswer := .event
  checkpoint : CheckpointAnswer := .done
  /-- A fenced shutdown does not survive a lost connection. -/
  fatal : Bool := false

/-- A wait of `poll` completes, or the application calls `clean`. -/
inductive Input (addresses : Addresses) (ι : Type) where
  | poll (answer : Answer addresses ι)
  | clean

section Machine

variable {addresses : Addresses} {σ κ ι : Type} (ops : SessionOps σ κ ι)
  (parse : Option Text → Except RedirectReferenceError (List RedirectReference))

namespace Redirecting

/-! ### The origin and its restoration -/

/-- `current_redirect_endpoint_key` -/
def currentRedirectEndpointKey (el : Redirecting addresses σ κ) : Option Text :=
  normalizedBrokerKey addresses el.options.broker el.options.transport

/-- The chain is over. -/
def forget (el : Redirecting addresses σ κ) : Redirecting addresses σ κ :=
  { el with redirectAttempts := 0, redirectVisited := [] }

/-- What becomes of the session when the origin comes back; false where its restoration is refused. -/
def restoredSession (session : σ) (active : ActiveRedirect addresses κ) : Bool × σ :=
  match active.originSession with
  | some origin => ops.restore active.previousOptions origin (ops.reset session)
  | none => (true, if active.sessionPreserved then ops.markLoaded session else ops.reset session)

section

variable (el : Redirecting addresses σ κ)

/-- **`restore_redirect_origin`**; false where the origin's session is refused. -/
def restoreRedirectOrigin : Bool × Redirecting addresses σ κ :=
  match el.activeRedirect with
  | none => (true, el)
  | some active =>
    let restored := restoredSession ops el.session active
    let el := { el with
      activeRedirect := none, options := active.previousOptions, session := restored.2
      authenticators := active.previousOptions.authenticators, hops := [] }
    (restored.1, if restored.1 then el.forget else el)

/-- **`redirect_failure`** -/
def redirectFailure (outcome : RedirectOutcome)
    (failure : RedirectFailure) : Outcome × Redirecting addresses σ κ :=
  let restored := el.restoreRedirectOrigin ops
  (.error (if restored.1 then .redirect outcome failure else .sessionRestore), restored.2)

/-- `finish_redirected_shutdown` -/
def finishRedirectedShutdown : Outcome × Redirecting addresses σ κ :=
  (.error .requestsDone, { el with pendingRedirectShutdown := false, disconnectComplete := true })

end

/-! ### Following a redirect -/

section

variable (el : Redirecting addresses σ κ)

/-- The first redirect of a chain marks the endpoint it came from. -/
def seedVisited : Redirecting addresses σ κ :=
  if el.redirectVisited.isEmpty then
    { el with redirectVisited := el.currentRedirectEndpointKey.toList }
  else el

/-- `apply_redirect_profile`: the flag tells whether the session goes on. -/
def applyRedirectProfile (profile : RedirectTargetProfile addresses) :
    Bool × Redirecting addresses σ κ :=
  let preserve := profile.preservesSession el.options
  (preserve, { el with
    options := profile.apply el.options
    session := if preserve then ops.markLoaded el.session else ops.reset el.session
    authenticators := (profile.apply el.options).authenticators
    hops := el.hops ++ [.profile profile]
    installed := el.installed ++
      (profile.broker.map fun broker => Target.mk broker profile.transport).toList })

section

variable (outcome : RedirectOutcome)

/-- The redirect that is active once a profile is applied. -/
def nextRedirect (profile : RedirectTargetProfile addresses) : ActiveRedirect addresses κ :=
  let hopPreserved := profile.preservesSession el.options
  let srv := profile.srvOwner.map SrvRedirectState.unresolved
  match el.activeRedirect with
  | none =>
    { outcome, profile, previousOptions := el.options,
      originSession := if hopPreserved then none else ops.originSession el.options el.session,
      sessionPreserved := hopPreserved, established := false, srv }
  | some active =>
    let sessionPreserved := active.sessionPreserved && hopPreserved
    { outcome, profile, previousOptions := active.previousOptions,
      originSession := if sessionPreserved then none else active.originSession,
      sessionPreserved, established := false, srv }

/-- The end of `handle_redirect_outcome`: the profile is applied and the redirect active. -/
def follow (profile : RedirectTargetProfile addresses) (endpoint : Option Text) :
    Redirecting addresses σ κ :=
  { (el.applyRedirectProfile ops profile).2 with
    redirectAttempts := el.redirectAttempts + 1
    redirectVisited := el.redirectVisited ++ endpoint.toList
    activeRedirect := some (el.nextRedirect ops outcome profile) }

/-- `prepare_redirect_target` and what follows it in `handle_redirect_outcome`. -/
def tryFollow (references : List RedirectReference) (profile : RedirectTargetProfile addresses)
    (answers : RedirectAnswers addresses) : Outcome × Redirecting addresses σ κ :=
  if profile.reference ∉ references then el.redirectFailure ops outcome .unadvertisedTarget
  else
    let el := el.seedVisited
    let endpoint := profile.reference.endpointKey addresses profile.transport
    if endpoint.any (· ∈ el.redirectVisited) then el.redirectFailure ops outcome .loop
    else match profile.validate el.options answers.expired with
      | .error error => el.redirectFailure ops outcome (.target error)
      | .ok () =>
        match profile.validate el.options answers.expiredLater with
        | .error error => el.redirectFailure ops outcome (.target error)
        | .ok () => (.redirected outcome, el.follow ops outcome profile endpoint)

/-- **`handle_redirect_outcome`** -/
def handleRedirectOutcome
    (answers : RedirectAnswers addresses) : Outcome × Redirecting addresses σ κ :=
  if answers.fenced then (.error .orderedRedirected, el)
  else if el.pendingRedirectShutdown || answers.shutdown then el.finishRedirectedShutdown
  else match el.options.redirectPolicy with
    | none => el.redirectFailure ops outcome .disabled
    | some maxAttempts =>
      if maxAttempts ≤ el.redirectAttempts then el.redirectFailure ops outcome .attemptLimit
      else match parse outcome.serverReference with
        | .error error => el.redirectFailure ops outcome (.invalidReference error)
        | .ok references =>
          if answers.shutdownLater then el.finishRedirectedShutdown
          else match answers.decision with
            | .error error => el.redirectFailure ops outcome (.target error)
            | .ok .reject => el.redirectFailure ops outcome .rejected
            | .ok (.follow profile) => el.tryFollow ops outcome references profile answers

end

end

/-! ### SRV targets -/

/-- The first candidate whose endpoint was not visited, and the candidates after it. -/
def nextSrvCandidate (addresses : Addresses) (visited : List Text) (transport : Transport) :
    List ResolvedSrvTarget → Option (ResolvedSrvTarget × List ResolvedSrvTarget)
  | [] => none
  | target :: rest =>
    if normalizedProfileKey addresses target.target target.port transport ∈ visited then
      nextSrvCandidate addresses visited transport rest
    else some (target, rest)

/-- A candidate becomes the connection target. -/
def installCandidate (el : Redirecting addresses σ κ) (active : ActiveRedirect addresses κ)
    (plan : SrvConnectionPlan) (target : ResolvedSrvTarget) (rest : List ResolvedSrvTarget) :
    Redirecting addresses σ κ :=
  { el with
    redirectVisited := el.redirectVisited ++
      [normalizedProfileKey addresses target.target target.port active.profile.transport]
    options := { el.options with broker := .tcp target.target target.port }
    hops := el.hops ++ [.target (.tcp target.target target.port)]
    installed := el.installed ++ [⟨.tcp target.target target.port, el.options.transport⟩]
    activeRedirect := some { active with
      srv := some (.resolved { plan with candidates := rest, attempted := plan.attempted + 1 }) } }

/-- **`install_next_srv_candidate`** -/
def installNextSrvCandidate (el : Redirecting addresses σ κ) : Bool × Redirecting addresses σ κ :=
  match el.activeRedirect with
  | none => (false, el)
  | some active =>
    match active.srv with
    | some (.resolved plan) =>
      match nextSrvCandidate addresses el.redirectVisited active.profile.transport plan.candidates with
      | some (target, rest) => (true, el.installCandidate active plan target rest)
      | none => (false, { el with activeRedirect := some { active with
          srv := some (.resolved { plan with candidates := [] }) } })
    | _ => (false, el)

/-- The failure of an SRV answer. -/
def srvAnswerFailure (owner : Text) : SrvAnswerError → RedirectFailure
  | .serviceUnavailable => .srvServiceUnavailable owner
  | .tooMany count => .srvAnswerTooLarge owner count maxSrvTargets
  | .noUsableTargets rejected => .srvNoUsableTargets owner rejected

/-- **`resolve_active_srv`** for an unresolved owner. -/
def resolveActiveSrv (el : Redirecting addresses σ κ) (active : ActiveRedirect addresses κ)
    (owner : Text) (answer : Answer addresses ι) : Outcome × Redirecting addresses σ κ :=
  if answer.shutdown then el.finishRedirectedShutdown
  else match answer.lookup with
    | .cancelled => (.cancelled, el)
    | .failed source => el.redirectFailure ops active.outcome (.srvLookup owner source)
    | .unavailable => el.redirectFailure ops active.outcome (.srvResolverUnavailable owner)
    | .timeout => el.redirectFailure ops active.outcome (.srvLookupTimeout owner)
    | .records records =>
      match prepareSrvTargets addresses records answer.rng with
      | .error error => el.redirectFailure ops active.outcome (srvAnswerFailure owner error)
      | .ok targets =>
        let el := { el with activeRedirect := some { active with
          srv := some (.resolved { owner, candidates := targets, attempted := 0 }) } }
        let next := el.installNextSrvCandidate
        if next.1 then (.resolved, next.2)
        else next.2.redirectFailure ops active.outcome (.srvAllTargetsVisited owner)

/-! ### Connection attempts -/

/-- The CONNACK assigns a client identifier to a client that has sent none. -/
def assignClientId (el : Redirecting addresses σ κ) (clientId : String) : Redirecting addresses σ κ :=
  let options := (Hop.assigned clientId : Hop addresses).apply el.options
  match el.activeRedirect with
  | none => { el with options, journey := el.journey.extend [.assigned clientId] }
  | some _ => { el with options, hops := el.hops ++ [.assigned clientId] }

/-- **`record_established_redirect`** -/
def recordEstablishedRedirect (el : Redirecting addresses σ κ) : Redirecting addresses σ κ :=
  match el.activeRedirect with
  | none => el
  | some active =>
    match active.outcome.reason with
    | .serverMoved =>
      { el with activeRedirect := none, journey := el.journey.extend el.hops, hops := [] }.forget
    | .useAnotherServer =>
      { el with activeRedirect := some { active with established := true } }

/-- Whether an attempt failed before the MQTT handshake. -/
def failedBeforeHandshake (phase : Option ConnectFailurePhase) : Bool :=
  phase == some .targetSetup || phase == some .transport

section

variable (el : Redirecting addresses σ κ)

/-- The failed attempt of an unestablished redirect: the next SRV target, or the end of the chain. -/
def attemptFailed (active : ActiveRedirect addresses κ)
    (phase : Option ConnectFailurePhase) (terminal : Bool) (error : AttemptError) :
    Outcome × Redirecting addresses σ κ :=
  if active.srv.isSome && failedBeforeHandshake phase && !terminal then
    let next := el.installNextSrvCandidate
    if next.1 then (.retried, next.2)
    else match active.srv with
      | some (.resolved plan) => next.2.redirectFailure ops active.outcome
          (.srvTargetsExhausted plan.owner plan.attempted error)
      | _ => (.panicked, next.2)
  else el.redirectFailure ops active.outcome (.followFailed error)

/-- The rest of the loop of `establish_connection` once an attempt returned an error. -/
def attemptError (phase : Option ConnectFailurePhase)
    (terminal : Bool) (error : AttemptError) (reported : PollError) :
    Outcome × Redirecting addresses σ κ :=
  match el.activeRedirect with
  | none => (.error reported, el)
  | some active =>
    if active.established then (.error reported, el)
    else el.attemptFailed ops active phase terminal error

/-- **One attempt of `establish_connection`.** -/
def establishConnection (answer : Answer addresses ι) :
    Outcome × Redirecting addresses σ κ :=
  let el := { el with session := ops.attempt el.options answer.session el.session }
  match answer.attempt with
  | .cancelled => (.cancelled, el)
  | .established assigned =>
    (.established, { (el.assignClientId assigned).recordEstablishedRedirect with connected := true })
  | .failed phase terminal code =>
    el.attemptError ops phase terminal (.connection code) (.attempt (.connection code))
  | .redirect outcome eventsQueued =>
    if eventsQueued then
      (.deferred, { el with pendingServerRedirect := some (.handshakeEvents outcome) })
    else match el.handleRedirectOutcome ops parse outcome answer.redirect with
      | (.error error, el) =>
        el.attemptError ops (some .mqttHandshake) false error.asAttempt error
      | other => other

end

/-! ### The established connection -/

section

variable (el : Redirecting addresses σ κ)

/-- `clean_with_notice_reason` -/
def cleaned : Redirecting addresses σ κ :=
  { el with connected := false, session := ops.clean el.session }

/-- **`complete_server_redirect`** -/
def completeServerRedirect (outcome : RedirectOutcome)
    (cleanupRequired : Bool) (answer : Answer addresses ι) : Outcome × Redirecting addresses σ κ :=
  if answer.redirect.fenced then (.error .orderedRedirected, el)
  else
    let el := { el with pendingRedirectShutdown := el.pendingRedirectShutdown || answer.shutdown }
    let el := if cleanupRequired then el.cleaned ops else el
    match answer.checkpoint with
    | .cancelled => (.cancelled, el)
    | .failed =>
      (.error .sessionStore, { el with pendingServerRedirect := some (.checkpoint outcome) })
    | .done =>
      if el.pendingRedirectShutdown then el.finishRedirectedShutdown
      else el.handleRedirectOutcome ops parse outcome answer.redirect

/-- Whether the active redirect has been established. -/
def temporaryRedirect : Bool := el.activeRedirect.any (·.established)

end

/-- The connection is lost: the state is cleaned and saved, and an established redirect is left. -/
def connectionLost (el : Redirecting addresses σ κ) (answer : Answer addresses ι) :
    Outcome × Redirecting addresses σ κ :=
  match el.pendingServerRedirect with
  | some (.drainEvents outcome) =>
    -- `clean_after_deferred_redirect_failure`
    (.error .connectionLost, { el.cleaned ops with
      pendingRedirectShutdown := el.pendingRedirectShutdown || answer.shutdown
      pendingServerRedirect := some (.checkpoint outcome) })
  | _ =>
    let el := el.cleaned ops
    match answer.checkpoint with
    | .cancelled => (.cancelled, el)
    | _ =>
      if el.temporaryRedirect then
        let restored := el.restoreRedirectOrigin ops
        (.error (if restored.1 then .connectionLost else .sessionRestore), restored.2)
      else (.error .connectionLost, el)

section

variable (el : Redirecting addresses σ κ)

/-- **`handle_network_result`** of an error. -/
def handleNetworkResult (error : NetworkError)
    (drainFirst eventsQueued : Bool) (answer : Answer addresses ι) :
    Outcome × Redirecting addresses σ κ :=
  if drainFirst then (.deferred, { el with pendingConnectionError := some error })
  else match error with
    | .serverRedirect outcome =>
      if eventsQueued then
        (.deferred, { el with pendingServerRedirect := some (.drainEvents outcome) })
      else el.completeServerRedirect ops parse outcome true answer
    | .disconnectTimeout =>
      (.error .disconnectTimeout, { el.cleaned ops with disconnectComplete := true })
    | .other => el.connectionLost ops answer

/-- The owner that has to be looked up before connecting. -/
def unresolvedSrv : Option (ActiveRedirect addresses κ × Text) :=
  match el.activeRedirect with
  | none => none
  | some active =>
    match active.srv with
    | some (.unresolved owner) => some (active, owner)
    | _ => none

section

variable (answer : Answer addresses ι)

/-- `establish_connection`, up to its next wait. -/
def connect :
    Outcome × Redirecting addresses σ κ :=
  match el.unresolvedSrv with
  | some (active, owner) => el.resolveActiveSrv ops active owner answer
  | none => el.establishConnection ops parse answer

/-- What the established connection brings. -/
def select :
    Outcome × Redirecting addresses σ κ :=
  match answer.network with
  | .event => (.delivered, el)
  | .error error drainFirst eventsQueued =>
    el.handleNetworkResult ops parse error drainFirst eventsQueued answer
  | .failedBatch outcome drainFirst =>
    { el with pendingServerRedirect := some (.drainEvents outcome) }.handleNetworkResult ops parse
      .other drainFirst false answer

/-- **`poll_once`**, up to its next wait. Deferred results are taken up when the event queue is empty. -/
def pollOnce :
    Outcome × Redirecting addresses σ κ :=
  if el.disconnectComplete then (.error .requestsDone, el)
  else match el.pendingConnectionError with
    | some error =>
      { el with pendingConnectionError := none }.handleNetworkResult ops parse error false false answer
    | none =>
      match el.pendingServerRedirect with
      | some (.handshakeEvents outcome) =>
        { el with pendingServerRedirect := none }.handleRedirectOutcome ops parse outcome answer.redirect
      | some (.drainEvents outcome) =>
        { el with pendingServerRedirect := none }.completeServerRedirect ops parse outcome true answer
      | some (.checkpoint outcome) =>
        { el with pendingServerRedirect := none }.completeServerRedirect ops parse outcome false answer
      | none =>
        if el.connected then el.select ops parse answer
        else if answer.immediate then (.error .requestsDone, { el with disconnectComplete := true })
        else el.connect ops parse answer

end

end

/-- Whether an ordered shutdown ends with the outcome. -/
def endsShutdown (answer : Answer addresses ι) : Outcome → Bool
  | .error error => answer.redirect.fenced && (!error.transport || answer.fatal)
  | _ => false

section

variable (el : Redirecting addresses σ κ)

/-- **`poll`**: an ordered shutdown ends with an error. -/
def poll (answer : Answer addresses ι) :
    Outcome × Redirecting addresses σ κ :=
  let polled := el.pollOnce ops parse answer
  if endsShutdown answer polled.1 then
    (polled.1, { polled.2 with
      connected := false, pendingConnectionError := none, disconnectComplete := true })
  else polled

/-- **`EventLoop::clean`** -/
def clean : Outcome × Redirecting addresses σ κ :=
  let el := el.cleaned ops
  if el.temporaryRedirect then
    let restored := el.restoreRedirectOrigin ops
    (.left, if restored.1 then restored.2
      else { restored.2 with pendingConnectionError := some .other })
  else (.cleaned, el)

def step : Input addresses ι → Outcome × Redirecting addresses σ κ
  | .poll answer => el.poll ops parse answer
  | .clean => el.clean ops

/-- The state after a run. -/
def run (inputs : List (Input addresses ι)) :
    Redirecting addresses σ κ :=
  inputs.foldl (fun el input => (el.step ops parse input).2) el

end

/-- What the steps of a run led to. -/
def outcomes : Redirecting addresses σ κ → List (Input addresses ι) → List Outcome
  | _, [] => []
  | el, input :: rest =>
    (el.step ops parse input).1 :: outcomes (el.step ops parse input).2 rest

end Redirecting

end Machine

end Rumqtt.V5
