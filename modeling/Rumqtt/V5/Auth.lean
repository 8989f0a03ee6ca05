/-
**MQTT 5 enhanced authentication.**

`AuthLifecycle` is the exchange in progress, if any. The application's authenticator is called from
outside this development: `Authenticator` lists the answers it gives, which stay the same through a
run. `Authentication` groups what the exchange reads and writes:
the lifecycle, the authenticator and the event buffer.

Answers sent to the notices of reauthentication requests are kept in `results`, oldest first.
-/

import Mathlib.Algebra.Ring.Nat
import Rumqtt.Lib.Handler
import Rumqtt.V5.Packet

namespace Rumqtt.V5

open Handler

inductive AuthError where
  | brokerRejected (reason : ConnectReturnCode)
  | brokerDisconnected (reason : DisconnectReasonCode)
  | failed (message : String)
  deriving DecidableEq, Repr

/-- `Display` of an authentication error. -/
def AuthError.toString : AuthError → String
  | .brokerRejected reason =>
    "broker rejected authentication with CONNACK reason " ++ reason.debugName
  | .brokerDisconnected reason =>
    "broker disconnected during authentication with reason " ++ reason.debugName
  | .failed message => "authentication failed: " ++ message

inductive AuthAction where
  | send (properties : AuthProperties)
  | complete
  | fail (message : String)
  deriving DecidableEq, Repr

def AuthAction.intoContinueProperties : AuthAction → Except AuthError (Option AuthProperties)
  | .send properties => .ok (some properties)
  | .complete => .ok none
  | .fail message => .error (.failed message)

/-- **The answers of the application's authenticator** at each call; a poisoned lock keeps it
from being called. -/
structure Authenticator where
  poisoned : Bool := false
  start : Except AuthError (Option AuthProperties) := .ok none
  continueAuth : Except AuthError AuthAction := .ok .complete
  success : Except AuthError Unit := .ok ()

inductive AuthState where
  | idle
  | initial (method : String)
  | reauth (method : String) (requestId : Nat) (notice : Option NoticeId)
  deriving DecidableEq, Repr

namespace AuthState

def kind : AuthState → Option AuthExchangeKind
  | .idle => none
  | .initial _ => some .initialConnect
  | .reauth .. => some .reauthentication

def method : AuthState → Option String
  | .idle => none
  | .initial method => some method
  | .reauth method .. => some method

/-- A copy does not own the notice. -/
def clone : AuthState → AuthState
  | .reauth method requestId _ => .reauth method requestId none
  | state => state

end AuthState

structure AuthLifecycle where
  method : Option String
  state : AuthState := .idle
  nextRequestId : Nat := 1
  /-- Notices answered so far. -/
  results : List (NoticeId × Except AuthNoticeError Unit) := []

/-- The two notice errors `reauth_method` returns. -/
inductive ReauthError where
  | overlappingReauth
  | missingAuthenticationMethod
  deriving DecidableEq, Repr

namespace ReauthError

def toNoticeError : ReauthError → AuthNoticeError
  | overlappingReauth => .overlappingReauth
  | missingAuthenticationMethod => .missingAuthenticationMethod

/-- `Display` of the notice error. -/
def text : ReauthError → String
  | overlappingReauth => "re-authentication is already active"
  | missingAuthenticationMethod => "re-authentication requires a CONNECT Authentication Method"

end ReauthError

namespace AuthLifecycle

def activeExchange (auth : AuthLifecycle) : Option (AuthExchangeKind × String) := do
  return (← auth.state.kind, ← auth.state.method)

/-- The answer to a notice, where there is one. -/
def resolve (auth : AuthLifecycle) (notice : Option NoticeId) (result : Except AuthNoticeError Unit) :
    AuthLifecycle :=
  { auth with results := auth.results ++ (notice.map (·, result)).toList }

def notice (auth : AuthLifecycle) : Option NoticeId :=
  match auth.state with
  | .reauth _ _ notice => notice
  | _ => none

section

variable (auth : AuthLifecycle)

section

variable (reason : AuthNoticeError)

def failActive : AuthLifecycle × List Event :=
  match auth.activeExchange with
  | none => (auth, [])
  | some (kind, method) =>
    (auth.resolve auth.notice (.error reason), [.auth (.failed kind method (.fromNoticeError reason))])

def reset : AuthLifecycle × List Event :=
  let (auth, failed) := auth.failActive reason
  ({ auth with state := .idle }, failed)

end

def validateSuccessfulConnack (connack : ConnAck) : Except StateError Unit :=
  match auth.method, connack.properties.bind ConnAckProperties.authenticationMethod with
  | some expected, some actual =>
    if expected = actual then .ok () else .error .deserializationProtocolError
  | none, none => .ok ()
  | _, _ => .error .deserializationProtocolError

def completeInitialConnack : AuthLifecycle × List Event :=
  match auth.state with
  | .initial method => ({ auth with state := .idle }, [.auth (.succeeded .initialConnect method)])
  | _ => (auth, [])

end

/-- It fails with the message of an `AuthError`. -/
def normalizeAuthProperties (expected : String) (properties : Option AuthProperties) :
    Except String AuthProperties :=
  let properties := properties.getD {}
  match properties.method with
  | some actual =>
    if actual ≠ expected then
      .error ("AUTH packet Authentication Method '" ++ actual ++
        "' does not match CONNECT Authentication Method '" ++ expected ++ "'")
    else .ok properties
  | none => .ok { properties with method := some expected }

/-- `Display` of an `AuthError`, which `begin_reauth` reports when normalization fails. -/
def authErrorText (message : String) : String := "Authentication error: " ++ message

def beginReauth (auth : AuthLifecycle) (properties : Option AuthProperties)
    (notice : Option NoticeId) : Except StateError Auth × AuthLifecycle × List Event :=
  if auth.state ≠ .idle then
    (.error (.authError
      "cannot start re-authentication while an authentication exchange is active"),
      auth.resolve notice (.error .overlappingReauth), [])
  else match auth.method with
    | none =>
      (.error (.authError "AUTH packet requires a CONNECT Authentication Method"),
        auth.resolve notice (.error .missingAuthenticationMethod), [])
    | some method =>
      match normalizeAuthProperties method properties with
      | .error message =>
        (.error (.authError message),
          auth.resolve notice (.error (.authenticationFailed (authErrorText message))), [])
      | .ok properties =>
        (.ok ⟨.reAuthenticate, some properties⟩,
          { auth with
            state := .reauth method auth.nextRequestId notice
            nextRequestId := min (auth.nextRequestId + 1) (2 ^ 64 - 1) },
          [.auth (.started .reauthentication method)])

def reauthMethod (auth : AuthLifecycle) : Except ReauthError String :=
  if auth.state ≠ .idle then .error .overlappingReauth
  else match auth.method with
    | some method => .ok method
    | none => .error .missingAuthenticationMethod

def validateIncomingAuthMethod (expected : String) (properties : Option AuthProperties) :
    Except StateError Unit :=
  if properties.bind AuthProperties.method = some expected then .ok ()
  else .error .deserializationProtocolError

inductive IncomingAuthEffect where
  | continue (kind : AuthExchangeKind)
  | success (kind : AuthExchangeKind) (method : String)

/-- **What an AUTH packet means in the current exchange**; only a reauthentication is completed by
AUTH Success, an initial exchange is by its CONNACK. -/
def incomingAuth (auth : AuthLifecycle) (packet : Auth) :
    Except StateError (IncomingAuthEffect × List Event) :=
  match packet.code, auth.activeExchange with
  | .success, some (.reauthentication, method) => do
    validateIncomingAuthMethod method packet.properties
    return (.success .reauthentication method, [])
  | .continue, some (kind, method) => do
    validateIncomingAuthMethod method packet.properties
    return (.continue kind, [.auth (.continue kind method)])
  | _, _ => .error .deserializationProtocolError

def completeSuccess (auth : AuthLifecycle) (kind : AuthExchangeKind) (method : String) :
    AuthLifecycle × List Event :=
  ({ auth.resolve auth.notice (.ok ()) with state := .idle }, [.auth (.succeeded kind method)])

def outgoingContinue (auth : AuthLifecycle) (properties : Option AuthProperties) :
    Except StateError Auth :=
  match auth.state.method with
  | none => .error .deserializationProtocolError
  | some method => do
    let properties ← (normalizeAuthProperties method properties).mapError StateError.authError
    return ⟨.continue, some properties⟩

end AuthLifecycle

def authenticatorLockPoisonedText : String := "Authenticator lock poisoned"

/-- **What an authentication exchange reads and writes.** -/
structure Authentication where
  auth : AuthLifecycle
  authenticator : Option Authenticator
  /-- Buffered events. -/
  events : List Event

namespace Authentication

abbrev Method (α : Type) := Handler StateError Authentication α

/-- A lifecycle update with the events it raises. -/
def advance (update : AuthLifecycle → AuthLifecycle × List Event) (a : Authentication) :
    Authentication :=
  { a with auth := (update a.auth).1, events := a.events ++ (update a.auth).2 }

/-- `fail_auth_exchange`: the callbacks about the failure answer nothing. -/
def failAuthExchange (noticeError : AuthNoticeError) (a : Authentication) : Authentication :=
  match a.auth.activeExchange with
  | none => a
  | some _ => a.advance (·.reset noticeError)

def failAuthExchangeDueToAuthenticatorLockPoisoned : Authentication → Authentication :=
  failAuthExchange (.authenticationFailed authenticatorLockPoisonedText)

def failAuthExchangeDueToClientDisconnect : Authentication → Authentication :=
  failAuthExchange .connectionClosed

def noticeErrorOf : AuthError → AuthNoticeError
  | .brokerRejected reason => .brokerRejected reason
  | .brokerDisconnected reason => .brokerDisconnected reason
  | .failed message => .authenticationFailed (AuthError.toString (.failed message))

/-- `fail_authenticator`, together with the return of the error it makes. -/
def failAuthenticator {α : Type} (error : AuthError) : Method α := do
  modify (failAuthExchange (noticeErrorOf error))
  fail (.authError error.toString)

/-- `outgoing_auth_packet`; the AUTH packet is all it returns. -/
def outgoingAuthPacket (auth : Auth) : Method Auth := do
  let _ ← ofChecked
    (Checked.expect "AUTH packets created by state always contain properties" auth.properties)
  modify fun a => { a with events := a.events ++ [.outgoing .auth] }
  return auth

def authenticateSuccess : Method Unit := do
  let a ← get
  match a.authenticator with
  | none => return ()
  | some authenticator =>
    if authenticator.poisoned then
      modify failAuthExchangeDueToAuthenticatorLockPoisoned
      fail .authenticatorLockPoisoned
    else match authenticator.success with
      | .error error => failAuthenticator error
      | .ok () => return ()

def validateIncomingAuth (packet : Auth) : Method AuthLifecycle.IncomingAuthEffect := do
  let a ← get
  match a.auth.incomingAuth packet with
  | .ok (effect, raised) =>
    modify fun a => { a with events := a.events ++ raised }
    return effect
  | .error error =>
    if error = .deserializationProtocolError then modify (failAuthExchange .protocolError)
    fail error

def handleIncomingAuth (packet : Auth) : Method (Option Auth) := do
  match ← validateIncomingAuth packet with
  | .success kind method =>
    authenticateSuccess
    modify (advance (·.completeSuccess kind method))
    return none
  | .continue _ =>
    let a ← get
    match a.authenticator with
    | none => fail .authenticatorNotSet
    | some authenticator =>
      if authenticator.poisoned then
        modify failAuthExchangeDueToAuthenticatorLockPoisoned
        fail .authenticatorLockPoisoned
      else match authenticator.continueAuth with
        | .error error => failAuthenticator error
        | .ok action =>
          match action.intoContinueProperties with
          | .error error => failAuthenticator error
          | .ok properties =>
            let clientAuth ← ofExcept (a.auth.outgoingContinue properties)
            let packet ← outgoingAuthPacket clientAuth
            return some packet

/-- The answer to the notice of a request that never became an exchange. -/
def refuse {α : Type} (notice : Option NoticeId) (reason : AuthNoticeError) (error : StateError) :
    Method α := do
  modify fun a => { a with auth := a.auth.resolve notice (.error reason) }
  fail error

/-- The properties a reauthentication starts with: those of the request, else the authenticator's. -/
def startProperties (notice : Option NoticeId) (properties : Option AuthProperties) :
    Method (Option AuthProperties) := do
  let a ← get
  match a.authenticator with
  | none => return properties
  | some authenticator =>
    if authenticator.poisoned then
      refuse notice (.authenticationFailed authenticatorLockPoisonedText) .authenticatorLockPoisoned
    else match authenticator.start with
      | .error error =>
        refuse notice (.authenticationFailed error.toString) (.authError error.toString)
      | .ok started => return (if properties.isNone then started else properties)

def outgoingAuth (packet : Auth) (notice : Option NoticeId) : Method Auth := do
  let a ← get
  match a.auth.reauthMethod with
  | .error error => refuse notice error.toNoticeError (.authError error.text)
  | .ok _ =>
    let properties ← startProperties notice packet.properties
    let a ← get
    modify (advance fun auth => (auth.beginReauth properties notice).2)
    let auth ← ofExcept (a.auth.beginReauth properties notice).1
    outgoingAuthPacket auth

/-! ### No panic, and events are only added -/

end Authentication

/-- An event of this side: anything but an `Incoming` one. -/
def Event.isOwn : Event → Bool
  | .incoming _ => false
  | _ => true

/-- **Buffered events stay, and only events of this side follow them.** -/
def Raises (before after : List Event) : Prop :=
  ∃ raised, after = before ++ raised ∧ raised.all Event.isOwn = true

namespace Raises

theorem refl (events : List Event) : Raises events events := ⟨[], (List.append_nil _).symm, rfl⟩

theorem trans {before between after : List Event} (first : Raises before between)
    (second : Raises between after) : Raises before after := by
  obtain ⟨raised, rfl, own⟩ := first
  obtain ⟨more, rfl, alsoOwn⟩ := second
  refine ⟨raised ++ more, List.append_assoc .., ?_⟩
  rw [List.all_append, own, alsoOwn]
  rfl

theorem push (events : List Event) {event : Event} (own : event.isOwn = true) :
    Raises events (events ++ [event]) := ⟨[event], rfl, by simp [own]⟩

theorem length_le {before after : List Event} (raises : Raises before after) :
    before.length ≤ after.length := by
  obtain ⟨raised, rfl, -⟩ := raises
  simp

end Raises

namespace AuthLifecycle

theorem failActive_own (auth : AuthLifecycle) (reason : AuthNoticeError) :
    (auth.failActive reason).2.all Event.isOwn = true := by
  unfold failActive
  split <;> rfl

theorem completeInitialConnack_own (auth : AuthLifecycle) :
    auth.completeInitialConnack.2.all Event.isOwn = true := by
  unfold completeInitialConnack
  split <;> rfl

theorem beginReauth_own (auth : AuthLifecycle) (properties : Option AuthProperties)
    (notice : Option NoticeId) : (auth.beginReauth properties notice).2.2.all Event.isOwn = true := by
  unfold beginReauth
  split
  · rfl
  · split
    · rfl
    · split <;> rfl

theorem incomingAuth_own {auth : AuthLifecycle} {packet : Auth}
    {raised : IncomingAuthEffect × List Event} (valid : auth.incomingAuth packet = .ok raised) :
    raised.2.all Event.isOwn = true := by
  have checks {method : String} {effect : IncomingAuthEffect × List Event}
      (own : effect.2.all Event.isOwn = true)
      (passed : (do
        validateIncomingAuthMethod method packet.properties
        return effect) = Except.ok raised) : raised.2.all Event.isOwn = true := by
    cases checked : validateIncomingAuthMethod method packet.properties with
    | error error =>
      rw [checked] at passed
      cases passed
    | ok =>
      rw [checked] at passed
      cases passed
      exact own
  unfold incomingAuth at valid
  split at valid
  · exact checks rfl valid
  · exact checks rfl valid
  · cases valid

end AuthLifecycle

namespace Authentication

/-- **The exchange goes on without a panic, and raises events of this side only.** -/
def Adds {α : Type} (method : Method α) : Prop :=
  ∀ a : Authentication, method.Ensures a fun _ b => Raises a.events b.events

variable {α β : Type}

theorem adds_pure (value : α) : Adds (pure value) := fun a => ⟨_, a, rfl, .refl _⟩

theorem adds_fail (error : StateError) : Adds (fail error : Method α) :=
  fun a => ⟨_, a, rfl, .refl _⟩

theorem adds_get : Adds get := fun a => ⟨_, a, rfl, .refl _⟩

theorem adds_modify {update : Authentication → Authentication}
    (raises : ∀ a, Raises a.events (update a).events) : Adds (modify update) :=
  fun a => ⟨_, update a, rfl, raises a⟩

theorem Adds.bind {first : Method α} {next : α → Method β} (head : Adds first)
    (tail : ∀ value, Adds (next value)) : Adds (first >>= next) := fun a =>
  (head a).bind (fun value b kept => (tail value b).mono fun _ _ more => kept.trans more)
    fun _ _ kept => kept

theorem advance_events {update : AuthLifecycle → AuthLifecycle × List Event}
    (own : ∀ auth, (update auth).2.all Event.isOwn = true) (a : Authentication) :
    Raises a.events (a.advance update).events := ⟨_, rfl, own a.auth⟩

theorem failAuthExchange_events (reason : AuthNoticeError) (a : Authentication) :
    Raises a.events (a.failAuthExchange reason).events := by
  unfold failAuthExchange
  split
  · exact .refl _
  · exact advance_events (fun auth => auth.failActive_own reason) a

theorem adds_failAuthenticator (error : AuthError) : Adds (failAuthenticator error : Method α) :=
  (adds_modify (failAuthExchange_events _)).bind fun _ => adds_fail _

theorem adds_poisoned : Adds (do
    modify failAuthExchangeDueToAuthenticatorLockPoisoned
    fail .authenticatorLockPoisoned : Method α) :=
  (adds_modify (failAuthExchange_events _)).bind fun _ => adds_fail _

/-- **The `expect` on an outgoing AUTH packet holds when it was built with properties.** -/
theorem adds_outgoingAuthPacket (code : AuthReasonCode) (properties : AuthProperties) :
    Adds (outgoingAuthPacket ⟨code, some properties⟩) :=
  fun a => ⟨_, _, rfl, .push a.events rfl⟩

theorem adds_authenticateSuccess : Adds authenticateSuccess := by
  refine adds_get.bind fun a => ?_
  cases a.authenticator with
  | none => exact adds_pure ()
  | some authenticator =>
    dsimp only
    split
    · exact adds_poisoned
    · cases authenticator.success with
      | error error => exact adds_failAuthenticator error
      | ok => exact adds_pure ()

theorem adds_validateIncomingAuth (packet : Auth) : Adds (validateIncomingAuth packet) := by
  refine adds_get.bind fun a => ?_
  cases valid : a.auth.incomingAuth packet with
  | error error =>
    dsimp only
    split
    · exact (adds_modify (failAuthExchange_events _)).bind fun _ => adds_fail _
    · exact adds_fail _
  | ok raised =>
    have own := AuthLifecycle.incomingAuth_own valid
    exact (adds_modify fun b => ⟨raised.2, rfl, own⟩).bind fun _ => adds_pure _

theorem outgoingContinue_properties {auth : AuthLifecycle} {properties : Option AuthProperties}
    {packet : Auth} (made : auth.outgoingContinue properties = .ok packet) :
    ∃ normalized, packet = ⟨.continue, some normalized⟩ := by
  unfold AuthLifecycle.outgoingContinue at made
  split at made
  · cases made
  · rename_i method _
    cases normal : AuthLifecycle.normalizeAuthProperties method properties with
    | error error =>
      rw [normal] at made
      cases made
    | ok normalized =>
      rw [normal] at made
      cases made
      exact ⟨normalized, rfl⟩

theorem adds_handleIncomingAuth (packet : Auth) : Adds (handleIncomingAuth packet) := by
  refine (adds_validateIncomingAuth packet).bind fun effect => ?_
  cases effect with
  | success kind method =>
    exact adds_authenticateSuccess.bind fun _ =>
      (adds_modify (advance_events fun _ => rfl)).bind fun _ => adds_pure none
  | «continue» kind =>
    refine adds_get.bind fun a => ?_
    cases a.authenticator with
    | none => exact adds_fail _
    | some authenticator =>
      dsimp only
      split
      · exact adds_poisoned
      · cases authenticator.continueAuth with
        | error error => exact adds_failAuthenticator error
        | ok action =>
          cases chosen : action.intoContinueProperties with
          | error error =>
            simp only [chosen]
            exact adds_failAuthenticator error
          | ok properties =>
            simp only [chosen]
            cases made : a.auth.outgoingContinue properties with
            | error error => exact fun b => ⟨_, b, rfl, .refl _⟩
            | ok packet =>
              obtain ⟨normalized, rfl⟩ := outgoingContinue_properties made
              exact fun b =>
                ((adds_outgoingAuthPacket .continue normalized).bind fun _ => adds_pure _) b

theorem adds_refuse (notice : Option NoticeId) (reason : AuthNoticeError) (error : StateError) :
    Adds (refuse notice reason error : Method α) :=
  fun a => ⟨_, { a with auth := a.auth.resolve notice (.error reason) }, rfl, .refl _⟩

theorem adds_startProperties (notice : Option NoticeId) (properties : Option AuthProperties) :
    Adds (startProperties notice properties) := by
  refine adds_get.bind fun a => ?_
  cases a.authenticator with
  | none => exact adds_pure _
  | some authenticator =>
    dsimp only
    split
    · exact adds_refuse _ _ _
    · cases authenticator.start with
      | error error => exact adds_refuse _ _ _
      | ok started => exact adds_pure _

theorem beginReauth_properties {auth : AuthLifecycle} {properties : Option AuthProperties}
    {notice : Option NoticeId} {packet : Auth}
    (made : (auth.beginReauth properties notice).1 = .ok packet) :
    ∃ normalized, packet = ⟨.reAuthenticate, some normalized⟩ := by
  unfold AuthLifecycle.beginReauth at made
  split at made
  · cases made
  · split at made
    · cases made
    · split at made
      · cases made
      · cases made
        exact ⟨_, rfl⟩

theorem adds_outgoingAuth (packet : Auth) (notice : Option NoticeId) :
    Adds (outgoingAuth packet notice) := by
  refine adds_get.bind fun a => ?_
  cases a.auth.reauthMethod with
  | error error => exact adds_refuse _ _ _
  | ok method =>
    refine (adds_startProperties notice packet.properties).bind fun properties => ?_
    refine adds_get.bind fun b => ?_
    refine (adds_modify (advance_events fun auth =>
      auth.beginReauth_own properties notice)).bind fun _ => ?_
    cases made : (b.auth.beginReauth properties notice).1 with
    | error error => exact fun c => ⟨_, c, rfl, .refl _⟩
    | ok auth =>
      obtain ⟨normalized, rfl⟩ := beginReauth_properties made
      exact fun c => adds_outgoingAuthPacket .reAuthenticate normalized c

end Authentication

end Rumqtt.V5
