/-
**Redirect targets: server references, endpoint keys and SRV answers.**

A server that redirects names its alternatives in a Server Reference. The application's policy picks
one and returns a `RedirectTargetProfile` for it. Endpoints are compared by a normalised key:
`RedirectReference.endpointKey` computes it from the reference, `normalizedBrokerKey` from the broker
the connection is aimed at, and a profile's broker has the key of its reference
(`RedirectTargetProfile.key_broker`).

A reference can also be the owner of DNS SRV records. `prepareSrvTargets` makes an ordered list of at
most `maxSrvTargets` targets of the answer; it is a permutation of the usable records.

Text is a list of characters, one for each byte. The parser and the printer of IP addresses belong to
the standard library and enter as `Addresses`; a websocket URL is represented by its parse. All
transports are taken to be compiled in.
-/

import Mathlib.Algebra.Ring.Nat
import Mathlib.Data.List.Perm.Basic
import Mathlib.Data.List.Sort
import Mathlib.Data.List.SplitBy
import Rumqtt.StateError
import Rumqtt.V5.Packet

namespace Rumqtt.V5

/-- Text, one character for each byte. -/
abbrev Text := List Char

/-- `str::strip_prefix` of a character. -/
def Text.stripPrefix (c : Char) : Text → Option Text
  | [] => none
  | first :: rest => if first = c then some rest else none

/-- `str::strip_suffix` of a character. -/
def Text.stripSuffix (c : Char) (text : Text) : Option Text :=
  if text.getLast? = some c then some text.dropLast else none

def Text.toAsciiLowercase (text : Text) : Text := text.map Char.toLower

/-- A number in decimal. -/
def Text.decimal (n : Nat) : Text := Nat.toDigits 10 n

/-! ### Transports, brokers and references -/

/-- An IP address, by the text that is printed for it. -/
inductive IpAddr where
  | v4 (text : Text)
  | v6 (text : Text)
  deriving DecidableEq, Repr

/-- The standard library's parser of IP addresses. -/
structure Addresses where
  parse : Text → Option IpAddr

def Addresses.isIpv6 (addresses : Addresses) (host : Text) : Bool :=
  match addresses.parse host with
  | some (.v6 _) => true
  | _ => false

/-- The transports; their TLS configurations take no part in redirects. -/
inductive Transport where
  | tcp
  | tls
  | unix
  | ws
  | wss
  deriving DecidableEq, Repr

def Transport.redirectIdentity : Transport → Text
  | .tcp => ['t', 'c', 'p']
  | .tls => ['t', 'l', 's']
  | .unix => ['u', 'n', 'i', 'x']
  | .ws => ['w', 's']
  | .wss => ['w', 's', 's']

def Transport.redirectDefaultPort : Transport → Option UInt16
  | .tcp => some 1883
  | .tls => some 8883
  | .unix => none
  | .ws => none
  | .wss => none

/-- The parts of a URI that are read: its host, as written, its port and its path with the query. -/
structure Uri where
  host : Text
  port : Option UInt16
  resource : Text
  deriving DecidableEq, Repr

/-- Where to connect. A websocket URL is given by its parse, `none` where the text is no URI. -/
inductive Broker where
  | tcp (host : Text) (port : UInt16)
  | unix (path : Text)
  | websocket (url : Option Uri) (secure : Bool)
  deriving DecidableEq, Repr

def brokerTransportMatches : Broker → Transport → Bool
  | .tcp _ _, .tcp => true
  | .tcp _ _, .tls => true
  | .unix _, .unix => true
  | .websocket _ secure, .ws => !secure
  | .websocket _ _, .wss => true
  | _, _ => false

/-- What a server says when it redirects. -/
structure RedirectOutcome where
  reason : RedirectReason
  serverReference : Option Text
  source : RedirectSource
  deriving DecidableEq, Repr

inductive RedirectScheme where
  | mqtt
  | mqtts
  | ws
  | wss
  deriving DecidableEq, Repr

def RedirectScheme.defaultPort : RedirectScheme → UInt16
  | .mqtt => 1883
  | .mqtts => 8883
  | .ws => 80
  | .wss => 443

inductive RedirectReferenceKind where
  | authority (host : Text) (port : Option UInt16)
  | uri (scheme : RedirectScheme) (host : Text) (port : Option UInt16) (resourceName : Text)
  | srv (owner : Text)
  deriving DecidableEq, Repr

def RedirectReferenceKind.host : RedirectReferenceKind → Text
  | .authority host _ => host
  | .uri _ host _ _ => host
  | .srv owner => owner

def unbracketHost (host : Text) : Text :=
  ((Text.stripPrefix '[' host).bind (Text.stripSuffix ']')).getD host

/-- **One validated token of a Server Reference.** Its parser takes the brackets off the host. -/
structure RedirectReference where
  raw : Text
  kind : RedirectReferenceKind
  unbracketed : unbracketHost kind.host = kind.host
  deriving DecidableEq

inductive RedirectReferenceError where
  | missing
  | empty
  | unsupportedScheme (scheme : Text)
  | invalidUri
  | nonAuthority
  | userInformation
  | fragment
  | invalidResource
  | invalidHost
  | invalidPort
  | srvExplicitPort
  deriving DecidableEq, Repr

/-! ### Endpoint keys -/

def hexDigit (c : Char) : Option Nat :=
  if '0' ≤ c ∧ c ≤ '9' then some (c.toNat - '0'.toNat)
  else if 'a' ≤ c ∧ c ≤ 'f' then some (c.toNat - 'a'.toNat + 10)
  else if 'A' ≤ c ∧ c ≤ 'F' then some (c.toNat - 'A'.toNat + 10)
  else none

def isUnreserved (c : Char) : Bool := c.isAlphanum || c == '-' || c == '.' || c == '_' || c == '~'

/-- One escape: decoded where it need not be one, else in upper case. -/
def normalizeEscape (high low : Char) (value : Nat) : Text :=
  let decoded := Char.ofNat value
  if isUnreserved decoded then [decoded] else ['%', high.toUpper, low.toUpper]

/-- `bytes[index] as char` for every byte of a text. -/
def bytesAsChars (value : Text) : Text :=
  value.flatMap fun c => (String.utf8EncodeChar c).map fun byte => Char.ofNat byte.toNat

/-- The loop of `normalize_percent_encoding` over the bytes of its argument. -/
def normalizePercentBytes : Text → Text
  | [] => []
  | c :: rest =>
    match c, rest with
    | '%', high :: low :: after =>
      match hexDigit high, hexDigit low with
      | some h, some l => normalizeEscape high low (16 * h + l) ++ normalizePercentBytes after
      | _, _ => '%' :: normalizePercentBytes (high :: low :: after)
    | c, rest => c :: normalizePercentBytes rest

def normalizePercentEncoding (value : Text) : Text := normalizePercentBytes (bytesAsChars value)

/-- The segments that are left, last first, where `.` and `..` have been applied. -/
def dotSegments : List Text → List Text → List Text
  | kept, [] => kept
  | kept, segment :: rest =>
    if segment = ['.'] then dotSegments (if rest.isEmpty then [] :: kept else kept) rest
    else if segment = ['.', '.'] then
      dotSegments (if rest.isEmpty then [] :: kept.tail else kept.tail) rest
    else dotSegments (segment :: kept) rest

def removeDotSegments (path : Text) : Text :=
  let absolute := path.head? = some '/'
  let source := path.splitOn '/'
  let segments := (dotSegments [] (if absolute then source.tail else source)).reverse
  let output := (if absolute then ['/'] else []) ++ ['/'].intercalate segments
  if output.isEmpty then ['/'] else output

def normalizeResourceName (resource : Text) : Text :=
  let path := resource.takeWhile (· ≠ '?')
  let normalized :=
    normalizePercentEncoding (removeDotSegments (if path.isEmpty then ['/'] else path))
  match resource.dropWhile (· ≠ '?') with
  | [] => normalized
  | _ :: query => normalized ++ '?' :: normalizePercentEncoding query

section Keys

variable (addresses : Addresses)

def normalizedEndpointKey (host : Text) (port : UInt16) : Text :=
  let unbracketed := unbracketHost host
  match addresses.parse unbracketed with
  | none =>
    let host := unbracketed.toAsciiLowercase
    (Text.stripSuffix '.' host).getD host ++ ':' :: Text.decimal port.toNat
  | some (.v4 address) => address ++ ':' :: Text.decimal port.toNat
  | some (.v6 address) => '[' :: address ++ ']' :: ':' :: Text.decimal port.toNat

/-- A key: the identity of the transport, the endpoint and the resource of a websocket. -/
def endpointKeyText (transport : Transport) (endpoint : Text) (resource : Option Text) : Text :=
  transport.redirectIdentity ++ [':', '/', '/'] ++ endpoint ++ (resource.map normalizeResourceName).getD []

def normalizedProfileKey (host : Text) (port : UInt16) (transport : Transport) : Text :=
  endpointKeyText transport (normalizedEndpointKey addresses host port) none

/-- The port of a websocket whose URL names none. -/
def Transport.websocketPort : Transport → Option UInt16
  | .ws => some 80
  | .wss => some 443
  | _ => none

/-- **The key of the broker a connection is aimed at.** -/
def normalizedBrokerKey (broker : Broker) (transport : Transport) : Option Text :=
  match broker with
  | .tcp host port => some (normalizedProfileKey addresses host port transport)
  | .unix _ => none
  | .websocket none _ => none
  | .websocket (some uri) _ =>
    (uri.port.or transport.websocketPort).map fun port =>
      endpointKeyText transport (normalizedEndpointKey addresses (unbracketHost uri.host) port)
        (some uri.resource)

namespace RedirectReference

def scheme (reference : RedirectReference) : Option RedirectScheme :=
  match reference.kind with
  | .uri scheme _ _ _ => some scheme
  | _ => none

def host (reference : RedirectReference) : Text := reference.kind.host

def port (reference : RedirectReference) : Option UInt16 :=
  match reference.kind with
  | .authority _ port => port
  | .uri _ _ port _ => port
  | .srv _ => none

section

variable (reference : RedirectReference)

def websocketResourceName : Option Text :=
  match reference.kind with
  | .uri .ws _ _ resourceName => some resourceName
  | .uri .wss _ _ resourceName => some resourceName
  | _ => none

def srvOwner : Option Text :=
  match reference.kind with
  | .srv owner => some owner
  | _ => none

def effectivePort (transport : Transport) : Option UInt16 :=
  reference.port.or ((reference.scheme.map RedirectScheme.defaultPort).or
    transport.redirectDefaultPort)

/-- **The key of the endpoint a reference names**; an SRV owner names none. -/
def endpointKey (transport : Transport) : Option Text :=
  if reference.srvOwner.isSome then none
  else (reference.effectivePort transport).map fun port =>
    endpointKeyText transport (normalizedEndpointKey addresses reference.host port)
      reference.websocketResourceName

def transportMatchesScheme (transport : Transport) : Bool :=
  match reference.scheme with
  | none => transport == .tcp || transport == .tls
  | some .mqtt => transport == .tcp
  | some .mqtts => transport == .tls
  | some .ws => transport == .ws
  | some .wss => transport == .wss

/-- `websocket_url`, read back as a URI: an IPv6 host is written in brackets. -/
def websocketUri (resource : Text) : Uri :=
  { host := if addresses.isIpv6 reference.host then '[' :: reference.host ++ [']'] else reference.host
    port := reference.port
    resource }

end

end RedirectReference

/-! ### Target profiles -/

inductive RedirectPolicyFailure where
  | callback
  | panic
  | timeout
  | invalidResponse
  | resourceLimit
  | storeInUse
  deriving DecidableEq, Repr

inductive RedirectTargetError where
  | policy (failure : RedirectPolicyFailure)
  | transportMismatch (scheme : Option RedirectScheme)
  | websocketUnavailable
  | tlsUnavailable
  | noTarget
  deriving DecidableEq, Repr

inductive RedirectProfileTarget where
  | direct (broker : Broker)
  | srvPending (owner : Text)
  deriving DecidableEq, Repr

/-- The broker a reference that is no SRV owner stands for. -/
def RedirectReference.broker (reference : RedirectReference) (port : UInt16) : Broker :=
  match reference.websocketResourceName with
  | none => .tcp reference.host port
  | some resource =>
    .websocket (some (reference.websocketUri addresses resource)) (reference.scheme == some .wss)

/-- **What `RedirectTargetProfile::isolated` makes of a reference** and the transport for it. -/
def RedirectReference.target (reference : RedirectReference) (transport : Transport) :
    Except RedirectTargetError RedirectProfileTarget :=
  if reference.transportMatchesScheme transport = false then
    .error (.transportMismatch reference.scheme)
  else match reference.srvOwner with
    | some owner => .ok (.srvPending owner)
    | none =>
      match reference.effectivePort transport with
      | none => .error (.transportMismatch reference.scheme)
      | some port =>
        if brokerTransportMatches (reference.broker addresses port) transport = false then
          .error (.transportMismatch reference.scheme)
        else .ok (.direct (reference.broker addresses port))

inductive RedirectClientId where
  | fresh
  | reuse
  | replace (clientId : String)
  deriving DecidableEq, Repr

inductive RedirectSession where
  | isolated
  | reuse (storeScope : String)
  deriving DecidableEq, Repr

/-- **An approved connection profile for one advertised target.** The target is that of the
reference. Stores are told apart by their identity. -/
structure RedirectTargetProfile where
  reference : RedirectReference
  target : RedirectProfileTarget
  transport : Transport
  clientId : RedirectClientId := .fresh
  session : RedirectSession := .isolated
  authentication : Option ConnectAuth := none
  reuseAuthenticator : Bool := false
  reuseNetworkCredentials : Bool := false
  sessionStore : Option Nat := none
  built : reference.target addresses transport = .ok target

inductive RedirectDecision where
  | reject
  | follow (profile : RedirectTargetProfile addresses)

/-- The options that redirects read and change. Stores, authenticators, proxies and request modifiers
are told apart by their identity; of the redirect policy it is the maximum of attempts. -/
structure MqttOptions where
  broker : Broker
  transport : Transport
  clientId : String
  cleanStart : Bool := true
  sessionExpiryInterval : Option UInt32 := none
  sessionStore : Option Nat := none
  sessionStoreScope : String := ""
  auth : ConnectAuth := .none
  authenticator : Option Nat := none
  asyncAuthenticator : Option Nat := none
  authenticationMethod : Option String := none
  authenticationData : Option Bytes := none
  proxy : Option Nat := none
  requestModifier : Option Nat := none
  fallibleRequestModifier : Option Nat := none
  /-- `RedirectPolicy::max_attempts`, a `NonZeroUsize`. -/
  redirectPolicy : Option Nat := none

variable {addresses}

namespace RedirectTargetProfile

def broker (profile : RedirectTargetProfile addresses) : Option Broker :=
  match profile.target with
  | .direct broker => some broker
  | .srvPending _ => none

def srvOwner (profile : RedirectTargetProfile addresses) : Option Text :=
  match profile.target with
  | .direct _ => none
  | .srvPending owner => some owner

def validString (value : String) : Bool :=
  decide (value.utf8ByteSize ≤ 65535) && !value.toList.contains (Char.ofNat 0)

/-- The client identifier that the profile connects with. -/
def effectiveClientId (profile : RedirectTargetProfile addresses) (options : MqttOptions) : String :=
  match profile.clientId with
  | .fresh => ""
  | .reuse => options.clientId
  | .replace clientId => clientId

def validAuthentication : Option ConnectAuth → Bool
  | none => true
  | some .none => true
  | some (.username username) => validString username
  | some (.password password) => decide (password.length ≤ 65535)
  | some (.usernamePassword username password) =>
    validString username && decide (password.length ≤ 65535)

section

variable (profile : RedirectTargetProfile addresses) (options : MqttOptions)

/-- `validate`; `expired` tells whether the decision's deadline has passed. -/
def validate (expired : Bool) :
    Except RedirectTargetError Unit :=
  if expired then .error (.policy .timeout)
  else if !validString (profile.effectiveClientId options) then .error (.policy .invalidResponse)
  else if !validAuthentication profile.authentication then .error (.policy .invalidResponse)
  else if profile.session ≠ .isolated ∧
      (options.sessionStore.isSome ∨ profile.sessionStore.isSome) ∧
      profile.effectiveClientId options = "" then .error (.policy .invalidResponse)
  else .ok ()

/-- Whether the session goes on at the target. -/
def preservesSession : Bool :=
  decide (profile.clientId = .reuse) && decide (profile.session = .reuse options.sessionStoreScope) &&
    match options.sessionStore, profile.sessionStore with
    | _, none => true
    | some old, some new => old == new
    | none, some _ => false

/-- The authentication of the target. -/
def applyAuthentication :
    MqttOptions :=
  match profile.authentication with
  | some auth =>
    if profile.reuseAuthenticator then { options with auth }
    else { options with auth, authenticator := none, asyncAuthenticator := none,
                        authenticationMethod := none, authenticationData := none }
  | none => { options with auth := .none, authenticator := none, asyncAuthenticator := none,
                           authenticationMethod := none, authenticationData := none }

/-- Proxy and request modifiers stay only where the profile says so. -/
def applyNetwork : MqttOptions :=
  if profile.reuseNetworkCredentials then options
  else { options with proxy := none, requestModifier := none, fallibleRequestModifier := none }

def applyClientId : MqttOptions :=
  match profile.clientId with
  | .fresh => { options with clientId := "" }
  | .reuse => options
  | .replace clientId => { options with clientId }

def applySession : MqttOptions :=
  match profile.session with
  | .isolated => { options with cleanStart := true, sessionExpiryInterval := some 0,
                                sessionStore := none, sessionStoreScope := "" }
  | .reuse storeScope => { options with sessionStoreScope := storeScope,
                                        sessionStore := profile.sessionStore.or options.sessionStore }

/-- **The options of `apply_redirect_profile`.** -/
def apply : MqttOptions :=
  profile.applySession <| profile.applyClientId <| profile.applyNetwork <| profile.applyAuthentication
    { options with broker := profile.broker.getD options.broker, transport := profile.transport }

end

end RedirectTargetProfile

/-! ### The key of a profile -/

theorem unbracketHost_brackets (host : Text) : unbracketHost ('[' :: host ++ [']']) = host := by
  simp [unbracketHost, Text.stripPrefix, Text.stripSuffix]

/-- The host of a websocket URL is read back without its brackets. -/
theorem RedirectReference.unbracketHost_websocketUri (reference : RedirectReference)
    (resource : Text) :
    unbracketHost (reference.websocketUri addresses resource).host = reference.host := by
  unfold RedirectReference.websocketUri
  by_cases ipv6 : addresses.isIpv6 reference.host = true
  · rw [if_pos ipv6]
    exact unbracketHost_brackets reference.host
  · rw [if_neg ipv6]
    exact reference.unbracketed

/-- Where a reference that is no SRV owner has a resource, it is a websocket and so is its transport. -/
theorem RedirectReference.websocketPort_of_resource {reference : RedirectReference}
    {transport : Transport} {resource : Text}
    (websocket : reference.websocketResourceName = some resource)
    (matching : reference.transportMatchesScheme transport = true) :
    reference.effectivePort transport = reference.port.or transport.websocketPort := by
  obtain ⟨raw, kind, unbracketed⟩ := reference
  cases kind with
  | authority host port => cases websocket
  | srv owner => cases websocket
  | uri scheme host port resourceName =>
    cases scheme with
    | mqtt => cases websocket
    | mqtts => cases websocket
    | ws =>
      have isWs : transport = .ws := by simpa [transportMatchesScheme, RedirectReference.scheme] using matching
      subst isWs
      rfl
    | wss =>
      have isWss : transport = .wss := by
        simpa [transportMatchesScheme, RedirectReference.scheme] using matching
      subst isWss
      rfl

theorem RedirectReference.key_broker {reference : RedirectReference} {transport : Transport}
    {port : UInt16} (direct : reference.srvOwner = none)
    (matching : reference.transportMatchesScheme transport = true)
    (effective : reference.effectivePort transport = some port) :
    normalizedBrokerKey addresses (reference.broker addresses port) transport =
      reference.endpointKey addresses transport := by
  unfold RedirectReference.endpointKey
  rw [direct, effective]
  unfold RedirectReference.broker
  cases websocket : reference.websocketResourceName with
  | none => rfl
  | some resource =>
    have read := websocketPort_of_resource websocket matching
    simp only [normalizedBrokerKey]
    rw [reference.unbracketHost_websocketUri resource]
    show ((reference.port.or transport.websocketPort).map _) = _
    rw [← read, effective]
    rfl

section

variable (profile : RedirectTargetProfile addresses)

/-- **A profile's broker has the key of its reference**, and a profile without a broker has none. -/
theorem RedirectTargetProfile.key_broker : (∃ broker key, profile.target = .direct broker ∧
      normalizedBrokerKey addresses broker profile.transport = some key ∧
      profile.reference.endpointKey addresses profile.transport = some key) ∨
    (∃ owner, profile.target = .srvPending owner ∧
      profile.reference.endpointKey addresses profile.transport = none) := by
  have built := profile.built
  unfold RedirectReference.target at built
  split at built
  · cases built
  · rename_i matching
    have matching : profile.reference.transportMatchesScheme profile.transport = true := by
      simpa using matching
    cases owned : profile.reference.srvOwner with
    | some owner =>
      rw [owned] at built
      refine .inr ⟨owner, (Except.ok.inj built).symm, ?_⟩
      unfold RedirectReference.endpointKey
      rw [owned]
      rfl
    | none =>
      rw [owned] at built
      dsimp only at built
      cases effective : profile.reference.effectivePort profile.transport with
      | none => rw [effective] at built; cases built
      | some port =>
        rw [effective] at built
        dsimp only at built
        split at built
        · cases built
        · have same : normalizedBrokerKey addresses (profile.reference.broker addresses port)
              profile.transport = profile.reference.endpointKey addresses profile.transport :=
            RedirectReference.key_broker owned matching effective
          have known : ∃ key, profile.reference.endpointKey addresses profile.transport = some key := by
            unfold RedirectReference.endpointKey
            rw [owned, effective]
            exact ⟨_, rfl⟩
          obtain ⟨key, known⟩ := known
          exact .inl ⟨_, key, (Except.ok.inj built).symm, same.trans known, known⟩

@[simp] theorem RedirectTargetProfile.apply_redirectPolicy (options : MqttOptions) :
    (profile.apply options).redirectPolicy = options.redirectPolicy := by
  unfold apply applySession applyClientId applyNetwork applyAuthentication
  repeat' split
  all_goals rfl

theorem RedirectTargetProfile.apply_broker (options : MqttOptions) :
    (profile.apply options).broker = profile.broker.getD options.broker ∧
      (profile.apply options).transport = profile.transport := by
  unfold apply applySession applyClientId applyNetwork applyAuthentication
  constructor <;> (repeat' split) <;> rfl

end

end Keys

/-! ### SRV answers -/

/-- `MAX_SRV_TARGETS` -/
def maxSrvTargets : Nat := 32

structure SrvRecord where
  priority : UInt16
  weight : UInt16
  port : UInt16
  target : Text
  deriving DecidableEq, Repr

/-- A usable record, with its target normalised. -/
structure ResolvedSrvTarget where
  priority : UInt16
  weight : UInt16
  port : UInt16
  target : Text
  deriving DecidableEq, Repr

inductive SrvAnswerError where
  | serviceUnavailable
  | tooMany (count : Nat)
  | noUsableTargets (rejected : Nat)
  deriving DecidableEq, Repr

/-- **The random source**: the values that `random_range` returns one after another, brought into the
range that is asked for, and the permutation that `shuffle` makes of a group. -/
structure Rng where
  draws : List Nat := []
  shuffle : List ResolvedSrvTarget → List ResolvedSrvTarget := id
  shuffle_perm : ∀ group, (shuffle group).Perm group := by exact fun _ => .refl _

/-- A source that draws zero and shuffles nothing. -/
def Rng.idle : Rng := {}

/-- A draw below a bound. -/
def Rng.below (rng : Rng) (bound : Nat) : Nat × Rng :=
  (rng.draws.headD 0 % bound, { rng with draws := rng.draws.tail })

theorem Rng.below_lt (rng : Rng) {bound : Nat} (positive : 0 < bound) : (rng.below bound).1 < bound :=
  Nat.mod_lt _ positive

/-- The first position whose running sum of weights reaches the draw. -/
def weightedPosition (draw : Nat) : Nat → List ResolvedSrvTarget → Nat
  | _, [] => 0
  | running, target :: rest =>
    if draw ≤ running + target.weight.toNat then 0
    else weightedPosition draw (running + target.weight.toNat) rest + 1

/-- `order_priority_group`: records are drawn by weight, those without one are shuffled at the end. The
first argument is the number of rounds that are left. -/
def orderPriorityGroup : Nat → List ResolvedSrvTarget → Rng → List ResolvedSrvTarget × Rng
  | 0, group, rng => (group, rng)
  | fuel + 1, group, rng =>
    if group.all (·.weight = 0) then (rng.shuffle group, rng)
    else
      let sorted := group.filter (·.weight = 0) ++ group.filter (·.weight ≠ 0)
      let (draw, rng) := rng.below ((sorted.map (·.weight.toNat)).sum + 1)
      let index := weightedPosition draw 0 sorted
      match sorted[index]? with
      | none => (sorted, rng)
      | some drawn =>
        let (rest, rng) := orderPriorityGroup fuel (sorted.eraseIdx index) rng
        (drawn :: rest, rng)

/-- The groups one after another. -/
def orderGroups : List (List ResolvedSrvTarget) → Rng → List ResolvedSrvTarget
  | [], _ => []
  | group :: rest, rng =>
    let (ordered, rng) := orderPriorityGroup group.length group rng
    ordered ++ orderGroups rest rng

/-- A DNS label that a target may have. -/
def validTargetLabel (label : Text) : Bool :=
  !label.isEmpty && decide (label.length ≤ 63) && label.all (fun c => c.isAlphanum || c == '-') &&
    (label.head?.any Char.isAlphanum) && (label.getLast?.any Char.isAlphanum)

def normalizeTarget (addresses : Addresses) (target : Text) : Option Text :=
  let target := (Text.stripSuffix '.' target).getD target
  if target.isEmpty || (addresses.parse target).isSome then none
  else
    let labels := target.splitOn '.'
    if decide (253 < target.length) || labels.any (fun label => !validTargetLabel label) then none
    else some target.toAsciiLowercase

/-- A record as a target, or nothing where it is rejected. -/
def usableTarget (addresses : Addresses) (record : SrvRecord) : Option ResolvedSrvTarget :=
  match normalizeTarget addresses record.target with
  | none => none
  | some target =>
    if record.port = 0 then none
    else some { priority := record.priority, weight := record.weight, port := record.port, target }

/-- **The targets of an SRV answer**, in the order in which they are tried. -/
def prepareSrvTargets (addresses : Addresses) (records : List SrvRecord) (rng : Rng) :
    Except SrvAnswerError (List ResolvedSrvTarget) :=
  if records.map (·.target) = [['.']] then .error .serviceUnavailable
  else
    let offered := records.filter (·.target ≠ ['.'])
    let targets := offered.filterMap (usableTarget addresses)
    if maxSrvTargets < targets.length then .error (.tooMany targets.length)
    else if targets.isEmpty then .error (.noUsableTargets (offered.length - targets.length))
    else
      let sorted := targets.insertionSort (·.priority ≤ ·.priority)
      .ok (orderGroups (sorted.splitBy (·.priority == ·.priority)) rng)

theorem sortByWeight_perm (group : List ResolvedSrvTarget) :
    (group.filter (·.weight = 0) ++ group.filter (·.weight ≠ 0)).Perm group := by
  have split := List.filter_append_perm (fun target : ResolvedSrvTarget => decide (target.weight = 0)) group
  simpa [decide_not] using split

theorem orderPriorityGroup_perm (fuel : Nat) (group : List ResolvedSrvTarget) (rng : Rng) :
    (orderPriorityGroup fuel group rng).1.Perm group := by
  induction fuel generalizing group rng with
  | zero => exact List.Perm.refl group
  | succ fuel ih =>
    unfold orderPriorityGroup
    split
    · exact rng.shuffle_perm group
    · refine List.Perm.trans ?_ (sortByWeight_perm group)
      generalize group.filter (·.weight = 0) ++ group.filter (·.weight ≠ 0) = sorted
      dsimp only
      split
      · exact List.Perm.refl sorted
      · rename_i drawn found
        obtain ⟨inside, rfl⟩ := List.getElem?_eq_some_iff.mp found
        exact ((ih _ _).cons _).trans (List.getElem_cons_eraseIdx_perm inside)

theorem orderGroups_perm (groups : List (List ResolvedSrvTarget)) (rng : Rng) :
    (orderGroups groups rng).Perm groups.flatten := by
  induction groups generalizing rng with
  | nil => exact List.Perm.nil
  | cons group rest ih => exact (orderPriorityGroup_perm _ _ _).append (ih _)

/-- **The targets of an answer are its usable records**, each as often as it is there. -/
theorem prepareSrvTargets_perm {addresses : Addresses} {records : List SrvRecord} {rng : Rng}
    {targets : List ResolvedSrvTarget} (prepared : prepareSrvTargets addresses records rng = .ok targets) :
    targets.Perm ((records.filter (·.target ≠ ['.'])).filterMap (usableTarget addresses)) ∧
      targets.length ≤ maxSrvTargets ∧ targets ≠ [] := by
  unfold prepareSrvTargets at prepared
  split at prepared
  · cases prepared
  · dsimp only at prepared
    split at prepared
    · cases prepared
    · rename_i few
      split at prepared
      · cases prepared
      · rename_i some
        cases prepared
        have perm := orderGroups_perm
          (((((records.filter (·.target ≠ ['.'])).filterMap (usableTarget addresses)).insertionSort
            (·.priority ≤ ·.priority)).splitBy (·.priority == ·.priority))) rng
        rw [List.flatten_splitBy] at perm
        have perm := perm.trans (List.perm_insertionSort _ _)
        refine ⟨perm, ?_, ?_⟩
        · rw [perm.length_eq]
          exact Nat.le_of_not_lt few
        · intro empty
          rw [empty] at perm
          rw [List.nil_perm.mp perm] at some
          exact some rfl

end Rumqtt.V5
