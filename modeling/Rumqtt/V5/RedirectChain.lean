/-
**Following redirects is bounded and free of loops.**

* `Inv`: what holds of the redirect state between two waits.
* `step_post`: one step keeps it and moves the state as its outcome says (`Moved`).
* `chain_ends`: a chain that is under way lowers `rank` with every step that does not end it.
* `chain_trail`: the targets that a chain installs have keys that were visited one after another.
* `redirects_bounded`: the law of chains, from every state that the event loop reaches.
-/

import Rumqtt.V5.RedirectLoop

namespace Rumqtt.V5

open List

section Machine

variable {addresses : Addresses} {σ κ ι : Type} (ops : SessionOps σ κ ι)
  (parse : Option Text → Except RedirectReferenceError (List RedirectReference))

namespace Redirecting

/-! ### The invariant -/

/-- The key of the options, where they have one, has been visited. -/
def KeyIn (addresses : Addresses) (options : MqttOptions) (visited : List Text) : Prop :=
  ∀ key ∈ normalizedBrokerKey addresses options.broker options.transport, key ∈ visited

theorem KeyIn.append {options : MqttOptions} {visited : List Text}
    (known : KeyIn addresses options visited) (more : List Text) :
    KeyIn addresses options (visited ++ more) :=
  fun key named => mem_append_left more (known key named)

/-- **A chain is under way**: a redirect was followed and no connection is established. -/
def InProgress (el : Redirecting addresses σ κ) : Prop :=
  ∃ active, el.activeRedirect = some active ∧ active.established = false

/-- The options that the chain began with. -/
def originOptions (el : Redirecting addresses σ κ) : MqttOptions :=
  (el.activeRedirect.map (·.previousOptions)).getD el.options

/-- What holds of the active redirect. -/
structure ActiveInv (el : Redirecting addresses σ κ) (active : ActiveRedirect addresses κ) : Prop where
  transport : el.options.transport = active.profile.transport
  planned : ∀ plan, active.srv = some (.resolved plan) →
    plan.attempted + plan.candidates.length ≤ maxSrvTargets
  looked : active.established = true → ∀ owner, active.srv ≠ some (.unresolved owner)

/-- **How the event loop came to its options**, also while an SRV answer is taken in: what was visited
are different endpoints, the origin among them, the journey leads to the options of the origin and the
hops from there to those in use. -/
structure Route (configured : MqttOptions) (el : Redirecting addresses σ κ) : Prop where
  distinct : el.redirectVisited.Nodup
  limited : el.redirectAttempts ≤ configured.redirectPolicy.getD 0
  policyKept : el.options.redirectPolicy = configured.redirectPolicy
  originPolicy : el.originOptions.redirectPolicy = configured.redirectPolicy
  origin : el.activeRedirect = none ∧ el.redirectVisited = [] ∨
    KeyIn addresses el.originOptions el.redirectVisited
  mirrored : el.authenticators = el.options.authenticators
  led : el.options = el.hops.foldl Hop.apply el.originOptions
  travelled : el.journey.start = configured ∧ el.originOptions = el.journey.options
  rested : el.activeRedirect = none → el.hops = []
  active : ∀ active, el.activeRedirect = some active → ActiveInv el active

/-- **What is put off**: nothing of an established connection while a chain is under way. -/
structure Waiting (el : Redirecting addresses σ κ) : Prop where
  unconnected : el.InProgress → el.connected = false
  noError : el.InProgress → el.pendingConnectionError = none
  atHandshake : el.InProgress → ∀ pending, el.pendingServerRedirect = some pending →
    ∃ outcome, pending = .handshakeEvents outcome
  handshake : ∀ outcome, el.pendingServerRedirect = some (.handshakeEvents outcome) →
    el.connected = false
  checkpointed : ∀ outcome, el.pendingServerRedirect = some (.checkpoint outcome) →
    el.connected = false
  redirectError : ∀ outcome, el.pendingConnectionError = some (.serverRedirect outcome) →
    el.pendingServerRedirect = none

/-- **What holds of the redirect state between two waits**, under a policy that stays as it is: the
connection target has been visited, unless it has to be looked up. -/
structure Inv (configured : MqttOptions) (el : Redirecting addresses σ κ) : Prop extends
    Route configured el, Waiting el where
  aimed : ∀ active, el.activeRedirect = some active →
    (∀ owner, active.srv ≠ some (.unresolved owner)) → KeyIn addresses el.options el.redirectVisited

/-- How many targets of the SRV answer were installed. -/
def tried (el : Redirecting addresses σ κ) : Nat :=
  match el.activeRedirect.bind (·.srv) with
  | some (.resolved plan) => plan.attempted
  | _ => 0

/-- How much of the current hop is left: the lookup, the targets, the event queue. -/
def position (el : Redirecting addresses σ κ) : Nat :=
  if el.pendingServerRedirect.isSome then 1
  else match el.activeRedirect.bind (·.srv) with
    | some (.unresolved _) => maxSrvTargets + 2
    | some (.resolved plan) => plan.candidates.length + 2
    | none => 2

/-- **What decreases along a chain**: the hops that are allowed, then what is left of this one. -/
def rank (configured : MqttOptions) (el : Redirecting addresses σ κ) : Nat :=
  (configured.redirectPolicy.getD 0 - el.redirectAttempts) * (maxSrvTargets + 2) + el.position

/-! ### What a step does -/

/-- The redirect state is as before. -/
structure Still (el after : Redirecting addresses σ κ) : Prop where
  options : after.options = el.options
  activeRedirect : after.activeRedirect = el.activeRedirect
  redirectAttempts : after.redirectAttempts = el.redirectAttempts
  redirectVisited : after.redirectVisited = el.redirectVisited
  installed : after.installed = el.installed
  authenticators : after.authenticators = el.authenticators
  journey : after.journey = el.journey
  hops : after.hops = el.hops

def Target.key (addresses : Addresses) (target : Target) : Option Text :=
  normalizedBrokerKey addresses target.broker target.transport

/-- What has been visited once the endpoint that the first redirect comes from is marked. -/
def seeds (el : Redirecting addresses σ κ) : List Text :=
  if el.redirectVisited.isEmpty then el.currentRedirectEndpointKey.toList else el.redirectVisited

theorem seedVisited_eq (el : Redirecting addresses σ κ) :
    el.seedVisited = { el with redirectVisited := el.seeds } := by
  unfold seedVisited seeds
  split <;> rfl

/-- A redirect was followed: what was visited is the old list, or the origin where there was none,
and the keys of the targets that were installed. -/
structure Followed (el after : Redirecting addresses σ κ) : Prop where
  redirectAttempts : after.redirectAttempts = el.redirectAttempts + 1
  inProgress : after.InProgress
  tried : after.tried = 0
  visited : ∃ keys targets, after.redirectVisited = el.seeds ++ keys ∧
    after.installed = el.installed ++ targets ∧
    targets.map (Target.key addresses) = keys.map some

/-- The next SRV target was installed. -/
structure Installed (el after : Redirecting addresses σ κ) : Prop where
  redirectAttempts : after.redirectAttempts = el.redirectAttempts
  began : el.InProgress
  inProgress : after.InProgress
  tried : after.tried = el.tried + 1
  position : after.position < el.position
  visited : ∃ key target, after.redirectVisited = el.redirectVisited ++ [key] ∧
    after.installed = el.installed ++ [target] ∧ Target.key addresses target = some key

/-- **What a step does to the redirect state**, by its outcome. -/
def Moved (el after : Redirecting addresses σ κ) : Outcome → Prop
  | .redirected _ => Followed el after
  | .resolved => Installed el after
  | .retried => Installed el after
  | .deferred => Still el after ∧ (el.InProgress →
      el.pendingServerRedirect = none ∧ after.pendingServerRedirect.isSome)
  | .cancelled => Still el after ∧ (el.InProgress →
      after.pendingServerRedirect = el.pendingServerRedirect)
  | .cleaned => Still el after ∧ (el.InProgress →
      after.pendingServerRedirect = el.pendingServerRedirect)
  | .delivered => ¬ el.InProgress
  | .left => ¬ el.InProgress
  | .established => True
  | .error _ => True
  | .panicked => False

/-- **The result of a step keeps the invariant and moves the state as its outcome says.** -/
structure Post (configured : MqttOptions) (el : Redirecting addresses σ κ)
    (result : Outcome × Redirecting addresses σ κ) : Prop where
  inv : Inv configured result.2
  moved : Moved el result.2 result.1

variable {configured : MqttOptions} {el start after : Redirecting addresses σ κ}
  {active : ActiveRedirect addresses κ}

theorem Post.error {error : PollError} (inv : Inv configured after) :
    Post configured el (.error error, after) := ⟨inv, trivial⟩

theorem originOptions_some (found : el.activeRedirect = some active) :
    el.originOptions = active.previousOptions := by
  unfold originOptions
  rw [found]
  rfl

/-! ### The same redirect state -/

/-- The rest of the event loop is no part of the redirect state. -/
theorem Still.besides (el : Redirecting addresses σ κ) (session : σ) (connected : Bool)
    (pending : Option PendingServerRedirect) (failed : Option NetworkError)
    (shutdown complete : Bool) :
    Still el { el with
      session, connected, pendingServerRedirect := pending, pendingConnectionError := failed
      pendingRedirectShutdown := shutdown, disconnectComplete := complete } :=
  ⟨rfl, rfl, rfl, rfl, rfl, rfl, rfl, rfl⟩

theorem Still.refl : Still el el := Still.besides el _ _ _ _ _ _

theorem Still.trans (first : Still start el) (second : Still el after) : Still start after :=
  ⟨second.options.trans first.options, second.activeRedirect.trans first.activeRedirect,
    second.redirectAttempts.trans first.redirectAttempts,
    second.redirectVisited.trans first.redirectVisited, second.installed.trans first.installed,
    second.authenticators.trans first.authenticators, second.journey.trans first.journey,
    second.hops.trans first.hops⟩

theorem Still.inProgress (same : Still el after) : after.InProgress ↔ el.InProgress := by
  unfold InProgress
  rw [same.activeRedirect]

theorem Still.originOptions (same : Still el after) : after.originOptions = el.originOptions := by
  unfold Redirecting.originOptions
  rw [same.activeRedirect, same.options]

theorem Still.seeds (same : Still el after) : after.seeds = el.seeds := by
  unfold Redirecting.seeds currentRedirectEndpointKey
  rw [same.redirectVisited, same.options]

theorem Route.of_still (route : Route configured el) (same : Still el after) : Route configured after := by
  have origins := same.originOptions
  obtain ⟨options, activeRedirect, attempts, visited, -, authenticators, journey, hops⟩ := same
  exact
    { distinct := visited ▸ route.distinct
      limited := attempts ▸ route.limited
      policyKept := options ▸ route.policyKept
      originPolicy := origins ▸ route.originPolicy
      origin := by rw [activeRedirect, visited, origins]; exact route.origin
      mirrored := by rw [authenticators, options]; exact route.mirrored
      led := by rw [options, hops, origins]; exact route.led
      travelled := by rw [origins, journey]; exact route.travelled
      rested := by rw [activeRedirect, hops]; exact route.rested
      active := fun active found =>
        have held := route.active active (activeRedirect ▸ found)
        ⟨options ▸ held.transport, held.planned, held.looked⟩ }

/-- What is put off is the same, and no chain begins. -/
theorem Waiting.of_same (waiting : Waiting el) (progress : after.InProgress → el.InProgress)
    (pending : after.pendingServerRedirect = el.pendingServerRedirect)
    (failed : after.pendingConnectionError = el.pendingConnectionError)
    (closed : el.connected = false → after.connected = false) : Waiting after where
  unconnected := fun open' => closed (waiting.unconnected (progress open'))
  noError := fun open' => failed ▸ waiting.noError (progress open')
  atHandshake := fun open' => pending ▸ waiting.atHandshake (progress open')
  handshake := fun outcome waits => closed (waiting.handshake outcome (pending ▸ waits))
  checkpointed := fun outcome waits => closed (waiting.checkpointed outcome (pending ▸ waits))
  redirectError := by rw [pending, failed]; exact waiting.redirectError

/-- Where a redirect is handled: between connections, with nothing put off. -/
structure Ready (el : Redirecting addresses σ κ) : Prop where
  closed : el.connected = false
  noError : el.pendingConnectionError = none
  noPending : el.pendingServerRedirect = none

theorem Ready.waiting (ready : Ready el) : Waiting el where
  unconnected := fun _ => ready.closed
  noError := fun _ => ready.noError
  atHandshake := fun _ _ waits => absurd (ready.noPending.symm.trans waits) nofun
  handshake := fun _ _ => ready.closed
  checkpointed := fun _ _ => ready.closed
  redirectError := fun _ _ => ready.noPending

section

variable (inv : Inv configured el)
include inv

/-- The redirect state is as before, and what is put off fits it. -/
theorem Inv.of_still (same : Still el after) (waiting : Waiting after) :
    Inv configured after where
  toRoute := inv.toRoute.of_still same
  toWaiting := waiting
  aimed := by
    rw [same.activeRedirect, same.options, same.redirectVisited]
    exact inv.aimed

/-- Only the session and the shutdown flags have changed, or the connection is closed. -/
theorem Inv.of_same (same : Still el after)
    (pending : after.pendingServerRedirect = el.pendingServerRedirect)
    (failed : after.pendingConnectionError = el.pendingConnectionError)
    (closed : el.connected = false → after.connected = false) : Inv configured after :=
  inv.of_still same (inv.toWaiting.of_same same.inProgress.mp pending failed closed)

theorem Inv.taken : Inv configured { el with pendingServerRedirect := none } :=
  inv.of_still (Still.besides el _ _ _ _ _ _)
    { inv.toWaiting with
      atHandshake := fun _ _ waits => by cases waits
      handshake := fun _ waits => by cases waits
      checkpointed := fun _ waits => by cases waits
      redirectError := fun _ _ => rfl }

theorem Inv.errorTaken :
    Inv configured { el with pendingConnectionError := none } :=
  inv.of_still (Still.besides el _ _ _ _ _ _)
    { inv.toWaiting with
      noError := fun _ => rfl
      redirectError := fun _ failed => by cases failed }

/-- A redirect or an error that is put off while no chain is under way. -/
theorem Inv.putOff (rest : ¬ el.InProgress)
    (pending : Option PendingServerRedirect) (failed : Option NetworkError)
    (handshake : ∀ outcome, pending = some (.handshakeEvents outcome) → el.connected = false)
    (checkpointed : ∀ outcome, pending = some (.checkpoint outcome) → el.connected = false)
    (redirectError : ∀ outcome, failed = some (.serverRedirect outcome) → pending = none) :
    Inv configured { el with pendingServerRedirect := pending, pendingConnectionError := failed } :=
  inv.of_still (Still.besides el _ _ _ _ _ _)
    { unconnected := fun open' => absurd open' rest
      noError := fun open' => absurd open' rest
      atHandshake := fun open' => absurd open' rest
      handshake, checkpointed, redirectError }

end

/-! ### Going back to the origin -/

theorem restoreRedirectOrigin_inv (route : Route configured el) (waiting : Waiting el) :
    Inv configured (el.restoreRedirectOrigin ops).2 := by
  unfold restoreRedirectOrigin
  cases found : el.activeRedirect with
  | none => exact ⟨route, waiting, fun active known => absurd (found.symm.trans known) nofun⟩
  | some active =>
    have origins := originOptions_some found
    have policyKept : active.previousOptions.redirectPolicy =
        configured.redirectPolicy := origins ▸ route.originPolicy
    have known : KeyIn addresses active.previousOptions el.redirectVisited := by
      rcases route.origin with ⟨none', -⟩ | known
      · exact absurd (found.symm.trans none') nofun
      · exact origins ▸ known
    have noChain : ∀ {after : Redirecting addresses σ κ}, after.activeRedirect = none →
        after.InProgress → el.InProgress :=
      fun none' open' => absurd (none'.symm.trans open'.choose_spec.1) nofun
    dsimp only
    split
    · exact ⟨⟨nodup_nil, Nat.zero_le _, policyKept, policyKept, .inl ⟨rfl, rfl⟩, rfl, rfl,
        origins ▸ route.travelled, fun _ => rfl, fun _ found => by cases found⟩,
        waiting.of_same (noChain rfl) rfl rfl id, fun _ found => by cases found⟩
    · exact ⟨⟨route.distinct, route.limited, policyKept, policyKept, .inr known, rfl, rfl,
        origins ▸ route.travelled, fun _ => rfl, fun _ found => by cases found⟩,
        waiting.of_same (noChain rfl) rfl rfl id, fun _ found => by cases found⟩

theorem redirectFailure_post (start : Redirecting addresses σ κ) (route : Route configured el)
    (ready : Ready el) (outcome : RedirectOutcome) (failure : RedirectFailure) :
    Post configured start (el.redirectFailure ops outcome failure) :=
  Post.error (restoreRedirectOrigin_inv ops route ready.waiting)

theorem redirectFailure_activeRedirect (outcome : RedirectOutcome) (failure : RedirectFailure) :
    (el.redirectFailure ops outcome failure).2.activeRedirect = none := by
  unfold redirectFailure restoreRedirectOrigin
  cases found : el.activeRedirect with
  | none => exact found
  | some active =>
    dsimp only
    split <;> rfl

theorem finishRedirectedShutdown_post (start : Redirecting addresses σ κ) (inv : Inv configured el) :
    Post configured start el.finishRedirectedShutdown :=
  Post.error (inv.of_same (Still.besides el _ _ _ _ _ _) rfl rfl id)

/-! ### Following -/

/-- Everything visited stays visited. -/
theorem KeyIn.seed {options : MqttOptions} (known : KeyIn addresses options el.redirectVisited) :
    KeyIn addresses options el.seeds := by
  unfold seeds
  split
  · rename_i empty
    rw [isEmpty_iff.mp empty] at known
    exact fun key named => absurd (known key named) not_mem_nil
  · exact known

/-- Where nothing was visited, the endpoint in use is marked. -/
theorem keyIn_seeds (known : el.redirectVisited = [] ∨ KeyIn addresses el.options el.redirectVisited) :
    KeyIn addresses el.options el.seeds := by
  rcases known with empty | known
  · intro key named
    unfold seeds
    rw [if_pos (isEmpty_iff.mpr empty)]
    exact Option.mem_toList.mpr named
  · exact known.seed

/-- The endpoint that a redirect comes from is visited once it is marked. -/
theorem Inv.keyIn_seed (inv : Inv configured el)
    (aimed : ∀ active owner, el.activeRedirect = some active →
      active.srv ≠ some (.unresolved owner)) :
    KeyIn addresses el.options el.seeds := by
  refine keyIn_seeds ?_
  cases found : el.activeRedirect with
  | none =>
    refine inv.origin.imp And.right fun known => ?_
    unfold originOptions at known
    rw [found] at known
    exact known
  | some active => exact .inr (inv.aimed active found fun owner => aimed active owner found)

theorem Route.keyIn_origin (route : Route configured el) :
    KeyIn addresses el.originOptions el.seeds := by
  rcases route.origin with ⟨none', empty⟩ | known
  · unfold originOptions
    rw [none']
    exact keyIn_seeds (.inl empty)
  · exact known.seed

theorem Route.seeded (route : Route configured el) : Route configured el.seedVisited := by
  have distinct : el.seeds.Nodup := by
    unfold seeds
    split
    · cases el.currentRedirectEndpointKey with
      | none => exact nodup_nil
      | some key => exact nodup_singleton key
    · exact route.distinct
  have origin := route.keyIn_origin
  rw [seedVisited_eq]
  exact { route with
    distinct, origin := .inr origin
    active := fun active found => { route.active active found with } }

theorem Ready.seeded (ready : Ready el) : Ready el.seedVisited := by
  rw [seedVisited_eq]
  exact ⟨ready.closed, ready.noError, ready.noPending⟩

/-- What the next active redirect takes from the one before. -/
theorem nextRedirect_cases (el : Redirecting addresses σ κ) (outcome : RedirectOutcome)
    (profile : RedirectTargetProfile addresses) :
    (el.nextRedirect ops outcome profile).previousOptions = el.originOptions ∧
      (el.nextRedirect ops outcome profile).profile = profile ∧
      (el.nextRedirect ops outcome profile).established = false ∧
      (el.nextRedirect ops outcome profile).srv = profile.srvOwner.map .unresolved := by
  unfold nextRedirect originOptions
  cases el.activeRedirect <;> exact ⟨rfl, rfl, rfl, rfl⟩

/-- **A profile whose endpoint is new is followed.** -/
theorem follow_inv (route : Route configured el) (known : KeyIn addresses el.originOptions el.redirectVisited)
    (ready : Ready el) (allowed : el.redirectAttempts < configured.redirectPolicy.getD 0)
    (outcome : RedirectOutcome) (profile : RedirectTargetProfile addresses)
    (new : ∀ key ∈ profile.reference.endpointKey addresses profile.transport,
      key ∉ el.redirectVisited) :
    Inv configured (el.follow ops outcome profile
      (profile.reference.endpointKey addresses profile.transport)) := by
  obtain ⟨previous, ofProfile, open', srv⟩ := el.nextRedirect_cases ops outcome profile
  obtain ⟨broker, transport⟩ := profile.apply_broker el.options
  have distinct : (el.redirectVisited ++
      (profile.reference.endpointKey addresses profile.transport).toList).Nodup := by
    refine nodup_append.mpr ⟨route.distinct, ?_, ?_⟩
    · cases profile.reference.endpointKey addresses profile.transport with
      | none => exact nodup_nil
      | some key => exact nodup_singleton key
    · intro old visited key named same
      subst same
      exact new old (Option.mem_toList.mp named) visited
  have led : profile.apply el.options =
      (el.hops ++ [Hop.profile profile]).foldl Hop.apply el.originOptions := by
    rw [foldl_append, ← route.led]
    rfl
  have waiting : Ready (el.follow ops outcome profile
      (profile.reference.endpointKey addresses profile.transport)) :=
    ⟨ready.closed, ready.noError, ready.noPending⟩
  refine ⟨⟨distinct, allowed, (profile.apply_redirectPolicy el.options).trans route.policyKept,
    ?_, .inr ?_, rfl, ?_, ⟨route.travelled.1, previous.trans route.travelled.2⟩, nofun, ?_⟩,
    waiting.waiting, ?_⟩
  · exact (congrArg MqttOptions.redirectPolicy previous).trans route.originPolicy
  · have origin := known.append (profile.reference.endpointKey addresses profile.transport).toList
    rw [← previous] at origin
    exact origin
  · exact led.trans (congrArg (List.foldl Hop.apply · _) previous.symm)
  · intro active found
    cases found
    refine ⟨transport.trans (congrArg _ ofProfile.symm), ?_, fun established => absurd (open'.symm.trans established) nofun⟩
    intro plan resolved
    rw [srv] at resolved
    cases owned : profile.srvOwner <;> rw [owned] at resolved <;> cases resolved
  · intro active found resolved key named
    cases found
    rcases profile.key_broker with ⟨target, endpoint, direct, sameKey, ofReference⟩ | ⟨owner, pending, -⟩
    · have target_eq : profile.broker = some target := by
        unfold RedirectTargetProfile.broker
        rw [direct]
      have aimed : normalizedBrokerKey addresses (profile.apply el.options).broker
          (profile.apply el.options).transport = some endpoint := by
        rw [broker, transport, target_eq]
        exact sameKey
      have same : key = endpoint := Option.some.inj (named.symm.trans aimed)
      refine mem_append_right _ (Option.mem_toList.mpr ?_)
      rw [same]
      exact ofReference
    · refine absurd ?_ (resolved owner)
      rw [srv]
      unfold RedirectTargetProfile.srvOwner
      rw [pending]
      rfl

/-- What following a profile does to the visited endpoints and the installed targets. -/
theorem follow_followed (outcome : RedirectOutcome) (profile : RedirectTargetProfile addresses) :
    Followed el (el.seedVisited.follow ops outcome profile
      (profile.reference.endpointKey addresses profile.transport)) := by
  obtain ⟨-, -, open', srv⟩ := el.seedVisited.nextRedirect_cases ops outcome profile
  rw [seedVisited_eq] at open' srv ⊢
  refine ⟨rfl, ⟨_, rfl, open'⟩, ?_, ?_⟩
  · have noPlan : (({ el with redirectVisited := el.seeds } : Redirecting addresses σ κ).follow ops
        outcome profile (profile.reference.endpointKey addresses
          profile.transport)).activeRedirect.bind (·.srv) = profile.srvOwner.map .unresolved := srv
    unfold Redirecting.tried
    rw [noPlan]
    cases profile.srvOwner <;> rfl
  · rcases profile.key_broker with ⟨target, endpoint, direct, sameKey, ofReference⟩ | ⟨owner, pending, none'⟩
    · refine ⟨[endpoint], [⟨target, profile.transport⟩], ?_, ?_, ?_⟩
      · rw [ofReference]
        rfl
      · show el.installed ++ (profile.broker.map _).toList = _
        unfold RedirectTargetProfile.broker
        rw [direct]
        rfl
      · show [normalizedBrokerKey addresses target profile.transport] = [some endpoint]
        rw [sameKey]
    · refine ⟨[], [], ?_, ?_, rfl⟩
      · rw [none']
        rfl
      · show el.installed ++ (profile.broker.map _).toList = _
        unfold RedirectTargetProfile.broker
        rw [pending]
        rfl

/-- What was followed from a state was followed from one with the same redirect state. -/
theorem Followed.of_still (same : Still start el) (followed : Followed el after) :
    Followed start after :=
  ⟨followed.redirectAttempts.trans (congrArg (· + 1) same.redirectAttempts), followed.inProgress,
    followed.tried, by rw [← same.seeds, ← same.installed]; exact followed.visited⟩

/-- **What `handle_redirect_outcome` can do**: it ends the client, goes back to the origin, or follows
a profile whose endpoint is new. -/
inductive Handled (el : Redirecting addresses σ κ) (outcome : RedirectOutcome) :
    Outcome × Redirecting addresses σ κ → Prop
  | ended (error : PollError) (shutdown complete : Bool) : Handled el outcome
      (.error error, { el with pendingRedirectShutdown := shutdown, disconnectComplete := complete })
  | failed (failure : RedirectFailure) : Handled el outcome (el.redirectFailure ops outcome failure)
  | failedMarked (failure : RedirectFailure) :
      Handled el outcome (el.seedVisited.redirectFailure ops outcome failure)
  | followed (profile : RedirectTargetProfile addresses)
      (allowed : el.redirectAttempts < el.options.redirectPolicy.getD 0)
      (new : ∀ key ∈ profile.reference.endpointKey addresses profile.transport,
        key ∉ el.seedVisited.redirectVisited) :
      Handled el outcome (.redirected outcome, el.seedVisited.follow ops outcome profile
        (profile.reference.endpointKey addresses profile.transport))

theorem tryFollow_handled (allowed : el.redirectAttempts < el.options.redirectPolicy.getD 0)
    (outcome : RedirectOutcome) (references : List RedirectReference)
    (profile : RedirectTargetProfile addresses) (answers : RedirectAnswers addresses) :
    Handled ops el outcome (el.tryFollow ops outcome references profile answers) := by
  unfold tryFollow
  split
  · exact .failed _
  · dsimp only
    split
    · exact .failedMarked _
    · rename_i new
      split
      · exact .failedMarked _
      · split
        · exact .failedMarked _
        · refine .followed profile allowed fun key named visited => new ?_
          rw [Option.mem_def.mp named]
          exact decide_eq_true visited

theorem handleRedirectOutcome_handled (outcome : RedirectOutcome) (answers : RedirectAnswers addresses) :
    Handled ops el outcome (el.handleRedirectOutcome ops parse outcome answers) := by
  unfold handleRedirectOutcome
  split
  · exact .ended _ _ _
  · split
    · exact .ended _ _ _
    · split
      · exact .failed _
      · rename_i maxAttempts limit
        split
        · exact .failed _
        · rename_i allowed
          split
          · exact .failed _
          · split
            · exact .ended _ _ _
            · split
              · exact .failed _
              · exact .failed _
              · refine tryFollow_handled ops ?_ outcome _ _ answers
                rw [limit]
                exact Nat.lt_of_not_le allowed

/-- **`handle_redirect_outcome`** -/
theorem Handled.post {outcome : RedirectOutcome} {result : Outcome × Redirecting addresses σ κ}
    (handled : Handled ops el outcome result) (same : Still start el) (inv : Inv configured el)
    (ready : Ready el) : Post configured start result := by
  cases handled with
  | ended error shutdown complete =>
    exact Post.error (inv.of_same (Still.besides el _ _ _ _ _ _) rfl rfl id)
  | failed failure => exact redirectFailure_post ops start inv.toRoute ready outcome failure
  | failedMarked failure =>
    exact redirectFailure_post ops start inv.toRoute.seeded ready.seeded outcome failure
  | followed profile allowed new =>
    refine ⟨?_, (follow_followed ops outcome profile).of_still same⟩
    have known := inv.toRoute.keyIn_origin
    have seeded := inv.toRoute.seeded
    have readySeeded := ready.seeded
    rw [inv.policyKept] at allowed
    rw [seedVisited_eq] at new seeded readySeeded ⊢
    exact follow_inv ops seeded known readySeeded allowed outcome profile new

/-! ### SRV targets -/

/-- The candidate that is taken was not visited, and fewer are left. -/
theorem nextSrvCandidate_some {visited : List Text} {transport : Transport}
    {candidates rest : List ResolvedSrvTarget} {target : ResolvedSrvTarget}
    (next : nextSrvCandidate addresses visited transport candidates = some (target, rest)) :
    normalizedProfileKey addresses target.target target.port transport ∉ visited ∧
      rest.length < candidates.length := by
  induction candidates with
  | nil => cases next
  | cons first others ih =>
    unfold nextSrvCandidate at next
    split at next
    · obtain ⟨new, fewer⟩ := ih next
      exact ⟨new, Nat.lt_succ_of_lt fewer⟩
    · rename_i new
      cases next
      exact ⟨new, Nat.lt_succ_self _⟩

/-- The active redirect has a plan, or another one. -/
theorem Route.replanned (route : Route configured el) (found : el.activeRedirect = some active)
    (plan : SrvConnectionPlan) (within : plan.attempted + plan.candidates.length ≤ maxSrvTargets) :
    Route configured { el with activeRedirect := some { active with srv := some (.resolved plan) } } := by
  have origins := originOptions_some found
  exact
    { route with
      originPolicy := origins ▸ route.originPolicy
      origin := .inr (by
        rcases route.origin with ⟨none', -⟩ | known
        · exact absurd (found.symm.trans none') nofun
        · exact origins ▸ known)
      led := origins ▸ route.led
      travelled := origins ▸ route.travelled
      rested := nofun
      active := fun after isAfter => by
        cases isAfter
        exact
          { route.active active found with
            planned := fun after isAfter => by cases isAfter; exact within
            looked := fun _ owner same => by cases same } }

variable {plan : SrvConnectionPlan} {target : ResolvedSrvTarget} {rest : List ResolvedSrvTarget}

/-- The candidate becomes the target of the chain that is under way. -/
theorem installCandidate_inv (route : Route configured el) (ready : Ready el)
    (found : el.activeRedirect = some active) (resolved : active.srv = some (.resolved plan))
    (next : nextSrvCandidate addresses el.redirectVisited active.profile.transport plan.candidates =
      some (target, rest)) : Inv configured (el.installCandidate active plan target rest) := by
  obtain ⟨new, fewer⟩ := nextSrvCandidate_some next
  have held := route.active active found
  have origins := originOptions_some found
  have within := held.planned plan resolved
  have planned := route.replanned found { plan with candidates := rest, attempted := plan.attempted + 1 }
    (by dsimp only; omega)
  have again : Ready (el.installCandidate active plan target rest) :=
    ⟨ready.closed, ready.noError, ready.noPending⟩
  refine ⟨⟨?_, planned.limited, planned.policyKept, planned.originPolicy, .inr ?_, planned.mirrored, ?_,
    planned.travelled, nofun, ?_⟩, again.waiting, ?_⟩
  · refine nodup_append.mpr ⟨route.distinct, nodup_singleton _, ?_⟩
    intro old visited key named same
    rw [mem_singleton.mp named] at same
    exact new (same ▸ visited)
  · rcases planned.origin with ⟨none', -⟩ | known
    · cases none'
    · exact known.append _
  · show _ = (el.hops ++ [_]).foldl Hop.apply active.previousOptions
    rw [foldl_append, ← origins, ← route.led]
    rfl
  · intro after isAfter
    exact { planned.active after isAfter with }
  · intro after isAfter _ key named
    have key_eq : key =
        normalizedProfileKey addresses target.target target.port active.profile.transport := by
      rw [← held.transport]
      exact (Option.some.inj named).symm
    rw [key_eq]
    exact mem_append_right _ (mem_singleton_self _)

theorem installCandidate_installed (transport : el.options.transport = active.profile.transport)
    (open' : active.established = false) (began : start.InProgress)
    (attempts : el.redirectAttempts = start.redirectAttempts)
    (visited : el.redirectVisited = start.redirectVisited) (log : el.installed = start.installed)
    (count : plan.attempted = start.tried) (noPending : el.pendingServerRedirect = none)
    (shorter : rest.length + 2 < start.position) :
    Installed start (el.installCandidate active plan target rest) := by
  refine ⟨attempts, began, ⟨_, rfl, open'⟩, congrArg (· + 1) count, ?_,
    normalizedProfileKey addresses target.target target.port active.profile.transport,
    ⟨.tcp target.target target.port, el.options.transport⟩, congrArg (· ++ _) visited,
    congrArg (· ++ _) log, ?_⟩
  · have position : (el.installCandidate active plan target rest).position = rest.length + 2 := by
      unfold Redirecting.position
      rw [if_neg (by show ¬ el.pendingServerRedirect.isSome = true; rw [noPending]; simp)]
      rfl
    rw [position]
    exact shorter
  · show normalizedBrokerKey addresses (.tcp target.target target.port) el.options.transport = _
    rw [transport]
    rfl

/-- **`install_next_srv_candidate`** of a plan: it moves the chain on, or the redirect fails. -/
theorem installNext_post {moved : Outcome} (moves : moved = .resolved ∨ moved = .retried)
    (route : Route configured el) (ready : Ready el) (found : el.activeRedirect = some active)
    (resolved : active.srv = some (.resolved plan)) (open' : active.established = false)
    (began : start.InProgress) (attempts : el.redirectAttempts = start.redirectAttempts)
    (visited : el.redirectVisited = start.redirectVisited) (log : el.installed = start.installed)
    (count : plan.attempted = start.tried) (longer : plan.candidates.length + 2 ≤ start.position)
    (outcome : RedirectOutcome) (failure : RedirectFailure) :
    Post configured start (if el.installNextSrvCandidate.1 = true then (moved, el.installNextSrvCandidate.2)
      else el.installNextSrvCandidate.2.redirectFailure ops outcome failure) := by
  unfold installNextSrvCandidate
  rw [found]
  simp only [resolved]
  cases next : nextSrvCandidate addresses el.redirectVisited active.profile.transport
      plan.candidates with
  | some taken =>
    obtain ⟨target, rest⟩ := taken
    have fewer := (nextSrvCandidate_some next).2
    have installed : Installed start (el.installCandidate active plan target rest) :=
      installCandidate_installed (route.active active found).transport open' began attempts visited log
        count ready.noPending (by omega)
    refine ⟨installCandidate_inv route ready found resolved next, ?_⟩
    rcases moves with rfl | rfl <;> exact installed
  | none =>
    have within := (route.active active found).planned plan resolved
    refine redirectFailure_post ops start (route.replanned found { plan with candidates := [] } ?_)
      ⟨ready.closed, ready.noError, ready.noPending⟩ outcome failure
    exact Nat.le_trans (Nat.le_add_right _ _) within

/-- **`resolve_active_srv`** -/
theorem resolveActiveSrv_post (inv : Inv configured el) (ready : Ready el) {owner : Text}
    (found : el.activeRedirect = some active)
    (unresolved : active.srv = some (.unresolved owner)) (answer : Answer addresses ι) :
    Post configured el (el.resolveActiveSrv ops active owner answer) := by
  have open' : active.established = false := by
    cases established : active.established with
    | false => rfl
    | true => exact absurd unresolved ((inv.active active found).looked established owner)
  unfold resolveActiveSrv
  split
  · exact finishRedirectedShutdown_post el inv
  · split
    · exact ⟨inv, Still.refl, fun _ => rfl⟩
    · exact redirectFailure_post ops el inv.toRoute ready _ _
    · exact redirectFailure_post ops el inv.toRoute ready _ _
    · exact redirectFailure_post ops el inv.toRoute ready _ _
    · split
      · exact redirectFailure_post ops el inv.toRoute ready _ _
      · rename_i targets prepared
        obtain ⟨-, few, -⟩ := prepareSrvTargets_perm prepared
        have tried : el.tried = 0 := by
          unfold Redirecting.tried
          rw [found]
          simp only [Option.bind_some, unresolved]
        have position : el.position = maxSrvTargets + 2 := by
          unfold Redirecting.position
          rw [ready.noPending, found]
          simp only [Option.isSome_none, Bool.false_eq_true, if_false, Option.bind_some, unresolved]
        have planned := inv.toRoute.replanned found
          { owner, candidates := targets, attempted := 0 } (by dsimp only; omega)
        exact installNext_post ops (.inl rfl) planned
          ⟨ready.closed, ready.noError, ready.noPending⟩ rfl rfl open' ⟨active, found, open'⟩ rfl rfl
          rfl tried.symm (by dsimp only; omega) _ _

/-! ### Connection attempts -/

/-- The identifier of the CONNACK is one more hop, of the journey or of the chain. -/
theorem assignClientId_inv (inv : Inv configured el) (ready : Ready el) (clientId : String) :
    Inv configured (el.assignClientId clientId) ∧ Ready (el.assignClientId clientId) ∧
      (el.assignClientId clientId).activeRedirect = el.activeRedirect := by
  unfold assignClientId
  dsimp only
  split
  · rename_i none'
    have same : el.originOptions = el.options := by
      unfold originOptions
      rw [none']
      rfl
    have origin := inv.origin
    have travelled := inv.travelled
    rw [same] at origin travelled
    refine ⟨⟨{ inv.toRoute with
      originPolicy := ?_, origin := ?_, led := ?_, travelled := ?_, active := ?_ },
      { inv.toWaiting with }, fun _ found => absurd (none'.symm.trans found) nofun⟩, ?_, rfl⟩
    all_goals simp only [originOptions, none', Option.map_none, Option.getD_none]
    · exact inv.policyKept
    · exact origin.imp (fun rest => ⟨trivial, rest.2⟩) id
    · rw [inv.rested none']
      rfl
    · rw [Journey.options_extend, ← travelled.2]
      exact ⟨travelled.1, rfl⟩
    · exact fun _ found => by cases found
    · exact ⟨ready.closed, ready.noError, ready.noPending⟩
  · rename_i active found
    have origins := originOptions_some found
    refine ⟨⟨{ inv.toRoute with
      originPolicy := ?_, origin := ?_, led := ?_, travelled := ?_, rested := ?_, active := ?_ },
      { inv.toWaiting with }, inv.aimed⟩, ⟨ready.closed, ready.noError, ready.noPending⟩, rfl⟩
    all_goals simp only [originOptions, found, Option.map_some, Option.getD_some]
    · exact origins ▸ inv.originPolicy
    · simpa only [origins, found] using inv.origin
    · rw [foldl_append, ← origins, ← inv.led]
      rfl
    · exact origins ▸ inv.travelled
    · exact nofun
    · intro after isAfter
      exact { inv.active after (found.trans isAfter) with }

theorem recordEstablishedRedirect_inv (inv : Inv configured el) (ready : Ready el)
    (looked : ∀ active owner, el.activeRedirect = some active →
      active.srv ≠ some (.unresolved owner)) :
    Inv configured { el.recordEstablishedRedirect with connected := true } := by
  have waiting : ∀ after : Redirecting addresses σ κ, ¬ after.InProgress →
      after.pendingServerRedirect = none → after.pendingConnectionError = none → Waiting after := by
    intro after rest noPending noError
    exact
      { unconnected := fun open' => absurd open' rest
        noError := fun open' => absurd open' rest
        atHandshake := fun open' => absurd open' rest
        handshake := fun _ waits => absurd (noPending.symm.trans waits) nofun
        checkpointed := fun _ waits => absurd (noPending.symm.trans waits) nofun
        redirectError := fun _ _ => noPending }
  unfold recordEstablishedRedirect
  split
  · rename_i none'
    refine inv.of_still (Still.besides el _ _ _ _ _ _) (waiting _ ?_ ready.noPending ready.noError)
    exact fun ⟨_, found, _⟩ => absurd (none'.symm.trans found) nofun
  · rename_i active found
    split
    · have stays : el.options = (el.journey.extend el.hops).options := by
        rw [Journey.options_extend, ← inv.travelled.2]
        exact inv.led
      exact ⟨⟨nodup_nil, Nat.zero_le _, inv.policyKept, inv.policyKept, .inl ⟨rfl, rfl⟩,
        inv.mirrored, rfl, ⟨inv.travelled.1, stays⟩, fun _ => rfl, fun _ found => by cases found⟩,
        waiting _ (fun ⟨_, found, _⟩ => by cases found) ready.noPending ready.noError,
        fun _ found => by cases found⟩
    · have origins := originOptions_some found
      refine ⟨{ inv.toRoute with
        originPolicy := origins ▸ inv.originPolicy
        origin := ?_
        led := origins ▸ inv.led
        travelled := origins ▸ inv.travelled
        rested := nofun
        active := ?_ }, waiting _ ?_ ready.noPending ready.noError, ?_⟩
      · rcases inv.origin with ⟨none', -⟩ | known
        · exact absurd (found.symm.trans none') nofun
        · exact .inr (origins ▸ known)
      · intro after isAfter
        cases isAfter
        exact { inv.active active found with looked := fun _ owner => looked active owner found }
      · rintro ⟨after, isAfter, open'⟩
        cases isAfter
        cases open'
      · intro after isAfter
        cases isAfter
        exact inv.aimed active found

section

variable (same : Still start el) (noPending : start.pendingServerRedirect = none)
  (inv : Inv configured el)
include inv noPending same

theorem attemptFailed_post (ready : Ready el) (found : el.activeRedirect = some active)
    (open' : active.established = false) (looked : ∀ owner, active.srv ≠ some (.unresolved owner))
    (phase : Option ConnectFailurePhase) (terminal : Bool) (error : AttemptError) :
    Post configured start (el.attemptFailed ops active phase terminal error) := by
  unfold attemptFailed
  split
  · rename_i srvFailure
    cases srv : active.srv with
    | none => rw [srv] at srvFailure; cases srvFailure
    | some state =>
      cases state with
      | unresolved owner => exact absurd srv (looked owner)
      | resolved plan =>
        have planned : start.activeRedirect.bind (·.srv) = some (.resolved plan) := by
          rw [← same.activeRedirect, found]
          exact srv
        have tried : start.tried = plan.attempted := by
          unfold Redirecting.tried
          rw [planned]
        have position : start.position = plan.candidates.length + 2 := by
          unfold Redirecting.position
          rw [noPending, planned]
          rfl
        exact installNext_post ops (.inr rfl) inv.toRoute ready found srv open'
          (same.inProgress.mp ⟨_, found, open'⟩) same.redirectAttempts same.redirectVisited
          same.installed tried.symm (by omega) _ _
  · exact redirectFailure_post ops start inv.toRoute ready _ _

theorem attemptError_post (ready : Ready el)
    (looked : ∀ active owner, el.activeRedirect = some active →
      active.srv ≠ some (.unresolved owner))
    (phase : Option ConnectFailurePhase) (terminal : Bool) (error : AttemptError)
    (reported : PollError) :
    Post configured start (el.attemptError ops phase terminal error reported) := by
  unfold attemptError
  split
  · exact Post.error inv
  · rename_i active found
    split
    · exact Post.error inv
    · rename_i established
      have open' : active.established = false := by simpa using established
      exact attemptFailed_post ops same noPending inv ready found open'
        (fun owner => looked active owner found) phase terminal error

end

/-- A redirect failure is reported as it is: no redirect is active after it. -/
theorem attemptError_of_failure (outcome : RedirectOutcome) (failure : RedirectFailure)
    (route : Route configured el) (ready : Ready el) (phase : Option ConnectFailurePhase) (terminal : Bool)
    (error : AttemptError) (reported : PollError) :
    Post configured start ((el.redirectFailure ops outcome failure).2.attemptError ops phase terminal error
      reported) := by
  unfold attemptError
  rw [redirectFailure_activeRedirect]
  exact Post.error (redirectFailure_post ops start route ready outcome failure).inv

/-- **One attempt of `establish_connection`.** -/
theorem establishConnection_post (inv : Inv configured el) (ready : Ready el)
    (looked : ∀ active owner, el.activeRedirect = some active →
      active.srv ≠ some (.unresolved owner)) (answer : Answer addresses ι) :
    Post configured el (el.establishConnection ops parse answer) := by
  unfold establishConnection
  generalize loaded : ({ el with session := ops.attempt el.options answer.session el.session } :
    Redirecting addresses σ κ) = mid
  have same : Still el mid := by subst loaded; exact Still.besides el _ _ _ _ _ _
  have midReady : Ready mid := by subst loaded; exact ⟨ready.closed, ready.noError, ready.noPending⟩
  have midInv : Inv configured mid := inv.of_still same midReady.waiting
  have midLooked : ∀ active owner, mid.activeRedirect = some active →
      active.srv ≠ some (.unresolved owner) := by
    rw [same.activeRedirect]
    exact looked
  dsimp only
  split
  · exact ⟨midInv, same, fun _ => midReady.noPending.trans ready.noPending.symm⟩
  · rename_i assigned _
    obtain ⟨assignedInv, assignedReady, sameActive⟩ := assignClientId_inv midInv midReady assigned
    refine ⟨recordEstablishedRedirect_inv assignedInv assignedReady ?_, trivial⟩
    rw [sameActive]
    exact midLooked
  · exact attemptError_post ops same ready.noPending midInv midReady midLooked _ _ _ _
  · rename_i outcome eventsQueued answered
    split
    · have queued := Still.besides mid mid.session mid.connected (some (.handshakeEvents outcome))
        mid.pendingConnectionError mid.pendingRedirectShutdown mid.disconnectComplete
      refine ⟨midInv.of_still queued ?_, same.trans queued, fun _ => ⟨ready.noPending, rfl⟩⟩
      exact
        { midReady.waiting with
          atHandshake := fun _ pending waits => ⟨outcome, (Option.some.inj waits).symm⟩
          handshake := fun _ _ => midReady.closed
          checkpointed := fun _ _ => midReady.closed
          redirectError := fun _ failed => absurd (midReady.noError.symm.trans failed) nofun }
    · have handled : Handled ops mid outcome _ :=
        handleRedirectOutcome_handled ops parse outcome answer.redirect
      have post := handled.post ops same midInv midReady
      generalize mid.handleRedirectOutcome ops parse outcome answer.redirect = result at handled post ⊢
      cases handled with
      | ended error shutdown complete =>
        have unmoved := Still.besides mid mid.session mid.connected mid.pendingServerRedirect
          mid.pendingConnectionError shutdown complete
        exact attemptError_post ops (same.trans unmoved) ready.noPending post.inv
          ⟨midReady.closed, midReady.noError, midReady.noPending⟩ midLooked _ _ _ _
      | failed failure => exact attemptError_of_failure ops outcome failure midInv.toRoute midReady _ _ _ _
      | failedMarked failure =>
        exact attemptError_of_failure ops outcome failure midInv.toRoute.seeded midReady.seeded _ _ _ _
      | followed profile allowed new => exact post

/-! ### The established connection -/

theorem Still.cleaned : Still el (el.cleaned ops) := Still.besides el _ _ _ _ _ _

theorem cleaned_inv (inv : Inv configured el) : Inv configured (el.cleaned ops) :=
  inv.of_same (Still.cleaned ops) rfl rfl (fun _ => rfl)

/-- **`complete_server_redirect`**, which runs while no chain is under way. -/
theorem completeServerRedirect_post (same : Still start el)
    (rest : ¬ start.InProgress) (inv : Inv configured el) (noError : el.pendingConnectionError = none)
    (noPending : el.pendingServerRedirect = none) (outcome : RedirectOutcome)
    (cleanupRequired : Bool) (closed : cleanupRequired = false → el.connected = false)
    (answer : Answer addresses ι) :
    Post configured start (el.completeServerRedirect ops parse outcome cleanupRequired answer) := by
  unfold completeServerRedirect
  split
  · exact Post.error inv
  · dsimp only
    generalize swept : (if cleanupRequired = true then
      ({ el with pendingRedirectShutdown := el.pendingRedirectShutdown || answer.shutdown } :
        Redirecting addresses σ κ).cleaned ops
      else { el with pendingRedirectShutdown := el.pendingRedirectShutdown || answer.shutdown }) = mid
    have midSame : Still el mid := by
      subst swept
      split <;> exact Still.besides el _ _ _ _ _ _
    have ready : Ready mid := by
      subst swept
      split
      · exact ⟨rfl, noError, noPending⟩
      · rename_i uncleaned
        exact ⟨closed (by simpa using uncleaned), noError, noPending⟩
    have midInv : Inv configured mid := inv.of_still midSame ready.waiting
    have unmoved : Still start mid := same.trans midSame
    split
    · exact ⟨midInv, unmoved, fun progress => absurd progress rest⟩
    · refine Post.error ?_
      have midRest : ¬ mid.InProgress := fun progress => rest (unmoved.inProgress.mp progress)
      have put := midInv.putOff midRest (some (.checkpoint outcome)) mid.pendingConnectionError
        (fun _ _ => ready.closed) (fun _ _ => ready.closed)
        (fun _ failed => absurd (ready.noError.symm.trans failed) nofun)
      exact put
    · split
      · exact finishRedirectedShutdown_post start midInv
      · exact (handleRedirectOutcome_handled ops parse outcome answer.redirect).post ops unmoved midInv
          ready

/-- **The connection is lost.** -/
theorem connectionLost_post (same : Still start el)
    (rest : ¬ start.InProgress) (inv : Inv configured el) (noError : el.pendingConnectionError = none)
    (answer : Answer addresses ι) : Post configured start (el.connectionLost ops answer) := by
  have elRest : ¬ el.InProgress := fun progress => rest (same.inProgress.mp progress)
  unfold connectionLost
  split
  · rename_i outcome waits
    refine Post.error ?_
    have put := (cleaned_inv ops inv).putOff elRest (some (.checkpoint outcome))
      el.pendingConnectionError (fun _ _ => rfl) (fun _ _ => rfl)
      (fun _ failed => absurd (noError.symm.trans failed) nofun)
    exact put.of_same (Still.besides _ _ _ _ _ _ _) rfl rfl id
  · dsimp only
    split
    · exact ⟨cleaned_inv ops inv, same.trans (Still.cleaned ops), fun progress => absurd progress rest⟩
    · have swept := cleaned_inv ops inv
      split
      · exact Post.error (restoreRedirectOrigin_inv ops swept.toRoute swept.toWaiting)
      · exact Post.error swept

/-- **`handle_network_result`** of an error, outside of a chain. -/
theorem handleNetworkResult_post (same : Still start el)
    (rest : ¬ start.InProgress) (inv : Inv configured el) (noError : el.pendingConnectionError = none)
    (error : NetworkError)
    (noPending : ∀ outcome, error = .serverRedirect outcome → el.pendingServerRedirect = none)
    (drainFirst eventsQueued : Bool) (answer : Answer addresses ι) :
    Post configured start
      (el.handleNetworkResult ops parse error drainFirst eventsQueued answer) := by
  have elRest : ¬ el.InProgress := fun progress => rest (same.inProgress.mp progress)
  unfold handleNetworkResult
  split
  · refine ⟨?_, same.trans (Still.besides el _ _ _ _ _ _), fun progress => absurd progress rest⟩
    exact inv.putOff elRest el.pendingServerRedirect (some error) inv.handshake inv.checkpointed
      fun outcome failed => noPending outcome (Option.some.inj failed)
  · split
    · rename_i outcome
      split
      · refine ⟨?_, same.trans (Still.besides el _ _ _ _ _ _), fun progress => absurd progress rest⟩
        exact inv.putOff elRest (some (.drainEvents outcome)) el.pendingConnectionError
          (fun _ waits => by cases waits) (fun _ waits => by cases waits)
          (fun _ failed => absurd (noError.symm.trans failed) nofun)
      · exact completeServerRedirect_post ops parse same rest inv noError (noPending outcome rfl)
          outcome true (fun uncleaned => by cases uncleaned) answer
    · exact Post.error ((cleaned_inv ops inv).of_same (Still.besides _ _ _ _ _ _ _) rfl rfl id)
    · exact connectionLost_post ops same rest inv noError answer

/-! ### One step -/

section

variable (inv : Inv configured el)
include inv

/-- `establish_connection`, up to its next wait. -/
theorem connect_post (ready : Ready el) (answer : Answer addresses ι) :
    Post configured el (el.connect ops parse answer) := by
  unfold connect
  cases unresolved : el.unresolvedSrv with
  | some owned =>
    obtain ⟨active, owner⟩ := owned
    unfold unresolvedSrv at unresolved
    split at unresolved
    · cases unresolved
    · rename_i found
      split at unresolved
      · rename_i srv
        cases unresolved
        exact resolveActiveSrv_post ops inv ready found srv answer
      · cases unresolved
  | none =>
    refine establishConnection_post ops parse inv ready (fun active owner found srv => ?_) answer
    unfold unresolvedSrv at unresolved
    rw [found] at unresolved
    simp only [srv] at unresolved
    cases unresolved

/-- **`poll_once`** -/
theorem pollOnce_post (answer : Answer addresses ι) :
    Post configured el (el.pollOnce ops parse answer) := by
  unfold pollOnce
  split
  · exact Post.error inv
  · split
    · rename_i error failed
      have rest : ¬ el.InProgress := fun progress => absurd (failed.symm.trans (inv.noError progress)) nofun
      refine handleNetworkResult_post ops parse (Still.besides el _ _ _ _ _ _) rest inv.errorTaken rfl
        error ?_ false false answer
      rintro outcome rfl
      exact inv.redirectError outcome failed
    · rename_i noError
      have atRest : ∀ pending, el.pendingServerRedirect = some pending →
          (∀ outcome, pending ≠ .handshakeEvents outcome) → ¬ el.InProgress := by
        intro pending waits other progress
        obtain ⟨outcome, same⟩ := inv.atHandshake progress pending waits
        exact other outcome same
      split
      · rename_i outcome waits
        exact (handleRedirectOutcome_handled ops parse outcome answer.redirect).post ops
          (Still.besides el _ _ _ _ _ _) inv.taken ⟨inv.handshake outcome waits, noError, rfl⟩
      · rename_i outcome waits
        exact completeServerRedirect_post ops parse (Still.besides el _ _ _ _ _ _)
          (atRest _ waits nofun) inv.taken noError rfl outcome true (fun uncleaned => by cases uncleaned)
          answer
      · rename_i outcome waits
        exact completeServerRedirect_post ops parse (Still.besides el _ _ _ _ _ _)
          (atRest _ waits nofun) inv.taken noError rfl outcome false
          (fun _ => inv.checkpointed outcome waits) answer
      · rename_i noPending
        split
        · rename_i connected
          have rest : ¬ el.InProgress := fun progress =>
            absurd (connected.symm.trans (inv.unconnected progress)) nofun
          unfold select
          split
          · exact ⟨inv, rest⟩
          · exact handleNetworkResult_post ops parse Still.refl rest inv noError _
              (fun _ _ => noPending) _ _ answer
          · rename_i outcome drainFirst answered
            refine handleNetworkResult_post ops parse
              (Still.besides el _ _ (some (.drainEvents outcome)) _ _ _) rest ?_ noError .other (fun _ same => by cases same) _ _ answer
            exact inv.putOff rest (some (.drainEvents outcome)) el.pendingConnectionError
              (fun _ waits => by cases waits) (fun _ waits => by cases waits)
              (fun _ failed => absurd (noError.symm.trans failed) nofun)
        · rename_i unconnected
          split
          · exact Post.error (inv.of_same (Still.besides el _ _ _ _ _ _) rfl rfl id)
          · exact connect_post ops parse inv ⟨by simpa using unconnected, noError, noPending⟩ answer

/-- **`poll`** -/
theorem poll_post (answer : Answer addresses ι) :
    Post configured el (el.poll ops parse answer) := by
  have post := pollOnce_post ops parse inv answer
  unfold poll
  dsimp only
  split
  · rename_i ends
    cases outcome : (el.pollOnce ops parse answer).1 with
    | error error =>
      exact Post.error (post.inv.errorTaken.of_same (Still.besides _ _ _ _ _ _ _) rfl rfl fun _ => rfl)
    | _ => rw [outcome] at ends; cases ends
  · exact post

/-- **`EventLoop::clean`** -/
theorem clean_post : Post configured el (el.clean ops) := by
  have swept := cleaned_inv ops inv
  unfold clean
  dsimp only
  split
  · rename_i temporary
    have rest : ¬ el.InProgress := by
      rintro ⟨active, found, open'⟩
      have established : (some active).any (·.established) = true := found ▸ temporary
      rw [Option.any_some, open'] at established
      cases established
    have restored := restoreRedirectOrigin_inv ops swept.toRoute swept.toWaiting
    refine ⟨?_, rest⟩
    split
    · exact restored
    · have none' : ((el.cleaned ops).restoreRedirectOrigin ops).2.activeRedirect = none :=
        redirectFailure_activeRedirect ops ⟨.useAnotherServer, none, .connAck⟩ .disabled
      refine restored.putOff ?_ _ (some .other) restored.handshake restored.checkpointed
        (fun _ failed => by cases failed)
      exact fun ⟨_, found, _⟩ => absurd (none'.symm.trans found) nofun
  · exact ⟨swept, Still.cleaned ops, fun _ => rfl⟩

/-- **One step.** -/
theorem step_post (input : Input addresses ι) :
    Post configured el (el.step ops parse input) := by
  cases input with
  | poll answer => exact poll_post ops parse inv answer
  | clean => exact clean_post ops inv

end

/-! ### Whole runs -/

theorem run_inv (inv : Inv configured el) (inputs : List (Input addresses ι)) :
    Inv configured (el.run ops parse inputs) := by
  induction inputs generalizing el with
  | nil => exact inv
  | cons input rest ih => exact ih (step_post ops parse inv input).inv

theorem new_inv (options : MqttOptions) (session : σ) :
    Inv options ({ options, session } : Redirecting addresses σ κ) where
  toRoute := ⟨nodup_nil, Nat.zero_le _, rfl, rfl, .inl ⟨rfl, rfl⟩, rfl, rfl, ⟨rfl, rfl⟩, fun _ => rfl,
    fun _ found => by cases found⟩
  toWaiting := Ready.waiting ⟨rfl, rfl, rfl⟩
  aimed := fun _ found => by cases found

end Redirecting

namespace Outcome

/-- The chain has come nearer to its end. -/
def progresses : Outcome → Bool
  | .redirected _ => true
  | .resolved => true
  | .retried => true
  | .deferred => true
  | _ => false

/-- The step has done nothing for the chain. -/
def idles : Outcome → Bool
  | .cancelled => true
  | .cleaned => true
  | _ => false

/-- **The chain goes on.** -/
def continues (outcome : Outcome) : Bool := outcome.progresses || outcome.idles

/-- **The chain is over**: a connection is established, or an error returned. -/
def ends : Outcome → Bool
  | .established => true
  | .error _ => true
  | _ => false

/-- A redirect was followed. -/
def follows : Outcome → Bool
  | .redirected _ => true
  | _ => false

end Outcome

namespace Redirecting

variable {policy : Option Nat} {el start after : Redirecting addresses σ κ}

/-! ### Every chain ends -/

theorem position_pos (el : Redirecting addresses σ κ) : 1 ≤ el.position := by
  unfold position
  split
  · exact Nat.le_refl 1
  · split <;> omega

theorem Inv.position_le (inv : Inv configured el) : el.position ≤ maxSrvTargets + 2 := by
  unfold position
  split
  · omega
  · split
    · omega
    · rename_i plan resolved
      obtain ⟨active, found, srv⟩ := Option.bind_eq_some_iff.mp resolved
      have within := (inv.active active found).planned plan srv
      omega
    · omega

theorem Inv.rank_le (inv : Inv configured el) :
    el.rank configured ≤ (configured.redirectPolicy.getD 0 + 1) * (maxSrvTargets + 2) := by
  have hops : (configured.redirectPolicy.getD 0 - el.redirectAttempts) * (maxSrvTargets + 2) ≤
      configured.redirectPolicy.getD 0 * (maxSrvTargets + 2) := Nat.mul_le_mul_right _ (Nat.sub_le _ _)
  have here := inv.position_le
  unfold rank
  rw [Nat.add_mul, Nat.one_mul]
  omega

/-- A followed redirect uses a hop up. -/
theorem Followed.rank_lt (inv : Inv configured after)
    (followed : Followed el after) : after.rank configured < el.rank configured := by
  have limited := inv.limited
  have there := inv.position_le
  have here := position_pos el
  have attempts := followed.redirectAttempts
  have hops : configured.redirectPolicy.getD 0 - el.redirectAttempts =
      (configured.redirectPolicy.getD 0 - after.redirectAttempts) + 1 := by omega
  unfold rank
  rw [hops, Nat.add_mul, Nat.one_mul]
  omega

theorem rank_lt_of_position
    (attempts : after.redirectAttempts = el.redirectAttempts) (nearer : after.position < el.position) :
    after.rank configured < el.rank configured := by
  unfold rank
  rw [attempts]
  omega

/-- Putting a redirect off leaves the event queue. -/
theorem position_lt_of_deferred
    (before : el.pendingServerRedirect = none) (put : after.pendingServerRedirect.isSome = true) :
    after.position < el.position := by
  unfold position
  rw [if_pos put, before]
  simp only [Option.isSome_none, Bool.false_eq_true, if_false]
  split <;> omega

/-- **A step of a chain that is under way** ends it, brings it nearer to its end or leaves it. -/
theorem Post.descends {result : Outcome × Redirecting addresses σ κ} (post : Post configured el result)
    (progress : el.InProgress) :
    result.1.ends = true ∨
      result.1.progresses = true ∧ result.2.InProgress ∧ result.2.rank configured < el.rank configured ∨
      result.1.idles = true ∧ result.2.InProgress ∧ result.2.rank configured ≤ el.rank configured := by
  obtain ⟨outcome, after⟩ := result
  obtain ⟨inv, moved⟩ := post
  have idle : Still el after → after.pendingServerRedirect = el.pendingServerRedirect →
      after.InProgress ∧ after.rank configured ≤ el.rank configured := by
    intro same pending
    refine ⟨same.inProgress.mpr progress, Nat.le_of_eq ?_⟩
    unfold rank position
    rw [same.redirectAttempts, same.activeRedirect, pending]
  cases outcome with
  | redirected outcome =>
    have followed : Followed el after := moved
    exact .inr (.inl ⟨rfl, followed.inProgress, followed.rank_lt inv⟩)
  | resolved =>
    have installed : Installed el after := moved
    exact .inr (.inl ⟨rfl, installed.inProgress,
      rank_lt_of_position installed.redirectAttempts installed.position⟩)
  | retried =>
    have installed : Installed el after := moved
    exact .inr (.inl ⟨rfl, installed.inProgress,
      rank_lt_of_position installed.redirectAttempts installed.position⟩)
  | deferred =>
    obtain ⟨same, put⟩ := moved
    obtain ⟨before, put⟩ := put progress
    exact .inr (.inl ⟨rfl, same.inProgress.mpr progress,
      rank_lt_of_position same.redirectAttempts (position_lt_of_deferred before put)⟩)
  | cancelled => exact .inr (.inr ⟨rfl, idle moved.1 (moved.2 progress)⟩)
  | cleaned => exact .inr (.inr ⟨rfl, idle moved.1 (moved.2 progress)⟩)
  | left => exact absurd progress moved
  | delivered => exact absurd progress moved
  | established => exact .inl rfl
  | error error => exact .inl rfl
  | panicked => exact moved.elim

/-- **A step that goes on** follows a redirect, or installs the next target or leaves the redirect
state. -/
theorem Post.goesOn {result : Outcome × Redirecting addresses σ κ} (post : Post configured el result)
    (continues : result.1.continues = true) :
    result.1.follows = true ∧ Followed el result.2 ∨
      result.1.follows = false ∧ (Installed el result.2 ∨ Still el result.2) := by
  obtain ⟨outcome, after⟩ := result
  obtain ⟨-, moved⟩ := post
  cases outcome with
  | redirected reason => exact .inl ⟨rfl, moved⟩
  | resolved => exact .inr ⟨rfl, .inl moved⟩
  | retried => exact .inr ⟨rfl, .inl moved⟩
  | deferred => exact .inr ⟨rfl, .inr moved.1⟩
  | cancelled => exact .inr ⟨rfl, .inr moved.1⟩
  | cleaned => exact .inr ⟨rfl, .inr moved.1⟩
  | _ => cases continues

/-- **A chain that does not end takes at most `rank` steps.** -/
theorem chain_ends (inv : Inv configured el) (progress : el.InProgress)
    (chain : List (Input addresses ι))
    (long : el.rank configured < (el.outcomes ops parse chain).countP Outcome.progresses) :
    ∃ outcome ∈ el.outcomes ops parse chain, outcome.ends = true := by
  induction chain generalizing el with
  | nil => exact absurd long (Nat.not_lt_zero _)
  | cons input rest ih =>
    have post := step_post ops parse inv input
    simp only [outcomes, countP_cons] at long
    rcases post.descends progress with ends | ⟨-, goesOn, lower⟩ | ⟨idle, goesOn, lower⟩
    · exact ⟨_, mem_cons_self, ends⟩
    · have one : (if (el.step ops parse input).1.progresses = true then 1 else 0) ≤ 1 := by
        split <;> omega
      obtain ⟨outcome, found, ends⟩ := ih post.inv goesOn (by omega)
      exact ⟨outcome, mem_cons_of_mem _ found, ends⟩
    · have none' : (el.step ops parse input).1.progresses = false := by
        cases outcome : (el.step ops parse input).1 <;> rw [outcome] at idle <;>
          first | rfl | cases idle
      rw [none'] at long
      simp only [Bool.false_eq_true, if_false] at long
      obtain ⟨outcome, found, ends⟩ := ih post.inv goesOn (by omega)
      exact ⟨outcome, mem_cons_of_mem _ found, ends⟩

/-! ### What a chain visits -/

/-- How a chain got from where it started to where it is: the redirects it followed, and the targets it
installed, whose keys were visited one after another. -/
structure Trail (start : Redirecting addresses σ κ) (followed : Nat)
    (el : Redirecting addresses σ κ) : Prop where
  attempts : el.redirectAttempts = start.redirectAttempts + followed
  path : (followed = 0 ∧ Still start el) ∨
    (el.InProgress ∧ ∃ seeds keys targets, el.redirectVisited = seeds ++ keys ∧
      el.installed = start.installed ++ targets ∧
      targets.map (Target.key addresses) = keys.map some ∧ KeyIn addresses start.options seeds)

theorem Trail.still {followed : Nat}
    (trail : Trail start followed el) (same : Still el after) : Trail start followed after := by
  refine ⟨same.redirectAttempts.trans trail.attempts, ?_⟩
  rcases trail.path with ⟨none', unmoved⟩ | ⟨progress, path⟩
  · exact .inl ⟨none', unmoved.trans same⟩
  · refine .inr ⟨same.inProgress.mpr progress, ?_⟩
    rw [same.redirectVisited, same.installed]
    exact path

theorem Trail.installs {followed : Nat}
    (rest : ¬ start.InProgress) (trail : Trail start followed el) (installed : Installed el after) :
    Trail start followed after := by
  refine ⟨installed.redirectAttempts.trans trail.attempts, .inr ⟨installed.inProgress, ?_⟩⟩
  rcases trail.path with ⟨-, unmoved⟩ | ⟨-, seeds, keys, targets, visited, log, named, origin⟩
  · exact absurd (unmoved.inProgress.mp installed.began) rest
  · obtain ⟨key, target, visits, logs, ofTarget⟩ := installed.visited
    refine ⟨seeds, keys ++ [key], targets ++ [target], ?_, ?_, ?_, origin⟩
    · rw [visits, visited, append_assoc]
    · rw [logs, log, append_assoc]
    · rw [map_append, map_append, named, map_singleton, map_singleton, ofTarget]

theorem seeds_cases (el : Redirecting addresses σ κ) :
    el.seeds = el.redirectVisited ∨ el.redirectVisited = [] := by
  unfold seeds
  split
  · rename_i empty
    exact .inr (isEmpty_iff.mp empty)
  · exact .inl rfl

theorem Trail.follows {followed : Nat}
    (rest : ¬ start.InProgress) (inv : Inv configured el) (trail : Trail start followed el)
    (redirected : Followed el after) : Trail start (followed + 1) after := by
  refine ⟨?_, .inr ⟨redirected.inProgress, ?_⟩⟩
  · rw [redirected.redirectAttempts, trail.attempts, Nat.add_assoc]
  · obtain ⟨more, targets', visits, logs, ofTargets⟩ := redirected.visited
    rcases trail.path with ⟨-, unmoved⟩ | ⟨-, seeds, keys, targets, visited, log, named, origin⟩
    · -- the first redirect of the chain: the endpoint it comes from is marked
      refine ⟨_, more, targets', visits, by rw [logs, unmoved.installed], ofTargets, ?_⟩
      rw [← unmoved.options]
      refine inv.keyIn_seed fun active owner found => ?_
      refine (inv.active active found).looked ?_ owner
      cases established : active.established with
      | true => rfl
      | false => exact absurd (unmoved.inProgress.mp ⟨active, found, established⟩) rest
    · rcases seeds_cases el with same | empty
      · refine ⟨seeds, keys ++ more, targets ++ targets', ?_, ?_, ?_, origin⟩
        · rw [visits, same, visited, append_assoc]
        · rw [logs, log, append_assoc]
        · rw [map_append, map_append, named, ofTargets]
      · rw [visited] at empty
        obtain ⟨noSeeds, noKeys⟩ := append_eq_nil_iff.mp empty
        subst noSeeds noKeys
        have noTargets : targets = [] := map_eq_nil_iff.mp named
        subst noTargets
        refine ⟨_, more, targets', visits, by rw [logs, log, append_nil], ofTargets, ?_⟩
        exact fun key isKey => absurd (origin key isKey) not_mem_nil

/-- **Every chain leaves a trail.** -/
theorem chain_trail (rest : ¬ start.InProgress) {followed : Nat}
    (inv : Inv configured el) (trail : Trail start followed el) (chain : List (Input addresses ι))
    (continues : ∀ outcome ∈ el.outcomes ops parse chain, outcome.continues = true) :
    Trail start (followed + (el.outcomes ops parse chain).countP Outcome.follows)
      (el.run ops parse chain) := by
  induction chain generalizing el followed with
  | nil => exact trail
  | cons input inputs ih =>
    have post := step_post ops parse inv input
    have goesOn := continues _ mem_cons_self
    have later := fun outcome found => continues outcome (mem_cons_of_mem _ found)
    show Trail start (followed + ((el.step ops parse input).1 ::
      (el.step ops parse input).2.outcomes ops parse inputs).countP Outcome.follows)
      ((el.step ops parse input).2.run ops parse inputs)
    rw [countP_cons, Nat.add_comm (List.countP _ _), ← Nat.add_assoc]
    refine ih post.inv ?_ later
    rcases post.goesOn goesOn with ⟨follows, redirected⟩ | ⟨none', installed | same⟩
    · rw [follows]
      exact trail.follows rest inv redirected
    · rw [none']
      exact trail.installs rest installed
    · rw [none']
      exact trail.still same

/-- The keys along a trail, and that of its origin, are all different. -/
theorem Trail.distinct {followed : Nat}
    (trail : Trail start followed el) (distinct : el.redirectVisited.Nodup) :
    ∃ targets keys, el.installed = start.installed ++ targets ∧
      targets.map (Target.key addresses) = keys.map some ∧
      (start.currentRedirectEndpointKey.toList ++ keys).Nodup := by
  have single : ∀ key : Option Text, key.toList.Nodup := by
    intro key
    cases key with
    | none => exact nodup_nil
    | some key => exact nodup_singleton key
  rcases trail.path with ⟨-, unmoved⟩ | ⟨-, seeds, keys, targets, visited, log, named, origin⟩
  · exact ⟨[], [], by rw [unmoved.installed, append_nil], rfl, by simpa using single _⟩
  · refine ⟨targets, keys, log, named, ?_⟩
    rw [visited] at distinct
    obtain ⟨-, ofKeys, apart⟩ := nodup_append.mp distinct
    refine nodup_append.mpr ⟨single _, ofKeys, ?_⟩
    intro key isOrigin other isKey
    exact apart key (origin key (Option.mem_toList.mp isOrigin)) other isKey

/-! ### One hop -/

theorem Inv.tried_le (inv : Inv configured el) : el.tried ≤ maxSrvTargets := by
  unfold tried
  split
  · rename_i plan resolved
    obtain ⟨active, found, srv⟩ := Option.bind_eq_some_iff.mp resolved
    have within := (inv.active active found).planned plan srv
    omega
  · exact Nat.zero_le _

/-- **Within a hop, what is installed is counted by its plan.** -/
theorem hop_installed (inv : Inv configured el) (hop : List (Input addresses ι))
    (continues : ∀ outcome ∈ el.outcomes ops parse hop, outcome.continues = true)
    (one : (el.outcomes ops parse hop).countP Outcome.follows = 0) :
    (el.run ops parse hop).installed.length + el.tried =
      el.installed.length + (el.run ops parse hop).tried := by
  induction hop generalizing el with
  | nil => rfl
  | cons input inputs ih =>
    have post := step_post ops parse inv input
    have goesOn := continues _ mem_cons_self
    have later := fun outcome found => continues outcome (mem_cons_of_mem _ found)
    have none' : (el.step ops parse input).1.follows = false := by
      simpa using countP_eq_zero.mp one _ mem_cons_self
    have restNone : ((el.step ops parse input).2.outcomes ops parse inputs).countP Outcome.follows = 0 :=
      countP_eq_zero.mpr fun outcome found =>
        countP_eq_zero.mp one outcome (mem_cons_of_mem _ found)
    have rest := ih post.inv later restNone
    show ((el.step ops parse input).2.run ops parse inputs).installed.length + el.tried =
      el.installed.length + ((el.step ops parse input).2.run ops parse inputs).tried
    have moves : (el.step ops parse input).2.installed.length + el.tried =
        el.installed.length + (el.step ops parse input).2.tried := by
      rcases post.goesOn goesOn with ⟨follows, -⟩ | ⟨-, installed | same⟩
      · rw [follows] at none'
        cases none'
      · obtain ⟨key, target, -, logs, -⟩ := installed.visited
        rw [logs, installed.tried, length_append, length_singleton]
        omega
      · unfold tried
        rw [same.installed, same.activeRedirect]
    omega

end Redirecting

open Redirecting

/-- **Redirects are bounded and free of loops.** Take any state that the event loop reaches, with any
answers of servers, policy, resolver and store. The visited endpoints are all different. A chain is a
run whose steps go on. From a state in which none is under way, a chain follows at most as many
redirects as the policy allows, and each target that it installs has a key; these keys are all
different and none is that of the origin. Between two redirects at most `maxSrvTargets` targets are
installed. While a chain is under way, every step continues it or ends it with a connection or an
error, and only so many steps can continue it. -/
theorem redirects_bounded (options : MqttOptions) (session : σ)
    (history : List (Input addresses ι)) (el : Redirecting addresses σ κ)
    (reached : el = run ops parse { options, session } history) :
    el.redirectVisited.Nodup ∧
    (∀ chain : List (Input addresses ι),
      (∀ outcome ∈ el.outcomes ops parse chain, outcome.continues = true) →
      (¬ el.InProgress →
        (el.outcomes ops parse chain).countP Outcome.follows ≤ options.redirectPolicy.getD 0 ∧
        ∃ targets keys, (el.run ops parse chain).installed = el.installed ++ targets ∧
          targets.map (Target.key addresses) = keys.map some ∧
          (el.currentRedirectEndpointKey.toList ++ keys).Nodup) ∧
      ((el.outcomes ops parse chain).countP Outcome.follows = 0 →
        (el.run ops parse chain).installed.length ≤ el.installed.length + maxSrvTargets)) ∧
    (el.InProgress → (∀ input : Input addresses ι, (el.step ops parse input).1.continues = true ∨
        (el.step ops parse input).1.ends = true) ∧
      ∀ chain : List (Input addresses ι),
        (options.redirectPolicy.getD 0 + 1) * (maxSrvTargets + 2) <
          (el.outcomes ops parse chain).countP Outcome.progresses →
        ∃ outcome ∈ el.outcomes ops parse chain, outcome.ends = true) := by
  have inv : Inv options el := by
    rw [reached]
    exact run_inv ops parse (new_inv options session) history
  refine ⟨inv.distinct, ?_, ?_⟩
  · intro chain continues
    have after := run_inv ops parse inv chain
    refine ⟨fun rest => ?_, fun one => ?_⟩
    · have begins : Trail el 0 el := ⟨rfl, .inl ⟨rfl, Still.refl⟩⟩
      have trail := chain_trail ops parse rest inv begins chain continues
      refine ⟨?_, trail.distinct after.distinct⟩
      have attempts := trail.attempts
      have limited := after.limited
      omega
    · have counted := hop_installed ops parse inv chain continues one
      have few := after.tried_le
      omega
  · intro progress
    refine ⟨fun input => ?_, fun chain long => ?_⟩
    · rcases (step_post ops parse inv input).descends progress with ends | ⟨nearer, -⟩ | ⟨idle, -⟩
      · exact .inr ends
      · exact .inl (by rw [Outcome.continues, nearer, Bool.true_or])
      · exact .inl (by rw [Outcome.continues, idle, Bool.or_true])
    · exact chain_ends ops parse inv progress chain (Nat.lt_of_le_of_lt inv.rank_le long)

end Machine

/-! ### A chain of two redirects -/

open Redirecting

/-- No text is an IP address. -/
def namesOnly : Addresses := ⟨fun _ => none⟩

/-- A session that nothing happens to. -/
def idleSession : SessionOps Unit Unit Unit where
  originSession := fun _ _ => none
  reset := id
  markLoaded := id
  restore := fun _ _ session => (true, session)
  clean := id
  attempt := fun _ _ => id

/-- The server `b`. -/
def otherServer : RedirectReference := ⟨['b'], .authority ['b'] none, by decide⟩

/-- `b` over TCP, isolated. -/
def otherProfile : RedirectTargetProfile namesOnly where
  reference := otherServer
  target := .direct (.tcp ['b'] 1883)
  transport := .tcp
  built := by decide

/-- The service `s`, whose records are to be looked up. -/
def service : RedirectReference := ⟨['s'], .srv ['s'], by decide⟩

/-- `s` over TCP, isolated. -/
def serviceProfile : RedirectTargetProfile namesOnly where
  reference := service
  target := .srvPending ['s']
  transport := .tcp
  built := by decide

/-- A client of `a` that follows at most two redirects. -/
def clientOfA : MqttOptions :=
  { broker := .tcp ['a'] 1883, transport := .tcp, clientId := "c", redirectPolicy := some 2 }

/-- It starts at `a`. -/
def startOfA : Redirecting namesOnly Unit Unit := { options := clientOfA, session := () }

/-- Every Server Reference names `b` and `s`. -/
def alwaysOther : Option Text → Except RedirectReferenceError (List RedirectReference) :=
  fun _ => .ok [otherServer, service]

/-- The server `a` refuses the connection and the policy accepts `b`; `b` refuses it too and the policy
accepts `s`; the records of `s` name `c` and `d`; `c` cannot be reached. -/
def redirectedTwice : List (Input namesOnly Unit) :=
  [.poll { redirect := { decision := .ok (.follow otherProfile) }
           attempt := .redirect ⟨.useAnotherServer, some ['b'], .connAck⟩ false
           session := () },
    .poll { redirect := { decision := .ok (.follow serviceProfile) }
            attempt := .redirect ⟨.useAnotherServer, some ['s'], .connAck⟩ false
            session := () },
    .poll { redirect := { decision := .ok .reject }
            lookup := .records [⟨1, 0, 1883, ['c']⟩, ⟨2, 0, 1883, ['d']⟩]
            session := () },
    .poll { redirect := { decision := .ok .reject }
            attempt := .failed (some .transport) false 1
            session := () }]

theorem redirects_bounded_scenario : startOfA.outcomes idleSession alwaysOther redirectedTwice =
      [.redirected ⟨.useAnotherServer, some ['b'], .connAck⟩,
        .redirected ⟨.useAnotherServer, some ['s'], .connAck⟩, .resolved, .retried] ∧
    ¬ startOfA.InProgress ∧
    (∃ targets keys, (startOfA.run idleSession alwaysOther redirectedTwice).installed =
        startOfA.installed ++ targets ∧
      targets.map (Target.key namesOnly) = keys.map some ∧
      (startOfA.currentRedirectEndpointKey.toList ++ keys).Nodup) ∧
    (startOfA.run idleSession alwaysOther redirectedTwice).installed.length = 3 ∧
    (startOfA.run idleSession alwaysOther redirectedTwice).InProgress ∧
    ∀ input : Input namesOnly Unit,
      ((startOfA.run idleSession alwaysOther redirectedTwice).step idleSession alwaysOther
        input).1.continues = true ∨
      ((startOfA.run idleSession alwaysOther redirectedTwice).step idleSession alwaysOther
        input).1.ends = true := by
  have followed : startOfA.outcomes idleSession alwaysOther redirectedTwice =
      [.redirected ⟨.useAnotherServer, some ['b'], .connAck⟩,
        .redirected ⟨.useAnotherServer, some ['s'], .connAck⟩, .resolved, .retried] := by
    decide +kernel
  have rest : ¬ startOfA.InProgress := by
    rintro ⟨active, found, -⟩
    cases found
  have progress : (startOfA.run idleSession alwaysOther redirectedTwice).InProgress := ⟨_, rfl, rfl⟩
  refine ⟨followed, rest, ?_, by decide +kernel, progress, ?_⟩
  · have bounded := redirects_bounded idleSession alwaysOther clientOfA () [] startOfA rfl
    refine ((bounded.2.1 redirectedTwice ?_).1 rest).2
    intro outcome found
    rw [followed] at found
    revert outcome
    decide
  · exact ((redirects_bounded idleSession alwaysOther clientOfA () redirectedTwice
      (startOfA.run idleSession alwaysOther redirectedTwice) rfl).2.2 progress).1

end Rumqtt.V5
