/-
**The reconnect policy of the native wrappers.**

A `ReconnectState` decides when the driver of a client may try to connect again: retries are paid from
a budget, the delay grows from failure to failure up to a maximum, and a connection that stays up for
the stability interval resets both. The reset is made by whichever call looks at the clock next.

The state keeps a log of what it did, newest first; no function reads it. `Earned` says what each entry
owes to the ones before it.

* `capped_mul`: capping the delay after every failure is capping the power once;
* `ReconnectController.inv_step`: what the counters say is what the log says;
* `Inv.failed`, `Inv.started`: what the next failure and the next start do to the state;
* `reconnect_policy`: the law of all runs.

Durations and instants are nanoseconds. The largest instant depends on the platform and is arbitrary.
-/

import Mathlib.Algebra.Ring.Nat
import Mathlib.Data.List.Infix
import Mathlib.Order.Lattice
import Rumqtt.Lib.Run

namespace Rumqtt.Wrapper

/-! ### Time -/

/-- `Duration::MAX` -/
def durationMax : Nat := (2 ^ 64 - 1) * 1000000000 + 999999999

/-- **A duration** in nanoseconds. -/
structure Duration where
  nanos : Nat
  bounded : nanos ≤ durationMax
  deriving DecidableEq, Repr

namespace Duration

def zero : Duration := ⟨0, Nat.zero_le _⟩

protected def min (a b : Duration) : Duration := if a.nanos ≤ b.nanos then a else b

def saturatingMul (duration : Duration) (factor : UInt32) : Duration :=
  ⟨min (duration.nanos * factor.toNat) durationMax, Nat.min_le_right ..⟩

/-- `Duration::new` -/
def new (secs nanos : Nat) : Checked Duration :=
  if fits : secs * 1000000000 + nanos ≤ durationMax then .ok ⟨_, fits⟩
  else .error (.expectFailed "overflow in Duration::new")

theorem new_ok {secs nanos : Nat} (fits : secs * 1000000000 + nanos ≤ durationMax) :
    new secs nanos = .ok ⟨_, fits⟩ := dif_pos fits

@[simp] theorem nanos_min (a b : Duration) : (a.min b).nanos = min a.nanos b.nanos := by
  unfold Duration.min
  split <;> omega

end Duration

/-- `Instant::checked_add`, where instants end at the given one. -/
def checkedAdd (instantMax now : Nat) (duration : Duration) : Option Nat :=
  if now + duration.nanos ≤ instantMax then some (now + duration.nanos) else none

/-- `u64::saturating_add(1)` -/
def saturatingSucc (n : Nat) : Nat := min (n + 1) (2 ^ 64 - 1)

/-! ### The policy -/

inductive ReconnectJitter where
  | none
  | full
  deriving DecidableEq, Repr

inductive RetryBudget where
  | limited (limit : UInt64)
  | unlimited
  deriving DecidableEq, Repr

structure ReconnectConfig where
  initialDelay : Duration
  maximumDelay : Duration
  multiplier : UInt32
  jitter : ReconnectJitter
  budget : RetryBudget
  stabilityInterval : Duration
  deriving DecidableEq, Repr

inductive ReconnectPolicy where
  | legacy
  | classified (config : ReconnectConfig)
  deriving DecidableEq, Repr

inductive ReconnectPhase where
  | initial
  | attempting
  | connected
  | waiting
  | stopped
  deriving DecidableEq, Repr

inductive ReconnectStopReason where
  | none
  | shutdown
  | terminalFailure
  | exhausted
  deriving DecidableEq, Repr

/-- What the policy did, and when. -/
inductive ReconnectEvent where
  /-- A cycle after the first one was started. -/
  | retried
  | established (at_ : Nat)
  /-- The connection ended, or its recovery was abandoned. -/
  | ended
  /-- The budget and the delay were reset. -/
  | reset (at_ : Nat)
  /-- A failure was met with a delay, which the timer ends at the given instant. -/
  | failed (at_ : Nat) (delay : Duration) (due : Option Nat)
  deriving DecidableEq, Repr

/-- Why no cycle is started. -/
inductive StartError (ε : Type) where
  | stopped
  | exhausted (cyclesStarted retriesSinceReset : Nat) (lastFailure : Option ε)
  deriving DecidableEq, Repr

/-- **`State`**, with failures of a type `ε`. -/
structure ReconnectState (ε : Type) where
  policy : ReconnectPolicy
  phase : ReconnectPhase := .initial
  cycles : Nat := 0
  retries : Nat := 0
  resets : Nat := 0
  nextBase : Duration
  due : Option Nat := none
  stableAt : Option Nat := none
  last : Option ε := none
  stop : ReconnectStopReason := .none
  log : List ReconnectEvent := []

namespace ReconnectState

variable {ε : Type}

def new (policy : ReconnectPolicy) : ReconnectState ε where
  policy := policy
  nextBase := match policy with
    | .legacy => .zero
    | .classified config => config.initialDelay

section

variable (s : ReconnectState ε)

def refresh (now : Nat) : ReconnectState ε :=
  if s.stableAt.any (· ≤ now) then
    { s with
      stableAt := none
      retries := 0
      resets := saturatingSucc s.resets
      nextBase := match s.policy with
        | .legacy => s.nextBase
        | .classified config => config.initialDelay
      log := .reset now :: s.log }
  else s

/-- Whether the limited budget is used up. -/
def outOfBudget : Bool :=
  match s.policy with
  | .legacy => false
  | .classified config =>
    match config.budget with
    | .limited limit => decide (limit.toNat ≤ s.retries)
    | .unlimited => false

def checkBudget : Except (StartError ε) Unit × ReconnectState ε :=
  if s.cycles = 0 then (.ok (), s)
  else if s.outOfBudget then
    (.error (.exhausted s.cycles s.retries s.last),
      { s with stop := .exhausted, phase := .stopped, due := none })
  else (.ok (), s)

/-- A cycle is started; the first one is free. -/
def startCycle : ReconnectState ε :=
  { s with
    retries := if 0 < s.cycles then saturatingSucc s.retries else s.retries
    cycles := saturatingSucc s.cycles
    phase := .attempting
    due := none
    log := if 0 < s.cycles then .retried :: s.log else s.log }

/-- `start` once the stability has been looked at. -/
def startRefreshed : Except (StartError ε) Unit × ReconnectState ε :=
  if s.phase = .attempting ∨ s.phase = .connected then (.ok (), s)
  else if s.phase = .stopped then (.error .stopped, s)
  else match s.checkBudget with
    | (.error error, s) => (.error error, s)
    | (.ok (), s) => (.ok (), s.startCycle)

def start (now : Nat) : Except (StartError ε) Unit × ReconnectState ε :=
  (s.refresh now).startRefreshed

end

def connected (instantMax : Nat) (s : ReconnectState ε) (now : Nat) : ReconnectState ε :=
  { s with
    phase := .connected
    due := none
    stableAt := match s.policy with
      | .legacy => none
      | .classified config => checkedAdd instantMax now config.stabilityInterval
    log := .established now :: s.log : ReconnectState ε }.refresh now

def connectionEnded (s : ReconnectState ε) (now : Nat) : ReconnectState ε :=
  { s.refresh now with stableAt := none, log := .ended :: (s.refresh now).log }

/-- The sample that the controller draws up to a base, inclusive. -/
def sample (draw : Nat) (base : Duration) : Checked Duration := do
  let nanos := draw % (base.nanos + 1)
  let secs ← Checked.expect "sample is bounded by Duration"
    (if nanos / 1000000000 < 2 ^ 64 then some (nanos / 1000000000) else none)
  Duration.new secs (nanos % 1000000000)

def jittered (jitter : ReconnectJitter) (base : Duration) (draw : Nat) : Checked Duration :=
  match jitter with
  | .none => return base
  | .full => do return (← sample draw base).min base

/-- The failure is met with a delay. -/
def waitFor (instantMax : Nat) (s : ReconnectState ε) (now : Nat) (delay : Duration) :
    ReconnectState ε :=
  { s with
    due := checkedAdd instantMax now delay
    phase := .waiting
    log := .failed now delay (checkedAdd instantMax now delay) :: s.log }

/-- The base of the delay after the next failure. -/
def nextBaseAfter (config : ReconnectConfig) (base : Duration) : Duration :=
  (base.saturatingMul config.multiplier).min config.maximumDelay

section

variable (instantMax : Nat) (s : ReconnectState ε) (error : ε)

/-- `failed` once the connection has ended. -/
def failedEnded (now draw : Nat) :
    Checked (ReconnectState ε) :=
  match s.policy with
  | .legacy => return { s with last := some error }.waitFor instantMax now .zero
  | .classified config => do
    let delay ← jittered config.jitter (s.nextBase.min config.maximumDelay) draw
    return { s with
      last := some error
      nextBase := nextBaseAfter config (s.nextBase.min config.maximumDelay) }.waitFor instantMax
        now delay

def failed (now draw : Nat) :
    Checked (ReconnectState ε) := (s.connectionEnded now).failedEnded instantMax error now draw

end

/-- `Controller::abandoned`: no free cycle, and no credit for stability. -/
def abandoned (s : ReconnectState ε) : ReconnectState ε :=
  { s with phase := .waiting, stableAt := none, log := .ended :: s.log }

end ReconnectState

/-! ### Runs -/

/-- The controller with the clock it reads. -/
structure ReconnectController (ε : Type) where
  state : ReconnectState ε
  clock : Nat

inductive ReconnectOp (ε : Type) where
  | start
  | checkBudget
  | connected
  | connectionEnded
  /-- `draw` is what the random source yields. -/
  | failed (error : ε) (draw : Nat)
  | abandoned
  | refresh
  | advance (elapsed : Nat)

namespace ReconnectController

variable {ε : Type}

def new (policy : ReconnectPolicy) (clock : Nat) : ReconnectController ε := ⟨.new policy, clock⟩

def step (instantMax : Nat) (c : ReconnectController ε) :
    ReconnectOp ε → Checked (ReconnectController ε)
  | .start => return { c with state := (c.state.start c.clock).2 }
  | .checkBudget => return { c with state := c.state.checkBudget.2 }
  | .connected => return { c with state := c.state.connected instantMax c.clock }
  | .connectionEnded => return { c with state := c.state.connectionEnded c.clock }
  | .failed error draw => do
    return { c with state := ← c.state.failed instantMax error c.clock draw }
  | .abandoned => return { c with state := c.state.abandoned }
  | .refresh => return { c with state := c.state.refresh c.clock }
  | .advance elapsed => return { c with clock := min (c.clock + elapsed) instantMax }

end ReconnectController

/-! ### What the log has to say -/

/-- The retry cycles since the last reset. -/
def retriesSince : List ReconnectEvent → Nat
  | [] | .reset _ :: _ => 0
  | .retried :: earlier => retriesSince earlier + 1
  | _ :: earlier => retriesSince earlier

/-- The failures since the last reset. -/
def failuresSince : List ReconnectEvent → Nat
  | [] | .reset _ :: _ => 0
  | .failed .. :: earlier => failuresSince earlier + 1
  | _ :: earlier => failuresSince earlier

/-- Since when the connection has been up. -/
def upSince : List ReconnectEvent → Option Nat
  | [] | .ended :: _ => none
  | .established now :: _ => some now
  | _ :: earlier => upSince earlier

/-- The resets so far. -/
def resetsIn : List ReconnectEvent → Nat
  | [] => 0
  | .reset _ :: earlier => resetsIn earlier + 1
  | _ :: earlier => resetsIn earlier

/-- The delay before the jitter, after a number of failures. -/
def cappedDelay (config : ReconnectConfig) (failures : Nat) : Nat :=
  min config.maximumDelay.nanos (config.initialDelay.nanos * config.multiplier.toNat ^ failures)

/-- **What an entry owes to the earlier ones**: a retry is paid for, a reset was earned by a connection
that stayed up for the stability interval, and a delay is the capped power of the failures before it. -/
def Earned (instantMax : Nat) (config : ReconnectConfig) (earlier : List ReconnectEvent) :
    ReconnectEvent → Prop
  | .retried => ∀ limit, config.budget = .limited limit → retriesSince earlier < limit.toNat
  | .reset now => ∃ since, upSince earlier = some since ∧
      since + config.stabilityInterval.nanos ≤ now
  | .failed now delay due => due = checkedAdd instantMax now delay ∧
      delay.nanos ≤ cappedDelay config (failuresSince earlier) ∧
      (config.jitter = .none → delay.nanos = cappedDelay config (failuresSince earlier))
  | .established _ | .ended => True

/-- **Capping after every factor is capping the product once.** -/
theorem capped_mul (cap value factor : Nat) :
    min (min cap value * factor) cap = min cap (value * factor) := by
  rcases Nat.eq_zero_or_pos factor with rfl | positive
  · simp
  · rcases Nat.le_total value cap with small | large
    · rw [Nat.min_eq_right small, Nat.min_comm]
    · have grows : cap ≤ cap * factor := Nat.le_mul_of_pos_right cap positive
      have most : cap * factor ≤ value * factor := Nat.mul_le_mul_right factor large
      rw [Nat.min_eq_left large, Nat.min_eq_right grows, Nat.min_eq_left (grows.trans most)]

namespace ReconnectState

variable {ε : Type} {instantMax : Nat} {config : ReconnectConfig} {s : ReconnectState ε}

/-- **The invariant**: the log is lawful, and the counters and the deadline are those of the log. -/
structure Inv (instantMax : Nat) (config : ReconnectConfig) (s : ReconnectState ε) : Prop where
  policy : s.policy = .classified config
  earned : ∀ event earlier, event :: earlier <:+ s.log → Earned instantMax config earlier event
  retries : s.retries = min (retriesSince s.log) (2 ^ 64 - 1)
  resets : s.resets = min (resetsIn s.log) (2 ^ 64 - 1)
  budget : ∀ limit, config.budget = .limited limit → retriesSince s.log ≤ limit.toNat
  stable : ∀ deadline, s.stableAt = some deadline →
    ∃ since, upSince s.log = some since ∧ deadline = since + config.stabilityInterval.nanos
  base : min s.nextBase.nanos config.maximumDelay.nanos = cappedDelay config (failuresSince s.log)

theorem inv_new : (new (.classified config) : ReconnectState ε).Inv instantMax config where
  policy := rfl
  earned := by
    intro event earlier suffix
    cases List.suffix_nil.mp suffix
  retries := rfl
  resets := rfl
  budget := fun _ _ => Nat.zero_le _
  stable := by
    rintro deadline ⟨⟩
  base := by simp [new, cappedDelay, failuresSince, Nat.min_comm]

/-- One more entry, where it is earned. -/
theorem earned_cons {log : List ReconnectEvent} {event : ReconnectEvent}
    (earned : ∀ event earlier, event :: earlier <:+ log → Earned instantMax config earlier event)
    (last : Earned instantMax config log event) :
    ∀ other earlier, other :: earlier <:+ event :: log → Earned instantMax config earlier other := by
  intro other earlier suffix
  rcases List.suffix_cons_iff.mp suffix with same | older
  · cases same
    exact last
  · exact earned other earlier older

/-- **A reset is earned**: the deadline was set when the connection came up. -/
theorem Inv.refresh (inv : s.Inv instantMax config) (now : Nat) :
    (s.refresh now).Inv instantMax config := by
  unfold ReconnectState.refresh
  cases held : s.stableAt with
  | none => exact inv
  | some deadline =>
    by_cases passed : deadline ≤ now
    · obtain ⟨since, up, rfl⟩ := inv.stable deadline held
      rw [if_pos (by simpa using passed)]
      exact
        { policy := inv.policy
          earned := earned_cons inv.earned ⟨since, up, passed⟩
          retries := rfl
          resets := by
            simp only [saturatingSucc, inv.resets, resetsIn]
            omega
          budget := fun _ _ => Nat.zero_le _
          stable := by
            rintro deadline ⟨⟩
          base := by simp [inv.policy, cappedDelay, failuresSince, Nat.min_comm] }
    · rw [if_neg (by simpa using passed)]
      exact inv

/-- What a call may change besides: phase, timer, last failure and the reason to stop. -/
theorem Inv.of_same {t : ReconnectState ε} (inv : s.Inv instantMax config)
    (policy : t.policy = s.policy) (log : t.log = s.log) (retries : t.retries = s.retries)
    (resets : t.resets = s.resets) (stableAt : t.stableAt = s.stableAt) (nextBase : t.nextBase = s.nextBase) :
    t.Inv instantMax config where
  policy := policy.trans inv.policy
  earned := log ▸ inv.earned
  retries := by rw [retries, log, inv.retries]
  resets := by rw [resets, log, inv.resets]
  budget := log ▸ inv.budget
  stable := by rw [stableAt, log]; exact inv.stable
  base := by rw [nextBase, log, inv.base]

section

variable (inv : s.Inv instantMax config)
include inv

theorem Inv.checkBudget : s.checkBudget.2.Inv instantMax config := by
  unfold ReconnectState.checkBudget
  split
  · exact inv
  · split
    · exact inv.of_same rfl rfl rfl rfl rfl rfl
    · exact inv

/-- **A retry is paid for**: the budget has been checked. -/
theorem Inv.startCycle
    (affordable : s.cycles = 0 ∨ s.outOfBudget = false) : s.startCycle.Inv instantMax config := by
  unfold ReconnectState.startCycle
  by_cases first : s.cycles = 0
  · simp only [first, Nat.lt_irrefl, if_false]
    exact inv.of_same rfl rfl rfl rfl rfl rfl
  · have within : ∀ limit, config.budget = .limited limit → retriesSince s.log < limit.toNat := by
      intro limit limited
      have paid := affordable.resolve_left first
      rw [outOfBudget, inv.policy] at paid
      simp only [limited, decide_eq_false_iff_not, inv.retries] at paid
      have := limit.toNat_lt
      omega
    simp only [Nat.pos_of_ne_zero first, if_true]
    exact
      { policy := inv.policy
        earned := earned_cons inv.earned within
        retries := by
          simp only [saturatingSucc, inv.retries, retriesSince]
          omega
        resets := inv.resets
        budget := within
        stable := inv.stable
        base := inv.base }

theorem Inv.start (now : Nat) :
    (s.start now).2.Inv instantMax config := by
  have fresh := inv.refresh now
  unfold ReconnectState.start startRefreshed
  split
  · exact fresh
  · split
    · exact fresh
    · have checked := fresh.checkBudget
      unfold ReconnectState.checkBudget at checked ⊢
      split_ifs at checked ⊢ with first spent
      · exact fresh.startCycle (.inl first)
      · exact checked
      · exact fresh.startCycle (.inr (by simpa using spent))

theorem Inv.connected (now : Nat) :
    (s.connected instantMax now).Inv instantMax config := by
  refine Inv.refresh ?_ now
  exact
    { policy := inv.policy
      earned := earned_cons inv.earned trivial
      retries := inv.retries
      resets := inv.resets
      budget := inv.budget
      stable := by
        intro deadline set
        simp only [inv.policy, checkedAdd] at set
        split at set
        · cases set
          exact ⟨now, rfl, rfl⟩
        · cases set
      base := inv.base }

end

theorem Inv.ended {phase : ReconnectPhase} (inv : s.Inv instantMax config) :
    Inv instantMax config { s with phase, stableAt := none, log := .ended :: s.log } where
  policy := inv.policy
  earned := earned_cons inv.earned trivial
  retries := inv.retries
  resets := inv.resets
  budget := inv.budget
  stable := by
    rintro deadline ⟨⟩
  base := inv.base

/-- **The controller's sample does not overflow** and lies below its base. -/
theorem sample_ok (draw : Nat) (base : Duration) :
    ∃ delay, sample draw base = .ok delay ∧ delay.nanos ≤ base.nanos := by
  have small : draw % (base.nanos + 1) ≤ base.nanos := Nat.le_of_lt_succ (Nat.mod_lt _ (by omega))
  have bounded := base.bounded
  generalize sampled : draw % (base.nanos + 1) = nanos at small
  have whole : nanos / 1000000000 * 1000000000 + nanos % 1000000000 = nanos := Nat.div_add_mod' ..
  have fits : nanos / 1000000000 * 1000000000 + nanos % 1000000000 ≤ durationMax := by omega
  have seconds : nanos / 1000000000 < 2 ^ 64 := by
    simp only [durationMax] at bounded
    omega
  refine ⟨⟨_, fits⟩, ?_, whole.trans_le small⟩
  unfold sample
  rw [sampled]
  dsimp only
  rw [if_pos seconds, Checked.expect_some, Checked.ok_bind, Duration.new_ok fits]

theorem jittered_ok (jitter : ReconnectJitter) (base : Duration) (draw : Nat) :
    ∃ delay, jittered jitter base draw = .ok delay ∧ delay.nanos ≤ base.nanos ∧
      (jitter = .none → delay = base) := by
  cases jitter with
  | none => exact ⟨base, rfl, Nat.le_refl _, fun _ => rfl⟩
  | full =>
    obtain ⟨delay, drawn, -⟩ := sample_ok draw base
    refine ⟨delay.min base, ?_, by simp, by simp⟩
    rw [jittered, drawn, Checked.ok_bind]
    rfl

/-- **A failure is met with a delay**: the state waits for the timer, which ends behind a delay of at
most the capped power of the failures since the last reset, and of exactly that without jitter. -/
def Delayed (instantMax : Nat) (config : ReconnectConfig) (s : ReconnectState ε) (error : ε) (now : Nat)
    (t : ReconnectState ε) : Prop :=
  ∃ delay : Duration, t.due = checkedAdd instantMax now delay ∧ t.phase = .waiting ∧
    t.last = some error ∧ t.stableAt = none ∧ t.retries = (s.refresh now).retries ∧
    t.resets = (s.refresh now).resets ∧
    delay.nanos ≤ cappedDelay config (failuresSince (s.refresh now).log) ∧
    (config.jitter = .none → delay.nanos = cappedDelay config (failuresSince (s.refresh now).log)) ∧
    failuresSince t.log = failuresSince (s.refresh now).log + 1

/-- **A failure does not panic, and its delay is the capped power of the failures before it.** -/
theorem Inv.failed (inv : s.Inv instantMax config) (error : ε) (now draw : Nat) :
    ∃ t, s.failed instantMax error now draw = .ok t ∧ t.Inv instantMax config ∧
      Delayed instantMax config s error now t := by
  have since : failuresSince (s.connectionEnded now).log = failuresSince (s.refresh now).log := rfl
  have unstable : (s.connectionEnded now).stableAt = none := rfl
  have counters : (s.connectionEnded now).retries = (s.refresh now).retries ∧
    (s.connectionEnded now).resets = (s.refresh now).resets := ⟨rfl, rfl⟩
  have ended : (s.connectionEnded now).Inv instantMax config := (inv.refresh now).ended
  unfold ReconnectState.failed
  unfold Delayed
  rw [← since, ← counters.1, ← counters.2]
  generalize s.connectionEnded now = u at ended unstable
  have base : (u.nextBase.min config.maximumDelay).nanos =
      cappedDelay config (failuresSince u.log) := by rw [Duration.nanos_min, ended.base]
  obtain ⟨delay, drawn, most, exact_⟩ :=
    jittered_ok config.jitter (u.nextBase.min config.maximumDelay) draw
  have least : config.jitter = .none → delay.nanos = cappedDelay config (failuresSince u.log) :=
    fun plain => (congrArg Duration.nanos (exact_ plain)).trans base
  refine ⟨{ u with
    last := some error
    nextBase := nextBaseAfter config (u.nextBase.min config.maximumDelay) }.waitFor instantMax now
      delay, ?_, ?_, delay, rfl, rfl, rfl, unstable, rfl, rfl, base ▸ most, least, rfl⟩
  · rw [failedEnded, ended.policy]
    exact Checked.bind_ok.mpr ⟨delay, drawn, rfl⟩
  exact
    { policy := ended.policy
      earned := earned_cons ended.earned ⟨rfl, base ▸ most, least⟩
      retries := ended.retries
      resets := ended.resets
      budget := ended.budget
      stable := ended.stable
      base := by
        have cap := config.maximumDelay.bounded
        have grown := capped_mul config.maximumDelay.nanos
          (config.initialDelay.nanos * config.multiplier.toNat ^ failuresSince u.log)
          config.multiplier.toNat
        rw [Nat.mul_assoc, ← Nat.pow_succ] at grown
        simp only [waitFor, nextBaseAfter, Duration.nanos_min, Duration.saturatingMul, ended.base]
        show _ = min config.maximumDelay.nanos _
        rw [failuresSince, ← grown, ← cappedDelay]
        omega }

/-- The limited budget is used up by a number of retries. -/
def Spent (config : ReconnectConfig) (retries : Nat) : Prop :=
  ∃ limit, config.budget = .limited limit ∧ limit.toNat ≤ retries

/-- **What a start does**, once the stability has been looked at: nothing while a cycle is under way; it
is refused in a stopped state and, from the second cycle on, when the limited budget is used up, which
stops the state; else a cycle begins, and every one after the first is counted. -/
def Started (config : ReconnectConfig) (s : ReconnectState ε) (result : Except (StartError ε) Unit)
    (t : ReconnectState ε) : Prop :=
  match s.phase with
  | .attempting | .connected => result = .ok () ∧ t = s
  | .stopped => result = .error .stopped ∧ t = s
  | .initial | .waiting =>
    (s.cycles ≠ 0 ∧ Spent config s.retries →
      result = .error (.exhausted s.cycles s.retries s.last) ∧ t.phase = .stopped ∧
        t.stop = .exhausted ∧ t.due = none ∧ t.retries = s.retries ∧ t.log = s.log) ∧
    (s.cycles = 0 ∨ ¬ Spent config s.retries →
      result = .ok () ∧ t.phase = .attempting ∧ t.due = none ∧ t.cycles = saturatingSucc s.cycles ∧
        (s.cycles = 0 → t.retries = s.retries ∧ t.log = s.log) ∧
        (s.cycles ≠ 0 → t.retries = saturatingSucc s.retries ∧ t.log = .retried :: s.log))

theorem Inv.started (inv : s.Inv instantMax config) (now : Nat) :
    Started config (s.refresh now) (s.start now).1 (s.start now).2 := by
  have policy := (inv.refresh now).policy
  unfold ReconnectState.start
  generalize s.refresh now = u at policy
  have spent : Spent config u.retries ↔ u.outOfBudget = true := by
    rw [Spent, outOfBudget, policy]
    cases budget : config.budget <;> simp [budget]
  unfold Started startRefreshed ReconnectState.checkBudget
  cases u.phase with
  | attempting | connected | stopped => simp
  | initial | waiting =>
    rw [spent]
    by_cases first : u.cycles = 0
    · simp [first, ReconnectState.startCycle]
    · by_cases out : u.outOfBudget = true
      · simp [first, out]
      · simp [first, out, ReconnectState.startCycle, Nat.pos_of_ne_zero first]

/-- **A reset is made by the first call that finds the deadline passed**, and by no other. -/
theorem Inv.reset_iff (inv : s.Inv instantMax config) (now : Nat) :
    (∃ deadline, s.stableAt = some deadline ∧ deadline ≤ now ∧
      (∃ since, upSince s.log = some since ∧ deadline = since + config.stabilityInterval.nanos) ∧
      (s.refresh now).retries = 0 ∧ (s.refresh now).resets = saturatingSucc s.resets ∧
      (s.refresh now).stableAt = none ∧ (s.refresh now).log = .reset now :: s.log) ∨
    (∀ deadline, s.stableAt = some deadline → now < deadline) ∧ s.refresh now = s := by
  cases held : s.stableAt with
  | none => exact .inr ⟨by rintro _ ⟨⟩, by simp [ReconnectState.refresh, held]⟩
  | some deadline =>
    by_cases passed : deadline ≤ now
    · exact .inl ⟨deadline, rfl, passed, inv.stable deadline held, by
        simp [ReconnectState.refresh, held, passed]⟩
    · refine .inr ⟨?_, by simp [ReconnectState.refresh, held, passed]⟩
      rintro _ ⟨⟩
      exact Nat.lt_of_not_le passed

end ReconnectState

theorem ReconnectController.inv_step {ε : Type} {instantMax : Nat} {config : ReconnectConfig}
    (c : ReconnectController ε) (op : ReconnectOp ε) (inv : c.state.Inv instantMax config) :
    (c.step instantMax op).Satisfies (fun _ => False) fun after =>
      after.state.Inv instantMax config := by
  cases op with
  | start => exact inv.start c.clock
  | checkBudget => exact inv.checkBudget
  | connected => exact inv.connected c.clock
  | connectionEnded => exact (inv.refresh c.clock).ended
  | failed error draw =>
    obtain ⟨after, ran, kept, -⟩ := inv.failed error c.clock draw
    simp only [step, ran]
    exact kept
  | abandoned => exact inv.ended
  | refresh => exact inv.refresh c.clock
  | advance => exact inv

/-- **The reconnect policy.** For every classified policy and every run of calls and clock advances,
nothing overflows, and in the state that is reached:

* the counters of retries and resets are those of the history, and the retry cycles since the last reset
  are within the budget;
* every reset was earned by a connection that stayed up for the stability interval, and every delay is
  at most the capped power of the failures since the last reset, and equal to it without jitter;
* the next start is refused exactly when the budget is used up or the state is stopped;
* the next failure leaves the state waiting for such a delay;
* the next look at the clock resets the counters exactly when the deadline of a connection that has
  stayed up for the interval is past. -/
theorem reconnect_policy {ε : Type} (instantMax : Nat) (config : ReconnectConfig) (clock : Nat)
    (ops : List (ReconnectOp ε)) :
    (runSteps (ReconnectController.step instantMax) (.new (.classified config) clock) ops).Satisfies
      (fun _ => False) fun c =>
        (c.state.retries = min (retriesSince c.state.log) (2 ^ 64 - 1) ∧
          c.state.resets = min (resetsIn c.state.log) (2 ^ 64 - 1) ∧
          ∀ limit, config.budget = .limited limit →
            retriesSince c.state.log ≤ limit.toNat ∧ c.state.retries ≤ limit.toNat) ∧
        (∀ event earlier, event :: earlier <:+ c.state.log →
          Earned instantMax config earlier event) ∧
        ReconnectState.Started config (c.state.refresh c.clock) (c.state.start c.clock).1
          (c.state.start c.clock).2 ∧
        (∀ error draw, ∃ t, c.state.failed instantMax error c.clock draw = .ok t ∧
          ReconnectState.Delayed instantMax config c.state error c.clock t) ∧
        ((∃ deadline, c.state.stableAt = some deadline ∧ deadline ≤ c.clock ∧
            (∃ since, upSince c.state.log = some since ∧
              deadline = since + config.stabilityInterval.nanos) ∧
            (c.state.refresh c.clock).retries = 0 ∧
            (c.state.refresh c.clock).resets = saturatingSucc c.state.resets ∧
            (c.state.refresh c.clock).stableAt = none ∧
            (c.state.refresh c.clock).log = .reset c.clock :: c.state.log) ∨
          (∀ deadline, c.state.stableAt = some deadline → c.clock < deadline) ∧
            c.state.refresh c.clock = c.state) := by
  have kept : (runSteps (ReconnectController.step instantMax)
      (.new (.classified config) clock : ReconnectController ε) ops).Satisfies (fun _ => False)
        fun c => c.state.Inv instantMax config :=
    runSteps_invariant ReconnectController.inv_step ReconnectState.inv_new ops
  refine kept.mono fun c inv => ⟨⟨inv.retries, inv.resets, fun limit limited => ⟨inv.budget limit limited,
    ?_⟩⟩, inv.earned, inv.started c.clock, fun error draw => ?_, inv.reset_iff c.clock⟩
  · rw [inv.retries]
    exact (Nat.min_le_left ..).trans (inv.budget limit limited)
  · obtain ⟨t, ran, -, delayed⟩ := inv.failed error c.clock draw
    exact ⟨t, ran, delayed⟩

end Rumqtt.Wrapper
