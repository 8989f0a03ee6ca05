/-
**The publish budget.**

A client may be given finite limits on its outstanding publishes and on the bytes they retain. A
`PublishReservation` counts against both until it is dropped; `PublishBudget` holds the counters.
Producers, the event loop and completions reserve and drop in any order, each under the mutex of the
budget: a `Ledger` is the budget with the reservations that are alive, and a run is any sequence of
its operations.

* `publish_budget_exact`: in every interleaving the counters are the number and the total of the live reservations, within
  the limits, and no subtraction underflows.
* `publishCharge` is what a publish is admitted under: the sum of its parts, where that is a `usize`
  (`publishCharge_eq`).
-/

import Mathlib.Algebra.BigOperators.Group.List.Lemmas
import Mathlib.Algebra.Order.BigOperators.Group.List
import Mathlib.Algebra.Order.Group.Nat
import Rumqtt.Lib.Cursor
import Rumqtt.Lib.Run
import Rumqtt.V5.SessionFormat

namespace Rumqtt.V5

open Handler Checked List

/-- A number, where it is a `usize`. -/
def toUsize (n : Nat) : Option Nat := if n ≤ usizeMax then some n else none

/-- `usize::checked_add` -/
def checkedAdd (a b : Nat) : Option Nat := toUsize (a + b)

/-- `usize::checked_mul` -/
def checkedMul (a b : Nat) : Option Nat := toUsize (a * b)

theorem toUsize_eq_some {n m : Nat} : toUsize n = some m ↔ n ≤ usizeMax ∧ n = m := by
  unfold toUsize
  split <;> simp [*]

theorem toUsize_of_le {n : Nat} (fits : n ≤ usizeMax) : toUsize n = some n := if_pos fits

/-- A sum of checked additions is the checked sum. -/
theorem toUsize_bind_foldlM (start : Nat) (costs : List Nat) :
    (toUsize start).bind (costs.foldlM checkedAdd) = toUsize (start + costs.sum) := by
  induction costs generalizing start with
  | nil =>
    rw [sum_nil, Nat.add_zero]
    cases toUsize start <;> rfl
  | cons cost rest ih =>
    rw [sum_cons, ← Nat.add_assoc, ← ih]
    unfold toUsize
    by_cases fits : start ≤ usizeMax
    · rw [if_pos fits, Option.bind_some, foldlM_cons]
      rfl
    · rw [if_neg fits, if_neg (by omega)]
      rfl

structure PublishBudgetLimits where
  maxOutstanding : Nat
  maxBytes : Nat
  maxOutstanding_le : maxOutstanding ≤ usizeMax
  maxBytes_le : maxBytes ≤ usizeMax

inductive PublishBudgetError where
  | recoveryPending
  | countExhausted
  | bytesExhausted
  | tooLarge
  deriving DecidableEq, Repr

/-- **The counters of a client**, `PublishBudgetSnapshot` under its mutex. -/
structure PublishBudget where
  outstanding : Nat
  retainedBytes : Nat
  limits : PublishBudgetLimits
  recoveryPending : Bool

/-- A reservation, owned by the completion handle of its publish. -/
structure PublishReservation where
  bytes : Nat
  deriving DecidableEq, Repr

namespace PublishBudget

def new (limits : PublishBudgetLimits) (recoveryPending : Bool) : PublishBudget :=
  ⟨0, 0, limits, recoveryPending⟩

def setRecoveryPending (b : PublishBudget) (pending : Bool) : PublishBudget :=
  { b with recoveryPending := pending }

/-- The counters with some more reservations. -/
def charge (count bytes : Nat) (b : PublishBudget) : Checked PublishBudget := do
  let outstanding ← Checked.add usizeMax b.outstanding count
  let retainedBytes ← Checked.add usizeMax b.retainedBytes bytes
  return { b with outstanding, retainedBytes }

def reserve (bytes : Nat) : Handler PublishBudgetError PublishBudget PublishReservation := do
  let b ← Handler.get
  if b.recoveryPending then fail .recoveryPending
  else if b.outstanding ≥ b.limits.maxOutstanding then fail .countExhausted
  else
    let free ← ofChecked (Checked.sub b.limits.maxBytes b.retainedBytes)
    if bytes > free then fail .bytesExhausted
    else
      zoomChecked id (fun _ b => b) (charge 1 bytes)
      return ⟨bytes⟩

/-- `reserve_replay`: all the costs, or none of them. -/
def reserveReplay (costs : List Nat) :
    Handler SessionRestoreError PublishBudget (List PublishReservation) := do
  let b ← Handler.get
  let places ← ofChecked (Checked.sub b.limits.maxOutstanding b.outstanding)
  if costs.length > places then fail .publishBudgetExceeded
  else match costs.foldlM checkedAdd 0 with
    | none => fail .publishBudgetExceeded
    | some bytes =>
      let free ← ofChecked (Checked.sub b.limits.maxBytes b.retainedBytes)
      if bytes > free then fail .publishBudgetExceeded
      else
        zoomChecked id (fun _ b => b) (charge costs.length bytes)
        return costs.map (⟨·⟩)

/-- `Drop` of a reservation; a rollback differs only in whom it wakes. -/
def release (reservation : PublishReservation) (b : PublishBudget) : Checked PublishBudget := do
  let outstanding ← Checked.sub b.outstanding 1
  let retainedBytes ← Checked.sub b.retainedBytes reservation.bytes
  return { b with outstanding, retainedBytes }

/-! ### What each operation does -/

/-- The counters stay within the limits. -/
structure Within (b : PublishBudget) : Prop where
  outstanding : b.outstanding ≤ b.limits.maxOutstanding
  retainedBytes : b.retainedBytes ≤ b.limits.maxBytes

/-- The counters after `count` more reservations of `bytes` bytes in all. -/
def charged (b : PublishBudget) (count bytes : Nat) : PublishBudget :=
  { b with outstanding := b.outstanding + count, retainedBytes := b.retainedBytes + bytes }

/-- There are places for `count` reservations of `bytes` bytes in all. -/
def Fits (b : PublishBudget) (count bytes : Nat) : Prop :=
  count ≤ b.limits.maxOutstanding - b.outstanding ∧ bytes ≤ b.limits.maxBytes - b.retainedBytes

variable {b : PublishBudget}

theorem Within.charge_ok (within : b.Within) {count bytes : Nat} (fits : b.Fits count bytes) :
    b.charge count bytes = .ok (b.charged count bytes) := by
  obtain ⟨outstanding, retained⟩ := within
  obtain ⟨places, free⟩ := fits
  have countLe := b.limits.maxOutstanding_le
  have bytesLe := b.limits.maxBytes_le
  unfold charge
  rw [add_ok (by omega), ok_bind, add_ok (by omega), ok_bind]
  rfl

theorem Within.run_charge (within : b.Within) {count bytes : Nat} (fits : b.Fits count bytes)
    {ε α : Type} (result : α) :
    (do
      zoomChecked id (fun _ b => b) (charge count bytes)
      return result : Handler ε PublishBudget α).run b = .ok (.ok result, b.charged count bytes) :=
  run_bind_ok (run_zoomChecked (within.charge_ok fits))

/-- **A reservation is refused and changes nothing, or fits and is counted.** -/
theorem Within.reserve_cases (within : b.Within) (bytes : Nat) :
    (∃ error, (reserve bytes).run b = .ok (.error error, b)) ∨
      b.Fits 1 bytes ∧ (reserve bytes).run b = .ok (.ok ⟨bytes⟩, b.charged 1 bytes) := by
  have free := sub_ok within.retainedBytes
  unfold reserve
  rw [run_get_bind]
  by_cases pending : b.recoveryPending = true
  · exact .inl ⟨.recoveryPending, by simp [pending]⟩
  · rw [if_neg pending]
    by_cases full : b.outstanding ≥ b.limits.maxOutstanding
    · exact .inl ⟨.countExhausted, by simp [full]⟩
    · rw [if_neg full, run_bind_ok (run_ofChecked free _)]
      by_cases large : bytes > b.limits.maxBytes - b.retainedBytes
      · exact .inl ⟨.bytesExhausted, by simp [large]⟩
      · have fits : b.Fits 1 bytes := ⟨by omega, Nat.le_of_not_lt large⟩
        rw [if_neg large]
        exact .inr ⟨fits, within.run_charge fits _⟩

/-- **Replay costs are reserved all together, exactly when they fit.** -/
theorem Within.reserveReplay_run (within : b.Within) (costs : List Nat) :
    (b.Fits costs.length costs.sum ∧ (reserveReplay costs).run b =
      .ok (.ok (costs.map (⟨·⟩)), b.charged costs.length costs.sum)) ∨
    (¬ b.Fits costs.length costs.sum ∧
      (reserveReplay costs).run b = .ok (.error .publishBudgetExceeded, b)) := by
  have places := sub_ok within.outstanding
  have free := sub_ok within.retainedBytes
  have bytesLe := b.limits.maxBytes_le
  unfold reserveReplay
  rw [run_get_bind, run_bind_ok (run_ofChecked places _)]
  by_cases many : costs.length > b.limits.maxOutstanding - b.outstanding
  · refine .inr ⟨fun fits => absurd fits.1 (Nat.not_le.mpr many), ?_⟩
    rw [if_pos many]
    rfl
  · have sum : costs.foldlM checkedAdd 0 = toUsize costs.sum := by
      have added := toUsize_bind_foldlM 0 costs
      rwa [Nat.zero_add] at added
    rw [if_neg many, sum]
    by_cases fits : costs.sum ≤ usizeMax
    · rw [toUsize_of_le fits]
      dsimp only
      rw [run_bind_ok (run_ofChecked free _)]
      by_cases large : costs.sum > b.limits.maxBytes - b.retainedBytes
      · refine .inr ⟨fun fits => absurd fits.2 (Nat.not_le.mpr large), ?_⟩
        rw [if_pos large]
        rfl
      · have fits : b.Fits costs.length costs.sum := ⟨Nat.le_of_not_lt many, Nat.le_of_not_lt large⟩
        rw [if_neg large]
        exact .inl ⟨fits, within.run_charge fits _⟩
    · have overflow : toUsize costs.sum = none := if_neg fits
      rw [overflow]
      refine .inr ⟨fun small => ?_, rfl⟩
      have := small.2
      omega

end PublishBudget

/-! ### Interleavings -/

/-- **A budget with its live reservations**, in the order they were made. -/
structure Ledger where
  budget : PublishBudget
  live : List PublishReservation

inductive BudgetOp where
  | reserve (bytes : Nat)
  | reserveReplay (costs : List Nat)
  /-- The reservation at a position is dropped. -/
  | drop (position : Nat)
  /-- The reservation at a position is rolled back. -/
  | rollback (position : Nat)
  | setRecoveryPending (pending : Bool)

namespace Ledger

def new (limits : PublishBudgetLimits) (recoveryPending : Bool) : Ledger :=
  ⟨.new limits recoveryPending, []⟩

def dropAt (l : Ledger) (position : Nat) : Checked Ledger :=
  match l.live[position]? with
  | none => return l
  | some reservation => do
    let budget ← l.budget.release reservation
    return ⟨budget, l.live.eraseIdx position⟩

/-- The ledger after an attempt to reserve. -/
def reserved {ε : Type} (l : Ledger) (attempt : Handler ε PublishBudget (List PublishReservation)) :
    Checked Ledger := do
  let (result, budget) ← attempt.run l.budget
  match result with
  | .ok reservations => return ⟨budget, l.live ++ reservations⟩
  | .error _ => return ⟨budget, l.live⟩

/-- **One operation.** -/
def step (l : Ledger) : BudgetOp → Checked Ledger
  | .reserve bytes => l.reserved do
      let reservation ← PublishBudget.reserve bytes
      return [reservation]
  | .reserveReplay costs => l.reserved (PublishBudget.reserveReplay costs)
  | .drop position => l.dropAt position
  | .rollback position => l.dropAt position
  | .setRecoveryPending pending => return { l with budget := l.budget.setRecoveryPending pending }

/-- The bytes of the live reservations. -/
def bytes (l : Ledger) : List Nat := l.live.map PublishReservation.bytes

/-- **The counters are those of the live reservations**, within the limits. -/
structure Accounted (limits : PublishBudgetLimits) (l : Ledger) : Prop where
  outstanding : l.budget.outstanding = l.live.length
  retainedBytes : l.budget.retainedBytes = l.bytes.sum
  count_le : l.live.length ≤ limits.maxOutstanding
  bytes_le : l.bytes.sum ≤ limits.maxBytes
  limits_eq : l.budget.limits = limits

variable {limits : PublishBudgetLimits} {l : Ledger}

theorem accounted_new (limits : PublishBudgetLimits) (recoveryPending : Bool) :
    (new limits recoveryPending).Accounted limits :=
  ⟨rfl, rfl, Nat.zero_le _, Nat.zero_le _, rfl⟩

namespace Accounted

theorem within (accounted : l.Accounted limits) : l.budget.Within := by
  refine ⟨?_, ?_⟩
  · rw [accounted.outstanding, accounted.limits_eq]
    exact accounted.count_le
  · rw [accounted.retainedBytes, accounted.limits_eq]
    exact accounted.bytes_le

/-- More reservations that fit into the limits are accounted for. -/
theorem charged (accounted : l.Accounted limits) {more : List PublishReservation} {size : Nat}
    (total : (more.map PublishReservation.bytes).sum = size) (fits : l.budget.Fits more.length size) :
    (⟨l.budget.charged more.length size, l.live ++ more⟩ : Ledger).Accounted limits := by
  subst total
  obtain ⟨places, free⟩ := fits
  obtain ⟨outstanding, retained, countLe, bytesLe, same⟩ := accounted
  rw [same] at places free
  have sum : (⟨l.budget.charged more.length (more.map PublishReservation.bytes).sum,
      l.live ++ more⟩ : Ledger).bytes.sum = l.bytes.sum + (more.map PublishReservation.bytes).sum := by
    simp only [Ledger.bytes, map_append, sum_append]
  refine ⟨?_, ?_, ?_, ?_, same⟩
  · show l.budget.outstanding + more.length = (l.live ++ more).length
    rw [length_append, outstanding]
  · rw [sum, ← retained]
    rfl
  · show (l.live ++ more).length ≤ _
    rw [length_append]
    omega
  · rw [sum]
    omega

/-- An attempt that is refused and changes nothing, or fits and is counted, is accounted for. -/
theorem reserved {ε : Type} (accounted : l.Accounted limits)
    {attempt : Handler ε PublishBudget (List PublishReservation)}
    (outcome : (∃ error, attempt.run l.budget = .ok (.error error, l.budget)) ∨
      ∃ (more : List PublishReservation) (size : Nat),
        (more.map PublishReservation.bytes).sum = size ∧ l.budget.Fits more.length size ∧
          attempt.run l.budget = .ok (.ok more, l.budget.charged more.length size)) :
    (l.reserved attempt).Satisfies (fun _ => False) (Accounted limits) := by
  rcases outcome with ⟨error, ran⟩ | ⟨more, size, total, fits, ran⟩
  · have kept : l.reserved attempt = .ok l := bind_ok.mpr ⟨_, ran, rfl⟩
    rw [kept]
    exact accounted
  · have grown : l.reserved attempt =
        .ok ⟨l.budget.charged more.length size, l.live ++ more⟩ := bind_ok.mpr ⟨_, ran, rfl⟩
    rw [grown]
    exact accounted.charged total fits

/-- **Dropping a live reservation does not underflow.** -/
theorem dropAt (accounted : l.Accounted limits) (position : Nat) :
    (l.dropAt position).Satisfies (fun _ => False) (Accounted limits) := by
  unfold Ledger.dropAt
  cases found : l.live[position]? with
  | none => exact accounted
  | some reservation =>
    obtain ⟨outstanding, retained, countLe, bytesLe, same⟩ := accounted
    have split := (getElem_cons_eraseIdx_perm
      (List.getElem?_eq_some_iff.mp found).1).symm
    rw [(List.getElem?_eq_some_iff.mp found).2] at split
    have count : l.live.length = (l.live.eraseIdx position).length + 1 := split.length_eq
    have sum : l.bytes.sum = reservation.bytes +
        ((l.live.eraseIdx position).map PublishReservation.bytes).sum := by
      rw [Ledger.bytes, (split.map PublishReservation.bytes).sum_eq]
      rfl
    dsimp only
    unfold PublishBudget.release
    rw [sub_ok (by omega), ok_bind, sub_ok (by omega), ok_bind]
    refine ⟨?_, ?_, ?_, ?_, same⟩
    · show l.budget.outstanding - 1 = (l.live.eraseIdx position).length
      omega
    · show l.budget.retainedBytes - reservation.bytes =
        ((l.live.eraseIdx position).map PublishReservation.bytes).sum
      omega
    · show (l.live.eraseIdx position).length ≤ _
      omega
    · show ((l.live.eraseIdx position).map PublishReservation.bytes).sum ≤ _
      omega

end Accounted

theorem accounted_step (l : Ledger) (op : BudgetOp) (accounted : l.Accounted limits) :
    (l.step op).Satisfies (fun _ => False) (Accounted limits) := by
  cases op with
  | reserve bytes =>
    refine accounted.reserved ?_
    rcases accounted.within.reserve_cases bytes with ⟨error, ran⟩ | ⟨fits, ran⟩
    · exact .inl ⟨error, run_bind_error ran⟩
    · exact .inr ⟨[⟨bytes⟩], bytes, rfl, fits, run_bind_ok ran⟩
  | reserveReplay costs =>
    refine accounted.reserved ?_
    rcases accounted.within.reserveReplay_run costs with ⟨fits, ran⟩ | ⟨-, ran⟩
    · refine .inr ⟨costs.map (⟨·⟩), costs.sum, ?_, ?_, ?_⟩
      · rw [map_map]
        exact congrArg List.sum (map_id costs)
      · rwa [length_map]
      · rwa [length_map]
    · exact .inl ⟨_, ran⟩
  | drop position => exact accounted.dropAt position
  | rollback position => exact accounted.dropAt position
  | setRecoveryPending pending => exact { accounted with }

end Ledger

/-- **The counters are exact in every interleaving** of reservations, of replays, of drops and of
recoveries: no counter overflows or underflows, they are the number and the total of the live
reservations, and both are within the limits. -/
theorem publish_budget_exact (limits : PublishBudgetLimits) (recoveryPending : Bool)
    (ops : List BudgetOp) :
    (runSteps Ledger.step (.new limits recoveryPending) ops).Satisfies (fun _ => False)
      (Ledger.Accounted limits) :=
  runSteps_invariant Ledger.accounted_step (Ledger.accounted_new limits recoveryPending) ops

/-! ### Charges -/

def dataCharge (topic payload : Nat) (responseTopic : Option String) (correlationData : Option Nat)
    (contentType : Option String) (userProperties : UserProperties)
    (subscriptionIdentifiers : Nat) : Option Nat := do
  let bytes ← checkedAdd topic payload
  let properties ← checkedMul userProperties.length userPropertyRecordSize
  let identifiers ← checkedMul subscriptionIdentifiers identifierRecordSize
  let bytes ← [(responseTopic.map String.utf8ByteSize).getD 0, correlationData.getD 0,
    (contentType.map String.utf8ByteSize).getD 0, properties, identifiers].foldlM checkedAdd bytes
  userProperties.foldlM (fun bytes property => do
    let bytes ← checkedAdd bytes property.1.utf8ByteSize
    checkedAdd bytes property.2.utf8ByteSize) bytes

/-- The charge under which a publish is admitted; without a topic it may be replayed under the longest
one. -/
def publishCharge (publish : Publish) : Option Nat :=
  let topic := if publish.topic.isEmpty then u16Max else publish.topic.length
  match publish.properties with
  | none => checkedAdd topic publish.payload.length
  | some p => dataCharge topic publish.payload.length p.responseTopic
      (p.correlationData.map List.length) p.contentType p.userProperties p.subscriptionIdentifiers.length

/-! ### The charge is a sum -/

/-- The bytes of the properties that are charged. -/
def propertiesSize (responseTopic : Option String) (correlationData : Option Nat)
    (contentType : Option String) (userProperties : UserProperties)
    (subscriptionIdentifiers : Nat) : Nat :=
  [(responseTopic.map String.utf8ByteSize).getD 0, correlationData.getD 0,
    (contentType.map String.utf8ByteSize).getD 0, userProperties.length * userPropertyRecordSize,
    subscriptionIdentifiers * identifierRecordSize].sum +
  (userProperties.flatMap fun property => [property.1.utf8ByteSize, property.2.utf8ByteSize]).sum

theorem foldlM_userProperties (userProperties : UserProperties) (start : Nat) :
    userProperties.foldlM (fun bytes property => do
      let bytes ← checkedAdd bytes property.1.utf8ByteSize
      checkedAdd bytes property.2.utf8ByteSize) start =
    (userProperties.flatMap fun property =>
      [property.1.utf8ByteSize, property.2.utf8ByteSize]).foldlM checkedAdd start := by
  induction userProperties generalizing start with
  | nil => rfl
  | cons property rest ih =>
    rw [foldlM_cons, flatMap_cons, foldlM_append]
    simp only [ih, foldlM_cons, foldlM_nil, bind_assoc, bind_pure]

theorem dataCharge_eq (topic payload : Nat) (responseTopic : Option String)
    (correlationData : Option Nat) (contentType : Option String) (userProperties : UserProperties)
    (subscriptionIdentifiers : Nat) :
    dataCharge topic payload responseTopic correlationData contentType userProperties
      subscriptionIdentifiers = toUsize (topic + (payload + propertiesSize responseTopic correlationData
        contentType userProperties subscriptionIdentifiers)) := by
  unfold dataCharge propertiesSize
  simp only [foldlM_userProperties]
  generalize (userProperties.flatMap fun property =>
    [property.1.utf8ByteSize, property.2.utf8ByteSize]) = texts
  by_cases products : userProperties.length * userPropertyRecordSize ≤ usizeMax ∧
      subscriptionIdentifiers * identifierRecordSize ≤ usizeMax
  · simp only [checkedMul, toUsize_of_le products.1, toUsize_of_le products.2, Option.bind_eq_bind,
      Option.bind_some]
    rw [← Nat.add_assoc, ← Nat.add_assoc, ← toUsize_bind_foldlM, ← toUsize_bind_foldlM,
      Option.bind_assoc]
    rfl
  · have large : ¬ topic + (payload + ([(responseTopic.map String.utf8ByteSize).getD 0,
        correlationData.getD 0, (contentType.map String.utf8ByteSize).getD 0,
        userProperties.length * userPropertyRecordSize, subscriptionIdentifiers * identifierRecordSize].sum +
        texts.sum)) ≤ usizeMax := by
      simp only [sum_cons, sum_nil]
      omega
    have overflow : toUsize _ = none := if_neg large
    rw [overflow]
    rcases not_and_or.mp products with many | many
    · have none : checkedMul userProperties.length userPropertyRecordSize = none := if_neg many
      rw [none]
      cases checkedAdd topic payload <;> rfl
    · have none : checkedMul subscriptionIdentifiers identifierRecordSize = none := if_neg many
      rw [none]
      cases checkedAdd topic payload <;> cases checkedMul userProperties.length userPropertyRecordSize <;> rfl

/-- **The bytes of a publish that do not depend on its topic.** -/
def publishSize (publish : Publish) : Nat :=
  publish.payload.length + publish.properties.elim 0 fun p =>
    propertiesSize p.responseTopic (p.correlationData.map List.length) p.contentType p.userProperties
      p.subscriptionIdentifiers.length

/-- The bytes charged for the topic. -/
def topicCharge (publish : Publish) : Nat :=
  if publish.topic.isEmpty then u16Max else publish.topic.length

theorem publishCharge_eq (publish : Publish) :
    publishCharge publish = toUsize (topicCharge publish + publishSize publish) := by
  unfold publishCharge publishSize
  cases publish.properties with
  | none => rfl
  | some p => exact dataCharge_eq ..

end Rumqtt.V5
