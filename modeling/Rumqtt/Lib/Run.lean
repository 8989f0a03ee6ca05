/-
**Runs of a machine whose steps may panic.**

`runSteps` feeds inputs to a machine one after another; a panic ends the run. `Checked.Satisfies`
says what a run ends in: a state with a property, or a panic that is excused. An invariant of the
steps is an invariant of the runs (`runSteps_invariant`), also when the steps keep it only on inputs
that meet a condition (`Admissible.run_invariant`).
-/

import Rumqtt.Lib.Checked

namespace Rumqtt

variable {σ ι α : Type}
variable {excused : Panic → Prop} {post : α → Prop} {x : Checked α}

/-- A computation ends with a value that has the property, or with an excused panic. -/
def Checked.Satisfies (excused : Panic → Prop) (post : α → Prop) : Checked α → Prop
  | .ok a => post a
  | .error panic => excused panic

theorem Checked.Satisfies.mono {weaker : α → Prop}
    (satisfied : x.Satisfies excused post) (weaken : ∀ a, post a → weaker a) :
    x.Satisfies excused weaker := by
  cases x with
  | ok a => exact weaken a satisfied
  | error panic => exact satisfied

theorem Checked.Satisfies.and {post' : α → Prop}
    (first : x.Satisfies excused post) (second : x.Satisfies excused post') :
    x.Satisfies excused fun a => post a ∧ post' a := by
  cases x with
  | ok a => exact ⟨first, second⟩
  | error panic => exact first

theorem Checked.Satisfies.bind {β : Type}
    {last : β → Prop} {next : α → Checked β} (first : x.Satisfies excused post)
    (second : ∀ a, post a → (next a).Satisfies excused last) : (x >>= next).Satisfies excused last := by
  cases x with
  | ok a => exact second a first
  | error panic => exact first

/-- A computation that is known to end, by an observation of its value, has its property. -/
theorem Checked.Satisfies.observed {β : Type}
    (satisfied : x.Satisfies excused post) {observe : α → β} {b : β}
    (seen : x.map observe = .ok b) : ∃ a, x = .ok a ∧ observe a = b ∧ post a := by
  cases x with
  | ok a => exact ⟨a, rfl, Except.ok.inj seen, satisfied⟩
  | error panic => cases seen

section

variable (step : σ → ι → Checked σ) (s : σ)

/-- **A run**: the inputs in order, until one panics. -/
def runSteps (inputs : List ι) : Checked σ := inputs.foldlM step s

@[simp] theorem runSteps_nil : runSteps step s [] = .ok s := rfl

theorem runSteps_cons (input : ι) (rest : List ι) :
    runSteps step s (input :: rest) = step s input >>= (runSteps step · rest) := List.foldlM_cons

end

variable {step : σ → ι → Checked σ} {excused : Panic → Prop} {invariant : σ → Prop} {s : σ}

/-- **What every step keeps, every run keeps.** -/
theorem runSteps_invariant
    (keeps : ∀ s input, invariant s → (step s input).Satisfies excused invariant)
    (start : invariant s) (inputs : List ι) :
    (runSteps step s inputs).Satisfies excused invariant := by
  induction inputs generalizing s with
  | nil => exact start
  | cons input rest ih =>
    have kept := keeps s input start
    rw [runSteps_cons]
    cases ran : step s input with
    | error panic =>
      rw [ran] at kept
      exact kept
    | ok t =>
      rw [ran] at kept
      exact ih kept

/-! ### Runs under a condition -/

/-- **Every step of the run meets the condition** in the state it is taken from. -/
def Admissible (step : σ → ι → Checked σ) (allowed : σ → ι → Prop) : σ → List ι → Prop
  | _, [] => True
  | s, input :: rest => allowed s input ∧
    match step s input with
    | .ok t => Admissible step allowed t rest
    | .error _ => True

/-- A condition that can be decided is decided for a whole run. -/
def decideAdmissible (step : σ → ι → Checked σ) (allowed : σ → ι → Prop)
    [∀ s input, Decidable (allowed s input)] :
    (s : σ) → (inputs : List ι) → Decidable (Admissible step allowed s inputs)
  | _, [] => .isTrue trivial
  | s, input :: rest => by
    unfold Admissible
    cases step s input with
    | ok t =>
      have := decideAdmissible step allowed t rest
      exact inferInstance
    | error panic => exact inferInstance

instance {step : σ → ι → Checked σ} {allowed : σ → ι → Prop}
    [∀ s input, Decidable (allowed s input)] {s : σ} {inputs : List ι} :
    Decidable (Admissible step allowed s inputs) := decideAdmissible step allowed s inputs

/-- **What every admissible step keeps, every admissible run keeps.** -/
theorem Admissible.run_invariant {allowed : σ → ι → Prop} {inputs : List ι}
    (admissible : Admissible step allowed s inputs)
    (keeps : ∀ s input, allowed s input → invariant s → (step s input).Satisfies excused invariant)
    (start : invariant s) : (runSteps step s inputs).Satisfies excused invariant := by
  induction inputs generalizing s with
  | nil => exact start
  | cons input rest ih =>
    have kept := keeps s input admissible.1 start
    have later := admissible.2
    rw [runSteps_cons]
    cases ran : step s input with
    | error panic =>
      rw [ran] at kept
      exact kept
    | ok t =>
      rw [ran] at kept later
      exact ih later kept

end Rumqtt
