/-
**Checked computations: a value, or the panic that stopped the program.**

`Checked α` is the result of code that indexes vectors, calls `expect` or subtracts unsigned
counters. A panic is kept apart from the errors a function returns on purpose: those are values.

The rules below peel such a computation apart: `Checked.bind_ok` inverts a sequence that ended
without a panic, and the `simp` lemmas run one whose first step is known.
-/

namespace Rumqtt

/-- **How a program can stop**: an index past the end of a vector, a bit past the end of a bit
set, a failed `expect`, unsigned arithmetic out of range, or a shift by the width of the word. -/
inductive Panic where
  | indexOutOfBounds (index length : Nat)
  | bitOutOfBounds (bit length : Nat)
  | expectFailed (message : String)
  | subtractOverflow
  | addOverflow
  | shiftOverflow
  | unreachableCode (message : String)
  deriving DecidableEq, Repr

/-- **A sequence that ended without an error ran both its parts.** -/
theorem bind_eq_ok {ε α β : Type} {x : Except ε α} {f : α → Except ε β} {b : β} :
    (x >>= f) = .ok b ↔ ∃ a, x = .ok a ∧ f a = .ok b := by
  cases x with
  | error error =>
    exact ⟨(fun impossible => nomatch impossible), fun ⟨_, impossible, _⟩ => nomatch impossible⟩
  | ok a => exact ⟨fun ran => ⟨a, rfl, ran⟩, fun ⟨_, rfl, ran⟩ => ran⟩

/-- A result, or a panic. -/
abbrev Checked (α : Type) := Except Panic α

namespace Checked

variable {α β : Type}

@[simp] theorem ok_bind (a : α) (f : α → Checked β) : ((Except.ok a : Checked α) >>= f) = f a := rfl

@[simp] theorem error_bind (p : Panic) (f : α → Checked β) :
    ((Except.error p : Checked α) >>= f) = .error p := rfl

@[simp] theorem pure_eq (a : α) : (pure a : Checked α) = .ok a := rfl

/-- **A sequence that did not panic ran both its parts.** -/
theorem bind_ok {x : Checked α} {f : α → Checked β} {b : β} :
    (x >>= f) = .ok b ↔ ∃ a, x = .ok a ∧ f a = .ok b := bind_eq_ok

theorem map_ok {x : Checked α} {f : α → β} {b : β} :
    Except.map f x = .ok b ↔ ∃ a, x = .ok a ∧ f a = b := by
  cases x with
  | error p => simp [Except.map]
  | ok a => simp [Except.map]

/-- **A loop whose body changes nothing.** -/
theorem foldlM_unchanged {step : β → α → Checked β} {state : β} {items : List α}
    (still : ∀ item ∈ items, step state item = .ok state) :
    items.foldlM step state = .ok state := by
  induction items with
  | nil => rfl
  | cons item rest ih =>
    rw [List.foldlM_cons, still item List.mem_cons_self, ok_bind]
    exact ih fun other member => still other (List.mem_cons_of_mem item member)

theorem mapM_ok {step : α → Checked β} {value : α → β} {items : List α}
    (returns : ∀ item ∈ items, step item = .ok (value item)) :
    items.mapM step = .ok (items.map value) := by
  induction items with
  | nil => rfl
  | cons item rest ih =>
    rw [List.mapM_cons, returns item List.mem_cons_self, ok_bind,
      ih fun other member => returns other (List.mem_cons_of_mem item member)]
    rfl

/-- `Option::expect`. -/
def expect (message : String) : Option α → Checked α
  | some a => .ok a
  | none => .error (.expectFailed message)

@[simp] theorem expect_some (message : String) (a : α) : expect message (some a) = .ok a := rfl

/-- Unsigned subtraction, which panics below zero. -/
def sub (a b : Nat) : Checked Nat :=
  if b ≤ a then .ok (a - b) else .error .subtractOverflow

theorem sub_ok {a b : Nat} (enough : b ≤ a) : sub a b = .ok (a - b) := if_pos enough

/-- Addition in an unsigned type with the given largest value, which panics above it. -/
def add (largest a b : Nat) : Checked Nat :=
  if a + b ≤ largest then .ok (a + b) else .error .addOverflow

theorem add_ok {largest a b : Nat} (fits : a + b ≤ largest) : add largest a b = .ok (a + b) :=
  if_pos fits

end Checked

end Rumqtt
