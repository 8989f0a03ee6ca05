/-
**Handlers: methods that change their receiver, may return an error and may panic.**

`Handler ε σ α` is the type of a method with receiver state `σ`. An early return with an error keeps
the changes made before it, as in the source language; a panic keeps nothing.

* `run_bind_ok`, `run_bind_error` and `run_bind_panic` execute a handler symbolically.
* `Handler.Ensures h s post` is total correctness from the state `s`: the handler does not panic and
  its result and final state satisfy `post`. `Ensures.bind` chains it.
* `Handler.zoom` runs a handler of a component on the whole.
-/

import Rumqtt.Lib.Checked

namespace Rumqtt

/-- **A method on `σ`**: a result or an error with the new state, or a panic. -/
def Handler (ε σ α : Type) : Type := σ → Checked (Except ε α × σ)

namespace Handler

variable {ε σ τ α β : Type}

variable {first : Handler ε σ α} {next : α → Handler ε σ β} {s t : σ} {condition : Prop}
  [Decidable condition] {result : Except ε α} {inner : Handler ε τ α} {a : α} {part : σ → τ}
  {put : σ → τ → σ} {error : ε}

def run (handler : Handler ε σ α) (s : σ) : Checked (Except ε α × σ) := handler s

protected def bind (first : Handler ε σ α) (next : α → Handler ε σ β) : Handler ε σ β := fun s =>
  match first s with
  | .error panic => .error panic
  | .ok (.error error, t) => .ok (.error error, t)
  | .ok (.ok a, t) => next a t

instance : Monad (Handler ε σ) where
  pure a := fun s => .ok (.ok a, s)
  bind := Handler.bind

def get : Handler ε σ σ := fun s => .ok (.ok s, s)

def modify (update : σ → σ) : Handler ε σ Unit := fun s => .ok (.ok (), update s)

/-- An early return with an error. -/
def fail (error : ε) : Handler ε σ α := fun s => .ok (.error error, s)

/-- The `?` operator on a result that does not touch the state. -/
def ofExcept : Except ε α → Handler ε σ α
  | .ok a => pure a
  | .error error => fail error

/-- A value whose computation may panic. -/
def ofChecked (value : Checked α) : Handler ε σ α := fun s =>
  match value with
  | .ok a => .ok (.ok a, s)
  | .error panic => .error panic

/-- An early return with an error when a condition holds. -/
def failIf (condition : Prop) [Decidable condition] (error : ε) : Handler ε σ Unit :=
  if condition then fail error else pure ()

/-- A method of a value that is given up afterwards, called in the middle of another method. -/
def on (value : τ) (inner : Handler ε τ α) : Handler ε σ α := fun s =>
  match inner value with
  | .ok (result, _) => .ok (result, s)
  | .error panic => .error panic

/-- A method of a component, run on the whole. -/
def zoom (part : σ → τ) (put : σ → τ → σ) (inner : Handler ε τ α) : Handler ε σ α := fun s =>
  match inner (part s) with
  | .ok (result, t) => .ok (result, put s t)
  | .error panic => .error panic

/-- An update of a component that may panic, on the whole. -/
def zoomChecked (part : σ → τ) (put : σ → τ → σ) (update : τ → Checked τ) : Handler ε σ Unit := fun s =>
  match update (part s) with
  | .ok t => .ok (.ok (), put s t)
  | .error panic => .error panic

/-! ### Symbolic execution -/

@[simp] theorem run_pure (a : α) (s : σ) : (pure a : Handler ε σ α).run s = .ok (.ok a, s) := rfl

@[simp] theorem run_get (s : σ) : (get : Handler ε σ σ).run s = .ok (.ok s, s) := rfl

@[simp] theorem run_modify (update : σ → σ) (s : σ) :
    (modify update : Handler ε σ Unit).run s = .ok (.ok (), update s) := rfl

@[simp] theorem run_fail (error : ε) (s : σ) :
    (fail error : Handler ε σ α).run s = .ok (.error error, s) := rfl

@[simp] theorem run_ofExcept_ok (a : α) (s : σ) :
    (ofExcept (.ok a) : Handler ε σ α).run s = .ok (.ok a, s) := rfl

@[simp] theorem run_ofExcept_error (error : ε) (s : σ) :
    (ofExcept (.error error) : Handler ε σ α).run s = .ok (.error error, s) := rfl

theorem run_passed (passed : result = .ok a) (s : σ) :
    (ofExcept result : Handler ε σ α).run s = .ok (.ok a, s) := passed ▸ run_ofExcept_ok a s

theorem run_refused (refused : result = .error error) (s : σ) :
    (ofExcept result : Handler ε σ α).run s = .ok (.error error, s) := refused ▸ run_ofExcept_error error s

theorem run_bind_ok (ran : first.run s = .ok (.ok a, t)) : (first >>= next).run s = (next a).run t := by
  show Handler.bind first next s = _
  unfold Handler.bind
  rw [show first s = .ok (.ok a, t) from ran]
  rfl

theorem run_bind_error (ran : first.run s = .ok (.error error, t)) :
    (first >>= next).run s = .ok (.error error, t) := by
  show Handler.bind first next s = _
  unfold Handler.bind
  rw [show first s = .ok (.error error, t) from ran]

theorem run_bind_panic {panic : Panic}
    (ran : first.run s = .error panic) : (first >>= next).run s = .error panic := by
  show Handler.bind first next s = _
  unfold Handler.bind
  rw [show first s = .error panic from ran]

/-- A handler has one outcome: what is known of it holds for the error it ended with. -/
theorem of_failed {post : Except ε α → σ → Prop}
    (answers : ∃ result u, first.run s = .ok (result, u) ∧ post result u)
    (failed : first.run s = .ok (.error error, t)) : post (.error error) t := by
  obtain ⟨result, u, ran, holds⟩ := answers
  obtain ⟨rfl, rfl⟩ := Prod.mk.inj (Except.ok.inj (ran.symm.trans failed))
  exact holds

/-- A sequence that succeeds is a success of both of its parts. -/
theorem of_run_bind {u : σ} {b : β} (ran : (first >>= next).run s = .ok (.ok b, u)) :
    ∃ a t, first.run s = .ok (.ok a, t) ∧ (next a).run t = .ok (.ok b, u) := by
  cases head : first.run s with
  | error panic =>
    rw [run_bind_panic head] at ran
    cases ran
  | ok ended =>
    obtain ⟨result, t⟩ := ended
    cases result with
    | error error =>
      rw [run_bind_error head] at ran
      cases ran
    | ok a => exact ⟨a, t, rfl, (run_bind_ok head).symm.trans ran⟩

theorem of_run_failIf (ran : (failIf condition error : Handler ε σ Unit).run s = .ok (.ok (), t)) :
    ¬ condition ∧ s = t := by
  by_cases holds : condition
  · unfold failIf at ran
    rw [if_pos holds] at ran
    cases ran
  · unfold failIf at ran
    rw [if_neg holds] at ran
    cases ran
    exact ⟨holds, rfl⟩

theorem of_run_ofExcept
    (ran : (ofExcept result : Handler ε σ α).run s = .ok (.ok a, t)) : result = .ok a ∧ s = t := by
  cases result with
  | error error => cases ran
  | ok found =>
    cases ran
    exact ⟨rfl, rfl⟩

@[simp] theorem run_get_bind (next : σ → Handler ε σ β) (s : σ) :
    (get >>= next).run s = (next s).run s := rfl

@[simp] theorem run_modify_bind (update : σ → σ) (next : Unit → Handler ε σ β) (s : σ) :
    (modify update >>= next).run s = (next ()).run (update s) := rfl

@[simp] theorem run_pure_bind (a : α) (next : α → Handler ε σ β) (s : σ) :
    ((pure a : Handler ε σ α) >>= next).run s = (next a).run s := rfl

@[simp] theorem run_fail_bind (error : ε) (next : α → Handler ε σ β) (s : σ) :
    ((fail error : Handler ε σ α) >>= next).run s = .ok (.error error, s) := rfl

@[simp] theorem run_ite (condition : Prop) [Decidable condition] (yes no : Handler ε σ α) (s : σ) :
    (if condition then yes else no).run s = if condition then yes.run s else no.run s := by
  split <;> rfl

theorem run_ofChecked {value : Checked α} (ran : value = .ok a) (s : σ) :
    (ofChecked value : Handler ε σ α).run s = .ok (.ok a, s) := by
  subst ran
  rfl

theorem run_failIf_neg (fine : ¬ condition) (error : ε)
    (s : σ) : (failIf condition error : Handler ε σ Unit).run s = .ok (.ok (), s) := by
  unfold failIf
  rw [if_neg fine]
  rfl

theorem run_failIf_pos (bad : condition) (error : ε)
    (s : σ) : (failIf condition error : Handler ε σ Unit).run s = .ok (.error error, s) := by
  unfold failIf
  rw [if_pos bad]
  rfl

theorem failIf_bind_neg (fine : ¬ condition) (error : ε)
    (next : Unit → Handler ε σ α) : (failIf condition error >>= next) = next () := by
  unfold failIf
  rw [if_neg fine]
  rfl

theorem run_on {value last : τ} (ran : inner.run value = .ok (result, last)) (s : σ) :
    (on value inner : Handler ε σ α).run s = .ok (result, s) := by
  show (match inner value with | .ok (result, _) => _ | .error panic => _) = _
  rw [show inner value = .ok (result, last) from ran]

theorem on_ofExcept_bind (value : τ) (result : Except ε α) (next : α → Handler ε τ β) :
    (on value (ofExcept result >>= next) : Handler ε σ β) =
      ofExcept result >>= fun a => on value (next a) := by
  cases result with
  | ok a => rfl
  | error error => rfl

theorem run_zoom {t : τ} (ran : inner.run (part s) = .ok (result, t)) :
    (zoom part put inner).run s = .ok (result, put s t) := by
  show (match inner (part s) with | .ok (result, t) => _ | .error panic => _) = _
  rw [show inner (part s) = .ok (result, t) from ran]

theorem run_zoomChecked {update : τ → Checked τ} {t : τ} (ran : update (part s) = .ok t) :
    (zoomChecked part put update : Handler ε σ Unit).run s = .ok (.ok (), put s t) := by
  show (match update (part s) with | .ok t => _ | .error panic => _) = _
  rw [ran]

/-! ### Total correctness -/

/-- **From this state the handler does not panic, and it ends as the postcondition says.** -/
def Ensures (handler : Handler ε σ α) (s : σ) (post : Except ε α → σ → Prop) : Prop :=
  ∃ result t, handler.run s = .ok (result, t) ∧ post result t

namespace Ensures

variable {post : Except ε β → σ → Prop} {s t : σ}

theorem mono {weaker : Except ε β → σ → Prop} {handler : Handler ε σ β}
    (ensured : handler.Ensures s post) (weaken : ∀ result t, post result t → weaker result t) :
    handler.Ensures s weaker := by
  obtain ⟨result, t, ran, holds⟩ := ensured
  exact ⟨result, t, ran, weaken result t holds⟩

/-- **The rule of sequence**: an error of the first part is the result of the whole. -/
theorem bind {middle : Except ε α → σ → Prop} (head : first.Ensures s middle)
    (tail : ∀ a t, middle (.ok a) t → (next a).Ensures t post)
    (aborted : ∀ error t, middle (.error error) t → post (.error error) t) :
    (first >>= next).Ensures s post := by
  obtain ⟨result, t, ran, holds⟩ := head
  cases result with
  | error error => exact ⟨.error error, t, run_bind_error ran, aborted error t holds⟩
  | ok a =>
    obtain ⟨result, u, rest, ends⟩ := tail a t holds
    exact ⟨result, u, (run_bind_ok ran).trans rest, ends⟩

end Ensures

end Handler

end Rumqtt
