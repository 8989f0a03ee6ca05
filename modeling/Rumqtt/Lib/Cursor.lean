/-
**Formats with a memory budget: a cursor that is charged, and a writer with a limit.**

A `BudgetReader` reads from a cursor over bytes and reserves memory for what it will own. A
`BoundedWriter` appends to a buffer; what would take the buffer past its limit is noted as `excess`
and nothing is written from then on.

* `Decodes reader piece cost a`: the reader takes exactly these bytes off the front, whatever follows,
  pays the cost and returns the value.
* `Scans reader post`: what a success says about the bytes that were taken and the memory that was
  paid.
* `Wrote writer post`: what a write without excess has appended.
* `Emits writer piece`: without a limit, the writer appends these bytes.

`Coded domain write read cost len` ties the four together: the reader takes back what the writer
appends, the writer writes what the reader took, and the value alone says what it costs and how many
bytes it has. It is proved of a record field by field (`Coded.field`, `Coded.last`).
-/

import Mathlib.Algebra.Ring.Nat
import Rumqtt.Lib.Buffer

namespace Rumqtt

open List

/-- `usize::MAX` on a 64-bit platform. -/
def usizeMax : Nat := 2 ^ 64 - 1

/-! ### Big-endian words -/

/-- The given number of bytes of a number, the most significant first. -/
def beBytes : Nat → Nat → Bytes
  | 0, _ => []
  | width + 1, n => UInt8.ofNat (n / 256 ^ width) :: beBytes width (n % 256 ^ width)

/-- The number that bytes spell, the most significant first. -/
def beNat : Bytes → Nat
  | [] => 0
  | byte :: rest => byte.toNat * 256 ^ rest.length + beNat rest

@[simp] theorem length_beBytes (width n : Nat) : (beBytes width n).length = width := by
  induction width generalizing n with
  | zero => rfl
  | succ width ih => rw [beBytes, length_cons, ih]

theorem beNat_lt (bytes : Bytes) : beNat bytes < 256 ^ bytes.length := by
  induction bytes with
  | nil => exact Nat.one_pos
  | cons byte rest ih =>
    have digit := byte.toNat_lt
    calc byte.toNat * 256 ^ rest.length + beNat rest
        < byte.toNat * 256 ^ rest.length + 256 ^ rest.length := by omega
      _ = (byte.toNat + 1) * 256 ^ rest.length := by rw [Nat.succ_mul]
      _ ≤ 256 * 256 ^ rest.length := Nat.mul_le_mul_right _ (by omega)
      _ = 256 ^ (rest.length + 1) := by rw [Nat.pow_succ, Nat.mul_comm]

theorem beNat_beBytes {width n : Nat} (small : n < 256 ^ width) : beNat (beBytes width n) = n := by
  induction width generalizing n with
  | zero =>
    rw [Nat.pow_zero] at small
    rw [beBytes, beNat]
    omega
  | succ width ih =>
    have positive : 0 < 256 ^ width := Nat.pow_pos (by decide)
    have digit : n / 256 ^ width < 256 := by
      rw [Nat.div_lt_iff_lt_mul positive, Nat.mul_comm, ← Nat.pow_succ]
      exact small
    rw [beBytes, beNat, toNat_ofNat_of_lt digit, length_beBytes, ih (Nat.mod_lt _ positive)]
    exact Nat.div_add_mod' n (256 ^ width)

theorem beBytes_beNat (bytes : Bytes) : beBytes bytes.length (beNat bytes) = bytes := by
  induction bytes with
  | nil => rfl
  | cons byte rest ih =>
    have positive : 0 < 256 ^ rest.length := Nat.pow_pos (by decide)
    have small := beNat_lt rest
    rw [length_cons, beBytes, beNat]
    rw [Nat.add_comm, Nat.add_mul_div_right _ _ positive, Nat.div_eq_of_lt small, Nat.zero_add,
      Nat.add_mul_mod_self_right, Nat.mod_eq_of_lt small, ih]
    rw [UInt8.ofNat_toNat]

/-! ### Reading -/

/-- A cursor over bytes, with the memory that may still be reserved. -/
structure Cursor where
  bytes : Bytes
  position : Nat
  memory : Nat

namespace Cursor

/-- The bytes ahead. -/
def unread (s : Cursor) : Bytes := s.bytes.drop s.position

/-- Some bytes are taken and some memory is paid. -/
def advance (s : Cursor) (count cost : Nat) : Cursor :=
  { s with position := s.position + count, memory := s.memory - cost }

/-- Positions are machine words. -/
structure Fits (s : Cursor) : Prop where
  inside : s.position ≤ s.bytes.length
  addressable : s.bytes.length ≤ usizeMax

theorem advance_advance (s : Cursor) (count cost count' cost' : Nat) :
    (s.advance count cost).advance count' cost' = s.advance (count + count') (cost + cost') := by
  simp only [advance, Nat.add_assoc, Nat.sub_sub]

theorem unread_advance {s : Cursor} {piece rest : Bytes} (ahead : s.unread = piece ++ rest)
    (cost : Nat) : (s.advance piece.length cost).unread = rest := by
  unfold unread advance
  rw [← drop_drop]
  show List.drop piece.length s.unread = rest
  rw [ahead, drop_left]

theorem length_unread (s : Cursor) : s.unread.length = s.bytes.length - s.position := length_drop

theorem Fits.advance {s : Cursor} (fits : s.Fits) {piece rest : Bytes}
    (ahead : s.unread = piece ++ rest) (cost : Nat) : (s.advance piece.length cost).Fits := by
  have lengths := congrArg List.length ahead
  rw [length_unread, length_append] at lengths
  have inside := fits.inside
  refine ⟨?_, fits.addressable⟩
  show s.position + piece.length ≤ s.bytes.length
  by_cases none' : piece.length = 0
  · omega
  · omega

end Cursor

/-- Code that reads under a budget. -/
abbrev BudgetReader (ε α : Type) := StateT Cursor (Except ε) α

section Readers

variable {ε α β : Type}

variable {read : BudgetReader ε α} {a : α} {b : β} {next : α → BudgetReader ε β} {condition : Prop}
  [Decidable condition] {piece more : Bytes} {error : ε}

namespace BudgetReader

/-- Fails. -/
def fail (error : ε) : BudgetReader ε α := fun _ => .error error

/-- Fails where the condition holds. -/
def failIf (condition : Prop) [Decidable condition] (error : ε) : BudgetReader ε Unit :=
  if condition then fail error else pure ()

/-- A result that takes nothing. -/
def accept (result : Except ε α) : BudgetReader ε α := fun s => result.map (·, s)

/-- The next bytes: `overflows` where the position leaves the machine words, `ends` where there are not
so many. -/
def take (count : Nat) (overflows ends : ε) : BudgetReader ε Bytes := fun s =>
  if usizeMax < s.position + count then .error overflows
  else if s.position + count ≤ s.bytes.length then
    .ok (s.unread.take count, { s with position := s.position + count })
  else .error ends

/-- Memory is set aside. -/
def reserve (cost : Nat) (exceeded : ε) : BudgetReader ε Unit := fun s =>
  if cost ≤ s.memory then .ok ((), { s with memory := s.memory - cost }) else .error exceeded

/-- How many bytes are ahead. -/
def remaining : BudgetReader ε Nat := fun s => .ok (s.bytes.length - s.position, s)

/-- The given number of values. -/
def items (read : BudgetReader ε α) : Nat → BudgetReader ε (List α)
  | 0 => pure []
  | count + 1 => do
    let value ← read
    let rest ← items read count
    return value :: rest

/-- A flag, then the value that the flag announces. -/
def optional (flag : BudgetReader ε Bool) (read : BudgetReader ε α) : BudgetReader ε (Option α) := do
  if ← flag then
    let value ← read
    return some value
  else
    return none

theorem run_bind_ok {s t : Cursor} (ran : read s = .ok (a, t)) : (read >>= next) s = next a t := by
  show (read s >>= fun result => next result.1 result.2) = _
  rw [ran]
  rfl

theorem of_run_bind {s u : Cursor}
    (ran : (read >>= next) s = .ok (b, u)) : ∃ a t, read s = .ok (a, t) ∧ next a t = .ok (b, u) := by
  change (read s >>= fun result => next result.1 result.2) = _ at ran
  cases first : read s with
  | error error => rw [first] at ran; cases ran
  | ok result =>
    rw [first] at ran
    exact ⟨result.1, result.2, rfl, ran⟩

end BudgetReader

open BudgetReader

/-- **The reader takes exactly these bytes, pays the cost and returns the value.** -/
def Decodes (read : BudgetReader ε α) (piece : Bytes) (cost : Nat) (a : α) : Prop :=
  ∀ s : Cursor, s.Fits → ∀ rest, s.unread = piece ++ rest → cost ≤ s.memory →
    read s = .ok (a, s.advance piece.length cost)

namespace Decodes

theorem pure (a : α) : Decodes (Pure.pure a : BudgetReader ε α) [] 0 a := fun _ _ _ _ _ => rfl

theorem bind {cost charge : Nat} (first : Decodes read piece cost a)
    (second : Decodes (next a) more charge b) :
    Decodes (read >>= next) (piece ++ more) (cost + charge) b := by
  intro s fits rest ahead enough
  rw [append_assoc] at ahead
  rw [run_bind_ok (first s fits _ ahead (by omega))]
  rw [second _ (fits.advance ahead cost) rest (Cursor.unread_advance ahead cost)
    (by show charge ≤ s.memory - cost; omega)]
  rw [Cursor.advance_advance, length_append]

/-- A step that takes nothing and pays nothing. -/
theorem skip {charge : Nat}
      (first : Decodes read [] 0 a) (second : Decodes (next a) more charge b) :
    Decodes (read >>= next) more charge b := by
  have both := first.bind second
  rwa [nil_append, Nat.zero_add] at both

theorem failIf (fine : ¬ condition) (error : ε) :
    Decodes (BudgetReader.failIf condition error) [] 0 () := by
  unfold BudgetReader.failIf
  rw [if_neg fine]
  exact .pure ()

theorem accept {result : Except ε α} (fine : result = .ok a) :
    Decodes (BudgetReader.accept result) [] 0 a := by
  subst fine
  exact fun _ _ _ _ _ => rfl

theorem take (piece : Bytes) (overflows ends : ε) :
    Decodes (BudgetReader.take piece.length overflows ends) piece 0 piece := by
  intro s fits rest ahead _
  have lengths := congrArg List.length ahead
  rw [Cursor.length_unread, length_append] at lengths
  have inside := fits.inside
  have addressable := fits.addressable
  have reach : s.position + piece.length ≤ s.bytes.length := by omega
  unfold BudgetReader.take
  rw [if_neg (by omega), if_pos reach, ahead, take_left]
  rfl

theorem reserve (cost : Nat) (exceeded : ε) :
    Decodes (BudgetReader.reserve cost exceeded) [] cost () := by
  intro s _ _ _ enough
  unfold BudgetReader.reserve
  rw [if_pos enough]
  rfl

/-- A check that there are enough bytes ahead. -/
theorem remaining {next : Nat → BudgetReader ε β} {cost : Nat}
    (second : ∀ ahead, piece.length ≤ ahead → Decodes (next ahead) piece cost b) :
    Decodes (BudgetReader.remaining >>= next) piece cost b := by
  intro s fits rest ahead enough
  have lengths := congrArg List.length ahead
  rw [Cursor.length_unread, length_append] at lengths
  exact second _ (by omega) s fits rest ahead enough

end Decodes

/-- **What a success says about the bytes that were taken and the memory that was paid.** -/
def Scans (read : BudgetReader ε α) (post : α → Bytes → Nat → Prop) : Prop :=
  ∀ s a t, read s = .ok (a, t) → ∃ piece cost, s.unread = piece ++ t.unread ∧
    t = s.advance piece.length cost ∧ cost ≤ s.memory ∧ post a piece cost

namespace Scans

variable {post : α → Bytes → Nat → Prop}

theorem pure (holds : post a [] 0) : Scans (Pure.pure a : BudgetReader ε α) post := by
  intro s _ _ ran
  cases ran
  exact ⟨[], 0, rfl, rfl, Nat.zero_le _, holds⟩

theorem fail (error : ε) : Scans (BudgetReader.fail error : BudgetReader ε α) post :=
  fun _ _ _ ran => by cases ran

theorem mono {weaker : α → Bytes → Nat → Prop} (scans : Scans read post)
    (weaken : ∀ a piece cost, post a piece cost → weaker a piece cost) : Scans read weaker := by
  intro s a t ran
  obtain ⟨piece, cost, ahead, after, paid, holds⟩ := scans s a t ran
  exact ⟨piece, cost, ahead, after, paid, weaken a piece cost holds⟩

theorem bind {last : β → Bytes → Nat → Prop} (first : Scans read post)
    (second : ∀ a piece cost, post a piece cost →
      Scans (next a) fun b more charge => last b (piece ++ more) (cost + charge)) :
    Scans (read >>= next) last := by
  intro s b u ran
  obtain ⟨a, t, here, there⟩ := of_run_bind ran
  obtain ⟨piece, cost, ahead, after, paid, holds⟩ := first s a t here
  obtain ⟨more, charge, ahead', after', paid', holds'⟩ := second a piece cost holds t b u there
  subst after
  have left : charge ≤ s.memory - cost := paid'
  refine ⟨piece ++ more, cost + charge, ?_, ?_, by omega, holds'⟩
  · rw [ahead, ahead', append_assoc]
  · rw [after', Cursor.advance_advance, length_append]

theorem passed (condition : Prop) [Decidable condition] (error : ε) :
    Scans (BudgetReader.failIf condition error) fun _ piece paid =>
      ¬ condition ∧ piece = [] ∧ paid = 0 := by
  unfold BudgetReader.failIf
  split
  · exact .fail error
  · rename_i fine
    exact .pure ⟨fine, rfl, rfl⟩

theorem accept {result : Except ε α} (holds : ∀ a, result = .ok a → post a [] 0) :
    Scans (BudgetReader.accept result) post := by
  intro s a t ran
  cases result with
  | error error => cases ran
  | ok found =>
    cases ran
    exact ⟨[], 0, rfl, rfl, Nat.zero_le _, holds a rfl⟩

theorem take (count : Nat) (overflows ends : ε) :
    Scans (BudgetReader.take count overflows ends) fun bytes piece cost =>
      bytes = piece ∧ piece.length = count ∧ cost = 0 := by
  intro s bytes t ran
  unfold BudgetReader.take at ran
  split at ran
  · cases ran
  · split at ran
    · rename_i reach
      cases ran
      have length : (s.unread.take count).length = count := by
        rw [length_take, Cursor.length_unread]
        omega
      refine ⟨s.unread.take count, 0, ?_, ?_, Nat.zero_le _, rfl, length, rfl⟩
      · show s.unread = s.unread.take count ++ s.bytes.drop (s.position + count)
        rw [← drop_drop]
        exact (take_append_drop count s.unread).symm
      · rw [length]
        rfl
    · cases ran

theorem reserve (cost : Nat) (exceeded : ε) :
    Scans (BudgetReader.reserve cost exceeded) fun _ piece paid => piece = [] ∧ paid = cost := by
  intro s _ t ran
  unfold BudgetReader.reserve at ran
  split at ran
  · rename_i enough
    cases ran
    exact ⟨[], cost, rfl, rfl, enough, rfl, rfl⟩
  · cases ran

theorem remaining : Scans (BudgetReader.remaining : BudgetReader ε Nat)
    fun _ piece cost => piece = [] ∧ cost = 0 := by
  intro s _ t ran
  cases ran
  exact ⟨[], 0, rfl, rfl, Nat.zero_le _, rfl, rfl⟩

end Scans

end Readers

/-! ### Writing -/

/-- A buffer with a limit. -/
structure Sink where
  bytes : Bytes
  limit : Nat
  excess : Option Nat

/-- Code that writes under a limit. -/
abbrev BoundedWriter (ε α : Type) := StateT Sink (Except ε) α

section Writers

variable {ε : Type}

variable {first second write next : BoundedWriter ε Unit} {condition : Prop} [Decidable condition]
  {piece : Bytes}

namespace BoundedWriter

/-- Fails where the condition holds. -/
def failIf (condition : Prop) [Decidable condition] (error : ε) : BoundedWriter ε Unit := fun s =>
  if condition then .error error else .ok ((), s)

/-- **Bytes at the end of the buffer**; what does not fit is noted, and nothing is written after it. -/
def append (value : Bytes) : BoundedWriter ε Unit := fun s =>
  let length := min (s.bytes.length + value.length) usizeMax
  if s.limit < length then .ok ((), { s with excess := some length })
  else if s.excess.isNone then .ok ((), { s with bytes := s.bytes ++ value })
  else .ok ((), s)

/-- Fails where something did not fit. -/
def stopOnExcess (error : Nat → ε) : BoundedWriter ε Unit := fun s =>
  match s.excess with
  | some length => .error (error length)
  | none => .ok ((), s)

/-- A writer for every value. -/
def each {α : Type} (write : α → BoundedWriter ε Unit) : List α → BoundedWriter ε Unit
  | [] => pure ()
  | value :: rest => do
    write value
    each write rest

/-- A flag, then the value where there is one. -/
def optional {α : Type} (flag : Bool → BoundedWriter ε Unit) (write : α → BoundedWriter ε Unit)
    (value : Option α) : BoundedWriter ε Unit := do
  flag value.isSome
  match value with
  | some value => write value
  | none => pure ()

theorem run_bind_ok {s t : Sink}
    (ran : first s = .ok ((), t)) : (first >>= fun _ => second) s = second t := by
  show (first s >>= fun result => second result.2) = _
  rw [ran]
  rfl

theorem of_run_bind {s u : Sink} (ran : (first >>= fun _ => second) s = .ok ((), u)) :
    ∃ t, first s = .ok ((), t) ∧ second t = .ok ((), u) := by
  change (first s >>= fun result => second result.2) = _ at ran
  cases here : first s with
  | error error => rw [here] at ran; cases ran
  | ok result =>
    rw [here] at ran
    exact ⟨result.2, rfl, ran⟩

end BoundedWriter

open BoundedWriter

/-- The limit is kept, where it is one. -/
def Sink.Within (s : Sink) : Prop := s.limit < usizeMax → s.bytes.length ≤ s.limit

/-- **What a write without excess has appended.** -/
def Wrote (write : BoundedWriter ε Unit) (post : Bytes → Prop) : Prop :=
  ∀ s t, write s = .ok ((), t) → t.excess = none →
    s.excess = none ∧ t.limit = s.limit ∧ (s.Within → t.Within) ∧
      ∃ piece, t.bytes = s.bytes ++ piece ∧ post piece

/-- **Without a limit, the writer appends these bytes.** -/
def Emits (write : BoundedWriter ε Unit) (piece : Bytes) : Prop :=
  ∀ s : Sink, s.excess = none → s.limit = usizeMax →
    write s = .ok ((), { s with bytes := s.bytes ++ piece })

namespace Wrote

variable {post : Bytes → Prop}

theorem pure (holds : post []) : Wrote (Pure.pure () : BoundedWriter ε Unit) post := by
  intro s t ran whole
  cases ran
  exact ⟨whole, rfl, id, [], (append_nil _).symm, holds⟩

theorem mono {weaker : Bytes → Prop} (wrote : Wrote write post)
    (weaken : ∀ piece, post piece → weaker piece) : Wrote write weaker := by
  intro s t ran whole
  obtain ⟨before, limit, within, piece, bytes, holds⟩ := wrote s t ran whole
  exact ⟨before, limit, within, piece, bytes, weaken piece holds⟩

theorem bind {last : Bytes → Prop} (here : Wrote first post) (there : Wrote second last) :
    Wrote (first >>= fun _ => second) fun piece =>
      ∃ start rest, piece = start ++ rest ∧ post start ∧ last rest := by
  intro s u ran whole
  obtain ⟨t, ran, ran'⟩ := of_run_bind ran
  obtain ⟨whole', limit', within', rest, bytes', holds'⟩ := there t u ran' whole
  obtain ⟨before, limit, within, start, bytes, holds⟩ := here s t ran whole'
  refine ⟨before, limit'.trans limit, fun inside => within' (within inside), start ++ rest, ?_,
    start, rest, rfl, holds, holds'⟩
  rw [bytes', bytes, append_assoc]

/-- A check in front of a writer. -/
theorem guarded {error : ε} (there : ¬ condition → Wrote next post) :
    Wrote (BoundedWriter.failIf condition error >>= fun _ => next) post := by
  intro s u ran whole
  obtain ⟨t, checked, ran⟩ := of_run_bind ran
  unfold BoundedWriter.failIf at checked
  split at checked
  · cases checked
  · rename_i fine
    cases checked
    exact there fine _ u ran whole

theorem append (value : Bytes) :
    Wrote (BoundedWriter.append value : BoundedWriter ε Unit) fun piece => piece = value := by
  intro s t ran whole
  unfold BoundedWriter.append at ran
  dsimp only at ran
  split at ran
  · cases ran
    cases whole
  · rename_i fits
    split at ran
    · rename_i before
      cases ran
      refine ⟨whole, rfl, fun _ limited => ?_, value, rfl, rfl⟩
      show (s.bytes ++ value).length ≤ s.limit
      change s.limit < usizeMax at limited
      rw [length_append]
      omega
    · rename_i broken
      cases ran
      rw [whole] at broken
      exact absurd rfl broken

/-- The check for excess after a writer. -/
theorem stopped (error : Nat → ε) (wrote : Wrote write post) :
    Wrote (write >>= fun _ => BoundedWriter.stopOnExcess error) post := by
  intro s u ran whole
  obtain ⟨t, ran, checked⟩ := of_run_bind ran
  unfold BoundedWriter.stopOnExcess at checked
  split at checked
  · cases checked
  · cases checked
    exact wrote s u ran whole

end Wrote

namespace Emits

theorem pure : Emits (Pure.pure () : BoundedWriter ε Unit) [] := by
  intro s _ _
  rw [append_nil]
  rfl

theorem bind {more : Bytes} (here : Emits first piece)
    (there : Emits second more) : Emits (first >>= fun _ => second) (piece ++ more) := by
  intro s whole unlimited
  rw [run_bind_ok (here s whole unlimited),
    there { s with bytes := s.bytes ++ piece } whole unlimited, append_assoc]

theorem guarded {error : ε} (fine : ¬ condition) (there : Emits next piece) :
    Emits (BoundedWriter.failIf condition error >>= fun _ => next) piece := by
  intro s whole unlimited
  have passes : BoundedWriter.failIf condition error s = .ok ((), s) := if_neg fine
  rw [run_bind_ok passes, there s whole unlimited]

theorem append (value : Bytes) : Emits (BoundedWriter.append value : BoundedWriter ε Unit) value := by
  intro s whole unlimited
  unfold BoundedWriter.append
  rw [if_neg (by omega), if_pos (by rw [whole]; rfl)]

theorem stopped (error : Nat → ε) (emits : Emits write piece) :
    Emits (write >>= fun _ => BoundedWriter.stopOnExcess error) piece := by
  intro s whole unlimited
  rw [run_bind_ok (emits s whole unlimited)]
  unfold BoundedWriter.stopOnExcess
  dsimp only
  rw [whole]

end Emits

end Writers

/-! ### Formats -/

/-- **A format**: on the values of the domain, the reader takes back exactly what the writer appends,
and the writer writes exactly what the reader took. The value says how many bytes it has and what it
costs, and what it costs beyond its bytes is bounded. -/
structure Coded {ε δ α : Type} (domain : α → Prop) (write : α → BoundedWriter δ Unit)
    (read : BudgetReader ε α) (cost len : α → Nat) (slack : Nat) : Prop where
  written : ∀ a, domain a → Wrote (write a) fun piece =>
    Decodes read piece (cost a) a ∧ piece.length = len a ∧ cost a ≤ len a + slack
  read : Scans read fun a piece paid =>
    domain a ∧ Emits (write a) piece ∧ piece.length = len a ∧ paid = cost a ∧ cost a ≤ len a + slack

namespace Coded

variable {ε δ α ρ : Type} {domain : α → Prop} {within : ρ → Prop}

variable {slack' : Nat} {cost' len' : ρ → Nat} {project : ρ → α} {rest : ρ → BoundedWriter δ Unit}
  {next : α → BudgetReader ε ρ} {write : α → BoundedWriter δ Unit} {read : BudgetReader ε α}
  {cost len : α → Nat} {slack : Nat}

theorem congr {write' : α → BoundedWriter δ Unit} {cost' len' : α → Nat}
    (coded : Coded domain write read cost len slack)
    (sameWrite : ∀ a, domain a → write a = write' a) (sameCost : ∀ a, domain a → cost a = cost' a)
    (sameLen : ∀ a, domain a → len a = len' a)
    (looser : ∀ a, domain a → cost' a ≤ len' a + slack → cost' a ≤ len' a + slack') :
    Coded domain write' read cost' len' slack' where
  written a inside := by
    rw [← sameWrite a inside]
    refine (coded.written a inside).mono fun piece facts => ?_
    obtain ⟨decodes, length, bounded⟩ := facts
    rw [sameCost a inside, sameLen a inside] at bounded
    refine ⟨?_, length.trans (sameLen a inside), looser a inside bounded⟩
    rw [← sameCost a inside]
    exact decodes
  read := by
    refine coded.read.mono fun a piece paid facts => ?_
    obtain ⟨inside, emits, length, same, bounded⟩ := facts
    rw [sameCost a inside, sameLen a inside] at bounded
    rw [← sameWrite a inside]
    exact ⟨inside, emits, length.trans (sameLen a inside), same.trans (sameCost a inside),
      looser a inside bounded⟩

/-- **A field, then the rest of the record**, whose values are those with this field. -/
theorem field (here : Coded domain write read cost len slack)
    (inside : ∀ r, within r → domain (project r)) (there : ∀ a, domain a →
      Coded (fun r => within r ∧ project r = a) rest (next a) cost' len' slack') :
    Coded within (fun r => write (project r) >>= fun _ => rest r) (read >>= next)
      (fun r => cost (project r) + cost' r) (fun r => len (project r) + len' r) (slack + slack') where
  written r fine := by
    have first := here.written (project r) (inside r fine)
    have second := (there (project r) (inside r fine)).written r ⟨fine, rfl⟩
    refine (first.bind second).mono ?_
    rintro _ ⟨start, more, rfl, ⟨decodes, length, bounded⟩, decodes', length', bounded'⟩
    refine ⟨decodes.bind decodes', ?_, by omega⟩
    rw [length_append, length, length']
  read := by
    refine here.read.bind fun a piece paid facts => ?_
    obtain ⟨fine, emits, length, same, bounded⟩ := facts
    refine (there a fine).read.mono fun r more paid' facts' => ?_
    obtain ⟨⟨fine', rfl⟩, emits', length', same', bounded'⟩ := facts'
    refine ⟨fine', emits.bind emits', ?_, by omega, by omega⟩
    rw [length_append, length, length']

/-- A field that costs no more than its bytes. -/
theorem owned (here : Coded domain write read cost len 0)
    (inside : ∀ r, within r → domain (project r)) (there : ∀ a, domain a →
      Coded (fun r => within r ∧ project r = a) rest (next a) cost' len' slack') :
    Coded within (fun r => write (project r) >>= fun _ => rest r) (read >>= next)
      (fun r => cost (project r) + cost' r) (fun r => len (project r) + len' r) slack' :=
  (here.field inside there).congr (fun _ _ => rfl) (fun _ _ => rfl) (fun _ _ => rfl)
    fun _ _ bounded => by omega

/-- A field that owns nothing. -/
theorem plain (here : Coded domain write read (fun _ => 0) len 0)
    (inside : ∀ r, within r → domain (project r)) (there : ∀ a, domain a →
      Coded (fun r => within r ∧ project r = a) rest (next a) cost' len' slack') :
    Coded within (fun r => write (project r) >>= fun _ => rest r) (read >>= next) cost'
      (fun r => len (project r) + len' r) slack' :=
  (here.owned inside there).congr (fun _ _ => rfl) (fun _ _ => Nat.zero_add _) (fun _ _ => rfl)
    fun _ _ => id

/-- **The last field of a record.** -/
theorem last {build : α → ρ} (here : Coded domain write read cost len slack)
    (inside : ∀ r, within r → domain (project r)) (built : ∀ r, within r → build (project r) = r)
    (back : ∀ a, domain a → within (build a) ∧ project (build a) = a) :
    Coded within (fun r => write (project r)) (read >>= fun a => pure (build a))
      (fun r => cost (project r)) (fun r => len (project r)) slack where
  written r fine := by
    refine (here.written (project r) (inside r fine)).mono fun piece facts => ?_
    obtain ⟨decodes, length, bounded⟩ := facts
    refine ⟨?_, length, bounded⟩
    have both : Decodes (read >>= fun a => pure (build a)) (piece ++ []) (cost (project r) + 0)
        (build (project r)) := decodes.bind (.pure _)
    rwa [built r fine, append_nil, Nat.add_zero] at both
  read := by
    refine here.read.bind fun a piece paid facts => .pure ?_
    obtain ⟨fine, emits, length, same, bounded⟩ := facts
    obtain ⟨fine', whole⟩ := back a fine
    rw [whole, append_nil, Nat.add_zero]
    exact ⟨fine', emits, length, same, bounded⟩

/-- A record whose fields have all been read. -/
theorem done (r : ρ) (fine : within r) (only : ∀ other, within other → other = r) :
    Coded within (fun _ => (pure () : BoundedWriter δ Unit)) (pure r : BudgetReader ε ρ)
      (fun _ => 0) (fun _ => 0) 0 where
  written other there := by
    rw [only other there]
    exact .pure ⟨.pure r, rfl, Nat.le_refl 0⟩
  read := .pure ⟨fine, .pure, rfl, rfl, Nat.le_refl 0⟩

/-- A reader that fails reads no value. -/
theorem refused (error : ε) (nothing : ∀ a, ¬ domain a) :
    Coded domain write (BudgetReader.fail error) cost len slack where
  written a inside := absurd inside (nothing a)
  read := .fail error

theorem on {domain' : α → Prop} (coded : Coded domain write read cost len slack)
    (same : ∀ a, domain a ↔ domain' a) : Coded domain' write read cost len slack := by
  have domains : domain = domain' := funext fun a => propext (same a)
  exact domains ▸ coded

/-- **A constant in front of a record**, such as a magic or a version. -/
theorem constant [DecidableEq α] {a : α} {next : BudgetReader ε ρ} (error : α → ε)
    (here : Coded domain write read cost len slack) (inside : domain a)
    (there : Coded within rest next cost' len' slack') :
    Coded within (fun r => write a >>= fun _ => rest r)
      (read >>= fun b => BudgetReader.failIf (b ≠ a) (error b) >>= fun _ => next)
      (fun r => cost a + cost' r) (fun r => len a + len' r) (slack + slack') where
  written r fine := by
    refine ((here.written a inside).bind (there.written r fine)).mono ?_
    rintro _ ⟨start, more, rfl, ⟨decodes, length, bounded⟩, decodes', length', bounded'⟩
    refine ⟨decodes.bind ((Decodes.failIf (fun unequal => unequal rfl) (error a)).skip decodes'), ?_, by omega⟩
    rw [length_append, length, length']
  read := by
    refine here.read.bind fun b piece paid facts => ?_
    obtain ⟨-, emits, length, rfl, bounded⟩ := facts
    refine (Scans.passed (b ≠ a) (error b)).bind ?_
    rintro - _ _ ⟨equal, rfl, rfl⟩
    obtain rfl := Decidable.not_not.mp equal
    refine there.read.mono fun r more paid facts => ?_
    obtain ⟨fine, emits', length', rfl, bounded'⟩ := facts
    rw [nil_append, Nat.zero_add]
    refine ⟨fine, emits.bind emits', ?_, rfl, by omega⟩
    rw [length_append, length, length']

/-- **One constructor of a type with several.** -/
theorem variant {inject : α → ρ} {write' : ρ → BoundedWriter δ Unit}
    (here : Coded domain write read cost len slack)
    (injected : ∀ r, within r ↔ ∃ a, domain a ∧ r = inject a)
    (sameWrite : ∀ a, write' (inject a) = write a) (sameCost : ∀ a, cost' (inject a) = cost a)
    (sameLen : ∀ a, len' (inject a) = len a) (looser : slack ≤ slack') :
    Coded within write' (read >>= fun a => pure (inject a)) cost' len' slack' where
  written r fine := by
    obtain ⟨a, inside, rfl⟩ := (injected r).mp fine
    rw [sameWrite, sameCost, sameLen]
    refine (here.written a inside).mono fun piece facts => ?_
    obtain ⟨decodes, length, bounded⟩ := facts
    refine ⟨?_, length, by omega⟩
    have both : Decodes (read >>= fun a => pure (inject a)) (piece ++ []) (cost a + 0) (inject a) :=
      decodes.bind (.pure _)
    rwa [append_nil, Nat.add_zero] at both
  read := by
    refine here.read.bind fun a piece paid facts => .pure ?_
    obtain ⟨inside, emits, length, same, bounded⟩ := facts
    rw [sameWrite, sameCost, sameLen, append_nil, Nat.add_zero]
    exact ⟨(injected _).mpr ⟨a, inside, rfl⟩, emits, length, same, by omega⟩

/-- A check before the reader that every value of the domain passes. -/
theorem checked {condition : Prop} [Decidable condition] (error : ε)
    (coded : ¬ condition → Coded domain write read cost len slack)
    (fine : ∀ a, domain a → ¬ condition) :
    Coded domain write (BudgetReader.failIf condition error >>= fun _ => read) cost len slack where
  written a inside := by
    refine ((coded (fine a inside)).written a inside).mono fun piece facts => ?_
    exact ⟨(Decodes.failIf (fine a inside) error).skip facts.1, facts.2⟩
  read := by
    refine (Scans.passed condition error).bind ?_
    rintro - _ _ ⟨passes, rfl, rfl⟩
    simpa only [nil_append, Nat.zero_add] using (coded passes).read

/-- A check that as many bytes are ahead as every value of the domain has. -/
theorem ahead {count : Nat} (error : ε) (coded : Coded domain write read cost len slack)
    (enough : ∀ a, domain a → count ≤ len a) :
    Coded domain write (BudgetReader.remaining >>= fun left =>
      BudgetReader.failIf (left < count) error >>= fun _ => read) cost len slack where
  written a inside := by
    refine (coded.written a inside).mono fun piece facts => ?_
    refine ⟨.remaining fun left there => ?_, facts.2⟩
    have suffices' : ¬ left < count := by
      have := enough a inside
      have := facts.2.1
      omega
    exact (Decodes.failIf suffices' error).skip facts.1
  read := by
    refine Scans.remaining.bind ?_
    rintro left _ _ ⟨rfl, rfl⟩
    refine (Scans.passed (left < count) error).bind ?_
    rintro - _ _ ⟨-, rfl, rfl⟩
    simpa only [nil_append, Nat.zero_add] using coded.read

/-- Memory is paid before the reader. -/
theorem reserved (charge : Nat) (error : ε) (coded : Coded domain write read cost len slack) :
    Coded domain write (BudgetReader.reserve charge error >>= fun _ => read)
      (fun a => charge + cost a) len (charge + slack) where
  written a inside := by
    refine (coded.written a inside).mono fun piece facts => ?_
    obtain ⟨decodes, length, bounded⟩ := facts
    exact ⟨(Decodes.reserve charge error).bind decodes, length, by omega⟩
  read := by
    refine (Scans.reserve charge error).bind ?_
    rintro - _ _ ⟨rfl, rfl⟩
    refine coded.read.mono fun a piece paid facts => ?_
    obtain ⟨inside, emits, length, same, bounded⟩ := facts
    exact ⟨inside, emits, length, by omega, by omega⟩

/-- A check before the writer that every value the reader returns passes. -/
theorem guarded {condition : α → Prop} [DecidablePred condition] (error : α → δ)
    (coded : Coded (fun a => domain a ∧ ¬ condition a) write read cost len slack) :
    Coded domain (fun a => BoundedWriter.failIf (condition a) (error a) >>= fun _ => write a) read
      cost len slack where
  written a inside := .guarded fun fine => coded.written a ⟨inside, fine⟩
  read := by
    refine coded.read.mono fun a piece paid facts => ?_
    obtain ⟨⟨inside, fine⟩, emits, rest⟩ := facts
    exact ⟨inside, .guarded fine emits, rest⟩

/-- The check for excess after the writer. -/
theorem stopped (error : Nat → δ) (coded : Coded domain write read cost len slack) :
    Coded domain (fun a => write a >>= fun _ => BoundedWriter.stopOnExcess error) read cost len
      slack where
  written a inside := (coded.written a inside).stopped error
  read := by
    refine coded.read.mono fun a piece paid facts => ?_
    obtain ⟨inside, emits, rest⟩ := facts
    exact ⟨inside, emits.stopped error, rest⟩

/-- A given number of values, one after the other. -/
theorem items (coded : Coded domain write read cost len slack) (count : Nat) :
    Coded (fun values => values.length = count ∧ ∀ a ∈ values, domain a)
      (BoundedWriter.each write) (BudgetReader.items read count)
      (fun values => (values.map cost).sum) (fun values => (values.map len).sum)
      (count * slack) := by
  induction count with
  | zero =>
    rw [Nat.zero_mul]
    refine (done [] ⟨rfl, by simp⟩ fun other there => eq_nil_of_length_eq_zero there.1).congr
      ?_ ?_ ?_ fun _ _ => id
    all_goals
      intro values inside
      rw [eq_nil_of_length_eq_zero inside.1]
      rfl
  | succ count ih =>
    constructor
    · rintro (_ | ⟨a, values⟩) ⟨length, inside⟩
      · cases length
      · have first := coded.written a (inside a mem_cons_self)
        have second := ih.written values ⟨Nat.succ.inj length,
          fun b member => inside b (mem_cons_of_mem a member)⟩
        refine (first.bind second).mono ?_
        rintro _ ⟨start, more, rfl, ⟨decodes, sized, bounded⟩, decodes', sized', bounded'⟩
        have whole : Decodes (BudgetReader.items read (count + 1)) (start ++ (more ++ []))
            (cost a + ((values.map cost).sum + 0)) (a :: values) :=
          decodes.bind (decodes'.bind (.pure _))
        rw [append_nil, Nat.add_zero] at whole
        simp only [map_cons, sum_cons, length_append, Nat.succ_mul]
        exact ⟨whole, by omega, by omega⟩
    · refine coded.read.bind fun a piece paid facts => ?_
      obtain ⟨inside, emits, sized, same, bounded⟩ := facts
      refine ih.read.bind fun values more paid' facts' => .pure ?_
      obtain ⟨⟨length, all⟩, emits', sized', same', bounded'⟩ := facts'
      simp only [map_cons, sum_cons, length_append, Nat.succ_mul, append_nil,
        Nat.add_zero, length_cons, mem_cons, forall_eq_or_imp]
      exact ⟨⟨by omega, inside, all⟩, emits.bind emits', by omega, by omega, by omega⟩

/-- **A value spelled as another**, such as a tag or a text as bytes. -/
theorem through {spell : ρ → α} {parse : α → Except ε ρ}
    (here : Coded domain write read cost len slack) (inside : ∀ r, within r → domain (spell r))
    (parsed : ∀ r, within r → parse (spell r) = .ok r)
    (back : ∀ a r, domain a → parse a = .ok r → within r ∧ spell r = a) :
    Coded within (fun r => write (spell r)) (read >>= fun a => BudgetReader.accept (parse a))
      (fun r => cost (spell r)) (fun r => len (spell r)) slack where
  written r fine := by
    refine (here.written (spell r) (inside r fine)).mono fun piece facts => ?_
    obtain ⟨decodes, length, bounded⟩ := facts
    refine ⟨?_, length, bounded⟩
    have both : Decodes (read >>= fun a => BudgetReader.accept (parse a)) (piece ++ [])
        (cost (spell r) + 0) r := decodes.bind (.accept (parsed r fine))
    rwa [append_nil, Nat.add_zero] at both
  read := by
    refine here.read.bind fun a piece paid facts => .accept fun r found => ?_
    obtain ⟨fine, emits, length, same, bounded⟩ := facts
    obtain ⟨fine', rfl⟩ := back a r fine found
    rw [append_nil, Nat.add_zero]
    exact ⟨fine', emits, length, same, bounded⟩

/-- **A value that may be missing.** -/
theorem optional {flag : Bool → BoundedWriter δ Unit} {readFlag : BudgetReader ε Bool}
    {width : Nat} (flags : Coded (fun _ => True) flag readFlag (fun _ => 0) (fun _ => width) 0)
    (here : Coded domain write read cost len slack) :
    Coded (fun value => ∀ a, value = some a → domain a) (BoundedWriter.optional flag write)
      (BudgetReader.optional readFlag read) (fun value => value.elim 0 cost)
      (fun value => width + value.elim 0 len) slack where
  written value fine := by
    cases value with
    | none =>
      refine ((flags.written false trivial).bind (.pure rfl)).mono ?_
      rintro _ ⟨piece, _, rfl, ⟨decodes, length, -⟩, rfl⟩
      rw [append_nil]
      refine ⟨?_, length, Nat.zero_le _⟩
      have both : Decodes (BudgetReader.optional readFlag read) (piece ++ []) (0 + 0) none :=
        decodes.bind (.pure _)
      rwa [append_nil] at both
    | some a =>
      refine ((flags.written true trivial).bind (here.written a (fine a rfl))).mono ?_
      rintro _ ⟨piece, more, rfl, ⟨decodes, length, -⟩, decodes', length', bounded⟩
      have both : Decodes (BudgetReader.optional readFlag read) (piece ++ (more ++ []))
          (0 + (cost a + 0)) (some a) := decodes.bind (decodes'.bind (.pure _))
      rw [append_nil, Nat.zero_add, Nat.add_zero] at both
      refine ⟨both, ?_, ?_⟩
      · rw [length_append, length, length']
        rfl
      · show cost a ≤ width + len a + slack
        omega
  read := by
    refine flags.read.bind fun present piece paid facts => ?_
    obtain ⟨-, emits, length, rfl, -⟩ := facts
    cases present with
    | false =>
      refine .pure ⟨(fun a missing => by cases missing), emits.bind .pure, ?_, rfl, Nat.zero_le _⟩
      rw [append_nil]
      exact length
    | true =>
      refine here.read.bind fun a more paid' facts' => .pure ?_
      obtain ⟨fine, emits', length', rfl, bounded⟩ := facts'
      rw [append_nil, Nat.zero_add, Nat.add_zero]
      refine ⟨fun _ same => Option.some.inj same ▸ fine, emits.bind emits', ?_, rfl, ?_⟩
      · rw [length_append, length, length']
        rfl
      · show cost a ≤ width + len a + slack
        omega

/-- Bytes, as many as there are. -/
theorem raw (count : Nat) (overflows ends : ε) : Coded (fun bytes : Bytes => bytes.length = count)
      (fun bytes => (BoundedWriter.append bytes : BoundedWriter δ Unit))
      (BudgetReader.take count overflows ends) (fun _ => 0) (fun _ => count) 0 where
  written bytes sized := by
    refine (Wrote.append bytes).mono ?_
    rintro _ rfl
    subst sized
    exact ⟨.take _ overflows ends, rfl, Nat.zero_le _⟩
  read := by
    refine (Scans.take count overflows ends).mono ?_
    rintro _ piece _ ⟨rfl, rfl, rfl⟩
    exact ⟨rfl, .append _, rfl, rfl, Nat.zero_le _⟩

/-- **A word of the given width.** -/
theorem word {width : Nat} {toNat : ρ → Nat} {ofNat : Nat → ρ} (overflows ends : ε)
    (small : ∀ r, toNat r < 256 ^ width) (back : ∀ r, ofNat (toNat r) = r)
    (same : ∀ n, n < 256 ^ width → toNat (ofNat n) = n) :
    Coded (fun _ => True)
      (fun r => (BoundedWriter.append (beBytes width (toNat r)) : BoundedWriter δ Unit))
      (BudgetReader.take width overflows ends >>= fun bytes => pure (ofNat (beNat bytes)))
      (fun _ => 0) (fun _ => width) 0 where
  written r _ := by
    refine (Wrote.append _).mono ?_
    rintro _ rfl
    refine ⟨?_, length_beBytes width (toNat r), Nat.zero_le _⟩
    have taken := Decodes.take (beBytes width (toNat r)) overflows ends
    rw [length_beBytes] at taken
    have both : Decodes (BudgetReader.take width overflows ends >>= fun bytes =>
        pure (ofNat (beNat bytes))) (beBytes width (toNat r) ++ []) (0 + 0)
        (ofNat (beNat (beBytes width (toNat r)))) := taken.bind (.pure _)
    rwa [append_nil, beNat_beBytes (small r), back] at both
  read := by
    refine (Scans.take width overflows ends).bind ?_
    rintro _ piece _ ⟨rfl, rfl, rfl⟩
    refine .pure ⟨trivial, ?_, by rw [append_nil], rfl, Nat.zero_le _⟩
    rw [same _ (beNat_lt _), beBytes_beNat, append_nil]
    exact .append _

end Coded

end Rumqtt
