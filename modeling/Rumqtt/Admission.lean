/-
**The admission gate: request lanes that share a lifecycle.**

Producers put requests into lanes; the event loop takes them out. All lanes of a client share a `Gate`:
a sequence number for every accepted request, the fence of an ordered shutdown, and termination.

The model takes every critical section of the source as one atomic step. `Sender::try_send` holds both
mutexes for its whole decision. `send` and `send_async` are attempts of `try_send` that hold on to the
request while the lane is full (`Lane.blocked`). `recv_async` is three sections: a first `try_recv`, the
registration of a waiting receiver on a rendezvous lane, and the rounds of its loop; a receive that has
failed or is cancelled takes its registration back in a section of its own. How many receives are where
is counted in `Lane.registering`, `Lane.parked` and `Lane.dropping`.

`State.log` and `Lane.delivered` record what was accepted and what was delivered; no step reads them.

`admission_gate` is what holds of every interleaving.
-/

import Mathlib.Algebra.Ring.Nat
import Mathlib.Data.List.Pairwise
import Rumqtt.Lib.Run

namespace Rumqtt.Admission

open List

/-- Nanoseconds, for durations and instants. -/
abbrev Nanos := Nat

/-- What the gate asks of a request: the trait `Item`. -/
class Item (T : Type) where
  /-- `Some` for the request that closes the lanes, with its timeout. -/
  fence : T → Option (Option Nanos)
  admitted : T → (sequence : Nat) → (deadline : Option Nanos) → T
  closing : T → T
  invalidTimeout : T → T

inductive TrySendError (T : Type) where
  | full (item : T)
  | disconnected (item : T)
  deriving Repr

/-- The request that was not accepted. -/
def TrySendError.intoInner {T : Type} : TrySendError T → T
  | .full item => item
  | .disconnected item => item

structure Lifecycle where
  sequence : Nat := 0
  fence : Option Nat := none
  deadline : Option Nanos := none
  terminated : Bool := false
  deriving DecidableEq, Repr

/-- **A lane**: the queue that its handles share, and where their calls are. -/
structure Lane (T : Type) where
  capacity : Option Nat
  priority : Bool
  items : List T := []
  senders : Nat := 1
  receivers : Nat := 1
  waitingReceivers : Nat := 0
  /-- The requests of calls of `send` and `send_async` that wait for room. -/
  blocked : List T := []
  /-- Receives whose first attempt found nothing. -/
  registering : Nat := 0
  /-- Receives in their loop. -/
  parked : Nat := 0
  /-- Receives that have failed and are about to return. -/
  dropping : Nat := 0
  /-- What the receiver got, in order. -/
  delivered : List T := []

/-- What was accepted, on which lane and whether it was a fence, and when the gate was terminated. -/
inductive LogEntry (T : Type) where
  | accepted (lane : Nat) (priority : Bool) (sequence : Nat) (fence : Bool) (item : T)
  | terminated

structure State (T : Type) where
  lifecycle : Lifecycle := {}
  lanes : List (Lane T) := []
  log : List (LogEntry T) := []

def u64Max : Nat := 2 ^ 64 - 1

section Sections

variable {T : Type}

/-! ### The critical sections -/

namespace Lane

section

variable (lane : Lane T)

/-- Whether a lane has room for one more. -/
def available : Bool :=
  match lane.capacity with
  | none => true
  | some 0 => decide (lane.items.length < lane.waitingReceivers)
  | some capacity => decide (lane.items.length < capacity)

/-- **`Sender::try_send`**, with the lifecycle of the gate and what `Instant::now().checked_add` returns
for a timeout. -/
def trySend [Item T] (lifecycle : Lifecycle) (item : T) (checkedAdd : Nanos → Option Nanos) :
    Checked (Except (TrySendError T) (Nat × T) × Lifecycle × Lane T) :=
  if lane.receivers = 0 then .ok (.error (.disconnected item), lifecycle, lane)
  else if lifecycle.terminated = true then .ok (.error (.disconnected item), lifecycle, lane)
  else if lifecycle.fence.isSome = true ∧ lane.priority = false then
    .ok (.error (.disconnected (Item.closing item)), lifecycle, lane)
  else if lane.available = false then .ok (.error (.full item), lifecycle, lane)
  else
    let fence := Item.fence item
    let deadline := fence.join.bind checkedAdd
    if fence.join.isSome = true ∧ deadline = none then
      .ok (.error (.disconnected (Item.invalidTimeout item)), lifecycle, lane)
    else do
      let sequence ← Checked.expect "admission sequence exhausted"
        (if lifecycle.sequence < u64Max then some (lifecycle.sequence + 1) else none)
      let item := Item.admitted item sequence deadline
      let lifecycle := { lifecycle with sequence }
      let lifecycle := if fence.isSome then { lifecycle with fence := some sequence, deadline }
        else lifecycle
      return (.ok (sequence, item), lifecycle, { lane with items := lane.items ++ [item] })

/-- The front of the queue is handed to a receiver. -/
def deliver : Option (Lane T) :=
  match lane.items with
  | [] => none
  | item :: rest => some { lane with items := rest, delivered := lane.delivered ++ [item] }

/-- `Receiver::drain` -/
def drain : Lane T :=
  { lane with items := [], delivered := lane.delivered ++ lane.items }

/-- `Drop` of a receiver: what is queued is discarded. -/
def dropReceiver : Lane T :=
  { lane with receivers := lane.receivers - 1, items := [] }

/-- A rendezvous lane. -/
def rendezvous : Bool := lane.capacity == some 0

/-- `waiting_receivers -= 1`, where a registration is active. -/
def deregister : Checked (Lane T) :=
  if lane.rendezvous then do
    let waitingReceivers ← Checked.sub lane.waitingReceivers 1
    return { lane with waitingReceivers }
  else return lane

/-- The first section of `recv_async`. -/
def recv : Lane T :=
  match lane.deliver with
  | some lane => lane
  | none => if lane.senders = 0 then lane else { lane with registering := lane.registering + 1 }

/-- The second section of `recv_async`. -/
def register : Lane T :=
  { lane with
    registering := lane.registering - 1
    parked := lane.parked + 1
    waitingReceivers := if lane.rendezvous then lane.waitingReceivers + 1 else lane.waitingReceivers }

/-- A round of the loop of `recv_async`. -/
def poll : Checked (Lane T) :=
  match lane.deliver with
  | some lane => do
    let lane ← lane.deregister
    return { lane with parked := lane.parked - 1 }
  | none =>
    if lane.senders = 0 then
      return { lane with parked := lane.parked - 1, dropping := lane.dropping + 1 }
    else return lane

end

end Lane

/-! ### Interleavings -/

/-- **One step of some caller.** Lanes are named by the order of their creation. -/
inductive Op (T : Type) where
  | channel (capacity : Option Nat) (priority : Bool)
  | cloneSender (lane : Nat)
  | dropSender (lane : Nat)
  | trySend (lane : Nat) (item : T) (checkedAdd : Nanos → Option Nanos)
  /-- The first attempt of `send` or `send_async`. -/
  | send (lane : Nat) (item : T) (checkedAdd : Nanos → Option Nanos)
  /-- A later attempt, for the request at an index of the blocked ones. -/
  | retry (lane index : Nat) (checkedAdd : Nanos → Option Nanos)
  | cancelSend (lane index : Nat)
  | tryRecv (lane : Nat)
  | drain (lane : Nat)
  /-- The sections of `recv_async`, and its cancellation. -/
  | recv (lane : Nat)
  | register (lane : Nat)
  | poll (lane : Nat)
  | finish (lane : Nat)
  | cancelRecv (lane : Nat)
  | dropReceiver (lane : Nat)
  | terminate
  | clearDeadline

namespace State

section

variable (s : State T)

/-- An update of a lane, if it is there and the caller has the handle it needs. -/
def onLane (index : Nat) (enabled : Lane T → Bool)
    (update : Lane T → Checked (Lane T)) : Checked (State T) :=
  match s.lanes[index]? with
  | none => return s
  | some lane =>
    if enabled lane then do
      let lane ← update lane
      return { s with lanes := s.lanes.set index lane }
    else return s

/-- An attempt to send on a lane that is there. -/
def attempt [Item T] (index : Nat) (lane : Lane T) (item : T)
    (checkedAdd : Nanos → Option Nanos) : Checked (Except (TrySendError T) Unit × State T) := do
  let (result, lifecycle, after) ← lane.trySend s.lifecycle item checkedAdd
  let t := { s with lifecycle, lanes := s.lanes.set index after }
  match result with
  | .error error => return (.error error, t)
  | .ok (sequence, admitted) =>
    let entry := .accepted index lane.priority sequence (Item.fence item).isSome admitted
    return (.ok (), { t with log := t.log ++ [entry] })

section

variable [Item T] (index : Nat) (item : T) (checkedAdd : Nanos → Option Nanos)

/-- `Sender::try_send`, by a holder of a sender. -/
def trySend : Checked (State T) :=
  match s.lanes[index]? with
  | none => return s
  | some lane =>
    if lane.senders = 0 then return s
    else do
      let (_, t) ← s.attempt index lane item checkedAdd
      return t

/-- An attempt of `send` or `send_async`: a request that finds the lane full waits. -/
def send : Checked (State T) :=
  match s.lanes[index]? with
  | none => return s
  | some lane =>
    if lane.senders = 0 then return s
    else do
      let (result, t) ← s.attempt index lane item checkedAdd
      match result with
      | .error (.full item) =>
        t.onLane index (fun _ => true) fun lane => .ok { lane with blocked := lane.blocked ++ [item] }
      | _ => return t

end

/-- A blocked request is taken back by its caller, to be sent again or to be given up. -/
def unblock (index position : Nat) : Checked (State T) :=
  s.onLane index (fun _ => true) fun lane =>
    .ok { lane with blocked := lane.blocked.eraseIdx position }

/-- A later attempt for a blocked request. -/
def retry [Item T] (index position : Nat) (checkedAdd : Nanos → Option Nanos) : Checked (State T) :=
  match s.lanes[index]? with
  | none => return s
  | some lane =>
    match lane.blocked[position]? with
    | none => return s
    | some item => do
      let t ← s.unblock index position
      t.send index item checkedAdd

/-- `Gate::terminate` -/
def terminate : State T :=
  if s.lifecycle.terminated then s
  else { s with
    lifecycle := { s.lifecycle with terminated := true }
    log := s.log ++ [.terminated] }

end

/-- **A step of an interleaving.** A step that its caller cannot take leaves the state as it is. -/
def step [Item T] (s : State T) : Op T → Checked (State T)
  | .channel capacity priority => return { s with lanes := s.lanes ++ [{ capacity, priority }] }
  | .cloneSender index =>
    s.onLane index (fun lane => lane.senders ≠ 0) fun lane =>
      .ok { lane with senders := lane.senders + 1 }
  -- a call of `send` holds on to its sender
  | .dropSender index =>
    s.onLane index (fun lane => 1 < lane.senders ∨ lane.senders = 1 ∧ lane.blocked.isEmpty)
      fun lane => .ok { lane with senders := lane.senders - 1 }
  | .trySend index item checkedAdd => s.trySend index item checkedAdd
  | .send index item checkedAdd => s.send index item checkedAdd
  | .retry index position checkedAdd => s.retry index position checkedAdd
  | .cancelSend index position => s.unblock index position
  | .tryRecv index =>
    s.onLane index (fun lane => lane.receivers ≠ 0) fun lane => .ok (lane.deliver.getD lane)
  | .drain index => s.onLane index (fun lane => lane.receivers ≠ 0) fun lane => .ok lane.drain
  | .recv index => s.onLane index (fun lane => lane.receivers ≠ 0) fun lane => .ok lane.recv
  | .register index =>
    s.onLane index (fun lane => lane.registering ≠ 0) fun lane => .ok lane.register
  | .poll index => s.onLane index (fun lane => lane.parked ≠ 0) Lane.poll
  | .finish index =>
    s.onLane index (fun lane => lane.dropping ≠ 0) fun lane => do
      let lane ← lane.deregister
      return { lane with dropping := lane.dropping - 1 }
  | .cancelRecv index =>
    s.onLane index (fun lane => lane.parked ≠ 0) fun lane => do
      let lane ← lane.deregister
      return { lane with parked := lane.parked - 1 }
  -- a receive holds on to the receiver
  | .dropReceiver index =>
    s.onLane index
      (fun lane => lane.receivers ≠ 0 ∧ lane.registering + lane.parked + lane.dropping = 0)
      fun lane => .ok lane.dropReceiver
  | .terminate => return s.terminate
  | .clearDeadline => return { s with lifecycle := { s.lifecycle with deadline := none } }

end State

/-! ### What one attempt does -/

/-- The panic of the last sequence number. -/
def Exhausted (panic : Panic) : Prop := panic = .expectFailed "admission sequence exhausted"

/-- The request that a refused caller gets back. -/
def HandedBack [Item T] (item : T) (error : TrySendError T) : Prop :=
  error.intoInner = item ∨ error.intoInner = Item.closing item ∨
    error.intoInner = Item.invalidTimeout item

/-- **An accepted request**: the gate and the lane were open, the lane had room, the request itself got
the next number and, if it is a fence, its deadline, and is at the end of the queue. -/
structure Accepted [Item T] (lane : Lane T) (lifecycle : Lifecycle) (item : T)
    (checkedAdd : Nanos → Option Nanos) (sequence : Nat) (admitted : T) (lifecycle' : Lifecycle)
    (lane' : Lane T) : Prop where
  received : lane.receivers ≠ 0
  running : lifecycle.terminated = false
  unfenced : lane.priority = false → lifecycle.fence = none
  room : lane.available = true
  next : sequence = lifecycle.sequence + 1
  stamped : admitted = Item.admitted item sequence ((Item.fence item).join.bind checkedAdd)
  counted : lifecycle'.sequence = sequence
  stillRunning : lifecycle'.terminated = false
  fence : lifecycle'.fence.isSome = (lifecycle.fence.isSome || (Item.fence item).isSome)
  queued : lane' = { lane with items := lane.items ++ [admitted] }

/-- **An attempt is accepted, or it changes nothing and hands the request back.** -/
theorem Lane.trySend_spec [Item T] (lane : Lane T) (lifecycle : Lifecycle) (item : T)
    (checkedAdd : Nanos → Option Nanos) :
    (lane.trySend lifecycle item checkedAdd).Satisfies Exhausted fun (result, lifecycle', lane') =>
      match result with
      | .error error => lifecycle' = lifecycle ∧ lane' = lane ∧ HandedBack item error
      | .ok (sequence, admitted) =>
        Accepted lane lifecycle item checkedAdd sequence admitted lifecycle' lane' := by
  unfold trySend
  split
  · exact ⟨rfl, rfl, .inl rfl⟩
  rename_i received
  split
  · exact ⟨rfl, rfl, .inl rfl⟩
  rename_i running
  split
  · exact ⟨rfl, rfl, .inr (.inl rfl)⟩
  rename_i open_
  split
  · exact ⟨rfl, rfl, .inl rfl⟩
  rename_i room
  dsimp only
  split
  · exact ⟨rfl, rfl, .inr (.inr rfl)⟩
  by_cases more : lifecycle.sequence < u64Max
  · rw [if_pos more]
    refine
      { received
        running := by simpa using running
        unfenced := fun ordinary => ?_
        room := by simpa using room
        next := rfl
        stamped := rfl
        counted := ?_
        stillRunning := ?_
        fence := ?_
        queued := rfl }
    · rw [not_and] at open_
      by_contra fenced
      exact open_ (Option.isSome_iff_ne_none.mpr fenced) ordinary
    · split <;> rfl
    · have still : lifecycle.terminated = false := by simpa using running
      split <;> exact still
    · cases Item.fence item <;> simp
  · rw [if_neg more]
    rfl

/-- **An attempt that is accepted**: the request stands at the end of its lane and of the log. -/
def Enqueued [Item T] (s : State T) (index : Nat) (lane : Lane T) (item : T)
    (checkedAdd : Nanos → Option Nanos) (t : State T) : Prop :=
  ∃ sequence admitted after,
    Accepted lane s.lifecycle item checkedAdd sequence admitted t.lifecycle after ∧
    t.lanes = s.lanes.set index after ∧
    t.log = s.log ++ [.accepted index lane.priority sequence (Item.fence item).isSome admitted]

/-- **A step that hands over** the first requests of a lane, in their order. -/
def HandsOver [Item T] (s : State T) (op : Op T) (index : Nat) (lane : Lane T) (count : Nat) : Prop :=
  ∃ t after, s.step op = .ok t ∧ t.lanes[index]? = some after ∧
    after.delivered = lane.delivered ++ lane.items.take count ∧ after.items = lane.items.drop count

/-! ### What the log says -/

namespace LogEntry

/-- The number of an accepted request. -/
def sequence? : LogEntry T → Option Nat
  | .accepted _ _ sequence _ _ => some sequence
  | .terminated => none

/-- The request, if it was accepted on this lane. -/
def itemOn (index : Nat) : LogEntry T → Option T
  | .accepted lane _ _ _ item => if lane = index then some item else none
  | .terminated => none

def isFence : LogEntry T → Bool
  | .accepted _ _ _ fence _ => fence
  | .terminated => false

def isAccepted : LogEntry T → Bool
  | .accepted .. => true
  | .terminated => false

/-- Accepted on a lane that a fence closes. -/
def isOrdinary : LogEntry T → Bool
  | .accepted _ priority _ _ _ => !priority
  | .terminated => false

/-- The entry is about a lane below this bound. -/
def Below (bound : Nat) : LogEntry T → Prop
  | .accepted lane .. => lane < bound
  | .terminated => True

end LogEntry

/-- The numbers of the accepted requests, in order. -/
def sequences (log : List (LogEntry T)) : List Nat := log.filterMap LogEntry.sequence?

/-- The requests that were accepted on a lane, in order. -/
def acceptedOn (index : Nat) (log : List (LogEntry T)) : List T := log.filterMap (LogEntry.itemOn index)

theorem acceptedOn_eq_nil {index : Nat} {log : List (LogEntry T)}
    (below : ∀ entry ∈ log, entry.Below index) : acceptedOn index log = [] := by
  refine filterMap_eq_nil_iff.mpr fun entry member => ?_
  have bound := below entry member
  cases entry with
  | terminated => rfl
  | accepted lane priority sequence fence item => exact if_neg (Nat.ne_of_lt bound)

/-! ### The invariant -/

/-- **A lane keeps what it accepts**, until its receiver is dropped. -/
structure LaneSound (log : List (LogEntry T)) (index : Nat) (lane : Lane T) : Prop where
  kept : lane.receivers ≠ 0 → lane.delivered ++ lane.items = acceptedOn index log
  begun : lane.delivered <+: acceptedOn index log
  room : ∀ capacity, lane.capacity = some capacity → 1 ≤ capacity → lane.items.length ≤ capacity
  waiting : lane.waitingReceivers = if lane.rendezvous then lane.parked + lane.dropping else 0
  /-- A receive fails only when no sender is left. -/
  orphaned : lane.dropping ≠ 0 → lane.senders = 0
  idle : lane.receivers = 0 →
    lane.items = [] ∧ lane.registering = 0 ∧ lane.parked = 0 ∧ lane.dropping = 0
  single : lane.receivers ≤ 1

structure Sound (s : State T) : Prop where
  lanes : ∀ index lane, s.lanes[index]? = some lane → LaneSound s.log index lane
  known : ∀ entry ∈ s.log, entry.Below s.lanes.length
  increasing : (sequences s.log).Pairwise (· < ·)
  counted : ∀ n ∈ sequences s.log, n ≤ s.lifecycle.sequence
  fenced : ∀ entry ∈ s.log, entry.isFence = true → s.lifecycle.fence.isSome = true
  behindFence : s.log.Pairwise fun a b => a.isFence = true → b.isOrdinary = false
  terminated : LogEntry.terminated ∈ s.log → s.lifecycle.terminated = true
  behindTermination : s.log.Pairwise fun a b => a = .terminated → b.isAccepted = false

namespace LaneSound

variable {log : List (LogEntry T)} {index : Nat} {lane : Lane T}

theorem new (capacity : Option Nat) (priority : Bool) (fresh : acceptedOn index log = []) :
    LaneSound log index { capacity, priority } where
  kept := fun _ => fresh.symm
  begun := nil_prefix
  room := fun _ _ _ => Nat.zero_le _
  waiting := by simp
  orphaned := fun some_ => absurd rfl some_
  idle := fun none_ => absurd none_ Nat.one_ne_zero
  single := Nat.le_refl _

section

variable (sound : LaneSound log index lane)
include sound

theorem deliver (received : lane.receivers ≠ 0) {after : Lane T}
    (delivers : lane.deliver = some after) : LaneSound log index after := by
  unfold Lane.deliver at delivers
  split at delivers
  · cases delivers
  · rename_i item rest split
    cases delivers
    have kept := sound.kept received
    rw [split] at kept
    have room := sound.room
    rw [split] at room
    refine
      { sound with
        kept := fun _ => ?_
        begun := ⟨rest, ?_⟩
        room := fun capacity limited some_ => ?_
        idle := fun dropped => absurd dropped received }
    · show lane.delivered ++ [item] ++ rest = _
      rw [← kept, append_assoc]
      rfl
    · show lane.delivered ++ [item] ++ rest = _
      rw [← kept, append_assoc]
      rfl
    · exact Nat.le_of_succ_le (room capacity limited some_)

theorem drain (received : lane.receivers ≠ 0) :
    LaneSound log index lane.drain where
  kept := fun _ => by
    show lane.delivered ++ lane.items ++ [] = _
    rw [append_nil]
    exact sound.kept received
  begun := by
    show lane.delivered ++ lane.items <+: _
    simp only [sound.kept received, prefix_refl]
  room := fun _ _ _ => Nat.zero_le _
  waiting := sound.waiting
  orphaned := sound.orphaned
  idle := fun dropped => absurd dropped received
  single := sound.single

theorem dropReceiver (still : lane.registering + lane.parked + lane.dropping = 0) :
    LaneSound log index lane.dropReceiver where
  kept := fun received => by
    have single := sound.single
    change lane.receivers - 1 ≠ 0 at received
    omega
  begun := sound.begun
  room := fun _ _ _ => Nat.zero_le _
  waiting := sound.waiting
  orphaned := sound.orphaned
  idle := fun _ => by
    refine ⟨rfl, ?_, ?_, ?_⟩
    · show lane.registering = 0
      omega
    · show lane.parked = 0
      omega
    · show lane.dropping = 0
      omega
  single := by
    have single := sound.single
    show lane.receivers - 1 ≤ 1
    omega

/-- A lane whose calls are at work has its receiver. -/
theorem received_of_parked (some_ : lane.parked ≠ 0) :
    lane.receivers ≠ 0 := fun dropped => some_ (sound.idle dropped).2.2.1

theorem recv (received : lane.receivers ≠ 0) :
    LaneSound log index lane.recv := by
  unfold Lane.recv
  cases found : lane.deliver with
  | some after => exact sound.deliver received found
  | none =>
    dsimp only
    split
    · exact sound
    · exact { sound with idle := fun dropped => absurd dropped received }

theorem register (some_ : lane.registering ≠ 0) :
    LaneSound log index lane.register where
  kept := sound.kept
  begun := sound.begun
  room := sound.room
  waiting := by
    have waiting := sound.waiting
    show (if lane.rendezvous = true then lane.waitingReceivers + 1 else lane.waitingReceivers) =
      if lane.rendezvous = true then lane.parked + 1 + lane.dropping else 0
    split
    · rename_i rendezvous
      rw [if_pos rendezvous] at waiting
      omega
    · rename_i ordinary
      rwa [if_neg ordinary] at waiting
  orphaned := sound.orphaned
  idle := fun dropped => absurd (sound.idle dropped).2.1 some_
  single := sound.single

/-- A receive that leaves its loop takes its registration back. -/
theorem deregister (some_ : lane.parked + lane.dropping ≠ 0) :
    ∃ waitingReceivers, lane.deregister = .ok { lane with waitingReceivers } ∧
      waitingReceivers = if lane.rendezvous then lane.parked + lane.dropping - 1 else 0 := by
  have waiting := sound.waiting
  unfold Lane.deregister
  by_cases rendezvous : lane.rendezvous = true
  · rw [if_pos rendezvous] at waiting ⊢
    refine ⟨lane.waitingReceivers - 1, ?_, ?_⟩
    · rw [Checked.sub_ok (by omega)]
      rfl
    · rw [if_pos rendezvous, waiting]
  · rw [if_neg rendezvous] at waiting ⊢
    refine ⟨0, ?_, ?_⟩
    · rw [← waiting]
      rfl
    · rw [if_neg rendezvous]

theorem cancelRecv (some_ : lane.parked ≠ 0) : ∃ after, lane.deregister = .ok after ∧
      LaneSound log index { after with parked := after.parked - 1 } := by
  obtain ⟨waitingReceivers, ran, counted⟩ := sound.deregister (by omega)
  refine ⟨_, ran, ?_⟩
  have received := sound.received_of_parked some_
  refine { sound with waiting := ?_, idle := fun dropped => absurd dropped received }
  show waitingReceivers = if lane.rendezvous = true then lane.parked - 1 + lane.dropping else 0
  rw [counted]
  split
  · omega
  · rfl

theorem finish (some_ : lane.dropping ≠ 0) : ∃ after, lane.deregister = .ok after ∧
      LaneSound log index { after with dropping := after.dropping - 1 } := by
  obtain ⟨waitingReceivers, ran, counted⟩ := sound.deregister (by omega)
  refine ⟨_, ran, ?_⟩
  refine
    { sound with
      waiting := ?_
      orphaned := fun _ => sound.orphaned some_
      idle := fun dropped => absurd (sound.idle dropped).2.2.2 some_ }
  show waitingReceivers = if lane.rendezvous = true then lane.parked + (lane.dropping - 1) else 0
  rw [counted]
  split
  · omega
  · rfl

theorem poll (some_ : lane.parked ≠ 0) :
    ∃ after, lane.poll = .ok after ∧ LaneSound log index after := by
  have received := sound.received_of_parked some_
  unfold Lane.poll
  cases found : lane.deliver with
  | some delivered =>
    have parked : delivered.parked = lane.parked := by
      unfold Lane.deliver at found
      split at found <;> cases found
      rfl
    obtain ⟨after, ran, kept⟩ := (sound.deliver received found).cancelRecv (by rwa [parked])
    refine ⟨_, ?_, kept⟩
    show (delivered.deregister >>= _) = _
    rw [ran]
    rfl
  | none =>
    dsimp only
    by_cases last : lane.senders = 0
    · rw [if_pos last]
      refine ⟨_, rfl, ?_⟩
      refine
        { sound with
          waiting := ?_
          orphaned := fun _ => last
          idle := fun dropped => absurd dropped received }
      have waiting := sound.waiting
      show lane.waitingReceivers =
        if lane.rendezvous = true then lane.parked - 1 + (lane.dropping + 1) else 0
      rw [waiting]
      split
      · omega
      · rfl
    · rw [if_neg last]
      exact ⟨lane, rfl, sound⟩

theorem admitted (received : lane.receivers ≠ 0)
    (room : lane.available = true) (priority fence : Bool) (sequence : Nat) (admitted : T) :
    LaneSound (log ++ [.accepted index priority sequence fence admitted]) index
      { lane with items := lane.items ++ [admitted] } := by
  have grown : acceptedOn index (log ++ [.accepted index priority sequence fence admitted]) =
      acceptedOn index log ++ [admitted] := by
    unfold acceptedOn
    rw [filterMap_append]
    congr 1
    simp [LogEntry.itemOn]
  have kept := sound.kept received
  refine
    { sound with
      kept := fun _ => ?_
      begun := ?_
      room := fun capacity limited some_ => ?_
      idle := fun dropped => absurd dropped received }
  · rw [grown, ← kept, append_assoc]
  · rw [grown]
    exact sound.begun.trans (prefix_append _ _)
  · change lane.capacity = some capacity at limited
    unfold Lane.available at room
    rw [limited] at room
    obtain ⟨below, rfl⟩ : ∃ k, capacity = k + 1 := ⟨capacity - 1, by omega⟩
    have less : lane.items.length < below + 1 := by simpa using room
    show (lane.items ++ [admitted]).length ≤ below + 1
    rw [length_append, length_singleton]
    omega

/-- Other lanes do not see it. -/
theorem other {entry : LogEntry T}
    (elsewhere : entry.itemOn index = none) : LaneSound (log ++ [entry]) index lane := by
  have same : acceptedOn index (log ++ [entry]) = acceptedOn index log := by
    unfold acceptedOn
    rw [filterMap_append]
    simp [elsewhere]
  refine { sound with kept := ?_, begun := ?_ }
  · rw [same]
    exact sound.kept
  · rw [same]
    exact sound.begun

end

end LaneSound

/-! ### Steps -/

namespace Sound

variable {s : State T}

theorem new : Sound ({} : State T) where
  lanes := by simp
  known := by simp
  increasing := .nil
  counted := by simp [sequences]
  fenced := by simp
  behindFence := .nil
  terminated := by simp
  behindTermination := .nil

section

variable (sound : Sound s)
include sound

/-- A lane is replaced by one that fits the log as well. -/
theorem set {index : Nat} {lane : Lane T} (fits : LaneSound s.log index lane) :
    Sound { s with lanes := s.lanes.set index lane } := by
  refine { sound with lanes := fun other found there => ?_, known := ?_ }
  · by_cases same : index = other
    · subst same
      have inside : index < s.lanes.length := by
        have bound := (List.getElem?_eq_some_iff.mp there).1
        rwa [length_set] at bound
      rw [List.getElem?_set_self inside] at there
      cases there
      exact fits
    · rw [List.getElem?_set_ne same] at there
      exact sound.lanes other found there
  · intro entry member
    rw [length_set]
    exact sound.known entry member

theorem onLane (index : Nat) {enabled : Lane T → Bool} {update : Lane T → Checked (Lane T)}
    (keeps : ∀ lane, LaneSound s.log index lane → enabled lane = true →
      ∃ after, update lane = .ok after ∧ LaneSound s.log index after) :
    (s.onLane index enabled update).Satisfies Exhausted Sound := by
  unfold State.onLane
  cases there : s.lanes[index]? with
  | none => exact sound
  | some lane =>
    dsimp only
    split
    · rename_i holds
      obtain ⟨after, ran, fits⟩ := keeps lane (sound.lanes index lane there) holds
      rw [ran]
      exact sound.set fits
    · exact sound

theorem accept [Item T] {index : Nat} {lane : Lane T} (there : s.lanes[index]? = some lane)
    {item : T} {checkedAdd : Nanos → Option Nanos} {sequence : Nat} {admitted : T}
    {lifecycle : Lifecycle} {after : Lane T}
    (accepted : Accepted lane s.lifecycle item checkedAdd sequence admitted lifecycle after) :
    Sound {
      lifecycle, lanes := s.lanes.set index after
      log := s.log ++ [.accepted index lane.priority sequence (Item.fence item).isSome admitted] } := by
  obtain ⟨received, running, unfenced, room, rfl, -, counted, stillRunning, fence, rfl⟩ := accepted
  have inside : index < s.lanes.length := (List.getElem?_eq_some_iff.mp there).1
  have here := sound.lanes index lane there
  have grown : sequences (s.log ++ [.accepted index lane.priority (s.lifecycle.sequence + 1)
      (Item.fence item).isSome admitted]) = sequences s.log ++ [s.lifecycle.sequence + 1] := by
    unfold sequences
    rw [filterMap_append]
    rfl
  have unterminated : LogEntry.terminated ∉ s.log := by
    intro member
    have ended := sound.terminated member
    rw [running] at ended
    cases ended
  refine
    { lanes := fun other found there' => ?_
      known := fun entry member => ?_
      increasing := ?_
      counted := fun n member => ?_
      fenced := fun entry member isFence => ?_
      behindFence := ?_
      terminated := fun member => ?_
      behindTermination := ?_ }
  · by_cases same : index = other
    · subst same
      rw [List.getElem?_set_self inside] at there'
      cases there'
      exact here.admitted received room _ _ _ _
    · rw [List.getElem?_set_ne same] at there'
      exact (sound.lanes other found there').other (if_neg same)
  · rw [length_set]
    rcases mem_append.mp member with member | last
    · exact sound.known entry member
    · obtain rfl := mem_singleton.mp last
      exact inside
  · rw [grown]
    refine pairwise_append.mpr ⟨sound.increasing, pairwise_singleton _ _, ?_⟩
    intro a before b last
    obtain rfl := mem_singleton.mp last
    exact Nat.lt_succ_of_le (sound.counted a before)
  · rw [grown] at member
    show n ≤ lifecycle.sequence
    rw [counted]
    rcases mem_append.mp member with before | last
    · exact Nat.le_succ_of_le (sound.counted n before)
    · obtain rfl := mem_singleton.mp last
      exact Nat.le_refl _
  · show lifecycle.fence.isSome = true
    rw [fence, Bool.or_eq_true]
    rcases mem_append.mp member with member | last
    · exact .inl (sound.fenced entry member isFence)
    · obtain rfl := mem_singleton.mp last
      exact .inr isFence
  · refine pairwise_append.mpr ⟨sound.behindFence, pairwise_singleton _ _, ?_⟩
    intro a member b last isFence
    obtain rfl := mem_singleton.mp last
    have closed := sound.fenced a member isFence
    show (!lane.priority) = false
    cases priority : lane.priority with
    | true => rfl
    | false =>
      rw [unfenced priority] at closed
      cases closed
  · rcases mem_append.mp member with member | last
    · exact absurd member unterminated
    · cases mem_singleton.mp last
  · refine pairwise_append.mpr ⟨sound.behindTermination, pairwise_singleton _ _, ?_⟩
    rintro a member b _ rfl
    exact absurd member unterminated

/-- **An attempt keeps the gate sound**, and says why it was accepted or refused. -/
theorem attempt [Item T] {index : Nat} {lane : Lane T} (there : s.lanes[index]? = some lane)
    (item : T) (checkedAdd : Nanos → Option Nanos) :
    (s.attempt index lane item checkedAdd).Satisfies Exhausted fun (result, t) =>
      Sound t ∧
      match result with
      | .error error => t = s ∧ HandedBack item error
      | .ok _ => Enqueued s index lane item checkedAdd t := by
  have spec := lane.trySend_spec s.lifecycle item checkedAdd
  unfold State.attempt
  refine spec.bind ?_
  rintro ⟨result, lifecycle, after⟩ holds
  cases result with
  | error error =>
    obtain ⟨rfl, rfl, handedBack⟩ := holds
    have same : s.lanes.set index after = s.lanes := by
      obtain ⟨inside, rfl⟩ := List.getElem?_eq_some_iff.mp there
      exact set_getElem_self inside
    show Sound { s with lanes := s.lanes.set index after } ∧ _ ∧ _
    rw [same]
    exact ⟨sound, rfl, handedBack⟩
  | ok accepted =>
    obtain ⟨sequence, admitted⟩ := accepted
    exact ⟨sound.accept there holds, sequence, admitted, after, holds, rfl, rfl⟩

section

variable [Item T] (index : Nat) (item : T) (checkedAdd : Nanos → Option Nanos)

/-- A step of a caller that goes on to send. -/
theorem trySend :
    (s.trySend index item checkedAdd).Satisfies Exhausted Sound := by
  unfold State.trySend
  cases there : s.lanes[index]? with
  | none => exact sound
  | some lane =>
    dsimp only
    split
    · exact sound
    · refine (sound.attempt there item checkedAdd).bind ?_
      rintro ⟨result, t⟩ ⟨kept, _⟩
      exact kept

theorem send :
    (s.send index item checkedAdd).Satisfies Exhausted Sound := by
  unfold State.send
  cases there : s.lanes[index]? with
  | none => exact sound
  | some lane =>
    dsimp only
    split
    · exact sound
    · refine (sound.attempt there item checkedAdd).bind ?_
      rintro ⟨result, t⟩ ⟨kept, _⟩
      cases result with
      | ok _ => exact kept
      | error error =>
        cases error with
        | disconnected item => exact kept
        | full item => exact kept.onLane index fun lane fits _ => ⟨_, rfl, { fits with }⟩

end

theorem unblock (index position : Nat) :
    (s.unblock index position).Satisfies Exhausted Sound :=
  sound.onLane index fun _ fits _ => ⟨_, rfl, { fits with }⟩

theorem retry [Item T] (index position : Nat) (checkedAdd : Nanos → Option Nanos) :
    (s.retry index position checkedAdd).Satisfies Exhausted Sound := by
  unfold State.retry
  cases s.lanes[index]? with
  | none => exact sound
  | some lane =>
    dsimp only
    cases lane.blocked[position]? with
    | none => exact sound
    | some item =>
      exact (sound.unblock index position).bind fun t kept => kept.send index item checkedAdd

theorem terminate : Sound s.terminate := by
  unfold State.terminate
  split
  · exact sound
  · have quiet : sequences (s.log ++ [.terminated]) = sequences s.log := by
      unfold sequences
      rw [filterMap_append]
      simp [LogEntry.sequence?]
    refine
      { lanes := fun index lane there => (sound.lanes index lane there).other rfl
        known := fun entry member => ?_
        increasing := ?_
        counted := ?_
        fenced := fun entry member fence => ?_
        behindFence := ?_
        terminated := fun _ => rfl
        behindTermination := ?_ }
    · rcases mem_append.mp member with member | last
      · exact sound.known entry member
      · obtain rfl := mem_singleton.mp last
        trivial
    · rw [quiet]
      exact sound.increasing
    · rw [quiet]
      exact sound.counted
    · rcases mem_append.mp member with member | last
      · exact sound.fenced entry member fence
      · obtain rfl := mem_singleton.mp last
        cases fence
    · refine pairwise_append.mpr ⟨sound.behindFence, pairwise_singleton _ _, ?_⟩
      intro a _ b last _
      obtain rfl := mem_singleton.mp last
      rfl
    · refine pairwise_append.mpr ⟨sound.behindTermination, pairwise_singleton _ _, ?_⟩
      intro a _ b last _
      obtain rfl := mem_singleton.mp last
      rfl

theorem channel (capacity : Option Nat) (priority : Bool) :
    Sound { s with lanes := s.lanes ++ [{ capacity, priority }] } := by
  refine { sound with lanes := fun index lane there => ?_, known := fun entry member => ?_ }
  · by_cases inside : index < s.lanes.length
    · rw [List.getElem?_append_left inside] at there
      exact sound.lanes index lane there
    · rw [List.getElem?_append_right (Nat.le_of_not_lt inside)] at there
      obtain ⟨_, rfl⟩ : index = s.lanes.length ∧ lane = { capacity, priority } := by
        have bound := (List.getElem?_eq_some_iff.mp there).1
        rw [length_singleton] at bound
        have first : index = s.lanes.length := by omega
        rw [first, Nat.sub_self] at there
        exact ⟨first, (Option.some.inj there).symm⟩
      refine .new capacity priority (acceptedOn_eq_nil fun entry member => ?_)
      have known := sound.known entry member
      cases entry with
      | terminated => trivial
      | accepted lane' => exact Nat.lt_of_lt_of_le known (Nat.le_of_not_lt inside)
  · have known := sound.known entry member
    cases entry with
    | terminated => trivial
    | accepted lane =>
      show lane < (s.lanes ++ [_]).length
      rw [length_append]
      exact Nat.lt_add_right _ known

/-- **Every step keeps the gate sound.** -/
theorem step [Item T] (op : Op T) : (s.step op).Satisfies Exhausted Sound := by
  cases op with
  | channel capacity priority => exact sound.channel capacity priority
  | cloneSender index =>
    refine sound.onLane index fun lane fits alive => ⟨_, rfl, ?_⟩
    have some_ : lane.senders ≠ 0 := by simpa using alive
    exact { fits with orphaned := fun dropping => absurd (fits.orphaned dropping) some_ }
  | dropSender index =>
    refine sound.onLane index fun lane fits _ => ⟨_, rfl, ?_⟩
    refine { fits with orphaned := fun dropping => ?_ }
    have none_ := fits.orphaned dropping
    show lane.senders - 1 = 0
    omega
  | trySend index item checkedAdd => exact sound.trySend index item checkedAdd
  | send index item checkedAdd => exact sound.send index item checkedAdd
  | retry index position checkedAdd => exact sound.retry index position checkedAdd
  | cancelSend index position => exact sound.unblock index position
  | tryRecv index =>
    refine sound.onLane index fun lane fits holds => ⟨_, rfl, ?_⟩
    have received : lane.receivers ≠ 0 := by simpa using holds
    cases found : lane.deliver with
    | none => exact fits
    | some after => exact fits.deliver received found
  | drain index =>
    exact sound.onLane index fun lane fits holds => ⟨_, rfl, fits.drain (by simpa using holds)⟩
  | recv index =>
    exact sound.onLane index fun lane fits holds => ⟨_, rfl, fits.recv (by simpa using holds)⟩
  | register index =>
    exact sound.onLane index fun lane fits holds => ⟨_, rfl, fits.register (by simpa using holds)⟩
  | poll index => exact sound.onLane index fun lane fits holds => fits.poll (by simpa using holds)
  | finish index =>
    refine sound.onLane index fun lane fits holds => ?_
    obtain ⟨after, ran, kept⟩ := fits.finish (by simpa using holds)
    exact ⟨_, by rw [ran]; rfl, kept⟩
  | cancelRecv index =>
    refine sound.onLane index fun lane fits holds => ?_
    obtain ⟨after, ran, kept⟩ := fits.cancelRecv (by simpa using holds)
    exact ⟨_, by rw [ran]; rfl, kept⟩
  | dropReceiver index =>
    refine sound.onLane index fun lane fits holds => ⟨_, rfl, fits.dropReceiver ?_⟩
    have still := of_decide_eq_true holds
    exact still.2
  | terminate => exact sound.terminate
  | clearDeadline => exact { sound with }

end

end Sound

/-- A rendezvous lane with a sender has room only for a receive that waits for it. -/
theorem LaneSound.rendezvous_room {log : List (LogEntry T)} {index : Nat} {lane : Lane T}
    (sound : LaneSound log index lane) (held : lane.senders ≠ 0) (room : lane.available = true)
    (rendezvous : lane.capacity = some 0) : lane.items.length < lane.parked := by
  have waiting := sound.waiting
  have meets : lane.rendezvous = true := by
    unfold Lane.rendezvous
    rw [rendezvous]
    rfl
  rw [if_pos meets] at waiting
  have none_ : lane.dropping = 0 := by
    by_contra dropping
    exact held (sound.orphaned dropping)
  unfold Lane.available at room
  rw [rendezvous] at room
  have fewer : lane.items.length < lane.waitingReceivers := by simpa using room
  omega

/-- A step on a lane that is there, by a caller with the handle it needs. -/
theorem State.onLane_run {s : State T} {index : Nat} {lane after : Lane T} (enabled : Lane T → Bool)
    (update : Lane T → Checked (Lane T)) (there : s.lanes[index]? = some lane)
    (holds : enabled lane = true) (ran : update lane = .ok after) :
    ∃ t, s.onLane index enabled update = .ok t ∧ t.lanes[index]? = some after := by
  have inside := (List.getElem?_eq_some_iff.mp there).1
  refine ⟨{ s with lanes := s.lanes.set index after }, ?_, List.getElem?_set_self inside⟩
  unfold State.onLane
  rw [there]
  dsimp only
  rw [if_pos holds, ran]
  rfl

/-- **A receive on a lane that holds a request gets the first one**, in each of its sections; a drain
gets them all. -/
theorem Sound.handsOver [Item T] {s : State T} (sound : Sound s) {index : Nat} {lane : Lane T}
    (there : s.lanes[index]? = some lane) (received : lane.receivers ≠ 0) (some_ : lane.items ≠ []) :
    HandsOver s (.tryRecv index) index lane 1 ∧ HandsOver s (.recv index) index lane 1 ∧
    (lane.parked ≠ 0 → HandsOver s (.poll index) index lane 1) ∧
    HandsOver s (.drain index) index lane lane.items.length := by
  obtain ⟨item, rest, split⟩ := List.exists_cons_of_ne_nil some_
  have delivers : lane.deliver =
      some { lane with items := rest, delivered := lane.delivered ++ [item] } := by
    unfold Lane.deliver
    rw [split]
  let open_ : Lane T → Bool := fun lane => decide (lane.receivers ≠ 0)
  have holds : open_ lane = true := decide_eq_true received
  refine ⟨?_, ?_, fun parked => ?_, ?_⟩
  · obtain ⟨t, ran, after⟩ := State.onLane_run open_ (fun lane => .ok (lane.deliver.getD lane)) there
      holds rfl
    exact ⟨t, _, ran, after, by simp [delivers, split], by simp [delivers, split]⟩
  · obtain ⟨t, ran, after⟩ := State.onLane_run open_ (fun lane => .ok lane.recv) there holds rfl
    exact ⟨t, _, ran, after, by simp [Lane.recv, delivers, split], by simp [Lane.recv, delivers, split]⟩
  · have kept := (sound.lanes index lane there).deliver received delivers
    obtain ⟨waiting, left, -⟩ := kept.deregister (by simp only; omega)
    have ran : lane.poll = .ok { lane with
        items := rest
        delivered := lane.delivered ++ [item]
        waitingReceivers := waiting
        parked := lane.parked - 1 } := by
      unfold Lane.poll
      rw [delivers]
      exact Checked.bind_ok.mpr ⟨_, left, rfl⟩
    obtain ⟨t, ran, after⟩ := State.onLane_run (fun lane => decide (lane.parked ≠ 0)) Lane.poll there
      (decide_eq_true parked) ran
    exact ⟨t, _, ran, after, by simp [split], by simp [split]⟩
  · obtain ⟨t, ran, after⟩ := State.onLane_run open_ (fun lane => .ok lane.drain) there holds rfl
    exact ⟨t, _, ran, after, by simp [Lane.drain], by simp [Lane.drain]⟩

/-- **The admission gate**, in every interleaving of calls on any number of lanes:

* accepted requests get increasing numbers;
* a lane delivers what it accepted, in that order, and keeps the rest until its receiver is dropped; a
  receive that finds requests gets the first one;
* a lane of capacity `c ≥ 1` holds at most `c` requests;
* behind a fence only priority lanes accept, and behind termination none does;
* a refused request is handed back with nothing changed, an accepted one is the caller's with its
  number, and a rendezvous lane accepts one only while more receives wait than requests are queued. -/
theorem admission_gate [Item T] (ops : List (Op T)) :
    (runSteps State.step ({} : State T) ops).Satisfies Exhausted fun s =>
      (sequences s.log).Pairwise (· < ·) ∧
      (∀ index lane, s.lanes[index]? = some lane → lane.delivered <+: acceptedOn index s.log ∧
        (lane.receivers ≠ 0 → lane.delivered ++ lane.items = acceptedOn index s.log) ∧
        (∀ capacity, lane.capacity = some capacity → 1 ≤ capacity → lane.items.length ≤ capacity) ∧
        (lane.receivers ≠ 0 → lane.items ≠ [] →
          HandsOver s (.tryRecv index) index lane 1 ∧ HandsOver s (.recv index) index lane 1 ∧
          (lane.parked ≠ 0 → HandsOver s (.poll index) index lane 1) ∧
          HandsOver s (.drain index) index lane lane.items.length)) ∧
      (s.log.Pairwise fun a b => a.isFence = true → b.isOrdinary = false) ∧
      (s.log.Pairwise fun a b => a = .terminated → b.isAccepted = false) ∧
      ∀ index lane item checkedAdd, s.lanes[index]? = some lane → lane.senders ≠ 0 →
        (s.attempt index lane item checkedAdd).Satisfies Exhausted fun (result, t) =>
          match result with
          | .error error => t = s ∧ HandedBack item error
          | .ok _ => Enqueued s index lane item checkedAdd t ∧
              (lane.capacity = some 0 → lane.items.length < lane.parked) := by
  refine (runSteps_invariant (fun s op sound => Sound.step sound op) Sound.new ops).mono ?_
  intro s sound
  refine ⟨sound.increasing, fun index lane there => ?_, sound.behindFence, sound.behindTermination, ?_⟩
  · have fits := sound.lanes index lane there
    exact ⟨fits.begun, fits.kept, fits.room, sound.handsOver there⟩
  · intro index lane item checkedAdd there held
    refine (sound.attempt there item checkedAdd).mono ?_
    rintro ⟨result, t⟩ ⟨_, outcome⟩
    cases result with
    | error error => exact outcome
    | ok _ =>
      obtain ⟨_, _, _, accepted, -⟩ := id outcome
      exact ⟨outcome, (sound.lanes index lane there).rendezvous_room held accepted.room⟩

end Sections

end Rumqtt.Admission
