/-
**The outbound scheduler.**

`OutboundScheduler` holds the requests that wait to be written. `nextReadyIndex` selects one of them:
the front if it is ready, or a ready control request behind publishes that flow control blocks. How a
request is classified is asked anew at every call.

* `nextReadyIndex_eq_some` says all that one scan can select.
* A `Trace` numbers the requests in the order they are pushed and records how each was classified when
  it left. `run_eq_trace`: the numbers change nothing.
* `scheduling_order` is what holds of every sequence of calls. A request whose class changes while it
  waits can be overtaken by a control request it would otherwise have held back; the order of control
  requests among themselves and the strength of a fence hold for classes that are fixed.
-/

import Mathlib.Data.List.Induction
import Mathlib.Data.List.Perm.Basic
import Mathlib.Data.List.Pairwise

namespace Rumqtt

open List

inductive RequestClass where
  | flowControlledPublish
  | publish
  | control
  /-- An ordering boundary. Only selectable at the front of the queue. -/
  | fence
  deriving DecidableEq, Repr

inductive RequestReadiness where
  | ready
  | blocked
  deriving DecidableEq, Repr

structure ScheduledRequest where
  class_ : RequestClass
  readiness : RequestReadiness
  deriving DecidableEq, Repr

structure OutboundScheduler (α : Type) where
  queue : List α
  deriving Repr

namespace OutboundScheduler

variable {α β : Type}

def empty : OutboundScheduler α := ⟨[]⟩

def pushBack (s : OutboundScheduler α) (item : α) : OutboundScheduler α := ⟨s.queue ++ [item]⟩

/-- The loop of `next_ready_index`, from an index on. -/
def scan (classify : α → ScheduledRequest) : (index : Nat) → (canBypass : Bool) → List α → Option Nat
  | _, _, [] => none
  | index, canBypass, item :: rest =>
    let request := classify item
    -- no later control may cross the boundary, also when it is blocked at the front
    if request.class_ = .fence then
      if index = 0 ∧ request.readiness = .ready then some index else none
    else match request.class_, request.readiness with
      | class_, .ready =>
        if index = 0 then some index
        else if class_ = .control ∧ canBypass = true then some index
        else scan classify (index + 1) false rest
      | .flowControlledPublish, .blocked => scan classify (index + 1) canBypass rest
      | _, .blocked => scan classify (index + 1) false rest

section

variable (s : OutboundScheduler α) (classify : α → ScheduledRequest)

def nextReadyIndex : Option Nat := scan classify 0 true s.queue

def hasReady : Bool := (s.nextReadyIndex classify).isSome

def popNext :
    Option α × OutboundScheduler α :=
  match s.nextReadyIndex classify with
  | none => (none, s)
  | some index => (s.queue[index]?, ⟨s.queue.eraseIdx index⟩)

end

/-! ### What one scan selects -/

/-- A publish that flow control holds back. -/
def HeldBack (request : ScheduledRequest) : Prop :=
  request.class_ = .flowControlledPublish ∧ request.readiness = .blocked

section

variable (classify : α → ScheduledRequest)

/-- **A request may leave** from behind these. -/
def MayLeave (before : List α) (item : α) : Prop :=
  (classify item).readiness = .ready ∧
    (before ≠ [] → (classify item).class_ = .control ∧ ∀ other ∈ before, HeldBack (classify other))

/-- Behind a request that cannot be bypassed, nothing is selected. -/
theorem scan_stopped (queue : List α) {index : Nat}
    (later : index ≠ 0) : scan classify index false queue = none := by
  induction queue generalizing index with
  | nil => rfl
  | cons item rest ih =>
    unfold scan
    obtain ⟨class_, readiness⟩ := classify item
    cases class_ <;> cases readiness <;> simp [later, ih (Nat.succ_ne_zero index)]

/-- Behind publishes that are held back, the first control request is selected if it is ready. -/
theorem scan_behind (queue : List α) {index : Nat} (later : index ≠ 0) {selected : Nat} :
    scan classify index true queue = some selected ↔
      ∃ before item after, queue = before ++ item :: after ∧ selected = index + before.length ∧
        (∀ other ∈ before, HeldBack (classify other)) ∧
        (classify item).class_ = .control ∧ (classify item).readiness = .ready := by
  induction queue generalizing index with
  | nil => simp [scan]
  | cons first rest ih =>
    have step : (∃ before item after, first :: rest = before ++ item :: after ∧
        selected = index + before.length ∧ (∀ other ∈ before, HeldBack (classify other)) ∧
        (classify item).class_ = .control ∧ (classify item).readiness = .ready) ↔
        (selected = index ∧ (classify first).class_ = .control ∧
          (classify first).readiness = .ready) ∨
        (HeldBack (classify first) ∧ ∃ before item after, rest = before ++ item :: after ∧
          selected = index + 1 + before.length ∧ (∀ other ∈ before, HeldBack (classify other)) ∧
          (classify item).class_ = .control ∧ (classify item).readiness = .ready) := by
      constructor
      · rintro ⟨_ | ⟨head, before⟩, item, after, split, rfl, held, control, ready⟩
        · cases split
          exact .inl ⟨rfl, control, ready⟩
        · cases split
          refine .inr ⟨held first (mem_cons_self ..), before, item, after, rfl, ?_, ?_, control,
            ready⟩
          · rw [length_cons]
            omega
          · exact fun other member => held other (mem_cons_of_mem _ member)
      · rintro (⟨rfl, control, ready⟩ | ⟨here, before, item, after, rfl, rfl, held, control, ready⟩)
        · exact ⟨[], first, rest, rfl, rfl, by simp, control, ready⟩
        · refine ⟨first :: before, item, after, rfl, ?_, ?_, control, ready⟩
          · rw [length_cons]
            omega
          · intro other member
            rcases mem_cons.mp member with rfl | member
            · exact here
            · exact held other member
    rw [step]
    rw [← ih (Nat.succ_ne_zero index)]
    conv_lhs => unfold scan
    unfold HeldBack
    have stopped := scan_stopped classify rest (Nat.succ_ne_zero index)
    obtain ⟨class_, readiness⟩ := classify first
    cases class_ <;> cases readiness <;> simp [later, stopped, eq_comm (a := selected)]

end

section

variable (s : OutboundScheduler α) (classify : α → ScheduledRequest)

/-- **All that a scan selects**: the front if it is ready, or a ready control request behind publishes
that are held back. -/
theorem nextReadyIndex_eq_some {index : Nat} : s.nextReadyIndex classify = some index ↔
      ∃ before item after, s.queue = before ++ item :: after ∧ index = before.length ∧
        MayLeave classify before item := by
  obtain ⟨queue⟩ := s
  cases queue with
  | nil => simp [nextReadyIndex, scan]
  | cons first rest =>
    have step : (∃ before item after, first :: rest = before ++ item :: after ∧
        index = before.length ∧ MayLeave classify before item) ↔
        (index = 0 ∧ (classify first).readiness = .ready) ∨
        (HeldBack (classify first) ∧ ∃ before item after, rest = before ++ item :: after ∧
          index = 1 + before.length ∧ (∀ other ∈ before, HeldBack (classify other)) ∧
          (classify item).class_ = .control ∧ (classify item).readiness = .ready) := by
      constructor
      · rintro ⟨_ | ⟨head, before⟩, item, after, split, rfl, ready, bypasses⟩
        · cases split
          exact .inl ⟨rfl, ready⟩
        · cases split
          obtain ⟨control, held⟩ := bypasses (cons_ne_nil _ _)
          refine .inr ⟨held first (mem_cons_self ..), before, item, after, rfl, ?_, ?_, control,
            ready⟩
          · rw [length_cons]
            omega
          · exact fun other member => held other (mem_cons_of_mem _ member)
      · rintro (⟨rfl, ready⟩ | ⟨here, before, item, after, rfl, rfl, held, control, ready⟩)
        · exact ⟨[], first, rest, rfl, rfl, ready, fun some_ => absurd rfl some_⟩
        · refine ⟨first :: before, item, after, rfl, ?_, ready, fun _ => ⟨control, ?_⟩⟩
          · rw [length_cons]
            omega
          · intro other member
            rcases mem_cons.mp member with rfl | member
            · exact here
            · exact held other member
    rw [step, ← scan_behind classify rest Nat.one_ne_zero]
    unfold nextReadyIndex HeldBack
    conv_lhs => unfold scan
    have stopped := scan_stopped classify rest Nat.one_ne_zero
    obtain ⟨class_, readiness⟩ := classify first
    cases class_ <;> cases readiness <;> simp [stopped, eq_comm (a := index)]

/-- **What `pop_next` does**: a request that may leave is taken out of the queue, or there is none. -/
theorem popNext_spec :
    match s.popNext classify with
    | (some item, t) => s.hasReady classify = true ∧ ∃ before after,
        s.queue = before ++ item :: after ∧ t.queue = before ++ after ∧ MayLeave classify before item
    | (none, t) => s.hasReady classify = false ∧ t = s := by
  unfold popNext hasReady
  cases selected : s.nextReadyIndex classify with
  | none => exact ⟨rfl, rfl⟩
  | some index =>
    obtain ⟨before, item, after, split, rfl, leaves⟩ := (s.nextReadyIndex_eq_some classify).mp selected
    have found : s.queue[before.length]? = some item := by
      rw [split]
      simp
    have erased : s.queue.eraseIdx before.length = before ++ after := by
      rw [split, eraseIdx_append_of_length_le (Nat.le_refl _)]
      simp
    dsimp only
    rw [found, erased]
    exact ⟨rfl, before, after, split, rfl, leaves⟩

end

theorem scan_map (f : α → β) (classify : β → ScheduledRequest) (index : Nat) (canBypass : Bool)
    (queue : List α) :
    scan classify index canBypass (queue.map f) = scan (classify ∘ f) index canBypass queue := by
  induction queue generalizing index canBypass with
  | nil => rfl
  | cons item rest ih =>
    rw [map_cons]
    unfold scan
    simp only [Function.comp_apply, ih]

/-- The scheduler looks at its items through their classification only. -/
theorem popNext_map (f : α → β) (classify : β → ScheduledRequest) (queue : List α) :
    popNext ⟨queue.map f⟩ classify =
      ((popNext ⟨queue⟩ (classify ∘ f)).1.map f, ⟨(popNext ⟨queue⟩ (classify ∘ f)).2.queue.map f⟩) := by
  unfold popNext nextReadyIndex
  dsimp only
  rw [scan_map]
  cases scan (classify ∘ f) 0 true queue with
  | none => rfl
  | some index =>
    dsimp only
    rw [List.getElem?_map, eraseIdx_map]

/-! ### Sequences of calls -/

/-- A call of the scheduler, with the classification at that moment. -/
inductive Call (α : Type) where
  | pushBack (item : α)
  | popNext (classify : α → ScheduledRequest)

/-- A scheduler and the items that have left it. -/
def step : OutboundScheduler α × List α → Call α → OutboundScheduler α × List α
  | (s, left), .pushBack item => (s.pushBack item, left)
  | (s, left), .popNext classify =>
    let (item, s) := s.popNext classify
    (s, left ++ item.toList)

/-- **The scheduler after a sequence of calls**, and what has left it, in order. -/
def run (calls : List (Call α)) : OutboundScheduler α × List α := calls.foldl step (empty, [])

/-- An item with the number of items that were pushed before it. -/
structure Ticketed (α : Type) where
  number : Nat
  item : α
  deriving DecidableEq, Repr

/-- An item that has left, and how it was classified then. -/
structure Departure (α : Type) extends Ticketed α where
  request : ScheduledRequest
  deriving DecidableEq, Repr

/-- **A history of the scheduler**: what was pushed, what waits and what has left. -/
structure Trace (α : Type) where
  pushed : List α
  scheduler : OutboundScheduler (Ticketed α)
  left : List (Departure α)

namespace Trace

def empty : Trace α := ⟨[], .empty, []⟩

def step (trace : Trace α) : Call α → Trace α
  | .pushBack item =>
    { trace with
      pushed := trace.pushed ++ [item]
      scheduler := trace.scheduler.pushBack ⟨trace.pushed.length, item⟩ }
  | .popNext classify =>
    match trace.scheduler.popNext (classify ∘ Ticketed.item) with
    | (none, _) => trace
    | (some ticketed, scheduler) =>
      { trace with
        scheduler
        left := trace.left ++ [{ ticketed with request := classify ticketed.item }] }

end Trace

section

variable (calls : List (Call α))

/-- The history of a sequence of calls. -/
def trace : Trace α := calls.foldl Trace.step .empty

theorem trace_concat (call : Call α) :
    trace (calls ++ [call]) = (trace calls).step call := by
  unfold trace
  rw [foldl_append]
  rfl

theorem run_concat (call : Call α) :
    run (calls ++ [call]) = step (run calls) call := by
  unfold run
  rw [foldl_append]
  rfl

/-- **The numbers change nothing.** -/
theorem run_eq_trace : run calls = (⟨(trace calls).scheduler.queue.map Ticketed.item⟩,
      (trace calls).left.map fun departure => departure.item) := by
  induction calls using List.reverseRecOn with
  | nil => rfl
  | append_singleton calls call ih =>
    rw [run_concat, trace_concat, ih]
    cases call with
    | pushBack item =>
      show (OutboundScheduler.mk (_ ++ [item]), _) =
        (OutboundScheduler.mk ((_ ++ [_]).map Ticketed.item), _)
      rw [map_append]
      rfl
    | popNext classify =>
      unfold step Trace.step
      dsimp only
      rw [popNext_map]
      have spec := (trace calls).scheduler.popNext_spec (classify ∘ Ticketed.item)
      cases popped : (trace calls).scheduler.popNext (classify ∘ Ticketed.item) with
      | mk item rest =>
        rw [popped] at spec
        cases item with
        | none =>
          obtain rfl := spec.2
          simp
        | some ticketed => simp

end

/-! ### What every history satisfies -/

/-- The items that were pushed, with their numbers. -/
def tickets (pushed : List α) : List (Ticketed α) :=
  pushed.zipIdx.map fun (item, number) => ⟨number, item⟩

theorem tickets_concat (pushed : List α) (item : α) :
    tickets (pushed ++ [item]) = tickets pushed ++ [⟨pushed.length, item⟩] := by
  unfold tickets
  rw [zipIdx_append, map_append]
  simp

theorem number_lt_of_mem_tickets {pushed : List α} {ticketed : Ticketed α}
    (member : ticketed ∈ tickets pushed) : ticketed.number < pushed.length := by
  obtain ⟨⟨item, number⟩, inside, rfl⟩ := mem_map.mp member
  have bound := snd_lt_of_mem_zipIdx inside
  rwa [Nat.add_zero] at bound

/-- **Order, loss and duplication in a history.** -/
structure Sound (trace : Trace α) : Prop where
  /-- What waits, waits in the order it was pushed. -/
  sorted : trace.scheduler.queue.Pairwise fun a b => a.number < b.number
  /-- Nothing is lost, and nothing is there twice. -/
  complete : (trace.left.map Departure.toTicketed ++ trace.scheduler.queue).Perm
    (tickets trace.pushed)
  /-- What leaves as a publish or as a fence has everything that leaves later behind it. -/
  ordered : trace.left.Pairwise fun d e => d.request.class_ ≠ .control → d.number < e.number
  /-- … and everything that still waits. -/
  front : ∀ d ∈ trace.left, d.request.class_ ≠ .control →
    ∀ e ∈ trace.scheduler.queue, d.number < e.number

/-- **Nothing overtakes a request that is not a publish under flow control**, if classes are fixed. -/
structure InClassOrder (class_ : α → RequestClass) (trace : Trace α) : Prop where
  ordered : trace.left.Pairwise fun d e =>
    class_ e.item ≠ .flowControlledPublish → d.number < e.number
  front : ∀ d ∈ trace.left, ∀ e ∈ trace.scheduler.queue,
    class_ e.item ≠ .flowControlledPublish → d.number < e.number

namespace Sound

variable {trace : Trace α}

theorem empty : Sound (α := α) Trace.empty where
  sorted := .nil
  complete := .refl _
  ordered := .nil
  front := by simp [Trace.empty]

theorem number_lt_of_waiting (sound : Sound trace) {e : Ticketed α}
    (waits : e ∈ trace.scheduler.queue) : e.number < trace.pushed.length := by
  refine number_lt_of_mem_tickets (sound.complete.subset ?_)
  exact mem_append_right _ waits

theorem number_lt_of_left (sound : Sound trace) {d : Departure α} (left : d ∈ trace.left) :
    d.number < trace.pushed.length := by
  have pushed : d.toTicketed ∈ tickets trace.pushed := by
    refine sound.complete.subset ?_
    exact mem_append_left _ (mem_map_of_mem left)
  exact number_lt_of_mem_tickets pushed

theorem pushBack (sound : Sound trace) (item : α) : Sound (trace.step (.pushBack item)) where
  sorted := by
    refine pairwise_append.mpr ⟨sound.sorted, pairwise_singleton _ _, ?_⟩
    intro a waits b last
    obtain rfl := mem_singleton.mp last
    exact sound.number_lt_of_waiting waits
  complete := by
    show (_ ++ (trace.scheduler.queue ++ [_])).Perm (tickets (trace.pushed ++ [item]))
    rw [tickets_concat, ← append_assoc]
    exact sound.complete.append_right _
  ordered := sound.ordered
  front := by
    intro d left outside e waits
    rcases mem_append.mp waits with waits | last
    · exact sound.front d left outside e waits
    · obtain rfl := mem_singleton.mp last
      exact sound.number_lt_of_left left

/-- One item leaves a history. -/
theorem leave (sound : Sound trace) {before after : List (Ticketed α)} {ticketed : Ticketed α}
    (split : trace.scheduler.queue = before ++ ticketed :: after) {request : ScheduledRequest}
    (front : request.class_ ≠ .control → before = []) :
    Sound { trace with
      scheduler := ⟨before ++ after⟩
      left := trace.left ++ [{ ticketed with request }] } where
  sorted := by
    have sorted := sound.sorted
    rw [split] at sorted
    exact sorted.sublist ((sublist_cons_self _ _).append_left before)
  complete := by
    have complete := sound.complete
    rw [split] at complete
    refine List.Perm.trans ?_ complete
    rw [map_append, append_assoc]
    refine List.Perm.append_left _ ?_
    show (ticketed :: (before ++ after)).Perm _
    exact perm_middle.symm
  ordered := by
    refine pairwise_append.mpr ⟨sound.ordered, pairwise_singleton _ _, ?_⟩
    intro d left e last outside
    obtain rfl := mem_singleton.mp last
    refine sound.front d left outside ticketed ?_
    rw [split]
    exact mem_append_right _ (mem_cons_self ..)
  front := by
    intro d left outside e waits
    have waited : e ∈ trace.scheduler.queue := by
      rw [split]
      rcases mem_append.mp waits with waits | waits
      · exact mem_append_left _ waits
      · exact mem_append_right _ (mem_cons_of_mem _ waits)
    rcases mem_append.mp left with left | last
    · exact sound.front d left outside e waited
    · obtain rfl := mem_singleton.mp last
      obtain rfl := front outside
      have sorted := sound.sorted
      rw [split] at sorted
      exact rel_of_pairwise_cons sorted waits

end Sound

/-- What a call of `pop_next` does to a history. -/
theorem Trace.popNext_cases (trace : Trace α) (classify : α → ScheduledRequest) :
    trace.step (.popNext classify) = trace ∨
    ∃ before ticketed after, trace.scheduler.queue = before ++ ticketed :: after ∧
      MayLeave (classify ∘ Ticketed.item) before ticketed ∧
      trace.step (.popNext classify) =
        { trace with
          scheduler := ⟨before ++ after⟩
          left := trace.left ++ [{ ticketed with request := classify ticketed.item }] } := by
  have spec := trace.scheduler.popNext_spec (classify ∘ Ticketed.item)
  unfold step
  cases popped : trace.scheduler.popNext (classify ∘ Ticketed.item) with
  | mk item rest =>
    rw [popped] at spec
    cases item with
    | none =>
      refine .inl ?_
      dsimp only
      rw [popped]
    | some ticketed =>
      obtain ⟨_, before, after, split, kept, leaves⟩ := spec
      refine .inr ⟨before, ticketed, after, split, leaves, ?_⟩
      dsimp only
      rw [popped, ← kept]

theorem Sound.step {trace : Trace α} (sound : Sound trace) (call : Call α) :
    Sound (trace.step call) := by
  cases call with
  | pushBack item => exact sound.pushBack item
  | popNext classify =>
    obtain same | ⟨before, ticketed, after, split, leaves, same⟩ := trace.popNext_cases classify
    · rwa [same]
    · rw [same]
      refine sound.leave split fun outside => ?_
      by_contra bypassed
      exact outside (leaves.2 bypassed).1

theorem InClassOrder.step {class_ : α → RequestClass} {trace : Trace α} (sound : Sound trace)
    (order : InClassOrder class_ trace) {call : Call α}
    (fixed : ∀ classify, call = .popNext classify → ∀ item, (classify item).class_ = class_ item) :
    InClassOrder class_ (trace.step call) := by
  cases call with
  | pushBack item =>
    refine ⟨order.ordered, fun d left e waits outside => ?_⟩
    rcases mem_append.mp waits with waits | last
    · exact order.front d left e waits outside
    · obtain rfl := mem_singleton.mp last
      exact sound.number_lt_of_left left
  | popNext classify =>
    obtain same | ⟨before, ticketed, after, split, leaves, same⟩ := trace.popNext_cases classify
    · rwa [same]
    · have sorted := sound.sorted
      rw [split, pairwise_append, pairwise_cons] at sorted
      have here : ticketed ∈ trace.scheduler.queue := by
        rw [split]
        exact mem_append_right _ (mem_cons_self ..)
      rw [same]
      constructor
      · refine pairwise_append.mpr ⟨order.ordered, pairwise_singleton _ _, ?_⟩
        intro d left e last outside
        obtain rfl := mem_singleton.mp last
        exact order.front d left ticketed here outside
      · intro d left e waits outside
        have waited : e ∈ trace.scheduler.queue := by
          rw [split]
          rcases mem_append.mp waits with waits | waits
          · exact mem_append_left _ waits
          · exact mem_append_right _ (mem_cons_of_mem _ waits)
        rcases mem_append.mp left with left | last
        · exact order.front d left e waited outside
        · obtain rfl := mem_singleton.mp last
          rcases mem_append.mp waits with waits | waits
          · -- what was bypassed is a publish under flow control
            have held := (leaves.2 (ne_nil_of_mem waits)).2 e waits
            exact absurd ((fixed classify rfl e.item).symm.trans held.1) outside
          · exact sorted.2.1.1 e waits

theorem sound_trace (calls : List (Call α)) : Sound (trace calls) := by
  induction calls using List.reverseRecOn with
  | nil => exact .empty
  | append_singleton calls call ih =>
    rw [trace_concat]
    exact ih.step call

theorem inClassOrder_trace {class_ : α → RequestClass} {calls : List (Call α)}
    (fixed : ∀ classify, .popNext classify ∈ calls → ∀ item, (classify item).class_ = class_ item) :
    InClassOrder class_ (trace calls) := by
  induction calls using List.reverseRecOn with
  | nil => exact ⟨.nil, by simp [trace, Trace.empty]⟩
  | append_singleton calls call ih =>
    rw [trace_concat]
    refine InClassOrder.step (sound_trace calls) (ih fun classify member => ?_) fun classify same => ?_
    · exact fixed classify (mem_append_left _ member)
    · exact fixed classify (mem_append_right _ (by rw [same]; exact mem_singleton_self _))

/-- **The order of the outbound scheduler**, for every sequence of calls and whatever the
classifications at each call:

* the history tells what has left the scheduler and what waits in it; nothing is lost or duplicated;
* when a request leaves as a publish or as a fence, all that was pushed before it and leaves at all has
  left, so that publishes and fences leave in the order they were pushed;
* `has_ready` holds exactly if `pop_next` returns a request, which is ready, and in front of which
  only publishes wait that flow control blocks at that moment, and those only if it is a control
  request;
* if the class of a request is fixed, then a request that is not a publish under flow control, such as
  a control request or a fence, leaves before everything pushed after it. -/
theorem scheduling_order (calls : List (Call α)) :
    run calls = (⟨(trace calls).scheduler.queue.map Ticketed.item⟩,
      (trace calls).left.map fun departure => departure.item) ∧
    ((trace calls).left.map Departure.toTicketed ++ (trace calls).scheduler.queue).Perm
      (tickets (trace calls).pushed) ∧
    ((trace calls).left.Pairwise fun d e => d.request.class_ ≠ .control → d.number < e.number) ∧
    (∀ classify, match (trace calls).scheduler.popNext (classify ∘ Ticketed.item) with
      | (some leaving, _) => (run calls).1.hasReady classify = true ∧
          (classify leaving.item).readiness = .ready ∧
          ∀ other ∈ (trace calls).scheduler.queue, other.number < leaving.number →
            (classify leaving.item).class_ = .control ∧ HeldBack (classify other.item)
      | (none, _) => (run calls).1.hasReady classify = false) ∧
    (∀ class_ : α → RequestClass,
      (∀ classify, .popNext classify ∈ calls → ∀ item, (classify item).class_ = class_ item) →
      ((trace calls).left.Pairwise fun d e =>
        class_ e.item ≠ .flowControlledPublish → d.number < e.number) ∧
      ∀ d ∈ (trace calls).left, ∀ e ∈ (trace calls).scheduler.queue,
        class_ e.item ≠ .flowControlledPublish → d.number < e.number) := by
  have sound := sound_trace calls
  refine ⟨run_eq_trace calls, sound.complete, sound.ordered, fun classify => ?_, fun class_ fixed => ?_⟩
  · have ready : (run calls).1.hasReady classify =
        (trace calls).scheduler.hasReady (classify ∘ Ticketed.item) := by
      rw [run_eq_trace]
      exact congrArg Option.isSome (scan_map _ _ _ _ _)
    have spec := (trace calls).scheduler.popNext_spec (classify ∘ Ticketed.item)
    rw [ready]
    cases popped : (trace calls).scheduler.popNext (classify ∘ Ticketed.item) with
    | mk item rest =>
      rw [popped] at spec
      cases item with
      | none => exact spec.1
      | some leaving =>
        obtain ⟨found, before, after, split, _, leaves⟩ := spec
        refine ⟨found, leaves.1, fun other waits earlier => ?_⟩
        have sorted := sound.sorted
        rw [split, List.pairwise_append, List.pairwise_cons] at sorted
        rw [split] at waits
        rcases List.mem_append.mp waits with waits | waits
        · obtain ⟨control, held⟩ := leaves.2 (List.ne_nil_of_mem waits)
          exact ⟨control, held other waits⟩
        · rcases List.mem_cons.mp waits with rfl | waits
          · exact absurd earlier (Nat.lt_irrefl _)
          · have later := sorted.2.1.1 other waits
            omega
  · have order := inClassOrder_trace fixed
    exact ⟨order.ordered, order.front⟩

/-- Requests whose classes change while they wait. -/
def reclassified : List (Call Nat) :=
  [.pushBack 0, .pushBack 1,
    .popNext fun item => ⟨if item = 0 then .flowControlledPublish else .control,
      if item = 0 then .blocked else .ready⟩,
    .popNext fun _ => ⟨.control, .ready⟩,
    .pushBack 2, .pushBack 3,
    .popNext fun item => ⟨if item = 2 then .flowControlledPublish else .control,
      if item = 2 then .blocked else .ready⟩,
    .popNext fun _ => ⟨.fence, .ready⟩]

/-- Two control requests leave out of order, and a request leaves before a fence that was pushed before
it, by how they are classified when they leave. -/
theorem overtaken_by_reclassification : (trace reclassified).left =
      [⟨⟨1, 1⟩, ⟨.control, .ready⟩⟩, ⟨⟨0, 0⟩, ⟨.control, .ready⟩⟩,
        ⟨⟨3, 3⟩, ⟨.control, .ready⟩⟩, ⟨⟨2, 2⟩, ⟨.fence, .ready⟩⟩] :=
  rfl

end OutboundScheduler

end Rumqtt
