/-
**The order in which SRV targets are tried.**

`prepareSrvTargets` sorts the usable records by priority and draws each group of one priority by
weight. Here its arithmetic is checked as the source does it: weights are added up in a `u32`, and the
draw has to fall on a target.

* `checkedPrepareSrvTargets_ok`: nothing overflows, and every draw falls on a target;
* `orderGroups_sorted`: the result is sorted by priority;
* `orderPriorityGroup_draw`: a draw takes the target at its position;
* `countP_weightedPosition`: a target is selected by as many draws as it has weight.
-/

import Rumqtt.V5.Redirect

namespace Rumqtt.V5

open Checked List

/-! ### The draws, with their arithmetic -/

/-- The order in which the targets of a group are scanned: those without weight first. -/
def scanOrder (group : List ResolvedSrvTarget) : List ResolvedSrvTarget :=
  group.filter (·.weight = 0) ++ group.filter (·.weight ≠ 0)

def totalWeight (group : List ResolvedSrvTarget) : Nat := (group.map (·.weight.toNat)).sum

/-- `Iterator::sum` of the weights as `u32`, from a first value. -/
def checkedSum : Nat → List ResolvedSrvTarget → Checked Nat
  | sum, [] => return sum
  | sum, target :: rest => do checkedSum (← Checked.add (2 ^ 32 - 1) sum target.weight.toNat) rest

/-- `Iterator::position` of the draw, with the running sum as `u32`. -/
def checkedPosition (draw : Nat) : Nat → List ResolvedSrvTarget → Checked (Option Nat)
  | _, [] => return none
  | running, target :: rest => do
    let running ← Checked.add (2 ^ 32 - 1) running target.weight.toNat
    if draw ≤ running then return some 0
    return (← checkedPosition draw running rest).map (· + 1)

/-- `order_priority_group` with checked sums and its `expect`. The rounds never run out. -/
def checkedOrderPriorityGroup : Nat → List ResolvedSrvTarget → Rng →
    Checked (List ResolvedSrvTarget × Rng)
  | 0, group, rng => if group.isEmpty then .ok (group, rng) else .error (.unreachableCode "rounds")
  | fuel + 1, group, rng =>
    if group.all (·.weight = 0) then return (rng.shuffle group, rng)
    else do
      let sum ← checkedSum 0 (scanOrder group)
      let (draw, rng) := rng.below (sum + 1)
      let index ← Checked.expect "the inclusive draw cannot exceed the weight sum"
        (← checkedPosition draw 0 (scanOrder group))
      let drawn ← Checked.expect "removal index" (scanOrder group)[index]?
      let (rest, rng) ← checkedOrderPriorityGroup fuel ((scanOrder group).eraseIdx index) rng
      return (drawn :: rest, rng)

def checkedOrderGroups : List (List ResolvedSrvTarget) → Rng → Checked (List ResolvedSrvTarget)
  | [], _ => return []
  | group :: rest, rng => do
    let (ordered, rng) ← checkedOrderPriorityGroup group.length group rng
    return ordered ++ (← checkedOrderGroups rest rng)

/-- **`prepare_srv_targets`** with the arithmetic of its draws checked. -/
def checkedPrepareSrvTargets (addresses : Addresses) (records : List SrvRecord) (rng : Rng) :
    Checked (Except SrvAnswerError (List ResolvedSrvTarget)) :=
  if records.map (·.target) = [['.']] then return .error .serviceUnavailable
  else
    let offered := records.filter (·.target ≠ ['.'])
    let targets := offered.filterMap (usableTarget addresses)
    if maxSrvTargets < targets.length then return .error (.tooMany targets.length)
    else if targets.isEmpty then return .error (.noUsableTargets (offered.length - targets.length))
    else
      let sorted := targets.insertionSort (·.priority ≤ ·.priority)
      return .ok (← checkedOrderGroups (sorted.splitBy (·.priority == ·.priority)) rng)

/-! ### Nothing overflows -/

@[simp] theorem totalWeight_cons (target : ResolvedSrvTarget) (rest : List ResolvedSrvTarget) :
    totalWeight (target :: rest) = target.weight.toNat + totalWeight rest := sum_cons

theorem totalWeight_le (group : List ResolvedSrvTarget) : totalWeight group ≤ group.length * 65535 := by
  induction group with
  | nil => exact Nat.zero_le _
  | cons target rest ih =>
    have := target.weight.toNat_lt
    rw [totalWeight_cons, length_cons]
    omega

theorem totalWeight_unweighted {group : List ResolvedSrvTarget}
    (every : ∀ target ∈ group, target.weight = 0) : totalWeight group = 0 := by
  induction group with
  | nil => rfl
  | cons target rest ih =>
    rw [totalWeight_cons, every target mem_cons_self, ih fun other member =>
      every other (mem_cons_of_mem target member)]
    rfl

theorem length_scanOrder (group : List ResolvedSrvTarget) :
    (scanOrder group).length = group.length := (sortByWeight_perm group).length_eq

theorem checkedSum_ok {group : List ResolvedSrvTarget} {sum : Nat}
    (fits : sum + totalWeight group < 2 ^ 32) : checkedSum sum group = .ok (sum + totalWeight group) := by
  induction group generalizing sum with
  | nil => rfl
  | cons target rest ih =>
    rw [totalWeight_cons] at fits ⊢
    rw [checkedSum, add_ok (by omega), ok_bind, ih (by omega), Nat.add_assoc]

/-- **A draw up to the sum falls on a target.** -/
theorem checkedPosition_ok {group : List ResolvedSrvTarget} {draw running : Nat}
    (fits : running + totalWeight group < 2 ^ 32) (nonempty : group ≠ [])
    (within : draw ≤ running + totalWeight group) :
    checkedPosition draw running group = .ok (some (weightedPosition draw running group)) ∧
      weightedPosition draw running group < group.length := by
  induction group generalizing running with
  | nil => exact absurd rfl nonempty
  | cons target rest ih =>
    rw [totalWeight_cons] at fits within
    rw [checkedPosition, add_ok (by omega), ok_bind, weightedPosition]
    split
    · exact ⟨rfl, Nat.succ_pos _⟩
    · rename_i later
      have more : rest ≠ [] := by
        rintro rfl
        exact later within
      have tail := ih (by omega : running + target.weight.toNat + totalWeight rest < 2 ^ 32) more (by omega)
      rw [tail.1]
      exact ⟨rfl, Nat.succ_lt_succ tail.2⟩

theorem checkedOrderPriorityGroup_ok {fuel : Nat} {group : List ResolvedSrvTarget} (rng : Rng)
    (rounds : group.length ≤ fuel) (few : group.length ≤ maxSrvTargets) :
    checkedOrderPriorityGroup fuel group rng = .ok (orderPriorityGroup fuel group rng) := by
  induction fuel generalizing group rng with
  | zero =>
    rw [length_eq_zero_iff.mp (Nat.le_zero.mp rounds)]
    rfl
  | succ fuel ih =>
    unfold checkedOrderPriorityGroup orderPriorityGroup
    split
    · rfl
    · rename_i weighted
      have size := length_scanOrder group
      have small := totalWeight_le (scanOrder group)
      have fits : 0 + totalWeight (scanOrder group) < 2 ^ 32 := by
        simp only [maxSrvTargets] at few
        omega
      have nonempty : scanOrder group ≠ [] := by
        intro empty
        rw [empty, length_nil] at size
        exact weighted (by rw [length_eq_zero_iff.mp size.symm]; rfl)
      have within : (rng.below (totalWeight (scanOrder group) + 1)).1 ≤
          0 + totalWeight (scanOrder group) := by
        rw [Nat.zero_add]
        exact Nat.le_of_lt_succ (rng.below_lt (Nat.succ_pos _))
      rw [checkedSum_ok fits, ok_bind, Nat.zero_add]
      have order : group.filter (·.weight = 0) ++ group.filter (·.weight ≠ 0) = scanOrder group := rfl
      have sum : ((scanOrder group).map (·.weight.toNat)).sum = totalWeight (scanOrder group) := rfl
      simp only [order, sum]
      generalize rng.below (totalWeight (scanOrder group) + 1) = drawn at within
      obtain ⟨found, inside⟩ := checkedPosition_ok fits nonempty within
      have fewer : ((scanOrder group).eraseIdx (weightedPosition drawn.1 0 (scanOrder group))).length + 1 =
          group.length := by
        rw [length_eraseIdx_of_lt inside, size]
        omega
      have rest : checkedOrderPriorityGroup fuel _ drawn.2 = .ok (orderPriorityGroup fuel
          ((scanOrder group).eraseIdx (weightedPosition drawn.1 0 (scanOrder group))) drawn.2) :=
        ih drawn.2 (by omega) (by omega)
      simp only [found, ok_bind, expect_some, List.getElem?_eq_getElem inside, rest]
      rfl

theorem checkedOrderGroups_ok {groups : List (List ResolvedSrvTarget)}
    (few : ∀ group ∈ groups, group.length ≤ maxSrvTargets) (rng : Rng) :
    checkedOrderGroups groups rng = .ok (orderGroups groups rng) := by
  induction groups generalizing rng with
  | nil => rfl
  | cons group rest ih =>
    unfold checkedOrderGroups orderGroups
    rw [checkedOrderPriorityGroup_ok rng le_rfl (few group mem_cons_self), ok_bind]
    dsimp only
    rw [ih (fun other member => few other (mem_cons_of_mem group member))]
    rfl

/-- **No sum overflows and no `expect` fails**, whatever the records and the draws. -/
theorem checkedPrepareSrvTargets_ok (addresses : Addresses) (records : List SrvRecord) (rng : Rng) :
    checkedPrepareSrvTargets addresses records rng = .ok (prepareSrvTargets addresses records rng) := by
  unfold checkedPrepareSrvTargets prepareSrvTargets
  split
  · rfl
  · dsimp only
    split
    · rfl
    · rename_i few
      split
      · rfl
      · rw [checkedOrderGroups_ok (fun group member => ?_)]
        · rfl
        · have inside := (sublist_flatten_of_mem member).length_le
          rw [flatten_splitBy, length_insertionSort] at inside
          exact inside.trans (Nat.le_of_not_lt few)

/-! ### The order -/

/-- Groups of one priority each, in order of priority, stay so when each is drawn by weight. -/
theorem orderGroups_sorted {groups : List (List ResolvedSrvTarget)}
    (uniform : ∀ group ∈ groups, ∀ a ∈ group, ∀ b ∈ group, a.priority = b.priority)
    (sorted : groups.Pairwise fun g h => ∀ a ∈ g, ∀ b ∈ h, a.priority ≤ b.priority) (rng : Rng) :
    (orderGroups groups rng).Pairwise (·.priority ≤ ·.priority) := by
  induction groups generalizing rng with
  | nil => exact .nil
  | cons group rest ih =>
    obtain ⟨ahead, later⟩ := pairwise_cons.mp sorted
    have own : ∀ {a}, a ∈ (orderPriorityGroup group.length group rng).1 → a ∈ group :=
      (orderPriorityGroup_perm group.length group rng).mem_iff.mp
    refine pairwise_append.mpr ⟨?_, ih (fun other member => uniform other
      (mem_cons_of_mem group member)) later _, fun a first b second => ?_⟩
    · refine pairwise_of_forall_mem_list fun a first b second => ?_
      rw [uniform group mem_cons_self a (own first) b (own second)]
      exact UInt16.le_refl _
    · obtain ⟨other, among, member⟩ := mem_flatten.mp ((orderGroups_perm rest _).mem_iff.mp second)
      exact ahead other among a (own first) b member

/-! ### How often a target is drawn -/

/-- **A target is selected by as many draws as it has weight**, out of those past the running sum. -/
theorem countP_weightedPosition (group : List ResolvedSrvTarget) (running : Nat) {index : Nat}
    {target : ResolvedSrvTarget} (found : group[index]? = some target) :
    (List.range' (running + 1) (totalWeight group)).countP
      (fun draw => weightedPosition draw running group = index) = target.weight.toNat := by
  induction group generalizing running index with
  | nil => cases found
  | cons first rest ih =>
    -- the draws of the first target, then those of the others
    rw [totalWeight_cons, ← List.range'_append_1, countP_append]
    have early : ∀ draw ∈ List.range' (running + 1) first.weight.toNat,
        weightedPosition draw running (first :: rest) = 0 := by
      intro draw member
      obtain ⟨-, below⟩ := List.mem_range'_1.mp member
      exact if_pos (by omega)
    have late : ∀ draw ∈ List.range' (running + 1 + first.weight.toNat) (totalWeight rest),
        weightedPosition draw running (first :: rest) =
          weightedPosition draw (running + first.weight.toNat) rest + 1 := by
      intro draw member
      obtain ⟨above, -⟩ := List.mem_range'_1.mp member
      exact if_neg (by omega)
    cases index with
    | zero =>
      cases found
      rw [countP_eq_length.mpr fun draw member => decide_eq_true (early draw member),
        countP_eq_zero.mpr fun draw member => by simp [late draw member], List.length_range',
        Nat.add_zero]
    | succ index =>
      rw [countP_eq_zero.mpr fun draw member => by simp [early draw member], Nat.zero_add,
        countP_congr fun draw member => by rw [late draw member], Nat.add_right_comm]
      simpa using ih (running + first.weight.toNat) found

/-- The usable records by priority, those of one priority together. -/
def priorityGroups (targets : List ResolvedSrvTarget) : List (List ResolvedSrvTarget) :=
  (targets.insertionSort (·.priority ≤ ·.priority)).splitBy (·.priority == ·.priority)

/-- The root is no usable target, so records that offer no service drop out by themselves. -/
theorem filterMap_usable_offered (addresses : Addresses) (records : List SrvRecord) :
    (records.filter (·.target ≠ ['.'])).filterMap (usableTarget addresses) =
      records.filterMap (usableTarget addresses) := by
  rw [List.filterMap_filter]
  refine List.filterMap_congr fun record _ => ?_
  by_cases root : record.target = ['.']
  · simp [usableTarget, normalizeTarget, root, Text.stripSuffix]
  · simp [root]

theorem prepareSrvTargets_groups {addresses : Addresses} {records : List SrvRecord} {rng : Rng}
    {targets : List ResolvedSrvTarget}
    (prepared : prepareSrvTargets addresses records rng = .ok targets) :
    targets = orderGroups (priorityGroups (records.filterMap (usableTarget addresses))) rng := by
  rw [← filterMap_usable_offered]
  unfold prepareSrvTargets at prepared
  split at prepared
  · cases prepared
  · dsimp only at prepared
    split at prepared
    · cases prepared
    · split at prepared
      · cases prepared
      · cases prepared
        rfl

/-- **The result is sorted by priority.** -/
theorem orderGroups_priorityGroups_sorted (usable : List ResolvedSrvTarget) (rng : Rng) :
    (orderGroups (priorityGroups usable) rng).Pairwise (·.priority ≤ ·.priority) := by
  have sorted := pairwise_insertionSort (r := (·.priority ≤ ·.priority)) usable
  rw [← flatten_splitBy (·.priority == ·.priority)
    (usable.insertionSort (·.priority ≤ ·.priority)), pairwise_flatten] at sorted
  refine orderGroups_sorted (fun group member a first b second => ?_) sorted.2 rng
  have chain := isChain_of_mem_splitBy member
  have same : (group.map (·.priority)).Pairwise (· = ·) :=
    List.IsChain.pairwise (by simpa [isChain_map] using chain)
  exact same.forall_of_forall (fun _ _ => rfl) (mem_map_of_mem first) (mem_map_of_mem second)

/-- **A draw takes the target at its position**: `order_priority_group` puts it first and goes on with
the others and the draws that are left. -/
theorem orderPriorityGroup_draw {group : List ResolvedSrvTarget} (weighted : 0 < totalWeight group)
    {fuel : Nat} (few : group.length ≤ maxSrvTargets) (rng : Rng) :
    let drawn := rng.below (totalWeight group + 1)
    let index := weightedPosition drawn.1 0 (scanOrder group)
    let later := orderPriorityGroup fuel ((scanOrder group).eraseIdx index) drawn.2
    ∃ target, (scanOrder group)[index]? = some target ∧
      orderPriorityGroup (fuel + 1) group rng = (target :: later.1, later.2) := by
  intro drawn index later
  have total : totalWeight (scanOrder group) = totalWeight group :=
    ((sortByWeight_perm group).map _).sum_nat
  have some_ : group.all (·.weight = 0) = false := by
    by_contra every
    rw [totalWeight_unweighted (by simpa using every)] at weighted
    exact absurd weighted (Nat.lt_irrefl 0)
  have nonempty : scanOrder group ≠ [] := by
    rintro empty
    rw [← total, empty] at weighted
    exact absurd weighted (Nat.lt_irrefl 0)
  have small := totalWeight_le group
  have fits : 0 + totalWeight (scanOrder group) < 2 ^ 32 := by
    rw [total]
    simp only [maxSrvTargets] at few
    omega
  have within : drawn.1 ≤ 0 + totalWeight (scanOrder group) := by
    rw [total, Nat.zero_add]
    exact Nat.le_of_lt_succ (rng.below_lt (Nat.succ_pos _))
  obtain ⟨-, inside⟩ := checkedPosition_ok fits nonempty within
  refine ⟨_, List.getElem?_eq_getElem inside, ?_⟩
  rw [orderPriorityGroup, if_neg (by rw [some_]; exact Bool.false_ne_true)]
  have order : group.filter (·.weight = 0) ++ group.filter (·.weight ≠ 0) = scanOrder group := rfl
  have sum : ((scanOrder group).map (·.weight.toNat)).sum = totalWeight group := total
  simp only [order, sum]
  rw [List.getElem?_eq_getElem inside]

/-- **SRV targets.** Whatever the records and the draws: no sum overflows and no `expect` fails; the
result is a permutation of the usable records, sorted by priority, namely the groups of one priority,
each ordered by its draws. A group with a positive weight is ordered by taking the target that the draw
selects, and then the others; each target is selected by as many of the draws as it has weight, the
first one by one more. -/
theorem srv_targets_ordered (addresses : Addresses) (records : List SrvRecord) (rng : Rng) :
    checkedPrepareSrvTargets addresses records rng = .ok (prepareSrvTargets addresses records rng) ∧
    (∀ targets, prepareSrvTargets addresses records rng = .ok targets →
      targets.Perm (records.filterMap (usableTarget addresses)) ∧
        targets.Pairwise (·.priority ≤ ·.priority) ∧
        targets = orderGroups (priorityGroups (records.filterMap (usableTarget addresses))) rng) ∧
    ∀ group : List ResolvedSrvTarget, 0 < totalWeight group → group.length ≤ maxSrvTargets →
      ∃ selected : Nat → Nat,
        (∀ fuel (source : Rng), ∃ target,
          let drawn := source.below (totalWeight group + 1)
          let later := orderPriorityGroup fuel ((scanOrder group).eraseIdx (selected drawn.1)) drawn.2
          (scanOrder group)[selected drawn.1]? = some target ∧
            orderPriorityGroup (fuel + 1) group source = (target :: later.1, later.2)) ∧
        ∀ index target, (scanOrder group)[index]? = some target →
          (List.range (totalWeight group + 1)).countP (fun draw => selected draw = index) =
            target.weight.toNat + if index = 0 then 1 else 0 := by
  refine ⟨checkedPrepareSrvTargets_ok addresses records rng, fun targets prepared => ?_,
    fun group weighted few => ⟨fun draw => weightedPosition draw 0 (scanOrder group),
      fun fuel source => orderPriorityGroup_draw weighted few source, fun index target found => ?_⟩⟩
  · have perm := (prepareSrvTargets_perm prepared).1
    rw [filterMap_usable_offered] at perm
    have ordered := prepareSrvTargets_groups prepared
    exact ⟨perm, ordered ▸ orderGroups_priorityGroups_sorted _ rng, ordered⟩
  · have total : totalWeight (scanOrder group) = totalWeight group :=
      ((sortByWeight_perm group).map _).sum_nat
    have counted := countP_weightedPosition (scanOrder group) 0 found
    rw [total] at counted
    have lowest : weightedPosition 0 0 (scanOrder group) = 0 := by
      cases scanOrder group with
      | nil => rfl
      | cons => exact if_pos (Nat.zero_le _)
    rw [List.range_eq_range', List.range'_succ, List.countP_cons, counted]
    simp [lowest, eq_comm]

end Rumqtt.V5
