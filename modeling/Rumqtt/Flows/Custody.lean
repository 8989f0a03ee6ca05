/-
**Custody of publishes.**

A QoS 1 or QoS 2 publish that a state machine accepts is in its custody until an acknowledgement
completes it or a clean-up returns it. `Cargo` is what the flows hold, each publish with its content;
the flows keep only the identifier of a publish that the broker has received. `Custody` are the books
kept from outside. `Custody.Keeps` says that they balance: every accepted publish is, with its content,
completed, returned, or held as a publish, a release or the parked publish.

* `Keeps.packet`: an incoming packet keeps the balance.
* `Keeps.sent`, `Keeps.parkedAt`, `Keeps.resumed`, `Keeps.cleaned`: so do requests and clean-ups. A
  publish may be parked only while no other publish is.
* `ParkedHeld`: a parked publish waits for a flow that exists.
-/

import Mathlib.Data.List.Perm.Basic
import Rumqtt.Flows.View

namespace Rumqtt

open List

namespace FlowView

/-- **A parked publish waits for an active flow.** -/
def ParkedHeld (v : FlowView) : Prop :=
  ∀ pkid, v.parked = some pkid → pkid ∈ v.publishes ∨ pkid ∈ v.releases

namespace ParkedHeld

variable {D : Dialect} {v w : FlowView} {pkid : PacketId} {written : Option PacketId}

theorem of_none (idle : v.parked = none) : v.ParkedHeld := by
  intro pkid parked
  rw [idle] at parked
  cases parked

/-- The flow that ends is not the one a parked publish waits for, or the publish goes out. -/
theorem settle (settled : v.Settle pkid written w) (others : ∀ other, v.parked = some other →
    other ≠ pkid → other ∈ v.publishes ∨ other ∈ v.releases) : w.ParkedHeld := by
  cases settled with
  | quiet apart =>
    intro other parked
    refine others other parked ?_
    rintro rfl
    exact apart parked
  | unparked => exact of_none rfl

/-- A request keeps the parked publish behind an active flow. -/
theorem request {room : Prop} {request : Request D} {replay : Bool} (kept : v.ParkedHeld)
    (move : RequestMove room v request replay written w) : w.ParkedHeld := by
  cases move with
  | kept => exact kept
  | sent publish pkid =>
    exact fun other parked => (kept other parked).imp_left (mem_append_left _)
  | parked publish given =>
    rintro other ⟨⟩
    exact .inl given
  | resent publish =>
    exact fun other parked => (kept other parked).imp_left (mem_append_left _)
  | resumed pubrel =>
    exact fun other parked => (kept other parked).imp_right (mem_append_left _)
  | subscribed => exact kept
  | unsubscribed => exact kept
  | subscribedAgain => exact kept
  | unsubscribedAgain => exact kept

/-- An incoming packet keeps the parked publish behind an active flow, or sends it. -/
theorem packet {packet : FlowPacket} {accepted : Bool} (kept : v.ParkedHeld)
    (move : PacketMove v packet accepted written w) : w.ParkedHeld := by
  have remains : ∀ {pkid other : PacketId} {order : List PacketId}, other ≠ pkid → other ∈ order →
      other ∈ order.erase pkid := fun apart member => (mem_erase_of_ne apart).mpr member
  cases move with
  | rejected => exact kept
  | other => exact kept
  | acked pkid member written w settled =>
    exact settle settled fun other parked apart => (kept other parked).imp_left (remains apart)
  | refused pkid member written w settled =>
    exact settle settled fun other parked apart => (kept other parked).imp_left (remains apart)
  | received pkid member =>
    intro other parked
    by_cases same : other = pkid
    · subst same
      exact .inr (mem_append_right _ mem_cons_self)
    · exact (kept other parked).imp (remains same) (mem_append_left _)
  | completed pkid member written w settled =>
    exact settle settled fun other parked apart => (kept other parked).imp_right (remains apart)
  | answered => exact kept

end ParkedHeld

end FlowView

/-! ### Entries -/

section Entries

variable {Content : Type} {pkid : PacketId} {entries : List (PacketId × Content)}

/-- The entries under an identifier. -/
def under (pkid : PacketId) (entries : List (PacketId × Content)) : List (PacketId × Content) :=
  entries.filter fun entry => entry.1 = pkid

/-- The entries under other identifiers. -/
def besides (pkid : PacketId) (entries : List (PacketId × Content)) : List (PacketId × Content) :=
  entries.filter fun entry => ¬ entry.1 = pkid

theorem count_under_besides [DecidableEq Content] (pkid : PacketId)
    (entries : List (PacketId × Content)) (entry : PacketId × Content) :
    entries.count entry = (under pkid entries).count entry + (besides pkid entries).count entry := by
  rw [← count_append]
  refine (List.Perm.count_eq ?_ entry).symm
  simpa [under, besides] using filter_append_perm (fun entry => decide (entry.1 = pkid)) entries

theorem map_fst_besides (nodup : (entries.map Prod.fst).Nodup) :
    (besides pkid entries).map Prod.fst = (entries.map Prod.fst).erase pkid := by
  rw [nodup.erase_eq_filter, filter_map]
  refine congrArg (map Prod.fst) (filter_congr fun entry _ => ?_)
  rw [decide_not]
  rfl

/-- Identifiers that are all different lead to one entry each. -/
theorem map_fst_under (nodup : (entries.map Prod.fst).Nodup) (member : pkid ∈ entries.map Prod.fst) :
    (under pkid entries).map Prod.fst = [pkid] := by
  have same : (under pkid entries).map Prod.fst = (entries.map Prod.fst).filter (· = pkid) := by
    rw [filter_map]
    rfl
  rw [same, List.filter_eq, List.count_eq_one_of_mem nodup member]
  rfl

theorem flatMap_under (nodup : (entries.map Prod.fst).Nodup) :
    (entries.map Prod.fst).flatMap (fun pkid => under pkid entries) = entries := by
  induction entries with
  | nil => rfl
  | cons entry rest ih =>
    obtain ⟨fresh, nodup⟩ := nodup_cons.mp nodup
    have apart : ∀ other ∈ rest.map Prod.fst, entry.1 ≠ other := by
      rintro other member rfl
      exact fresh member
    have first : under entry.1 (entry :: rest) = [entry] := by
      have others : under entry.1 rest = [] := by
        refine filter_eq_nil_iff.mpr fun other member same => ?_
        exact apart other.1 (mem_map_of_mem member) (of_decide_eq_true same).symm
      unfold under at others ⊢
      rw [filter_cons_of_pos (by simp), others]
    rw [map_cons, flatMap_cons, first, singleton_append]
    refine congrArg (entry :: ·) ((flatMap_congr fun other member => ?_).trans (ih nodup))
    exact filter_cons_of_neg (by simpa using apart other member)

end Entries

/-! ### Cargo -/

/-- **What the flows hold**, each publish under its identifier and with its content. -/
@[ext] structure Cargo (Content : Type) where
  /-- Unacknowledged publishes, in send order. -/
  publishes : List (PacketId × Content)
  /-- Active releases, in receipt order. -/
  releases : List PacketId
  /-- Releases that wait to be resumed. -/
  resumable : List PacketId
  /-- The publish that waits for the flow that owns its identifier. -/
  parked : Option (PacketId × Content)

namespace Cargo

variable {Content : Type}

section

variable (v : Cargo Content) (pkid : PacketId) (entry : PacketId × Content)

def send : Cargo Content := { v with publishes := v.publishes ++ [entry] }

def park : Cargo Content := { v with parked := some entry }

/-- The parked publish is sent. -/
def unpark : Cargo Content := { v.send entry with parked := none }

/-- A publish is over. -/
def ack : Cargo Content := { v with publishes := besides pkid v.publishes }

/-- A publish has been received and waits for its completion. -/
def receive : Cargo Content := { v.ack pkid with releases := v.releases ++ [pkid] }

/-- A release is over. -/
def complete : Cargo Content := { v with releases := v.releases.erase pkid }

/-- A release that was returned is active again. -/
def resume : Cargo Content :=
  { v with resumable := v.resumable.erase pkid, releases := v.releases ++ [pkid] }

/-- Everything is returned. -/
def clean : Cargo Content where
  publishes := []
  releases := []
  resumable := v.resumable ++ v.releases
  parked := none

end

/-- The end of a flow lets a publish that was parked on its identifier go out. -/
inductive Settle (v : Cargo Content) (pkid : PacketId) : Cargo Content → Prop where
  | quiet : Settle v pkid v
  | unparked (entry : PacketId × Content) (parked : v.parked = some entry) :
    Settle v pkid (v.unpark entry)

/-- **What an accepted packet does to the cargo.** -/
inductive Acknowledges (v : Cargo Content) : FlowPacket → Cargo Content → Prop where
  | acked (pkid : PacketId) (w : Cargo Content) (settled : (v.ack pkid).Settle pkid w) :
    Acknowledges v (.puback pkid) w
  | refused (pkid : PacketId) (w : Cargo Content) (settled : (v.ack pkid).Settle pkid w) :
    Acknowledges v (.refusal pkid) w
  | received (pkid : PacketId) (held : (under pkid v.publishes).map Prod.fst = [pkid]) :
    Acknowledges v (.pubrec pkid) (v.receive pkid)
  | completed (pkid : PacketId) (w : Cargo Content) (settled : (v.complete pkid).Settle pkid w) :
    Acknowledges v (.pubcomp pkid) w
  | answered (pkid : PacketId) : Acknowledges v (.control pkid) v
  | other : Acknowledges v .other v

end Cargo

/-! ### The books -/

/-- **What has become of accepted publishes.** -/
structure Custody (Content : Type) where
  accepted : List (PacketId × Content) := []
  /-- Ended by a PUBACK, a refusing PUBREC or a PUBCOMP. -/
  completed : List (PacketId × Content) := []
  /-- Received by the broker, and not completed yet. -/
  released : List (PacketId × Content) := []
  /-- Returned by a clean-up, as a publish. -/
  returned : List (PacketId × Content) := []
  /-- Returned by a clean-up, as a release, and not resumed since. -/
  resumable : List (PacketId × Content) := []

namespace Custody

variable {Content : Type}

section

variable (c : Custody Content)

def accept (entry : PacketId × Content) : Custody Content :=
  { c with accepted := c.accepted ++ [entry] }

/-- The application sends the PUBREL that a clean-up returned. -/
def resume (pkid : PacketId) : Custody Content :=
  { c with
    released := c.released ++ under pkid c.resumable
    resumable := besides pkid c.resumable }

/-- The books after a packet has been accepted over some cargo. -/
def handled (v : Cargo Content) : FlowPacket → Custody Content
  | .puback pkid | .refusal pkid => { c with completed := c.completed ++ under pkid v.publishes }
  | .pubrec pkid => { c with released := c.released ++ under pkid v.publishes }
  | .pubcomp pkid =>
    { c with
      completed := c.completed ++ under pkid c.released
      released := besides pkid c.released }
  | .control _ | .other => c

/-- A clean-up returns publishes and releases. -/
def giveBack (publishes : List (PacketId × Content)) (releases : List PacketId) : Custody Content :=
  { c with
    returned := c.returned ++ publishes
    resumable := c.resumable ++ releases.flatMap fun pkid => under pkid c.released
    released := [] }

end

section Requests

variable {D : Dialect} (content : Publish D → Content)

/-- The books after a request has been accepted. A publish that is not written is parked under the
identifier it came with; a PUBREL whose release is not active resumes one that was returned. -/
def requested (c : Custody Content) (active : List PacketId) (written : Option PacketId) :
    Request D → Custody Content
  | .publish publish =>
    if publish.qos = .atMostOnce then c
    else c.accept (written.getD publish.pkid, content publish)
  | .pubRel pubrel =>
    if D.pubRelPkid pubrel ∈ active then c else c.resume (D.pubRelPkid pubrel)
  | _ => c

/-- The publish that a request to send it again is. -/
def publishOf : Request D → Option (PacketId × Content)
  | .publish publish =>
    if publish.qos = .atMostOnce then none else some (publish.pkid, content publish)
  | _ => none

/-- The release that a request to send it again is. -/
def releaseOf : Request D → Option PacketId
  | .pubRel pubrel => some (D.pubRelPkid pubrel)
  | _ => none

/-- The books after a clean-up that returns some requests. -/
def cleaned (c : Custody Content) (requests : List (Request D)) : Custody Content :=
  c.giveBack (requests.filterMap (publishOf content)) (requests.filterMap releaseOf)

end Requests

/-- **No accepted publish is missing**: as many times as it was accepted, it is there with its content.
Of a release the flows keep the identifier. -/
structure Balances (c : Custody Content) (v : Cargo Content) : Prop where
  publishes : c.accepted.Perm (c.completed ++ (v.publishes ++ c.released ++ v.parked.toList) ++
    (c.returned ++ c.resumable))
  releases : c.released.map Prod.fst = v.releases

/-- The books balance, and the releases that can be resumed are those returned. -/
structure Keeps (c : Custody Content) (v : Cargo Content) : Prop extends c.Balances v where
  resumable : c.resumable.map Prod.fst = v.resumable

variable [DecidableEq Content]

instance (c : Custody Content) (v : Cargo Content) : Decidable (c.Balances v) :=
  decidable_of_iff (c.accepted.Perm (c.completed ++ (v.publishes ++ c.released ++ v.parked.toList) ++
      (c.returned ++ c.resumable)) ∧ c.released.map Prod.fst = v.releases)
    ⟨fun both => ⟨both.1, both.2⟩, fun balances => ⟨balances.publishes, balances.releases⟩⟩

/-- Every entry is as often among what was accepted as among what became of it. -/
def Counts (c : Custody Content) (v : Cargo Content) : Prop :=
  ∀ entry, c.accepted.count entry = c.completed.count entry + (v.publishes.count entry +
    c.released.count entry + v.parked.toList.count entry) +
      (c.returned.count entry + c.resumable.count entry)

theorem counts_iff {c : Custody Content} {v : Cargo Content} :
    c.accepted.Perm (c.completed ++ (v.publishes ++ c.released ++ v.parked.toList) ++
      (c.returned ++ c.resumable)) ↔ c.Counts v := by
  rw [perm_iff_count]
  simp only [count_append]
  exact Iff.rfl

namespace Keeps

variable {c : Custody Content} {v w : Cargo Content} {pkid : PacketId} {entry : PacketId × Content}

section

variable (keeps : c.Keeps v)
include keeps

theorem counts : c.Counts v := counts_iff.mp keeps.publishes

theorem sent (entry : PacketId × Content) : (c.accept entry).Keeps (v.send entry) where
  publishes := by
    refine counts_iff.mpr fun other => ?_
    have before := keeps.counts other
    simp only [accept, Cargo.send, count_append]
    omega
  releases := keeps.releases
  resumable := keeps.resumable

theorem parkedAt (idle : v.parked = none) (entry : PacketId × Content) :
    (c.accept entry).Keeps (v.park entry) where
  publishes := by
    refine counts_iff.mpr fun other => ?_
    have before := keeps.counts other
    simp only [accept, Cargo.park, count_append, idle, Option.toList_none, Option.toList_some,
      count_nil] at before ⊢
    omega
  releases := keeps.releases
  resumable := keeps.resumable

theorem resumed (member : pkid ∈ v.resumable) (nodup : v.resumable.Nodup) :
    (c.resume pkid).Keeps (v.resume pkid) := by
  rw [← keeps.resumable] at member nodup
  refine ⟨⟨counts_iff.mpr fun other => ?_, ?_⟩, ?_⟩
  · have before := keeps.counts other
    have taken := count_under_besides pkid c.resumable other
    simp only [resume, Cargo.resume, count_append] at before ⊢
    omega
  · show (c.released ++ under pkid c.resumable).map Prod.fst = v.releases ++ [pkid]
    rw [map_append, keeps.releases, map_fst_under nodup member]
  · show (besides pkid c.resumable).map Prod.fst = v.resumable.erase pkid
    rw [map_fst_besides nodup, keeps.resumable]

/-- The publish parked on a flow that has ended takes its place. -/
theorem settle (settled : v.Settle pkid w) : c.Keeps w := by
  cases settled with
  | quiet => exact keeps
  | unparked entry parked =>
    refine ⟨⟨counts_iff.mpr fun other => ?_, keeps.releases⟩, keeps.resumable⟩
    have before := keeps.counts other
    simp only [Cargo.unpark, Cargo.send, count_append, parked, Option.toList_none,
      Option.toList_some, count_nil] at before ⊢
    omega

theorem acked (pkid : PacketId) :
    Keeps { c with completed := c.completed ++ under pkid v.publishes } (v.ack pkid) where
  publishes := by
    refine counts_iff.mpr fun other => ?_
    have before := keeps.counts other
    have taken := count_under_besides pkid v.publishes other
    simp only [Cargo.ack, count_append] at before ⊢
    omega
  releases := keeps.releases
  resumable := keeps.resumable

theorem received (held : (under pkid v.publishes).map Prod.fst = [pkid]) :
    Keeps { c with released := c.released ++ under pkid v.publishes } (v.receive pkid) where
  publishes := by
    refine counts_iff.mpr fun other => ?_
    have before := keeps.counts other
    have taken := count_under_besides pkid v.publishes other
    simp only [Cargo.receive, Cargo.ack, count_append] at before ⊢
    omega
  releases := by
    show (c.released ++ under pkid v.publishes).map Prod.fst = v.releases ++ [pkid]
    rw [map_append, keeps.releases, held]
  resumable := keeps.resumable

theorem completed (nodup : v.releases.Nodup) (pkid : PacketId) :
    Keeps { c with
      completed := c.completed ++ under pkid c.released
      released := besides pkid c.released } (v.complete pkid) := by
  refine ⟨⟨counts_iff.mpr fun other => ?_, ?_⟩, keeps.resumable⟩
  · have before := keeps.counts other
    have taken := count_under_besides pkid c.released other
    simp only [Cargo.complete, count_append] at before ⊢
    omega
  · show (besides pkid c.released).map Prod.fst = v.releases.erase pkid
    rw [map_fst_besides (by rwa [keeps.releases]), keeps.releases]

/-- **An accepted packet keeps the balance.** -/
theorem packet {packet : FlowPacket} (nodup : v.releases.Nodup) (acks : v.Acknowledges packet w) :
    (c.handled v packet).Keeps w := by
  cases acks with
  | acked pkid w settled => exact (keeps.acked pkid).settle settled
  | refused pkid w settled => exact (keeps.acked pkid).settle settled
  | received pkid held => exact keeps.received held
  | completed pkid w settled => exact (keeps.completed nodup pkid).settle settled
  | answered => exact keeps
  | other => exact keeps

/-- **A clean-up that returns everything held keeps the balance.** -/
theorem cleaned (nodup : v.releases.Nodup) {publishes : List (PacketId × Content)}
    (all : publishes.Perm (v.publishes ++ v.parked.toList)) :
    (c.giveBack publishes v.releases).Keeps v.clean := by
  have releases : v.releases.flatMap (fun pkid => under pkid c.released) = c.released := by
    rw [← keeps.releases]
    exact flatMap_under (by rwa [keeps.releases])
  unfold giveBack
  rw [releases]
  refine ⟨⟨counts_iff.mpr fun other => ?_, rfl⟩, ?_⟩
  · have before := keeps.counts other
    have returned := all.count_eq other
    simp only [Cargo.clean, count_append, Option.toList_none, count_nil] at before returned ⊢
    omega
  · show (c.resumable ++ c.released).map Prod.fst = v.resumable ++ v.releases
    rw [map_append, keeps.resumable, keeps.releases]

end

end Keeps

end Custody

/-! ### The cargo of the flows -/

namespace Flows

variable {D : Dialect} {Content : Type} (content : Publish D → Content)

/-- The publish stored under an identifier. -/
def entry (f : Flows D) (pkid : PacketId) : Option (PacketId × Content) :=
  (f.outgoingPub.lookup pkid.toNat).map fun publish => (pkid, content publish)

def cargo (f : Flows D) : Cargo Content where
  publishes := f.outgoingPubOrder.filterMap (f.entry content)
  releases := f.outgoingRelOrder
  resumable := f.outgoingRelReplayOrder
  parked := f.collision.map fun publish => (publish.pkid, content publish)

variable {content} {f g : Flows D} {pkid : PacketId}

/-- Flows with the same publishes, in the same orders, hold the same. -/
theorem cargo_congr (stored : ∀ pkid ∈ f.outgoingPubOrder,
      g.outgoingPub.lookup pkid.toNat = f.outgoingPub.lookup pkid.toNat)
    (order : g.outgoingPubOrder = f.outgoingPubOrder)
    (releases : g.outgoingRelOrder = f.outgoingRelOrder)
    (resumable : g.outgoingRelReplayOrder = f.outgoingRelReplayOrder)
    (parked : g.collision = f.collision) : g.cargo content = f.cargo content := by
  unfold cargo
  rw [order, releases, resumable, parked]
  congr 1
  refine filterMap_congr fun pkid member => ?_
  unfold entry
  rw [stored pkid member]

@[simp] theorem cargo_ensureCapacity (f : Flows D) (targetLen : Nat) :
    (f.ensureOutgoingTrackingCapacity targetLen).cargo content = f.cargo content :=
  cargo_congr (fun _ _ => SlotVec.lookup_growTo ..) rfl rfl rfl rfl

theorem lt_length_ensureCapacity (f : Flows D) (pkid : PacketId) :
    pkid.toNat < (f.ensureOutgoingTrackingCapacity (pkid.toNat + 1)).outgoingPub.length := by
  refine Nat.lt_of_lt_of_eq ?_ (SlotVec.length_growTo ..).symm
  exact Nat.lt_of_lt_of_le (Nat.lt_succ_self _) (Nat.le_max_right _ _)

theorem cargo_shrinkTo (drained : f.drained = true) (targetLen : Nat) :
    (f.shrinkTo targetLen).cargo content = f.cargo content := by
  simp only [Flows.drained, Bool.and_eq_true, List.isEmpty_iff] at drained
  refine cargo_congr (fun pkid member => ?_) rfl ?_ ?_ rfl
  · simp [drained] at member
  · simp [shrinkTo, drained]
  · simp [shrinkTo, drained]

theorem cargo_withPublish {publish : Publish D} (notice : Option NoticeId)
    (fits : publish.pkid.toNat < f.outgoingPub.length) (fresh : publish.pkid ∉ f.outgoingPubOrder) :
    (f.withPublish publish notice).cargo content =
      (f.cargo content).send (publish.pkid, content publish) := by
  have old : f.outgoingPubOrder.filterMap ((f.withPublish publish notice).entry content) =
      f.outgoingPubOrder.filterMap (f.entry content) := by
    refine filterMap_congr fun other member => ?_
    have apart : other.toNat ≠ publish.pkid.toNat := by
      rw [ne_eq, UInt16.toNat_inj]
      rintro rfl
      exact fresh member
    exact congrArg (Option.map _) (SlotVec.lookup_write_of_ne _ apart _)
  have new : (f.withPublish publish notice).entry content publish.pkid =
      some (publish.pkid, content publish) :=
    congrArg (Option.map _) (SlotVec.lookup_write_self fits _)
  unfold cargo Cargo.send
  congr 1
  show (f.outgoingPubOrder ++ [publish.pkid]).filterMap _ = _
  rw [filterMap_append, old]
  exact congrArg (f.outgoingPubOrder.filterMap (f.entry content) ++ ·)
    (filterMap_cons_some new)

theorem besides_entries (f : Flows D) (pkid : PacketId) (order : List PacketId) :
    besides pkid (order.filterMap (f.entry content)) =
      (order.filter (· ≠ pkid)).filterMap (f.entry content) := by
  unfold besides
  rw [filter_filterMap, filterMap_filter]
  refine filterMap_congr fun other _ => ?_
  unfold entry
  cases f.outgoingPub.lookup other.toNat with
  | none => simp
  | some publish => by_cases same : other = pkid <;> simp [same]

theorem cargo_withoutPublish (nodup : f.outgoingPubOrder.Nodup) (pkid : PacketId) :
    (f.withoutPublish pkid).cargo content = (f.cargo content).ack pkid := by
  unfold cargo Cargo.ack
  congr 1
  show (f.outgoingPubOrder.erase pkid).filterMap _ = _
  rw [besides_entries, nodup.erase_eq_filter]
  have same : f.outgoingPubOrder.filter (· != pkid) = f.outgoingPubOrder.filter (· ≠ pkid) :=
    filter_congr fun other _ => by
      rw [decide_not]
      rfl
  rw [same]
  refine filterMap_congr fun other member => ?_
  have apart : other.toNat ≠ pkid.toNat := by
    rw [ne_eq, UInt16.toNat_inj]
    exact of_decide_eq_true (mem_filter.mp member).2
  exact congrArg (Option.map _) (SlotVec.lookup_write_of_ne _ apart _)

/-- The parked publish takes the place of the flow that has ended. -/
theorem cargo_unparked {publish stored : Publish D} (samePkid : stored.pkid = publish.pkid)
    (sameContent : content stored = content publish)
    (fresh : publish.pkid ∉ f.outgoingPubOrder) (notice : Option NoticeId) :
    ((f.unparking publish.pkid).withPublish stored notice).cargo content =
      (f.cargo content).unpark (publish.pkid, content publish) := by
  rw [cargo_withPublish notice (samePkid ▸ Tracked.lt_length_unparking f publish.pkid)
    (by rw [samePkid]; exact fresh), samePkid, sameContent]
  have room : (f.unparking publish.pkid).cargo content = { f.cargo content with parked := none } :=
    cargo_ensureCapacity f.withoutCollision (publish.pkid.toNat + 1)
  rw [room]
  rfl

namespace Tracked

variable {pool : List (Request D)}

theorem fst_publishes (tracked : f.Tracked pool) (content : Publish D → Content) :
    (f.cargo content).publishes.map Prod.fst = f.outgoingPubOrder := by
  show (f.outgoingPubOrder.filterMap (f.entry content)).map Prod.fst = _
  rw [map_filterMap]
  refine (filterMap_congr fun pkid member => ?_).trans filterMap_some
  obtain ⟨publish, held⟩ := Option.isSome_iff_exists.mp ((tracked.mem_pubOrder pkid).mp member)
  unfold entry
  rw [held]
  rfl

theorem notMem_withoutPublish (tracked : f.Tracked pool) (pkid : PacketId) :
    pkid ∉ (f.withoutPublish pkid).outgoingPubOrder :=
  fun member => (tracked.pubOrder_nodup.mem_erase_iff.mp member).1 rfl

theorem notMem_pubOrder_of_release (tracked : f.Tracked pool) (member : pkid ∈ f.outgoingRelOrder) :
    pkid ∉ f.outgoingPubOrder := fun stored =>
  nomatch tracked.ledger.exclusive (show f.Holds pool .publish pkid from stored)
    (show f.Holds pool .release pkid from member)

theorem under_publishes (tracked : f.Tracked pool) (member : pkid ∈ f.outgoingPubOrder) :
    (under pkid (f.cargo content).publishes).map Prod.fst = [pkid] := by
  have ids := tracked.fst_publishes content
  exact map_fst_under (by rw [ids]; exact tracked.pubOrder_nodup) (by rwa [ids])

open Custody

/-- **A clean-up returns every publish held**, with its content. -/
theorem publishOf_cleanRequests (tracked : f.Tracked pool)
    (marked : ∀ publish : Publish D, content (markDup publish) = content publish) :
    ((f.cleanRequests.map (·.request)).filterMap (publishOf content)) =
      (f.cargo content).publishes ++ (f.cargo content).parked.toList := by
  have publishes : (f.publishRequests.map (·.request)).filterMap (publishOf content) =
      (f.cargo content).publishes := by
    unfold publishRequests
    rw [map_filterMap, filterMap_filterMap]
    refine filterMap_congr fun pkid member => ?_
    obtain ⟨publish, held⟩ := Option.isSome_iff_exists.mp ((tracked.mem_pubOrder pkid).mp member)
    obtain ⟨same, acked⟩ := tracked.stored pkid publish held
    have kept : (markDup publish).pkid = pkid ∧ (markDup publish).qos ≠ .atMostOnce := by
      unfold markDup
      rw [if_pos acked]
      exact ⟨same, acked⟩
    unfold publishRequest entry
    rw [held]
    show publishOf content (.publish (markDup publish)) = some (pkid, content publish)
    unfold publishOf
    dsimp only
    rw [if_neg kept.2, kept.1, marked]
  have parked : (f.parkedRequests.map (·.request)).filterMap (publishOf content) =
      (f.cargo content).parked.toList := by
    unfold parkedRequests cargo
    cases found : f.collision with
    | none => rfl
    | some publish => simp [publishOf, tracked.parked publish found]
  have others : ((f.releaseRequests ++ f.subscribeRequests ++ f.unsubscribeRequests).map
      (·.request)).filterMap (publishOf content) = [] := by
    simp [releaseRequests, subscribeRequests, unsubscribeRequests, filterMap_map, Function.comp_def,
      publishOf]
  simp only [map_append, filterMap_append, append_eq_nil_iff] at others
  simp only [cleanRequests, map_append, filterMap_append, publishes, parked, others, append_nil]

theorem releaseOf_cleanRequests (f : Flows D) :
    (f.cleanRequests.map (·.request)).filterMap releaseOf = f.outgoingRelOrder := by
  have publishes : ∀ request ∈ f.publishRequests.map (·.request), releaseOf request = none := by
    intro request member
    obtain ⟨clean, found, rfl⟩ := mem_map.mp member
    obtain ⟨pkid, -, stored⟩ := mem_filterMap.mp found
    obtain ⟨publish, -, rfl⟩ := Option.map_eq_some_iff.mp stored
    rfl
  simp [cleanRequests, filterMap_append, filterMap_eq_nil_iff.mpr publishes, parkedRequests,
    releaseRequests, subscribeRequests, unsubscribeRequests, filterMap_map, Function.comp_def,
    releaseOf, D.pubRelPkid_pubRel]

end Tracked

end Flows

end Rumqtt
