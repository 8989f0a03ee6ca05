/-
**Requests handed out for replay.**

A clean-up or a restore hands out requests that own packet identifiers, and the caller replays them
one by one. `Accounts sound replays` says that a state is sound for the requests the caller still
holds, up to PUBRELs that the application has sent itself in the meantime: their flow is active again
and nothing is left to replay. The lemmas move one request out of the list, whichever part it is in.
-/

import Mathlib.Data.List.Perm.Basic
import Rumqtt.Flows.Tracked

namespace Rumqtt

open List

variable {D : Dialect} {pool live stale replays : List (Request D)} {request : Request D}
  {pkid : PacketId} {sound after : List (Request D) → Prop}

/-- The pool without the requests that own an identifier. -/
def poolWithout (pool : List (Request D)) (pkid : PacketId) : List (Request D) :=
  pool.filter (·.replayPkid != some pkid)

/-- Nobody but the pool holds the identifier of a release queued for replay. -/
theorem Flows.Tracked.unheld_poolWithout {f : Flows D} (tracked : f.Tracked pool)
    (member : pkid ∈ f.outgoingRelReplayOrder) : f.Unheld (poolWithout pool pkid) pkid := by
  intro holder held
  have larger : f.Holds pool holder pkid :=
    held.mono (filter_sublist.filterMap Request.replayPkid).subset
  cases tracked.ledger.replay_unheld pkid member holder larger
  obtain ⟨request, kept, owns⟩ := mem_poolIds.mp held
  have other := (mem_filter.mp kept).2
  simp [owns] at other

/-- **The requests handed out are accounted for**: the state is sound for the live ones, and the stale
ones are releases. -/
def Accounts (sound : List (Request D) → Prop) (replays : List (Request D)) : Prop :=
  ∃ live stale, replays.Perm (live ++ stale) ∧ sound live ∧
    ∀ request ∈ stale, request.pubRelPkid?.isSome

theorem Accounts.of_sound (start : sound replays) : Accounts sound replays :=
  ⟨replays, [], by simp, start, by simp⟩

/-- A request handed out that is no release is among the live ones. -/
theorem Accounts.exists_live (accounts : Accounts sound replays) :
    ∃ live, sound live ∧ ∀ request ∈ replays, request.pubRelPkid? = none → request ∈ live := by
  obtain ⟨live, stale, same, sound, releases⟩ := accounts
  refine ⟨live, sound, fun request member notRelease => ?_⟩
  rcases mem_append.mp (same.mem_iff.mp member) with inLive | inStale
  · exact inLive
  · have released := releases request inStale
    rw [notRelease] at released
    cases released

theorem perm_cons_eraseIdx {position : Nat} (found : replays[position]? = some request) :
    replays.Perm (request :: replays.eraseIdx position) := by
  obtain ⟨fits, rfl⟩ := List.getElem?_eq_some_iff.mp found
  exact (getElem_cons_eraseIdx_perm fits).symm

/-- A request handed out belongs to the live part, or it is a PUBREL. -/
theorem Accounts.split {position : Nat} (accounts : Accounts sound replays)
    (perm : ∀ {pool rest}, List.Perm pool rest → sound pool → sound rest)
    (found : replays[position]? = some request) :
    (∃ rest stale, sound (request :: rest) ∧ (replays.eraseIdx position).Perm (rest ++ stale) ∧
      ∀ other ∈ stale, other.pubRelPkid?.isSome) ∨
    request.pubRelPkid?.isSome ∧ ∃ live stale, sound live ∧
      (replays.eraseIdx position).Perm (live ++ stale) ∧
        ∀ other ∈ stale, other.pubRelPkid?.isSome := by
  obtain ⟨live, stale, same, sound, releases⟩ := accounts
  have front := (perm_cons_eraseIdx found).symm.trans same
  rcases mem_append.mp (front.subset mem_cons_self) with inLive | inStale
  · obtain ⟨before, after, rfl⟩ := append_of_mem inLive
    refine .inl ⟨before ++ after, stale, perm perm_middle sound, ?_, releases⟩
    exact (front.trans (perm_middle.append_right stale)).cons_inv
  · obtain ⟨before, after, rfl⟩ := append_of_mem inStale
    refine .inr ⟨releases request inStale, live, before ++ after, sound, ?_, ?_⟩
    · exact (front.trans ((perm_middle.append_left live).trans perm_middle)).cons_inv
    · intro other member
      refine releases other ?_
      rcases mem_append.mp member with left | right
      · exact mem_append_left _ left
      · exact mem_append_right _ (mem_cons_of_mem _ right)

/-- A request that is given up is no longer accounted for. -/
theorem Accounts.forget (accounts : Accounts sound replays)
    (perm : ∀ {pool rest}, List.Perm pool rest → sound pool → sound rest)
    (fewer : ∀ {request rest}, sound (request :: rest) → sound rest) (position : Nat) :
    Accounts sound (replays.eraseIdx position) := by
  cases found : replays[position]? with
  | none =>
    rw [eraseIdx_of_length_le (List.getElem?_eq_none_iff.mp found)]
    exact accounts
  | some request =>
    rcases accounts.split perm found with ⟨rest, stale, sound, same, releases⟩ |
      ⟨-, live, stale, sound, same, releases⟩
    · exact ⟨rest, stale, same, fewer sound, releases⟩
    · exact ⟨live, stale, same, sound, releases⟩

/-- A PUBREL sent by the application leaves its replay request behind. -/
theorem Accounts.of_poolWithout (same : replays.Perm (live ++ stale))
    (releases : ∀ request ∈ stale, request.pubRelPkid?.isSome)
    (kind : ∀ request ∈ live, request.replayPkid = some pkid → request.pubRelPkid?.isSome)
    (fewer : after (poolWithout live pkid)) : Accounts after replays := by
  refine ⟨poolWithout live pkid,
    live.filter (fun request => !(request.replayPkid != some pkid)) ++ stale, ?_, fewer, ?_⟩
  · rw [← append_assoc]
    exact same.trans ((filter_append_perm _ live).symm.append_right stale)
  · intro request left
    rcases mem_append.mp left with removed | old
    · obtain ⟨inLive, owns⟩ := mem_filter.mp removed
      exact kind request inLive (by simpa using owns)
    · exact releases request old

end Rumqtt
