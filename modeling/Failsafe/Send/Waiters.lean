import Failsafe.Send.Daemon

/-!
What the calls of `SendCoordinator` leave in its map and in the channels of its waiters
(`failsafe-send/src/coordinator.rs`).
-/

namespace Failsafe.Send

open Failsafe.Core Failsafe.Lib

namespace Coordinator

variable (coordinator : Coordinator) (transferId : Uuid)

theorem complete_lookup (other : Uuid) (result : Except String Unit) (receipt : Option String) :
    (coordinator.complete transferId result receipt).pending.lookup other =
      if other = transferId then none else coordinator.pending.lookup other := by
  rw [complete]
  split
  · next hnone =>
      split
      · next hother => rw [hother, hnone]
      · rfl
  · split
    · next hother => rw [hother, AList.lookup_erase]
    · next hother => exact AList.lookup_erase_ne hother

theorem complete_channels (waiter : WaiterId) (result : Except String Unit)
    (receipt : Option String) :
    (coordinator.complete transferId result receipt).channels waiter =
      if coordinator.pending.lookup transferId = some waiter then .sent result receipt
      else coordinator.channels waiter := by
  rw [complete]
  split
  · next hnone => simp [hnone]
  · next found hfound =>
      simp only [Function.update_apply, hfound, Option.some.injEq, eq_comm]

theorem complete_next (result : Except String Unit) (receipt : Option String) :
    (coordinator.complete transferId result receipt).next = coordinator.next := by
  rw [complete]
  split <;> rfl

theorem reportProgress_same (report : SendProgress) :
    (coordinator.reportProgress report).pending = coordinator.pending ∧
      (coordinator.reportProgress report).channels = coordinator.channels ∧
      (coordinator.reportProgress report).next = coordinator.next := by
  rw [reportProgress]
  split <;> exact ⟨rfl, rfl, rfl⟩

theorem close_same (waiter : WaiterId) :
    (coordinator.close waiter).pending = coordinator.pending ∧
      (coordinator.close waiter).next = coordinator.next := by
  rw [close]
  split <;> exact ⟨rfl, rfl⟩

theorem close_channels (waiter other : WaiterId) :
    (coordinator.close waiter).channels other =
      if other = waiter then
        match coordinator.channels waiter with
        | .empty => .closed
        | channel => channel
      else coordinator.channels other := by
  rw [close]
  cases hchannel : coordinator.channels waiter with
  | empty => simp only [Function.update_apply]
  | sent result receipt =>
      dsimp only
      split
      · next hother => rw [hother, hchannel]
      · rfl
  | closed =>
      dsimp only
      split
      · next hother => rw [hother, hchannel]
      · rfl

theorem register_lookup (other : Uuid) :
    (coordinator.register transferId).pending.lookup other =
      if other = transferId then some coordinator.next
      else coordinator.pending.lookup other := by
  have hinsert : (coordinator.register transferId).pending =
      coordinator.pending.insert transferId coordinator.next := by
    cases hlookup : coordinator.pending.lookup transferId with
    | none => simp [register, hlookup]
    | some waiter => simp [register, hlookup, coordinator.close_same waiter]
  rw [hinsert]
  split
  · next hother => rw [hother, AList.lookup_insert]
  · next hother => exact AList.lookup_insert_ne hother

theorem register_next : (coordinator.register transferId).next = coordinator.next + 1 := by
  cases hlookup : coordinator.pending.lookup transferId with
  | none => simp [register, hlookup]
  | some waiter => simp [register, hlookup, coordinator.close_same waiter]

theorem register_channels (waiter : WaiterId) :
    (coordinator.register transferId).channels waiter =
      if coordinator.pending.lookup transferId = some waiter then
        match coordinator.channels waiter with
        | .empty => .closed
        | channel => channel
      else coordinator.channels waiter := by
  cases hlookup : coordinator.pending.lookup transferId with
  | none => simp [register, hlookup]
  | some replaced =>
      simp only [register, hlookup, close_channels, Option.some.injEq]
      split
      · next hsame => simp [hsame]
      · next hother => rw [if_neg fun h => hother h.symm]

/-- The channels of registered waiters are empty, and no two transfers share a waiter. -/
structure Sound : Prop where
  empty : ∀ transferId waiter, coordinator.pending.lookup transferId = some waiter →
    coordinator.channels waiter = .empty
  bounded : ∀ transferId waiter, coordinator.pending.lookup transferId = some waiter →
    waiter < coordinator.next
  fresh : ∀ waiter, coordinator.next ≤ waiter → coordinator.channels waiter = .empty
  injective : ∀ transferId other waiter, coordinator.pending.lookup transferId = some waiter →
    coordinator.pending.lookup other = some waiter → transferId = other

theorem sound_empty : Coordinator.empty.Sound where
  empty _ _ h := by cases h
  bounded _ _ h := by cases h
  fresh _ _ := rfl
  injective _ _ _ h := by cases h

/-- A channel that was used stays as it is. -/
def Keeps (coordinator coordinator' : Coordinator) : Prop :=
  ∀ waiter, coordinator.channels waiter ≠ .empty →
    coordinator'.channels waiter = coordinator.channels waiter

variable {coordinator transferId}

theorem Sound.complete (h : coordinator.Sound) (result : Except String Unit)
    (receipt : Option String) :
    (coordinator.complete transferId result receipt).Sound ∧
      coordinator.Keeps (coordinator.complete transferId result receipt) := by
  have hlookup : ∀ {other waiter},
      (coordinator.complete transferId result receipt).pending.lookup other = some waiter →
        other ≠ transferId ∧ coordinator.pending.lookup other = some waiter := by
    intro other waiter hother
    rw [complete_lookup] at hother
    split at hother
    · cases hother
    · next hne => exact ⟨hne, hother⟩
  constructor
  · constructor
    · intro other waiter hother
      obtain ⟨hne, hother⟩ := hlookup hother
      rw [complete_channels, if_neg fun hsame => hne (h.injective _ _ _ hother hsame)]
      exact h.empty _ _ hother
    · intro other waiter hother
      rw [complete_next]
      exact h.bounded _ _ (hlookup hother).2
    · intro waiter hfresh
      rw [complete_next] at hfresh
      rw [complete_channels, if_neg fun hsame => (h.bounded _ _ hsame).not_ge hfresh]
      exact h.fresh _ hfresh
    · intro first second waiter hfirst hsecond
      exact h.injective _ _ _ (hlookup hfirst).2 (hlookup hsecond).2
  · intro waiter hused
    rw [complete_channels, if_neg fun hsame => hused (h.empty _ _ hsame)]

theorem Sound.register (h : coordinator.Sound) :
    (coordinator.register transferId).Sound ∧
      coordinator.Keeps (coordinator.register transferId) := by
  have hkept : ∀ waiter, coordinator.pending.lookup transferId ≠ some waiter →
      (coordinator.register transferId).channels waiter = coordinator.channels waiter :=
    fun waiter hother => by rw [register_channels, if_neg hother]
  constructor
  · constructor
    · intro other waiter hother
      rw [register_lookup] at hother
      split at hother
      · obtain rfl := Option.some.inj hother
        rw [hkept _ fun hsame => (h.bounded _ _ hsame).ne rfl]
        exact h.fresh _ le_rfl
      · next hne =>
          rw [hkept _ fun hsame => hne (h.injective _ _ _ hother hsame)]
          exact h.empty _ _ hother
    · intro other waiter hother
      rw [register_next]
      rw [register_lookup] at hother
      split at hother
      · obtain rfl := Option.some.inj hother
        exact Nat.lt_succ_self _
      · exact Nat.lt_succ_of_lt (h.bounded _ _ hother)
    · intro waiter hfresh
      rw [register_next] at hfresh
      rw [hkept _ fun hsame => (h.bounded _ _ hsame).not_ge (Nat.le_of_succ_le hfresh)]
      exact h.fresh _ (Nat.le_of_succ_le hfresh)
    · intro first second waiter hfirst hsecond
      rw [register_lookup] at hfirst hsecond
      split at hfirst <;> split at hsecond
      · next hsame hsame' => rw [hsame, hsame']
      · obtain rfl := Option.some.inj hfirst
        exact absurd rfl (h.bounded _ _ hsecond).ne
      · obtain rfl := Option.some.inj hsecond
        exact absurd rfl (h.bounded _ _ hfirst).ne
      · exact h.injective _ _ _ hfirst hsecond
  · intro waiter hused
    exact hkept waiter fun hsame => hused (h.empty _ _ hsame)

theorem Sound.of_same {coordinator' : Coordinator} (h : coordinator.Sound)
    (hpending : coordinator'.pending = coordinator.pending)
    (hchannels : coordinator'.channels = coordinator.channels)
    (hnext : coordinator'.next = coordinator.next) :
    coordinator'.Sound ∧ coordinator.Keeps coordinator' := by
  refine ⟨⟨?_, ?_, ?_, ?_⟩, fun _ _ => by rw [hchannels]⟩
  · rw [hpending, hchannels]
    exact h.empty
  · rw [hpending, hnext]
    exact h.bounded
  · rw [hchannels, hnext]
    exact h.fresh
  · rw [hpending]
    exact h.injective

theorem await_same {coordinator' : Coordinator} {tokens : Tokens} {cancel : Token}
    {waiter : WaiterId} {event : AckEvent}
    (h : coordinator.await tokens cancel waiter event = some coordinator') :
    coordinator'.pending = coordinator.pending ∧ coordinator'.channels = coordinator.channels ∧
      coordinator'.next = coordinator.next := by
  cases event with
  | cancelled =>
      obtain ⟨-, h⟩ := Option.ite_none_right_eq_some.mp h
      obtain rfl := Option.some.inj h
      exact ⟨rfl, rfl, rfl⟩
  | deadline =>
      obtain rfl := Option.some.inj h
      exact ⟨rfl, rfl, rfl⟩
  | acked result =>
      simp only [await] at h
      split at h
      · obtain ⟨-, h⟩ := Option.ite_none_right_eq_some.mp h
        obtain rfl := Option.some.inj h
        exact ⟨rfl, rfl, rfl⟩
      · cases h
  | closed =>
      simp only [await] at h
      split at h
      · obtain rfl := Option.some.inj h
        exact ⟨rfl, rfl, rfl⟩
      · cases h
  | progress report =>
      simp only [await] at h
      split at h
      · obtain ⟨-, h⟩ := Option.ite_none_right_eq_some.mp h
        obtain rfl := Option.some.inj h
        exact ⟨rfl, rfl, rfl⟩
      · cases h

end Coordinator

end Failsafe.Send
