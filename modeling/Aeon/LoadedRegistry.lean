import Aeon.RegistryAtomicity
import Aeon.RegistrySlotConservation
import Mathlib.Order.CompletePartialOrder

namespace Aeon.Registry

/-!
# A registry that has just been loaded

`init` leaves every expert unleased and at rest, so the first boundary move finds
nothing in its way: whatever Warm slots it surrenders, the drain and the cut return.
-/

open ExpertRegistry

variable {registry after : ExpertRegistry}

/-- No expert is leased, moving or shadowed, and no host slot is reserved. -/
structure Fresh (registry : ExpertRegistry) : Prop where
  resting :
    ∀ gid, (registry.catalog gid).leaseCount = 0 ∧
      (registry.catalog gid).operation = .idle ∧
        (registry.catalog gid).shadowVramSlot = none
  unreserved : ∀ slot, registry.hostSlotReservations slot = 0

/-- Moving a resting expert to a slot leaves it at rest. -/
theorem Fresh.replace
    {gid : Nat}
    {entry : CatalogEntry}
    (fresh : Fresh registry)
    (sameLeases : entry.leaseCount = (registry.catalog gid).leaseCount)
    (sameOperation : entry.operation = (registry.catalog gid).operation)
    (sameShadow : entry.shadowVramSlot = (registry.catalog gid).shadowVramSlot)
    (sameCatalog : after.catalog = Function.update registry.catalog gid entry)
    (sameReservations :
      after.hostSlotReservations = registry.hostSlotReservations) :
    Fresh after := by
  constructor
  · intro other
    rw [sameCatalog]
    by_cases here : other = gid
    · subst here
      rw [Function.update_self, sameLeases, sameOperation, sameShadow]
      exact fresh.resting other
    · rw [Function.update_of_ne here]
      exact fresh.resting other
  · rw [sameReservations]
    exact fresh.unreserved

/-- The load places experts and leaves the sizes alone. -/
theorem populateRoundRobin_fresh
    (preloadWarmHost : Bool)
    (vramAssigned hostAssigned : Nat)
    (remaining : List Nat)
    (fresh : Fresh registry) :
    let loaded :=
      populateRoundRobin preloadWarmHost vramAssigned hostAssigned registry
        remaining
    Fresh loaded ∧
      loaded.hostCapacityUsable = registry.hostCapacityUsable ∧
        loaded.settings = registry.settings := by
  induction remaining generalizing registry vramAssigned hostAssigned with
  | nil => exact ⟨fresh, rfl, rfl⟩
  | cons gid rest ih =>
    unfold populateRoundRobin
    split
    · split
      next slot free _ =>
        have placed : Fresh (registry.placeHot gid slot free) := by
          refine fresh.replace ?_ ?_ ?_
            (Function.update_idem _ _ _) rfl <;>
            simp [setEntry, setVramSlot]
        exact ih _ _ placed
      · exact ⟨fresh, rfl, rfl⟩
    · split
      · split
        next slot free _ =>
          have placed : Fresh (registry.placeWarm gid slot free) := by
            refine fresh.replace ?_ ?_ ?_
              (Function.update_idem _ _ _) rfl <;>
              simp [setEntry, setHostSlot]
          exact ih _ _ placed
        · exact ⟨fresh, rfl, rfl⟩
      · split
        · exact ⟨fresh, rfl, rfl⟩
        · exact ih _ _ fresh

/-- What `init` leaves. -/
theorem init_loaded
    {layers expertsLayer vramCap hostCap : Nat}
    {preloadWarmHost : Bool}
    (built :
      registry.init layers expertsLayer vramCap hostCap preloadWarmHost =
        .returned () after) :
    Fresh after ∧ after.hostCapacityUsable = hostCap ∧
      after.expertsPerLayer = expertsLayer ∧ after.vramCapacity = vramCap := by
  unfold ExpertRegistry.init at built
  split at built
  · contradiction
  · obtain ⟨_, rfl⟩ := validated_returned _ built
    have cleared :
        Fresh (registry.cleared layers expertsLayer vramCap hostCap) :=
      ⟨fun _ => ⟨rfl, rfl, rfl⟩, fun _ => rfl⟩
    obtain ⟨fresh, usable, sizes⟩ :=
      populateRoundRobin_fresh preloadWarmHost 0 0
        (registry.cleared layers expertsLayer vramCap hostCap).roundRobin
        cleared
    refine ⟨fresh, usable, ?_, ?_⟩
    · exact congrArg (fun settings => settings.1.2.1) sizes
    · exact congrArg (fun settings => settings.1.2.2.2.1) sizes

/-! ## The drain of the Warm tail -/

/-- A drain that returns has emptied its slots and kept the rest of the host side. -/
theorem releaseHostSlots_returned
    {count released : Nat}
    {slots : List Nat}
    (returned :
      releaseHostSlots count registry slots = .returned released after) :
    after.hostCapacityUsable = registry.hostCapacityUsable ∧
      after.hostSlotReservations = registry.hostSlotReservations ∧
      ∀ slot, registry.hostSlots slot = none ∨ slot ∈ slots →
        after.hostSlots slot = none := by
  induction slots generalizing registry count with
  | nil =>
    obtain ⟨_, rfl⟩ := checkedValidate_returned _ returned
    exact ⟨rfl, rfl, fun slot empty => empty.resolve_right List.not_mem_nil⟩
  | cons slot rest ih =>
    unfold releaseHostSlots at returned
    split at returned
    next empty =>
      obtain ⟨usable, reservations, drained⟩ := ih returned
      refine ⟨usable, reservations, ?_⟩
      intro other clear
      apply drained
      rcases clear with clear | clear
      · exact .inl clear
      · rcases List.mem_cons.mp clear with rfl | later
        · exact .inl empty
        · exact .inr later
    next gid _ =>
      split at returned
      · contradiction
      · split at returned
        · contradiction
        · obtain ⟨usable, reservations, drained⟩ := ih returned
          refine ⟨usable, reservations, ?_⟩
          intro other clear
          apply drained
          simp only [surrenderHostSlot, removeFromWarmLru, setEntry,
            setHostSlot]
          by_cases here : other = slot
          · subst here
            exact .inl (Function.update_self ..)
          · rw [Function.update_of_ne here]
            exact clear.imp id fun member =>
              (List.mem_cons.mp member).resolve_left here

theorem releaseHostTail_usable
    {keep released : Nat}
    (returned : registry.releaseHostTail keep = .returned released after) :
    after.hostCapacityUsable = registry.hostCapacityUsable := by
  unfold releaseHostTail at returned
  split at returned
  · contradiction
  · exact (releaseHostSlots_returned returned).1

section

variable
    {place : Nat → Residency}
    {stranded : List Nat}
    (accounts : Accounts stranded registry place none)
    (fresh : Fresh registry)

include accounts fresh

/-- Nothing in a fresh registry stops the drain. -/
theorem Fresh.tailBlocked_eq_false
    (slot : Nat) :
    registry.tailBlocked slot = false := by
  unfold tailBlocked
  cases held : registry.hostSlots slot with
  | none => rfl
  | some gid =>
    obtain ⟨unleased, idle, _⟩ := fresh.resting gid
    have isWarm := (accounts.holdsHost_iff.mpr held).2.1
    simp [unleased, idle, isWarm]

theorem Fresh.releaseHostTail_returns
    {keep : Nat}
    (inside : keep ≤ registry.hostCapacityUsable) :
    ∃ released drained,
      registry.releaseHostTail keep = .returned released drained := by
  have spares :
      SparesShadows registry
        (List.range' keep (registry.hostCapacityUsable - keep)) :=
    fun _ _ gid _ => (fresh.resting gid).2.2
  have accounted :=
    releaseHostTail_consistent ⟨place, accounts⟩ spares
  cases outcome : registry.releaseHostTail keep with
  | returned released drained => exact ⟨released, drained, rfl⟩
  | threw error left =>
    rw [outcome] at accounted
    unfold releaseHostTail at outcome
    rw [if_neg (Nat.not_lt.mpr inside)] at outcome
    refine absurd outcome (releaseHostSlots_unblocked accounted accounts
      List.nodup_range' spares ?_)
    intro slot _
    exact fresh.tailBlocked_eq_false accounts slot

end

/-- A fresh registry gives up any tail of its Warm slots. -/
theorem Fresh.shrinks
    {usable : Nat}
    (fresh : Fresh registry)
    (consistent : Consistent [] registry)
    (below : usable < registry.hostCapacityUsable) :
    ∃ released drained shrunk,
      registry.releaseHostTail usable = .returned released drained ∧
        drained.shrinkHostCapacity usable = .returned () shrunk := by
  obtain ⟨place, accounts⟩ := consistent
  obtain ⟨released, drained, tail⟩ :=
    fresh.releaseHostTail_returns accounts (Nat.le_of_lt below)
  obtain ⟨left, consistentLeft⟩ :=
    releaseHostTail_consistent ⟨place, accounts⟩
      fun _ _ gid _ => (fresh.resting gid).2.2
  rw [tail, Outcome.registry] at consistentLeft
  obtain ⟨sameUsable, sameReservations, empty⟩ := by
    unfold releaseHostTail at tail
    rw [if_neg (Nat.not_lt.mpr (Nat.le_of_lt below))] at tail
    exact releaseHostSlots_returned tail
  have idle :
      (List.range' usable (drained.hostCapacityUsable - usable)).any
        drained.hostSlotInUse = false := by
    rw [List.any_eq_false]
    intro slot member
    rw [sameUsable] at member
    simp [hostSlotInUse, empty slot (.inr member), sameReservations,
      fresh.unreserved slot]
  cases outcome : drained.shrinkHostCapacity usable with
  | returned result shrunk => exact ⟨released, drained, shrunk, tail, outcome⟩
  | threw error shrunk =>
    have accounted : Accounted shrunk := by
      rcases shrinkHostCapacity_cases
          consistentLeft with
        ⟨_, same⟩ | ⟨_, same⟩ | cut
      · rw [outcome] at same
        cases same
      · rw [outcome] at same
        cases same
        exact ⟨left, consistentLeft⟩
      · rw [outcome] at cut
        exact ⟨[], cut⟩
    unfold shrinkHostCapacity at outcome
    rw [if_neg (by omega), if_neg (by simp [idle])] at outcome
    exact absurd outcome (checkedValidate_not_threw accounted)

end Aeon.Registry
