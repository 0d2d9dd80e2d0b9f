import Aeon.RegistryAtomicity
import Aeon.RegistryIssue
import Aeon.RegistryLeases

namespace Aeon.Registry

open Function (update_comm update_idem update_of_ne update_self)

/-!
# Requests whose VRAM destination comes later

A staged request takes no VRAM slot; `attach_vram_destination` supplies one when
the copy can run.  Both orders write the same: the destination is chosen without a
look at the incoming expert's own entry.  What is lost on the way is the victim's
demotion, which `attach_vram_destination` reserves and does not report.
-/

open ExpertRegistry

/-- A change of one expert's entry, of the hit counts and of the Warm list. -/
structure Staging where
  gid : Nat
  pend : CatalogEntry → CatalogEntry
  rank : List Nat → List Nat
  hits : Nat
  misses : Nat

/-- The registry with a change staged. -/
def Staging.apply
    (staging : Staging)
    (registry : ExpertRegistry) : ExpertRegistry :=
  { registry.setEntry staging.gid
      (staging.pend (registry.catalog staging.gid)) with
    warmHostLru := staging.rank registry.warmHostLru
    hitsWarm := registry.hitsWarm + staging.hits
    shadowCopies := registry.shadowCopies + staging.hits
    missesCold := registry.missesCold + staging.misses }

namespace Staging

variable
    {staging : Staging}
    {registry : ExpertRegistry}
    {other slot operationId capacity : Nat}

/-! ## What a destination looks at -/

/-- The staging expert's state shows in its own entry only. -/
theorem catalog_of_ne
    (different : other ≠ staging.gid) :
    (staging.apply registry).catalog other = registry.catalog other :=
  update_of_ne different _ _

/-- It does not change which Hot expert is reclaimable, -/
theorem hotReclaimable_apply
    (spares : Bool) :
    (staging.apply registry).hotReclaimable staging.gid spares =
      registry.hotReclaimable staging.gid spares := by
  funext other
  by_cases here : other = staging.gid
  · subst here
    simp [hotReclaimable]
  · unfold hotReclaimable
    rw [catalog_of_ne here]

/-- which Warm one, -/
theorem warmReclaimable_apply :
    (staging.apply registry).warmReclaimable staging.gid =
      registry.warmReclaimable staging.gid := by
  funext other
  by_cases here : other = staging.gid
  · subst here
    simp [warmReclaimable]
  · unfold warmReclaimable
    rw [catalog_of_ne here]

/-- The incoming expert has no shadow, before and after. -/
def Unshadowed
    (staging : Staging)
    (registry : ExpertRegistry) : Prop :=
  (registry.catalog staging.gid).shadowVramSlot = none ∧
    (staging.pend (registry.catalog staging.gid)).shadowVramSlot = none

/-- or which shadow. -/
theorem shadowReclaimable_apply
    (unshadowed : staging.Unshadowed registry) :
    (staging.apply registry).shadowReclaimable =
      registry.shadowReclaimable := by
  funext other
  by_cases here : other = staging.gid
  · subst here
    have changed :
        ((staging.apply registry).catalog staging.gid).shadowVramSlot =
          none := by
      unfold apply
      simp only [setEntry, update_self]
      exact unshadowed.2
    simp [shadowReclaimable, changed, unshadowed.1]
  · unfold shadowReclaimable
    rw [catalog_of_ne here]

/-- The incoming expert is not Hot, before and after. -/
def NotHot
    (staging : Staging)
    (registry : ExpertRegistry) : Prop :=
  (registry.catalog staging.gid).owner ≠ .hotVram ∧
    (staging.pend (registry.catalog staging.gid)).owner ≠ .hotVram

theorem noReclaimableMessage_apply
    (notHot : staging.NotHot registry) :
    (staging.apply registry).noReclaimableMessage =
      registry.noReclaimableMessage := by
  have changed :
      (staging.apply registry).catalog staging.gid =
        staging.pend (registry.catalog staging.gid) :=
    update_self _ _ _
  have sameHot :
      ((staging.apply registry).gids.filter fun gid =>
        ((staging.apply registry).catalog gid).owner == .hotVram) =
        registry.gids.filter fun gid =>
          (registry.catalog gid).owner == .hotVram := by
    apply List.filter_congr
    intro other _
    by_cases here : other = staging.gid
    · subst here
      rw [changed]
      simp [notHot.1, notHot.2]
    · rw [catalog_of_ne here]
  have differs {other : Nat}
      (hot : other ∈ registry.gids.filter fun gid =>
        (registry.catalog gid).owner == .hotVram) :
      other ≠ staging.gid := by
    rintro rfl
    exact notHot.1 (by simpa using (List.mem_filter.mp hot).2)
  unfold noReclaimableMessage
  rw [sameHot]
  have sameLeased :
      ((registry.gids.filter fun gid =>
        (registry.catalog gid).owner == .hotVram).countP fun gid =>
          ((staging.apply registry).catalog gid).leaseCount != 0) =
        (registry.gids.filter fun gid =>
          (registry.catalog gid).owner == .hotVram).countP fun gid =>
            (registry.catalog gid).leaseCount != 0 := by
    apply List.countP_congr
    intro other hot
    rw [catalog_of_ne (differs hot)]
  have samePending :
      ((registry.gids.filter fun gid =>
        (registry.catalog gid).owner == .hotVram).countP fun gid =>
          ((staging.apply registry).catalog gid).operation != .idle ||
            ((staging.apply registry).catalog gid).gpuTransfer != .idle) =
        (registry.gids.filter fun gid =>
          (registry.catalog gid).owner == .hotVram).countP fun gid =>
            (registry.catalog gid).operation != .idle ||
              (registry.catalog gid).gpuTransfer != .idle := by
    apply List.countP_congr
    intro other hot
    rw [catalog_of_ne (differs hot)]
  simp only [sameLeased, samePending]
  rfl

/-! ## What a destination writes -/

theorem takeShadowSlot_apply
    (different : other ≠ staging.gid) :
    (staging.apply registry).takeShadowSlot other slot operationId =
      staging.apply (registry.takeShadowSlot other slot operationId) := by
  simp only [apply, takeShadowSlot, releaseShadowResidency, setEntry,
    setVramSlot, setVramReservation, update_of_ne different,
    update_of_ne different.symm, update_comm different]

theorem takeHotSlot_apply
    (different : other ≠ staging.gid) :
    (staging.apply registry).takeHotSlot other slot operationId =
      staging.apply (registry.takeHotSlot other slot operationId) := by
  simp only [apply, takeHotSlot, removeFromHotLru, setEntry, setVramSlot,
    setVramReservation, update_of_ne different,
    update_of_ne different.symm, update_self,
    update_idem, update_comm different]

theorem markVictim_apply
    (different : other ≠ staging.gid) :
    (staging.apply registry).markVictim other slot operationId =
      staging.apply (registry.markVictim other slot operationId) := by
  simp only [apply, markVictim, removeFromHotLru, setEntry,
    setVramReservation, update_of_ne different,
    update_of_ne different.symm, update_self,
    update_idem, update_comm different]

theorem dropVictim_apply
    {reason : ExpertDemotionDropReason}
    (different : other ≠ staging.gid) :
    (staging.apply registry).dropVictim other reason =
      staging.apply (registry.dropVictim other reason) := by
  simp only [apply, dropVictim, setEntry, update_of_ne different,
    update_of_ne different.symm, update_comm different]

theorem startDemotion_apply
    (different : other ≠ staging.gid) :
    (staging.apply registry).startDemotion other =
      staging.apply (registry.startDemotion other) := by
  simp only [apply, startDemotion, setEntry, update_of_ne different,
    update_of_ne different.symm, update_comm different]

/-- A change that leaves the Warm list alone. -/
def KeepsRanks (staging : Staging) : Prop :=
  ∀ ranked, staging.rank ranked = ranked

theorem takeWarmSlot_apply
    (keeps : staging.KeepsRanks)
    (different : other ≠ staging.gid) :
    (staging.apply registry).takeWarmSlot other slot operationId =
      staging.apply (registry.takeWarmSlot other slot operationId) := by
  have kept (ranked : List Nat) : staging.rank ranked = ranked := keeps ranked
  simp only [apply, takeWarmSlot, removeFromWarmLru, setEntry, setHostSlot,
    setHostReservation, kept, update_of_ne different,
    update_of_ne different.symm, update_self,
    update_idem, update_comm different]

/-- Reserving a host slot commutes with the staging state, -/
theorem reserveWarmDestination_apply
    (keeps : staging.KeepsRanks) :
    (staging.apply registry).reserveWarmDestination staging.gid
        operationId =
      ((registry.reserveWarmDestination staging.gid operationId).1,
        staging.apply
          (registry.reserveWarmDestination staging.gid operationId).2) := by
  have sameList : (staging.apply registry).warmHostLru = registry.warmHostLru :=
    keeps _
  unfold reserveWarmDestination
  rw [show (staging.apply registry).freeHostSlots = registry.freeHostSlots from rfl]
  cases registry.freeHostSlots with
  | cons slot rest => rfl
  | nil =>
    simp only [warmReclaimable_apply, sameList]
    cases found : registry.warmHostLru.reverse.find?
        (registry.warmReclaimable staging.gid) with
    | none => rfl
    | some other =>
      have different : other ≠ staging.gid := by
        rintro rfl
        simpa [warmReclaimable] using List.find?_some found
      simp only
      rw [catalog_of_ne different, takeWarmSlot_apply keeps different]

/-- and so does demoting a victim, -/
theorem demoteVictim_apply
    (keeps : staging.KeepsRanks)
    (different : other ≠ staging.gid) :
    (staging.apply registry).demoteVictim other slot staging.gid operationId
        capacity =
      ((registry.demoteVictim other slot staging.gid operationId capacity).1,
        staging.apply
          (registry.demoteVictim other slot staging.gid operationId
            capacity).2) := by
  have reserved :=
    @reserveWarmDestination_apply staging
      { registry with demotionAttempts := registry.demotionAttempts + 1 }
      operationId keeps
  unfold demoteVictim
  change (if registry.hostCapacity = 0 then _ else _) = _
  by_cases unhosted : registry.hostCapacity = 0
  · rw [if_pos unhosted, if_pos unhosted]
  · rw [if_neg unhosted, if_neg unhosted]
    change (if capacity ≤ registry.pendingDemotionCount then _ else _) = _
    by_cases full : capacity ≤ registry.pendingDemotionCount
    · simp only [full, if_true]
      exact congrArg _ (@dropVictim_apply staging
        { registry with demotionAttempts := registry.demotionAttempts + 1 }
        other _ different)
    · simp only [full, if_false]
      erw [reserved]
      generalize reserveWarmDestination
        { registry with demotionAttempts := registry.demotionAttempts + 1 }
        staging.gid operationId = found
      rcases found with ⟨_ | destination, after⟩
      · exact congrArg _ (dropVictim_apply different)
      · exact congrArg _ (startDemotion_apply different)

/-- and evicting for the prefill. -/
theorem evictForPrefill_apply
    (unshadowed : staging.Unshadowed registry) :
    (staging.apply registry).evictForPrefill staging.gid operationId =
      (registry.evictForPrefill staging.gid operationId).onRegistry
        staging.apply := by
  unfold evictForPrefill
  rw [shadowReclaimable_apply unshadowed, hotReclaimable_apply,
    show (staging.apply registry).shadowLru = registry.shadowLru from rfl,
    show (staging.apply registry).hotVramLru = registry.hotVramLru from rfl]
  cases found : registry.shadowLru.reverse.find?
      registry.shadowReclaimable with
  | some other =>
    have different : other ≠ staging.gid := by
      rintro rfl
      have reclaimable := List.find?_some found
      simp [shadowReclaimable, unshadowed.1] at reclaimable
    simp only
    rw [catalog_of_ne different, takeShadowSlot_apply different]
    rfl
  | none =>
    cases evicted : registry.hotVramLru.reverse.find?
        (registry.hotReclaimable staging.gid true) with
    | none => rfl
    | some other =>
      have different : other ≠ staging.gid := by
        rintro rfl
        simpa [hotReclaimable] using List.find?_some evicted
      simp only
      rw [catalog_of_ne different, takeHotSlot_apply different]
      rfl

/-- A destination is chosen alike before and after the incoming entry changes. -/
theorem reserveVramDestination_apply
    (unshadowed : staging.Unshadowed registry)
    (notHot : staging.NotHot registry)
    (keeps : registry.warmFrozen = false → staging.KeepsRanks) :
    (staging.apply registry).reserveVramDestination staging.gid operationId
        capacity =
      (registry.reserveVramDestination staging.gid operationId
        capacity).onRegistry staging.apply := by
  unfold reserveVramDestination
  rw [evictForPrefill_apply unshadowed, hotReclaimable_apply,
    noReclaimableMessage_apply notHot,
    show (staging.apply registry).freeVramSlots = registry.freeVramSlots from rfl]
  cases registry.freeVramSlots with
  | cons slot rest => rfl
  | nil =>
    change (if registry.prefillStream &&
      registry.prefillAlloc == .freeListOnly then _
      else if registry.prefillStream || registry.warmFrozen then _
      else _) = _
    split
    · rfl
    · split
      · rfl
      · next decoding =>
          have thawed : registry.warmFrozen = false := by
            simp only [Bool.or_eq_true, not_or, Bool.not_eq_true]
              at decoding
            exact decoding.2
          rw [show (staging.apply registry).hotVramLru = registry.hotVramLru from rfl]
          cases found : registry.hotVramLru.reverse.find?
              (registry.hotReclaimable staging.gid false) with
          | none => rfl
          | some victim =>
            have different : victim ≠ staging.gid := by
              rintro rfl
              simpa [hotReclaimable] using List.find?_some found
            simp only
            rw [catalog_of_ne different, markVictim_apply different,
              demoteVictim_apply (keeps thawed) different]
            rfl

end Staging

end Aeon.Registry
