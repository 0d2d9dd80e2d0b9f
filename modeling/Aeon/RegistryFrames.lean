import Aeon.PrefillResidency

namespace Aeon.Registry

open Function (update_of_ne update_self)

/-!
# What the calls leave alone

No call but a mode switch touches the registry's sizes and flags, only the reservation
of a transfer takes an operation number, and only a request takes a lease.  An entry's
number is kept, cleared, or set to the number the call works for.  One frame says all
of this, in every state; what a call keeps only inside a prefill is in
`PrefillPreservation`.
-/

namespace ExpertRegistry

/-- The sizes and flags of a registry. -/
def settings (registry : ExpertRegistry) :=
  ((registry.numLayers, registry.expertsPerLayer, registry.totalExperts,
      registry.vramCapacity, registry.hostCapacity),
    (registry.warmFrozen, registry.prefillStream, registry.prefillAlloc,
      registry.validateEachRequest))

/-- The lease count of every expert, and how many experts there are. -/
def leases (registry : ExpertRegistry) :=
  (registry.totalExperts, fun gid => (registry.catalog gid).leaseCount)

/-- One more lease on an expert. -/
def leasesPlus
    (leases : Nat × (Nat → Nat))
    (gid : Nat) : Nat × (Nat → Nat) :=
  (leases.1, Function.update leases.2 gid (leases.2 gid + 1))

/-- Everything a frame speaks of. -/
def framed (registry : ExpertRegistry) :=
  (registry.settings, registry.nextOperationId, registry.catalog)

end ExpertRegistry

open ExpertRegistry

/-- What a call for the operation `number` leaves, but for the lease it has `taken`. -/
structure Frame
    (number : Nat)
    (taken : Option Nat)
    (before after : ExpertRegistry) : Prop where
  settings : after.settings = before.settings
  nextOperationId : after.nextOperationId = before.nextOperationId
  leases : after.leases = taken.elim before.leases (leasesPlus before.leases)
  numbers :
    ∀ gid, (after.catalog gid).operationId = (before.catalog gid).operationId ∨
      (after.catalog gid).operationId = 0 ∨
        (after.catalog gid).operationId = number

namespace Frame

variable
    {number gid slot operationId capacity : Nat}
    {taken : Option Nat}
    {before registry after : ExpertRegistry}

/-! ## Writes -/

theorem refl
    (number : Nat)
    (registry : ExpertRegistry) :
    Frame number none registry registry :=
  ⟨rfl, rfl, rfl, fun _ => .inl rfl⟩

theorem totalExperts
    (frame : Frame number taken before after) :
    after.totalExperts = before.totalExperts :=
  congrArg (fun settings => settings.1.2.2.1) frame.settings

theorem lease
    {entry : CatalogEntry}
    (frame : Frame number none before registry)
    (catalog : after.catalog = Function.update registry.catalog gid entry)
    (leased : entry.leaseCount = (registry.catalog gid).leaseCount + 1)
    (numbered : entry.operationId = (registry.catalog gid).operationId ∨
      entry.operationId = number)
    (settings : after.settings = registry.settings)
    (next : after.nextOperationId = registry.nextOperationId) :
    Frame number (some gid) before after := by
  refine ⟨settings.trans frame.settings, next.trans frame.nextOperationId, ?_, ?_⟩
  · have total : after.totalExperts = registry.totalExperts :=
      congrArg (fun settings => settings.1.2.2.1) settings
    have leases : before.leases = registry.leases := frame.leases.symm
    rw [Option.elim_some, leases]
    refine Prod.ext total (funext fun other => ?_)
    simp only [ExpertRegistry.leases, leasesPlus, catalog]
    by_cases here : other = gid
    · subst here
      rw [update_self, update_self, leased]
    · rw [update_of_ne here, update_of_ne here]
  · intro other
    simp only [catalog]
    by_cases here : other = gid
    · subst here
      rw [update_self]
      rcases numbered with kept | moved
      · rw [kept]
        exact frame.numbers other
      · exact .inr (.inr moved)
    · rw [update_of_ne here]
      exact frame.numbers other

section

variable
    (frame : Frame number taken before registry)

include frame

/-- Writes beside the catalog, the settings and the counter. -/
theorem congr
    (same : after.framed = registry.framed) :
    Frame number taken before after := by
  simp only [framed, Prod.mk.injEq] at same
  obtain ⟨settings, next, catalog⟩ := same
  have total : after.totalExperts = registry.totalExperts :=
    congrArg (fun settings => settings.1.2.2.1) settings
  refine ⟨settings.trans frame.settings, next.trans frame.nextOperationId, ?_, ?_⟩
  · rw [← frame.leases, ExpertRegistry.leases, total, catalog]
    rfl
  · rw [catalog]
    exact frame.numbers

theorem entry
    {entry : CatalogEntry}
    (catalog : after.catalog = Function.update registry.catalog gid entry)
    (leased : entry.leaseCount = (registry.catalog gid).leaseCount)
    (numbered : entry.operationId = (registry.catalog gid).operationId ∨
      entry.operationId = 0 ∨ entry.operationId = number)
    (settings : after.settings = registry.settings)
    (next : after.nextOperationId = registry.nextOperationId) :
    Frame number taken before after := by
  suffices moved : Frame number taken before (registry.setEntry gid entry) from
    moved.congr (by rw [framed, settings, next, catalog]; rfl)
  refine ⟨frame.settings, frame.nextOperationId, ?_, ?_⟩
  · rw [← frame.leases]
    refine Prod.ext rfl (funext fun other => ?_)
    simp only [ExpertRegistry.leases, ExpertRegistry.setEntry]
    by_cases here : other = gid
    · subst here
      rw [update_self, leased]
    · rw [update_of_ne here]
  · intro other
    simp only [ExpertRegistry.setEntry]
    by_cases here : other = gid
    · subst here
      rw [update_self]
      rcases numbered with kept | moved
      · rw [kept]
        exact frame.numbers other
      · exact .inr moved
    · rw [update_of_ne here]
      exact frame.numbers other

theorem removeFromHotLru : Frame number taken before (registry.removeFromHotLru gid) :=
  frame.entry rfl rfl (.inl rfl) rfl rfl

theorem removeFromWarmLru :
    Frame number taken before (registry.removeFromWarmLru gid) :=
  frame.entry rfl rfl (.inl rfl) rfl rfl

theorem pushHotLruFront : Frame number taken before (registry.pushHotLruFront gid) :=
  frame.entry rfl rfl (.inl rfl) rfl rfl

theorem pushWarmLruFront : Frame number taken before (registry.pushWarmLruFront gid) :=
  frame.entry rfl rfl (.inl rfl) rfl rfl

theorem touchHotLru : Frame number taken before (registry.touchHotLru gid) :=
  frame.removeFromHotLru.pushHotLruFront

theorem shadowTouch : Frame number taken before (registry.shadowTouch gid) :=
  frame.congr rfl

theorem recordActivation
    {step : Nat} :
    Frame number taken before (registry.recordActivation gid step) :=
  frame.entry rfl rfl (.inl rfl) rfl rfl

theorem takeShadowSlot :
    Frame number taken before (registry.takeShadowSlot gid slot operationId) :=
  frame.entry rfl rfl (.inl rfl) rfl rfl

theorem takeHotSlot :
    Frame number taken before (registry.takeHotSlot gid slot operationId) :=
  entry frame.removeFromHotLru rfl rfl (.inl rfl) rfl rfl

theorem takeWarmSlot :
    Frame number taken before (registry.takeWarmSlot gid slot operationId) :=
  entry frame.removeFromWarmLru rfl rfl (.inl rfl) rfl rfl

theorem markVictim : Frame number taken before (registry.markVictim gid slot number) :=
  entry frame.removeFromHotLru rfl rfl (.inr (.inr rfl)) rfl rfl

theorem publishHot : Frame number taken before (registry.publishHot gid slot) :=
  pushHotLruFront (frame.entry rfl rfl (.inl rfl) rfl rfl)

theorem publishShadow : Frame number taken before (registry.publishShadow gid slot) :=
  shadowTouch (pushWarmLruFront (frame.entry rfl rfl (.inr (.inl rfl)) rfl rfl))

theorem placeHot
    {rest : List Nat} :
    Frame number taken before (registry.placeHot gid slot rest) :=
  pushHotLruFront (frame.entry rfl rfl (.inl rfl) rfl rfl)

theorem placeWarm
    {rest : List Nat} :
    Frame number taken before (registry.placeWarm gid slot rest) :=
  pushWarmLruFront (frame.entry rfl rfl (.inl rfl) rfl rfl)

theorem cancelVramReservation
    {target : Option Nat} :
    Frame number taken before (registry.cancelVramReservation target) := by
  unfold ExpertRegistry.cancelVramReservation
  split
  · exact frame
  · simp only
    split <;> exact frame.congr rfl

theorem retireVictim
    {victim : Option Nat} :
    Frame number taken before (registry.retireVictim victim) := by
  unfold ExpertRegistry.retireVictim
  split
  · exact frame
  · split
    · split <;> exact frame.entry rfl rfl (.inl rfl) rfl rfl
    · exact frame.entry rfl rfl (.inl rfl) rfl rfl

theorem releaseVictim
    {victim : Option Nat} :
    Frame number taken before (registry.releaseVictim victim) := by
  unfold ExpertRegistry.releaseVictim
  split
  · exact frame
  · split
    · split <;> exact frame.entry rfl rfl (.inl rfl) rfl rfl
    · exact frame.entry rfl rfl (.inl rfl) rfl rfl

theorem releaseHotResident :
    Frame number taken before (registry.releaseHotResident gid) := by
  unfold ExpertRegistry.releaseHotResident
  cases (registry.catalog gid).slotIdx <;>
    exact entry frame.removeFromHotLru rfl rfl (.inl rfl) rfl rfl

theorem releaseShadow : Frame number taken before (registry.releaseShadow gid slot) :=
  frame.entry rfl rfl (.inl rfl) rfl rfl

theorem releaseExpert : Frame number taken before (registry.releaseExpert gid) := by
  have released :
      Frame number taken before
        (if (registry.catalog gid).owner = .hotVram ∧
            !(registry.catalog gid).residentAtPrefillBegin then
          registry.releaseHotResident gid
        else
          registry) := by
    split
    · exact frame.releaseHotResident
    · exact frame
  unfold ExpertRegistry.releaseExpert
  simp only
  split
  · exact released.releaseShadow
  · exact released

theorem drainHot : Frame number taken before (registry.drainHot gid) := by
  unfold ExpertRegistry.drainHot
  cases (registry.catalog gid).slotIdx <;> exact frame.entry rfl rfl (.inl rfl) rfl rfl

theorem releaseIdleShadow :
    Frame number taken before (registry.releaseIdleShadow gid) := by
  unfold ExpertRegistry.releaseIdleShadow
  cases (registry.catalog gid).shadowVramSlot <;>
    exact frame.entry rfl rfl (.inl rfl) rfl rfl

theorem surrenderHostSlot :
    Frame number taken before (registry.surrenderHostSlot gid slot) :=
  entry frame.removeFromWarmLru rfl rfl (.inl rfl) rfl rfl

/-! ## Destinations -/

theorem reserveWarmDestination :
    Frame number taken before (registry.reserveWarmDestination gid operationId).2 := by
  unfold ExpertRegistry.reserveWarmDestination
  split
  · exact frame.congr rfl
  · split
    · exact frame.takeWarmSlot
    · exact frame

theorem demoteVictim
    {incoming : Nat} :
    Frame number taken before
      (registry.demoteVictim gid slot incoming operationId capacity).2 := by
  have attempted :
      Frame number taken before
        { registry with demotionAttempts := registry.demotionAttempts + 1 } :=
    frame.congr rfl
  have reserved := @reserveWarmDestination _ incoming operationId _ _ _ attempted
  unfold ExpertRegistry.demoteVictim
  split
  · exact frame
  · simp only
    split
    · exact frame.entry rfl rfl (.inl rfl) rfl rfl
    · split
      all_goals
        next found =>
          rw [found] at reserved
          exact reserved.entry rfl rfl (.inl rfl) rfl rfl

theorem evictForPrefill :
    Frame number taken before
      (registry.evictForPrefill gid operationId).registry := by
  unfold ExpertRegistry.evictForPrefill
  split
  · exact frame.takeShadowSlot
  · split
    · exact frame.takeHotSlot
    · exact frame

theorem reserveVramDestination :
    Frame number taken before
      (registry.reserveVramDestination gid number capacity).registry := by
  unfold ExpertRegistry.reserveVramDestination
  split
  · exact frame.congr rfl
  · split
    · exact frame
    · split
      · exact frame.evictForPrefill
      · split
        · exact frame
        · exact demoteVictim frame.markVictim

theorem attachVramDestination :
    Frame number taken before
      (registry.attachVramDestination number capacity).registry := by
  unfold ExpertRegistry.attachVramDestination
  split
  · exact frame
  next gid _ =>
    have reserved := @reserveVramDestination _ gid capacity _ _ _ frame
    split
    · exact frame
    · split
      next found =>
        rw [found] at reserved
        exact reserved
      next found =>
        rw [found] at reserved
        exact reserved.entry rfl rfl (.inl rfl) rfl rfl

/-! ## Completions and failures -/

theorem completeDemotion :
    Frame number taken before (registry.completeDemotion operationId).registry := by
  unfold ExpertRegistry.completeDemotion
  split
  · exact frame
  next gid _ =>
    split
    · exact frame
    · split
      next source destination _ _ =>
        have landed :
            Frame number taken before
              ((((registry.setHostSlot destination (some gid)).setHostReservation
                destination 0).setEntry gid
                  (demotedEntry (registry.catalog gid) destination)).pushWarmLruFront
                    gid) :=
          pushWarmLruFront (frame.entry rfl rfl (.inl rfl) rfl rfl)
        rw [checkedValidate_registry]
        exact landed.congr rfl
      · exact frame

theorem dropDemotion :
    Frame number taken before (registry.dropDemotion operationId).registry := by
  unfold ExpertRegistry.dropDemotion
  split
  · exact frame
  next gid _ =>
    split
    · exact frame
    · rw [checkedValidate_registry]
      cases registry.findReservedHostSlot operationId with
      | none => exact frame.entry rfl rfl (.inl rfl) rfl rfl
      | some slot =>
        have freed :
            Frame number taken before (registry.releaseReservedHostSlot slot) :=
          frame.congr rfl
        exact freed.entry rfl rfl (.inl rfl) rfl rfl

theorem failDemotion :
    Frame number taken before (registry.failDemotion operationId).registry := by
  unfold ExpertRegistry.failDemotion
  split
  · exact frame
  next gid _ =>
    split
    · exact frame
    · have cold :
          Frame number taken before
            (registry.setEntry gid (coldEntry (registry.catalog gid))) :=
        frame.entry rfl rfl (.inl rfl) rfl rfl
      rw [checkedValidate_registry]
      refine cold.congr ?_
      cases registry.findReservedHostSlot operationId <;>
        cases (registry.catalog gid).slotIdx <;>
          simp only [framed, ExpertRegistry.settings, ExpertRegistry.setEntry,
            releaseReservedHostSlot, pushFreeHost, setVramSlot, setHostSlot,
            setHostReservation]

theorem completeRequest :
    Frame number taken before (registry.completeRequest operationId).registry := by
  have retired :
      Frame number taken before
        (registry.retireVictim (registry.findOperationVictim operationId)) :=
    frame.retireVictim
  unfold ExpertRegistry.completeRequest
  split
  · exact frame
  · split
    · exact frame
    · split
      · exact frame
      · split
        · exact frame
        · split
          · rw [checkedValidate_registry]
            exact frame.publishShadow
          · simp only
            split
            · exact frame
            · split
              · split
                · exact retired
                · split
                  · exact retired
                  · rw [checkedValidate_registry]
                    exact publishHot (retired.congr rfl)
              · rw [checkedValidate_registry]
                exact retired.publishHot

theorem failRequest :
    Frame number taken before (registry.failRequest operationId).registry := by
  unfold ExpertRegistry.failRequest
  split
  · exact frame
  next gid _ =>
    have cancelled :
        Frame number taken before
          (registry.cancelVramReservation (registry.catalog gid).pendingSlotIdx) :=
      frame.cancelVramReservation
    simp only
    split
    · rw [checkedValidate_registry]
      exact pushWarmLruFront (cancelled.entry rfl rfl (.inr (.inl rfl)) rfl rfl)
    · split
      · exact frame
      · rw [checkedValidate_registry]
        have released :
            Frame number taken before
              ((registry.cancelVramReservation
                (registry.catalog gid).pendingSlotIdx).releaseVictim
                  (registry.findOperationVictim operationId)) :=
          cancelled.releaseVictim
        split
        · exact entry (@pushWarmLruFront _ gid _ _ _ (released.congr rfl)) rfl rfl
            (.inl rfl) rfl rfl
        · exact released.entry rfl rfl (.inl rfl) rfl rfl

/-! ## Modes and the Warm boundary -/

theorem releaseExperts
    {layerId : Nat}
    {layer : List Nat} :
    Frame number taken before
      (ExpertRegistry.releaseExperts layerId registry layer).registry := by
  induction layer generalizing registry with
  | nil =>
    rw [ExpertRegistry.releaseExperts, validated_registry]
    exact frame
  | cons gid rest ih =>
    unfold ExpertRegistry.releaseExperts
    split
    · exact frame
    · split
      · exact frame
      · exact ih frame.releaseExpert

theorem releaseLayer
    {layerId : Nat} :
    Frame number taken before (registry.releaseLayer layerId).registry := by
  unfold ExpertRegistry.releaseLayer
  split
  · exact frame
  · split
    · exact frame
    · exact frame.releaseExperts

theorem drainWorst
    {remaining : Nat} :
    Frame number taken before (ExpertRegistry.drainWorst registry remaining) := by
  induction remaining generalizing registry with
  | zero => exact frame
  | succ remaining ih =>
    unfold ExpertRegistry.drainWorst
    split
    · exact frame
    · exact ih frame.drainHot

theorem releaseShadowResidencies
    {ranked : List Nat} :
    Frame number taken before
      (ExpertRegistry.releaseShadowResidencies registry ranked) := by
  induction ranked generalizing registry with
  | nil => exact frame
  | cons gid rest ih =>
    unfold ExpertRegistry.releaseShadowResidencies
    split
    · exact ih frame
    · exact ih frame.releaseIdleShadow

theorem recoverHostSlots
    {message : String}
    {slots : List Nat} :
    Frame number taken before
      (ExpertRegistry.recoverHostSlots registry message slots).registry := by
  induction slots generalizing registry with
  | nil => exact frame
  | cons slot rest ih =>
    unfold ExpertRegistry.recoverHostSlots
    split
    · exact frame
    · exact ih (frame.congr rfl)

theorem growHostCapacity
    {usable : Nat} :
    Frame number taken before (registry.growHostCapacity usable).registry := by
  unfold ExpertRegistry.growHostCapacity
  split
  · exact frame
  · split
    · exact frame
    · have recovered :=
        @recoverHostSlots _ _ _ _ frame
          "ExpertRegistry: cannot grow Warm capacity over a slot still in use"
          (List.range' registry.hostCapacityUsable
            (usable - registry.hostCapacityUsable))
      split
      next found =>
        rw [found] at recovered
        exact recovered
      next found =>
        rw [found] at recovered
        rw [checkedValidate_registry]
        exact recovered.congr rfl

theorem shrinkHostCapacity
    {usable : Nat} :
    Frame number taken before (registry.shrinkHostCapacity usable).registry := by
  unfold ExpertRegistry.shrinkHostCapacity
  split
  · exact frame
  · split
    · exact frame
    · rw [checkedValidate_registry]
      exact frame.congr rfl

theorem releaseHostSlots
    {count : Nat}
    {slots : List Nat} :
    Frame number taken before
      (ExpertRegistry.releaseHostSlots count registry slots).registry := by
  induction slots generalizing registry count with
  | nil =>
    rw [ExpertRegistry.releaseHostSlots, checkedValidate_registry]
    exact frame
  | cons slot rest ih =>
    unfold ExpertRegistry.releaseHostSlots
    split
    · exact ih frame
    next gid _ =>
      split
      · exact frame
      · split
        · exact frame
        · exact ih frame.surrenderHostSlot

theorem releaseHostTail
    {keep : Nat} :
    Frame number taken before (registry.releaseHostTail keep).registry := by
  unfold ExpertRegistry.releaseHostTail
  split
  · exact frame
  · exact frame.releaseHostSlots

theorem populateRoundRobin
    {preloadWarmHost : Bool}
    {vramAssigned hostAssigned : Nat}
    {order : List Nat} :
    Frame number taken before
      (ExpertRegistry.populateRoundRobin preloadWarmHost vramAssigned hostAssigned
        registry order) := by
  induction order generalizing registry vramAssigned hostAssigned with
  | nil => exact frame
  | cons gid rest ih =>
    unfold ExpertRegistry.populateRoundRobin
    split
    · split
      · exact ih frame.placeHot
      · exact frame
    · split
      · split
        · exact ih frame.placeWarm
        · exact frame
      · split
        · exact frame
        · exact ih frame

end

/-! ## Requests -/

section

variable
    (frame : Frame number none before registry)

include frame

theorem acquireLease : Frame number (some gid) before (registry.acquireLease gid) :=
  frame.lease rfl rfl (.inl rfl) rfl rfl

theorem finishShadowReservation
    {target : Option Nat} :
    Frame number (some gid) before
      (registry.finishShadowReservation gid number target).registry := by
  rw [ExpertRegistry.finishShadowReservation, checkedValidate_registry]
  exact lease (removeFromWarmLru (frame.congr rfl)) rfl rfl (.inr rfl) rfl rfl

theorem finishPromotion
    {destination : VramDestination} :
    Frame number (some gid) before
      (registry.finishPromotion gid number destination).registry := by
  rw [ExpertRegistry.finishPromotion, checkedValidate_registry]
  exact lease (@removeFromWarmLru _ gid _ _ _ frame) rfl rfl (.inr rfl) rfl rfl

theorem finishColdRead
    {destination : Option VramDestination} :
    Frame number (some gid) before
      (registry.finishColdRead gid number destination).registry := by
  rw [ExpertRegistry.finishColdRead, checkedValidate_registry]
  exact frame.lease rfl rfl (.inr rfl) rfl rfl

end

theorem reserveTransfer
    {stageOnly : Bool}
    (frame : Frame registry.nextOperationId none before registry.takeOperationId) :
    ∃ taken,
      Frame registry.nextOperationId taken before
        (registry.reserveTransfer gid capacity stageOnly).registry := by
  have reserved := @reserveVramDestination _ gid capacity _ _ _ frame
  unfold ExpertRegistry.reserveTransfer
  simp only
  split
  · split
    · split
      · exact ⟨_, frame.finishShadowReservation⟩
      · split
        next found =>
          rw [found] at reserved
          exact ⟨_, reserved⟩
        next found =>
          rw [found] at reserved
          exact ⟨_, reserved.finishShadowReservation⟩
    · split
      next found =>
        rw [found] at reserved
        exact ⟨_, reserved⟩
      next found =>
        rw [found] at reserved
        exact ⟨_, reserved.finishPromotion⟩
  · split
    · exact ⟨_, frame.finishColdRead⟩
    · split
      next found =>
        rw [found] at reserved
        exact ⟨_, reserved⟩
      next found =>
        rw [found] at reserved
        exact ⟨_, reserved.finishColdRead⟩

/-- A request that starts no transfer works for no number. -/
theorem reserveRequestByGid
    {step : Nat}
    {stageOnly : Bool} :
    (∃ taken, Frame 0 taken registry
      (registry.reserveRequestByGid gid step capacity stageOnly).registry) ∨
      ∃ taken, Frame registry.nextOperationId taken registry.takeOperationId
        (registry.reserveRequestByGid gid step capacity stageOnly).registry := by
  have active : Frame 0 none registry (registry.recordActivation gid step) :=
    (refl 0 registry).recordActivation
  unfold ExpertRegistry.reserveRequestByGid
  split
  · exact .inl ⟨_, refl 0 registry⟩
  · simp only
    split
    · split
      · exact .inl ⟨_, active⟩
      · exact .inl ⟨_, active.acquireLease⟩
    · split
      · exact .inl ⟨_, acquireLease (touchHotLru (active.congr rfl))⟩
      · split
        · exact .inl ⟨_, acquireLease (shadowTouch (active.congr rfl))⟩
        · have numbered :=
            @recordActivation _ gid _ _ _
              (refl registry.nextOperationId registry.takeOperationId) step
          exact .inr (@reserveTransfer gid capacity _
            (registry.recordActivation gid step) stageOnly numbered)

end Frame

/-! ## Calls outside the frame -/

namespace ExpertRegistry

variable (registry : ExpertRegistry)

theorem reserveRequestByGid_settings
    (gid step capacity : Nat)
    (stageOnly : Bool) :
    (registry.reserveRequestByGid gid step capacity
      stageOnly).registry.settings = registry.settings := by
  obtain ⟨taken, frame⟩ | ⟨taken, frame⟩ :=
    @Frame.reserveRequestByGid gid capacity registry step stageOnly
  · exact frame.settings
  · exact frame.settings

theorem releaseLease_settings
    (gid : Nat) :
    (registry.releaseLease gid).registry.settings = registry.settings := by
  unfold releaseLease
  split <;> rfl

theorem releaseHostSlots_hostCapacityUsable
    (count : Nat)
    (slots : List Nat) :
    (releaseHostSlots count registry slots).registry.hostCapacityUsable =
      registry.hostCapacityUsable := by
  induction slots generalizing registry count with
  | nil => simp only [releaseHostSlots, checkedValidate_registry]
  | cons slot rest step =>
    unfold releaseHostSlots
    split
    · exact step registry count
    · split
      · rfl
      · split
        · rfl
        · rw [step]
          rfl

end ExpertRegistry

end Aeon.Registry
