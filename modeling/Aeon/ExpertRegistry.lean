import Aeon.ExpertRegistryValidation

namespace Aeon.Registry.ExpertRegistry

/-!
# The expert registry

Residency and usage of every expert across VRAM, host memory and the drive: the
load-time placement, the reservation of a request with its VRAM and Warm
destinations, and the completions and failures of the transfers that follow.
-/

variable (registry : ExpertRegistry)

/-! ## Load -/

/-- A default-constructed registry. -/
def unbuilt : ExpertRegistry where
  numLayers := 0
  expertsPerLayer := 0
  totalExperts := 0
  vramCapacity := 0
  hostCapacity := 0
  hostCapacityUsable := 0
  catalog := fun _ => {}
  vramSlots := fun _ => none
  freeVramSlots := []
  hostSlots := fun _ => none
  freeHostSlots := []
  vramSlotReservations := fun _ => 0
  hostSlotReservations := fun _ => 0
  hotVramLru := []
  warmHostLru := []
  hitsHot := 0
  hitsWarm := 0
  missesCold := 0
  demotionAttempts := 0
  demotionCompletions := 0
  demotionDrops := 0
  shadowCopies := 0
  nextOperationId := 1
  pendingDemotionCount := 0
  warmFrozen := false
  validateEachRequest := false
  prefillStream := false
  prefillAlloc := .freeListOnly
  shadowSlotOfExpert := fun _ => none
  shadowLru := []

/-- The order in which `populate_round_robin` visits the catalog. -/
def roundRobin : List Nat :=
  (List.range registry.expertsPerLayer).flatMap fun expert =>
    (List.range registry.numLayers).map fun layer =>
      layer * registry.expertsPerLayer + expert

/-- Give `gid` the VRAM slot on top of the free list. -/
def placeHot
    (gid slot : Nat)
    (rest : List Nat) : ExpertRegistry :=
  ({ registry with freeVramSlots := rest }.setEntry gid
      { registry.catalog gid with
        owner := .hotVram
        slotIdx := some slot
        slotState := .active }
    |>.setVramSlot slot (some gid)).pushHotLruFront gid

/-- Give `gid` the host slot on top of the free list. -/
def placeWarm
    (gid slot : Nat)
    (rest : List Nat) : ExpertRegistry :=
  ({ registry with freeHostSlots := rest }.setEntry gid
      { registry.catalog gid with
        owner := .warmHost
        slotIdx := some slot
        slotState := .active }
    |>.setHostSlot slot (some gid)).pushWarmLruFront gid

/-- The loop of `populate_round_robin` over the experts still to place. -/
def populateRoundRobin
    (preloadWarmHost : Bool)
    (vramAssigned hostAssigned : Nat)
    (registry : ExpertRegistry) :
    List Nat → ExpertRegistry
  | [] => registry
  | gid :: rest =>
    if vramAssigned < registry.vramCapacity then
      match registry.freeVramSlots with
      | slot :: free =>
        populateRoundRobin preloadWarmHost (vramAssigned + 1)
          hostAssigned (registry.placeHot gid slot free) rest
      | [] => registry
    else if preloadWarmHost && hostAssigned < registry.hostCapacityUsable then
      match registry.freeHostSlots with
      | slot :: free =>
        populateRoundRobin preloadWarmHost vramAssigned
          (hostAssigned + 1) (registry.placeWarm gid slot free) rest
      | [] => registry
    else if preloadWarmHost then
      registry
    else
      populateRoundRobin preloadWarmHost vramAssigned hostAssigned
        registry rest

/-- The state `init` assigns before it places any expert. -/
def cleared
    (layers expertsLayer vramCap hostCap : Nat) : ExpertRegistry :=
  { registry with
    numLayers := layers
    expertsPerLayer := expertsLayer
    totalExperts := layers * expertsLayer
    vramCapacity := vramCap
    hostCapacity := hostCap
    hostCapacityUsable := hostCap
    catalog := fun _ => {}
    vramSlots := fun _ => none
    freeVramSlots := List.range vramCap
    hostSlots := fun _ => none
    freeHostSlots := List.range hostCap
    vramSlotReservations := fun _ => 0
    hostSlotReservations := fun _ => 0
    hotVramLru := []
    warmHostLru := []
    hitsHot := 0
    hitsWarm := 0
    missesCold := 0
    demotionAttempts := 0
    demotionCompletions := 0
    demotionDrops := 0
    shadowCopies := 0
    nextOperationId := 1
    pendingDemotionCount := 0
    warmFrozen := false
    prefillStream := false
    shadowSlotOfExpert := fun _ => none
    shadowLru := [] }

/--
`ExpertRegistry::init`, on an object in any earlier state; the product of its layers and
experts is a `uint32_t`, so below 2^32.
-/
def init
    (layers expertsLayer vramCap hostCap : Nat)
    (preloadWarmHost : Bool) : Outcome Unit :=
  if vramCap = 0 then
    .threw (.invalidArgument
      "ExpertRegistry: hot_capacity must be greater than zero") registry
  else
    let fresh := registry.cleared layers expertsLayer vramCap hostCap
    (populateRoundRobin preloadWarmHost 0 0 fresh fresh.roundRobin).validated ()

/-! ## Destinations -/

/-- Whether a Hot resident may be taken as a victim. -/
def hotReclaimable
    (incomingGid : Nat)
    (sparesPreserved : Bool)
    (gid : Nat) : Bool :=
  let candidate := registry.catalog gid
  !(gid == incomingGid ||
    (sparesPreserved && candidate.residentAtPrefillBegin) ||
    candidate.operation != .idle ||
    candidate.gpuTransfer != .idle ||
    candidate.publication != .published ||
    candidate.leaseCount != 0)

/-- Whether a shadow residency may be released. -/
def shadowReclaimable (gid : Nat) : Bool :=
  let candidate := registry.catalog gid
  !(candidate.shadowVramSlot.isNone ||
    candidate.leaseCount != 0 ||
    candidate.operation != .idle ||
    candidate.publication != .published)

/-- Release a shadow and hand its VRAM slot to an operation. -/
def takeShadowSlot
    (gid slot operationId : Nat) : ExpertRegistry :=
  ((registry.releaseShadowResidency gid).setVramSlot slot none)
    |>.setVramReservation slot operationId

/-- Release a Hot resident and hand its VRAM slot to an operation. -/
def takeHotSlot
    (gid slot operationId : Nat) : ExpertRegistry :=
  let removed := (registry.removeFromHotLru gid).setVramSlot slot none
  (removed.setEntry gid
    { removed.catalog gid with
      owner := .coldNvme
      slotIdx := none
      pendingSlotIdx := none
      publication := .published
      slotState := .unallocated
      operation := .idle
      gpuTransfer := .idle }).setVramReservation slot operationId

/-- The release-based eviction of `reserve_vram_destination` in a prefill. -/
def evictForPrefill
    (incomingGid operationId : Nat) : Outcome VramDestination :=
  match registry.shadowLru.reverse.find? registry.shadowReclaimable with
  | some gid =>
    let slot := (registry.catalog gid).shadowVramSlot.getD 0
    .returned ⟨slot, none⟩ (registry.takeShadowSlot gid slot operationId)
  | none =>
    match registry.hotVramLru.reverse.find?
        (registry.hotReclaimable incomingGid true) with
    | some gid =>
      let slot := (registry.catalog gid).slotIdx.getD 0
      .returned ⟨slot, none⟩ (registry.takeHotSlot gid slot operationId)
    | none =>
      .threw (.runtimeError
        ("ExpertRegistry: no reclaimable Hot VRAM slot is available in " ++
          "prefill (every resident is preserved, leased, or in flight)"))
        registry

/-- Whether a Warm resident may give up its host slot. -/
def warmReclaimable
    (excludedGid gid : Nat) : Bool :=
  let candidate := registry.catalog gid
  !(gid == excludedGid ||
    candidate.operation != .idle ||
    candidate.gpuTransfer != .idle ||
    candidate.publication != .published ||
    candidate.leaseCount != 0)

/-- Drop a Warm resident and hand its host slot to an operation. -/
def takeWarmSlot
    (gid slot operationId : Nat) : ExpertRegistry :=
  let removed := registry.removeFromWarmLru gid
  ((removed.setEntry gid
      { removed.catalog gid with
        owner := .coldNvme
        slotIdx := none
        pendingSlotIdx := none
        slotState := .unallocated }).setHostSlot slot none)
    |>.setHostReservation slot operationId

/-- `reserve_warm_destination`. -/
def reserveWarmDestination
    (excludedGid operationId : Nat) : Option Nat × ExpertRegistry :=
  match registry.freeHostSlots with
  | slot :: rest =>
    (some slot,
      { registry with freeHostSlots := rest }.setHostReservation
        slot operationId)
  | [] =>
    match registry.warmHostLru.reverse.find?
        (registry.warmReclaimable excludedGid) with
    | some gid =>
      let slot := (registry.catalog gid).slotIdx.getD 0
      (some slot, registry.takeWarmSlot gid slot operationId)
    | none => (none, registry)

/-- Mark a Hot resident as the demotion victim of an operation. -/
def markVictim
    (gid slot operationId : Nat) : ExpertRegistry :=
  let removed :=
    (registry.removeFromHotLru gid).setVramReservation slot operationId
  removed.setEntry gid
    { removed.catalog gid with
      operation := .demotionPending
      operationId := operationId
      publication := .unpublished
      slotState := .active
      pendingSlotIdx := none
      gpuTransfer := .idle }

/-- A demotion that will not copy: its bytes are dropped. -/
def dropVictim
    (gid : Nat)
    (reason : ExpertDemotionDropReason) : ExpertRegistry :=
  { registry.setEntry gid
      { registry.catalog gid with
        gpuTransfer := .idle
        demotionDropReason := reason } with
    demotionDrops := registry.demotionDrops + 1 }

/-- A demotion that will copy its bytes to a Warm destination. -/
def startDemotion (gid : Nat) : ExpertRegistry :=
  { registry.setEntry gid
      { registry.catalog gid with
        gpuTransfer := .d2hPending
        demotionDropReason := .unspecified } with
    pendingDemotionCount := registry.pendingDemotionCount + 1 }

/-- What becomes of a marked victim's bytes. -/
def demoteVictim
    (gid slot incomingGid operationId demotionQueueCapacity : Nat) :
    VramDestination × ExpertRegistry :=
  if registry.hostCapacity = 0 then
    (⟨slot, none⟩, registry)
  else
    let attempted :=
      { registry with demotionAttempts := registry.demotionAttempts + 1 }
    if demotionQueueCapacity ≤ attempted.pendingDemotionCount then
      (⟨slot, none⟩, attempted.dropVictim gid .queuePressure)
    else
      match attempted.reserveWarmDestination incomingGid operationId with
      | (none, after) =>
        (⟨slot, none⟩, after.dropVictim gid .warmDestinationUnavailable)
      | (some destination, after) =>
        (⟨slot, some ⟨operationId, gid, slot, destination⟩⟩,
          after.startDemotion gid)

/-- The text thrown when every Hot resident is leased or in flight. -/
def noReclaimableMessage : String :=
  let hot := registry.gids.filter fun gid =>
    (registry.catalog gid).owner == .hotVram
  let leased := hot.countP fun gid => (registry.catalog gid).leaseCount != 0
  let pending := hot.countP fun gid =>
    (registry.catalog gid).operation != .idle ||
      (registry.catalog gid).gpuTransfer != .idle
  "ExpertRegistry: no reclaimable Hot VRAM slot is available (hot=" ++
    toString registry.hotVramLru.length ++ ", leased=" ++ toString leased ++
    ", pending=" ++ toString pending ++ ")"

/-- `reserve_vram_destination`. -/
def reserveVramDestination
    (incomingGid operationId demotionQueueCapacity : Nat) :
    Outcome VramDestination :=
  match registry.freeVramSlots with
  | slot :: rest =>
    .returned ⟨slot, none⟩
      ({ registry with freeVramSlots := rest }.setVramReservation
        slot operationId)
  | [] =>
    if registry.prefillStream && registry.prefillAlloc == .freeListOnly then
      .threw (.runtimeError
        ("ExpertRegistry: prefill stream has no free VRAM slot for a load " ++
          "(the layer lookahead must not exceed capacity)")) registry
    else if registry.prefillStream || registry.warmFrozen then
      registry.evictForPrefill incomingGid operationId
    else
      match registry.hotVramLru.reverse.find?
          (registry.hotReclaimable incomingGid false) with
      | none =>
        .threw (.runtimeError registry.noReclaimableMessage) registry
      | some gid =>
        let slot := (registry.catalog gid).slotIdx.getD 0
        let (destination, after) :=
          (registry.markVictim gid slot operationId).demoteVictim
            gid slot incomingGid operationId demotionQueueCapacity
        .returned destination after

/-! ## Requests -/

/-- Count one more lease on an expert. -/
def acquireLease (gid : Nat) : ExpertRegistry :=
  registry.setEntry gid
    { registry.catalog gid with
      leaseCount := (registry.catalog gid).leaseCount + 1 }

/-- Put an operation on an expert whose bytes are about to move. -/
def beginOperation
    (gid operationId : Nat)
    (operation : ExpertOperation)
    (vramSlot : Option Nat)
    (warmShadow : Bool) : ExpertRegistry :=
  registry.setEntry gid
    { registry.catalog gid with
      operation := operation
      operationId := operationId
      gpuTransfer := .h2dPending
      publication := .unpublished
      slotState := .active
      leaseCount := (registry.catalog gid).leaseCount + 1
      pendingSlotIdx := vramSlot
      warmShadow := warmShadow || (registry.catalog gid).warmShadow }

/-- The frozen-prefill copy of a Warm expert, once its destination is decided. -/
def finishShadowReservation
    (gid operationId : Nat)
    (vramSlot : Option Nat) : Outcome RequestReservation :=
  let counted :=
    { registry with
      hitsWarm := registry.hitsWarm + 1
      shadowCopies := registry.shadowCopies + 1 }
  ((counted.removeFromWarmLru gid).beginOperation gid operationId
      .promotionPending vramSlot true).checkedValidate
    { kind := .warmPromotion
      sourceTier := .warmHost
      globalExpertId := gid
      operationId := operationId
      vramSlot := vramSlot
      sourceHostSlot := (registry.catalog gid).slotIdx
      leaseAcquired := true
      demotion := none }

/-- The promotion of a Warm expert, once its destination is decided. -/
def finishPromotion
    (gid operationId : Nat)
    (destination : VramDestination) : Outcome RequestReservation :=
  let source := (registry.catalog gid).slotIdx
  let counted := { registry with hitsWarm := registry.hitsWarm + 1 }
  (((counted.removeFromWarmLru gid).setHostReservation (source.getD 0)
      operationId).beginOperation gid operationId
        .promotionPending (some destination.vramSlot) false).checkedValidate
    { kind := .warmPromotion
      sourceTier := .warmHost
      globalExpertId := gid
      operationId := operationId
      vramSlot := some destination.vramSlot
      sourceHostSlot := source
      leaseAcquired := true
      demotion := destination.demotion }

/-- The read of a Cold expert, with its destination when it was not deferred. -/
def finishColdRead
    (gid operationId : Nat)
    (destination : Option VramDestination) : Outcome RequestReservation :=
  let counted := { registry with missesCold := registry.missesCold + 1 }
  (counted.beginOperation gid operationId .ioPending
      (destination.map VramDestination.vramSlot) false).checkedValidate
    { kind := if destination.isNone then .coldStaged else .coldMiss
      sourceTier := .coldNvme
      globalExpertId := gid
      operationId := operationId
      vramSlot := destination.map VramDestination.vramSlot
      sourceHostSlot := none
      leaseAcquired := true
      demotion := destination.bind VramDestination.demotion }

/-- A fresh operation id (`next_operation_id++`). -/
def takeOperationId : ExpertRegistry :=
  { registry with nextOperationId := registry.nextOperationId + 1 }

/-- The reservation of an expert that is neither pending nor in VRAM. -/
def reserveTransfer
    (gid demotionQueueCapacity : Nat)
    (stageOnly : Bool) : Outcome RequestReservation :=
  let operationId := registry.nextOperationId
  let numbered := registry.takeOperationId
  match (registry.catalog gid).owner with
  | .warmHost =>
    if registry.warmFrozen then
      if stageOnly then
        numbered.finishShadowReservation gid operationId none
      else
        match numbered.reserveVramDestination gid operationId
            demotionQueueCapacity with
        | .threw error after => .threw error after
        | .returned destination after =>
          after.finishShadowReservation gid operationId
            (some destination.vramSlot)
    else
      match numbered.reserveVramDestination gid operationId
          demotionQueueCapacity with
      | .threw error after => .threw error after
      | .returned destination after =>
        after.finishPromotion gid operationId destination
  | _ =>
    if stageOnly then
      numbered.finishColdRead gid operationId none
    else
      match numbered.reserveVramDestination gid operationId
          demotionQueueCapacity with
      | .threw error after => .threw error after
      | .returned destination after =>
        after.finishColdRead gid operationId (some destination)

/-- `reserve_request_by_gid`. -/
def reserveRequestByGid
    (gid currentStep demotionQueueCapacity : Nat)
    (stageOnly : Bool) : Outcome RequestReservation :=
  if registry.totalExperts ≤ gid then
    .threw (.outOfRange
      "ExpertRegistry: global expert ID is out of range") registry
  else
    let active := registry.recordActivation gid currentStep
    let entry := active.catalog gid
    if entry.operation ≠ .idle ∨ entry.publication = .unpublished then
      if entry.operation = .idle ∨ entry.operationId = 0 then
        .threw (.logicError
          "ExpertRegistry: unpublished entry has no pending operation") active
      else
        .returned
          { kind := .pending
            sourceTier := entry.owner
            globalExpertId := gid
            operationId := entry.operationId
            vramSlot := entry.pendingSlotIdx
            sourceHostSlot :=
              if entry.owner = .warmHost then entry.slotIdx else none
            leaseAcquired := true
            demotion := none }
          (active.acquireLease gid)
    else if entry.owner = .hotVram then
      .returned
        { kind := .hotHit
          sourceTier := .hotVram
          globalExpertId := gid
          operationId := 0
          vramSlot := entry.slotIdx
          sourceHostSlot := none
          leaseAcquired := true
          demotion := none }
        (({ active with hitsHot := active.hitsHot + 1 }.touchHotLru
          gid).acquireLease gid)
    else if active.warmFrozen ∧ entry.owner = .warmHost ∧
        entry.shadowVramSlot.isSome then
      .returned
        { kind := .hotHit
          sourceTier := .hotVram
          globalExpertId := gid
          operationId := 0
          vramSlot := entry.shadowVramSlot
          sourceHostSlot := none
          leaseAcquired := true
          demotion := none }
        (({ active with hitsHot := active.hitsHot + 1 }.shadowTouch
          gid).acquireLease gid)
    else
      active.reserveTransfer gid demotionQueueCapacity stageOnly

/-- `attach_vram_destination`. -/
def attachVramDestination
    (operationId demotionQueueCapacity : Nat) : Outcome Nat :=
  match registry.findIncomingOperation operationId with
  | none =>
    .threw (.logicError
      "ExpertRegistry: attach_vram_destination has no pending request")
      registry
  | some gid =>
    match (registry.catalog gid).pendingSlotIdx with
    | some slot => .returned slot registry
    | none =>
      match registry.reserveVramDestination gid operationId
          demotionQueueCapacity with
      | .threw error after => .threw error after
      | .returned destination after =>
        .returned destination.vramSlot
          (after.setEntry gid
            { after.catalog gid with
              pendingSlotIdx := some destination.vramSlot })

/-- `release_lease`. -/
def releaseLease (gid : Nat) : Outcome Unit :=
  if registry.totalExperts ≤ gid ∨ (registry.catalog gid).leaseCount = 0 then
    .threw (.logicError "ExpertRegistry: releasing an unleased expert") registry
  else
    .returned ()
      (registry.setEntry gid
        { registry.catalog gid with
          leaseCount := (registry.catalog gid).leaseCount - 1 })

end Aeon.Registry.ExpertRegistry
