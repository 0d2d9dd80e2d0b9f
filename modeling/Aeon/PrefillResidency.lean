import Aeon.RegistryTransfers

namespace Aeon.Registry.ExpertRegistry

/-!
# Prefill residency

The switch between decode's persistent resident set and a prefill's streaming
one: the drain at entry, the per-layer release and the exit, with the frozen
Warm tier's shadow copies.
-/

variable (registry : ExpertRegistry)

/-- The entry checks of `begin_prefill_stream`, in catalog order. -/
def boundaryViolation : Option RegistryError :=
  registry.gids.findSome? fun gid =>
    if (registry.catalog gid).leaseCount ≠ 0 then
      some (.logicError
        ("ExpertRegistry: begin_prefill_stream with a live lease — the " ++
          "caller must reach a compute-stream boundary first"))
    else if (registry.catalog gid).operation ≠ .idle then
      some (.logicError
        ("ExpertRegistry: begin_prefill_stream with a transfer still in " ++
          "flight — the caller must reap the registry first"))
    else
      none

/-- Mark the Hot residents present at entry and clear the shadow state. -/
def markResidents : ExpertRegistry :=
  { registry with
    catalog := fun gid =>
      { registry.catalog gid with
        residentAtPrefillBegin := (registry.catalog gid).owner == .hotVram
        pendingSlotIdx := none
        warmShadow := false
        shadowVramSlot := none }
    shadowLru := []
    shadowSlotOfExpert := fun _ => none
    vramSlotReservations := fun _ => 0 }

/-- Drain the worst-ranked Hot resident. -/
def drainHot (gid : Nat) : ExpertRegistry :=
  let popped := { registry with hotVramLru := registry.hotVramLru.dropLast }
  let emptied :=
    match (registry.catalog gid).slotIdx with
    | some slot => (popped.setVramSlot slot none).pushFreeVram slot
    | none => popped
  emptied.setEntry gid
    { registry.catalog gid with
      inLru := false
      residentAtPrefillBegin := false
      owner := .coldNvme
      slotIdx := none
      slotState := .unallocated }

/-- The drain loop of `begin_prefill_stream`. -/
def drainWorst (registry : ExpertRegistry) : Nat → ExpertRegistry
  | 0 => registry
  | remaining + 1 =>
    match registry.hotVramLru.getLast? with
    | none => registry
    | some gid => drainWorst (registry.drainHot gid) remaining

/-- `begin_prefill_stream`. -/
def beginPrefillStream
    (drainSlots : Nat)
    (alloc : PrefillAlloc) : Outcome Unit :=
  if registry.prefillStream then
    .returned () registry
  else
    match registry.boundaryViolation with
    | some error => .threw error registry
    | none =>
      let drained :=
        drainWorst registry.markResidents
          (min drainSlots registry.hotVramLru.length)
      { drained with
        prefillStream := true
        prefillAlloc := alloc
        warmFrozen := true }.validated ()

/-- The exit checks of `end_prefill_stream`, in catalog order. -/
def exitViolation : Option RegistryError :=
  registry.gids.findSome? fun gid =>
    let entry := registry.catalog gid
    if entry.owner = .hotVram ∧ !entry.residentAtPrefillBegin then
      some (.logicError
        ("ExpertRegistry: end_prefill_stream with a prefill-admitted Hot " ++
          "resident — every layer must be released as it is computed"))
    else if entry.shadowVramSlot.isSome then
      some (.logicError
        ("ExpertRegistry: end_prefill_stream with a resident Warm shadow — " ++
          "every layer's shadows must be released as it is computed"))
    else if entry.leaseCount ≠ 0 then
      some (.logicError
        "ExpertRegistry: end_prefill_stream with a live lease")
    else if entry.operation ≠ .idle then
      some (.logicError
        "ExpertRegistry: end_prefill_stream with a pending transfer")
    else
      none

/-- `end_prefill_stream`. -/
def endPrefillStream : Outcome Unit :=
  if !registry.prefillStream then
    .returned () registry
  else
    match registry.exitViolation with
    | some error => .threw error registry
    | none =>
      { registry with
        prefillStream := false
        warmFrozen := false
        catalog := fun gid =>
          { registry.catalog gid with
            residentAtPrefillBegin := false } }.validated ()

/-- Return a prefill-admitted Hot resident to the free list. -/
def releaseHotResident (gid : Nat) : ExpertRegistry :=
  let removed := registry.removeFromHotLru gid
  let emptied :=
    match (registry.catalog gid).slotIdx with
    | some slot => (removed.setVramSlot slot none).pushFreeVram slot
    | none => removed
  emptied.setEntry gid
    { emptied.catalog gid with
      owner := .coldNvme
      slotIdx := none
      slotState := .unallocated }

/-- Return a shadow residency to the free list. -/
def releaseShadow
    (gid slot : Nat) : ExpertRegistry :=
  ((registry.releaseShadowResidency gid).setVramSlot slot none).pushFreeVram slot

/-- Release what one expert of a computed layer holds in VRAM. -/
def releaseExpert (gid : Nat) : ExpertRegistry :=
  let released :=
    if (registry.catalog gid).owner = .hotVram ∧
        !(registry.catalog gid).residentAtPrefillBegin then
      registry.releaseHotResident gid
    else
      registry
  match (released.catalog gid).shadowVramSlot with
  | some slot => released.releaseShadow gid slot
  | none => released

/-- The text thrown for an expert of the layer that is still moving. -/
def layerInFlightMessage
    (gid layerId : Nat) : String :=
  let entry := registry.catalog gid
  let operation : Nat :=
    match entry.operation with
    | .idle => 0
    | .ioPending => 1
    | .promotionPending => 2
    | .demotionPending => 3
  let transfer : Nat :=
    match entry.gpuTransfer with
    | .idle => 0
    | .h2dPending => 1
    | .d2hPending => 2
  "ExpertRegistry: release_layer with a transfer still in flight (expert=" ++
    toString gid ++ ", layer=" ++ toString layerId ++ ", operation=" ++
    toString operation ++ ", gpu_transfer=" ++ toString transfer ++ ")"

/-- The loop of `release_layer` over the layer's experts. -/
def releaseExperts
    (layerId : Nat)
    (registry : ExpertRegistry) :
    List Nat → Outcome Unit
  | [] => registry.validated ()
  | gid :: rest =>
    if (registry.catalog gid).leaseCount ≠ 0 then
      .threw (.logicError
        ("ExpertRegistry: release_layer with a live lease — the caller " ++
          "must release leases at the layer boundary first")) registry
    else if (registry.catalog gid).operation ≠ .idle then
      .threw (.logicError (registry.layerInFlightMessage gid layerId))
        registry
    else
      releaseExperts layerId (registry.releaseExpert gid) rest

/-- `release_layer`. -/
def releaseLayer (layerId : Nat) : Outcome Unit :=
  if !registry.prefillStream then
    .threw (.logicError
      "ExpertRegistry: release_layer outside prefill streaming") registry
  else if registry.numLayers ≤ layerId then
    .threw (.outOfRange
      "ExpertRegistry: release_layer layer is out of range") registry
  else
    releaseExperts layerId registry
      (List.range' (layerId * registry.expertsPerLayer)
        registry.expertsPerLayer)

/-- Drop one idle shadow and return its VRAM slot. -/
def releaseIdleShadow (gid : Nat) : ExpertRegistry :=
  let emptied :=
    match (registry.catalog gid).shadowVramSlot with
    | some slot => (registry.setVramSlot slot none).pushFreeVram slot
    | none => registry
  { emptied.setEntry gid
      { registry.catalog gid with shadowVramSlot := none } with
    shadowSlotOfExpert :=
      Function.update registry.shadowSlotOfExpert gid none
    shadowLru := registry.shadowLru.erase gid }

/--
The loop of `release_shadow_residencies` over the shadow recency list; a leased
shadow and one with a copy in flight are skipped.
-/
def releaseShadowResidencies
    (registry : ExpertRegistry) :
    List Nat → ExpertRegistry
  | [] => registry
  | gid :: rest =>
    if (registry.catalog gid).operation ≠ .idle ∨
        (registry.catalog gid).leaseCount ≠ 0 then
      releaseShadowResidencies registry rest
    else
      releaseShadowResidencies (registry.releaseIdleShadow gid) rest

/-- `set_warm_frozen`. -/
def setWarmFrozen (frozen : Bool) : Outcome Unit :=
  if registry.prefillStream then
    .returned () registry
  else if frozen = registry.warmFrozen then
    .returned () registry
  else
    let switched := { registry with warmFrozen := frozen }
    (if frozen then switched
      else releaseShadowResidencies switched switched.shadowLru).validated ()

end Aeon.Registry.ExpertRegistry
