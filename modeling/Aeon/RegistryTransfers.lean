import Aeon.WarmPartition

namespace Aeon.Registry.ExpertRegistry

/-!
# Completions and failures of the registry's transfers

The host calls these when it has seen a copy's event fire, or when a transfer
failed: the end of a demotion's device-to-host copy and of a request's
host-to-device copy.
-/

variable (registry : ExpertRegistry)

/-- A demoted victim that now owns its Warm destination. -/
def demotedEntry
    (entry : CatalogEntry)
    (slot : Nat) : CatalogEntry :=
  { entry with
    owner := .warmHost
    slotIdx := some slot
    pendingSlotIdx := none
    operation := .idle
    gpuTransfer := .idle
    publication := .published
    slotState := .active
    demotionDropReason := .unspecified }

/-- A victim whose bytes are gone. -/
def coldEntry (entry : CatalogEntry) : CatalogEntry :=
  { entry with
    owner := .coldNvme
    slotIdx := none
    pendingSlotIdx := none
    operation := .idle
    gpuTransfer := .idle
    publication := .published
    slotState := .unallocated
    demotionDropReason := .unspecified }

/-- `complete_demotion`. -/
def completeDemotion (operationId : Nat) : Outcome Unit :=
  match registry.findOperationVictim operationId with
  | none =>
    .threw (.logicError
      "ExpertRegistry: demotion completion does not match a pending D2H")
      registry
  | some gid =>
    if (registry.catalog gid).gpuTransfer ≠ .d2hPending then
      .threw (.logicError
        "ExpertRegistry: demotion completion does not match a pending D2H")
        registry
    else
      match (registry.catalog gid).slotIdx,
          registry.findReservedHostSlot operationId with
      | some source, some destination =>
        let landed :=
          (((registry.setHostSlot destination (some gid)).setHostReservation
              destination 0).setEntry gid
                (demotedEntry (registry.catalog gid)
                  destination)).pushWarmLruFront gid
        { landed.setVramSlot source none with
          pendingDemotionCount := registry.pendingDemotionCount - 1
          demotionCompletions :=
            registry.demotionCompletions + 1 }.checkedValidate ()
      | _, _ =>
        .threw (.logicError
          "ExpertRegistry: demotion completion lost a physical slot")
          registry

/-- `drop_demotion`. -/
def dropDemotion (operationId : Nat) : Outcome Unit :=
  match registry.findOperationVictim operationId with
  | none =>
    .threw (.logicError
      "ExpertRegistry: demotion drop does not match a pending victim")
      registry
  | some gid =>
    if (registry.catalog gid).gpuTransfer = .d2hPending then
      .threw (.logicError
        "ExpertRegistry: submitted D2H cannot be dropped") registry
    else
      let freed :=
        match registry.findReservedHostSlot operationId with
        | some slot => registry.releaseReservedHostSlot slot
        | none => registry
      { freed.setEntry gid
          { freed.catalog gid with
            gpuTransfer := .idle
            demotionDropReason := .unspecified } with
        demotionDrops := registry.demotionDrops + 1 }.checkedValidate ()

/-- `fail_demotion`. -/
def failDemotion (operationId : Nat) : Outcome Unit :=
  match registry.findOperationVictim operationId with
  | none =>
    .threw (.logicError
      "ExpertRegistry: demotion failure does not match a pending victim")
      registry
  | some gid =>
    if (registry.catalog gid).gpuTransfer ≠ .d2hPending then
      .threw (.logicError
        "ExpertRegistry: unsent demotion is not a transfer failure") registry
    else
      let freed :=
        match registry.findReservedHostSlot operationId with
        | some slot => registry.releaseReservedHostSlot slot
        | none => registry
      let emptied :=
        match (registry.catalog gid).slotIdx with
        | some slot => freed.setVramSlot slot none
        | none => freed
      { emptied.setEntry gid (coldEntry (registry.catalog gid)) with
        pendingDemotionCount := registry.pendingDemotionCount - 1
        demotionDrops := registry.demotionDrops + 1 }.checkedValidate ()

/-- The catalog entry of a shadow copy that landed in `slot`. -/
def shadowedEntry
    (entry : CatalogEntry)
    (slot : Option Nat) : CatalogEntry :=
  { entry with
    operation := .idle
    operationId := 0
    gpuTransfer := .idle
    publication := .published
    slotState := .active
    pendingSlotIdx := none
    warmShadow := false
    shadowVramSlot := slot }

/-- The catalog entry of an expert that now owns VRAM slot `slot`. -/
def hotEntry
    (entry : CatalogEntry)
    (slot : Nat) : CatalogEntry :=
  { entry with
    owner := .hotVram
    slotIdx := some slot
    pendingSlotIdx := none
    operation := .idle
    gpuTransfer := .idle
    publication := .published
    slotState := .active }

/-- Drop an operation's victim whose bytes were not copied anywhere. -/
def retireVictim (victim : Option Nat) : ExpertRegistry :=
  match victim with
  | none => registry
  | some gid =>
    let emptied :=
      match (registry.catalog gid).slotIdx with
      | some slot =>
        if registry.vramSlots slot = some gid then
          registry.setVramSlot slot none
        else
          registry
      | none => registry
    emptied.setEntry gid (coldEntry (registry.catalog gid))

/-- Give up a promoted expert's Warm slot. -/
def releaseWarmSource (slot : Nat) : ExpertRegistry :=
  ((registry.setHostSlot slot none).setHostReservation slot 0).pushFreeHost slot

/-- The last writes of `complete_request`. -/
def publishHot
    (gid slot : Nat) : ExpertRegistry :=
  (((registry.setEntry gid (hotEntry (registry.catalog gid) slot)).setVramSlot
      slot (some gid)).setVramReservation slot 0).pushHotLruFront gid

/-- The shadow branch of `complete_request`. -/
def publishShadow
    (gid slot : Nat) : ExpertRegistry :=
  let landed :=
    { (registry.setEntry gid
        (shadowedEntry (registry.catalog gid) (some slot))).setVramSlot
          slot (some gid) with
      shadowSlotOfExpert :=
        Function.update registry.shadowSlotOfExpert gid (some slot) }
  ((landed.setVramReservation slot 0).pushWarmLruFront gid).shadowTouch gid

/-- `complete_request`. -/
def completeRequest (operationId : Nat) : Outcome Unit :=
  match registry.findIncomingOperation operationId with
  | none =>
    .threw (.logicError
      "ExpertRegistry: H2D completion does not match a pending request")
      registry
  | some gid =>
    if (registry.catalog gid).gpuTransfer ≠ .h2dPending then
      .threw (.logicError
        "ExpertRegistry: H2D completion does not match a pending request")
        registry
    else
      match (registry.catalog gid).pendingSlotIdx with
      | none =>
        .threw (.logicError
          "ExpertRegistry: request completion lost its VRAM reservation")
          registry
      | some slot =>
        if registry.vramSlotReservations slot ≠ operationId then
          .threw (.logicError
            "ExpertRegistry: request completion lost its VRAM reservation")
            registry
        else if (registry.catalog gid).warmShadow then
          (registry.publishShadow gid slot).checkedValidate ()
        else
          let victim := registry.findOperationVictim operationId
          if victim.any fun other =>
              (registry.catalog other).gpuTransfer == .d2hPending then
            .threw (.logicError
              "ExpertRegistry: H2D completed before its D2H dependency")
              registry
          else
            let retired := registry.retireVictim victim
            if (retired.catalog gid).owner = .warmHost then
              match (retired.catalog gid).slotIdx with
              | none =>
                .threw (.logicError
                  ("ExpertRegistry: promotion completion lost its " ++
                    "Warm source")) retired
              | some source =>
                if retired.hostSlots source ≠ some gid then
                  .threw (.logicError
                    ("ExpertRegistry: promotion completion lost its " ++
                      "Warm source")) retired
                else
                  ((retired.releaseWarmSource source).publishHot
                    gid slot).checkedValidate ()
            else
              (retired.publishHot gid slot).checkedValidate ()

/-- Cancel a VRAM reservation; an empty slot returns to the free list. -/
def cancelVramReservation (slot : Option Nat) : ExpertRegistry :=
  match slot with
  | none => registry
  | some slot =>
    let cancelled := registry.setVramReservation slot 0
    if registry.vramSlots slot = none then
      cancelled.pushFreeVram slot
    else
      cancelled

/-- Drop a failed operation's victim; the slot it still holds becomes free. -/
def releaseVictim (victim : Option Nat) : ExpertRegistry :=
  match victim with
  | none => registry
  | some gid =>
    let emptied :=
      match (registry.catalog gid).slotIdx with
      | some slot =>
        if registry.vramSlots slot = some gid then
          (registry.setVramSlot slot none).pushFreeVram slot
        else
          registry
      | none => registry
    emptied.setEntry gid (coldEntry (registry.catalog gid))

/-- The incoming entry of a failed request. -/
def failedEntry (entry : CatalogEntry) : CatalogEntry :=
  { entry with
    pendingSlotIdx := none
    operation := .idle
    gpuTransfer := .idle
    publication := .published }

/-- `fail_request`. -/
def failRequest (operationId : Nat) : Outcome Unit :=
  match registry.findIncomingOperation operationId with
  | none =>
    .threw (.logicError
      "ExpertRegistry: request failure does not match a pending request")
      registry
  | some gid =>
    let destination := (registry.catalog gid).pendingSlotIdx
    if (registry.catalog gid).warmShadow then
      let cancelled := registry.cancelVramReservation destination
      ((cancelled.setEntry gid
          (shadowedEntry (cancelled.catalog gid)
            (cancelled.catalog gid).shadowVramSlot)).pushWarmLruFront
              gid).checkedValidate ()
    else
      let victim := registry.findOperationVictim operationId
      if victim.any fun other =>
          (registry.catalog other).gpuTransfer == .d2hPending then
        .threw (.logicError
          "ExpertRegistry: request failed before submitted D2H completed")
          registry
      else
        let released :=
          (registry.cancelVramReservation destination).releaseVictim victim
        let returned :=
          if (released.catalog gid).owner = .warmHost then
            (released.setHostReservation
              ((released.catalog gid).slotIdx.getD 0) 0).pushWarmLruFront gid
          else
            released
        (returned.setEntry gid
          (failedEntry (returned.catalog gid))).checkedValidate ()

end Aeon.Registry.ExpertRegistry
