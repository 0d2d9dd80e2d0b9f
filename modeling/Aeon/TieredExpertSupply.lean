import Aeon.TransferPipeline

namespace Aeon.Transport

open Aeon.Registry
open Call (ask catching check onFirst read ret throwing write)

/-!
# The tiered expert supply

`TieredExpertSupply`: `dispatch` reserves the requested experts, schedules the
demotions they force and starts their transfers, and `reap_registry_transfers`
retires what has finished.  Telemetry and timing are left out.  An event query is
answered `ready`, `failed`, or anything else for "not ready".
-/

/-! ## Retiring transfers -/

/-- A write to a record of the table through its index. -/
def Supply.updateAt
    (supply : Supply)
    (index : Nat)
    (change : PendingTransfer → PendingTransfer) : Supply :=
  { supply with transfers := supply.transfers.modify index change }

/-- `erase_at`. -/
def Supply.eraseAt
    (supply : Supply)
    (index : Nat) : Supply :=
  { supply with transfers := supply.transfers.eraseIdx index }

/-- A slot number as the source casts it: `-1` becomes the largest `uint32_t`. -/
def castSlot (slot : Option Nat) : Nat :=
  slot.getD (2 ^ 32 - 1)

variable (setup : SupplySetup)

/-- The bounce copy of a demotion that went through the arena. -/
def landStagedDemotion
    (transfer : PendingTransfer) : SupplyCall Unit :=
  if transfer.demotionUsesStaging then do
    hostSlotPtr setup (castSlot transfer.demotionDestinationSlot)
    validateSlot setup (castSlot transfer.demotionStagingIdx)
    releaseAfterGpuTransfer setup transfer.operationId
      (castSlot transfer.demotionStagingIdx)
  else
    ret ()

/-- The staging slot of a demotion whose copy failed. -/
def dropStagedDemotion
    (transfer : PendingTransfer) : SupplyCall Unit :=
  if transfer.demotionUsesStaging then
    releaseAfterFailure setup transfer.operationId
      (castSlot transfer.demotionStagingIdx)
  else
    ret ()

/-- The demotion part of one turn of the reaper: whether the demotion is over. -/
def reapDemotion
    (index : Nat)
    (transfer : PendingTransfer) : SupplyCall Bool :=
  if transfer.demotionEvent then do
    match ← ask .notReady with
    | .ready => do
        landStagedDemotion setup transfer
        onRegistry fun registry =>
          registry.completeDemotion transfer.operationId
        write fun supply =>
          supply.updateAt index fun transfer =>
            { transfer with demotionEvent := false }
        ret true
    | .failed => do
        dropStagedDemotion setup transfer
        onRegistry fun registry => registry.failDemotion transfer.operationId
        write fun supply =>
          supply.updateAt index fun transfer =>
            { transfer with demotionEvent := false }
        ret true
    | _ => ret false
  else
    ret true

/-- The staging slot of a copy that landed. -/
def releaseLanded
    (transfer : PendingTransfer) : SupplyCall Unit :=
  if transfer.hasStaging then
    releaseIfCopying setup transfer.operationId transfer.stagingIdx
  else
    ret ()

/-- The staging slot of a copy that failed. -/
def releaseFailed
    (transfer : PendingTransfer) : SupplyCall Unit :=
  if transfer.hasStaging then
    releaseAfterFailure setup transfer.operationId transfer.stagingIdx
  else
    ret ()

/-- The request part of one turn of the reaper: whether the record is erased. -/
def reapRequest
    (index : Nat)
    (transfer : PendingTransfer)
    (demotionReady : Bool) : SupplyCall Bool :=
  if transfer.requestFailed && !transfer.h2dSubmitted then
    if demotionReady then do
      onRegistry fun registry => registry.failRequest transfer.operationId
      write fun supply => supply.eraseAt index
      ret true
    else
      ret false
  else if transfer.h2dSubmitted && transfer.h2dEvent && demotionReady then do
    match ← ask .notReady with
    | .ready => do
        onRegistry fun registry => registry.completeRequest transfer.operationId
        releaseLanded setup transfer
        write fun supply => supply.eraseAt index
        ret true
    | .failed => do
        releaseFailed setup transfer
        onRegistry fun registry => registry.failRequest transfer.operationId
        write fun supply => supply.eraseAt index
        ret true
    | _ => ret false
  else
    ret false

/-- One turn of the reaper. -/
def reapTurn
    (index : Nat) : SupplyCall Bool := do
  let supply ← read
  match supply.transfers[index]? with
  | none => ret false
  | some transfer => do
      let demotionReady ← reapDemotion setup index transfer
      reapRequest setup index transfer demotionReady

/-- The reaper's loop over the records from `index` on. -/
def reapFrom (setup : SupplySetup) : Nat → Nat → SupplyCall Unit
  | 0, _ => ret ()
  | remaining + 1, index => do
      let erased ← reapTurn setup index
      reapFrom setup remaining (if erased then index else index + 1)

/-- `reap_registry_transfers`. -/
def reapRegistryTransfers (setup : SupplySetup) : SupplyCall Unit := do
  let supply ← read
  reapFrom setup supply.transfers.length 0

/-! ## Demotions -/

/--
Where a demotion copies to: a pinned host slot itself, an unpinned one through the
first free slot of the arena.  The result is `false` when the demotion was dropped.
-/
def routeDemotion
    (operationId destination : Nat) : SupplyCall Bool := do
  if setup.isSlotPinned destination then
    ret true
  else do
    let supply ← read
    match firstAvailable setup supply with
    | none => do
        onRegistry fun registry => registry.dropDemotion operationId
        ret false
    | some slot => do
        beginDirectTransfer setup operationId slot
        write fun supply =>
          supply.update operationId fun transfer =>
            { transfer with
              demotionStagingIdx := some slot
              demotionUsesStaging := true }
        ret true

/-- The event of a demotion. -/
def createDemotionEvent (operationId : Nat) : SupplyCall Unit := do
  submit "hipEventCreateWithFlags(demotion)"
  write fun supply =>
    supply.update operationId fun transfer =>
      { transfer with demotionEvent := true }

/-- The device-to-host copy, and the record of its event. -/
def sendDemotion
    (operationId sourceSlot : Nat) : SupplyCall Unit := do
  check (sourceSlot < setup.vramSlots)
    (.runtimeError "ExpertPayloadPool: Invalid download destination")
  submit "hipMemcpyAsync(D2H)"
  write fun supply =>
    supply.update operationId fun transfer =>
      { transfer with demotionSubmitted := true }
  submit "hipEventRecord(demotion)"

/-- What `schedule_demotion` tries. -/
def copyDemotion
    (operationId sourceSlot : Nat) : SupplyCall Unit := do
  createDemotionEvent operationId
  sendDemotion setup operationId sourceSlot

/-- The staging slot of a demotion whose copy was never submitted. -/
def releaseUnsentDemotion
    (operationId : Nat) : SupplyCall Unit := do
  let supply ← read
  match (supply.find operationId).bind PendingTransfer.demotionStagingIdx with
  | some slot => releaseAfterFailure setup operationId slot
  | none => ret ()

/-- The handler of `schedule_demotion`'s copy. -/
def abandonDemotion
    (operationId : Nat)
    (error : SupplyError) : SupplyCall Unit := do
  let supply ← read
  if (supply.find operationId).any PendingTransfer.demotionSubmitted then
    throwing error
  else do
    onRegistry fun registry => registry.dropDemotion operationId
    releaseUnsentDemotion setup operationId
    write fun supply =>
      supply.update operationId fun transfer =>
        { transfer with demotionEvent := false }
    throwing error

variable (request : RequestReservation)

/-- `schedule_demotion` for a reservation that carries a demotion. -/
def startDemotionCopy
    (demotion : DemotionReservation) : SupplyCall Unit := do
  write fun supply =>
    supply.ensure request.operationId request.globalExpertId
  write fun supply =>
    supply.update request.operationId fun transfer =>
      { transfer with
        demotedExpertId := demotion.victimGid
        demotionSourceSlot := some demotion.sourceVramSlot
        demotionDestinationSlot := some demotion.destinationHostSlot }
  hostSlotPtr setup demotion.destinationHostSlot
  let routed ← routeDemotion setup request.operationId
    demotion.destinationHostSlot
  if routed then
    catching
      (copyDemotion setup request.operationId demotion.sourceVramSlot)
      (abandonDemotion setup request.operationId)
  else
    ret ()

/-- `schedule_demotion` for one without: a dropped victim is noted. -/
def noteDroppedDemotion (request : RequestReservation) : SupplyCall Unit := do
  let supply ← read
  if supply.registry.hostCapacity = 0 then
    ret ()
  else do
    write fun supply =>
      supply.ensure request.operationId request.globalExpertId
    match supply.registry.findOperationVictim request.operationId with
    | none => ret ()
    | some gid =>
      write fun supply =>
        supply.update request.operationId fun transfer =>
          { transfer with
            demotedExpertId := gid
            demotionSourceSlot := (supply.registry.catalog gid).slotIdx
            demotionDestinationSlot := none }

/-- `schedule_demotion`. -/
def scheduleDemotion
    (request : RequestReservation) : SupplyCall Unit :=
  match request.demotion with
  | some demotion => startDemotionCopy setup request demotion
  | none => noteDroppedDemotion request

/-! ## Starting a transfer -/

/-- The direct read of a cold expert; the result is how many reads it took. -/
def startDirectRead
    (stagingIdx : Nat) : SupplyCall Nat := do
  bindStaging setup request.operationId stagingIdx
  check
    ((setup.locate request.globalExpertId).byteLength =
      setup.expertPayloadBytes)
    (.runtimeError
      ("TieredExpertSupply: payload source returned an incompatible " ++
        "payload size"))
  let supply ← read
  beginIo setup request.operationId stagingIdx
  let count ← submitReadChunks setup request.operationId stagingIdx
    (setup.locate request.globalExpertId) supply.nextDirectIoId
  write fun supply =>
    { supply with nextDirectIoId := supply.nextDirectIoId + count }
  ret count

/-- Copy a host payload into the arena: the slot is bound without its delay. -/
def stageHostSlot
    (operationId stagingIdx sourceSlot : Nat) : SupplyCall Unit := do
  write fun supply =>
    supply.update operationId fun transfer =>
      { transfer with stagingIdx := stagingIdx, hasStaging := true }
  hostSlotPtr setup sourceSlot
  stagePayload setup operationId stagingIdx

/-- The Warm hand-off whose destination was deferred. -/
def stageWarm
    (stagingIdx : Nat) : SupplyCall Unit := do
  bindStaging setup request.operationId stagingIdx
  if request.sourceHostSlot.any setup.isSlotPinned then
    markReady setup request.operationId stagingIdx
  else
    stageHostSlot setup request.operationId stagingIdx
      (castSlot request.sourceHostSlot)

/-- The upload of a claimed slot's payload, and the record of its event. -/
def uploadClaimed
    (stagingIdx : Nat)
    (sourceSlot : Option Nat)
    (what : String) : SupplyCall Unit := do
  uploadFromHostExpert setup request.vramSlot
  submit what
  recordH2dEvent request.operationId stagingIdx true sourceSlot
    request.vramSlot

/-- The upload straight from a pinned Warm slot. -/
def uploadPinnedWarm
    (stagingIdx : Nat) : SupplyCall Unit := do
  bindStaging setup request.operationId stagingIdx
  beginDirectTransfer setup request.operationId stagingIdx
  waitForDemotionDependency request.operationId
  hostSlotPtr setup (castSlot request.sourceHostSlot)
  uploadClaimed setup request stagingIdx request.sourceHostSlot
    "hipEventRecord(Warm H2D)"

/-- The upload of a Warm slot that is not pinned, through the arena. -/
def uploadStagedWarm
    (stagingIdx : Nat) : SupplyCall Unit := do
  stageHostSlot setup request.operationId stagingIdx
    (castSlot request.sourceHostSlot)
  beginGpuTransfer setup request.operationId stagingIdx
  waitForDemotionDependency request.operationId
  uploadClaimed setup request stagingIdx (some stagingIdx)
    "hipEventRecord(Warm staged H2D)"

/-- The upload of a mapped payload, through the arena. -/
def uploadMapped
    (stagingIdx : Nat) : SupplyCall Unit := do
  check (setup.hostPayload request.globalExpertId)
    (.runtimeError
      "TieredExpertSupply: host payload unavailable for requested expert")
  bindStaging setup request.operationId stagingIdx
  stagePayload setup request.operationId stagingIdx
  beginGpuTransfer setup request.operationId stagingIdx
  waitForDemotionDependency request.operationId
  uploadClaimed setup request stagingIdx (some stagingIdx)
    "hipEventRecord(mapped H2D)"

/-- The branch of `dispatch` that moves one reserved expert's bytes. -/
def moveBytes
    (stagingIdx : Nat) : EntryCall Unit := do
  if request.sourceTier = .coldNvme ∧ setup.directIo then do
    let (supply, _) ← read
    let count ← onFirst (startDirectRead setup request stagingIdx)
    setState fun state =>
      { state with
        stagingIdx := stagingIdx
        ioPending := true
        ioUserData := supply.nextDirectIoId
        ioRequestCount := count }
  else if request.sourceTier = .warmHost ∧ request.vramSlot = none then do
    onFirst (stageWarm setup request stagingIdx)
    setState fun state =>
      { state with
        stagingIdx := stagingIdx
        stagingReady := true
        ioComplete := true
        warmHostSlot := request.sourceHostSlot.filter setup.isSlotPinned }
  else do
    onFirst
      (if request.sourceTier = .warmHost then
        if request.sourceHostSlot.any setup.isSlotPinned then
          uploadPinnedWarm setup request stagingIdx
        else
          uploadStagedWarm setup request stagingIdx
      else
        uploadMapped setup request stagingIdx)
    setState fun state =>
      { state with isPrefetched := true, stagingIdx := stagingIdx }

/-- The `try` block of `dispatch`. -/
def startTransfer
    (stagingIdx : Nat) : EntryCall Unit := do
  onFirst (scheduleDemotion setup request)
  onFirst (write fun supply =>
    supply.ensure request.operationId request.globalExpertId)
  moveBytes setup request stagingIdx

/-- Its handler. -/
def abandonTransfer
    (operationId : Nat)
    (error : SupplyError) : EntryCall Unit := do
  onFirst
    (markRequestFailed setup operationId "transfer_submission_failure")
  onFirst (reapRegistryTransfers setup)
  throwing error

/-! ## `dispatch` -/

/-- What `dispatch` is called with. -/
structure DispatchArguments where
  requests : List PayloadRequest
  currentStep : Nat
  stageOnly : Bool
  deriving Repr, DecidableEq

/-- What `dispatch` fills: the batch, and the caller's list of leased experts. -/
structure Dispatching where
  transfers : List PayloadTransfer
  leasedExperts : List Nat
  deriving Repr, DecidableEq

/-- `reservation_priority`. -/
def reservationPriority
    (registry : ExpertRegistry)
    (request : PayloadRequest) : Nat :=
  let entry := registry.catalog request.globalExpertId
  if entry.owner = .hotVram ∧ entry.operation = .idle ∧
      entry.publication = .published then
    0
  else if entry.owner = .hotVram then
    1
  else
    2

/-- `request_order`: a stable sort by a priority that takes three values. -/
def requestOrder
    (registry : ExpertRegistry)
    (requests : List PayloadRequest) : List (Nat × PayloadRequest) :=
  let numbered := (List.range requests.length).zip requests
  numbered.filter (fun item => reservationPriority registry item.2 = 0) ++
    numbered.filter (fun item => reservationPriority registry item.2 = 1) ++
    numbered.filter (fun item => reservationPriority registry item.2 = 2)

/-- What the reservation loop throws on a demotion that is still in flight. -/
def demotionInFlight (expertId operationId : Nat) : SupplyError :=
  .runtimeError
    ("TieredExpertSupply: request encountered an in-flight optional " ++
      "demotion; request-path CPU synchronization is forbidden (expert=" ++
      toString expertId ++ ", operation=" ++ toString operationId ++ ")")

/-- The query of a pending demotion's copy event. -/
def queryH2d (operationId : Nat) : SupplyCall Answer := do
  let supply ← read
  if (supply.find operationId).any PendingTransfer.h2dEvent then
    ask .notReady
  else
    ret .notReady

/-- The reservation loop of `dispatch`, for at most so many turns. -/
def reserveLoop
    (arguments : DispatchArguments)
    (expertId : Nat) : Nat → SupplyCall RequestReservation
  | 0 => throwing (demotionInFlight expertId 0)
  | turns + 1 => do
      let request ← onRegistry fun registry =>
        registry.reserveRequestByGid expertId arguments.currentStep
          setup.demotionQueueCapacity arguments.stageOnly
      let supply ← read
      if request.kind = .pending ∧
          (supply.registry.catalog request.globalExpertId).operation =
            .demotionPending then do
        match ← queryH2d request.operationId with
        | .ready => do
            onRegistry fun registry =>
              registry.releaseLease request.globalExpertId
            reapRegistryTransfers setup
            reserveLoop arguments expertId turns
        | .failed =>
          throwing (.runtimeError
            ("TieredExpertSupply: failed to query an optional demotion " ++
              "dependency (expert=" ++ toString expertId ++
              ", operation=" ++ toString request.operationId ++ ")"))
        | _ => do
            onRegistry fun registry =>
              registry.releaseLease request.globalExpertId
            throwing (demotionInFlight expertId request.operationId)
      else
        ret request

/-- A request that joins a transfer another request started. -/
def joinPending
    (expertId : Nat)
    (request : RequestReservation) : EntryCall Unit := do
  let (supply, _) ← read
  match supply.find request.operationId with
  | none => throwing error
  | some pending => do
      check pending.h2dSubmitted error
      setState fun state =>
        { state with
          isPrefetched := pending.hasStaging
          stagingIdx := pending.stagingIdx }
where
  error : SupplyError :=
    .runtimeError
      ("TieredExpertSupply: duplicate request joined before its transfer " ++
        "was submitted (expert=" ++ toString expertId ++ ", gid=" ++
        toString request.globalExpertId ++ ", operation=" ++
        toString request.operationId ++ ")")

/-- What `dispatch` does with a reservation. -/
def serveReservation
    (payload : PayloadRequest)
    (request : RequestReservation) : EntryCall Unit := do
  setState fun state =>
    { state with
      globalExpertId := request.globalExpertId
      operationId := request.operationId
      vramSlot := request.vramSlot
      sourceTier := request.sourceTier }
  match request.kind with
  | .hotHit => ret ()
  | .pending => joinPending payload.globalExpertId request
  | _ =>
    catching
      (startTransfer setup request payload.stagingIdx)
      (abandonTransfer setup request.operationId)

/-- A call on the supply and on what `dispatch` fills. -/
abbrev DispatchCall := Call Answer (Supply × Dispatching) SupplyError

/-- A call on the supply and one entry of the batch being filled. -/
def onEntry
    (index : Nat)
    (call : EntryCall Unit) : DispatchCall Unit :=
  fun (supply, dispatching) answers =>
    match Call.onPart index call (supply, dispatching.transfers) answers with
    | (outcome, (after, transfers), rest) =>
      (outcome, (after, { dispatching with transfers := transfers }), rest)

/-- One turn of the request loop of `dispatch`. -/
def dispatchRequest
    (arguments : DispatchArguments)
    (item : Nat × PayloadRequest) : DispatchCall Unit := do
  let request ← onFirst
    (Call.whileAnswered
      (reserveLoop setup arguments item.2.globalExpertId))
  write fun (supply, dispatching) =>
    (supply,
      { dispatching with
        leasedExperts := dispatching.leasedExperts ++
          [request.globalExpertId] })
  onEntry item.1 (serveReservation setup item.2 request)

/-- The handler of a failed submission of the queue. -/
def abandonReads
    (transfers : List PayloadTransfer)
    (error : SupplyError) : SupplyCall Unit := do
  Call.forEach
    (fun (state : PayloadTransfer) =>
      markRequestFailed setup state.operationId "nvme_submit_failure")
    (transfers.filter PayloadTransfer.ioPending)
  throwing error

/-- The end of `dispatch`: the queue goes to the ring. -/
def submitBatch
    (transfers : List PayloadTransfer) : SupplyCall Unit := do
  let supply ← read
  if transfers.any PayloadTransfer.ioPending then
    catching (submitPendingReads supply.queued.length)
      (abandonReads setup transfers)
  else
    ret ()

/-- `dispatch`, on the batch it has already sized. -/
def dispatchInto
    (arguments : DispatchArguments) : DispatchCall Unit := do
  let (supply, _) ← read
  Call.forEach (dispatchRequest setup arguments)
    (requestOrder supply.registry arguments.requests)
  let (_, dispatching) ← read
  onFirst (submitBatch setup dispatching.transfers)

/-- What `dispatch` starts from. -/
def Dispatching.start
    (arguments : DispatchArguments)
    (leasedExperts : List Nat) : Dispatching :=
  { transfers := List.replicate arguments.requests.length {}
    leasedExperts := leasedExperts }

end Aeon.Transport
