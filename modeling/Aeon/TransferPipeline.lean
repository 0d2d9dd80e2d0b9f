import Aeon.DirectIoReader

namespace Aeon.Transport

open Call (check eachPart onFirst read ret throwing write)

/-!
# The expert transfer pipeline

`ExpertTransferPipeline`: the read-completion leg, the copy leg, and the small
bookkeeping they share.  A batch is a list of payload transfers, so a pass over a
batch is a call on the supply and on one entry at a time.  The arena and the
completion store are bound; only the reader may be absent.
-/

/-- A call on the supply and one entry of a batch. -/
abbrev EntryCall := Call Answer (Supply × PayloadTransfer) SupplyError

/-- A call on the supply and a whole batch. -/
abbrev BatchCall := Call Answer (Supply × List PayloadTransfer) SupplyError

/-- A write to the entry alone. -/
def setState
    (change : PayloadTransfer → PayloadTransfer) : EntryCall Unit :=
  write fun (supply, state) => (supply, change state)

/-! ## Bookkeeping -/

/-- `wait_for_demotion_dependency`. -/
def waitForDemotionDependency (operationId : Nat) : SupplyCall Unit := do
  let supply ← read
  if (supply.find operationId).any PendingTransfer.demotionEvent then
    submit "hipStreamWaitEvent(demotion)"
  else
    ret ()

/-- `record_h2d_event`. -/
def recordH2dEvent
    (operationId stagingIdx : Nat)
    (hasStaging : Bool)
    (sourceSlot destinationSlot : Option Nat) : SupplyCall Unit := do
  let supply ← read
  match supply.find operationId with
  | none =>
    throwing (.logicError
      "TieredExpertSupply: H2D completion has no registry transfer")
  | some transfer => do
      check (!transfer.h2dEvent) (.logicError
        "TieredExpertSupply: duplicate H2D submission for one expert operation")
      submit "hipEventCreateWithFlags(H2D)"
      write fun supply =>
        supply.update operationId fun transfer =>
          { transfer with h2dEvent := true }
      submit "hipEventRecord(H2D)"
      write fun supply =>
        supply.update operationId fun transfer =>
          { transfer with
            stagingIdx := stagingIdx
            hasStaging := hasStaging
            h2dSourceSlot := sourceSlot
            h2dDestinationSlot := destinationSlot
            h2dSubmitted := true }

variable (setup : SupplySetup)

/-- `bind_staging`; reading the slot's reuse delay checks its index. -/
def bindStaging
    (operationId stagingIdx : Nat) : SupplyCall Unit := do
  let supply ← read
  match supply.find operationId with
  | none =>
    throwing (.logicError
      "TieredExpertSupply: staging binding has no registry transfer")
  | some _ => do
      write fun supply =>
        supply.update operationId fun transfer =>
          { transfer with stagingIdx := stagingIdx, hasStaging := true }
      validateSlot setup stagingIdx

/-- `mark_request_failed`. -/
def markRequestFailed
    (operationId : Nat)
    (reason : String) : SupplyCall Unit := do
  let supply ← read
  match supply.find operationId with
  | none => ret ()
  | some transfer => do
      write fun supply =>
        supply.update operationId fun transfer =>
          { transfer with requestFailed := true, failureReason := reason }
      if transfer.hasStaging && !transfer.h2dSubmitted then
        releaseAfterFailure setup operationId transfer.stagingIdx
      else
        ret ()

/-! ## The copy leg -/

/--
The first part of `enqueue_expert_copy`: a copy whose destination was deferred
takes one now.  The result is `false` when no VRAM slot is free.
-/
def attachDeferred (setup : SupplySetup) : EntryCall Bool := do
  let (supply, state) ← read
  if state.vramSlot.isSome then
    ret true
  else if supply.registry.freeVramSlots = [] then
    ret false
  else do
    let slot ← onFirst
      (onRegistry fun registry =>
        registry.attachVramDestination state.operationId
          setup.demotionQueueCapacity)
    setState fun state => { state with vramSlot := some slot }
    ret true

/-- Where `enqueue_expert_copy` uploads from. -/
def copySource
    (state : PayloadTransfer) : SupplyCall Unit :=
  match state.warmHostSlot with
  | some slot => hostSlotPtr setup slot
  | none => validateSlot setup state.stagingIdx

/-- A cold read's completion is recorded; a Warm hand-off's already was. -/
def finishRead
    (state : PayloadTransfer) : SupplyCall Unit :=
  if state.stagingReady then
    ret ()
  else
    completeIo setup state.operationId state.stagingIdx

/-- The rest of `enqueue_expert_copy`, up to the writes to the entry. -/
def uploadStaged
    (state : PayloadTransfer) : SupplyCall Unit := do
  finishRead setup state
  beginGpuTransfer setup state.operationId state.stagingIdx
  waitForDemotionDependency state.operationId
  copySource setup state
  uploadFromHostExpert setup state.vramSlot
  submit "hipEventRecord(cold H2D)"
  recordH2dEvent state.operationId state.stagingIdx true
    (state.warmHostSlot <|> some state.stagingIdx) state.vramSlot

/-- An entry whose copy has been enqueued. -/
def PayloadTransfer.enqueued (state : PayloadTransfer) : PayloadTransfer :=
  { state with
    isPrefetched := true
    ioPending := false
    ioComplete := false
    stagingReady := false
    warmHostSlot := none }

/-- `enqueue_expert_copy`. -/
def enqueueExpertCopy (setup : SupplySetup) : EntryCall Bool := do
  let attached ← attachDeferred setup
  if attached then do
    let (_, state) ← read
    onFirst (uploadStaged setup state)
    setState PayloadTransfer.enqueued
    ret true
  else
    ret false

/-- The `enqueue_expert_copy` of the blocking path: a refusal is a defect. -/
def enqueueOrThrow (setup : SupplySetup) : EntryCall Unit := do
  let enqueued ← enqueueExpertCopy setup
  check enqueued
    (.runtimeError
      ("TieredExpertSupply: materialize found no VRAM slot for a " ++
        "staged-only expert — the lookahead over-committed its copy budget"))

/-! ## The read-completion leg -/

/-- Mark a request failed and throw. -/
def failRead
    {Value : Type}
    (setup : SupplySetup)
    (operationId : Nat)
    (reason : String)
    (error : SupplyError) : SupplyCall Value := do
  markRequestFailed setup operationId reason
  throwing error

/-- The length of one read of a payload; the subtraction is on `size_t`. -/
def expectedBytes
    (chunk : Nat) : Nat :=
  if setup.expertPayloadBytes < chunk * defaultChunkBytes then
    defaultChunkBytes
  else
    min defaultChunkBytes
      (setup.expertPayloadBytes - chunk * defaultChunkBytes)

/-- The check of a completion's result; `strerror` is left as its number. -/
def checkRead
    (operationId chunk : Nat)
    (result : Int) : SupplyCall Unit :=
  if result < 0 then
    failRead setup operationId "nvme_read_failure"
      (.runtimeError ("TieredExpertSupply: direct expert read failed: " ++
        toString (-result)))
  else if result ≠ expectedBytes setup chunk then
    failRead setup operationId "nvme_short_read"
      (.runtimeError
        "TieredExpertSupply: direct expert read returned a short payload")
  else
    ret ()

/--
The wait of `materialize` for one read: completions go to the store until the one
it waits for is there.  Each turn takes a completion the drive still owes, so the
turns are bounded by the reads outstanding.
-/
def awaitCompletion
    (setup : SupplySetup)
    (operationId userData : Nat) : Nat → SupplyCall DirectIoCompletion
  | 0 =>
    failRead setup operationId "nvme_completion_wait_failure"
      (.runtimeError "DirectIOReader: io_uring_enter wait failed")
  | turns + 1 => do
      let supply ← read
      match supply.stored userData with
      | some completion => ret completion
      | none => do
          let completion ← Call.catching waitForCompletion fun error =>
            failRead setup operationId "nvme_completion_wait_failure" error
          write fun supply => supply.emplace completion
          awaitCompletion setup operationId userData turns

/-- One turn of the chunk loop of `materialize`. -/
def awaitChunk
    (state : PayloadTransfer)
    (chunk : Nat) : SupplyCall Unit := do
  let supply ← read
  let completion ← awaitCompletion setup state.operationId
    (state.ioUserData + chunk)
    (supply.posted.length + supply.inFlight.length + 2)
  write fun supply => supply.consume state.operationId completion
  if 0 ≤ completion.result ∧
      setup.expertPayloadBytes ≤ chunk * defaultChunkBytes then
    failRead setup state.operationId "nvme_invalid_chunk"
      (.runtimeError
        ("TieredExpertSupply: direct expert read returned an invalid " ++
          "chunk index"))
  else
    checkRead setup state.operationId chunk completion.result

/-- The first loop of `materialize`: copies the pump had deferred. -/
def materializeStaged (setup : SupplySetup) : EntryCall Unit := do
  let (_, state) ← read
  if state.ioComplete then
    enqueueOrThrow setup
  else
    ret ()

/-- The second loop of `materialize`: wait for the reads, enqueue the copy. -/
def materializePending (setup : SupplySetup) : EntryCall Unit := do
  let (_, state) ← read
  if state.ioPending then do
    onFirst
      (Call.forEach (awaitChunk setup state) (List.range state.ioRequestCount))
    enqueueOrThrow setup
  else
    ret ()

/-- `materialize`. -/
def materialize (setup : SupplySetup) : BatchCall Unit := do
  eachPart (materializeStaged setup)
  eachPart (materializePending setup)

/-- One turn of the chunk loop of `materialize_available`. -/
def takeChunk
    (state : PayloadTransfer)
    (chunk : Nat) : SupplyCall Unit := do
  let supply ← read
  match supply.stored (state.ioUserData + chunk) with
  | none => ret ()
  | some completion => do
      write fun supply => supply.consume state.operationId completion
      checkRead setup state.operationId chunk completion.result

/-- Whether every read of an entry has landed. -/
def PayloadTransfer.landed
    (state : PayloadTransfer)
    (supply : Supply) : Bool :=
  (List.range state.ioRequestCount).all fun chunk =>
    (supply.stored (state.ioUserData + chunk)).isSome

/-- The first phase of `materialize_available` for an entry that has landed. -/
def landReads (setup : SupplySetup) : EntryCall Unit := do
  let (_, state) ← read
  onFirst
    (Call.forEach (takeChunk setup state) (List.range state.ioRequestCount))
  setState fun state => { state with ioPending := false, ioComplete := true }

/-- The second phase: the copy, unless no VRAM slot is free yet. -/
def pumpCopy (setup : SupplySetup) : EntryCall Unit := do
  let (_, state) ← read
  if state.ioComplete then do
    let _ ← enqueueExpertCopy setup
    ret ()
  else
    ret ()

/-- One turn of the entry loop of `materialize_available`. -/
def pumpEntry (setup : SupplySetup) : EntryCall Unit := do
  let (supply, state) ← read
  if state.ioPending then
    if state.landed supply then do
      landReads setup
      pumpCopy setup
    else
      ret ()
  else
    pumpCopy setup

/-- `materialize_available`. -/
def materializeAvailable (setup : SupplySetup) : BatchCall Unit := do
  onFirst (write fun supply =>
    if setup.directIo then supply.drainPosted else supply)
  eachPart (pumpEntry setup)

/-! ## Staging release -/

/-- One turn of the loop of `release_streamed_staging`. -/
def releaseStreamed (setup : SupplySetup) : EntryCall Unit := do
  let (supply, state) ← read
  if state.isPrefetched then do
    onFirst (validateSlot setup state.stagingIdx)
    if supply.slots state.stagingIdx = .gpuTransferPending then do
      onFirst (submit "hipEventSynchronize(stream staging)")
      onFirst
        (releaseAfterGpuTransfer setup state.operationId state.stagingIdx)
      setState fun state => { state with isPrefetched := false }
    else
      setState fun state => { state with isPrefetched := false }
  else
    ret ()

/-- `release_streamed_staging`. -/
def releaseStreamedStaging (setup : SupplySetup) : BatchCall Unit :=
  eachPart (releaseStreamed setup)

end Aeon.Transport
