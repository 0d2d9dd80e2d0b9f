import Aeon.RegistryTransfers
import Aeon.ThrowingCall

namespace Aeon.Transport

open Aeon.Registry (ExpertRegistry ExpertTier Outcome RegistryError)

/-!
# The staging arena and the transfer table

`PrefetchStagingArena` hands out its slots one state at a time, and
`PendingTransferRegistry` holds the record of every transfer in flight.  Both are
parts of one object here, the supply, on which the calls of the pipeline and of
`TieredExpertSupply` run.

The arena's methods take a slot index and nothing else.  Their models also take
the operation the call is made for, and keep a list of trespasses: writes to a
slot in use that the record of another operation names.
-/

/-- `PrefetchStagingArena::SlotState`. -/
inductive SlotState where
  | available
  | ioPending
  | ioComplete
  | gpuTransferPending
  deriving Repr, DecidableEq

/-- `state_name`. -/
def SlotState.stateName : SlotState → String
  | .available => "AVAILABLE"
  | .ioPending => "IO_PENDING"
  | .ioComplete => "IO_COMPLETE"
  | .gpuTransferPending => "GPU_TRANSFER_PENDING"

/--
`PendingTransfer`: an event field says whether the event exists, and a slot field
whose `-1` means "none" is an `Option`.
-/
structure PendingTransfer where
  operationId : Nat
  globalExpertId : Nat
  sourceTier : ExpertTier := .coldNvme
  demotedExpertId : Nat := 0
  demotionEvent : Bool := false
  h2dEvent : Bool := false
  stagingIdx : Nat := 0
  hasStaging : Bool := false
  h2dSubmitted : Bool := false
  demotionSourceSlot : Option Nat := none
  demotionDestinationSlot : Option Nat := none
  demotionStagingIdx : Option Nat := none
  demotionUsesStaging : Bool := false
  demotionSubmitted : Bool := false
  h2dSourceSlot : Option Nat := none
  h2dDestinationSlot : Option Nat := none
  requestFailed : Bool := false
  failureReason : String := ""
  deriving Repr, DecidableEq

/-- The staging slots a transfer's record names. -/
def PendingTransfer.stagingSlots (transfer : PendingTransfer) : List Nat :=
  (if transfer.hasStaging then [transfer.stagingIdx] else []) ++
    (if transfer.demotionUsesStaging then
      transfer.demotionStagingIdx.toList
    else [])

/-- `PayloadRequest`. -/
structure PayloadRequest where
  globalExpertId : Nat
  stagingIdx : Nat
  deriving Repr, DecidableEq

/-- `PayloadTransfer`, one entry of a `PayloadBatch`. -/
structure PayloadTransfer where
  globalExpertId : Nat := 0
  operationId : Nat := 0
  vramSlot : Option Nat := none
  isPrefetched : Bool := false
  stagingIdx : Nat := 0
  ioPending : Bool := false
  ioComplete : Bool := false
  ioUserData : Nat := 0
  ioRequestCount : Nat := 0
  stagingReady : Bool := false
  warmHostSlot : Option Nat := none
  sourceTier : ExpertTier := .coldNvme
  deriving Repr, DecidableEq

/-- What the calls throw. -/
inductive SupplyError where
  | runtimeError (message : String)
  | logicError (message : String)
  | invalidArgument (message : String)
  | registry (error : RegistryError)
  deriving Repr, DecidableEq

/--
What the surroundings answer: an event has fired or not, a HIP call is taken or
fails, `io_uring_enter` takes so many reads or fails, and the drive completes one
of the reads it has, in full or with the result it says.
-/
inductive Answer where
  | ready
  | notReady
  | failed
  | taken (count : Nat)
  | completes (index : Nat) (result : Option Int)
  | ringFailed
  deriving Repr, DecidableEq

/-- `PayloadLocation`. -/
structure PayloadLocation where
  fileOffset : Nat
  byteLength : Nat
  deriving Repr, DecidableEq

/-- What `configure` binds and no call changes. -/
structure SupplySetup where
  slotCount : Nat
  arenaPinned : Bool
  hostSlots : Nat
  isSlotPinned : Nat → Bool
  vramSlots : Nat
  directIo : Bool
  locate : Nat → PayloadLocation
  hostPayload : Nat → Bool
  expertPayloadBytes : Nat
  demotionQueueCapacity : Nat
  sectorSize : Nat
  sqEntries : Nat
  slotAligned : Nat → Bool

/--
One read of a payload: an entry of the submission queue.  The operation it was
queued for is not in the entry; the model keeps it to say whose read it is.
-/
structure ReadChunk where
  userData : Nat
  stagingIdx : Nat
  length : Nat
  operationId : Nat
  deriving Repr, DecidableEq

/-- `DirectIOCompletion`, with the operation of the read it completes. -/
structure DirectIoCompletion where
  userData : Nat
  result : Int
  operationId : Nat
  deriving Repr, DecidableEq

/--
The supply: the registry, the arena, the transfer table and the reads.  A read is
queued, then in flight in the drive, then a posted completion, then a completion
in the store.  `trespasses` and `mixups` are no data of the program: they list the
writes to another transfer's slot and the completions another transfer consumed.
-/
structure Supply where
  registry : ExpertRegistry
  slots : Nat → SlotState := fun _ => .available
  transfers : List PendingTransfer := []
  queued : List ReadChunk := []
  inFlight : List ReadChunk := []
  posted : List DirectIoCompletion := []
  completions : List DirectIoCompletion := []
  nextDirectIoId : Nat := 1
  trespasses : List (Nat × Nat) := []
  mixups : List (Nat × Nat) := []

/-- A call on the supply. -/
abbrev SupplyCall := Call Answer Supply SupplyError

namespace Supply

variable (supply : Supply)

/-! ## The transfer table -/

/-- `PendingTransferRegistry::find`. -/
def find (operationId : Nat) : Option PendingTransfer :=
  supply.transfers.find? fun transfer => transfer.operationId = operationId

/-- A write through the reference that `find` returns. -/
def updateFirst
    (operationId : Nat)
    (change : PendingTransfer → PendingTransfer) :
    List PendingTransfer → List PendingTransfer
  | [] => []
  | transfer :: rest =>
    if transfer.operationId = operationId then change transfer :: rest
    else transfer :: updateFirst operationId change rest

/-- The supply with the record of an operation changed. -/
def update
    (operationId : Nat)
    (change : PendingTransfer → PendingTransfer) : Supply :=
  { supply with
    transfers := updateFirst operationId change supply.transfers }

/-- `ensure_registry_transfer`. -/
def ensure (operationId gid : Nat) : Supply :=
  if (supply.find operationId).isSome then supply
  else
    { supply with
      transfers := supply.transfers ++
        [{ operationId := operationId
           globalExpertId := gid
           sourceTier := (supply.registry.catalog gid).owner }] }

/-! ## The arena -/

/-- Whether a write for `operationId` touches another transfer's slot. -/
def touchesOther (operationId slot : Nat) : Bool :=
  supply.slots slot ≠ .available &&
    supply.transfers.any fun transfer =>
      transfer.operationId ≠ operationId && slot ∈ transfer.stagingSlots

/-- One write to a slot's state. -/
def setSlot
    (operationId slot : Nat)
    (state : SlotState) : Supply :=
  { supply with
    slots := Function.update supply.slots slot state
    trespasses :=
      if supply.touchesOther operationId slot then
        (operationId, slot) :: supply.trespasses
      else
        supply.trespasses }

end Supply

variable (setup : SupplySetup)

/-- `validate_slot`. -/
def validateSlot
    (slot : Nat) : SupplyCall Unit :=
  Call.check (slot < setup.slotCount)
    (.runtimeError ("PrefetchStagingArena: Slot index " ++ toString slot ++
      " out of bounds"))

/-- `transition`. -/
def transition
    (setup : SupplySetup)
    (expected next : SlotState)
    (operationId slot : Nat) : SupplyCall Unit := do
  validateSlot setup slot
  let supply ← Call.read
  Call.check (supply.slots slot = expected)
    (.runtimeError
      ("PrefetchStagingArena: invalid slot state transition for slot " ++
        toString slot ++ ": expected " ++ expected.stateName ++ " -> " ++
        next.stateName ++ ", but the slot is " ++
        (supply.slots slot).stateName))
  Call.write fun supply => supply.setSlot operationId slot next

/-- `begin_io`. -/
def beginIo (setup : SupplySetup) : Nat → Nat → SupplyCall Unit :=
  transition setup .available .ioPending

/-- `mark_ready`. -/
def markReady (setup : SupplySetup) : Nat → Nat → SupplyCall Unit :=
  transition setup .available .ioComplete

/-- `complete_io`. -/
def completeIo (setup : SupplySetup) : Nat → Nat → SupplyCall Unit :=
  transition setup .ioPending .ioComplete

/-- `begin_direct_transfer`. -/
def beginDirectTransfer (setup : SupplySetup) : Nat → Nat → SupplyCall Unit :=
  transition setup .available .gpuTransferPending

/-- `begin_gpu_transfer`. -/
def beginGpuTransfer (setup : SupplySetup) : Nat → Nat → SupplyCall Unit :=
  transition setup .ioComplete .gpuTransferPending

/-- `release_after_gpu_transfer`. -/
def releaseAfterGpuTransfer
    (setup : SupplySetup) : Nat → Nat → SupplyCall Unit :=
  transition setup .gpuTransferPending .available

/-- `stage_payload`, without the copy it makes. -/
def stagePayload
    (operationId slot : Nat) : SupplyCall Unit := do
  validateSlot setup slot
  let supply ← Call.read
  Call.check (supply.slots slot = .available)
    (.runtimeError "PrefetchStagingArena: staging slot is still in use")
  Call.write fun supply => supply.setSlot operationId slot .ioComplete

/-- `release_if_copying`. -/
def releaseIfCopying
    (operationId slot : Nat) : SupplyCall Unit := do
  validateSlot setup slot
  let supply ← Call.read
  if supply.slots slot = .gpuTransferPending then
    Call.write fun supply => supply.setSlot operationId slot .available
  else
    Call.ret ()

/-- `release_after_failure`. -/
def releaseAfterFailure
    (operationId slot : Nat) : SupplyCall Unit := do
  validateSlot setup slot
  Call.write fun supply => supply.setSlot operationId slot .available

/-- The candidate that `try_begin_direct_transfer` takes. -/
def firstAvailable
    (supply : Supply) : Option Nat :=
  if setup.arenaPinned then
    (List.range setup.slotCount).find? fun slot =>
      supply.slots slot = .available
  else
    none

/-! ## The surroundings -/

/-- A HIP or reader call that is taken, or throws. -/
def submit (what : String) : SupplyCall Unit := do
  let answer ← Call.ask .notReady
  Call.check (answer ≠ .failed) (.runtimeError ("TieredExpertSupply: " ++ what))

/-- A call on the expert registry. -/
def onRegistry
    {Value : Type}
    (call : ExpertRegistry → Outcome Value) : SupplyCall Value :=
  fun supply answers =>
    match call supply.registry with
    | .returned value after =>
      (.ok value, { supply with registry := after }, answers)
    | .threw error after =>
      (.error (.registry error), { supply with registry := after }, answers)

/-- `HostExpertPool::get_expert_slot_ptr`, as far as it can throw. -/
def hostSlotPtr
    (slot : Nat) : SupplyCall Unit :=
  Call.check (slot < setup.hostSlots)
    (.runtimeError ("HostExpertPool: Invalid slot index " ++ toString slot))

/-- `ExpertPayloadPool::upload_from_host_expert`, as far as it can throw. -/
def uploadFromHostExpert
    (vramSlot : Option Nat) : SupplyCall Unit := do
  Call.check (vramSlot.any fun slot => slot < setup.vramSlots)
    (.runtimeError "ExpertPayloadPool: Invalid upload source or slot index")
  submit "hipMemcpyAsync(H2D)"

end Aeon.Transport
