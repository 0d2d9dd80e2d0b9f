import Mathlib.Logic.Function.Basic

namespace Aeon.Registry

/-!
# The expert registry's data vocabulary

The tiers, operations and transfers of one expert, the catalog entry, what a
reservation hands back, and the registry state itself.

A vector of the source is a function on its indices together with the capacity
field that bounds it, a slot field whose `-1` means "none" is an `Option`, and a
64-bit id or counter is a `Nat`.  A free list is a stack whose head is the C++
vector's back; an LRU list has its front at the head.
-/

/-- `ExpertTier`. -/
inductive ExpertTier where
  | hotVram
  | warmHost
  | coldNvme
  deriving Repr, DecidableEq

/-- `ExpertOperation`; the source's `NONE` is `idle`. -/
inductive ExpertOperation where
  | idle
  | ioPending
  | promotionPending
  | demotionPending
  deriving Repr, DecidableEq

/-- `ExpertGpuTransfer`; the source's `NONE` is `idle`. -/
inductive ExpertGpuTransfer where
  | idle
  | h2dPending
  | d2hPending
  deriving Repr, DecidableEq

/-- `ExpertDemotionDropReason`. -/
inductive ExpertDemotionDropReason where
  | unspecified
  | queuePressure
  | warmDestinationUnavailable
  deriving Repr, DecidableEq

/-- `ExpertPublication`. -/
inductive ExpertPublication where
  | published
  | unpublished
  deriving Repr, DecidableEq

/-- `ExpertSlotState`. -/
inductive ExpertSlotState where
  | unallocated
  | active
  | reclaimable
  deriving Repr, DecidableEq

/-- `ExpertRequestKind`. -/
inductive ExpertRequestKind where
  | hotHit
  | warmPromotion
  | coldMiss
  | pending
  | coldStaged
  deriving Repr, DecidableEq

/-- `ExpertRegistry::PrefillAlloc`. -/
inductive PrefillAlloc where
  | freeListOnly
  | boundedEvict
  deriving Repr, DecidableEq

/--
`ExpertCatalogEntry`.  An entry's global id is its index in the catalog, and the
LRU iterator it stores always points at its own node, so neither is a field here;
the moving frequency is never read.
-/
structure CatalogEntry where
  owner : ExpertTier := .coldNvme
  slotIdx : Option Nat := none
  pendingSlotIdx : Option Nat := none
  operation : ExpertOperation := .idle
  gpuTransfer : ExpertGpuTransfer := .idle
  publication : ExpertPublication := .published
  slotState : ExpertSlotState := .unallocated
  demotionDropReason : ExpertDemotionDropReason := .unspecified
  operationId : Nat := 0
  leaseCount : Nat := 0
  inLru : Bool := false
  shadowVramSlot : Option Nat := none
  warmShadow : Bool := false
  residentAtPrefillBegin : Bool := false
  activationCount : Nat := 0
  lastStepUsed : Nat := 0
  deriving Repr, DecidableEq

/-- `ExpertDemotionReservation`. -/
structure DemotionReservation where
  operationId : Nat
  victimGid : Nat
  sourceVramSlot : Nat
  destinationHostSlot : Nat
  deriving Repr, DecidableEq

/-- `ExpertRequestReservation`. -/
structure RequestReservation where
  kind : ExpertRequestKind
  sourceTier : ExpertTier
  globalExpertId : Nat
  operationId : Nat
  vramSlot : Option Nat
  sourceHostSlot : Option Nat
  leaseAcquired : Bool
  demotion : Option DemotionReservation
  deriving Repr, DecidableEq

/-- `ExpertRegistry::VramDestination`. -/
structure VramDestination where
  vramSlot : Nat
  demotion : Option DemotionReservation
  deriving Repr, DecidableEq

/-- The state of an `ExpertRegistry`. -/
structure ExpertRegistry where
  numLayers : Nat
  expertsPerLayer : Nat
  totalExperts : Nat
  vramCapacity : Nat
  hostCapacity : Nat
  hostCapacityUsable : Nat
  catalog : Nat → CatalogEntry
  vramSlots : Nat → Option Nat
  freeVramSlots : List Nat
  hostSlots : Nat → Option Nat
  freeHostSlots : List Nat
  vramSlotReservations : Nat → Nat
  hostSlotReservations : Nat → Nat
  hotVramLru : List Nat
  warmHostLru : List Nat
  hitsHot : Nat
  hitsWarm : Nat
  missesCold : Nat
  demotionAttempts : Nat
  demotionCompletions : Nat
  demotionDrops : Nat
  shadowCopies : Nat
  nextOperationId : Nat
  pendingDemotionCount : Nat
  warmFrozen : Bool
  validateEachRequest : Bool
  prefillStream : Bool
  prefillAlloc : PrefillAlloc
  shadowSlotOfExpert : Nat → Option Nat
  shadowLru : List Nat

/-- The exception types the registry throws, with their texts. -/
inductive RegistryError where
  | invalidArgument (message : String)
  | outOfRange (message : String)
  | logicError (message : String)
  | runtimeError (message : String)
  deriving Repr, DecidableEq

/--
How a call ends.  An exception leaves the object in whatever state the writes
before it produced, so `threw` carries that state.
-/
inductive Outcome (α : Type) where
  | returned (value : α) (registry : ExpertRegistry)
  | threw (error : RegistryError) (registry : ExpertRegistry)

/-- The registry a call leaves, whether it returned or threw. -/
@[simp] def Outcome.registry
    {α : Type} : Outcome α → ExpertRegistry
  | .returned _ registry => registry
  | .threw _ registry => registry

namespace ExpertRegistry

variable (registry : ExpertRegistry)

/-- Replace one catalog entry. -/
def setEntry
    (gid : Nat)
    (entry : CatalogEntry) : ExpertRegistry :=
  { registry with catalog := Function.update registry.catalog gid entry }

/-- Replace one VRAM slot's owner. -/
def setVramSlot
    (slot : Nat)
    (gid : Option Nat) : ExpertRegistry :=
  { registry with vramSlots := Function.update registry.vramSlots slot gid }

/-- Replace one VRAM slot's reservation. -/
def setVramReservation
    (slot operationId : Nat) : ExpertRegistry :=
  { registry with
    vramSlotReservations :=
      Function.update registry.vramSlotReservations slot operationId }

/-- Replace one host slot's owner. -/
def setHostSlot
    (slot : Nat)
    (gid : Option Nat) : ExpertRegistry :=
  { registry with hostSlots := Function.update registry.hostSlots slot gid }

/-- Replace one host slot's reservation. -/
def setHostReservation
    (slot operationId : Nat) : ExpertRegistry :=
  { registry with
    hostSlotReservations :=
      Function.update registry.hostSlotReservations slot operationId }

/-- `free_vram_slots.push_back`. -/
def pushFreeVram (slot : Nat) : ExpertRegistry :=
  { registry with freeVramSlots := slot :: registry.freeVramSlots }

/-- `free_host_slots.push_back`. -/
def pushFreeHost (slot : Nat) : ExpertRegistry :=
  { registry with freeHostSlots := slot :: registry.freeHostSlots }

/-- `push_lru_front` on the Hot list: a listed expert keeps its rank. -/
def pushHotLruFront (gid : Nat) : ExpertRegistry :=
  { registry.setEntry gid { registry.catalog gid with inLru := true } with
    hotVramLru :=
      if (registry.catalog gid).inLru then registry.hotVramLru
      else gid :: registry.hotVramLru }

/-- `push_lru_front` on the Warm list. -/
def pushWarmLruFront (gid : Nat) : ExpertRegistry :=
  { registry.setEntry gid { registry.catalog gid with inLru := true } with
    warmHostLru :=
      if (registry.catalog gid).inLru then registry.warmHostLru
      else gid :: registry.warmHostLru }

/-- `remove_from_lru` on the Hot list: an unlisted expert is left alone. -/
def removeFromHotLru (gid : Nat) : ExpertRegistry :=
  { registry.setEntry gid { registry.catalog gid with inLru := false } with
    hotVramLru :=
      if (registry.catalog gid).inLru then registry.hotVramLru.erase gid
      else registry.hotVramLru }

/-- `remove_from_lru` on the Warm list. -/
def removeFromWarmLru (gid : Nat) : ExpertRegistry :=
  { registry.setEntry gid { registry.catalog gid with inLru := false } with
    warmHostLru :=
      if (registry.catalog gid).inLru then registry.warmHostLru.erase gid
      else registry.warmHostLru }

/-- `touch_lru` on the Hot list. -/
def touchHotLru (gid : Nat) : ExpertRegistry :=
  (registry.removeFromHotLru gid).pushHotLruFront gid

/-- `shadow_touch`. -/
def shadowTouch (gid : Nat) : ExpertRegistry :=
  { registry with
    shadowLru := gid :: registry.shadowLru.filter (· != gid) }

/-- `release_shadow_residency`: an expert without a shadow is left alone. -/
def releaseShadowResidency (gid : Nat) : ExpertRegistry :=
  { registry.setEntry gid
      { registry.catalog gid with shadowVramSlot := none } with
    shadowLru :=
      if (registry.catalog gid).shadowVramSlot.isSome then
        registry.shadowLru.filter (· != gid)
      else
        registry.shadowLru
    shadowSlotOfExpert :=
      if (registry.catalog gid).shadowVramSlot.isSome then
        Function.update registry.shadowSlotOfExpert gid none
      else
        registry.shadowSlotOfExpert }

/-- `record_activation`. -/
def recordActivation
    (gid currentStep : Nat) : ExpertRegistry :=
  registry.setEntry gid
    { registry.catalog gid with
      activationCount := (registry.catalog gid).activationCount + 1
      lastStepUsed := currentStep }

/-- The catalog scanned in index order. -/
def gids : List Nat :=
  List.range registry.totalExperts

/-- `find_incoming_operation`. -/
def findIncomingOperation (operationId : Nat) : Option Nat :=
  registry.gids.find? fun gid =>
    (registry.catalog gid).operationId == operationId &&
      ((registry.catalog gid).operation == .ioPending ||
        (registry.catalog gid).operation == .promotionPending)

/-- `find_operation_victim`. -/
def findOperationVictim (operationId : Nat) : Option Nat :=
  registry.gids.find? fun gid =>
    (registry.catalog gid).operationId == operationId &&
      (registry.catalog gid).operation == .demotionPending

end ExpertRegistry

end Aeon.Registry
