import Aeon.ExpertRegistry

namespace Aeon.Registry.ExpertRegistry

/-!
# The Warm/staging partition

Warm and the transport corridor share one pinned region cut by a boundary that
moves at phase boundaries.  A move edits the Warm free list and the usable
capacity; no storage is relocated.
-/

variable (registry : ExpertRegistry)

/-- `find_reserved_host_slot`: an empty reserved slot first, then any reserved one. -/
def findReservedHostSlot (operationId : Nat) : Option Nat :=
  ((List.range registry.hostCapacity).find? fun slot =>
      registry.hostSlotReservations slot == operationId &&
        (registry.hostSlots slot).isNone).or
    ((List.range registry.hostCapacity).find? fun slot =>
      registry.hostSlotReservations slot == operationId)

/-- `release_reserved_host_slot`. -/
def releaseReservedHostSlot (slot : Nat) : ExpertRegistry :=
  ((registry.setHostSlot slot none).setHostReservation slot 0).pushFreeHost slot

/-- `rebuild_free_host_slots`. -/
def rebuildFreeHostSlots : ExpertRegistry :=
  { registry with
    freeHostSlots :=
      (List.range registry.hostCapacityUsable).filter fun slot =>
        (registry.hostSlots slot).isNone &&
          registry.hostSlotReservations slot == 0 }

/-- Whether a host slot is occupied or reserved. -/
def hostSlotInUse (slot : Nat) : Bool :=
  (registry.hostSlots slot).isSome || registry.hostSlotReservations slot != 0

/-- The push loop of `grow_host_capacity`; it stops at a slot still in use. -/
def recoverHostSlots
    (registry : ExpertRegistry)
    (message : String) :
    List Nat → Outcome Unit
  | [] => .returned () registry
  | slot :: rest =>
    if registry.hostSlotInUse slot then
      .threw (.logicError message) registry
    else
      recoverHostSlots (registry.pushFreeHost slot) message rest

/-- `grow_host_capacity`. -/
def growHostCapacity (usable : Nat) : Outcome Unit :=
  if usable ≤ registry.hostCapacityUsable then
    .returned () registry
  else if registry.hostCapacity < usable then
    .threw (.outOfRange
      "ExpertRegistry: host capacity exceeds the allocated region") registry
  else
    match recoverHostSlots registry
        "ExpertRegistry: cannot grow Warm capacity over a slot still in use"
        (List.range' registry.hostCapacityUsable
          (usable - registry.hostCapacityUsable)) with
    | .threw error after => .threw error after
    | .returned () after =>
      { after with hostCapacityUsable := usable }.checkedValidate ()

/-- `shrink_host_capacity`. -/
def shrinkHostCapacity (usable : Nat) : Outcome Unit :=
  if registry.hostCapacityUsable ≤ usable then
    .returned () registry
  else if (List.range' usable (registry.hostCapacityUsable - usable)).any
      registry.hostSlotInUse then
    .threw (.logicError
      "ExpertRegistry: cannot shrink Warm capacity under a slot still in use")
      registry
  else
    ({ registry with
        hostCapacityUsable := usable }.rebuildFreeHostSlots).checkedValidate ()

/-- Drop the Warm resident of one surrendered slot. -/
def surrenderHostSlot
    (gid slot : Nat) : ExpertRegistry :=
  let removed := (registry.removeFromWarmLru gid).setHostSlot slot none
  removed.setEntry gid
    { removed.catalog gid with
      owner := .coldNvme
      slotIdx := none
      slotState := .unallocated }

/-- The loop of `release_host_tail` over the slots still to drain. -/
def releaseHostSlots
    (released : Nat)
    (registry : ExpertRegistry) :
    List Nat → Outcome Nat
  | [] => registry.checkedValidate released
  | slot :: rest =>
    match registry.hostSlots slot with
    | none => releaseHostSlots released registry rest
    | some gid =>
      if (registry.catalog gid).owner ≠ .warmHost then
        .threw (.logicError
          "ExpertRegistry: host tail slot is not Warm-owned") registry
      else if (registry.catalog gid).leaseCount ≠ 0 ∨
          (registry.catalog gid).operation ≠ .idle then
        .threw (.logicError
          ("ExpertRegistry: cannot surrender a Warm slot with a live " ++
            "lease or transfer — the caller must reach a boundary first"))
          registry
      else
        releaseHostSlots (released + 1)
          (registry.surrenderHostSlot gid slot) rest

/-- `release_host_tail`. -/
def releaseHostTail (keep : Nat) : Outcome Nat :=
  if registry.hostCapacityUsable < keep then
    .threw (.outOfRange
      "ExpertRegistry: host tail keep-point is out of range") registry
  else
    releaseHostSlots 0 registry
      (List.range' keep (registry.hostCapacityUsable - keep))

end Aeon.Registry.ExpertRegistry
