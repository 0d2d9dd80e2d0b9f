import Aeon.ExpertRegistryTypes

namespace Aeon.Registry.ExpertRegistry

/-!
# The registry's own audit

`validate_invariants` scans the catalog, the slot maps and the three recency
lists, and throws at the first disagreement.  It never looks at the free lists.
Here the audit returns the text it would throw.  The vector sizes it compares
first are fixed by construction in this model.
-/

variable (registry : ExpertRegistry)

/-- The per-entry part of the audit. -/
def auditEntry (gid : Nat) : Option String :=
  let entry := registry.catalog gid
  match entry.owner, entry.slotIdx with
  | .hotVram, none =>
    some "ExpertRegistry: Hot entry does not map to its VRAM slot"
  | .warmHost, none =>
    some "ExpertRegistry: Warm entry does not map to its host slot"
  | .coldNvme, some _ =>
    some "ExpertRegistry: Cold entry owns a physical slot"
  | owner, slot? =>
    if owner == .hotVram &&
        (slot?.any fun slot =>
          registry.vramCapacity ≤ slot ||
            registry.vramSlots slot != some gid) then
      some "ExpertRegistry: Hot entry does not map to its VRAM slot"
    else if owner == .warmHost &&
        (slot?.any fun slot =>
          registry.hostCapacityUsable ≤ slot ||
            registry.hostSlots slot != some gid) then
      some "ExpertRegistry: Warm entry does not map to its host slot"
    else if entry.operation != .idle && entry.operationId == 0 then
      some "ExpertRegistry: pending entry has no operation ID"
    else if entry.operation == .idle && entry.gpuTransfer != .idle then
      some "ExpertRegistry: idle entry has a pending GPU transfer"
    else if entry.operation != .idle &&
        (entry.pendingSlotIdx.any fun slot =>
          registry.vramCapacity ≤ slot ||
            registry.vramSlotReservations slot != entry.operationId) then
      some "ExpertRegistry: pending entry does not own its VRAM reservation"
    else
      none

/-- The per-VRAM-slot part of the audit. -/
def auditVramSlot (slot : Nat) : Option String :=
  match registry.vramSlots slot with
  | some gid =>
    if registry.totalExperts ≤ gid then
      some "ExpertRegistry: VRAM slot names an unknown expert"
    else if
        ((registry.catalog gid).owner == .hotVram &&
            (registry.catalog gid).slotIdx == some slot) ||
          ((registry.catalog gid).owner == .warmHost &&
            (registry.catalog gid).shadowVramSlot == some slot) then
      none
    else
      some "ExpertRegistry: VRAM slot map is not bijective"
  | none =>
    if registry.vramSlotReservations slot != 0 &&
        !(registry.gids.any fun gid =>
          (registry.catalog gid).operationId ==
              registry.vramSlotReservations slot &&
            (registry.catalog gid).pendingSlotIdx == some slot) then
      some "ExpertRegistry: orphaned VRAM reservation"
    else
      none

/-- The per-host-slot part of the audit. -/
def auditHostSlot (slot : Nat) : Option String :=
  if registry.hostSlots slot |>.any fun gid =>
      registry.totalExperts ≤ gid ||
        (registry.catalog gid).owner != .warmHost ||
        (registry.catalog gid).slotIdx != some slot then
    some "ExpertRegistry: host slot map is not bijective"
  else if registry.hostSlotReservations slot != 0 &&
      !(registry.gids.any fun gid =>
        (registry.catalog gid).operationId ==
            registry.hostSlotReservations slot &&
          ((registry.catalog gid).slotIdx == some slot ||
            (registry.catalog gid).operation == .demotionPending)) then
    some "ExpertRegistry: orphaned host reservation"
  else
    none

/-- The scan of the shadow recency list; `seen` holds the ids before it. -/
def auditShadowLru (seen : List Nat) : List Nat → Option String
  | [] => none
  | gid :: rest =>
    if registry.totalExperts ≤ gid || seen.contains gid then
      some "ExpertRegistry: shadow LRU contains an invalid expert"
    else
      match (registry.catalog gid).shadowVramSlot with
      | none =>
        some "ExpertRegistry: shadow LRU disagrees with the catalog"
      | some slot =>
        if (registry.catalog gid).owner != .warmHost ||
            registry.vramCapacity ≤ slot ||
            registry.vramSlots slot != some gid then
          some "ExpertRegistry: shadow LRU disagrees with the catalog"
        else
          auditShadowLru (gid :: seen) rest

/-- The per-entry part of the shadow audit. -/
def auditShadowEntry (gid : Nat) : Option String :=
  let entry := registry.catalog gid
  if entry.shadowVramSlot.isSome && !registry.shadowLru.contains gid then
    some "ExpertRegistry: shadow residency is not in the shadow LRU"
  else if entry.warmShadow && entry.operation == .idle then
    some "ExpertRegistry: an idle entry is flagged as a shadow copy in flight"
  else if registry.shadowSlotOfExpert gid != entry.shadowVramSlot then
    some "ExpertRegistry: shadow slot map disagrees with the catalog"
  else
    none

/-- The scan of one recency list in `validate_lru`. -/
def auditLru
    (tier : ExpertTier)
    (seen : List Nat) : List Nat → Option String
  | [] => none
  | gid :: rest =>
    if registry.totalExperts ≤ gid || seen.contains gid ||
        !(registry.catalog gid).inLru ||
        (registry.catalog gid).owner != tier ||
        (registry.catalog gid).publication != .published ||
        (registry.catalog gid).operation != .idle then
      some "ExpertRegistry: LRU contains an invalid catalog entry"
    else
      auditLru tier (gid :: seen) rest

/-- `validate_lru`. -/
def validateLru
    (lru : List Nat)
    (tier : ExpertTier) : Option String :=
  (registry.auditLru tier [] lru).or
    (registry.gids.findSome? fun gid =>
      if (registry.catalog gid).owner == tier &&
          (registry.catalog gid).inLru != lru.contains gid then
        some "ExpertRegistry: LRU membership disagrees with catalog entry"
      else
        none)

/-- The prefill-begin marks outside a prefill, and on entries that are not Hot. -/
def auditMarks : Option String :=
  (registry.gids.findSome? fun gid =>
    if !registry.prefillStream &&
        (registry.catalog gid).residentAtPrefillBegin then
      some ("ExpertRegistry: a prefill-begin residency mark exists outside " ++
        "prefill streaming")
    else
      none).or
    (registry.gids.findSome? fun gid =>
      if (registry.catalog gid).residentAtPrefillBegin &&
          (registry.catalog gid).owner != .hotVram then
        some "ExpertRegistry: a prefill-begin residency mark on a non-Hot entry"
      else
        none)

/-- The text `validate_invariants` throws, if it throws. -/
def violation : Option String :=
  (registry.gids.findSome? registry.auditEntry).or <|
  ((List.range registry.vramCapacity).findSome? registry.auditVramSlot).or <|
  ((List.range registry.hostCapacity).findSome? registry.auditHostSlot).or <|
  (registry.auditShadowLru [] registry.shadowLru).or <|
  (registry.gids.findSome? registry.auditShadowEntry).or <|
  (if !registry.warmFrozen && !registry.shadowLru.isEmpty then
    some ("ExpertRegistry: a shadow residency exists outside prefill " ++
      "streaming — decode admits single ownership only")
  else
    none).or <|
  registry.auditMarks.or <|
  (registry.validateLru registry.hotVramLru .hotVram).or <|
  registry.validateLru registry.warmHostLru .warmHost

/-- `invariants_hold`. -/
def invariantsHold : Bool :=
  registry.violation.isNone

/-- Return `value` after `validate_invariants`. -/
def validated
    {α : Type}
    (value : α) : Outcome α :=
  match registry.violation with
  | some message => .threw (.logicError message) registry
  | none => .returned value registry

/-- Return `value` after `checked_validate`. -/
def checkedValidate
    {α : Type}
    (value : α) : Outcome α :=
  if registry.validateEachRequest then
    registry.validated value
  else
    .returned value registry

@[simp] theorem validated_registry
    {α : Type}
    (value : α) :
    (registry.validated value).registry = registry := by
  unfold validated
  split <;> rfl

/-- The audit of a request writes nothing. -/
@[simp] theorem checkedValidate_registry
    {α : Type}
    (value : α) :
    (registry.checkedValidate value).registry = registry := by
  unfold checkedValidate
  split
  · exact registry.validated_registry value
  · rfl

theorem validated_returned
    {α : Type}
    {value result : α}
    {after : ExpertRegistry}
    (returned : registry.validated value = .returned result after) :
    result = value ∧ after = registry := by
  unfold validated at returned
  split at returned
  · contradiction
  · simp only [Outcome.returned.injEq] at returned
    exact ⟨returned.1.symm, returned.2.symm⟩

/-- A call that returned through its audit left the state it audited. -/
theorem checkedValidate_returned
    {α : Type}
    {value result : α}
    {after : ExpertRegistry}
    (returned : registry.checkedValidate value = .returned result after) :
    result = value ∧ after = registry := by
  unfold checkedValidate at returned
  split at returned
  · exact registry.validated_returned returned
  · simp only [Outcome.returned.injEq] at returned
    exact ⟨returned.1.symm, returned.2.symm⟩

end Aeon.Registry.ExpertRegistry
