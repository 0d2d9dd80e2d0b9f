import Aeon.ExactList
import Aeon.PrefillResidency

namespace Aeon.Registry

/-!
# Where every expert is

The abstract model of the registry: each expert is in exactly one place, and an
operation in flight claims the slots it will fill.  The slot maps, reservation
arrays, free lists and recency lists of the code are then all determined by the
placement; `Accounts` says how.  Unlike the catalog, a placement also remembers
which host slot a demotion is copying into.
-/

/-- The place of one expert, with the slots it holds and claims. -/
inductive Residency where
  | cold
  | hot (slot : Nat)
  | warm (host : Nat) (shadow : Option Nat)
  | reading (operationId : Nat) (target : Option Nat)
  | promoting (operationId host target : Nat)
  | shadowing (operationId host : Nat) (target : Option Nat)
  | demoting (operationId slot : Nat) (destination : Option Nat)
  deriving Repr, DecidableEq

namespace Residency

/-- The VRAM slot whose bytes are this expert's. -/
@[simp, grind =] def vramSlot : Residency → Option Nat
  | .hot slot => some slot
  | .warm _ shadow => shadow
  | .demoting _ slot _ => some slot
  | _ => none

/-- The host slot whose bytes are this expert's. -/
@[simp, grind =] def hostSlot : Residency → Option Nat
  | .warm host _ => some host
  | .promoting _ host _ => some host
  | .shadowing _ host _ => some host
  | _ => none

/-- The VRAM slot an incoming operation has claimed, with its id. -/
@[simp, grind =] def vramClaim : Residency → Option (Nat × Nat)
  | .reading operationId (some slot) => some (operationId, slot)
  | .promoting operationId _ slot => some (operationId, slot)
  | .shadowing operationId _ (some slot) => some (operationId, slot)
  | _ => none

/-- The host slot an operation has claimed: a source to keep, or a destination. -/
@[simp, grind =] def hostClaim : Residency → Option (Nat × Nat)
  | .promoting operationId host _ => some (operationId, host)
  | .demoting operationId _ (some host) => some (operationId, host)
  | _ => none

/-- The empty host slot a demotion is copying into. -/
@[simp, grind =] def destination : Residency → Option Nat
  | .demoting _ _ destination => destination
  | _ => none

/-- The operation bringing this expert into VRAM. -/
@[simp, grind =] def incoming : Residency → Option Nat
  | .reading operationId _ => some operationId
  | .promoting operationId _ _ => some operationId
  | .shadowing operationId _ _ => some operationId
  | _ => none

/-- The operation evicting this expert, with the VRAM slot it still holds. -/
@[simp, grind =] def victim : Residency → Option (Nat × Nat)
  | .demoting operationId slot _ => some (operationId, slot)
  | _ => none

/-- The operation this expert takes part in. -/
@[simp, grind =] def operation : Residency → Option Nat
  | .demoting operationId _ _ => some operationId
  | place => place.incoming

/-- An idle Hot resident. -/
@[simp, grind =] def isHot : Residency → Bool
  | .hot _ => true
  | _ => false

/-- An idle Warm resident. -/
@[simp, grind =] def isWarm : Residency → Bool
  | .warm _ _ => true
  | _ => false

/-- A Warm resident with a VRAM copy. -/
@[simp, grind =] def isShadowed : Residency → Bool
  | .warm _ (some _) => true
  | _ => false

/-- The tier that owns the expert's bytes. -/
@[simp, grind =] def owner : Residency → ExpertTier
  | .cold => .coldNvme
  | .reading _ _ => .coldNvme
  | .hot _ => .hotVram
  | .demoting _ _ _ => .hotVram
  | _ => .warmHost

/-- The slot of the owning tier. -/
@[simp, grind =] def slotIdx : Residency → Option Nat
  | .hot slot => some slot
  | .demoting _ slot _ => some slot
  | place => place.hostSlot

/-- The kind of operation in flight. -/
@[simp, grind =] def pending : Residency → ExpertOperation
  | .reading _ _ => .ioPending
  | .promoting _ _ _ => .promotionPending
  | .shadowing _ _ _ => .promotionPending
  | .demoting _ _ _ => .demotionPending
  | _ => .idle

/-- The copy in flight. -/
@[simp, grind =] def gpuTransfer : Residency → ExpertGpuTransfer
  | .reading _ _ => .h2dPending
  | .promoting _ _ _ => .h2dPending
  | .shadowing _ _ _ => .h2dPending
  | .demoting _ _ (some _) => .d2hPending
  | _ => .idle

/-- The VRAM slot a Warm resident's copy is in. -/
@[simp, grind =] def shadow : Residency → Option Nat
  | .warm _ shadow => shadow
  | _ => none

/-- Whether a Warm resident is being copied without moving. -/
@[simp, grind =] def isShadowing : Residency → Bool
  | .shadowing _ _ _ => true
  | _ => false

/--
Shadows need a frozen Warm tier; a streaming prefill neither moves ownership nor
demotes.
-/
@[simp, grind =] def admitted (frozen streaming : Bool) : Residency → Bool
  | .warm _ (some _) => frozen
  | .shadowing _ _ _ => frozen
  | .promoting _ _ _ => !streaming
  | .demoting _ _ _ => !streaming
  | _ => true

variable {place : Residency}

@[grind →] theorem incoming_of_vramClaim
    {operationId slot : Nat}
    (claims : place.vramClaim = some (operationId, slot)) :
    place.incoming = some operationId ∧ place.operation = some operationId := by
  cases place with
  | reading _ target => cases target <;> simp_all
  | shadowing _ _ target => cases target <;> simp_all
  | _ => simp_all

@[grind →] theorem operation_of_incoming
    {operationId : Nat}
    (comes : place.incoming = some operationId) :
    place.operation = some operationId ∧ place.vramSlot = none ∧
      place.victim = none := by
  cases place <;> simp_all

@[grind →] theorem vramSlot_of_victim
    {operationId slot : Nat}
    (evicted : place.victim = some (operationId, slot)) :
    place.vramSlot = some slot ∧ place.operation = some operationId ∧
      place.incoming = none := by
  cases place <;> simp_all

@[grind →] theorem operation_of_hostClaim
    {operationId slot : Nat}
    (claims : place.hostClaim = some (operationId, slot)) :
    place.operation = some operationId ∧
      (place.hostSlot = some slot ∨ place.destination = some slot) := by
  cases place with
  | demoting _ _ destination => cases destination <;> simp_all
  | _ => simp_all

theorem operation_eq
    (place : Residency) :
    place.operation = place.incoming.or (place.victim.map Prod.fst) := by
  cases place <;> rfl

theorem isShadowed_eq
    (place : Residency) :
    place.isShadowed = place.shadow.isSome := by
  cases place with
  | warm host shadow => cases shadow <;> rfl
  | _ => rfl

@[grind →] theorem hostClaim_of_destination
    {slot : Nat}
    (copies : place.destination = some slot) :
    ∃ operationId source,
      place.victim = some (operationId, source) ∧
        place.hostClaim = some (operationId, slot) := by
  cases place <;> simp_all

end Residency

/-- The catalog entry of an expert at a place. -/
structure Fits
    (place : Residency)
    (entry : CatalogEntry) : Prop where
  owner : entry.owner = place.owner
  slotIdx : entry.slotIdx = place.slotIdx
  pendingSlotIdx : entry.pendingSlotIdx = place.vramClaim.map Prod.snd
  operation : entry.operation = place.pending
  gpuTransfer : entry.gpuTransfer = place.gpuTransfer
  published : entry.publication = .published ↔ place.pending = .idle
  operationId :
    ∀ operationId,
      place.operation = some operationId → entry.operationId = operationId
  inLru : entry.inLru = (place.isHot || place.isWarm)
  shadowVramSlot : entry.shadowVramSlot = place.shadow
  warmShadow : entry.warmShadow = place.isShadowing

/--
The VRAM tables agree with the placement.  `dangling` is a reservation, with its
operation, that no catalog entry names yet: the state between
`reserve_vram_destination` and the update of the incoming entry.
-/
structure VramSide
    (total capacity : Nat)
    (slots : Nat → Option Nat)
    (reserved : Nat → Nat)
    (free : List Nat)
    (place : Nat → Residency)
    (dangling : Option (Nat × Nat)) : Prop where
  owner :
    ∀ slot gid, slots slot = some gid →
      gid < total ∧ slot < capacity ∧ (place gid).vramSlot = some slot
  owned :
    ∀ gid slot, gid < total → (place gid).vramSlot = some slot →
      slots slot = some gid
  claimant :
    ∀ slot, reserved slot ≠ 0 →
      slot < capacity ∧
        ((∃ gid, gid < total ∧
          (place gid).vramClaim = some (reserved slot, slot)) ∨
        dangling = some (reserved slot, slot))
  claimed :
    ∀ gid operationId slot, gid < total →
      (place gid).vramClaim = some (operationId, slot) →
        reserved slot = operationId ∧ operationId ≠ 0
  danglingClaimed :
    ∀ operationId slot, dangling = some (operationId, slot) →
      reserved slot = operationId ∧ operationId ≠ 0
  victimReserved :
    ∀ gid operationId slot, gid < total →
      (place gid).victim = some (operationId, slot) →
        reserved slot = operationId
  reservedHeld :
    ∀ slot gid, reserved slot ≠ 0 → slots slot = some gid →
      (place gid).victim = some (reserved slot, slot)
  free :
    Exactly free fun slot =>
      slot < capacity ∧ slots slot = none ∧ reserved slot = 0

/-- The host tables agree with the placement. -/
structure HostSide
    (total usable : Nat)
    (slots : Nat → Option Nat)
    (reserved : Nat → Nat)
    (free : List Nat)
    (place : Nat → Residency) : Prop where
  owner :
    ∀ slot gid, slots slot = some gid →
      gid < total ∧ slot < usable ∧ (place gid).hostSlot = some slot
  owned :
    ∀ gid slot, gid < total → (place gid).hostSlot = some slot →
      slots slot = some gid
  claimant :
    ∀ slot, reserved slot ≠ 0 →
      ∃ gid, gid < total ∧
        (place gid).hostClaim = some (reserved slot, slot)
  claimed :
    ∀ gid operationId slot, gid < total →
      (place gid).hostClaim = some (operationId, slot) →
        reserved slot = operationId ∧ operationId ≠ 0
  destinationEmpty :
    ∀ gid slot, gid < total → (place gid).destination = some slot →
      slots slot = none ∧ slot < usable
  free :
    Exactly free fun slot =>
      slot < usable ∧ slots slot = none ∧ reserved slot = 0

/-- Operation ids identify one incoming expert and at most one victim. -/
structure OperationSide
    (total nextOperationId : Nat)
    (place : Nat → Residency) : Prop where
  incomingUnique :
    ∀ gid other operationId, gid < total → other < total →
      (place gid).incoming = some operationId →
        (place other).incoming = some operationId → gid = other
  victimUnique :
    ∀ gid other operationId slot otherSlot, gid < total → other < total →
      (place gid).victim = some (operationId, slot) →
        (place other).victim = some (operationId, otherSlot) → gid = other
  numbered :
    ∀ gid operationId, gid < total →
      (place gid).operation = some operationId →
        operationId ≠ 0 ∧ operationId < nextOperationId
  -- A shadow copy takes its slot from a release, never from a demotion.
  copiesAlone :
    ∀ gid other operationId slot, gid < total → other < total →
      (place gid).incoming = some operationId →
        (place gid).isShadowing = true →
          (place other).victim ≠ some (operationId, slot)
  positive : 0 < nextOperationId

/-- The recency lists rank exactly the idle residents of their tier. -/
structure RankSide
    (total : Nat)
    (hotVramLru warmHostLru shadowLru : List Nat)
    (place : Nat → Residency) : Prop where
  hot :
    Exactly hotVramLru fun gid =>
      gid < total ∧ (place gid).isHot = true
  warm :
    Exactly warmHostLru fun gid =>
      gid < total ∧ (place gid).isWarm = true
  shadow :
    Exactly shadowLru fun gid =>
      gid < total ∧ (place gid).isShadowed = true

/-- The catalog agrees with the placement and with the mode. -/
structure CatalogSide
    (total : Nat)
    (warmFrozen prefillStream : Bool)
    (catalog : Nat → CatalogEntry)
    (place : Nat → Residency) : Prop where
  fits : ∀ gid < total, Fits (place gid) (catalog gid)
  admitted :
    ∀ gid < total, (place gid).admitted warmFrozen prefillStream = true

/-- The prefill-begin marks and the slot mirror of the shadows. -/
structure MarkSide
    (total : Nat)
    (prefillStream : Bool)
    (catalog : Nat → CatalogEntry)
    (shadowSlotOfExpert : Nat → Option Nat)
    (place : Nat → Residency) : Prop where
  marked :
    ∀ gid < total, (catalog gid).residentAtPrefillBegin = true →
      prefillStream = true ∧ (place gid).isHot = true
  mirrored : ∀ gid < total, shadowSlotOfExpert gid = (place gid).shadow

/--
The registry's tables say exactly what the placement says.  `stranded` are the
empty host slots that a `release_host_tail` took from Warm and no
`shrink_host_capacity` has cut off yet: the free list lacks them.
-/
structure Accounts
    (stranded : List Nat)
    (registry : ExpertRegistry)
    (place : Nat → Residency)
    (dangling : Option (Nat × Nat)) : Prop where
  catalog :
    CatalogSide registry.totalExperts registry.warmFrozen
      registry.prefillStream registry.catalog place
  vram :
    VramSide registry.totalExperts registry.vramCapacity registry.vramSlots
      registry.vramSlotReservations registry.freeVramSlots place dangling
  host :
    HostSide registry.totalExperts registry.hostCapacityUsable
      registry.hostSlots registry.hostSlotReservations
      (registry.freeHostSlots ++ stranded) place
  operations :
    OperationSide registry.totalExperts registry.nextOperationId place
  ranks :
    RankSide registry.totalExperts registry.hotVramLru registry.warmHostLru
      registry.shadowLru place
  marks :
    MarkSide registry.totalExperts registry.prefillStream registry.catalog
      registry.shadowSlotOfExpert place
  frozen : registry.prefillStream = true → registry.warmFrozen = true
  usable : registry.hostCapacityUsable ≤ registry.hostCapacity
  sized :
    registry.totalExperts = registry.numLayers * registry.expertsPerLayer

/-- Everything `Accounts` reads. -/
def ExpertRegistry.tables (registry : ExpertRegistry) :=
  ((registry.totalExperts, registry.numLayers, registry.expertsPerLayer,
      registry.vramCapacity, registry.hostCapacity,
      registry.hostCapacityUsable, registry.warmFrozen,
      registry.prefillStream, registry.nextOperationId, registry.catalog),
    (registry.vramSlots, registry.vramSlotReservations,
      registry.freeVramSlots, registry.hostSlots,
      registry.hostSlotReservations, registry.freeHostSlots,
      registry.hotVramLru, registry.warmHostLru, registry.shadowLru,
      registry.shadowSlotOfExpert))

/-- Accounts are about the tables of a registry. -/
theorem Accounts.congr
    {registry after : ExpertRegistry}
    {place : Nat → Residency}
    {dangling : Option (Nat × Nat)}
    {stranded : List Nat}
    (accounts : Accounts stranded registry place dangling)
    (same : after.tables = registry.tables) :
    Accounts stranded after place dangling := by
  simp only [ExpertRegistry.tables, Prod.mk.injEq] at same
  obtain ⟨⟨totalEq, layersEq, expertsEq, vramCapacityEq, hostCapacityEq,
      usableEq, frozenEq, prefillEq, issuedEq, catalogEq⟩,
    vramEq, vramReservedEq, freeVramEq, hostEq, hostReservedEq, freeHostEq,
    hotEq, warmEq, shadowEq, mirrorEq⟩ := same
  constructor
  · rw [totalEq, frozenEq, prefillEq, catalogEq]
    exact accounts.catalog
  · rw [totalEq, vramCapacityEq, vramEq, vramReservedEq, freeVramEq]
    exact accounts.vram
  · rw [totalEq, usableEq, hostEq, hostReservedEq, freeHostEq]
    exact accounts.host
  · rw [totalEq, issuedEq]
    exact accounts.operations
  · rw [totalEq, hotEq, warmEq, shadowEq]
    exact accounts.ranks
  · rw [totalEq, prefillEq, catalogEq, mirrorEq]
    exact accounts.marks
  · rw [frozenEq, prefillEq]
    exact accounts.frozen
  · rw [usableEq, hostCapacityEq]
    exact accounts.usable
  · rw [totalEq, layersEq, expertsEq]
    exact accounts.sized

/-- Some placement accounts for the registry, with nothing dangling. -/
def Consistent
    (stranded : List Nat)
    (registry : ExpertRegistry) : Prop :=
  ∃ place, Accounts stranded registry place none

end Aeon.Registry
