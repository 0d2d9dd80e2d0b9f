import Mathlib.Algebra.BigOperators.Group.List.Basic
import Mathlib.Algebra.GroupWithZero.Nat

namespace Aeon.Memory

/-!
# The host side of the memory budget

`staging_slot_counts`, the split of the one pinned host region into Warm lanes
and a corridor, and the feasibility gate that every stage passes.  Sizes are
natural numbers, wrapped where the source's 32-bit or 64-bit type wraps them.
-/

/-- A value stored in a `uint32_t`. -/
def u32 (value : Nat) : Nat :=
  value % 2 ^ 32

/-- A value stored in a `uint64_t` or a `size_t`. -/
def u64 (value : Nat) : Nat :=
  value % 2 ^ 64

/-- `static_cast<uint32_t>` of a signed 64-bit value. -/
def u32OfInt (value : Int) : Nat :=
  (value % 2 ^ 32).toNat

/-- The knobs of `AeonRuntimeConfig` that the host region depends on. -/
structure RuntimeConfig where
  contextSize : Nat := 4096
  warmHostBytes : Nat := 0
  preloadWarmHost : Bool := true
  maxHotVramSlots : Nat := 0
  prefillChunk : Nat := 64
  prefillWindow : Nat := 4096
  prefillSweep : Bool := true
  prefillSweepMinTokens : Nat := 0
  prefillSweepStagingBlocks : Nat := 2
  deriving Repr, DecidableEq

/-- `StagingSlotCounts`. -/
structure StagingSlotCounts where
  decode : Nat
  batch : Nat
  prefill : Nat
  peak : Nat
  deriving Repr, DecidableEq

/-- `PrefetchStagingArena::decode_slot_count`, two banks of one token's experts. -/
def decodeSlotCount (expertsPerToken : Nat) : Nat :=
  u32 (2 * expertsPerToken)

/-- `staging_slot_counts`. -/
def stagingSlotCounts
    (cfg : RuntimeConfig)
    (expertsPerLayer expertsPerToken : Nat) : StagingSlotCounts :=
  let decode := decodeSlotCount expertsPerToken
  let chunkCeiling :=
    min (u32 (expertsPerToken * max 1 cfg.prefillChunk)) expertsPerLayer
  let batch := max decode chunkCeiling
  let blocks :=
    if cfg.prefillSweep then max 1 cfg.prefillSweepStagingBlocks else 1
  let prefill :=
    if cfg.prefillSweep then max batch (u32 (blocks * expertsPerLayer))
    else batch
  { decode := decode
    batch := batch
    prefill := prefill
    peak := max (max decode batch) prefill }

/-- `ExpertFormatDescriptor`, less its kind and version. -/
structure ExpertFormat where
  sectorSize : Nat := 4096
  numLayers : Nat
  expertsPerLayer : Nat
  payloadBytes : Nat
  deriving Repr, DecidableEq

namespace ExpertFormat

variable (format : ExpertFormat)

/-- `total_experts`. -/
def totalExperts : Nat :=
  u64 (format.numLayers * format.expertsPerLayer)

/-- Whether `validate_catalog` returns. -/
def validCatalog : Bool :=
  !(format.sectorSize == 0 ||
      (format.sectorSize &&& (format.sectorSize - 1)) != 0 ||
      format.payloadBytes == 0 ||
      format.payloadBytes % format.sectorSize != 0) &&
    !(format.numLayers == 0 || format.expertsPerLayer == 0 ||
      decide ((2 ^ 64 - 1) / 16 < format.totalExperts))

end ExpertFormat

/-- `SharedHostRegion`. -/
structure SharedHostRegion where
  regionSlots : Nat
  laneBaseSlots : Nat
  laneSlots : Nat
  deriving Repr, DecidableEq

/-- The shares of `split_host_budget` for the stages after `before` layers. -/
def hostShares
    (total totalLayers before : Nat) : List Nat → List Nat
  | [] => []
  | count :: rest =>
    let after := u64 (before + count)
    -- `uint64_t` subtraction of two cumulative floors.
    u64 (u64 (total * after) / totalLayers + 2 ^ 64 -
        u64 (total * before) / totalLayers) ::
      hostShares total totalLayers after rest

/-- `split_host_budget`. -/
def splitHostBudget
    (totalBytes : Nat)
    (stageLayerCounts : List Nat) : List Nat :=
  let totalLayers := u64 stageLayerCounts.sum
  if totalLayers = 0 then
    stageLayerCounts.map fun _ => 0
  else
    hostShares totalBytes totalLayers 0 stageLayerCounts

/-- The stages' lanes laid end to end from `base`. -/
def layLanes
    (regionSlots base : Nat) : List Nat → List SharedHostRegion
  | [] => []
  | lane :: rest =>
    ⟨regionSlots, base, u32 lane⟩ ::
      layLanes regionSlots (u32 (base + u32 lane)) rest

/-- The slots of the one region, `region_slots` in `plan_shared_host_region`. -/
def plannedRegionSlots
    (cfg : RuntimeConfig)
    (format : ExpertFormat)
    (expertsPerToken stages : Nat) : Nat :=
  let regionSlots := u32 (cfg.warmHostBytes / format.payloadBytes)
  if regionSlots = 0 ∧ 1 < stages then
    (stagingSlotCounts cfg format.expertsPerLayer expertsPerToken).peak
  else
    regionSlots

/-- `lane_total`: the region less decode's corridor, when Warm is on. -/
def laneTotal
    (cfg : RuntimeConfig)
    (format : ExpertFormat)
    (expertsPerToken stages : Nat) : Nat :=
  if 0 < u32 (cfg.warmHostBytes / format.payloadBytes) ∧
      (stagingSlotCounts cfg format.expertsPerLayer expertsPerToken).decode <
        plannedRegionSlots cfg format expertsPerToken stages then
    plannedRegionSlots cfg format expertsPerToken stages -
      (stagingSlotCounts cfg format.expertsPerLayer expertsPerToken).decode
  else
    0

/-- `plan_shared_host_region`. -/
def planSharedHostRegion
    (cfg : RuntimeConfig)
    (format : ExpertFormat)
    (expertsPerToken : Nat)
    (stageLayerCounts : List Nat) : List SharedHostRegion :=
  let stages := stageLayerCounts.length
  layLanes (plannedRegionSlots cfg format expertsPerToken stages) 0
    (splitHostBudget (laneTotal cfg format expertsPerToken stages)
      stageLayerCounts)

/--
`ModelMemoryGeometry`, with the attention-state function already summed by
`total_bytes`; `none` is a context it throws for.
-/
structure ModelMemoryGeometry where
  numHiddenLayers : Int
  routedExperts : Int
  expertsPerTok : Int
  maxPositionEmbeddings : Int
  prefillCarryBytesPerToken : Nat
  attentionStateMemory : Nat → Option Nat

/--
The machine a budget is evaluated on: the device's allowance
`floor(utilization * total)` and its free bytes, and the host's RAM, `none` when
the query fails.
-/
structure MachineMemory where
  usableVramBytes : Nat
  freeVramBytes : Nat
  hostRamBytes : Option Nat
  deriving Repr, DecidableEq

/-- Why `evaluate` refuses; the texts print gigabytes as floating-point numbers. -/
inductive Rejection where
  | invalidFormat
  | catalogMismatch
  | idRangeExceeded
  | deviceBelowAllowance
  | hostQueryFailed
  | contextZero
  | contextTooLong
  | attentionStateRefused
  | vramExceeded
  | hostBudgetExceeded
  | corridorDoesNotFit
  deriving Repr, DecidableEq

/-- The parts of `MemoryBudgetReport` that the load reads. -/
structure MemoryBudgetReport where
  hotVramSlots : Nat
  hostRegionSlots : Nat
  hostLaneBaseSlots : Nat
  warmHostSlots : Nat
  deriving Repr, DecidableEq

/-- `HOST_RAM_RESERVED_BYTES`. -/
def hostRamReservedBytes : Nat :=
  10 * 1024 * 1024 * 1024

/-- `DECODE_SCRATCH_ALLOWANCE_BYTES`. -/
def decodeScratchAllowanceBytes : Nat :=
  16 * 1024 * 1024

/-- `prefill_carry_bytes`. -/
def prefillCarryBytes
    (cfg : RuntimeConfig)
    (geometry : ModelMemoryGeometry) : Nat :=
  let window :=
    if cfg.prefillWindow = 0 then cfg.contextSize
    else min cfg.prefillWindow cfg.contextSize
  u64 (window * geometry.prefillCarryBytesPerToken)

/-- The VRAM scratch terms of `evaluate`. -/
def vramScratchBytes
    (cfg : RuntimeConfig)
    (geometry : ModelMemoryGeometry) : Nat :=
  let carry := if cfg.prefillSweep then prefillCarryBytes cfg geometry else 0
  let batch :=
    if cfg.prefillSweep then u64 (max 1 cfg.prefillChunk * (1024 * 1024))
    else 0
  u64 (decodeScratchAllowanceBytes + batch + carry)

/-- The Hot pool that the remaining VRAM holds, with the diagnostic cap. -/
def hotVramSlotsFor
    (cfg : RuntimeConfig)
    (format : ExpertFormat)
    (remainingBytes : Nat) : Nat :=
  let derived := u32 (remainingBytes / format.payloadBytes)
  if 0 < cfg.maxHotVramSlots then min derived (max cfg.maxHotVramSlots 6)
  else derived

/-- `max_allowed_host_ram_bytes`. -/
def maxAllowedHostRamBytes (hostRamBytes : Nat) : Nat :=
  if hostRamReservedBytes < hostRamBytes then
    hostRamBytes - hostRamReservedBytes
  else
    0

/-- The host-region part of `evaluate`, once the Hot pool is known. -/
def evaluateHost
    (cfg : RuntimeConfig)
    (geometry : ModelMemoryGeometry)
    (format : ExpertFormat)
    (hostRamBytes hotVramSlots : Nat)
    (region : SharedHostRegion) : Except Rejection MemoryBudgetReport :=
  let staging :=
    stagingSlotCounts cfg format.expertsPerLayer
      (u32OfInt geometry.expertsPerTok)
  if maxAllowedHostRamBytes hostRamBytes <
      u64 (region.regionSlots * format.payloadBytes) then
    .error .hostBudgetExceeded
  else if cfg.warmHostBytes ≠ 0 ∧ region.regionSlots < staging.peak then
    .error .corridorDoesNotFit
  else
    .ok
      { hotVramSlots := hotVramSlots
        hostRegionSlots := region.regionSlots
        hostLaneBaseSlots := region.laneBaseSlots
        warmHostSlots :=
          min (u32 format.totalExperts - hotVramSlots) region.laneSlots }

/-- `MemoryBudgetEngine::evaluate`. -/
def evaluate
    (cfg : RuntimeConfig)
    (geometry : ModelMemoryGeometry)
    (denseWeightsBytes : Nat)
    (format : ExpertFormat)
    (machine : MachineMemory)
    (region : SharedHostRegion) : Except Rejection MemoryBudgetReport :=
  if !format.validCatalog then
    .error .invalidFormat
  else if geometry.numHiddenLayers < 0 ∨ geometry.routedExperts < 0 ∨
      format.numLayers ≠ u32OfInt geometry.numHiddenLayers ∨
      format.expertsPerLayer ≠ u32OfInt geometry.routedExperts then
    .error .catalogMismatch
  else if 2 ^ 32 - 1 < format.totalExperts then
    .error .idRangeExceeded
  else if machine.freeVramBytes < machine.usableVramBytes then
    .error .deviceBelowAllowance
  else
    match machine.hostRamBytes with
    | none => .error .hostQueryFailed
    | some hostRam =>
      if cfg.contextSize = 0 then
        .error .contextZero
      else if u32OfInt geometry.maxPositionEmbeddings < cfg.contextSize then
        .error .contextTooLong
      else
        match geometry.attentionStateMemory cfg.contextSize with
        | none => .error .attentionStateRefused
        | some kvBytes =>
          let scratch := vramScratchBytes cfg geometry
          let minActive :=
            u64 (u32OfInt (2 * geometry.expertsPerTok) *
              format.payloadBytes)
          let baseline :=
            u64 (denseWeightsBytes + kvBytes + scratch + minActive)
          if machine.usableVramBytes < baseline then
            .error .vramExceeded
          else
            let remaining :=
              u64 (machine.usableVramBytes + 2 ^ 64 -
                u64 (denseWeightsBytes + kvBytes + scratch))
            evaluateHost cfg geometry format hostRam
              (hotVramSlotsFor cfg format remaining) region

/-! ## What an accepted configuration guarantees -/

variable
    {cfg : RuntimeConfig}
    {geometry : ModelMemoryGeometry}
    {denseWeightsBytes : Nat}
    {format : ExpertFormat}
    {machine : MachineMemory}
    {region : SharedHostRegion}
    {report : MemoryBudgetReport}

/-- The phases' corridors in order of size. -/
theorem stagingSlotCounts_le
    (cfg : RuntimeConfig)
    (expertsPerLayer expertsPerToken : Nat) :
    (stagingSlotCounts cfg expertsPerLayer expertsPerToken).decode ≤
        (stagingSlotCounts cfg expertsPerLayer expertsPerToken).batch ∧
      (stagingSlotCounts cfg expertsPerLayer expertsPerToken).batch ≤
        (stagingSlotCounts cfg expertsPerLayer expertsPerToken).prefill ∧
      (stagingSlotCounts cfg expertsPerLayer expertsPerToken).prefill =
        (stagingSlotCounts cfg expertsPerLayer expertsPerToken).peak := by
  simp only [stagingSlotCounts]
  split <;> omega

/-- What `evaluate` copies from the plan and how it bounds Warm. -/
structure Accepted
    (cfg : RuntimeConfig)
    (geometry : ModelMemoryGeometry)
    (format : ExpertFormat)
    (region : SharedHostRegion)
    (report : MemoryBudgetReport) : Prop where
  regionSlots : report.hostRegionSlots = region.regionSlots
  laneBase : report.hostLaneBaseSlots = region.laneBaseSlots
  warmSlots :
    report.warmHostSlots =
      min (u32 format.totalExperts - report.hotVramSlots) region.laneSlots
  corridorFits :
    cfg.warmHostBytes ≠ 0 →
      (stagingSlotCounts cfg format.expertsPerLayer
        (u32OfInt geometry.expertsPerTok)).peak ≤ region.regionSlots

theorem evaluateHost_accepted
    {hostRamBytes hotVramSlots : Nat}
    (accepted :
      evaluateHost cfg geometry format hostRamBytes hotVramSlots region =
        .ok report) :
    Accepted cfg geometry format region report := by
  simp only [evaluateHost] at accepted
  split at accepted
  · contradiction
  · split at accepted
    · contradiction
    next fits =>
      obtain rfl := Except.ok.inj accepted
      refine ⟨rfl, rfl, rfl, ?_⟩
      intro budgeted
      by_contra small
      exact fits ⟨budgeted, Nat.lt_of_not_le small⟩

theorem evaluate_accepted
    (accepted :
      evaluate cfg geometry denseWeightsBytes format machine region =
        .ok report) :
    Accepted cfg geometry format region report := by
  simp only [evaluate] at accepted
  repeat' split at accepted
  all_goals first | contradiction | exact evaluateHost_accepted accepted

/-! ## The lanes tile the region -/

theorem u32_of_lt
    {value : Nat}
    (small : value < 2 ^ 32) :
    u32 value = value :=
  Nat.mod_eq_of_lt small

theorem u64_of_lt
    {value : Nat}
    (small : value < 2 ^ 64) :
    u64 value = value :=
  Nat.mod_eq_of_lt small

/-- A difference that does not go below zero. -/
theorem u64_sub
    {larger smaller : Nat}
    (small : larger < 2 ^ 64)
    (ordered : smaller ≤ larger) :
    u64 (larger + 2 ^ 64 - smaller) = larger - smaller := by
  unfold u64
  omega

/-- The cumulative floors telescope. -/
theorem hostShares_sum
    {total totalLayers : Nat}
    (before : Nat)
    (counts : List Nat)
    (positive : 0 < totalLayers)
    (reaches : before + counts.sum ≤ totalLayers)
    (small : total * totalLayers < 2 ^ 64)
    (few : totalLayers < 2 ^ 64) :
    (hostShares total totalLayers before counts).sum +
        total * before / totalLayers =
      total * (before + counts.sum) / totalLayers := by
  induction counts generalizing before with
  | nil => simp [hostShares]
  | cons count rest ih =>
    simp only [List.sum_cons] at reaches
    have afterEq : u64 (before + count) = before + count :=
      u64_of_lt (by omega)
    have productSmall :
        ∀ layers, layers ≤ totalLayers → total * layers < 2 ^ 64 := by
      intro layers bounded
      have grows := Nat.mul_le_mul_left total bounded
      omega
    have quotientSmall :
        total * (before + count) / totalLayers ≤ total := by
      have grows :
          total * (before + count) ≤ total * totalLayers :=
        Nat.mul_le_mul_left total (by omega)
      calc
        total * (before + count) / totalLayers
            ≤ total * totalLayers / totalLayers :=
          Nat.div_le_div_right grows
        _ = total := Nat.mul_div_cancel total positive
    have totalSmall : total < 2 ^ 64 := by
      have grows := Nat.le_mul_of_pos_right total positive
      omega
    have ordered :
        total * before / totalLayers ≤
          total * (before + count) / totalLayers :=
      Nat.div_le_div_right (Nat.mul_le_mul_left total (by omega))
    have share :
        u64 (total * (before + count) / totalLayers + 2 ^ 64 -
            total * before / totalLayers) =
          total * (before + count) / totalLayers -
            total * before / totalLayers :=
      u64_sub (by omega) ordered
    have later := ih (before + count) (by omega)
    simp only [hostShares, afterEq, List.sum_cons,
      u64_of_lt (productSmall (before + count) (by omega)),
      u64_of_lt (productSmall before (by omega)), share]
    rw [Nat.add_assoc before count rest.sum] at later
    omega

variable {counts : List Nat}
variable {regionSlots base : Nat}

/-- The lanes never exceed what is split among them. -/
theorem splitHostBudget_sum_le
    {total : Nat}
    (small : total < 2 ^ 32)
    (few : counts.sum < 2 ^ 32) :
    (splitHostBudget total counts).sum ≤ total := by
  unfold splitHostBudget
  have layersEq : u64 counts.sum = counts.sum := u64_of_lt (by omega)
  simp only [layersEq]
  split
  · simp
  next someLayers =>
    have positive : 0 < counts.sum := Nat.pos_of_ne_zero someLayers
    have product : total * counts.sum < 2 ^ 64 := by
      calc
        total * counts.sum < 2 ^ 32 * 2 ^ 32 :=
          Nat.mul_lt_mul'' small few
        _ = 2 ^ 64 := (Nat.pow_add 2 32 32).symm
    have telescoped :=
      hostShares_sum 0 counts positive (by omega) product (by omega)
    rw [Nat.mul_zero, Nat.zero_div, Nat.zero_add,
      Nat.mul_div_cancel total positive] at telescoped
    omega

theorem layLanes_bounds
    {lanes : List Nat}
    (fits : base + lanes.sum < 2 ^ 32) :
    ∀ lane ∈ layLanes regionSlots base lanes,
      lane.regionSlots = regionSlots ∧ base ≤ lane.laneBaseSlots ∧
        lane.laneBaseSlots + lane.laneSlots ≤ base + lanes.sum := by
  induction lanes generalizing base with
  | nil => simp [layLanes]
  | cons first rest ih =>
    simp only [List.sum_cons] at fits ⊢
    have firstEq : u32 first = first := u32_of_lt (by omega)
    have baseEq : u32 (base + first) = base + first := u32_of_lt (by omega)
    intro lane present
    simp only [layLanes, firstEq, baseEq, List.mem_cons] at present
    rcases present with rfl | later
    · refine ⟨rfl, Nat.le_refl base, ?_⟩
      simp only
      omega
    · have bounds := ih (by omega) lane later
      omega

/-- Lanes of later stages start where earlier ones end, or after. -/
theorem layLanes_ordered
    {lanes : List Nat}
    (fits : base + lanes.sum < 2 ^ 32) :
    (layLanes regionSlots base lanes).Pairwise fun lane later =>
      lane.laneBaseSlots + lane.laneSlots ≤ later.laneBaseSlots := by
  induction lanes generalizing base with
  | nil => exact List.Pairwise.nil
  | cons first rest ih =>
    simp only [List.sum_cons] at fits
    have firstEq : u32 first = first := u32_of_lt (by omega)
    have baseEq : u32 (base + first) = base + first := u32_of_lt (by omega)
    simp only [layLanes, firstEq, baseEq]
    apply List.Pairwise.cons
    · intro later present
      exact (layLanes_bounds (by omega) later present).2.1
    · exact ih (by omega)

theorem layLanes_length
    (lanes : List Nat) :
    (layLanes regionSlots base lanes).length = lanes.length := by
  induction lanes generalizing base with
  | nil => rfl
  | cons first rest ih =>
    simp only [layLanes, List.length_cons, ih]

theorem hostShares_length
    {total totalLayers before : Nat}
    (counts : List Nat) :
    (hostShares total totalLayers before counts).length = counts.length := by
  induction counts generalizing before with
  | nil => rfl
  | cons count rest ih =>
    simp only [hostShares, List.length_cons, ih]

theorem planSharedHostRegion_length
    (cfg : RuntimeConfig)
    (format : ExpertFormat)
    (expertsPerToken : Nat)
    (counts : List Nat) :
    (planSharedHostRegion cfg format expertsPerToken counts).length =
      counts.length := by
  simp only [planSharedHostRegion, layLanes_length, splitHostBudget]
  split
  · exact List.length_map _
  · exact hostShares_length counts

/-- A Warm budget is never larger than the region less decode's corridor. -/
theorem laneTotal_small
    (cfg : RuntimeConfig)
    (format : ExpertFormat)
    (expertsPerToken stages : Nat) :
    laneTotal cfg format expertsPerToken stages < 2 ^ 32 ∧
      (laneTotal cfg format expertsPerToken stages = 0 ∨
        laneTotal cfg format expertsPerToken stages +
            (stagingSlotCounts cfg format.expertsPerLayer
              expertsPerToken).decode ≤
          plannedRegionSlots cfg format expertsPerToken stages) := by
  unfold laneTotal
  split
  next enabled =>
    have regionSmall :
        plannedRegionSlots cfg format expertsPerToken stages < 2 ^ 32 := by
      simp only [plannedRegionSlots]
      rw [if_neg (by omega)]
      exact Nat.mod_lt _ (by omega)
    omega
  · omega

theorem planSharedHostRegion_bounds
    {expertsPerToken : Nat}
    (few : counts.sum < 2 ^ 32)
    {lane : SharedHostRegion}
    (planned :
      lane ∈ planSharedHostRegion cfg format expertsPerToken counts) :
    lane.regionSlots =
        plannedRegionSlots cfg format expertsPerToken counts.length ∧
      lane.laneBaseSlots + lane.laneSlots ≤
        laneTotal cfg format expertsPerToken counts.length := by
  have small :=
    (laneTotal_small cfg format expertsPerToken counts.length).1
  have within := splitHostBudget_sum_le small few
  obtain ⟨sameRegion, _, inside⟩ :=
    layLanes_bounds (by omega) lane planned
  exact ⟨sameRegion, by omega⟩

/-- Lanes of different stages do not overlap. -/
theorem planSharedHostRegion_ordered
    {expertsPerToken : Nat}
    (few : counts.sum < 2 ^ 32) :
    (planSharedHostRegion cfg format expertsPerToken counts).Pairwise
      fun lane later =>
        lane.laneBaseSlots + lane.laneSlots ≤ later.laneBaseSlots := by
  have small :=
    (laneTotal_small cfg format expertsPerToken counts.length).1
  have within := splitHostBudget_sum_le small few
  exact layLanes_ordered (by omega)

end Aeon.Memory
