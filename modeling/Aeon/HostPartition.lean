import Aeon.HostBudget
import Aeon.WarmPartition

namespace Aeon.Memory

open Registry

/-!
# The Warm/staging partition of one stage

`HostPartition`, the load that builds a stage's tier over the shared region, and
the two window calls of the prefill controller that move the boundary.
-/

/-- `HostPartition`'s own numbers. -/
structure HostPartition where
  active : Bool
  regionSlots : Nat
  laneBase : Nat
  laneSlots : Nat
  stagingDecodeSlots : Nat
  stagingBatchSlots : Nat
  stagingPrefillSlots : Nat
  warmSlotsDecode : Nat
  warmSlotsRouted : Nat
  warmSlotsPrefill : Nat
  currentWarmSlots : Nat
  deriving Repr, DecidableEq

/-- `warm_for`: what the corridor leaves of the lane. -/
def warmFor
    (regionSlots laneBase laneSlots stagingSlots : Nat) : Nat :=
  min (regionSlots - stagingSlots - laneBase) laneSlots

/-- `HostPartition::configure`. -/
def HostPartition.configure
    (active : Bool)
    (staging : StagingSlotCounts)
    (phaseCuts : Bool)
    (regionSlots laneBase laneSlots : Nat) : HostPartition :=
  let stagingDecode :=
    if active && !phaseCuts then staging.batch else staging.decode
  let warm := fun stagingSlots =>
    if active then warmFor regionSlots laneBase laneSlots stagingSlots else 0
  { active := active
    regionSlots := regionSlots
    laneBase := laneBase
    laneSlots := laneSlots
    stagingDecodeSlots := stagingDecode
    stagingBatchSlots := staging.batch
    stagingPrefillSlots := staging.prefill
    warmSlotsDecode := warm stagingDecode
    warmSlotsRouted := warm staging.batch
    warmSlotsPrefill := warm staging.prefill
    currentWarmSlots := warm stagingDecode }

/-- The parts of a stage's tier that hold, or move, the boundary. -/
structure StageTier where
  partition : HostPartition
  registry : ExpertRegistry
  /-- The arena's `slot_count`: the corridor is the region's last so many slots. -/
  stagingSlots : Nat
  /-- The Warm pool's `num_slots`. -/
  hostPoolSlots : Nat
  sweepRequested : Bool
  minTokens : Nat
  sweepActive : Bool

/-- The exceptions of the load and of a boundary move. -/
inductive TierError where
  | invalidArgument (message : String)
  | runtimeError (message : String)
  | logicError (message : String)
  | registry (error : RegistryError)
  deriving Repr, DecidableEq

namespace StageTier

variable (tier : StageTier)

/-- The region slots the registry may own as Warm. -/
def laneEnd : Nat :=
  tier.partition.laneBase + tier.registry.hostCapacityUsable

/-- The first region slot of the corridor. -/
def corridorBase : Nat :=
  tier.partition.regionSlots - tier.stagingSlots

/-- The text of a move refused because something is live. -/
def liveMessage
    (stagingInUse outstandingLeases : Nat) : String :=
  "HostPartition: cannot move the host partition with a transfer or lease " ++
    "live (staging_in_use=" ++ toString stagingInUse ++ " of " ++
    toString tier.stagingSlots ++ ", leases=" ++
    toString outstandingLeases ++ ")"

/-- The registry after the boundary has moved down to `warmSlots`. -/
def shrinkRegistry
    (warmSlots : Nat) : Except TierError ExpertRegistry :=
  if warmSlots < tier.registry.hostCapacityUsable then
    match tier.registry.releaseHostTail warmSlots with
    | .threw error _ => .error (.registry error)
    | .returned _ drained =>
      match drained.shrinkHostCapacity warmSlots with
      | .threw error _ => .error (.registry error)
      | .returned _ shrunk => .ok shrunk
  else
    .ok tier.registry

/-- The registry after the boundary has moved up to `warmSlots`. -/
def growRegistry
    (registry : ExpertRegistry)
    (warmSlots : Nat) : Except TierError ExpertRegistry :=
  if registry.hostCapacityUsable < warmSlots then
    match registry.growHostCapacity warmSlots with
    | .threw error _ => .error (.registry error)
    | .returned _ grown => .ok grown
  else
    .ok registry

/--
`HostPartition::apply`.  The slots in use and the outstanding leases are what the
caller finds after it has drained the streams and reaped the registry.
-/
def apply
    (warmSlots stagingSlots stagingInUse outstandingLeases : Nat) :
    Except TierError StageTier :=
  if !tier.partition.active then
    .ok tier
  else if warmSlots = tier.partition.currentWarmSlots ∧
      stagingSlots = tier.stagingSlots then
    .ok tier
  else if stagingInUse ≠ 0 ∨ outstandingLeases ≠ 0 then
    .error (.logicError (tier.liveMessage stagingInUse outstandingLeases))
  else if tier.partition.regionSlots < stagingSlots ∨
      (0 < warmSlots ∧
        tier.partition.regionSlots - stagingSlots <
          u32 (tier.partition.laneBase + warmSlots)) then
    .error (.logicError
      "HostPartition: the Warm lane and the corridor overlap in the region")
  else
    match tier.shrinkRegistry warmSlots with
    | .error error => .error error
    | .ok shrunk =>
      match growRegistry shrunk warmSlots with
      | .error error => .error error
      | .ok grown =>
        if stagingSlots = 0 then
          .error (.invalidArgument
            "PrefetchStagingArena: cannot bind zero slots")
        else
          .ok
            { tier with
              registry := grown
              hostPoolSlots := warmSlots
              stagingSlots := stagingSlots
              partition :=
                { tier.partition with currentWarmSlots := warmSlots } }

/-- `PrefillController::enabled`. -/
def sweepEnabled : Bool :=
  tier.sweepRequested &&
    decide (tier.registry.expertsPerLayer ≤ tier.registry.vramCapacity)

/-- `PrefillController::open_window`. -/
def openWindow
    (windowTokens stagingInUse outstandingLeases : Nat) :
    Except TierError StageTier :=
  let swept := tier.sweepEnabled && decide (tier.minTokens ≤ windowTokens)
  let entered := { tier with sweepActive := swept }
  if tier.partition.active then
    entered.apply
      (if swept then tier.partition.warmSlotsPrefill
        else tier.partition.warmSlotsRouted)
      (if swept then tier.partition.stagingPrefillSlots
        else tier.partition.stagingBatchSlots)
      stagingInUse outstandingLeases
  else
    .ok entered

/-- `PrefillController::close_window`. -/
def closeWindow
    (stagingInUse outstandingLeases : Nat) : Except TierError StageTier :=
  if tier.partition.active then
    tier.apply tier.partition.warmSlotsDecode
      tier.partition.stagingDecodeSlots stagingInUse outstandingLeases
  else
    .ok tier

end StageTier

/-- The gate `initialize_experts` resolves when none is configured. -/
def resolvedMinTokens
    (cfg : RuntimeConfig)
    (expertsPerLayer : Nat) : Nat :=
  if 0 < cfg.prefillSweepMinTokens then cfg.prefillSweepMinTokens
  else max 1 (u32 (expertsPerLayer * 3) / 4)

/-- The corridor and partition part of `ExpertTierState::initialize`. -/
def initializePartition
    (cfg : RuntimeConfig)
    (report : MemoryBudgetReport)
    (staging : StagingSlotCounts)
    (hostRegion : Option Nat) : Except TierError (HostPartition × Nat) :=
  if 0 < report.hostRegionSlots then
    if hostRegion ≠ some report.hostRegionSlots then
      .error (.invalidArgument
        ("ExpertTierState: the budget plans a shared host region of " ++
          toString report.hostRegionSlots ++
          " slots but none of that size was provided"))
    else if report.hostRegionSlots < staging.peak then
      .error (.runtimeError
        ("ExpertTierState: the host region (" ++
          toString report.hostRegionSlots ++
          " slots) cannot hold the corridor's largest requirement (" ++
          toString staging.peak ++ " slots, a swept prefill)"))
    else
      let partition :=
        HostPartition.configure true staging cfg.prefillSweep
          report.hostRegionSlots report.hostLaneBaseSlots
          report.warmHostSlots
      if partition.stagingDecodeSlots = 0 then
        .error (.invalidArgument
          "PrefetchStagingArena: cannot bind zero slots")
      else
        .ok (partition, partition.stagingDecodeSlots)
  else if staging.peak = 0 then
    .error (.invalidArgument
      "PrefetchStagingArena: an explicit, non-zero slot count is required")
  else
    .ok (HostPartition.configure false staging false 0 0 0, staging.peak)

/-- `ExpertTierState::initialize` and the controller's configuration. -/
def initializeTier
    (cfg : RuntimeConfig)
    (report : MemoryBudgetReport)
    (numLayers expertsPerLayer expertsPerToken : Nat)
    (hostRegion : Option Nat) : Except TierError StageTier :=
  let staging := stagingSlotCounts cfg expertsPerLayer expertsPerToken
  match initializePartition cfg report staging hostRegion with
  | .error error => .error error
  | .ok (partition, stagingSlots) =>
    match ExpertRegistry.unbuilt.init numLayers expertsPerLayer
        report.hotVramSlots report.warmHostSlots cfg.preloadWarmHost with
    | .threw error _ => .error (.registry error)
    | .returned _ registry =>
      .ok
        { partition := partition
          registry := registry
          stagingSlots := stagingSlots
          hostPoolSlots := report.warmHostSlots
          sweepRequested := cfg.prefillSweep
          minTokens := resolvedMinTokens cfg expertsPerLayer
          sweepActive := false }

end Aeon.Memory
