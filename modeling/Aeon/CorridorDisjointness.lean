import Mathlib.Order.Interval.Set.Disjoint
import Aeon.HostPartition
import Aeon.LabelledRun
import Aeon.LoadedRegistry
import Mathlib.Order.CompletePartialOrder

namespace Aeon.Memory

open Registry

/-!
# Warm lanes and the corridor

Whether the region slots the stages' registries may own as Warm and the slots
their staging arenas write are disjoint, at load and after every window call of
every stage of a pipeline.
-/

/-! ## Registry calls and the usable capacity -/

section Usable

open ExpertRegistry

variable {registry after : ExpertRegistry}

theorem shrinkHostCapacity_usable
    {usable : Nat}
    (shrinks : usable < registry.hostCapacityUsable)
    (returned : registry.shrinkHostCapacity usable = .returned () after) :
    after.hostCapacityUsable = usable := by
  unfold shrinkHostCapacity at returned
  split at returned
  · omega
  · split at returned
    · contradiction
    · obtain ⟨_, rfl⟩ := checkedValidate_returned _ returned
      rfl

theorem growHostCapacity_usable
    {usable : Nat}
    (grows : registry.hostCapacityUsable < usable)
    (returned : registry.growHostCapacity usable = .returned () after) :
    after.hostCapacityUsable = usable := by
  unfold growHostCapacity at returned
  split at returned
  · omega
  · split at returned
    · contradiction
    · split at returned
      · contradiction
      · obtain ⟨_, rfl⟩ := checkedValidate_returned _ returned
        rfl

end Usable

/-! ## Boundary moves -/

namespace StageTier

variable {tier after : StageTier}

/-- A boundary that has moved down has cut the usable slots and nothing else. -/
theorem shrinkRegistry_returned
    {warmSlots : Nat}
    {shrunk : ExpertRegistry}
    (returned : tier.shrinkRegistry warmSlots = .ok shrunk) :
    shrunk.hostCapacityUsable =
        min warmSlots tier.registry.hostCapacityUsable ∧
      shrunk.settings = tier.registry.settings := by
  unfold shrinkRegistry at returned
  split at returned
  next shrinks =>
    split at returned
    · contradiction
    next drained tail =>
      split at returned
      · contradiction
      next result shrank =>
        obtain rfl := Except.ok.inj returned
        have same := releaseHostTail_usable tail
        have cut := shrinkHostCapacity_usable (by omega) shrank
        have drainedFrame :
            Frame _ _ _ (tier.registry.releaseHostTail warmSlots).registry :=
          (Frame.refl 0 tier.registry).releaseHostTail
        rw [tail, Outcome.registry] at drainedFrame
        have frame : Frame _ _ _ (drained.shrinkHostCapacity warmSlots).registry :=
          drainedFrame.shrinkHostCapacity
        rw [shrank] at frame
        exact ⟨by omega, frame.settings⟩
  · obtain rfl := Except.ok.inj returned
    exact ⟨by omega, rfl⟩

/-- And one that has moved up has raised them. -/
theorem growRegistry_returned
    {warmSlots : Nat}
    {registry grown : ExpertRegistry}
    (returned : growRegistry registry warmSlots = .ok grown) :
    grown.hostCapacityUsable =
        max warmSlots registry.hostCapacityUsable ∧
      grown.settings = registry.settings := by
  unfold growRegistry at returned
  split at returned
  next grows =>
    split at returned
    · contradiction
    next result grew =>
      obtain rfl := Except.ok.inj returned
      have raised := growHostCapacity_usable grows grew
      have frame : Frame _ _ _ (registry.growHostCapacity warmSlots).registry :=
        (Frame.refl 0 registry).growHostCapacity
      rw [grew] at frame
      exact ⟨by omega, frame.settings⟩
  · obtain rfl := Except.ok.inj returned
    exact ⟨by omega, rfl⟩

/-- What a boundary move that returns has done. -/
theorem apply_cases
    {warmSlots stagingSlots stagingInUse outstandingLeases : Nat}
    (returned :
      tier.apply warmSlots stagingSlots stagingInUse outstandingLeases =
        .ok after) :
    after = tier ∧
        (tier.partition.active = true →
          warmSlots = tier.partition.currentWarmSlots ∧
            stagingSlots = tier.stagingSlots) ∨
      tier.partition.active = true ∧
        after.registry.hostCapacityUsable = warmSlots ∧
        after.stagingSlots = stagingSlots ∧
        after.partition =
          { tier.partition with currentWarmSlots := warmSlots } ∧
        after.sweepEnabled = tier.sweepEnabled := by
  unfold apply at returned
  split at returned
  next inactive =>
    obtain rfl := Except.ok.inj returned
    refine Or.inl ⟨rfl, ?_⟩
    intro isActive
    simp [isActive] at inactive
  next isActive =>
    split at returned
    next current =>
      obtain rfl := Except.ok.inj returned
      exact Or.inl ⟨rfl, fun _ => current⟩
    · split at returned
      · contradiction
      · split at returned
        · contradiction
        · split at returned
          · contradiction
          next shrunk shrank =>
            split at returned
            · contradiction
            next grown grew =>
              split at returned
              · contradiction
              · obtain rfl := Except.ok.inj returned
                obtain ⟨lowered, lowerSizes⟩ := shrinkRegistry_returned shrank
                obtain ⟨raised, raiseSizes⟩ := growRegistry_returned grew
                have sizes := raiseSizes.trans lowerSizes
                have experts :=
                  congrArg (fun settings => settings.1.2.1) sizes
                have slots :=
                  congrArg (fun settings => settings.1.2.2.2.1) sizes
                simp only [ExpertRegistry.settings] at experts slots
                refine Or.inr ⟨by simpa using isActive, ?_, rfl, rfl, ?_⟩
                · simp only
                  omega
                · simp only [sweepEnabled, experts, slots]

end StageTier

/-! ## A balanced stage -/

/-- The pairs of Warm and corridor sizes that the phases cut. -/
def StageTier.Cut
    (initial : StageTier)
    (warmSlots stagingSlots : Nat) : Prop :=
  (warmSlots = initial.partition.warmSlotsDecode ∧
      stagingSlots = initial.partition.stagingDecodeSlots) ∨
    (warmSlots = initial.partition.warmSlotsRouted ∧
      stagingSlots = initial.partition.stagingBatchSlots) ∨
    (initial.sweepEnabled = true ∧
      warmSlots = initial.partition.warmSlotsPrefill ∧
      stagingSlots = initial.partition.stagingPrefillSlots)

/--
The registry, the arena and the partition agree on one of the phases' cuts of the
stage as it was loaded.
-/
structure Balanced (initial tier : StageTier) : Prop where
  shape :
    tier.partition =
      { initial.partition with
        currentWarmSlots := tier.partition.currentWarmSlots }
  enabled : tier.sweepEnabled = initial.sweepEnabled
  usable : tier.registry.hostCapacityUsable = tier.partition.currentWarmSlots
  cut :
    initial.partition.active = true →
      initial.Cut tier.partition.currentWarmSlots tier.stagingSlots
  unmoved :
    initial.partition.active = false →
      tier.partition.currentWarmSlots = initial.partition.currentWarmSlots

section

variable
    {initial tier after : StageTier}

/-- Applying a cut leaves a stage balanced, -/
theorem apply_balanced
    {warmSlots stagingSlots stagingInUse outstandingLeases : Nat}
    (balanced : Balanced initial tier)
    (toCut : initial.Cut warmSlots stagingSlots)
    (returned :
      tier.apply warmSlots stagingSlots stagingInUse outstandingLeases =
        .ok after) :
    Balanced initial after := by
  rcases StageTier.apply_cases returned with
    ⟨rfl, _⟩ | ⟨isActive, usableEq, stagingEq, partitionEq, enabledEq⟩
  · exact balanced
  · constructor
    · rw [partitionEq, balanced.shape]
    · rw [enabledEq, balanced.enabled]
    · rw [usableEq, partitionEq]
    · intro _
      rw [stagingEq, partitionEq]
      exact toCut
    · intro notActive
      rw [balanced.shape, notActive] at isActive
      contradiction

/-- and so does opening a window, -/
theorem openWindow_balanced
    {windowTokens stagingInUse outstandingLeases : Nat}
    (balanced : Balanced initial tier)
    (returned :
      tier.openWindow windowTokens stagingInUse outstandingLeases =
        .ok after) :
    Balanced initial after := by
  have entered :
      ∀ swept, Balanced initial { tier with sweepActive := swept } := by
    intro swept
    exact ⟨balanced.shape, balanced.enabled, balanced.usable, balanced.cut,
      balanced.unmoved⟩
  unfold StageTier.openWindow at returned
  simp only at returned
  split at returned
  · apply apply_balanced (entered _) _ returned
    rw [balanced.shape]
    unfold StageTier.Cut
    split
    next swept =>
      rw [Bool.and_eq_true, balanced.enabled] at swept
      exact Or.inr (Or.inr ⟨swept.1, rfl, rfl⟩)
    · exact Or.inr (Or.inl ⟨rfl, rfl⟩)
  · obtain rfl := Except.ok.inj returned
    exact entered _

/-- and closing it. -/
theorem closeWindow_balanced
    {stagingInUse outstandingLeases : Nat}
    (balanced : Balanced initial tier)
    (returned :
      tier.closeWindow stagingInUse outstandingLeases = .ok after) :
    Balanced initial after := by
  unfold StageTier.closeWindow at returned
  split at returned
  · apply apply_balanced balanced _ returned
    rw [balanced.shape]
    exact Or.inl ⟨rfl, rfl⟩
  · obtain rfl := Except.ok.inj returned
    exact balanced

end

/-! ## A deployment -/

/--
One model on one machine: the knobs, the artifact's format, and per stage the
device and the attention-state cost.  The stages partition the model's layers,
which are counted in a `uint32_t`.
-/
structure Deployment where
  cfg : RuntimeConfig
  format : ExpertFormat
  expertsPerTok : Int
  maxPositionEmbeddings : Int
  prefillCarryBytesPerToken : Nat
  stageLayerCounts : List Nat
  attentionStateMemory : Nat → Nat → Option Nat
  denseWeightsBytes : Nat → Nat
  machine : Nat → MachineMemory
  layersFit : stageLayerCounts.sum < 2 ^ 32

namespace Deployment

variable (deployment : Deployment)

/-- The number of stages. -/
def stages : Nat :=
  deployment.stageLayerCounts.length

/-- The layers of one stage. -/
def stageLayers (stage : Nat) : Nat :=
  deployment.stageLayerCounts.getD stage 0

/-- The corridor sizes of the three phases. -/
def staging : StagingSlotCounts :=
  stagingSlotCounts deployment.cfg deployment.format.expertsPerLayer
    (u32OfInt deployment.expertsPerTok)

/-- The lanes of the one region. -/
def plan : List SharedHostRegion :=
  planSharedHostRegion deployment.cfg deployment.format
    (u32OfInt deployment.expertsPerTok) deployment.stageLayerCounts

/-- `make_v4_memory_geometry` for one stage's layers. -/
def geometry (stage : Nat) : ModelMemoryGeometry where
  numHiddenLayers := deployment.stageLayers stage
  routedExperts := deployment.format.expertsPerLayer
  expertsPerTok := deployment.expertsPerTok
  maxPositionEmbeddings := deployment.maxPositionEmbeddings
  prefillCarryBytesPerToken := deployment.prefillCarryBytesPerToken
  attentionStateMemory := deployment.attentionStateMemory stage

/-- `evaluate` accepts every stage, with these reports. -/
def Accepts (reports : Nat → MemoryBudgetReport) : Prop :=
  ∀ stage region, deployment.plan[stage]? = some region →
    evaluate deployment.cfg (deployment.geometry stage)
      (deployment.denseWeightsBytes stage)
      { deployment.format with
        numLayers := deployment.stageLayers stage }
      (deployment.machine stage) region = .ok (reports stage)

/-- Every stage's tier has been initialized over the one region. -/
def Loads
    (reports : Nat → MemoryBudgetReport)
    (tiers : Nat → StageTier) : Prop :=
  ∀ stage < deployment.stages,
    initializeTier deployment.cfg (reports stage)
      (deployment.stageLayers stage) deployment.format.expertsPerLayer
      (u32OfInt deployment.expertsPerTok)
      (some (reports 0).hostRegionSlots) = .ok (tiers stage)

end Deployment

/-- A call on one stage, or what its registry does between such calls. -/
inductive WindowCall where
  | openWindow
      (stage windowTokens stagingInUse outstandingLeases : Nat)
  | closeWindow (stage stagingInUse outstandingLeases : Nat)
  | serve (stage : Nat)
  deriving Repr, DecidableEq

/--
A call that returns.  Only a boundary move changes the usable capacity, and only
the load the layer width and the Hot slots.
-/
def WindowStep
    (tiers : Nat → StageTier)
    (call : WindowCall)
    (after : Nat → StageTier) : Prop :=
  match call with
  | .openWindow stage windowTokens stagingInUse leases =>
    ∃ tier,
      (tiers stage).openWindow windowTokens stagingInUse leases =
          .ok tier ∧
        after = Function.update tiers stage tier
  | .closeWindow stage stagingInUse leases =>
    ∃ tier,
      (tiers stage).closeWindow stagingInUse leases = .ok tier ∧
        after = Function.update tiers stage tier
  | .serve stage =>
    ∃ registry : ExpertRegistry,
      registry.hostCapacityUsable =
          (tiers stage).registry.hostCapacityUsable ∧
        registry.expertsPerLayer =
          (tiers stage).registry.expertsPerLayer ∧
        registry.vramCapacity = (tiers stage).registry.vramCapacity ∧
        after =
          Function.update tiers stage
            { tiers stage with registry := registry }

/-- The region slots that a stage's registry may own as Warm. -/
def StageTier.lane (tier : StageTier) : Set Nat :=
  Set.Ico tier.partition.laneBase tier.laneEnd

/-- The region slots of a stage's staging corridor. -/
def StageTier.corridor (tier : StageTier) : Set Nat :=
  Set.Ico tier.corridorBase tier.partition.regionSlots

/--
No staging read of a stage can land in a slot that the Warm of any stage may own,
and no two stages' Warm share a slot.
-/
structure CorridorDisjoint
    (stages : Nat)
    (tiers : Nat → StageTier) : Prop where
  apart :
    ∀ stage < stages, (tiers stage).partition.active = true →
      (tiers stage).laneEnd ≤ (tiers stage).partition.regionSlots ∧
        (tiers stage).stagingSlots ≤ (tiers stage).partition.regionSlots ∧
          Disjoint (tiers stage).lane (tiers stage).corridor
  /-- Without a region the arena has memory of its own, and there is no Warm. -/
  unshared :
    ∀ stage < stages, (tiers stage).partition.active = false →
      (tiers stage).registry.hostCapacityUsable = 0
  lanes :
    ∀ stage < stages, ∀ other < stages, stage ≠ other →
      Disjoint (tiers stage).lane (tiers other).lane
  others :
    ∀ stage < stages, ∀ other < stages, stage ≠ other →
      (tiers other).partition.active = true →
        Disjoint (tiers stage).lane (tiers other).corridor

/-- The lane the registry is loaded with ends before a corridor of so many slots. -/
def LaneClear
    (stagingSlots : Nat)
    (report : MemoryBudgetReport) : Prop :=
  report.warmHostSlots = 0 ∨
    report.hostLaneBaseSlots + report.warmHostSlots + stagingSlots ≤
      report.hostRegionSlots

/-- `PrefillController::enabled`, from the knobs and the stage's report. -/
def canSweep
    (cfg : RuntimeConfig)
    (expertsPerLayer : Nat)
    (report : MemoryBudgetReport) : Bool :=
  cfg.prefillSweep && decide (expertsPerLayer ≤ report.hotVramSlots)

/-- The largest corridor a window of a stage opens. -/
def openedStaging
    (cfg : RuntimeConfig)
    (expertsPerLayer : Nat)
    (staging : StagingSlotCounts)
    (report : MemoryBudgetReport) : Nat :=
  if canSweep cfg expertsPerLayer report then staging.prefill
  else staging.batch

/-- `openedStaging` of a deployment's stage with this report. -/
def Deployment.opened
    (deployment : Deployment)
    (report : MemoryBudgetReport) : Nat :=
  openedStaging deployment.cfg deployment.format.expertsPerLayer
    deployment.staging report

/-! ## The load -/

/-- What a loaded stage starts from. -/
structure Loaded
    (cfg : RuntimeConfig)
    (report : MemoryBudgetReport)
    (expertsPerLayer : Nat)
    (staging : StagingSlotCounts)
    (tier : StageTier) : Prop where
  fresh : Fresh tier.registry
  consistent : Consistent [] tier.registry
  enabled : tier.sweepEnabled = canSweep cfg expertsPerLayer report
  usable : tier.registry.hostCapacityUsable = report.warmHostSlots
  shared :
    0 < report.hostRegionSlots →
      staging.peak ≤ report.hostRegionSlots ∧
        tier.partition =
          HostPartition.configure true staging cfg.prefillSweep
            report.hostRegionSlots report.hostLaneBaseSlots
            report.warmHostSlots ∧
        tier.stagingSlots = tier.partition.stagingDecodeSlots ∧
        tier.stagingSlots ≠ 0
  unshared :
    report.hostRegionSlots = 0 →
      tier.partition = HostPartition.configure false staging false 0 0 0

variable {cfg : RuntimeConfig}
variable {report : MemoryBudgetReport}
variable {expertsPerLayer : Nat}
variable {staging : StagingSlotCounts}
variable {stage other : Nat}

/-- What an initialised stage holds. -/
theorem initializeTier_loaded
    {numLayers expertsPerToken : Nat}
    {hostRegion : Option Nat}
    {tier : StageTier}
    (initialized :
      initializeTier cfg report numLayers expertsPerLayer expertsPerToken
        hostRegion = .ok tier) :
    Loaded cfg report expertsPerLayer
      (stagingSlotCounts cfg expertsPerLayer expertsPerToken) tier := by
  unfold initializeTier at initialized
  simp only at initialized
  split at initialized
  · contradiction
  next partition stagingSlots partitioned =>
    split at initialized
    · contradiction
    next registry built =>
      obtain rfl := Except.ok.inj initialized
      obtain ⟨fresh, usable, experts, slots⟩ := init_loaded built
      refine ⟨fresh, init_consistent built, ?_, usable, ?_, ?_⟩
      · simp only [StageTier.sweepEnabled, canSweep, experts, slots]
      · intro isShared
        unfold initializePartition at partitioned
        rw [if_pos isShared] at partitioned
        split at partitioned
        · contradiction
        · split at partitioned
          · contradiction
          next fits =>
            simp only at partitioned
            split at partitioned
            · contradiction
            next slotted =>
              obtain ⟨rfl, rfl⟩ := Prod.mk.inj (Except.ok.inj partitioned)
              exact ⟨Nat.le_of_not_lt fits, rfl, rfl, slotted⟩
      · intro notShared
        unfold initializePartition at partitioned
        rw [if_neg (by omega)] at partitioned
        split at partitioned
        · contradiction
        · obtain ⟨rfl, rfl⟩ := Prod.mk.inj (Except.ok.inj partitioned)
          rfl

/-- With a region the partition is a live one. -/
theorem Loaded.active
    {tier : StageTier}
    (loaded : Loaded cfg report expertsPerLayer staging tier)
    (shared : 0 < report.hostRegionSlots) :
    tier.partition.active = true := by
  rw [(loaded.shared shared).2.1]
  rfl

/-- The corridor a stage rests with between windows. -/
def restingStaging
    (cfg : RuntimeConfig)
    (staging : StagingSlotCounts) : Nat :=
  if cfg.prefillSweep then staging.decode else staging.batch

/-- The registry and the partition start out agreed exactly when the lane fits. -/
theorem Loaded.balanced
    {tier : StageTier}
    (loaded : Loaded cfg report expertsPerLayer staging tier)
    (noRegion : report.hostRegionSlots = 0 → report.warmHostSlots = 0)
    (clear :
      report.warmHostSlots = 0 ∨
        report.hostLaneBaseSlots + report.warmHostSlots +
            restingStaging cfg staging ≤
          report.hostRegionSlots) :
    Balanced tier tier := by
  refine ⟨rfl, rfl, ?_, ?_, fun _ => rfl⟩
  · rw [loaded.usable]
    rcases Nat.eq_zero_or_pos report.hostRegionSlots with none | some
    · rw [loaded.unshared none, noRegion none]
      rfl
    · rw [(loaded.shared some).2.1]
      cases sweeps : cfg.prefillSweep <;>
        simp [HostPartition.configure, warmFor, restingStaging, sweeps]
          at clear ⊢ <;>
        omega
  · intro isActive
    rcases Nat.eq_zero_or_pos report.hostRegionSlots with none | some
    · rw [loaded.unshared none] at isActive
      contradiction
    · refine Or.inl ⟨?_, (loaded.shared some).2.2.1⟩
      rw [(loaded.shared some).2.1]
      rfl

/-! ## One stage -/

/-- In a balanced stage the lane ends before the corridor. -/
theorem Balanced.apart
    {initial tier : StageTier}
    (balanced : Balanced initial tier)
    (isLoaded : Loaded cfg report expertsPerLayer staging initial)
    (shared : 0 < report.hostRegionSlots)
    (ordered :
      staging.decode ≤ staging.batch ∧ staging.batch ≤ staging.prefill ∧
        staging.prefill = staging.peak)
    (inside : report.hostLaneBaseSlots ≤ report.hostRegionSlots) :
    tier.laneEnd ≤ tier.partition.regionSlots ∧
      tier.stagingSlots ≤ tier.partition.regionSlots ∧
        Disjoint tier.lane tier.corridor := by
  obtain ⟨fits, partitionEq, _⟩ := isLoaded.shared shared
  have isActive := isLoaded.active shared
  have baseEq : tier.partition.laneBase = report.hostLaneBaseSlots := by
    rw [balanced.shape, partitionEq]
    rfl
  have regionEq : tier.partition.regionSlots = report.hostRegionSlots := by
    rw [balanced.shape, partitionEq]
    rfl
  have sized :
      tier.stagingSlots ≤ staging.peak ∧
        tier.partition.currentWarmSlots =
          warmFor report.hostRegionSlots report.hostLaneBaseSlots
            report.warmHostSlots tier.stagingSlots := by
    have cut := balanced.cut isActive
    unfold StageTier.Cut at cut
    rw [partitionEq] at cut
    rcases cut with ⟨warmEq, stagingEq⟩ | ⟨warmEq, stagingEq⟩ |
      ⟨_, warmEq, stagingEq⟩
    · rw [stagingEq, warmEq]
      refine ⟨?_, rfl⟩
      simp only [HostPartition.configure]
      split <;> omega
    · rw [stagingEq, warmEq]
      refine ⟨?_, rfl⟩
      simp only [HostPartition.configure]
      omega
    · rw [stagingEq, warmEq]
      refine ⟨?_, rfl⟩
      simp only [HostPartition.configure]
      omega
  obtain ⟨stagingSmall, warmEq⟩ := sized
  have usableEq := balanced.usable
  unfold warmFor at warmEq
  unfold StageTier.lane StageTier.corridor StageTier.laneEnd
    StageTier.corridorBase
  rw [baseEq, regionEq, Set.Ico_disjoint_Ico]
  omega

/-- No cut is wider than the corridor a window can open. -/
theorem Balanced.staging_le
    {initial tier : StageTier}
    (balanced : Balanced initial tier)
    (isLoaded : Loaded cfg report expertsPerLayer staging initial)
    (shared : 0 < report.hostRegionSlots)
    (ordered : staging.decode ≤ staging.batch ∧ staging.batch ≤ staging.prefill) :
    tier.partition.regionSlots = report.hostRegionSlots ∧
      tier.stagingSlots ≤ openedStaging cfg expertsPerLayer staging report := by
  obtain ⟨_, partitionEq, _⟩ := isLoaded.shared shared
  have isActive := isLoaded.active shared
  have batchOpens :
      staging.batch ≤ openedStaging cfg expertsPerLayer staging report := by
    unfold openedStaging
    split <;> omega
  refine ⟨by rw [balanced.shape, partitionEq]; rfl, ?_⟩
  have cut := balanced.cut isActive
  unfold StageTier.Cut at cut
  rw [partitionEq] at cut
  rcases cut with ⟨_, stagingEq⟩ | ⟨_, stagingEq⟩ | ⟨swept, _, stagingEq⟩
  · rw [stagingEq]
    simp only [HostPartition.configure]
    split <;> omega
  · rw [stagingEq]
    exact batchOpens
  · rw [isLoaded.enabled] at swept
    rw [stagingEq, openedStaging, if_pos swept]
    rfl

section

variable
    {tier : StageTier}
    (isLoaded : Loaded cfg report expertsPerLayer staging tier)
    (shared : 0 < report.hostRegionSlots)

include isLoaded shared

/-- A loaded stage makes every cut that the region holds. -/
theorem Loaded.apply_returns
    {warmSlots stagingSlots : Nat}
    (warmEq :
      warmSlots =
        warmFor report.hostRegionSlots report.hostLaneBaseSlots
          report.warmHostSlots stagingSlots)
    (slotted : 0 < stagingSlots)
    (fits : stagingSlots ≤ report.hostRegionSlots) :
    ∃ after, tier.apply warmSlots stagingSlots 0 0 = .ok after := by
  obtain ⟨_, partitionEq, _⟩ := isLoaded.shared shared
  have usableEq := isLoaded.usable
  unfold warmFor at warmEq
  have clear :
      ¬ (tier.partition.regionSlots < stagingSlots ∨
        (0 < warmSlots ∧
          tier.partition.regionSlots - stagingSlots <
            u32 (tier.partition.laneBase + warmSlots))) := by
    have wrapped := Nat.mod_le (tier.partition.laneBase + warmSlots) (2 ^ 32)
    unfold u32
    rw [partitionEq] at wrapped ⊢
    simp only [HostPartition.configure] at wrapped ⊢
    omega
  obtain ⟨shrunk, shrinks⟩ :
      ∃ shrunk, tier.shrinkRegistry warmSlots = .ok shrunk := by
    unfold StageTier.shrinkRegistry
    split
    next below =>
      obtain ⟨_, drained, shrunk, tail, cut⟩ :=
        isLoaded.fresh.shrinks isLoaded.consistent below
      exact ⟨shrunk, by simp only [tail, cut]⟩
    · exact ⟨_, rfl⟩
  have kept := (StageTier.shrinkRegistry_returned shrinks).1
  have grows : StageTier.growRegistry shrunk warmSlots = .ok shrunk := by
    unfold StageTier.growRegistry
    rw [if_neg (by omega)]
  have isActive := isLoaded.active shared
  unfold StageTier.apply
  rw [if_neg (by simp [isActive])]
  by_cases current :
      warmSlots = tier.partition.currentWarmSlots ∧
        stagingSlots = tier.stagingSlots
  · rw [if_pos current]
    exact ⟨_, rfl⟩
  · rw [if_neg current, if_neg (by simp), if_neg clear]
    simp only [shrinks, grows]
    rw [if_neg (by omega)]
    exact ⟨_, rfl⟩

/-- The first window of a loaded stage opens its largest corridor. -/
theorem Loaded.opens
    (ordered :
      staging.decode ≤ staging.batch ∧ staging.batch ≤ staging.prefill ∧
        staging.prefill = staging.peak) :
    ∃ after,
      tier.openWindow tier.minTokens 0 0 = .ok after ∧
        after.partition.active = true ∧
        after.partition.regionSlots = report.hostRegionSlots ∧
        after.stagingSlots =
          openedStaging cfg expertsPerLayer staging report := by
  obtain ⟨fits, partitionEq, stagingEq, slotted⟩ := isLoaded.shared shared
  have positive : 0 < staging.batch := by
    rw [stagingEq, partitionEq] at slotted
    simp only [HostPartition.configure] at slotted
    split at slotted <;> omega
  have entered :
      Loaded cfg report expertsPerLayer staging
        { tier with sweepActive := tier.sweepEnabled } :=
    ⟨isLoaded.fresh, isLoaded.consistent, isLoaded.enabled, isLoaded.usable,
      isLoaded.shared, isLoaded.unshared⟩
  have isActive := isLoaded.active shared
  obtain ⟨after, applied⟩ :=
    @Loaded.apply_returns _ _ _ _ _ entered shared _
      (openedStaging cfg expertsPerLayer staging report) rfl
      (by unfold openedStaging; split <;> omega)
      (by unfold openedStaging; split <;> omega)
  refine ⟨after, ?_, ?_⟩
  · unfold StageTier.openWindow
    simp only [isActive, Nat.le_refl, decide_true, Bool.and_true, if_true]
    rw [← applied]
    congr 1
    · rw [isLoaded.enabled, partitionEq, openedStaging]
      split <;> rfl
    · rw [isLoaded.enabled, partitionEq, openedStaging]
      split <;> rfl
  · rcases StageTier.apply_cases applied with
      ⟨rfl, current⟩ | ⟨_, _, stagingIs, partitionIs, _⟩
    · exact ⟨isActive, by simp only [partitionEq]; rfl,
        (current isActive).2.symm⟩
    · rw [partitionIs, partitionEq]
      exact ⟨rfl, rfl, stagingIs⟩

end

/-! ## Every stage -/

variable
    {deployment : Deployment}
    {reports : Nat → MemoryBudgetReport}
    {loaded : Nat → StageTier}

/-- What the plan and the gate fix for one stage. -/
structure Planned
    (deployment : Deployment)
    (report : MemoryBudgetReport) : Prop where
  noRegion : report.hostRegionSlots = 0 → report.warmHostSlots = 0
  inside :
    report.hostLaneBaseSlots + report.warmHostSlots ≤
      report.hostRegionSlots
  decodeClear :
    report.warmHostSlots = 0 ∨
      report.hostLaneBaseSlots + report.warmHostSlots +
          deployment.staging.decode ≤
        report.hostRegionSlots

theorem Deployment.plan_get
    (deployment : Deployment)
    (inside : stage < deployment.stages) :
    ∃ region, deployment.plan[stage]? = some region := by
  have length : deployment.plan.length = deployment.stages :=
    planSharedHostRegion_length _ _ _ _
  exact ⟨_, List.getElem?_eq_getElem (by omega)⟩

section

variable
    (accepts : deployment.Accepts reports)

include accepts

theorem Deployment.Accepts.accepted
    {region : SharedHostRegion}
    (planned : deployment.plan[stage]? = some region) :
    (reports stage).hostRegionSlots = region.regionSlots ∧
      (reports stage).hostLaneBaseSlots = region.laneBaseSlots ∧
      (reports stage).warmHostSlots ≤ region.laneSlots := by
  have accepted := evaluate_accepted (accepts stage region planned)
  refine ⟨accepted.regionSlots, accepted.laneBase, ?_⟩
  rw [accepted.warmSlots]
  exact Nat.min_le_right _ _

/-- The stages report one region. -/
theorem Deployment.Accepts.regions_eq
    (inside : stage < deployment.stages)
    (otherInside : other < deployment.stages) :
    (reports stage).hostRegionSlots = (reports other).hostRegionSlots := by
  obtain ⟨region, planned⟩ := deployment.plan_get inside
  obtain ⟨otherRegion, otherPlanned⟩ := deployment.plan_get otherInside
  rw [(accepts.accepted planned).1, (accepts.accepted otherPlanned).1,
    (planSharedHostRegion_bounds deployment.layersFit
      (List.mem_of_getElem? planned)).1,
    (planSharedHostRegion_bounds deployment.layersFit
      (List.mem_of_getElem? otherPlanned)).1]

/-- The plan leaves decode's corridor free behind every lane. -/
theorem Deployment.Accepts.planned
    (inside : stage < deployment.stages) :
    Planned deployment (reports stage) := by
  obtain ⟨region, planned⟩ := deployment.plan_get inside
  obtain ⟨regionEq, baseEq, warmLe⟩ := accepts.accepted planned
  obtain ⟨sameRegion, laneLe⟩ :=
    planSharedHostRegion_bounds deployment.layersFit
      (List.mem_of_getElem? planned)
  obtain ⟨_, total⟩ :=
    laneTotal_small deployment.cfg deployment.format
      (u32OfInt deployment.expertsPerTok)
      deployment.stageLayerCounts.length
  have decodeEq : deployment.staging.decode =
      (stagingSlotCounts deployment.cfg deployment.format.expertsPerLayer
        (u32OfInt deployment.expertsPerTok)).decode := rfl
  rw [← decodeEq, ← sameRegion] at total
  constructor <;> omega

theorem Deployment.Accepts.lanes_ordered
    {stage other : Nat}
    (ordered : stage < other)
    (inside : other < deployment.stages) :
    (reports stage).hostLaneBaseSlots + (reports stage).warmHostSlots ≤
      (reports other).hostLaneBaseSlots := by
  obtain ⟨region, planned⟩ :=
    deployment.plan_get (Nat.lt_trans ordered inside)
  obtain ⟨later, plannedLater⟩ := deployment.plan_get inside
  obtain ⟨_, baseEq, warmLe⟩ := accepts.accepted planned
  obtain ⟨_, laterBaseEq, _⟩ := accepts.accepted plannedLater
  have apart :
      deployment.plan.Pairwise fun lane later =>
        lane.laneBaseSlots + lane.laneSlots ≤ later.laneBaseSlots :=
    planSharedHostRegion_ordered deployment.layersFit
  rw [List.pairwise_iff_getElem] at apart
  obtain ⟨stageBound, regionIs⟩ := List.getElem?_eq_some_iff.mp planned
  obtain ⟨otherBound, laterIs⟩ := List.getElem?_eq_some_iff.mp plannedLater
  have before := apart stage other stageBound otherBound ordered
  rw [regionIs, laterIs] at before
  omega

end

/-- All stages are balanced against the partitions they were loaded with. -/
def AllBalanced
    (stages : Nat)
    (loaded tiers : Nat → StageTier) : Prop :=
  ∀ stage < stages, Balanced (loaded stage) (tiers stage)

/-- Every call leaves every stage balanced. -/
theorem windowStep_balanced
    {stages : Nat}
    {tiers after : Nat → StageTier}
    {call : WindowCall}
    (balanced : AllBalanced stages loaded tiers)
    (step : WindowStep tiers call after) :
    AllBalanced stages loaded after := by
  have updated :
      ∀ stage tier,
        (stage < stages → Balanced (loaded stage) tier) →
          AllBalanced stages loaded (Function.update tiers stage tier) := by
    intro stage tier here other inside
    by_cases same : other = stage
    · subst same
      rw [Function.update_self]
      exact here inside
    · rw [Function.update_of_ne same]
      exact balanced other inside
  cases call with
  | openWindow stage windowTokens stagingInUse leases =>
    obtain ⟨tier, returned, rfl⟩ := step
    apply updated
    intro inside
    exact openWindow_balanced (balanced stage inside) returned
  | closeWindow stage stagingInUse leases =>
    obtain ⟨tier, returned, rfl⟩ := step
    apply updated
    intro inside
    exact closeWindow_balanced (balanced stage inside) returned
  | serve stage =>
    obtain ⟨registry, sameUsable, sameExperts, sameSlots, rfl⟩ := step
    apply updated
    intro inside
    have here := balanced stage inside
    refine ⟨here.shape, ?_, sameUsable.trans here.usable, here.cut,
      here.unmoved⟩
    rw [← here.enabled]
    simp only [StageTier.sweepEnabled, sameExperts, sameSlots]

section

variable
    {initial tier : StageTier}
    (balanced : Balanced initial tier)
    (isLoaded : Loaded cfg report expertsPerLayer staging initial)

include balanced isLoaded

theorem Balanced.usable_le
    (shared : 0 < report.hostRegionSlots) :
    tier.partition.laneBase = report.hostLaneBaseSlots ∧
      tier.registry.hostCapacityUsable ≤ report.warmHostSlots := by
  obtain ⟨_, partitionEq, _⟩ := isLoaded.shared shared
  have isActive := isLoaded.active shared
  have cut := balanced.cut isActive
  unfold StageTier.Cut at cut
  rw [partitionEq] at cut
  constructor
  · rw [balanced.shape, partitionEq]
    rfl
  · rw [balanced.usable]
    rcases cut with ⟨warmEq, _⟩ | ⟨warmEq, _⟩ | ⟨_, warmEq, _⟩ <;>
      rw [warmEq] <;>
      exact Nat.min_le_right _ _

theorem Balanced.usable_unshared
    (notShared : report.hostRegionSlots = 0) :
    tier.registry.hostCapacityUsable = 0 := by
  have partitionEq := isLoaded.unshared notShared
  have notActive : initial.partition.active = false := by
    rw [partitionEq]
    rfl
  rw [balanced.usable, balanced.unmoved notActive, partitionEq]
  rfl

end

theorem StageTier.lane_eq_empty
    {tier : StageTier}
    (noWarm : tier.registry.hostCapacityUsable = 0) :
    tier.lane = ∅ := by
  unfold StageTier.lane StageTier.laneEnd
  rw [noWarm]
  exact Set.Ico_self _

section

variable
    {tiers : Nat → StageTier}

/-- No two stages share a Warm slot. -/
theorem AllBalanced.lanes_disjoint
    {stage other : Nat}
    (balanced : AllBalanced deployment.stages loaded tiers)
    (accepts : deployment.Accepts reports)
    (loads : deployment.Loads reports loaded)
    (ordered : stage < other)
    (otherInside : other < deployment.stages) :
    Disjoint (tiers stage).lane (tiers other).lane := by
  have inside := Nat.lt_trans ordered otherInside
  have firstLoad := initializeTier_loaded (loads stage inside)
  have secondLoad := initializeTier_loaded (loads other otherInside)
  have first := balanced stage inside
  have second := balanced other otherInside
  rcases Nat.eq_zero_or_pos (reports stage).hostRegionSlots with
    none | firstShared
  · rw [StageTier.lane_eq_empty (first.usable_unshared firstLoad none)]
    exact Set.empty_disjoint _
  · rcases Nat.eq_zero_or_pos (reports other).hostRegionSlots with
      none | secondShared
    · rw [StageTier.lane_eq_empty (second.usable_unshared secondLoad none)]
      exact Set.disjoint_empty _
    · obtain ⟨firstBase, firstUsable⟩ :=
        first.usable_le firstLoad firstShared
      obtain ⟨secondBase, _⟩ := second.usable_le secondLoad secondShared
      have apart := accepts.lanes_ordered ordered otherInside
      unfold StageTier.lane StageTier.laneEnd
      rw [Set.Ico_disjoint_Ico]
      omega

theorem AllBalanced.corridorDisjoint
    (balanced : AllBalanced deployment.stages loaded tiers)
    (accepts : deployment.Accepts reports)
    (loads : deployment.Loads reports loaded)
    (clear :
      ∀ stage < deployment.stages, ∀ other < deployment.stages,
        stage ≠ other →
          LaneClear (deployment.opened (reports other)) (reports stage)) :
    CorridorDisjoint deployment.stages tiers := by
  constructor
  case apart =>
    intro stage inside isActive
    have isLoaded := initializeTier_loaded (loads stage inside)
    have here := balanced stage inside
    rcases Nat.eq_zero_or_pos (reports stage).hostRegionSlots with
      none | shared
    · rw [here.shape, isLoaded.unshared none] at isActive
      contradiction
    · have bounded := (accepts.planned inside).inside
      exact here.apart isLoaded shared (stagingSlotCounts_le _ _ _)
        (by omega)
  case unshared =>
    intro stage inside notActive
    have isLoaded := initializeTier_loaded (loads stage inside)
    have here := balanced stage inside
    rcases Nat.eq_zero_or_pos (reports stage).hostRegionSlots with
      none | shared
    · exact here.usable_unshared isLoaded none
    · obtain ⟨_, partitionEq, _⟩ := isLoaded.shared shared
      rw [here.shape, partitionEq] at notActive
      contradiction
  case lanes =>
    intro stage inside other otherInside different
    rcases Nat.lt_or_gt_of_ne different with before | after
    · exact balanced.lanes_disjoint accepts loads before otherInside
    · exact (balanced.lanes_disjoint accepts loads after inside).symm
  case others =>
    intro stage inside other otherInside different isActive
    have isLoaded := initializeTier_loaded (loads other otherInside)
    have there := balanced other otherInside
    rcases Nat.eq_zero_or_pos (reports other).hostRegionSlots with
      none | shared
    · rw [there.shape, isLoaded.unshared none] at isActive
      contradiction
    · have sameRegion := accepts.regions_eq inside otherInside
      obtain ⟨regionEq, stagingLe⟩ :=
        there.staging_le isLoaded shared
          ⟨(stagingSlotCounts_le _ _ _).1, (stagingSlotCounts_le _ _ _).2.1⟩
      obtain ⟨baseEq, usableLe⟩ :=
        (balanced stage inside).usable_le
          (initializeTier_loaded (loads stage inside)) (by omega)
      have laneClear := clear stage inside other otherInside different
      unfold LaneClear Deployment.opened Deployment.staging at laneClear
      unfold StageTier.lane StageTier.corridor StageTier.laneEnd
        StageTier.corridorBase
      rw [baseEq, regionEq, Set.Ico_disjoint_Ico]
      omega

end

section

variable
    (accepts : deployment.Accepts reports)
    (loads : deployment.Loads reports loaded)

include accepts loads

/-- With the sweep off the load itself needs the own lane clear. -/
theorem CorridorDisjoint.laneClear
    (disjoint : CorridorDisjoint deployment.stages loaded)
    (unswept : deployment.cfg.prefillSweep = false)
    (inside : stage < deployment.stages) :
    LaneClear deployment.staging.batch (reports stage) := by
  have isLoaded := initializeTier_loaded (loads stage inside)
  have planned := accepts.planned inside
  have bounded := planned.inside
  rcases Nat.eq_zero_or_pos (reports stage).hostRegionSlots with
    none | shared
  · exact Or.inl (planned.noRegion none)
  · obtain ⟨fits, partitionEq, stagingEq, _⟩ := isLoaded.shared shared
    have isActive := isLoaded.active shared
    obtain ⟨_, stagingLe, apart⟩ := disjoint.apart stage inside isActive
    have batchEq :
        (loaded stage).stagingSlots = deployment.staging.batch := by
      rw [stagingEq, partitionEq, unswept]
      rfl
    unfold StageTier.lane StageTier.corridor StageTier.laneEnd
      StageTier.corridorBase at apart
    rw [Set.Ico_disjoint_Ico, isLoaded.usable, batchEq, partitionEq] at apart
    rw [batchEq, partitionEq] at stagingLe
    simp only [HostPartition.configure] at apart stagingLe
    unfold LaneClear
    omega

/-- One stage's first window already needs the other lanes clear of it. -/
theorem laneClear_of_runs
    (always :
      ∀ calls tiers, Run WindowStep loaded calls tiers →
        CorridorDisjoint deployment.stages tiers)
    (inside : stage < deployment.stages)
    (otherInside : other < deployment.stages)
    (different : stage ≠ other) :
    LaneClear (deployment.opened (reports other)) (reports stage) := by
  have planned := accepts.planned inside
  have bounded := planned.inside
  have sameRegion := accepts.regions_eq inside otherInside
  rcases Nat.eq_zero_or_pos (reports stage).hostRegionSlots with
    none | shared
  · exact Or.inl (planned.noRegion none)
  · have isLoaded := initializeTier_loaded (loads stage inside)
    obtain ⟨_, partitionEq, _⟩ := isLoaded.shared shared
    have otherLoaded := initializeTier_loaded (loads other otherInside)
    obtain ⟨fits, _⟩ := otherLoaded.shared (by omega)
    have ordered := stagingSlotCounts_le deployment.cfg
      deployment.format.expertsPerLayer (u32OfInt deployment.expertsPerTok)
    obtain ⟨tier, opens, isActive, regionEq, stagingEq⟩ :=
      otherLoaded.opens (by omega) ordered
    have opened :
        WindowStep loaded (.openWindow other (loaded other).minTokens 0 0)
          (Function.update loaded other tier) :=
      ⟨tier, opens, rfl⟩
    have apart :=
      (always _ _ (Run.single opened)).others stage inside other otherInside
        different
    rw [Function.update_self, Function.update_of_ne different] at apart
    have clear := apart isActive
    have openedLe :
        openedStaging deployment.cfg deployment.format.expertsPerLayer
            (stagingSlotCounts deployment.cfg
              deployment.format.expertsPerLayer
              (u32OfInt deployment.expertsPerTok)) (reports other) ≤
          (reports other).hostRegionSlots := by
      unfold openedStaging
      split <;> omega
    unfold StageTier.lane StageTier.corridor StageTier.laneEnd
      StageTier.corridorBase at clear
    rw [Set.Ico_disjoint_Ico, isLoaded.usable, stagingEq, regionEq,
      partitionEq] at clear
    simp only [HostPartition.configure] at clear
    unfold LaneClear Deployment.opened Deployment.staging
    omega

end

/--
No staging read can land in a Warm lane, at load and over every sequence of window
calls, exactly when two things hold.  A stage's own lane is clear when the sweep is
on or the lane ends before the chunked corridor: with the sweep off the partition
rests at the chunked cut, but the registry and the Warm pool are loaded with the
lane that was planned against decode's smaller one, and no later call corrects it.
Another stage's lane is clear when it ends before the widest corridor this stage can
open: every controller cuts the shared region for itself.
-/
theorem corridorDisjoint_iff_lanesClear
    (accepts : deployment.Accepts reports)
    (loads : deployment.Loads reports loaded) :
    (∀ calls tiers, Run WindowStep loaded calls tiers →
        CorridorDisjoint deployment.stages tiers) ↔
      (deployment.cfg.prefillSweep = true ∨
          ∀ stage < deployment.stages,
            LaneClear deployment.staging.batch (reports stage)) ∧
        ∀ stage < deployment.stages, ∀ other < deployment.stages,
          stage ≠ other →
            LaneClear (deployment.opened (reports other)) (reports stage) := by
  constructor
  · intro always
    refine ⟨?_, fun stage inside other otherInside different =>
      laneClear_of_runs accepts loads always inside otherInside different⟩
    cases sweeps : deployment.cfg.prefillSweep with
    | true => exact Or.inl rfl
    | false =>
      refine Or.inr ?_
      intro stage inside
      exact CorridorDisjoint.laneClear accepts loads
        (always [] loaded (.nil loaded)) sweeps inside
  · rintro ⟨own, others⟩ calls tiers run
    have initially : AllBalanced deployment.stages loaded loaded := by
      intro stage inside
      have planned := accepts.planned inside
      apply (initializeTier_loaded (loads stage inside)).balanced
        planned.noRegion
      unfold restingStaging
      rcases own with sweeps | clear
      · rw [if_pos sweeps]
        exact planned.decodeClear
      · have laneClear := clear stage inside
        unfold LaneClear at laneClear
        have ordered :=
          stagingSlotCounts_le deployment.cfg
            deployment.format.expertsPerLayer
            (u32OfInt deployment.expertsPerTok)
        have decodeClear := planned.decodeClear
        unfold Deployment.staging at laneClear decodeClear
        split <;> omega
    have balanced :=
      run.invariant (AllBalanced deployment.stages loaded)
        windowStep_balanced initially
    exact balanced.corridorDisjoint accepts loads others

/--
Two layers of eight experts on one device, two experts a token, the sweep off,
and a host budget of so many slots: decode's corridor has four slots and the
chunked one eight.
-/
def unsweptDeployment (hostSlots : Nat) : Deployment where
  cfg :=
    { warmHostBytes := hostSlots * 4096
      maxHotVramSlots := 6
      prefillSweep := false }
  format := { numLayers := 2, expertsPerLayer := 8, payloadBytes := 4096 }
  expertsPerTok := 2
  maxPositionEmbeddings := 4096
  prefillCarryBytesPerToken := 0
  stageLayerCounts := [2]
  attentionStateMemory := fun _ _ => some 0
  denseWeightsBytes := fun _ => 0
  machine := fun _ =>
    { usableVramBytes := 2 ^ 25
      freeVramBytes := 2 ^ 25
      hostRamBytes := some (2 ^ 34) }
  layersFit := by decide

/-- The reports of the small deployment's one stage. -/
def unsweptReport
    (hostSlots warmSlots : Nat) : MemoryBudgetReport :=
  { hotVramSlots := 6
    hostRegionSlots := hostSlots
    hostLaneBaseSlots := 0
    warmHostSlots := warmSlots }

theorem accepts_of_single
    (region : SharedHostRegion)
    (single : deployment.plan = [region])
    (accepted :
      evaluate deployment.cfg (deployment.geometry 0)
        (deployment.denseWeightsBytes 0)
        { deployment.format with
          numLayers := deployment.stageLayers 0 }
        (deployment.machine 0) region = .ok (reports 0)) :
    deployment.Accepts reports := by
  intro stage planned found
  rw [single] at found
  cases stage with
  | zero =>
    obtain rfl := Option.some.inj found
    exact accepted
  | succ later => simp at found

theorem loads_of_single
    {tier : StageTier}
    (single : deployment.stages = 1)
    (initialized :
      initializeTier deployment.cfg (reports 0)
        (deployment.stageLayers 0) deployment.format.expertsPerLayer
        (u32OfInt deployment.expertsPerTok)
        (some (reports 0).hostRegionSlots) = .ok tier) :
    deployment.Loads reports fun _ => tier := by
  intro stage inside
  obtain rfl : stage = 0 := by omega
  exact initialized

/-- The same layers on two devices, with forty slots between them. -/
def roomyDeployment : Deployment :=
  { unsweptDeployment 40 with
    stageLayerCounts := [1, 1]
    layersFit := by decide }

/-- The reports of the two stages. -/
def roomyReport (stage : Nat) : MemoryBudgetReport :=
  { unsweptReport 40 2 with hostLaneBaseSlots := 18 * stage }

/-- With room for every lane and the corridor, the sweep off is harmless. -/
theorem roomy_unswept_corridorDisjoint :
    ∃ loaded,
      roomyDeployment.Accepts roomyReport ∧
        roomyDeployment.Loads roomyReport loaded ∧
        ∀ calls tiers, Run WindowStep loaded calls tiers →
          CorridorDisjoint roomyDeployment.stages tiers := by
  have accepts : roomyDeployment.Accepts roomyReport := by
    intro stage region found
    have planned :
        roomyDeployment.plan = [⟨40, 0, 18⟩, ⟨40, 18, 18⟩] := by
      decide
    rw [planned] at found
    rcases stage with _ | _ | later
    · obtain rfl := Option.some.inj found
      decide +kernel
    · obtain rfl := Option.some.inj found
      decide +kernel
    · simp at found
  obtain ⟨first, firstLoads⟩ :
      ∃ tier,
        initializeTier roomyDeployment.cfg (roomyReport 0) 1 8 2 (some 40) =
          .ok tier :=
    ⟨_, rfl⟩
  obtain ⟨second, secondLoads⟩ :
      ∃ tier,
        initializeTier roomyDeployment.cfg (roomyReport 1) 1 8 2 (some 40) =
          .ok tier :=
    ⟨_, rfl⟩
  have loads :
      roomyDeployment.Loads roomyReport
        fun stage => if stage = 0 then first else second := by
    intro stage inside
    obtain rfl | rfl : stage = 0 ∨ stage = 1 := by
      have two : roomyDeployment.stages = 2 := rfl
      omega
    · exact firstLoads
    · exact secondLoads
  refine ⟨_, accepts, loads, ?_⟩
  apply (corridorDisjoint_iff_lanesClear accepts loads).mpr
  unfold LaneClear
  exact ⟨Or.inr (by decide), by decide⟩

/-- With twelve slots the loaded lane and the chunked corridor share four. -/
theorem unswept_lane_overlaps_corridor :
    ∃ loaded,
      (unsweptDeployment 12).Accepts (fun _ => unsweptReport 12 8) ∧
        (unsweptDeployment 12).Loads (fun _ => unsweptReport 12 8) loaded ∧
        ¬ ∀ calls tiers, Run WindowStep loaded calls tiers →
          CorridorDisjoint (unsweptDeployment 12).stages tiers := by
  have accepts :
      (unsweptDeployment 12).Accepts (fun _ => unsweptReport 12 8) :=
    accepts_of_single ⟨12, 0, 8⟩ (by decide) (by decide +kernel)
  obtain ⟨tier, initialized⟩ :
      ∃ tier,
        initializeTier (unsweptDeployment 12).cfg (unsweptReport 12 8) 2 8 2
          (some 12) = .ok tier :=
    ⟨_, rfl⟩
  have loads :
      (unsweptDeployment 12).Loads (fun _ => unsweptReport 12 8)
        fun _ => tier :=
    loads_of_single rfl initialized
  refine ⟨fun _ => tier, accepts, loads, ?_⟩
  intro always
  have disjoint := always [] _ (.nil _)
  have inside : 0 < (unsweptDeployment 12).stages := by decide
  have clear := disjoint.laneClear accepts loads rfl inside
  revert clear
  unfold LaneClear
  decide

end Aeon.Memory
