import Aeon.HostBudget
import Mathlib.Data.Rat.Floor

namespace Aeon.Memory

/-!
# A feasible budget as a partition

The report of `evaluate` also splits the experts among the three tiers and the
device's allowance among their bytes.  `HostBudget` has the parts that the load
reads; here are the others, in the order in which `evaluate` fills them.  The
split is sound exactly when the device's allowance, once the dense weights, the
attention state and the scratch are taken from it, holds no more experts than the
model has.
-/

/-- `DeviceMemoryInfo`, less the device's index. -/
structure DeviceMemoryInfo where
  freeBytes : Nat
  totalBytes : Nat
  deriving Repr, DecidableEq

/-- The allowance `floor(gpu_memory_utilization * total)`, in exact arithmetic. -/
def usableVram
    (gpuMemoryUtilization : ℚ)
    (memory : DeviceMemoryInfo) : Nat :=
  ⌊gpuMemoryUtilization * memory.totalBytes⌋.toNat

/-- The machine that `evaluate` sees: a device, its allowance and the host. -/
def machineOf
    (gpuMemoryUtilization : ℚ)
    (memory : DeviceMemoryInfo)
    (hostRamBytes : Option Nat) : MachineMemory where
  usableVramBytes := usableVram gpuMemoryUtilization memory
  freeVramBytes := memory.freeBytes
  hostRamBytes := hostRamBytes

/-- The rest of the feasible report: what each tier gets, and out of what. -/
structure TierReport extends MemoryBudgetReport where
  freeVramBytes : Nat
  usableVramBytes : Nat
  maxAllowedHostRamBytes : Nat
  vramDenseBytes : Nat
  vramKvBytes : Nat
  vramScratchBytes : Nat
  hotVramBytes : Nat
  hostRegionBytes : Nat
  coldNvmeSlots : Nat
  deriving Repr, DecidableEq

/-- The fields that `evaluate` fills on its way to a feasible report. -/
def tierReport
    (cfg : RuntimeConfig)
    (geometry : ModelMemoryGeometry)
    (denseWeightsBytes : Nat)
    (format : ExpertFormat)
    (machine : MachineMemory)
    (report : MemoryBudgetReport) : TierReport :=
  { report with
    freeVramBytes := machine.freeVramBytes
    usableVramBytes := machine.usableVramBytes
    maxAllowedHostRamBytes :=
      maxAllowedHostRamBytes (machine.hostRamBytes.getD 0)
    vramDenseBytes := denseWeightsBytes
    vramKvBytes := (geometry.attentionStateMemory cfg.contextSize).getD 0
    vramScratchBytes := vramScratchBytes cfg geometry
    hotVramBytes := u64 (report.hotVramSlots * format.payloadBytes)
    hostRegionBytes := u64 (report.hostRegionSlots * format.payloadBytes)
    -- `uint32_t` arithmetic: neither the sum nor the difference is checked.
    coldNvmeSlots :=
      u32 (u32 format.totalExperts + 2 ^ 32 -
        u32 (report.hotVramSlots + report.warmHostSlots)) }

/-- `evaluate`, with the whole of its feasible report. -/
def evaluateTiers
    (cfg : RuntimeConfig)
    (geometry : ModelMemoryGeometry)
    (denseWeightsBytes : Nat)
    (format : ExpertFormat)
    (machine : MachineMemory)
    (region : SharedHostRegion) : Except Rejection TierReport :=
  match evaluate cfg geometry denseWeightsBytes format machine region with
  | .error rejection => .error rejection
  | .ok report =>
    .ok (tierReport cfg geometry denseWeightsBytes format machine report)

/-- The three tiers partition the experts, and every share fits where it goes. -/
structure SoundPartition
    (format : ExpertFormat)
    (region : SharedHostRegion)
    (report : TierReport) : Prop where
  tiers :
    report.hotVramSlots + report.warmHostSlots + report.coldNvmeSlots =
      format.totalExperts
  hotWithin : report.hotVramSlots ≤ format.totalExperts
  vramWithin :
    report.vramDenseBytes + report.vramKvBytes + report.vramScratchBytes +
        report.hotVramBytes ≤ report.usableVramBytes
  usableWithin : report.usableVramBytes ≤ report.freeVramBytes
  warmWithin : report.warmHostSlots ≤ region.laneSlots
  hostWithin : report.hostRegionBytes ≤ report.maxAllowedHostRamBytes

/-- The device bytes that are spoken for before the Hot pool, in full. -/
def committedVramBytes
    (cfg : RuntimeConfig)
    (geometry : ModelMemoryGeometry)
    (denseWeightsBytes : Nat) : Nat :=
  denseWeightsBytes + (geometry.attentionStateMemory cfg.contextSize).getD 0 +
    vramScratchBytes cfg geometry

/--
The committed bytes fit the allowance, and what is left of it holds at most the
model's experts, unless the diagnostic cap stops the pool at that.
-/
def LeavesAtMostTheModel
    (cfg : RuntimeConfig)
    (geometry : ModelMemoryGeometry)
    (denseWeightsBytes : Nat)
    (format : ExpertFormat)
    (usableVramBytes : Nat) : Prop :=
  committedVramBytes cfg geometry denseWeightsBytes ≤ usableVramBytes ∧
    (u32 ((usableVramBytes -
          committedVramBytes cfg geometry denseWeightsBytes) /
        format.payloadBytes) ≤ format.totalExperts ∨
      (0 < cfg.maxHotVramSlots ∧
        max cfg.maxHotVramSlots 6 ≤ format.totalExperts))

/-! ## What acceptance says of the inputs -/

variable
    {cfg : RuntimeConfig}
    {geometry : ModelMemoryGeometry}
    {denseWeightsBytes : Nat}
    {format : ExpertFormat}
    {machine : MachineMemory}
    {region : SharedHostRegion}
    {report : MemoryBudgetReport}

/-- The gates that an accepted configuration has passed. -/
structure Gates
    (cfg : RuntimeConfig)
    (geometry : ModelMemoryGeometry)
    (denseWeightsBytes : Nat)
    (format : ExpertFormat)
    (machine : MachineMemory)
    (region : SharedHostRegion)
    (report : MemoryBudgetReport) : Prop where
  payloadPositive : 0 < format.payloadBytes
  fewExperts : format.totalExperts < 2 ^ 32
  allowed : machine.usableVramBytes ≤ machine.freeVramBytes
  hotSlots :
    report.hotVramSlots =
      hotVramSlotsFor cfg format
        (u64 (machine.usableVramBytes + 2 ^ 64 -
          u64 (committedVramBytes cfg geometry denseWeightsBytes)))
  hostFits :
    u64 (region.regionSlots * format.payloadBytes) ≤
      maxAllowedHostRamBytes (machine.hostRamBytes.getD 0)

theorem validCatalog_payload
    (valid : format.validCatalog = true) :
    0 < format.payloadBytes := by
  by_contra zero
  have none : format.payloadBytes = 0 := by omega
  simp [ExpertFormat.validCatalog, none] at valid

theorem evaluateHost_gates
    {hostRamBytes hotVramSlots : Nat}
    (accepted :
      evaluateHost cfg geometry format hostRamBytes hotVramSlots region =
        .ok report) :
    report.hotVramSlots = hotVramSlots ∧
      u64 (region.regionSlots * format.payloadBytes) ≤
        maxAllowedHostRamBytes hostRamBytes := by
  simp only [evaluateHost] at accepted
  split at accepted
  · contradiction
  next fits =>
    split at accepted
    · contradiction
    · obtain rfl := Except.ok.inj accepted
      exact ⟨rfl, Nat.le_of_not_lt fits⟩

theorem evaluate_gates
    (accepted :
      evaluate cfg geometry denseWeightsBytes format machine region =
        .ok report) :
    Gates cfg geometry denseWeightsBytes format machine region report := by
  simp only [evaluate] at accepted
  split at accepted
  · contradiction
  next valid =>
    split at accepted
    · contradiction
    · split at accepted
      · contradiction
      next inRange =>
        split at accepted
        · contradiction
        next allowed =>
          split at accepted
          · contradiction
          next hostRam host =>
            split at accepted
            · contradiction
            · split at accepted
              · contradiction
              · split at accepted
                · contradiction
                next kvBytes attention =>
                  split at accepted
                  · contradiction
                  · obtain ⟨hot, fits⟩ := evaluateHost_gates accepted
                    refine ⟨validCatalog_payload (by simpa using valid),
                      by omega, by omega, ?_, ?_⟩
                    · rw [hot, committedVramBytes, attention]
                      rfl
                    · rw [host]
                      exact fits

/-! ## The Hot pool and its bytes -/

/-- A pool never takes more bytes than it was sized from. -/
theorem hotVramSlotsFor_bytes
    (cfg : RuntimeConfig)
    (format : ExpertFormat)
    (remaining : Nat) :
    hotVramSlotsFor cfg format remaining * format.payloadBytes ≤ remaining := by
  have fewer :
      hotVramSlotsFor cfg format remaining ≤
        remaining / format.payloadBytes := by
    have truncated : u32 (remaining / format.payloadBytes) ≤
        remaining / format.payloadBytes := Nat.mod_le _ _
    simp only [hotVramSlotsFor]
    split <;> omega
  calc
    hotVramSlotsFor cfg format remaining * format.payloadBytes
        ≤ remaining / format.payloadBytes * format.payloadBytes :=
      Nat.mul_le_mul_right _ fewer
    _ ≤ remaining := Nat.div_mul_le_self _ _

/-- When the pool stays within a bound. -/
theorem hotVramSlotsFor_le_iff
    {remaining bound : Nat} :
    hotVramSlotsFor cfg format remaining ≤ bound ↔
      u32 (remaining / format.payloadBytes) ≤ bound ∨
        (0 < cfg.maxHotVramSlots ∧ max cfg.maxHotVramSlots 6 ≤ bound) := by
  by_cases capped : 0 < cfg.maxHotVramSlots
  · simp only [hotVramSlotsFor, if_pos capped]
    omega
  · simp only [hotVramSlotsFor, if_neg capped]
    omega

theorem tiers_sum_iff
    {total hot warm : Nat}
    (totalSmall : total < 2 ^ 32)
    (hotSmall : hot < 2 ^ 32)
    (warmLeft : warm ≤ total - hot) :
    hot + warm + u32 (total + 2 ^ 32 - u32 (hot + warm)) = total ↔
      hot ≤ total := by
  unfold u32
  omega

/-- The allowance less what is committed, when that does not go below zero. -/
theorem remaining_eq
    {usable committed : Nat}
    (usableSmall : usable < 2 ^ 64)
    (fits : committed ≤ usable) :
    u64 (usable + 2 ^ 64 - u64 committed) = usable - committed := by
  rw [u64_of_lt (by omega : committed < 2 ^ 64)]
  exact u64_sub usableSmall fits

/-! ## The partition -/

theorem tierReport_sound_iff
    (accepted :
      evaluate cfg geometry denseWeightsBytes format machine region =
        .ok report)
    (usableSmall : machine.usableVramBytes < 2 ^ 64)
    (fits :
      committedVramBytes cfg geometry denseWeightsBytes ≤
        machine.usableVramBytes) :
    SoundPartition format region
        (tierReport cfg geometry denseWeightsBytes format machine report) ↔
      report.hotVramSlots ≤ format.totalExperts := by
  have gates := evaluate_gates accepted
  have copied := evaluate_accepted accepted
  have remaining := remaining_eq usableSmall fits
  have hotBytes :
      report.hotVramSlots * format.payloadBytes ≤
        machine.usableVramBytes -
          committedVramBytes cfg geometry denseWeightsBytes := by
    rw [gates.hotSlots, remaining]
    exact hotVramSlotsFor_bytes cfg format _
  have totalEq : u32 format.totalExperts = format.totalExperts :=
    u32_of_lt gates.fewExperts
  have warm := copied.warmSlots
  rw [totalEq] at warm
  constructor
  · intro sound
    exact sound.hotWithin
  · intro within
    have summed :=
      (tiers_sum_iff gates.fewExperts
        (by have few := gates.fewExperts; omega)
        (by omega : report.warmHostSlots ≤
          format.totalExperts - report.hotVramSlots)).mpr within
    refine ⟨?_, within, ?_, gates.allowed, ?_, ?_⟩
    · simp only [tierReport, totalEq]
      exact summed
    · have small :
          u64 (report.hotVramSlots * format.payloadBytes) =
            report.hotVramSlots * format.payloadBytes :=
        u64_of_lt (by omega)
      simp only [tierReport, small]
      unfold committedVramBytes at hotBytes fits
      omega
    · simp only [tierReport]
      omega
    · simp only [tierReport, copied.regionSlots]
      exact gates.hostFits

/--
For every configuration that `evaluate` accepts, the split is a sound partition
exactly when the allowance left for the Hot pool holds at most the model.
-/
theorem evaluateTiers_sound_iff
    (cfg : RuntimeConfig)
    (geometry : ModelMemoryGeometry)
    (denseWeightsBytes : Nat)
    (format : ExpertFormat)
    (gpuMemoryUtilization : ℚ)
    (memory : DeviceMemoryInfo)
    (hostRamBytes : Option Nat)
    (region : SharedHostRegion)
    (sizeT : memory.freeBytes < 2 ^ 64)
    {report : TierReport}
    (feasible :
      evaluateTiers cfg geometry denseWeightsBytes format
        (machineOf gpuMemoryUtilization memory hostRamBytes) region =
          .ok report) :
    SoundPartition format region report ↔
      LeavesAtMostTheModel cfg geometry denseWeightsBytes format
        (usableVram gpuMemoryUtilization memory) := by
  unfold evaluateTiers at feasible
  split at feasible
  · contradiction
  next loaded accepted =>
    obtain rfl := Except.ok.inj feasible
    have gates := evaluate_gates accepted
    have usableSmall :
        (machineOf gpuMemoryUtilization memory hostRamBytes).usableVramBytes <
          2 ^ 64 := Nat.lt_of_le_of_lt gates.allowed sizeT
    have splitIff
        (fits :
          committedVramBytes cfg geometry denseWeightsBytes ≤
            usableVram gpuMemoryUtilization memory) :
        SoundPartition format region
            (tierReport cfg geometry denseWeightsBytes format
              (machineOf gpuMemoryUtilization memory hostRamBytes) loaded) ↔
          LeavesAtMostTheModel cfg geometry denseWeightsBytes format
            (usableVram gpuMemoryUtilization memory) := by
      rw [tierReport_sound_iff accepted usableSmall fits, gates.hotSlots,
        remaining_eq usableSmall fits, hotVramSlotsFor_le_iff]
      exact (and_iff_right fits).symm
    constructor
    · intro sound
      have within := sound.vramWithin
      simp only [tierReport] at within
      refine (splitIff ?_).mp sound
      exact Nat.le_of_add_right_le within
    · intro leaves
      exact (splitIff leaves.1).mpr leaves

/-- A model of one layer and eight experts of one sector each. -/
def sectorFormat : ExpertFormat where
  numLayers := 1
  expertsPerLayer := 8
  payloadBytes := 4096

/-- Its geometry: two experts a token, no attention state. -/
def sectorGeometry : ModelMemoryGeometry where
  numHiddenLayers := 1
  routedExperts := 8
  expertsPerTok := 2
  maxPositionEmbeddings := 4096
  prefillCarryBytesPerToken := 0
  attentionStateMemory := fun _ => some 0

/-- Decode scratch and room for a number of expert payloads. -/
def roomForExperts (count : Nat) : DeviceMemoryInfo where
  freeBytes := decodeScratchAllowanceBytes + count * 4096
  totalBytes := decodeScratchAllowanceBytes + count * 4096

/-- The small model without a sweep and without Warm. -/
def unsweptConfig : RuntimeConfig where
  prefillSweep := false

/-- The small model's report on a device with that room. -/
def sectorReport (hot cold : Nat) : TierReport where
  hotVramSlots := hot
  hostRegionSlots := 0
  hostLaneBaseSlots := 0
  warmHostSlots := 0
  freeVramBytes := decodeScratchAllowanceBytes + hot * 4096
  usableVramBytes := decodeScratchAllowanceBytes + hot * 4096
  maxAllowedHostRamBytes := 2 ^ 34 - hostRamReservedBytes
  vramDenseBytes := 0
  vramKvBytes := 0
  vramScratchBytes := decodeScratchAllowanceBytes
  hotVramBytes := hot * 4096
  hostRegionBytes := 0
  coldNvmeSlots := cold

/-- With room for six of the eight experts the split is sound. -/
theorem six_slots_sound :
    evaluateTiers unsweptConfig sectorGeometry 0 sectorFormat
        (machineOf 1 (roomForExperts 6) (some (2 ^ 34))) ⟨0, 0, 0⟩ =
          .ok (sectorReport 6 2) ∧
      SoundPartition sectorFormat ⟨0, 0, 0⟩ (sectorReport 6 2) := by
  have feasible :
      evaluateTiers unsweptConfig sectorGeometry 0 sectorFormat
        (machineOf 1 (roomForExperts 6) (some (2 ^ 34))) ⟨0, 0, 0⟩ =
          .ok (sectorReport 6 2) := by
    decide +kernel
  refine ⟨feasible, ?_⟩
  refine (evaluateTiers_sound_iff unsweptConfig sectorGeometry 0 sectorFormat 1
    (roomForExperts 6) (some (2 ^ 34)) ⟨0, 0, 0⟩ (by decide) feasible).mpr ?_
  unfold LeavesAtMostTheModel
  decide +kernel

/-- With room for nine, the Cold tier of an eight-expert model wraps around. -/
theorem nine_slots_wrap_cold :
    evaluateTiers unsweptConfig sectorGeometry 0 sectorFormat
        (machineOf 1 (roomForExperts 9) (some (2 ^ 34))) ⟨0, 0, 0⟩ =
          .ok (sectorReport 9 (2 ^ 32 - 1)) ∧
      ¬ SoundPartition sectorFormat ⟨0, 0, 0⟩
        (sectorReport 9 (2 ^ 32 - 1)) := by
  constructor
  · decide +kernel
  · intro sound
    have within := sound.hotWithin
    revert within
    decide

end Aeon.Memory
