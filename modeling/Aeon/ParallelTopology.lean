import Aeon.DeviceIds
import Aeon.HostBudget

namespace Aeon.Parallel

open Aeon.Memory (u32 splitHostBudget)

/-!
# The resolved topology

`ParallelTopology::resolve`: the degrees are checked against the artifact and the model,
the device ids against what is visible, and the layers are dealt to the stages in
contiguous ranges, the remainder to the earliest.  `stage_of` scans those ranges.
-/

/-- `ParallelTopologyConfig`. -/
structure ParallelTopologyConfig where
  deviceIds : List Int := []
  tensorParallel : Nat := 1
  pipelineParallel : Nat := 1
  deriving Repr, DecidableEq

/-- The `LayerRange` of a stage. -/
structure StageRange where
  first : Nat
  count : Nat
  deriving Repr, DecidableEq

namespace StageRange

/-- `end`. -/
def stop (range : StageRange) : Nat :=
  u32 (range.first + range.count)

/-- `contains`. -/
def contains
    (range : StageRange)
    (layer : Nat) : Bool :=
  range.first ≤ layer && layer < range.stop

end StageRange

/-- `ParallelTopology`. -/
structure ParallelTopology where
  tp : Nat
  pp : Nat
  numLayers : Nat
  deviceIds : List Int
  stages : List StageRange
  deriving Repr, DecidableEq

/-- The loop over the device ids, behind those it has passed. -/
def checkDeviceIds
    (visibleDevices : Int) : List Int → List Int → Except String Unit
  | _, [] => .ok ()
  | earlier, id :: rest =>
    if id < 0 ∨ visibleDevices ≤ id then
      .error ("parallel topology: device id " ++ toString id ++
        " is out of range for " ++ toString visibleDevices ++ " visible devices")
    else if id ∈ earlier then
      .error ("parallel topology: device id " ++ toString id ++
        " is listed more than once")
    else
      checkDeviceIds visibleDevices (earlier ++ [id]) rest

/-- The loop that lays the ranges: `left` stages still to come, from `stage` on. -/
def layStages
    (base remainder : Nat) : (left stage first : Nat) → List StageRange
  | 0, _, _ => []
  | left + 1, stage, first =>
    let count := u32 (base + if stage < remainder then 1 else 0)
    ⟨first, count⟩ :: layStages base remainder left (stage + 1) (u32 (first + count))

/-- The ids a caller leaves out: one device for each rank in order. -/
def defaultDeviceIds (rankCount : Nat) : List Int :=
  (List.range rankCount).map fun id => narrow id

/-- `resolve`. -/
def resolve
    (config : ParallelTopologyConfig)
    (visibleDevices : Int)
    (artifactMaxTp numLayers : Nat) : Except String ParallelTopology :=
  let tp := config.tensorParallel
  let pp := config.pipelineParallel
  if tp = 0 ∨ pp = 0 then
    .error ("parallel topology: tensor and pipeline degrees must be at least 1 " ++
      "(tensor_parallel=" ++ toString tp ++ ", pipeline_parallel=" ++ toString pp ++ ")")
  else if numLayers = 0 then
    .error "parallel topology: the model has no layers"
  else if artifactMaxTp = 0 then
    .error "parallel topology: the artifact's max tensor-parallel degree is 0"
  else if artifactMaxTp % tp ≠ 0 then
    .error ("parallel topology: tensor_parallel=" ++ toString tp ++
      " does not divide the artifact's max tensor-parallel degree " ++
      toString artifactMaxTp)
  else if numLayers < pp then
    .error ("parallel topology: pipeline_parallel=" ++ toString pp ++ " exceeds the " ++
      toString numLayers ++ " model layers")
  else
    -- Two `uint32_t` factors in a `size_t`.
    let rankCount := tp * pp
    let ids :=
      if config.deviceIds = [] then defaultDeviceIds rankCount else config.deviceIds
    if ids.length ≠ rankCount then
      .error ("parallel topology: device_ids has " ++ toString ids.length ++
        " entries but tp * pp = " ++ toString rankCount)
    else do
      checkDeviceIds visibleDevices [] ids
      return ⟨tp, pp, numLayers, ids, layStages (numLayers / pp) (numLayers % pp) pp 0 0⟩

/-- The scan of `stage_of`, at a stage whose range heads the list. -/
def scanStages (layer : Nat) : List StageRange → Nat → Nat
  | range :: next :: rest, stage =>
    if range.stop ≤ layer then scanStages layer (next :: rest) (stage + 1) else stage
  | _, stage => stage

namespace ParallelTopology

variable (topology : ParallelTopology)

/-- `device`, stage-major. -/
def device (stage rank : Nat) : Int :=
  topology.deviceIds.getD (stage * topology.tp + rank) 0

/-- `stage_of`. -/
def stageOf (layer : Nat) : Nat :=
  scanStages layer topology.stages 0

/-- The stages' layer counts, as the host's budget is split over them. -/
def stageLayerCounts : List Nat :=
  topology.stages.map (·.count)

end ParallelTopology

/-! ## The ranges in closed form -/

/-- The range of a stage. -/
def stageRange (base remainder stage : Nat) : StageRange :=
  ⟨stage * base + min stage remainder, base + if stage < remainder then 1 else 0⟩

section Ranges

variable
    {base remainder : Nat}

/-- A stage ends where the next one starts. -/
theorem stageRange_end (base remainder stage : Nat) :
    (stageRange base remainder stage).first + (stageRange base remainder stage).count =
      (stageRange base remainder (stage + 1)).first := by
  simp only [stageRange, Nat.add_mul, Nat.one_mul]
  split <;> omega

theorem stageRange_first_mono
    (base remainder : Nat)
    {stage later : Nat}
    (ordered : stage ≤ later) :
    (stageRange base remainder stage).first ≤ (stageRange base remainder later).first := by
  simp only [stageRange]
  have products := Nat.mul_le_mul_right base ordered
  omega

/-- Past the last stage all layers are laid. -/
theorem stageRange_total
    (numLayers : Nat)
    {pp : Nat}
    (positive : 0 < pp) :
    (stageRange (numLayers / pp) (numLayers % pp) pp).first = numLayers := by
  have below := Nat.mod_lt numLayers positive
  have divided := Nat.div_add_mod numLayers pp
  simp only [stageRange]
  omega

theorem layStages_eq
    (left stage : Nat)
    (inside : (stageRange base remainder (stage + left)).first < 2 ^ 32) :
    layStages base remainder left stage (stageRange base remainder stage).first =
      (List.range' stage left).map (stageRange base remainder) := by
  induction left generalizing stage with
  | zero => rfl
  | succ left ih =>
    have next := stageRange_end base remainder stage
    have grows : (stageRange base remainder (stage + 1)).first ≤
        (stageRange base remainder (stage + (left + 1))).first :=
      stageRange_first_mono base remainder (by omega)
    have small : (stageRange base remainder stage).count < 2 ^ 32 := by omega
    have count : u32 (base + if stage < remainder then 1 else 0) =
        (stageRange base remainder stage).count :=
      Memory.u32_of_lt small
    rw [layStages, List.range'_succ, List.map_cons]
    simp only [count, next]
    rw [Memory.u32_of_lt (by omega), ih (stage + 1) (by rwa [Nat.add_right_comm])]

end Ranges

/-! ## The ids that pass -/

/-- Accepted ids are distinct and visible. -/
theorem checkDeviceIds_ok
    {visibleDevices : Int}
    {earlier ids : List Int}
    (passed : checkDeviceIds visibleDevices earlier ids = .ok ())
    (distinct : earlier.Nodup) :
    (earlier ++ ids).Nodup ∧ ∀ id, id ∈ ids → 0 ≤ id ∧ id < visibleDevices := by
  induction ids generalizing earlier with
  | nil =>
    rw [List.append_nil]
    exact ⟨distinct, fun id member => absurd member List.not_mem_nil⟩
  | cons id rest ih =>
    rw [checkDeviceIds] at passed
    split at passed
    · cases passed
    next inRange =>
      split at passed
      · cases passed
      next fresh =>
        have extended : (earlier ++ [id]).Nodup :=
          List.nodup_append'.mpr
            ⟨distinct, List.nodup_singleton id, List.disjoint_singleton.mpr fresh⟩
        have later := ih passed extended
        rw [List.append_assoc] at later
        refine ⟨later.1, ?_⟩
        intro other member
        rcases List.mem_cons.mp member with rfl | inRest
        · omega
        · exact later.2 other inRest

/-! ## What `resolve` accepts -/

/-- The topology a request resolves to. -/
structure Resolved
    (visibleDevices : Int)
    (numLayers : Nat)
    (topology : ParallelTopology) : Prop where
  ppPositive : 0 < topology.pp
  ppLayers : topology.pp ≤ numLayers
  idCount : topology.deviceIds.length = topology.tp * topology.pp
  idsDistinct : topology.deviceIds.Nodup
  idsVisible : ∀ id, id ∈ topology.deviceIds → 0 ≤ id ∧ id < visibleDevices
  stages :
    topology.stages =
      (List.range topology.pp).map
        (stageRange (numLayers / topology.pp) (numLayers % topology.pp))

/-- A resolved topology is a tiling of the layers over distinct devices. -/
theorem resolve_ok
    {config : ParallelTopologyConfig}
    {visibleDevices : Int}
    {artifactMaxTp numLayers : Nat}
    {topology : ParallelTopology}
    (word : numLayers < 2 ^ 32)
    (accepted : resolve config visibleDevices artifactMaxTp numLayers = .ok topology) :
    Resolved visibleDevices numLayers topology := by
  simp only [resolve] at accepted
  generalize (if config.deviceIds = [] then
    defaultDeviceIds (config.tensorParallel * config.pipelineParallel)
    else config.deviceIds) = ids at accepted
  repeat' split at accepted
  all_goals try cases accepted
  rename_i degrees layers maxTp divides fewStages idCount
  cases passed : checkDeviceIds visibleDevices [] ids with
  | error message =>
    rw [passed] at accepted
    cases accepted
  | ok done =>
    rw [passed] at accepted
    obtain rfl := Except.ok.inj accepted
    have positive : 0 < config.pipelineParallel := by omega
    have checked := checkDeviceIds_ok passed List.nodup_nil
    have total := stageRange_total numLayers positive
    refine ⟨positive, Nat.not_lt.mp fewStages, Decidable.not_not.mp idCount, checked.1,
      checked.2, ?_⟩
    have laid :=
      @layStages_eq (numLayers / config.pipelineParallel)
        (numLayers % config.pipelineParallel) config.pipelineParallel 0
        (by rwa [Nat.zero_add, total])
    have fromZero : (stageRange (numLayers / config.pipelineParallel)
        (numLayers % config.pipelineParallel) 0).first = 0 := by
      simp only [stageRange]
      omega
    rw [fromZero, ← List.range_eq_range'] at laid
    exact laid

end Aeon.Parallel
