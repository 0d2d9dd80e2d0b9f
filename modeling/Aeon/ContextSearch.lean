import Aeon.BinarySearch
import Aeon.ResolvedLayers

namespace Aeon.Memory

open BinarySearch (IsLast lastFit)

/-!
# The context search and the VRAM gate

`MemoryBudgetEngine::evaluate` up to the gate that precedes any upload: the earlier
refusals, the byte counts of the report, the search for the largest context and the
comparison of the baseline with the device's allowance.
-/

/-- The part of `MemoryBudgetReport` that `evaluate` fills before it sizes a pool. -/
structure VramReport where
  vramDenseBytes : Nat := 0
  attention : AttentionStateMemory := {}
  vramKvBytes : Nat := 0
  vramScratchBytes : Nat := 0
  vramMinActiveBytes : Nat := 0
  maxViableContextSize : Nat := 0
  rejection : Option Rejection := none
  deriving Repr, DecidableEq

/-- What `evaluate` refuses before it asks for the attention state. -/
def refusedEarly
    (cfg : RuntimeConfig)
    (geometry : ModelMemoryGeometry)
    (format : ExpertFormat)
    (machine : MachineMemory) : Option Rejection :=
  if !format.validCatalog then
    some .invalidFormat
  else if geometry.numHiddenLayers < 0 ∨ geometry.routedExperts < 0 ∨
      format.numLayers ≠ u32OfInt geometry.numHiddenLayers ∨
      format.expertsPerLayer ≠ u32OfInt geometry.routedExperts then
    some .catalogMismatch
  else if 2 ^ 32 - 1 < format.totalExperts then
    some .idRangeExceeded
  else if machine.freeVramBytes < machine.usableVramBytes then
    some .deviceBelowAllowance
  else if machine.hostRamBytes = none then
    some .hostQueryFailed
  else if cfg.contextSize = 0 then
    some .contextZero
  else if u32OfInt geometry.maxPositionEmbeddings < cfg.contextSize then
    some .contextTooLong
  else
    none

/-- `vram_min_active_bytes`. -/
def minActiveBytes
    (geometry : ModelMemoryGeometry)
    (format : ExpertFormat) : Nat :=
  u64 (u32OfInt (2 * geometry.expertsPerTok) * format.payloadBytes)

/-- Whether a candidate context's attention state fits beside the rest. -/
def candidateFits
    (geometry : StageGeometry)
    (nonAttentionRequired usableVramBytes midpoint : Nat) : Except String Bool := do
  let candidate ← geometry.attentionStateMemory (u32 midpoint)
  return decide (u64 (nonAttentionRequired + candidate.totalBytes) ≤ usableVramBytes)

/-- The search for `max_viable_context_size`. -/
def maxViableContextSize
    (geometry : StageGeometry)
    (nonAttentionRequired usableVramBytes : Nat) : Except String Nat := do
  if nonAttentionRequired < usableVramBytes then
    let low ←
      lastFit (candidateFits geometry nonAttentionRequired usableVramBytes) 0
        (geometry.maxPositionEmbeddings % 2 ^ 64).toNat
    return u32 low
  else
    return 0

/--
`evaluate` through the VRAM gate.  An exception of the geometry at the requested context
becomes a refusal; one at a context the search tries leaves `evaluate`.
-/
def evaluateVram
    (cfg : RuntimeConfig)
    (geometry : StageGeometry)
    (denseWeightsBytes : Nat)
    (format : ExpertFormat)
    (machine : MachineMemory) : Except String VramReport :=
  match refusedEarly cfg geometry.summed format machine with
  | some rejection => .ok { rejection := some rejection }
  | none =>
    match geometry.attentionStateMemory cfg.contextSize with
    | .error _ => .ok { rejection := some .attentionStateRefused }
    | .ok attention => do
        let scratch := vramScratchBytes cfg geometry.summed
        let minActive := minActiveBytes geometry.summed format
        let baseline :=
          u64 (denseWeightsBytes + attention.totalBytes + scratch + minActive)
        let viable ←
          maxViableContextSize geometry
            (u64 (denseWeightsBytes + scratch + minActive)) machine.usableVramBytes
        return {
          vramDenseBytes := denseWeightsBytes
          attention := attention
          vramKvBytes := attention.totalBytes
          vramScratchBytes := scratch
          vramMinActiveBytes := minActive
          maxViableContextSize := viable
          rejection :=
            if machine.usableVramBytes < baseline then some .vramExceeded else none }

section Admission

variable
    {cfg : RuntimeConfig}
    {geometry : ModelMemoryGeometry}
    {denseWeightsBytes : Nat}
    {format : ExpertFormat}
    {machine : MachineMemory}

/-- A configuration that `evaluate` takes as far as the attention state. -/
structure Admitted
    (cfg : RuntimeConfig)
    (geometry : ModelMemoryGeometry)
    (format : ExpertFormat)
    (machine : MachineMemory) : Prop where
  catalogValid : ¬ (!format.validCatalog) = true
  catalogMatches :
    ¬ (geometry.numHiddenLayers < 0 ∨ geometry.routedExperts < 0 ∨
        format.numLayers ≠ u32OfInt geometry.numHiddenLayers ∨
        format.expertsPerLayer ≠ u32OfInt geometry.routedExperts)
  idsInRange : ¬ 2 ^ 32 - 1 < format.totalExperts
  deviceFree : ¬ machine.freeVramBytes < machine.usableVramBytes
  hostKnown : ¬ machine.hostRamBytes = none
  contextPositive : ¬ cfg.contextSize = 0
  contextInModel : ¬ u32OfInt geometry.maxPositionEmbeddings < cfg.contextSize

theorem refusedEarly_eq_none
    (admitted : refusedEarly cfg geometry format machine = none) :
    Admitted cfg geometry format machine := by
  simp only [refusedEarly] at admitted
  repeat' split at admitted
  all_goals try cases admitted
  constructor <;> assumption

theorem evaluateHost_ne_vramExceeded
    (hostRamBytes hotVramSlots : Nat)
    (region : SharedHostRegion) :
    evaluateHost cfg geometry format hostRamBytes hotVramSlots region ≠
      .error .vramExceeded := by
  simp only [evaluateHost]
  split
  · simp
  · split <;> simp

theorem Admitted.evaluate_vramExceeded_iff
    (admitted : Admitted cfg geometry format machine)
    {kvBytes : Nat}
    (attention : geometry.attentionStateMemory cfg.contextSize = some kvBytes)
    (region : SharedHostRegion) :
    evaluate cfg geometry denseWeightsBytes format machine region = .error .vramExceeded ↔
      machine.usableVramBytes <
        u64 (denseWeightsBytes + kvBytes + vramScratchBytes cfg geometry +
          minActiveBytes geometry format) := by
  obtain ⟨hostRam, known⟩ := Option.ne_none_iff_exists'.mp admitted.hostKnown
  rw [evaluate, if_neg admitted.catalogValid, if_neg admitted.catalogMatches,
    if_neg admitted.idsInRange, if_neg admitted.deviceFree, known]
  simp only [if_neg admitted.contextPositive, if_neg admitted.contextInModel, attention]
  rw [minActiveBytes]
  split
  next exceeded => exact iff_of_true rfl exceeded
  next fits => exact iff_of_false (evaluateHost_ne_vramExceeded _ _ _) fits

end Admission

section Search

variable
    {range : LayerRange}
    {geometry : StageGeometry}
    (stage : StageOf range geometry)

/-- The requirement of a context: its attention state and what stands beside it. -/
def Fits
    (geometry : StageGeometry)
    (nonAttentionRequired usableVramBytes context : Nat) : Prop :=
  ∃ attention, geometry.attentionStateMemory context = .ok attention ∧
    nonAttentionRequired + attention.totalBytes ≤ usableVramBytes

include stage in
theorem StageOf.fits_iff
    {nonAttentionRequired usableVramBytes context : Nat}
    (positive : 0 < context)
    (word : context < 2 ^ 32) :
    Fits geometry nonAttentionRequired usableVramBytes context ↔
      nonAttentionRequired + (stageMemory range context).totalBytes ≤
        usableVramBytes := by
  rw [Fits, stage.attentionStateMemory_eq positive word]
  constructor
  · rintro ⟨attention, computed, fits⟩
    obtain rfl := Except.ok.inj computed
    exact fits
  · intro fits
    exact ⟨_, rfl, fits⟩

include stage in
theorem StageOf.fits_downward
    {nonAttentionRequired usableVramBytes : Nat}
    (smaller larger : Nat)
    (positive : 0 < smaller)
    (ordered : smaller ≤ larger)
    (inside : larger ≤ 1048576)
    (fits : Fits geometry nonAttentionRequired usableVramBytes larger) :
    Fits geometry nonAttentionRequired usableVramBytes smaller := by
  rw [stage.fits_iff (by omega) (by omega)] at fits ⊢
  exact Nat.le_trans (Nat.add_le_add_left (stageMemory_mono range ordered (by omega)) _) fits

include stage in
theorem StageOf.maxViableContextSize_spec
    {nonAttentionRequired usableVramBytes : Nat}
    (sumsFit :
      nonAttentionRequired + (stageMemory range 1048576).totalBytes < 2 ^ 64) :
    ∃ last,
      maxViableContextSize geometry nonAttentionRequired usableVramBytes = .ok last ∧
        IsLast (Fits geometry nonAttentionRequired usableVramBytes) 1048576 last := by
  rw [maxViableContextSize]
  split
  next roomy =>
    have answers : ∀ index, 0 < index → index ≤ 1048576 →
        ∃ answer,
          candidateFits geometry nonAttentionRequired usableVramBytes index = .ok answer ∧
            (answer = true ↔ Fits geometry nonAttentionRequired usableVramBytes index) := by
      intro index positive inside
      have grows : (stageMemory range index).totalBytes ≤
          (stageMemory range 1048576).totalBytes :=
        stageMemory_mono range inside (by omega)
      refine ⟨decide (u64 (nonAttentionRequired + (stageMemory range index).totalBytes) ≤
        usableVramBytes), ?_, ?_⟩
      · rw [candidateFits, u32_of_lt (by omega),
          stage.attentionStateMemory_eq positive (by omega)]
        rfl
      · rw [decide_eq_true_eq, stage.fits_iff positive (by omega), u64_of_lt (by omega)]
    obtain ⟨last, found, isLast⟩ :=
      BinarySearch.lastFit_spec answers stage.fits_downward 0 1048576 (Nat.zero_le _)
        (Nat.le_refl _) (fun positive => absurd positive (Nat.lt_irrefl 0))
        (fun index beyond inside => absurd inside (Nat.not_le.mpr beyond))
    refine ⟨last, ?_, isLast⟩
    have bound : (geometry.maxPositionEmbeddings % 2 ^ 64).toNat = 1048576 := by
      rw [stage.maxPositionEmbeddings]
      rfl
    have inWord : u32 last = last := u32_of_lt (by have := isLast.inBound; omega)
    rw [bound, found]
    exact congrArg Except.ok inWord
  next cramped =>
    -- No context fits: the rotary tables alone take a byte.
    refine ⟨0, rfl, Nat.zero_le _, fun positive => absurd positive (Nat.lt_irrefl 0), ?_⟩
    intro index positive inside fits
    rw [stage.fits_iff positive (by omega), stageMemory_totalBytes range (by omega)] at fits
    omega

end Search

/-- The baseline the gate compares, from the parts the search adds. -/
theorem u64_baseline
    (dense kvBytes scratch minActive : Nat)
    (fits : dense + scratch + minActive + kvBytes < 2 ^ 64) :
    u64 (dense + kvBytes + scratch + minActive) = dense + scratch + minActive + kvBytes := by
  rw [u64_of_lt (by omega)]
  omega

/-- The schedule of the base decoder: two sliding layers, then CSA and HCA in turn. -/
def baseDecoder : ModelConfig :=
  { compressRatios :=
      [0, 0] ++ (List.range' 2 41).map ModelConfig.expectedRatio ++ [0, 0, 0] }

/-- All layers of the model as one stage. -/
def wholeModel : LayerRange :=
  ⟨0, 43, by decide⟩

end Aeon.Memory
