import Aeon.ParallelTopology
import Mathlib.Data.List.GetD

namespace Aeon.Parallel

open Aeon.Memory (u32 u64 splitHostBudget hostShares)

/-!
# Stage ranges tile the model

The ranges of a resolved topology are a tiling of the layers, `stage_of` finds the one
range of a layer, no two ranks share a device, and a budget split over the stages is
spent exactly.
-/

/-- The ranges are non-empty and lie end to end from `start` to `stop`. -/
inductive Tiles : Nat → List StageRange → Nat → Prop where
  | nil (stop : Nat) : Tiles stop [] stop
  | cons
      {range : StageRange}
      {rest : List StageRange}
      {stop : Nat}
      (nonempty : 0 < range.count)
      (tiled : Tiles (range.first + range.count) rest stop) :
      Tiles range.first (range :: rest) stop

/-- A tiling has as many layers as it covers. -/
theorem Tiles.sum_count
    {start stop : Nat}
    {ranges : List StageRange}
    (tiles : Tiles start ranges stop) :
    start + (ranges.map (·.count)).sum = stop := by
  induction tiles with
  | nil stop => exact Nat.add_zero stop
  | cons nonempty tiled ih =>
    rw [List.map_cons, List.sum_cons, ← Nat.add_assoc]
    exact ih

section Closed

variable (base remainder : Nat)

theorem tiles_stageRange
    (basePositive : 0 < base)
    (stage left : Nat) :
    Tiles (stageRange base remainder stage).first
      ((List.range' stage left).map (stageRange base remainder))
      (stageRange base remainder (stage + left)).first := by
  induction left generalizing stage with
  | zero => exact Tiles.nil _
  | succ left ih =>
    rw [List.range'_succ, List.map_cons]
    refine Tiles.cons (Nat.lt_of_lt_of_le basePositive (Nat.le_add_right _ _)) ?_
    have shifted : stage + (left + 1) = stage + 1 + left := by omega
    rw [stageRange_end, shifted]
    exact ih (stage + 1)

theorem scanStages_stageRange
    (layer stage left : Nat)
    (word : (stageRange base remainder (stage + left + 1)).first < 2 ^ 32)
    (after : (stageRange base remainder stage).first ≤ layer)
    (before : layer < (stageRange base remainder (stage + left + 1)).first) :
    ∃ found,
      scanStages layer
          ((List.range' stage (left + 1)).map (stageRange base remainder)) stage = found ∧
        stage ≤ found ∧ found < stage + left + 1 ∧
        (stageRange base remainder found).first ≤ layer ∧
        layer < (stageRange base remainder (found + 1)).first := by
  induction left generalizing stage with
  | zero => exact ⟨stage, rfl, Nat.le_refl _, Nat.lt_succ_self _, after, before⟩
  | succ left ih =>
    have inWord : (stageRange base remainder (stage + 1)).first < 2 ^ 32 :=
      Nat.lt_of_le_of_lt (stageRange_first_mono base remainder (by omega)) word
    have stop : (stageRange base remainder stage).stop =
        (stageRange base remainder (stage + 1)).first := by
      rw [StageRange.stop, stageRange_end]
      exact Memory.u32_of_lt inWord
    rw [List.range'_succ, List.range'_succ, List.map_cons, List.map_cons, scanStages, stop]
    split
    next passed =>
      have shifted : stage + 1 + left + 1 = stage + (left + 1) + 1 := by omega
      obtain ⟨found, scanned, least, inside, holds⟩ :=
        ih (stage + 1) (by rwa [shifted]) passed (by rwa [shifted])
      rw [List.range'_succ, List.map_cons] at scanned
      exact ⟨found, scanned, by omega, by omega, holds⟩
    next stays =>
      exact ⟨stage, rfl, Nat.le_refl _, by omega, after, Nat.not_le.mp stays⟩

end Closed

theorem splitHostBudget_sum
    {total : Nat}
    {counts : List Nat}
    (positive : 0 < counts.sum)
    (few : counts.sum < 2 ^ 64)
    (product : total * counts.sum < 2 ^ 64) :
    (splitHostBudget total counts).sum = total := by
  have layersEq : u64 counts.sum = counts.sum := Memory.u64_of_lt few
  simp only [splitHostBudget, layersEq]
  rw [if_neg (Nat.pos_iff_ne_zero.mp positive)]
  have telescoped :=
    Memory.hostShares_sum 0 counts positive (Nat.le_of_eq (Nat.zero_add _)) product few
  rw [Nat.mul_zero, Nat.zero_div, Nat.zero_add, Nat.mul_div_cancel total positive]
    at telescoped
  exact telescoped

namespace Resolved

variable
    {visibleDevices : Int}
    {numLayers : Nat}
    {topology : ParallelTopology}
    (resolved : Resolved visibleDevices numLayers topology)

include resolved

theorem tiles : Tiles 0 topology.stages numLayers := by
  have basePositive : 0 < numLayers / topology.pp :=
    Nat.div_pos resolved.ppLayers resolved.ppPositive
  have tiled :=
    tiles_stageRange (numLayers / topology.pp) (numLayers % topology.pp) basePositive 0
      topology.pp
  rw [Nat.zero_add, stageRange_total numLayers resolved.ppPositive,
    ← List.range_eq_range', ← resolved.stages] at tiled
  have fromZero : (stageRange (numLayers / topology.pp) (numLayers % topology.pp) 0).first
      = 0 := by
    simp only [stageRange]
    omega
  rwa [fromZero] at tiled

theorem stages_getElem?
    {stage : Nat}
    {range : StageRange}
    (found : topology.stages[stage]? = some range) :
    stage < topology.pp ∧
      range = stageRange (numLayers / topology.pp) (numLayers % topology.pp) stage := by
  rw [resolved.stages, List.getElem?_map, Option.map_eq_some_iff] at found
  obtain ⟨index, inRange, equal⟩ := found
  obtain ⟨inside, rfl⟩ := List.getElem?_eq_some_iff.mp inRange
  rw [List.length_range] at inside
  rw [List.getElem_range] at equal
  exact ⟨inside, equal.symm⟩

theorem counts_balanced :
    topology.stages.Pairwise fun earlier later =>
      later.count ≤ earlier.count ∧ earlier.count ≤ later.count + 1 := by
  rw [resolved.stages, List.pairwise_map]
  refine List.pairwise_lt_range.imp fun ordered => ?_
  simp only [stageRange]
  split <;> split <;> omega

theorem contains_iff
    (word : numLayers < 2 ^ 32)
    {stage : Nat}
    (inside : stage < topology.pp)
    (layer : Nat) :
    (stageRange (numLayers / topology.pp) (numLayers % topology.pp) stage).contains layer
        = true ↔
      (stageRange (numLayers / topology.pp) (numLayers % topology.pp) stage).first ≤ layer ∧
        layer <
          (stageRange (numLayers / topology.pp) (numLayers % topology.pp) (stage + 1)).first
      := by
  have within :=
    stageRange_first_mono (numLayers / topology.pp) (numLayers % topology.pp) inside
  rw [stageRange_total numLayers resolved.ppPositive] at within
  rw [StageRange.contains, StageRange.stop, stageRange_end,
    Memory.u32_of_lt (Nat.lt_of_le_of_lt within word), Bool.and_eq_true,
    decide_eq_true_eq, decide_eq_true_eq]

theorem stageOf_spec
    (word : numLayers < 2 ^ 32)
    {layer : Nat}
    (inModel : layer < numLayers) :
    topology.stageOf layer < topology.pp ∧
      ∀ stage range, topology.stages[stage]? = some range →
        (range.contains layer = true ↔ stage = topology.stageOf layer) := by
  obtain ⟨last, count⟩ := Nat.exists_eq_succ_of_ne_zero
    (Nat.pos_iff_ne_zero.mp resolved.ppPositive)
  have total := stageRange_total numLayers resolved.ppPositive
  obtain ⟨found, scanned, -, inside, after, before⟩ :=
    scanStages_stageRange (numLayers / topology.pp) (numLayers % topology.pp) layer 0 last
      (by rwa [Nat.zero_add, ← Nat.succ_eq_add_one, ← count, total])
      (by simp only [stageRange]; omega)
      (by rwa [Nat.zero_add, ← Nat.succ_eq_add_one, ← count, total])
  rw [← Nat.succ_eq_add_one, ← count, ← List.range_eq_range', ← resolved.stages] at scanned
  have stageOf : topology.stageOf layer = found := scanned
  have foundInside : found < topology.pp := by omega
  rw [stageOf]
  refine ⟨foundInside, ?_⟩
  intro stage range named
  obtain ⟨stageInside, rfl⟩ := resolved.stages_getElem? named
  rw [resolved.contains_iff word stageInside]
  constructor
  · rintro ⟨starts, ends⟩
    rcases Nat.lt_trichotomy stage found with less | equal | more
    · have gap :=
        stageRange_first_mono (numLayers / topology.pp) (numLayers % topology.pp)
          (by omega : stage + 1 ≤ found)
      omega
    · exact equal
    · have gap :=
        stageRange_first_mono (numLayers / topology.pp) (numLayers % topology.pp)
          (by omega : found + 1 ≤ stage)
      omega
  · rintro rfl
    exact ⟨after, before⟩

theorem rank_slot
    {stage rank : Nat}
    (stageInside : stage < topology.pp)
    (rankInside : rank < topology.tp) :
    stage * topology.tp + rank < topology.deviceIds.length := by
  rw [resolved.idCount]
  calc
    stage * topology.tp + rank < stage * topology.tp + topology.tp :=
      Nat.add_lt_add_left rankInside _
    _ = (stage + 1) * topology.tp := (Nat.succ_mul stage topology.tp).symm
    _ ≤ topology.pp * topology.tp := Nat.mul_le_mul_right _ stageInside
    _ = topology.tp * topology.pp := Nat.mul_comm _ _

theorem device_visible
    {stage rank : Nat}
    (stageInside : stage < topology.pp)
    (rankInside : rank < topology.tp) :
    0 ≤ topology.device stage rank ∧ topology.device stage rank < visibleDevices := by
  have slot := resolved.rank_slot stageInside rankInside
  rw [ParallelTopology.device, List.getD_eq_getElem _ _ slot]
  exact resolved.idsVisible _ (List.getElem_mem slot)

theorem device_injective
    {stage rank otherStage otherRank : Nat}
    (stageInside : stage < topology.pp)
    (rankInside : rank < topology.tp)
    (otherStageInside : otherStage < topology.pp)
    (otherRankInside : otherRank < topology.tp)
    (shared : topology.device stage rank = topology.device otherStage otherRank) :
    stage = otherStage ∧ rank = otherRank := by
  have slot := resolved.rank_slot stageInside rankInside
  have otherSlot := resolved.rank_slot otherStageInside otherRankInside
  rw [ParallelTopology.device, ParallelTopology.device, List.getD_eq_getElem _ _ slot,
    List.getD_eq_getElem _ _ otherSlot, resolved.idsDistinct.getElem_inj_iff] at shared
  have tpPositive : 0 < topology.tp := by omega
  have sameStage := congrArg (· / topology.tp) shared
  simp only [Nat.mul_comm _ topology.tp, Nat.mul_add_div tpPositive,
    Nat.div_eq_of_lt rankInside, Nat.div_eq_of_lt otherRankInside] at sameStage
  obtain rfl : stage = otherStage := by omega
  exact ⟨rfl, Nat.add_left_cancel shared⟩

end Resolved

/--
Every topology `resolve` accepts tiles the model: the ranges are non-empty and lie end to
end from layer 0 to the last, earlier ones larger by at most one; `stage_of` names the one
range of each layer; the ranks' devices are visible and distinct; and a budget split over
the stages is spent exactly.
-/
theorem resolve_tiles
    {config : ParallelTopologyConfig}
    {visibleDevices : Int}
    {artifactMaxTp numLayers : Nat}
    {topology : ParallelTopology}
    (word : numLayers < 2 ^ 32)
    (accepted : resolve config visibleDevices artifactMaxTp numLayers = .ok topology) :
    topology.stages.length = topology.pp ∧
      Tiles 0 topology.stages numLayers ∧
      topology.stages.Pairwise (fun earlier later =>
        later.count ≤ earlier.count ∧ earlier.count ≤ later.count + 1) ∧
      (∀ layer, layer < numLayers →
        topology.stageOf layer < topology.pp ∧
          ∀ stage range, topology.stages[stage]? = some range →
            (range.contains layer = true ↔ stage = topology.stageOf layer)) ∧
      (∀ stage rank, stage < topology.pp → rank < topology.tp →
        0 ≤ topology.device stage rank ∧ topology.device stage rank < visibleDevices) ∧
      (∀ stage rank otherStage otherRank,
        stage < topology.pp → rank < topology.tp →
        otherStage < topology.pp → otherRank < topology.tp →
        topology.device stage rank = topology.device otherStage otherRank →
        stage = otherStage ∧ rank = otherRank) ∧
      ∀ totalBytes, totalBytes * topology.stageLayerCounts.sum < 2 ^ 64 →
        (splitHostBudget totalBytes topology.stageLayerCounts).sum = totalBytes := by
  have resolved := resolve_ok word accepted
  have layers := resolved.tiles.sum_count
  rw [Nat.zero_add] at layers
  refine ⟨?_, resolved.tiles, resolved.counts_balanced,
    fun layer inModel => resolved.stageOf_spec word inModel,
    fun stage rank => resolved.device_visible,
    fun stage rank otherStage otherRank => resolved.device_injective, ?_⟩
  · rw [resolved.stages, List.length_map, List.length_range]
  · intro totalBytes product
    have counted : topology.stageLayerCounts.sum = numLayers := layers
    have positive : 0 < numLayers := Nat.lt_of_lt_of_le resolved.ppPositive resolved.ppLayers
    exact splitHostBudget_sum (by omega) (by omega) product

/-- Seven layers over three stages of two ranks. -/
theorem resolve_tiles_three :
    Tiles 0 [⟨0, 3⟩, ⟨3, 2⟩, ⟨5, 2⟩] 7 :=
  (@resolve_tiles ⟨[], 2, 3⟩ 6 4 7
    ⟨2, 3, 7, [0, 1, 2, 3, 4, 5], [⟨0, 3⟩, ⟨3, 2⟩, ⟨5, 2⟩]⟩ (by decide) rfl).2.1

end Aeon.Parallel
