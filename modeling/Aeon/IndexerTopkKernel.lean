import Aeon.BlockReduction
import Aeon.IndexerTopk
import Aeon.StableSort

namespace Aeon.Attention

open BlockReduction StableSort WarpReduction

/-!
# The indexer's selection as the kernel computes it

`v4_indexer_topk_kernel` with its strided loops, the shared bitmap of the chosen
candidates and the buffer of indices it writes.  A store outside the bitmap, such as
the one an index of -1 would make, is `none`.  The row it writes is the front of the
stable descending sort of the scores.
-/

variable {Score : Type} [LinearOrder Score]

/-- The shared bytes of the chosen candidates. -/
abbrev Bitmap := Nat → BitVec 8

namespace Bitmap

variable (selected : Bitmap)

/-- `(selected[i >> 3] >> (i & 7)) & 1`. -/
def isSelected
    (candidate : Nat) : Bool :=
  (selected (candidate >>> 3) >>> (candidate &&& 7)) &&& 1#8 != 0#8

/-- `selected[i >> 3] |= 1u << (i & 7)`, over `(candidate_count + 7) >> 3` bytes. -/
def select
    (candidateCount : Nat) : Int → Option Bitmap
  | .ofNat index =>
    if index >>> 3 < (candidateCount + 7) >>> 3 then
      some (Function.update selected (index >>> 3)
        (selected (index >>> 3) ||| 1#8 <<< (index &&& 7)))
    else
      none
  | .negSucc _ => none

end Bitmap

section Kernel

variable (floor : Score) (scores : Nat → Score) (candidateCount : Nat)

variable (selected : Bitmap)

/-- The walk of a thread past the candidates the bitmap holds. -/
def threadScan
    (thread : Nat) : Best Score :=
  (strided candidateCount topkThreads thread).foldl
    (fun held candidate =>
      if selected.isSelected candidate then held
      else held.consider candidate (scores candidate)) ⟨floor, -1⟩

/-- What lane 0 of a warp stores for thread 0. -/
def warpScan
    (warp : Nat) : Best Score :=
  butterfly Best.better [16, 8, 4, 2, 1]
    (fun lane => threadScan floor scores candidateCount selected
      (warp * topkLanes + lane)) 0

/-- The index thread 0 finds over the warps. -/
def blockScan (selected : Bitmap) : Best Score :=
  ((List.range (topkThreads / topkLanes)).map
    (warpScan floor scores candidateCount selected)).foldl Best.better ⟨floor, -1⟩

/-- The rounds of the kernel: the bitmap and the row after them. -/
def kernelRounds (row : Nat → Int) : Nat → Option (Bitmap × (Nat → Int))
  | 0 => some (fun _ => 0#8, row)
  | round + 1 => do
      let (selected, row) ← kernelRounds row round
      let block := blockScan floor scores candidateCount selected
      let row := Function.update row round block.index
      let selected ← selected.select candidateCount block.index
      return (selected, row)

/--
`v4_indexer_topk_kernel`: the row of indices it leaves.  Its `int` counters hold fewer
than 2^31 candidates and slots, less a block.
-/
def v4IndexerTopkKernel
    (topk : Nat)
    (row : Nat → Int) : Option (Nat → Int) :=
  if candidateCount ≤ topk then
    some ((List.range topkThreads).foldl
      (fun row thread => (strided topk topkThreads thread).foldl
        (fun row index => Function.update row index
          (if index < candidateCount then (index : Int) else -1)) row) row)
  else do
    let (_, row) ← kernelRounds floor scores candidateCount row topk
    return row

end Kernel

/-! ## The bitmap -/

namespace Bitmap

variable (selected : Bitmap)

/-- A candidate's bit in the bitmap. -/
theorem isSelected_eq
    (candidate : Nat) :
    selected.isSelected candidate =
      (selected (candidate / 8)).getLsbD (candidate % 8) := by
  have place : candidate >>> 3 = candidate / 8 := Nat.shiftRight_eq_div_pow candidate 3
  have bit : candidate &&& 7 = candidate % 8 :=
    Nat.and_two_pow_sub_one_eq_mod candidate 3
  have one : ∀ byte : BitVec 8, (byte &&& 1#8 != 0#8) = byte.getLsbD 0 := by
    decide
  rw [isSelected, place, bit, one, BitVec.getLsbD_ushiftRight, Nat.add_zero]

theorem getLsbD_set
    (byte : BitVec 8)
    {set bit : Nat}
    (inside : bit < 8) :
    (byte ||| 1#8 <<< set).getLsbD bit = (byte.getLsbD bit || decide (bit = set)) := by
  rw [BitVec.getLsbD_or, BitVec.getLsbD_shiftLeft]
  congr 1
  by_cases less : bit < set
  · simp [less, Nat.ne_of_lt less]
  · rw [BitVec.getLsbD_one, decide_eq_true inside, decide_eq_false less,
      Bool.eq_iff_iff]
    simp only [Bool.and_eq_true, Bool.not_false, decide_eq_true_iff, true_and]
    omega

/-- Selecting sets one bit and clears none. -/
theorem select_candidate
    {candidateCount pick : Nat}
    (inside : pick < candidateCount) :
    ∃ after, selected.select candidateCount pick = some after ∧
      ∀ candidate, after.isSelected candidate =
        (selected.isSelected candidate || decide (candidate = pick)) := by
  have place : ∀ candidate : Nat, candidate >>> 3 = candidate / 8 := fun candidate =>
    Nat.shiftRight_eq_div_pow candidate 3
  have bit : ∀ candidate : Nat, candidate &&& 7 = candidate % 8 := fun candidate =>
    Nat.and_two_pow_sub_one_eq_mod candidate 3
  refine ⟨_, if_pos ?_, ?_⟩
  · rw [place, place]
    omega
  · intro candidate
    rw [isSelected_eq, isSelected_eq, place, bit]
    by_cases shared : candidate / 8 = pick / 8
    · rw [shared, Function.update_self, getLsbD_set _ (Nat.mod_lt _ (by decide))]
      congr 1
      rw [decide_eq_decide]
      omega
    · have different : candidate ≠ pick := fun same => shared (same ▸ rfl)
      rw [Function.update_of_ne shared, decide_eq_false different, Bool.or_false]

end Bitmap

/-! ## The rounds follow the sort -/

section Rounds

variable {floor : Score} {scores : Nat → Score} {candidateCount : Nat}

/-- A bitmap that holds a list of candidates. -/
def Bitmap.Marks
    (selected : Bitmap)
    (candidateCount : Nat)
    (chosen : List Nat) : Prop :=
  ∀ candidate < candidateCount,
    selected.isSelected candidate = decide (candidate ∈ chosen)

section

variable
    {selected : Bitmap}
    {chosen : List Nat}
    (marks : selected.Marks candidateCount chosen)

include marks

/-- A thread's scan, with the bitmap read as the list it marks. -/
theorem threadScan_eq
    {thread : Nat}
    (inside : thread < topkThreads) :
    threadScan floor scores candidateCount selected thread =
      threadBest floor scores candidateCount (chosen.map Int.ofNat) thread := by
  have skips : ∀ (held : Best Score) (candidates : List Nat),
      candidates.foldl (fun held candidate =>
        if selected.isSelected candidate then held
        else held.consider candidate (scores candidate)) held =
      (candidates.filter fun candidate => !selected.isSelected candidate).foldl
        (fun held candidate => held.consider candidate (scores candidate)) held := by
    intro held candidates
    rw [List.foldl_filter]
    refine List.foldl_ext _ _ _ fun held candidate _ => ?_
    cases selected.isSelected candidate <;> rfl
  rw [threadScan, skips, strided_eq_filter inside, List.filter_filter, threadBest,
    unselected]
  congr 1
  refine List.filter_congr fun candidate listed => ?_
  rw [marks candidate (List.mem_range.mp listed), Bool.eq_iff_iff]
  simp only [Bool.and_eq_true, Bool.not_eq_true', decide_eq_false_iff_not,
    decide_eq_true_iff, ← intCast_mem]
  exact And.comm

theorem blockScan_eq :
    blockScan floor scores candidateCount selected =
      blockBest floor scores candidateCount (chosen.map Int.ofNat) := by
  have lanes : ∀ source ∈ heard [16, 8, 4, 2, 1] 0, source < topkLanes := by decide
  rw [blockScan, blockBest]
  congr 1
  refine List.map_congr_left fun warp listed => butterfly_congr fun lane heardOf => ?_
  have warpInside : warp < 8 := List.mem_range.mp listed
  have laneInside : lane < 32 := lanes lane heardOf
  exact threadScan_eq marks (by simp only [topkThreads, topkLanes]; omega)

end

section

variable
    (above : ∀ candidate < candidateCount, floor < scores candidate)

include above

/-- A round finds the next candidate of the descending order. -/
theorem blockScan_next
    {selected : Bitmap}
    {round : Nat}
    (room : round < candidateCount)
    (marks : selected.Marks candidateCount
      ((descending scores candidateCount).take round)) :
    ∃ pick < candidateCount,
      blockScan floor scores candidateCount selected = entry scores pick ∧
      (descending scores candidateCount).take (round + 1) =
        (descending scores candidateCount).take round ++ [pick] := by
  obtain ⟨free, freeInside, isFree⟩ := @exists_left candidateCount
    ((descending scores candidateCount).take round) (by
      rw [List.length_take, descending_length]
      omega)
  rw [blockScan_eq marks]
  obtain ⟨pick, inside, left, picked⟩ := blockBest_left above freeInside
    (fun listed => isFree (intCast_mem.mp listed))
  refine ⟨pick, inside, picked, ?_⟩
  refine take_succ_eq scores candidateCount inside
    (fun listed => left (intCast_mem.mpr listed)) ?_
  intro other otherInside otherLeft different
  have atLeast := blockBest_atLeast above otherInside
    (fun listed => otherLeft (intCast_mem.mp listed))
  rw [picked] at atLeast
  exact entry_atLeast different.symm atLeast

/--
After every round the row begins with the front of the sort, and the bitmap holds it.
-/
theorem kernelRounds_eq
    (before : Nat → Int)
    {round : Nat}
    (enough : round ≤ candidateCount) :
    ∃ selected row,
      kernelRounds floor scores candidateCount before round = some (selected, row) ∧
      selected.Marks candidateCount ((descending scores candidateCount).take round) ∧
      (List.range round).map row =
        ((descending scores candidateCount).take round).map Int.ofNat ∧
      ∀ index, round ≤ index → row index = before index := by
  induction round with
  | zero =>
    refine ⟨fun _ => 0#8, before, rfl, ?_, rfl, fun _ _ => rfl⟩
    intro candidate _
    rw [Bitmap.isSelected_eq]
    simp
  | succ round ih =>
    obtain ⟨selected, row, reached, marks, written, frame⟩ :=
      ih (by omega)
    obtain ⟨pick, inside, picked, next⟩ := blockScan_next above (by omega) marks
    obtain ⟨after, marked, adds⟩ := selected.select_candidate inside
    refine ⟨after, Function.update row round pick, ?_, ?_, ?_, ?_⟩
    · rw [kernelRounds, reached]
      simp only [Option.bind_eq_bind, Option.bind_some, picked, entry, marked]
      rfl
    · intro candidate candidateInside
      rw [adds, marks candidate candidateInside, next]
      simp only [List.mem_append, List.mem_singleton, Bool.decide_or]
    · rw [next, List.range_succ, List.map_append, List.map_append, ← written]
      congr 1
      · refine List.map_congr_left fun index listed => ?_
        exact Function.update_of_ne (Nat.ne_of_lt (List.mem_range.mp listed)) _ _
      · simp
    · intro index later
      rw [Function.update_of_ne (by omega), frame index (by omega)]

end

/-- With no more candidates than places the row is all of them and then -1. -/
theorem v4IndexerTopkKernel_few
    {topk : Nat}
    (few : candidateCount ≤ topk)
    (before : Nat → Int) :
    ∃ row, v4IndexerTopkKernel floor scores candidateCount topk before = some row ∧
      (List.range topk).map row =
        (List.range candidateCount).map Int.ofNat ++
          List.replicate (topk - candidateCount) (-1) ∧
      ∀ index, topk ≤ index → row index = before index := by
  refine ⟨_, if_pos few, ?_, ?_⟩
  · rw [foldl_strided_store (by decide)]
    obtain ⟨rest, rfl⟩ := Nat.exists_eq_add_of_le few
    rw [List.range_add, List.map_append, Nat.add_sub_cancel_left, List.map_map]
    congr 1
    · refine List.map_congr_left fun index listed => ?_
      have inside := List.mem_range.mp listed
      rw [if_pos (by omega), if_pos inside]
      rfl
    · rw [List.eq_replicate_iff]
      refine ⟨by simp, fun value listed => ?_⟩
      obtain ⟨place, placeListed, rfl⟩ := List.mem_map.mp listed
      have inside := List.mem_range.mp placeListed
      simp only [Function.comp_apply]
      rw [if_pos (by omega), if_neg (by omega)]
  · intro index outside
    rw [foldl_strided_store (by decide)]
    exact if_neg (by omega)

section

variable
    (above : ∀ candidate < candidateCount, floor < scores candidate)
    {topk : Nat}

include above

/-- With more candidates than `topk` the row is the order's front. -/
theorem v4IndexerTopkKernel_many
    (many : topk < candidateCount)
    (before : Nat → Int) :
    ∃ row, v4IndexerTopkKernel floor scores candidateCount topk before = some row ∧
      (List.range topk).map row =
        ((descending scores candidateCount).take topk).map Int.ofNat ∧
      ∀ index, topk ≤ index → row index = before index := by
  obtain ⟨selected, row, reached, -, written, frame⟩ :=
    kernelRounds_eq above before (Nat.le_of_lt many)
  refine ⟨row, ?_, written, frame⟩
  rw [v4IndexerTopkKernel, if_neg (Nat.not_le_of_lt many), reached]
  rfl

/-- A returned row names exactly the best selection. -/
theorem v4IndexerTopkKernel_selected
    {before row : Nat → Int}
    (returned : v4IndexerTopkKernel floor scores candidateCount topk before = some row)
    (candidate : Nat) :
    (∃ index < topk, row index = candidate) ↔
      candidate ∈
        (descending scores candidateCount).take (min candidateCount topk) := by
  have places : (∃ index < topk, row index = candidate) ↔
      (candidate : Int) ∈ (List.range topk).map row := by
    simp only [List.mem_map, List.mem_range]
  rw [places]
  rcases Nat.lt_or_ge topk candidateCount with many | few
  · obtain ⟨row', same, written, -⟩ := v4IndexerTopkKernel_many above many before
    obtain rfl := Option.some.inj (returned.symm.trans same)
    rw [written, intCast_mem, Nat.min_eq_right (Nat.le_of_lt many)]
  · obtain ⟨row', same, written, -⟩ :=
      @v4IndexerTopkKernel_few _ _ floor scores _ _ few before
    obtain rfl := Option.some.inj (returned.symm.trans same)
    rw [written, Nat.min_eq_left few, List.mem_append, intCast_mem, List.mem_range,
      List.take_of_length_le (by simp), mem_descending]
    constructor
    · rintro (inside | padding)
      · exact inside
      · exact absurd (List.eq_of_mem_replicate padding) (by omega)
    · exact .inl

end

end Rounds

end Aeon.Attention
