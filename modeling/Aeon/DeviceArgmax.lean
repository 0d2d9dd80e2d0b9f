import Aeon.BlockReduction
import Aeon.StableSort
import Mathlib.Order.WithBot

namespace Aeon.Sampling

open BlockReduction StableSort WarpReduction

/-!
# The device argmax

The two kernels of the greedy path: each block of 256 threads scans its stride of the
logits and reduces in shared memory, and one more block reduces over the results of the
blocks.  The logits are finite, so that negative infinity is the `⊥` under them.
-/

variable {Score : Type} [LinearOrder Score]

/-- A value with the index it was found at. -/
structure Candidate (Score : Type) where
  value : WithBot Score
  index : Nat
  deriving DecidableEq

namespace Candidate

/-- The comparison of the reductions: the larger value, then the smaller index. -/
def Beats (other held : Candidate Score) : Prop :=
  held.value < other.value ∨ other.value = held.value ∧ other.index < held.index

instance (other held : Candidate Score) : Decidable (Beats other held) :=
  inferInstanceAs (Decidable (_ ∨ _))

/-- One step of a reduction. -/
def better (held other : Candidate Score) : Candidate Score :=
  if Beats other held then other else held

end Candidate

/-- Threads of a block of either kernel. -/
def argmaxThreads : Nat := 256

/-- The index the final scan starts from. -/
def intMax : Nat := 2 ^ 31 - 1

section Kernels

variable (logits : Nat → Score) (n : Nat)

/-- `argmax_blocks_`. -/
def argmaxBlocks : Nat :=
  (n + 255) / 256

/-- One turn of a thread's scan. -/
def consider
    (best : Candidate Score)
    (index : Nat) : Candidate Score :=
  if best.value < logits index then ⟨logits index, index⟩ else best

/-- The scan of a thread of the partial kernel. -/
def partialScan (gtid : Nat) : Candidate Score :=
  (strided n (argmaxBlocks n * argmaxThreads) gtid).foldl (consider logits) ⟨⊥, n⟩

/-- `argmax_fp16_partial_kernel`: what a block writes. -/
def argmaxPartial (block : Nat) : Candidate Score :=
  tree Candidate.better 8 fun tid => partialScan logits n (block * argmaxThreads + tid)

/-- `argmax_partial_reduce_kernel` over the results of the blocks. -/
def argmaxPartialReduce
    (partials : Nat → Candidate Score)
    (partialCount : Nat) : Nat :=
  (tree Candidate.better 8 fun tid =>
    ((strided partialCount argmaxThreads tid).map partials).foldl
      Candidate.better ⟨⊥, intMax⟩).index

/-- `Sampler::device_argmax`; its `int` counters hold a vocabulary of up to 2^30. -/
def deviceArgmax : Nat :=
  argmaxPartialReduce (argmaxPartial logits n) (argmaxBlocks n)

end Kernels

/-! ## The reductions pick the first maximum -/

namespace Candidate

/-- At least as good in the order of the reductions. -/
def AtLeast (one other : Candidate Score) : Prop :=
  ¬ Beats other one

/-- `better` picks one of two candidates, no worse than either. -/
theorem better_picks : Picks (@AtLeast Score _) better where
  refl := by
    rintro value (more | ⟨-, lower⟩)
    · exact lt_irrefl _ more
    · exact Nat.lt_irrefl _ lower
  trans := by
    intro one two three atLeast atLeast'
    simp only [AtLeast, Beats, not_or, not_and, not_lt] at *
    obtain ⟨value, index⟩ := atLeast
    obtain ⟨value', index'⟩ := atLeast'
    refine ⟨le_trans value' value, fun same => ?_⟩
    have same' : three.value = two.value := le_antisymm value' (same ▸ value)
    exact Nat.le_trans (index (same' ▸ same)) (index' same')
  one_of := by
    intro one two
    unfold better
    split
    · exact .inr rfl
    · exact .inl rfl
  left := by
    intro one two
    unfold better
    split
    next beats =>
      simp only [AtLeast, Beats, not_or, not_and, not_lt] at *
      rcases beats with more | ⟨same, lower⟩
      · exact ⟨le_of_lt more, fun same => absurd (same ▸ more) (lt_irrefl _)⟩
      · exact ⟨ge_of_eq same, fun _ => Nat.le_of_lt lower⟩
    next =>
      rintro (more | ⟨-, lower⟩)
      · exact lt_irrefl _ more
      · exact Nat.lt_irrefl _ lower
  right := by
    intro one two
    unfold better
    split
    next =>
      rintro (more | ⟨-, lower⟩)
      · exact lt_irrefl _ more
      · exact Nat.lt_irrefl _ lower
    next stays => exact stays

end Candidate

section Reductions

variable {logits : Nat → Score} {n : Nat}

/-- A logit as the reductions see it. -/
def found
    (logits : Nat → Score)
    (index : Nat) : Candidate Score :=
  ⟨logits index, index⟩

/-- A thread folds its own stride of the vocabulary. -/
theorem partialScan_eq
    (logits : Nat → Score)
    (n : Nat)
    {gtid : Nat}
    (positive : 0 < n) :
    partialScan logits n gtid =
      ((strided n (argmaxBlocks n * argmaxThreads) gtid).map (found logits)).foldl
        Candidate.better ⟨⊥, n⟩ := by
  have step : 0 < argmaxBlocks n * argmaxThreads := by
    simp only [argmaxBlocks, argmaxThreads]
    omega
  have upwards := @strided_pairwise n _ gtid step
  unfold partialScan
  generalize strided n (argmaxBlocks n * argmaxThreads) gtid = indices at upwards
  have walk : ∀ held : Candidate Score,
      (held.value = ⊥ ∨ ∀ index ∈ indices, held.index < index) →
      indices.foldl (consider logits) held =
        (indices.map (found logits)).foldl Candidate.better held := by
    induction indices with
    | nil => exact fun _ _ => rfl
    | cons first rest ih =>
      obtain ⟨above, upwards⟩ := List.pairwise_cons.mp upwards
      intro held earlier
      have same : consider logits held first = held.better (found logits first) := by
        unfold consider Candidate.better Candidate.Beats
        refine if_congr (Iff.symm (or_iff_left ?_)) rfl rfl
        rintro ⟨equal, lower⟩
        rcases earlier with bottom | earlier
        · exact WithBot.coe_ne_bot (equal.trans bottom)
        · exact Nat.lt_asymm lower (earlier first List.mem_cons_self)
      rw [List.foldl_cons, List.map_cons, List.foldl_cons, same]
      refine ih upwards _ ?_
      rcases Candidate.better_picks.one_of held (found logits first) with kept | taken
      · rw [kept]
        exact earlier.imp id fun earlier index listed =>
          earlier index (List.mem_cons_of_mem _ listed)
      · rw [taken]
        exact .inr above
  exact walk _ (.inl rfl)

/-- A block's result is a logit, or nothing above negative infinity. -/
theorem argmaxPartial_mem
    (positive : 0 < n)
    (block : Nat) :
    (argmaxPartial logits n block).value = ⊥ ∨
      ∃ index < n, argmaxPartial logits n block = found logits index := by
  have step : 0 < argmaxBlocks n * argmaxThreads := by
    simp only [argmaxBlocks, argmaxThreads]
    omega
  obtain ⟨tid, -, same⟩ := tree_mem Candidate.better_picks 8
    (fun tid => partialScan logits n (block * argmaxThreads + tid))
  rw [← argmaxPartial, partialScan_eq logits n positive] at same
  rcases List.mem_cons.mp (Candidate.better_picks.foldl_mem ⟨⊥, n⟩
    ((strided n (argmaxBlocks n * argmaxThreads) (block * argmaxThreads + tid)).map
      (found logits))) with nothing | listed
  · rw [same, nothing]
    exact .inl rfl
  · obtain ⟨index, walked, equal⟩ := List.mem_map.mp listed
    exact .inr ⟨index, ((mem_strided step).mp walked).2.1, same.trans equal.symm⟩

/-- A block's candidate is no worse than what its threads saw. -/
theorem argmaxPartial_atLeast
    {index : Nat}
    (inside : index < n) :
    (argmaxPartial logits n (index / argmaxThreads)).AtLeast (found logits index) := by
  have step : 0 < argmaxBlocks n * argmaxThreads := by
    simp only [argmaxBlocks, argmaxThreads]
    omega
  have ofTree := tree_atLeast Candidate.better_picks 8
    (fun tid => partialScan logits n (index / argmaxThreads * argmaxThreads + tid))
    (index % argmaxThreads) (Nat.mod_lt _ (by decide))
  have gtid :
      index / argmaxThreads * argmaxThreads + index % argmaxThreads = index := by
    rw [Nat.mul_comm]
    exact Nat.div_add_mod _ _
  rw [← argmaxPartial, partialScan_eq logits n (by omega), gtid] at ofTree
  refine Candidate.better_picks.trans _ _ _ ofTree ?_
  refine Candidate.better_picks.foldl_atLeast _ _ _
    (List.mem_cons_of_mem _ (List.mem_map_of_mem ?_))
  exact (mem_strided step).mpr ⟨Nat.le_refl _, inside, rfl⟩

/-- Both passes together find the first of the largest logits. -/
theorem deviceArgmax_isFirst
    (logits : Nat → Score)
    {n : Nat}
    (positive : 0 < n) :
    IsFirst logits n (deviceArgmax logits n) := by
  have picks := @Candidate.better_picks Score _
  have isDevice : deviceArgmax logits n = (tree Candidate.better 8 fun tid =>
      ((strided (argmaxBlocks n) argmaxThreads tid).map (argmaxPartial logits n)).foldl
        Candidate.better ⟨⊥, intMax⟩).index := rfl
  rw [isDevice]
  generalize reduced : (tree Candidate.better 8 fun tid =>
    ((strided (argmaxBlocks n) argmaxThreads tid).map (argmaxPartial logits n)).foldl
      Candidate.better ⟨⊥, intMax⟩) = result
  -- every logit loses to the block that walks it, and that block to the result
  have atLeast : ∀ index < n, result.AtLeast (found logits index) := by
    intro index inside
    have blockInside : index / argmaxThreads < argmaxBlocks n := by
      simp only [argmaxThreads, argmaxBlocks]
      omega
    have ofTree := tree_atLeast picks 8 (fun tid =>
      ((strided (argmaxBlocks n) argmaxThreads tid).map (argmaxPartial logits n)).foldl
        Candidate.better ⟨⊥, intMax⟩) (index / argmaxThreads % argmaxThreads)
      (Nat.mod_lt _ (by decide))
    rw [reduced] at ofTree
    have ofScan := picks.foldl_atLeast ⟨⊥, intMax⟩
      ((strided (argmaxBlocks n) argmaxThreads
        (index / argmaxThreads % argmaxThreads)).map (argmaxPartial logits n)) _
      (List.mem_cons_of_mem _ (List.mem_map_of_mem ((mem_strided (by decide)).mpr
        ⟨Nat.mod_le _ _, blockInside, (Nat.mod_mod _ _).symm⟩)))
    exact picks.trans _ _ _ ofTree
      (picks.trans _ _ _ ofScan (argmaxPartial_atLeast inside))
  have isLogit : ∃ index < n, result = found logits index := by
    have bottomLoses : result.value ≠ ⊥ := fun bottom =>
      atLeast 0 positive (.inl (bottom ▸ WithBot.bot_lt_coe _))
    obtain ⟨tid, -, same⟩ := tree_mem picks 8 (fun tid =>
      ((strided (argmaxBlocks n) argmaxThreads tid).map (argmaxPartial logits n)).foldl
        Candidate.better ⟨⊥, intMax⟩)
    rw [reduced] at same
    rcases List.mem_cons.mp (picks.foldl_mem ⟨⊥, intMax⟩
      ((strided (argmaxBlocks n) argmaxThreads tid).map (argmaxPartial logits n))) with
      nothing | listed
    · exact absurd (by rw [same, nothing]) bottomLoses
    · obtain ⟨block, -, equal⟩ := List.mem_map.mp listed
      rcases @argmaxPartial_mem _ _ logits n positive block with bottom | isFound
      · exact absurd (by rw [same, ← equal, bottom]) bottomLoses
      · obtain ⟨index, inside, isFound⟩ := isFound
        exact ⟨index, inside, by rw [same, ← equal, isFound]⟩
  obtain ⟨index, inside, rfl⟩ := isLogit
  refine ⟨inside, fun other otherInside different => ?_⟩
  have notBeats := atLeast other otherInside
  simp only [Candidate.AtLeast, Candidate.Beats, found, not_or, not_and, not_lt,
    WithBot.coe_le_coe, WithBot.coe_inj] at notBeats
  rcases lt_or_eq_of_le notBeats.1 with less | equal
  · exact .inl less
  · exact .inr ⟨equal, Nat.lt_of_le_of_ne (notBeats.2 equal) (Ne.symm different)⟩

end Reductions

end Aeon.Sampling
