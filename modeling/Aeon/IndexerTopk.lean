import Aeon.WarpReduction
import Mathlib.Data.List.Nodup
import Mathlib.Order.Basic
import Mathlib.Order.Lattice

namespace Aeon.Attention

open WarpReduction

/-!
# The indexer's selection

`v4_indexer_topk_kernel`: the best candidates by score, a tie going to the lower
index.  Every round each thread walks its stride of the candidates not chosen yet,
the lanes of a warp exchange what they found, and thread 0 picks from the warps.
Scores are finite, so that they compare as a linear order and the value a search
starts from is below all of them.
-/

variable {Score : Type} [LinearOrder Score]

/-- A score with the candidate it belongs to; the index is -1 where there is none. -/
structure Best (Score : Type) where
  score : Score
  index : Int
  deriving DecidableEq

namespace Best

/-- The comparison of the reductions: the higher score, then the lower index. -/
def Beats (other held : Best Score) : Prop :=
  held.score < other.score ∨
    other.score = held.score ∧ 0 ≤ other.index ∧
      (held.index < 0 ∨ other.index < held.index)

instance (other held : Best Score) : Decidable (Beats other held) :=
  inferInstanceAs (Decidable (_ ∨ _))

/-- One step of a reduction. -/
def better (held other : Best Score) : Best Score :=
  if Beats other held then other else held

/-- The comparison of a thread's own walk. -/
def consider
    (held : Best Score)
    (candidate : Nat)
    (score : Score) : Best Score :=
  if held.score < score ∨
      score = held.score ∧ 0 ≤ held.index ∧ (candidate : Int) < held.index then
    ⟨score, candidate⟩
  else
    held

end Best

/-- Threads of a block of the kernel. -/
def topkThreads : Nat := 256

/-- Lanes of a warp. -/
def topkLanes : Nat := 32

section Kernel

variable (floor : Score) (scores : Nat → Score) (candidateCount : Nat)

/-- The candidates of a thread's stride that are not chosen. -/
def unselected
    (selected : List Int)
    (thread : Nat) : List Nat :=
  (List.range candidateCount).filter fun candidate =>
    candidate % topkThreads = thread ∧ (candidate : Int) ∉ selected

/-- The walk of a thread over its candidates. -/
def threadBest
    (selected : List Int)
    (thread : Nat) : Best Score :=
  (unselected candidateCount selected thread).foldl
    (fun held candidate => held.consider candidate (scores candidate)) ⟨floor, -1⟩

/-- What lane 0 of a warp holds after the exchanges. -/
def warpBest
    (selected : List Int)
    (warp : Nat) : Best Score :=
  butterfly Best.better [16, 8, 4, 2, 1]
    (fun lane => threadBest floor scores candidateCount selected
      (warp * topkLanes + lane)) 0

/-- What thread 0 picks from the warps. -/
def blockBest (selected : List Int) : Best Score :=
  ((List.range (topkThreads / topkLanes)).map
    (warpBest floor scores candidateCount selected)).foldl Best.better ⟨floor, -1⟩

/-- The rounds of the search. -/
def searchRounds : Nat → List Int
  | 0 => []
  | round + 1 =>
    searchRounds round ++
      [(blockBest floor scores candidateCount (searchRounds round)).index]

/-- `v4_indexer_topk_kernel`: the whole row of the index buffer. -/
def indexerTopk (topk : Nat) : List Int :=
  if candidateCount ≤ topk then
    (List.range topk).map fun index =>
      if index < candidateCount then (index : Int) else -1
  else
    searchRounds floor scores candidateCount topk

end Kernel

/-! ## The reductions pick the best -/

namespace Best

/-- At least as good in the order of the selection. -/
def AtLeast (one other : Best Score) : Prop :=
  ¬ Beats other one

theorem better_picks : Picks (@AtLeast Score _) better where
  refl := by
    intro value
    rintro (more | ⟨-, real, none_ | lower⟩)
    · exact lt_irrefl _ more
    · omega
    · omega
  trans := by
    intro one two three atLeast atLeast'
    simp only [AtLeast, Beats, not_or, not_and, not_lt] at *
    obtain ⟨score, index⟩ := atLeast
    obtain ⟨score', index'⟩ := atLeast'
    refine ⟨le_trans score' score, fun same real => ?_⟩
    have same' : three.score = two.score := le_antisymm score' (same ▸ score)
    have same'' : two.score = one.score := same' ▸ same
    have := index' same' real
    have := index same''
    omega
  one_of := by
    intro one two
    unfold better
    split
    · exact .inr rfl
    · exact .inl rfl
  left := by
    intro one two
    unfold better
    split
    next beats =>
      simp only [AtLeast, Beats, not_or, not_and, not_lt] at *
      rcases beats with more | ⟨same, real, index⟩
      · exact ⟨le_of_lt more, fun same => absurd (same ▸ more) (lt_irrefl _)⟩
      · exact ⟨ge_of_eq same, fun _ _ => by omega⟩
    next =>
      rintro (more | ⟨-, real, none_ | lower⟩)
      · exact lt_irrefl _ more
      · omega
      · omega
  right := by
    intro one two
    unfold better
    split
    next =>
      rintro (more | ⟨-, real, none_ | lower⟩)
      · exact lt_irrefl _ more
      · omega
      · omega
    next stays => exact stays

end Best

/-! ## A round picks the best candidate left -/

section Rounds

variable {floor : Score} {scores : Nat → Score} {candidateCount : Nat}

/-- A candidate as the reductions see it. -/
def entry
    (scores : Nat → Score)
    (candidate : Nat) : Best Score :=
  ⟨scores candidate, candidate⟩

theorem consider_eq_better
    {held : Best Score}
    (started : held = ⟨floor, -1⟩ ∨ 0 ≤ held.index)
    {candidate : Nat}
    (above : floor < scores candidate) :
    held.consider candidate (scores candidate) = held.better (entry scores candidate) := by
  unfold Best.consider Best.better
  refine if_congr ?_ rfl rfl
  unfold Best.Beats
  simp only [entry]
  refine or_congr Iff.rfl (and_congr_right fun same => ?_)
  rcases started with rfl | real
  · exact absurd (same ▸ above) (lt_irrefl _)
  · omega

/-- A thread keeps the better of the candidates it owns. -/
theorem threadBest_eq
    (above : ∀ candidate < candidateCount, floor < scores candidate)
    (selected : List Int)
    (thread : Nat) :
    threadBest floor scores candidateCount selected thread =
      ((unselected candidateCount selected thread).map (entry scores)).foldl
        Best.better ⟨floor, -1⟩ := by
  have inside : ∀ candidate ∈ unselected candidateCount selected thread,
      candidate < candidateCount := by
    intro candidate listed
    exact List.mem_range.mp (List.mem_filter.mp listed).1
  unfold threadBest
  generalize unselected candidateCount selected thread = candidates at inside
  have walk : ∀ held : Best Score, held = ⟨floor, -1⟩ ∨ 0 ≤ held.index →
      candidates.foldl (fun held candidate => held.consider candidate (scores candidate))
          held =
        (candidates.map (entry scores)).foldl Best.better held := by
    induction candidates with
    | nil => exact fun _ _ => rfl
    | cons first rest ih =>
      intro held started
      have same := consider_eq_better started (above first
        (inside first List.mem_cons_self))
      rw [List.foldl_cons, List.map_cons, List.foldl_cons, same]
      refine ih
        (fun other listed => inside other (List.mem_cons_of_mem _ listed)) _ ?_
      rcases Best.better_picks.one_of held (entry scores first) with kept | taken
      · rw [kept]
        exact started
      · rw [taken]
        exact .inr (Int.natCast_nonneg first)
  exact walk _ (.inl rfl)

theorem lane_heard
    {lane : Nat}
    (inside : lane < topkLanes) :
    lane ∈ heard [16, 8, 4, 2, 1] 0 := by
  have all : ∀ lane < 32, lane ∈ heard [16, 8, 4, 2, 1] 0 := by decide
  exact all lane inside

section

variable
    (above : ∀ candidate < candidateCount, floor < scores candidate)

include above

/-- The block's pick is no worse than any candidate left, -/
theorem blockBest_atLeast
    {selected : List Int}
    {candidate : Nat}
    (inside : candidate < candidateCount)
    (left : (candidate : Int) ∉ selected) :
    (blockBest floor scores candidateCount selected).AtLeast (entry scores candidate) := by
  have picks := @Best.better_picks Score _
  have warpSplit : candidate % topkThreads / topkLanes * topkLanes +
      candidate % topkThreads % topkLanes = candidate % topkThreads := by
    rw [Nat.mul_comm]
    exact Nat.div_add_mod _ _
  have warpInside : candidate % topkThreads / topkLanes < topkThreads / topkLanes := by
    simp only [topkThreads, topkLanes]
    omega
  have ofBlock := picks.foldl_atLeast ⟨floor, -1⟩
    ((List.range (topkThreads / topkLanes)).map
      (warpBest floor scores candidateCount selected))
    _ (List.mem_cons_of_mem _ (List.mem_map_of_mem (List.mem_range.mpr warpInside)))
  have ofWarp := picks.butterfly_atLeast [16, 8, 4, 2, 1]
    (fun lane => threadBest floor scores candidateCount selected
      (candidate % topkThreads / topkLanes * topkLanes + lane)) 0 _
    (lane_heard (Nat.mod_lt (candidate % topkThreads) (by decide)))
  have ofThread : (threadBest floor scores candidateCount selected
      (candidate % topkThreads)).AtLeast (entry scores candidate) := by
    rw [threadBest_eq above]
    refine picks.foldl_atLeast _ _ _ (List.mem_cons_of_mem _ (List.mem_map_of_mem ?_))
    refine List.mem_filter.mpr ⟨List.mem_range.mpr inside, ?_⟩
    exact decide_eq_true ⟨rfl, left⟩
  rw [warpSplit] at ofWarp
  exact picks.trans _ _ _ ofBlock (picks.trans _ _ _ ofWarp ofThread)

/-- The pick of a round is a candidate left, or nothing was. -/
theorem blockBest_mem
    (selected : List Int) :
    blockBest floor scores candidateCount selected = ⟨floor, -1⟩ ∨
      ∃ candidate < candidateCount, (candidate : Int) ∉ selected ∧
        blockBest floor scores candidateCount selected = entry scores candidate := by
  have picks := @Best.better_picks Score _
  rcases List.mem_cons.mp (picks.foldl_mem ⟨floor, -1⟩
    ((List.range (topkThreads / topkLanes)).map
      (warpBest floor scores candidateCount selected))) with nothing | ofWarp
  · exact .inl nothing
  obtain ⟨warp, -, same⟩ := List.mem_map.mp ofWarp
  obtain ⟨lane, -, ofThread⟩ := picks.butterfly_mem [16, 8, 4, 2, 1]
    (fun lane => threadBest floor scores candidateCount selected
      (warp * topkLanes + lane)) 0
  rw [threadBest_eq above] at ofThread
  have whole := same.symm.trans ofThread
  rcases List.mem_cons.mp (picks.foldl_mem ⟨floor, -1⟩
    ((unselected candidateCount selected (warp * topkLanes + lane)).map
      (entry scores))) with nothing | ofCandidate
  · exact .inl (whole.trans nothing)
  · obtain ⟨candidate, listed, found⟩ := List.mem_map.mp ofCandidate
    obtain ⟨inside, passes⟩ := List.mem_filter.mp listed
    exact .inr ⟨candidate, List.mem_range.mp inside, (of_decide_eq_true passes).2,
      whole.trans found.symm⟩

/-- and is itself one of those left. -/
theorem blockBest_left
    {selected : List Int}
    {candidate : Nat}
    (inside : candidate < candidateCount)
    (left : (candidate : Int) ∉ selected) :
    ∃ pick < candidateCount, (pick : Int) ∉ selected ∧
      blockBest floor scores candidateCount selected = entry scores pick := by
  rcases blockBest_mem above selected with nothing | found
  · have atLeast := blockBest_atLeast above inside left
    rw [nothing] at atLeast
    exact absurd (.inl (above candidate inside)) atLeast
  · exact found

end

/-- The best candidates: none twice, and none left out that is better than one in. -/
structure BestSelection
    (scores : Nat → Score)
    (candidateCount size : Nat)
    (selection : List Nat) : Prop where
  nodup : selection.Nodup
  inside : ∀ candidate ∈ selection, candidate < candidateCount
  length : selection.length = size
  best : ∀ candidate ∈ selection, ∀ other < candidateCount, other ∉ selection →
    scores other < scores candidate ∨
      scores other = scores candidate ∧ candidate < other

/-- Between two candidates the lower index wins a tie. -/
theorem entry_atLeast
    {candidate other : Nat}
    (different : candidate ≠ other)
    (atLeast : (entry scores candidate).AtLeast (entry scores other)) :
    scores other < scores candidate ∨
      scores other = scores candidate ∧ candidate < other := by
  simp only [Best.AtLeast, Best.Beats, entry, not_or, not_and, not_lt] at atLeast
  rcases lt_or_eq_of_le atLeast.1 with less | same
  · exact .inl less
  · have := atLeast.2 same (Int.natCast_nonneg other)
    exact .inr ⟨same, by omega⟩

section

variable
    {selection : List Nat}

/-- While fewer are selected, one is left. -/
theorem exists_left
    (fewer : selection.length < candidateCount) :
    ∃ candidate < candidateCount, candidate ∉ selection := by
  by_contra all
  have contained : List.range candidateCount ⊆ selection := by
    intro candidate listed
    by_contra out
    exact all ⟨candidate, List.mem_range.mp listed, out⟩
  have length := List.nodup_range.length_le_of_subset contained
  rw [List.length_range] at length
  omega

theorem intCast_mem
    {candidate : Nat} :
    (candidate : Int) ∈ selection.map Int.ofNat ↔ candidate ∈ selection := by
  constructor
  · intro listed
    obtain ⟨other, found, same⟩ := List.mem_map.mp listed
    exact Int.ofNat.inj same ▸ found
  · exact fun listed => List.mem_map_of_mem listed

end

section

variable
    (above : ∀ candidate < candidateCount, floor < scores candidate)

include above

/-- Each round extends the best selection by one. -/
theorem searchRounds_best
    {rounds : Nat}
    (enough : rounds ≤ candidateCount) :
    ∃ selection, searchRounds floor scores candidateCount rounds =
        selection.map Int.ofNat ∧
      BestSelection scores candidateCount rounds selection := by
  induction rounds with
  | zero => exact ⟨[], rfl, by simp, by simp, rfl, by simp⟩
  | succ rounds ih =>
    obtain ⟨selection, same, nodup, inside, length, best⟩ :=
      ih (by omega)
    obtain ⟨free, freeInside, isFree⟩ := exists_left
      (by omega : selection.length < candidateCount)
    obtain ⟨pick, pickInside, left, picked⟩ := blockBest_left above freeInside
      (fun listed => isFree (intCast_mem.mp listed))
    have unpicked : pick ∉ selection := fun listed => left (intCast_mem.mpr listed)
    refine ⟨selection ++ [pick], ?_, ?_, ?_, ?_, ?_⟩
    · rw [searchRounds, same, picked, List.map_append]
      rfl
    · rw [List.nodup_append]
      exact ⟨nodup, List.nodup_singleton pick, fun one listed other single equal =>
        unpicked (List.mem_singleton.mp single ▸ equal ▸ listed)⟩
    · intro candidate listed
      rcases List.mem_append.mp listed with old | new
      · exact inside candidate old
      · exact List.mem_singleton.mp new ▸ pickInside
    · rw [List.length_append, length, List.length_singleton]
    · intro candidate listed other otherInside out
      have outOld : other ∉ selection := fun found =>
        out (List.mem_append_left _ found)
      rcases List.mem_append.mp listed with old | new
      · exact best candidate old other otherInside outOld
      · obtain rfl := List.mem_singleton.mp new
        have atLeast := blockBest_atLeast above otherInside
          (fun found => outOld (intCast_mem.mp found))
        rw [picked] at atLeast
        refine entry_atLeast (fun equal => out ?_) atLeast
        exact List.mem_append_right _ (equal ▸ List.mem_singleton_self _)

/-- The best selection, filled up with `-1`. -/
theorem indexerTopk_best
    (topk : Nat) :
    ∃ selection, BestSelection scores candidateCount (min topk candidateCount)
        selection ∧
      indexerTopk floor scores candidateCount topk =
        selection.map Int.ofNat ++ List.replicate (topk - candidateCount) (-1) := by
  unfold indexerTopk
  split
  next few =>
    refine ⟨List.range candidateCount, ⟨List.nodup_range, ?_, ?_, ?_⟩, ?_⟩
    · exact fun candidate listed => List.mem_range.mp listed
    · rw [List.length_range, Nat.min_eq_right few]
    · exact fun _ _ other inside out => absurd (List.mem_range.mpr inside) out
    · obtain ⟨rest, rfl⟩ := Nat.exists_eq_add_of_le few
      rw [List.range_add, List.map_append, Nat.add_sub_cancel_left, List.map_map]
      congr 1
      · refine List.map_congr_left fun candidate listed => ?_
        rw [if_pos (List.mem_range.mp listed)]
        rfl
      · rw [List.eq_replicate_iff]
        refine ⟨by simp, fun index listed => ?_⟩
        obtain ⟨place, -, rfl⟩ := List.mem_map.mp listed
        exact if_neg (Nat.not_lt.mpr (Nat.le_add_right _ _))
  next many =>
    obtain ⟨selection, same, best⟩ := searchRounds_best above
      (Nat.le_of_lt (Nat.lt_of_not_le many))
    refine ⟨selection, ?_, ?_⟩
    · rwa [Nat.min_eq_left (by omega)]
    · rw [same, Nat.sub_eq_zero_of_le (by omega)]
      simp

end

/-- Only the scores of candidates matter. -/
theorem indexerTopk_congr
    {others : Nat → Score}
    (same : ∀ candidate < candidateCount, scores candidate = others candidate)
    (topk : Nat) :
    indexerTopk floor scores candidateCount topk =
      indexerTopk floor others candidateCount topk := by
  have walk : ∀ selected thread, threadBest floor scores candidateCount selected thread =
      threadBest floor others candidateCount selected thread := by
    intro selected thread
    refine List.foldl_ext _ _ _ fun held candidate listed => ?_
    rw [same candidate (List.mem_range.mp (List.mem_filter.mp listed).1)]
  have block : ∀ selected, blockBest floor scores candidateCount selected =
      blockBest floor others candidateCount selected := by
    intro selected
    unfold blockBest warpBest
    simp only [walk]
  have rounds : ∀ round, searchRounds floor scores candidateCount round =
      searchRounds floor others candidateCount round := by
    intro round
    induction round with
    | zero => rfl
    | succ round ih =>
      rw [searchRounds, searchRounds, ih, block]
  unfold indexerTopk
  rw [rounds]

end Rounds

end Aeon.Attention
