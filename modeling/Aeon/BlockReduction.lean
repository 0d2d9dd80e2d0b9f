import Aeon.WarpReduction
import Mathlib.Data.List.Nodup
import Mathlib.Logic.Function.Basic
import Mathlib.Algebra.Group.Nat.Defs

namespace Aeon.BlockReduction

open WarpReduction

/-!
# Loops and reductions of a block of threads

A thread of a block walks every `step`-th index from its own number on, so that the
threads of the block share the indices out among them.  A tree reduction in shared
memory halves the number of threads that take part until one value is left.
-/

variable {Value : Type}

/-! ## Strided loops -/

/-- The indices of `for (i = first; i < count; i += step)`. -/
def strided (count step first : Nat) : List Nat :=
  List.range' first ((count - first + (step - 1)) / step) step

theorem mem_strided
    {count step first index : Nat}
    (positive : 0 < step) :
    index ∈ strided count step first ↔
      first ≤ index ∧ index < count ∧ index % step = first % step := by
  unfold strided
  rw [List.mem_range']
  constructor
  · rintro ⟨turn, less, rfl⟩
    have enough := (Nat.lt_div_iff_mul_lt positive).mp less
    rw [Nat.mul_comm] at enough
    refine ⟨Nat.le_add_right _ _, by omega, Nat.add_mul_mod_self_left _ _ _⟩
  · rintro ⟨atLeast, inside, same⟩
    obtain ⟨gap, rfl⟩ := Nat.exists_eq_add_of_le atLeast
    have divides : step ∣ gap := by
      have difference := Nat.sub_mod_eq_zero_of_mod_eq same
      rw [Nat.add_sub_cancel_left] at difference
      exact Nat.dvd_of_mod_eq_zero difference
    refine ⟨gap / step, ?_, ?_⟩
    · rw [Nat.lt_div_iff_mul_lt positive, Nat.div_mul_cancel divides]
      omega
    · rw [Nat.mul_div_cancel' divides]

/-- A strided loop walks upwards. -/
theorem strided_pairwise
    {count step first : Nat}
    (positive : 0 < step) :
    (strided count step first).Pairwise (· < ·) :=
  List.pairwise_lt_range' step positive

theorem strided_eq_filter
    {count step first : Nat}
    (inside : first < step) :
    strided count step first =
      (List.range count).filter fun index => index % step = first := by
  have positive : 0 < step := by omega
  have asymm : ∀ one other : Nat, one ∈ strided count step first →
      other ∈ (List.range count).filter (fun index => index % step = first) →
      one < other → other < one → one = other :=
    fun one other _ _ less more => absurd more (Nat.lt_asymm less)
  refine List.Perm.eq_of_pairwise asymm (strided_pairwise positive)
    (List.pairwise_lt_range.filter _) ?_
  · rw [List.perm_ext_iff_of_nodup ((strided_pairwise positive).imp Nat.ne_of_lt)
      (List.nodup_range.filter _)]
    intro index
    rw [mem_strided positive, List.mem_filter, List.mem_range, decide_eq_true_iff,
      Nat.mod_eq_of_lt inside]
    constructor
    · exact fun ⟨_, below, same⟩ => ⟨below, same⟩
    · rintro ⟨below, rfl⟩
      exact ⟨Nat.mod_le _ _, below, rfl⟩

/-- The threads of a block walk every index between them. -/
theorem mem_strided_cover
    {count step index : Nat}
    (positive : 0 < step) :
    index ∈ (List.range step).flatMap (strided count step) ↔ index < count := by
  rw [List.mem_flatMap]
  constructor
  · rintro ⟨first, -, listed⟩
    exact ((mem_strided positive).mp listed).2.1
  · intro inside
    refine ⟨index % step, List.mem_range.mpr (Nat.mod_lt _ positive), ?_⟩
    exact (mem_strided positive).mpr
      ⟨Nat.mod_le _ _, inside, (Nat.mod_mod _ _).symm⟩

theorem foldl_store
    (value before : Nat → Value)
    (indices : List Nat) :
    indices.foldl (fun buffer index => Function.update buffer index (value index))
        before =
      fun index => if index ∈ indices then value index else before index := by
  induction indices generalizing before with
  | nil => simp
  | cons first rest ih =>
    rw [List.foldl_cons, ih]
    funext index
    by_cases later : index ∈ rest
    · simp [later]
    · by_cases same : index = first
      · simp [same]
      · simp [later, same]

theorem foldl_strided_store
    {step : Nat}
    (positive : 0 < step)
    (value before : Nat → Value)
    (count : Nat) :
    (List.range step).foldl
        (fun buffer thread => (strided count step thread).foldl
          (fun buffer index => Function.update buffer index (value index)) buffer)
        before =
      fun index => if index < count then value index else before index := by
  rw [← List.foldl_flatMap, foldl_store]
  funext index
  simp only [mem_strided_cover positive]

/-! ## Tree reductions -/

/-- One level: the threads below the offset pick from their value and another's. -/
def halve
    (pick : Value → Value → Value)
    (lanes : Nat → Value)
    (offset : Nat) : Nat → Value :=
  fun lane =>
    if lane < offset then pick (lanes lane) (lanes (lane + offset)) else lanes lane

/-- The offsets of `for (s = 2^levels / 2; s > 0; s >>= 1)`. -/
def halvings : Nat → List Nat
  | 0 => []
  | levels + 1 => 2 ^ levels :: halvings levels

/-- The whole reduction; thread 0 holds its result. -/
def tree
    (pick : Value → Value → Value)
    (levels : Nat)
    (lanes : Nat → Value) : Value :=
  (halvings levels).foldl (halve pick) lanes 0

example : halvings 8 = [128, 64, 32, 16, 8, 4, 2, 1] := by decide

section Tree

variable {atLeast : Value → Value → Prop} {pick : Value → Value → Value}

theorem tree_succ
    (pick : Value → Value → Value)
    (levels : Nat)
    (lanes : Nat → Value) :
    tree pick (levels + 1) lanes = tree pick levels (halve pick lanes (2 ^ levels)) :=
  rfl

theorem tree_mem
    (picks : Picks atLeast pick)
    (levels : Nat)
    (lanes : Nat → Value) :
    ∃ lane < 2 ^ levels, tree pick levels lanes = lanes lane := by
  induction levels generalizing lanes with
  | zero => exact ⟨0, Nat.one_pos, rfl⟩
  | succ levels ih =>
    obtain ⟨lane, inside, same⟩ := ih (halve pick lanes (2 ^ levels))
    rw [tree_succ, same, halve, if_pos inside]
    rcases picks.one_of (lanes lane) (lanes (lane + 2 ^ levels)) with kept | taken
    · exact ⟨lane, by omega, kept⟩
    · exact ⟨lane + 2 ^ levels, by omega, taken⟩

theorem tree_atLeast
    (picks : Picks atLeast pick)
    (levels : Nat)
    (lanes : Nat → Value) :
    ∀ lane < 2 ^ levels, atLeast (tree pick levels lanes) (lanes lane) := by
  induction levels generalizing lanes with
  | zero =>
    intro lane inside
    obtain rfl : lane = 0 := by omega
    exact picks.refl _
  | succ levels ih =>
    intro lane inside
    rw [tree_succ]
    have later := ih (halve pick lanes (2 ^ levels))
    by_cases low : lane < 2 ^ levels
    · have own := later lane low
      rw [halve, if_pos low] at own
      exact picks.trans _ _ _ own (picks.left _ _)
    · have other := later (lane - 2 ^ levels) (by omega)
      rw [halve, if_pos (by omega), Nat.sub_add_cancel (by omega)] at other
      exact picks.trans _ _ _ other (picks.right _ _)

end Tree

end Aeon.BlockReduction
