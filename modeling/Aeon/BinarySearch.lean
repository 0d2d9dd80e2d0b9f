import Mathlib.Data.Nat.Init

namespace Aeon.BinarySearch

/-!
# The last index that passes a test

A binary search for the last index of an interval at which a test holds, taking the upper
middle of what is left.  The test may fail with an error, which ends the search.  Where
the indices that pass are an initial segment, the search finds its end.
-/

variable {Error : Type}

/-- The search between `low`, taken to pass, and `high`. -/
def lastFit
    (fits : Nat → Except Error Bool)
    (low high : Nat) : Except Error Nat :=
  if low < high then
    match fits (low + (high - low + 1) / 2) with
    | .error error => .error error
    | .ok true => lastFit fits (low + (high - low + 1) / 2) high
    | .ok false => lastFit fits low (low + (high - low + 1) / 2 - 1)
  else
    .ok low
termination_by high - low

/-- `last` is the largest index of `(0, bound]` that passes, or 0 when none does. -/
structure IsLast
    (fits : Nat → Prop)
    (bound last : Nat) : Prop where
  inBound : last ≤ bound
  passes : 0 < last → fits last
  largest : ∀ index, last < index → index ≤ bound → ¬ fits index

/-- What fits, where fitting is closed downward. -/
theorem IsLast.fits_iff
    {fits : Nat → Prop}
    {bound last index : Nat}
    (isLast : IsLast fits bound last)
    (downward : ∀ lower upper, 0 < lower → lower ≤ upper → upper ≤ bound →
      fits upper → fits lower)
    (positive : 0 < index)
    (inBound : index ≤ bound) :
    fits index ↔ index ≤ last := by
  constructor
  · intro passes
    exact Nat.not_lt.mp fun beyond => isLast.largest index beyond inBound passes
  · intro within
    exact downward index last positive within isLast.inBound
      (isLast.passes (Nat.lt_of_lt_of_le positive within))

/-- The search finds the last index that fits. -/
theorem lastFit_spec
    {test : Nat → Except Error Bool}
    {fits : Nat → Prop}
    {bound : Nat}
    (answers : ∀ index, 0 < index → index ≤ bound →
      ∃ answer, test index = .ok answer ∧ (answer = true ↔ fits index))
    (downward : ∀ lower upper, 0 < lower → lower ≤ upper → upper ≤ bound →
      fits upper → fits lower)
    (low high : Nat)
    (ordered : low ≤ high)
    (highInside : high ≤ bound)
    (lowPasses : 0 < low → fits low)
    (above : ∀ index, high < index → index ≤ bound → ¬ fits index) :
    ∃ last, lastFit test low high = .ok last ∧ IsLast fits bound last := by
  fun_induction lastFit test low high with
  | case1 low high less error failed =>
    obtain ⟨answer, answered, -⟩ :=
      answers (low + (high - low + 1) / 2) (by omega) (by omega)
    rw [failed] at answered
    cases answered
  | case2 low high less passed ih =>
    obtain ⟨answer, answered, meaning⟩ :=
      answers (low + (high - low + 1) / 2) (by omega) (by omega)
    rw [passed, Except.ok.injEq] at answered
    exact ih (by omega) highInside
      (fun _ => meaning.mp answered.symm) above
  | case3 low high less failed ih =>
    obtain ⟨answer, answered, meaning⟩ :=
      answers (low + (high - low + 1) / 2) (by omega) (by omega)
    rw [failed, Except.ok.injEq] at answered
    have middleFails : ¬ fits (low + (high - low + 1) / 2) := by
      rw [← meaning, ← answered]
      exact Bool.false_ne_true
    refine ih (by omega) (by omega) lowPasses ?_
    intro index beyond inside passes
    -- What lies above a failing middle fails, since passing is downward closed.
    exact middleFails (downward _ index (by omega) (by omega) inside passes)
  | case4 low high notLess =>
    obtain rfl : low = high := by omega
    exact ⟨low, rfl, highInside, lowPasses, above⟩

end Aeon.BinarySearch
