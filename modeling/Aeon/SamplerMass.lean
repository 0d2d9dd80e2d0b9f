import Aeon.SamplerStages
import Mathlib.Algebra.BigOperators.Ring.List
import Mathlib.Algebra.Order.BigOperators.Group.List

namespace Aeon.Sampling

open StableSort

/-!
# The mass of a logit vector

Below a finite maximum every logit has a finite mass, which is positive unless the logit
is negative infinity.  The draw then returns an index of positive mass, and the nucleus
keeps no more ranks than it needs.  Under a maximum of positive infinity every sum is
not-a-number.
-/

variable {K : Type} [Field K] [LinearOrder K]

/-- The masses of a vector whose largest logit is finite. -/
structure FiniteMass
    (weight : Weight K)
    (logits : Logits K)
    (n : Nat)
    (mass' : Nat → K) : Prop where
  mass_eq : ∀ index < n, mass weight logits n index = .finite (mass' index)
  nonneg : ∀ index < n, 0 ≤ mass' index
  positive : ∀ index < n, 0 < mass' index ↔ logits index ≠ .negInf
  total_eq : totalMass weight logits n = .finite ((List.range n).map mass').sum
  total_pos : 0 < ((List.range n).map mass').sum

section FiniteMass

variable [IsStrictOrderedRing K] {weight : Weight K} {logits : Logits K} {n : Nat}

theorem sum_map_pos
    {mass' : Nat → K}
    {indices : List Nat}
    (nonneg : ∀ index ∈ indices, 0 ≤ mass' index)
    {index : Nat}
    (listed : index ∈ indices)
    (positive : 0 < mass' index) :
    0 < (indices.map mass').sum := by
  refine lt_of_lt_of_le positive ?_
  refine List.single_le_sum ?_ _ (List.mem_map_of_mem listed)
  intro value valueListed
  obtain ⟨other, otherListed, rfl⟩ := List.mem_map.mp valueListed
  exact nonneg other otherListed

theorem exists_finiteMass
    (weight : Weight K)
    (numbers : Numbers logits n)
    {top : Nat}
    (first : IsFirst (keys logits) n top)
    {value : K}
    (finite : logits top = .finite value) :
    ∃ mass', FiniteMass weight logits n mass' := by
  have largest : maxLogit logits n = .finite value :=
    (maxLogit_eq numbers first).trans finite
  have masses : ∀ index < n, ∃ mass', mass weight logits n index = .finite mass' ∧
      0 ≤ mass' ∧ (0 < mass' ↔ logits index ≠ .negInf) := by
    intro index inside
    rw [mass, largest]
    cases isLogit : logits index with
    | nan => exact absurd isLogit (numbers index inside)
    | negInf => exact ⟨0, rfl, le_refl 0, by simp⟩
    | finite other =>
      have positive := weight.positive (other + -value)
      exact ⟨_, rfl, le_of_lt positive, by simpa using positive⟩
    | posInf =>
      have above := first.le inside
      rw [keys, keys, isLogit, finite] at above
      exact absurd above (not_le.mpr
        (WithBot.coe_lt_coe.mpr (WithTop.coe_lt_top value)))
  choose! mass' isMass using masses
  have total : totalMass weight logits n =
      .finite ((List.range n).map mass').sum := by
    have mapped : (List.range n).map (mass weight logits n) =
        ((List.range n).map mass').map .finite := by
      rw [List.map_map]
      exact List.map_congr_left fun index listed =>
        (isMass index (List.mem_range.mp listed)).1
    rw [totalMass, mapped, Extended.sum_finite, zero_add]
  refine ⟨mass', fun index inside => (isMass index inside).1,
    fun index inside => (isMass index inside).2.1,
    fun index inside => (isMass index inside).2.2, total, ?_⟩
  refine sum_map_pos (fun index listed => (isMass index (List.mem_range.mp listed)).2.1)
    (List.mem_range.mpr first.1) ?_
  exact (isMass top first.1).2.2.mpr (by
    rw [finite]
    intro same
    cases same)

end FiniteMass

/-! ## The draw -/

/--
The walk returns an index of positive probability, if all of them sum to more than the
draw.
-/
theorem sampleWalk_positive
    [IsStrictOrderedRing K]
    {probs : Logits K}
    {prob : Nat → K}
    {u : K}
    {indices : List Nat}
    (finite : ∀ index ∈ indices, probs index = .finite (prob index))
    {accumulated : K}
    (below : accumulated ≤ u)
    (reaches : u < accumulated + (indices.map prob).sum)
    (lastPositive : Nat) :
    sampleWalk probs u indices (.finite accumulated) lastPositive ∈ indices ∧
      0 < prob (sampleWalk probs u indices (.finite accumulated) lastPositive) := by
  induction indices generalizing accumulated lastPositive with
  | nil =>
    rw [List.map_nil, List.sum_nil, add_zero] at reaches
    exact absurd reaches (not_lt.mpr below)
  | cons index rest ih =>
    rw [sampleWalk]
    simp only [finite index List.mem_cons_self, Extended.finite_add,
      Extended.lt_finite, decide_eq_true_iff]
    by_cases passed : u < accumulated + prob index
    · rw [if_pos passed]
      refine ⟨List.mem_cons_self, ?_⟩
      exact (lt_add_iff_pos_right accumulated).mp (lt_of_le_of_lt below passed)
    · rw [if_neg passed]
      rw [List.map_cons, List.sum_cons, ← add_assoc] at reaches
      obtain ⟨listed, positive⟩ := ih
        (fun other listed => finite other (List.mem_cons_of_mem _ listed))
        (not_lt.mp passed) reaches
        (if 0 < prob index then index else lastPositive)
      exact ⟨List.mem_cons_of_mem _ listed, positive⟩

/-- The draw below a finite maximum returns an index that is not negative infinity. -/
theorem sample_not_negInf
    [IsStrictOrderedRing K]
    {weight : Weight K}
    {logits : Logits K}
    {n : Nat}
    {mass' : Nat → K}
    (masses : FiniteMass weight logits n mass')
    {u : K}
    (nonneg : 0 ≤ u)
    (less : u < 1) :
    sampleFromProbs (softmaxInPlace weight logits n) n u < n ∧
      logits (sampleFromProbs (softmaxInPlace weight logits n) n u) ≠ .negInf := by
  have total := masses.total_eq
  have totalPos := masses.total_pos
  have probs : ∀ index ∈ List.range n, softmaxInPlace weight logits n index =
      .finite (mass' index * (1 / ((List.range n).map mass').sum)) := by
    intro index listed
    rw [softmaxInPlace, masses.mass_eq index (List.mem_range.mp listed), total,
      Extended.finite_div _ (ne_of_gt totalPos), Extended.finite_mul]
  have whole : ((List.range n).map fun index =>
      mass' index * (1 / ((List.range n).map mass').sum)).sum = 1 := by
    rw [List.sum_map_mul_right]
    exact mul_one_div_cancel (ne_of_gt totalPos)
  obtain ⟨listed, positive⟩ := sampleWalk_positive probs nonneg
    (by rw [whole, zero_add]; exact less) 0
  have inside := List.mem_range.mp listed
  refine ⟨inside, (masses.positive _ inside).mp ?_⟩
  exact (mul_pos_iff_of_pos_right (one_div_pos.mpr totalPos)).mp positive

/-! ## The nucleus -/

theorem keepRanks_le
    {topP : K}
    {shares : List K}
    {accumulated : K}
    (below : accumulated < topP)
    {size : Nat}
    (reaches : topP ≤ accumulated + (shares.take size).sum) :
    keepRanks topP (shares.map .finite) (.finite accumulated) ≤ size := by
  induction shares generalizing accumulated size with
  | nil => exact Nat.zero_le _
  | cons share rest ih =>
    cases size with
    | zero =>
      rw [List.take_zero, List.sum_nil, add_zero] at reaches
      exact absurd reaches (not_le.mpr below)
    | succ size =>
      rw [List.map_cons, keepRanks]
      simp only [Extended.finite_add, Extended.le_finite, decide_eq_true_iff]
      by_cases enough : topP ≤ accumulated + share
      · rw [if_pos enough]
        exact Nat.succ_le_succ (Nat.zero_le _)
      · rw [if_neg enough]
        rw [List.take_succ_cons, List.sum_cons, ← add_assoc] at reaches
        exact Nat.succ_le_succ (ih (not_le.mp enough) reaches)

/-- The first ranks of the order hold `top_p` of the mass. -/
def Reaches
    (weight : Weight K)
    (logits : Logits K)
    (n : Nat)
    (topP : K)
    (size : Nat) : Prop :=
  (Extended.finite topP).le
    ((Extended.sum (.finite 0)
      (((nucleusOrder logits n).take size).map (mass weight logits n))).div
        (totalMass weight logits n)) = true

section Nucleus

variable {weight : Weight K} {logits : Logits K} {n : Nat}

variable {mass' : Nat → K}
variable {topP : K}

theorem FiniteMass.reaches_iff
    (masses : FiniteMass weight logits n mass')
    (ordered : ∀ index ∈ nucleusOrder logits n, index < n)
    {size : Nat} :
    Reaches weight logits n topP size ↔
      topP ≤ (((nucleusOrder logits n).take size).map mass').sum /
        ((List.range n).map mass').sum := by
  have mapped : ((nucleusOrder logits n).take size).map (mass weight logits n) =
      (((nucleusOrder logits n).take size).map mass').map .finite := by
    rw [List.map_map]
    exact List.map_congr_left fun index listed =>
      masses.mass_eq index (ordered index (List.mem_of_mem_take listed))
  rw [Reaches, mapped, Extended.sum_finite, masses.total_eq,
    Extended.finite_div _ (ne_of_gt masses.total_pos), Extended.le_finite, zero_add,
    decide_eq_true_iff]

theorem FiniteMass.mem_of_reaches_one
    [IsStrictOrderedRing K]
    (masses : FiniteMass weight logits n mass')
    (perm : (nucleusOrder logits n).Perm (List.range n))
    (whole : 1 ≤ topP)
    {size : Nat}
    (reaches : Reaches weight logits n topP size)
    {index : Nat}
    (inside : index < n)
    (positive : 0 < mass' index) :
    index ∈ (nucleusOrder logits n).take size := by
  have ordered : ∀ other ∈ nucleusOrder logits n, other < n := fun other listed =>
    List.mem_range.mp (perm.mem_iff.mp listed)
  have share := le_trans whole ((masses.reaches_iff ordered).mp reaches)
  rw [one_le_div masses.total_pos, ← (perm.map mass').sum_eq] at share
  have listed := perm.mem_iff.mpr (List.mem_range.mpr inside)
  rw [← List.take_append_drop size (nucleusOrder logits n)] at listed
  refine (List.mem_append.mp listed).resolve_right fun dropped => ?_
  have rest := sum_map_pos (fun other otherListed =>
    masses.nonneg other (ordered other (List.mem_of_mem_drop otherListed)))
    dropped positive
  have split : ((nucleusOrder logits n).map mass').sum =
      (((nucleusOrder logits n).take size).map mass').sum +
        (((nucleusOrder logits n).drop size).map mass').sum := by
    rw [← List.sum_append, ← List.map_append, List.take_append_drop]
  rw [split] at share
  exact absurd share (not_le.mpr (lt_add_of_pos_right _ rest))

theorem FiniteMass.keep_le
    (masses : FiniteMass weight logits n mass')
    (ordered : ∀ index ∈ nucleusOrder logits n, index < n)
    (topPPos : 0 < topP)
    {size : Nat}
    (reaches : Reaches weight logits n topP size) :
    keep weight logits n topP ≤ size := by
  have shares : ((nucleusOrder logits n).map fun index =>
      (mass weight logits n index).div (totalMass weight logits n)) =
      ((nucleusOrder logits n).map fun index =>
        mass' index / ((List.range n).map mass').sum).map .finite := by
    rw [List.map_map]
    refine List.map_congr_left fun index listed => ?_
    rw [masses.mass_eq index (ordered index listed), masses.total_eq,
      Extended.finite_div _ (ne_of_gt masses.total_pos)]
    rfl
  rw [keep, shares]
  refine keepRanks_le topPPos ?_
  rw [← List.map_take, zero_add]
  simp only [div_eq_mul_inv]
  rw [List.sum_map_mul_right, ← div_eq_mul_inv]
  exact (masses.reaches_iff ordered).mp reaches

theorem not_reaches_zero
    (topPPos : 0 < topP) :
    ¬ Reaches weight logits n topP 0 := by
  rw [Reaches, List.take_zero, List.map_nil]
  simp only [Extended.sum, List.foldl_nil]
  cases totalMass weight logits n with
  | nan => simp
  | negInf => simp [Extended.div, topPPos]
  | posInf => simp [Extended.div, topPPos]
  | finite total =>
    by_cases zero : total = 0
    · simp [Extended.div, zero, Extended.infinity]
    · simp [Extended.finite_div _ zero, topPPos]

end Nucleus

/-! ## A promotion to positive infinity -/

section Promotion

variable {weight : Weight K} {logits : Logits K} {n : Nat}

theorem totalMass_nan
    (weight : Weight K)
    (numbers : Numbers logits n)
    {top : Nat}
    (inside : top < n)
    (promoted : logits top = .posInf) :
    maxLogit logits n = .posInf ∧ totalMass weight logits n = .nan := by
  have host := argmaxOf_isFirst numbers (by omega)
  have largest := maxLogit_eq numbers host
  have above := host.le inside
  have isPromoted : maxLogit logits n = .posInf := by
    rw [largest]
    rw [keys, keys, promoted] at above
    cases isHost : logits (argmaxOf logits n) with
    | nan => exact absurd isHost (numbers _ host.1)
    | negInf =>
      rw [isHost] at above
      exact absurd above (not_le.mpr (WithBot.bot_lt_coe ⊤))
    | finite value =>
      rw [isHost] at above
      exact absurd above (not_le.mpr
        (WithBot.coe_lt_coe.mpr (WithTop.coe_lt_top value)))
    | posInf => rfl
  refine ⟨isPromoted, Extended.sum_of_mem_nan ?_ _⟩
  refine List.mem_map.mpr ⟨top, List.mem_range.mpr inside, ?_⟩
  rw [mass, promoted, isPromoted]
  rfl

theorem not_reaches_nan
    (promoted : totalMass weight logits n = .nan)
    (topP : K)
    (size : Nat) :
    ¬ Reaches weight logits n topP size := by
  rw [Reaches, promoted, Extended.div_nan, Extended.le_nan]
  exact Bool.false_ne_true

/-- The draw of a total that is not-a-number falls back on the index 0. -/
theorem sample_nan
    (promoted : totalMass weight logits n = .nan)
    (u : K) :
    sampleFromProbs (softmaxInPlace weight logits n) n u = 0 := by
  have walk : ∀ (indices : List Nat) (accumulated : Extended K),
      (accumulated = .finite 0 ∨ accumulated = .nan) →
      sampleWalk (softmaxInPlace weight logits n) u indices accumulated 0 = 0 := by
    intro indices
    induction indices with
    | nil => exact fun _ _ => rfl
    | cons index rest ih =>
      intro accumulated _
      have prob : softmaxInPlace weight logits n index = .nan := by
        rw [softmaxInPlace, promoted, Extended.div_nan, Extended.mul_nan]
      rw [sampleWalk]
      simp only [prob, Extended.add_nan, Extended.lt_nan]
      exact ih _ (.inr rfl)
  exact walk _ _ (.inl rfl)

end Promotion

end Aeon.Sampling
