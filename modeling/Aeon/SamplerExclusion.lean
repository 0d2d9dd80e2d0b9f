import Aeon.GreedyDecision
import Aeon.SamplerMass

namespace Aeon.Sampling

open StableSort

/-!
# What a decision may return

A decision is allowed when the processor did not exclude it, top-k did not cut it and
the nucleus holds it.  The decisions are all allowed, but for a vector that holds a
promotion to positive infinity beside a finite logit: its total is not-a-number, and the
draw falls back on the index 0 whatever was done to it.
-/

variable {K : Type} [Field K] [LinearOrder K]

namespace Sampler

section Decisions

variable (sampler : Sampler K) (weight : Weight K) (logits : Logits K)

/-- Top-k cut an index off the processed logits. -/
def TopKCuts (index : Nat) : Prop :=
  BelowTopK (sampler.processedLogits logits) sampler.vocab sampler.config.topK index

instance (index : Nat) : Decidable (sampler.TopKCuts logits index) :=
  inferInstanceAs (Decidable (BelowTopK _ _ _ _))

/--
A decision that no stage excluded: not negative infinity, not below the k-th largest
logit, and in every prefix of the descending order whose share of the mass reaches
`top_p`, thus in the smallest.
-/
structure Allowed (index : Nat) : Prop where
  inside : index < sampler.vocab
  notExcluded : sampler.processedLogits logits index ≠ .negInf
  inTopK : ¬ sampler.TopKCuts logits index
  inNucleus : ∀ size, Reaches weight (sampler.truncatedLogits logits) sampler.vocab
    sampler.config.topP size →
    index ∈ (nucleusOrder (sampler.truncatedLogits logits) sampler.vocab).take size

/--
A sampled decision over a promotion and a finite logit that is left, while the index 0
is excluded.
-/
def FallsBack : Prop :=
  0 < sampler.config.temperature ∧
    (∃ index < sampler.vocab, sampler.processedLogits logits index = .posInf) ∧
    (∃ index < sampler.vocab,
      (sampler.processedLogits logits index).isFinite = true ∧
        ¬ sampler.TopKCuts logits index) ∧
    (sampler.processedLogits logits 0 = .negInf ∨ sampler.TopKCuts logits 0)

end Decisions

end Sampler

/-! ## The temperature -/

section Temperature

variable [IsStrictOrderedRing K] {logits : Logits K} {temperature : K}

theorem applyTemperature_apply (index : Nat) :
    applyTemperature logits temperature index =
      (logits index).mul (.finite (1 / temperature)) := by
  rw [applyTemperature]
  split
  next one =>
    rw [one, div_one, Extended.mul_positive one_pos]
    cases logits index <;> simp
  next => rfl

theorem belowTopK_applyTemperature
    (positive : 0 < temperature)
    (n k index : Nat) :
    BelowTopK (applyTemperature logits temperature) n k index ↔
      BelowTopK logits n k index := by
  have factor := one_div_pos.mpr positive
  have sameOrder : larger (applyTemperature logits temperature) = larger logits := by
    funext one other
    rw [larger, applyTemperature_apply, applyTemperature_apply,
      Extended.lt_mul_positive factor, larger]
  rw [BelowTopK, kthLargest, sameOrder, applyTemperature_apply, applyTemperature_apply,
    Extended.lt_mul_positive factor, BelowTopK, kthLargest]

end Temperature

namespace Sampler

section Stages

variable [IsStrictOrderedRing K] (sampler : Sampler K) {logits : Logits K}

theorem truncatedLogits_apply (index : Nat) :
    sampler.truncatedLogits logits index =
      if sampler.TopKCuts logits index then .negInf
      else if 0 < sampler.config.temperature then
        (sampler.processedLogits logits index).mul
          (.finite (1 / sampler.config.temperature))
      else sampler.processedLogits logits index := by
  by_cases warm : 0 < sampler.config.temperature
  · rw [truncatedLogits, if_pos warm, if_pos warm, applyTopK_apply,
      applyTemperature_apply]
    exact if_congr (belowTopK_applyTemperature warm _ _ _) rfl rfl
  · rw [truncatedLogits, if_neg warm, if_neg warm, applyTopK_apply]
    rfl

theorem truncatedLogits_numbers
    (numbers : Numbers (sampler.processedLogits logits) sampler.vocab) :
    Numbers (sampler.truncatedLogits logits) sampler.vocab := by
  intro index inside
  have number := numbers index inside
  rw [truncatedLogits_apply]
  split
  · exact Extended.negInf_ne_nan
  split
  next warm =>
    rw [Extended.mul_positive (one_div_pos.mpr warm)]
    cases isLogit : sampler.processedLogits logits index with
    | nan => exact absurd isLogit number
    | _ => nofun
  next => exact number

/-- A logit is left by temperature and top-k if neither excluded it. -/
theorem truncatedLogits_negInf_iff (index : Nat) :
    sampler.truncatedLogits logits index = .negInf ↔
      sampler.processedLogits logits index = .negInf ∨
        sampler.TopKCuts logits index := by
  rw [truncatedLogits_apply]
  by_cases cut : sampler.TopKCuts logits index
  · simp [cut]
  rw [if_neg cut]
  by_cases warm : 0 < sampler.config.temperature
  · rw [if_pos warm, Extended.mul_positive (one_div_pos.mpr warm)]
    cases sampler.processedLogits logits index <;> simp [cut]
  · rw [if_neg warm]
    simp [cut]

theorem truncatedLogits_isFinite_iff (index : Nat) :
    (sampler.truncatedLogits logits index).isFinite = true ↔
      (sampler.processedLogits logits index).isFinite = true ∧
        ¬ sampler.TopKCuts logits index := by
  rw [truncatedLogits_apply]
  by_cases cut : sampler.TopKCuts logits index
  · simp [cut, Extended.isFinite]
  rw [if_neg cut]
  by_cases warm : 0 < sampler.config.temperature
  · rw [if_pos warm, Extended.mul_positive (one_div_pos.mpr warm)]
    cases sampler.processedLogits logits index <;> simp [cut, Extended.isFinite]
  · rw [if_neg warm]
    simp [cut]

theorem truncatedLogits_posInf_iff (index : Nat) :
    sampler.truncatedLogits logits index = .posInf ↔
      sampler.processedLogits logits index = .posInf := by
  rw [truncatedLogits_apply]
  by_cases cut : sampler.TopKCuts logits index
  · rw [if_pos cut]
    refine iff_of_false nofun fun promoted => ?_
    have below := cut.2.2
    rw [promoted] at below
    generalize kthLargest (sampler.processedLogits logits) _ _ = threshold at below
    cases threshold <;> exact Bool.false_ne_true below
  rw [if_neg cut]
  by_cases warm : 0 < sampler.config.temperature
  · rw [if_pos warm, Extended.mul_positive (one_div_pos.mpr warm)]
    cases sampler.processedLogits logits index <;> simp
  · rw [if_neg warm]

end Stages

/-! ## Decisions -/

section Decide

variable [IsStrictOrderedRing K] (sampler : Sampler K) (weight : Weight K)
  {logits : Logits K}

theorem allowed_greedy
    (greedy : sampler.config.temperature = 0)
    (numbers : Numbers (sampler.processedLogits logits) sampler.vocab)
    {u : K}
    {index : Nat}
    (decided : sampler.decide weight logits u = .ok index) :
    sampler.Allowed weight logits index := by
  have first := argmaxOf_isFirst numbers sampler.vocab_pos
  have truncated := sampler.truncatedLogits_greedy greedy logits
  obtain ⟨-, same, firstP⟩ :=
    sampler.decidedLogits_isFirst weight greedy numbers first
  rw [sampler.decide_greedy weight greedy numbers first] at decided
  split at decided
  case isFalse => cases decided
  case isTrue finite =>
    obtain rfl := Except.ok.inj decided
    obtain ⟨other, listed, otherFinite⟩ := List.any_eq_true.mp finite
    refine ⟨first.1, fun excluded => ?_, IsFirst.not_belowTopK numbers first _, ?_⟩
    · -- a first maximum of negative infinity leaves nothing finite
      have below := firstP.le (List.mem_range.mp listed)
      rw [keys, keys, same, excluded] at below
      cases isOther : sampler.decidedLogits weight logits other with
      | finite value =>
        rw [isOther] at below
        exact absurd below (not_le.mpr (WithBot.bot_lt_coe _))
      | _ => rw [isOther] at otherFinite; cases otherFinite
    · intro size reaches
      have firstK := (applyTopK_isFirst numbers first sampler.config.topK).2
      rw [← truncated] at firstK
      obtain ⟨rest, order⟩ := firstK.descending_eq
      rw [nucleusOrder_eq (sampler.truncatedLogits_numbers numbers), order]
      cases size with
      | zero => exact absurd reaches (not_reaches_zero sampler.config.topP_pos)
      | succ size => exact List.mem_cons_self

theorem exists_finite_top
    (numbers : Numbers (sampler.processedLogits logits) sampler.vocab)
    (unpromoted : ∀ index < sampler.vocab,
      sampler.processedLogits logits index ≠ .posInf)
    {other : Nat}
    (inside : other < sampler.vocab)
    (isFinite : (sampler.decidedLogits weight logits other).isFinite = true)
    {top : Nat}
    (first : IsFirst (keys (sampler.truncatedLogits logits)) sampler.vocab top) :
    ∃ value, sampler.truncatedLogits logits top = .finite value := by
  have left : (sampler.truncatedLogits logits other).isFinite = true := by
    rcases applyTopP_truncates weight (sampler.truncatedLogits logits) sampler.vocab
      sampler.config.topP other with kept | lowered
    · rwa [← kept]
    · rw [decidedLogits, lowered] at isFinite
      cases isFinite
  have below := first.le inside
  cases isTop : sampler.truncatedLogits logits top with
  | finite value => exact ⟨value, rfl⟩
  | nan => exact absurd isTop (sampler.truncatedLogits_numbers numbers top first.1)
  | posInf =>
    exact absurd ((sampler.truncatedLogits_posInf_iff top).mp isTop)
      (unpromoted top first.1)
  | negInf =>
    rw [keys, keys, isTop] at below
    cases isOther : sampler.truncatedLogits logits other with
    | finite value =>
      rw [isOther] at below
      exact absurd below (not_le.mpr (WithBot.bot_lt_coe _))
    | _ => rw [isOther] at left; cases left

theorem allowed_sampled
    (warm : 0 < sampler.config.temperature)
    (numbers : Numbers (sampler.processedLogits logits) sampler.vocab)
    (unpromoted : ∀ index < sampler.vocab,
      sampler.processedLogits logits index ≠ .posInf)
    {u : K}
    (nonneg : 0 ≤ u)
    (less : u < 1)
    {index : Nat}
    (decided : sampler.decide weight logits u = .ok index) :
    sampler.Allowed weight logits index := by
  have numbersK := sampler.truncatedLogits_numbers numbers
  have truncates := applyTopP_truncates weight (sampler.truncatedLogits logits)
    sampler.vocab sampler.config.topP
  have firstK := argmaxOf_isFirst numbersK sampler.vocab_pos
  generalize argmaxOf (sampler.truncatedLogits logits) sampler.vocab = top at firstK
  obtain ⟨same, firstP⟩ := applyTopP_isFirst weight _ sampler.vocab numbersK firstK
    sampler.config.topP
  rw [decide, if_neg (not_not.mpr warm)] at decided
  by_cases someFinite : hasFiniteLogit (sampler.decidedLogits weight logits)
      sampler.vocab = true
  case neg =>
    rw [Bool.not_eq_true] at someFinite
    rw [someFinite] at decided
    cases decided
  rw [someFinite] at decided
  have returned := Except.ok.inj decided
  obtain ⟨other, listed, isFinite⟩ := List.any_eq_true.mp someFinite
  obtain ⟨value, isTop⟩ := sampler.exists_finite_top weight numbers unpromoted
    (List.mem_range.mp listed) isFinite firstK
  obtain ⟨mass', masses⟩ := exists_finiteMass weight numbersK firstK isTop
  obtain ⟨massP, massesP⟩ := exists_finiteMass weight
    (truncates.numbers numbersK) firstP (same.trans isTop)
  obtain ⟨inside, left⟩ := sample_not_negInf massesP nonneg less
  rw [← decidedLogits, returned] at inside left
  have leftK : sampler.truncatedLogits logits index ≠ .negInf := by
    intro cut
    rcases truncates index with kept | lowered
    · exact left (kept.trans cut)
    · exact left lowered
  rw [Ne, truncatedLogits_negInf_iff, not_or] at leftK
  refine ⟨inside, leftK.1, leftK.2, fun size reaches => ?_⟩
  have perm : (nucleusOrder (sampler.truncatedLogits logits) sampler.vocab).Perm
      (List.range sampler.vocab) := List.mergeSort_perm _ _
  by_cases whole : 1 ≤ sampler.config.topP
  · -- without a cut the draw has positive mass, which the whole mass contains
    rw [decidedLogits, applyTopP, if_pos whole] at left
    exact masses.mem_of_reaches_one perm whole reaches inside
      ((masses.positive index inside).mpr left)
  · have cut := applyTopP_cut weight whole
      ((maxLogit_eq numbersK firstK).trans isTop) masses.total_eq masses.total_pos
    have kept : index ∉ (nucleusOrder (sampler.truncatedLogits logits)
        sampler.vocab).drop
          (keep weight (sampler.truncatedLogits logits) sampler.vocab
            sampler.config.topP) := by
      intro dropped
      rw [decidedLogits, cut] at left
      exact left (if_pos dropped)
    have listed := perm.mem_iff.mpr (List.mem_range.mpr inside)
    rw [← List.take_append_drop (keep weight (sampler.truncatedLogits logits)
      sampler.vocab sampler.config.topP)
      (nucleusOrder (sampler.truncatedLogits logits) sampler.vocab)] at listed
    refine List.take_subset_take_left _ (masses.keep_le (fun other otherListed =>
      List.mem_range.mp (perm.mem_iff.mp otherListed)) sampler.config.topP_pos reaches)
      ((List.mem_append.mp listed).resolve_right kept)

/-- A sampled decision over a promotion is the index 0. -/
theorem decide_promoted
    (warm : 0 < sampler.config.temperature)
    (numbers : Numbers (sampler.processedLogits logits) sampler.vocab)
    {promoted : Nat}
    (inside : promoted < sampler.vocab)
    (promotion : sampler.processedLogits logits promoted = .posInf)
    (u : K) :
    (∀ size, ¬ Reaches weight (sampler.truncatedLogits logits) sampler.vocab
      sampler.config.topP size) ∧
    sampler.decide weight logits u =
      if hasFiniteLogit (sampler.truncatedLogits logits) sampler.vocab then .ok 0
      else .error noFiniteLogit := by
  have numbersK := sampler.truncatedLogits_numbers numbers
  obtain ⟨largest, total⟩ := totalMass_nan weight numbersK inside
    ((sampler.truncatedLogits_posInf_iff promoted).mpr promotion)
  have uncut : sampler.decidedLogits weight logits =
      sampler.truncatedLogits logits := by
    rw [decidedLogits, applyTopP, largest]
    split
    · rfl
    · rfl
  refine ⟨not_reaches_nan total sampler.config.topP, ?_⟩
  rw [decide, uncut, if_neg (not_not.mpr warm), sample_nan total]
  cases hasFiniteLogit (sampler.truncatedLogits logits) sampler.vocab <;> rfl

end Decide

end Sampler

theorem three_entries : 0 < 3 := by decide

/-- A sampler of three tokens at the temperature 1 that truncates nothing. -/
def samplerOfThree : Sampler ℚ :=
  ⟨3, three_entries, ⟨1, 0, 1, zero_le_one, one_pos, le_refl 1⟩, none⟩

/-- Two promoted logits behind an ordinary one. -/
def promotedLogits : Logits ℚ := fun index => if index = 0 then .finite 1 else .posInf

/-- A mask, a promotion and an ordinary logit. -/
def mixedLogits : Logits ℚ
  | 0 => .negInf
  | 1 => .posInf
  | _ => .finite 1

end Aeon.Sampling
