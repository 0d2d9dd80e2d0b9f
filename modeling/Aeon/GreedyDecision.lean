import Aeon.DeviceArgmax
import Aeon.SamplerStages
import Mathlib.Algebra.Order.Field.Rat
import Mathlib.Tactic.Linarith
import Mathlib.Tactic.NormNum

namespace Aeon.Sampling

open StableSort

/-!
# The greedy decision

`Sampler::select` takes the device argmax when nothing but the argmax is asked for.  The
truncations leave the first maximum alone, so that the host decision at temperature 0 is
the same token.
-/

variable {K : Type} [Field K] [LinearOrder K]

namespace Sampler

variable (sampler : Sampler K) (weight : Weight K)

/-- `Sampler::select` on finite logits, which widening leaves as they are. -/
def select
    (logits : Nat → K)
    (u : K) : Except String Nat :=
  if sampler.config.temperature ≤ 0 ∧ sampler.processor = none then
    .ok (deviceArgmax logits sampler.vocab)
  else
    sampler.decide weight (fun index => .finite (logits index)) u

/-- At temperature 0 only the top-k cut applies. -/
theorem truncatedLogits_greedy
    (greedy : sampler.config.temperature = 0)
    (logits : Logits K) :
    sampler.truncatedLogits logits =
      applyTopK (sampler.processedLogits logits) sampler.vocab sampler.config.topK := by
  have off : ¬ 0 < sampler.config.temperature := by
    rw [greedy]
    exact lt_irrefl 0
  rw [truncatedLogits, if_neg off]

section

variable
    (greedy : sampler.config.temperature = 0)
    {logits : Logits K}
    (numbers : Numbers (sampler.processedLogits logits) sampler.vocab)
    {index : Nat}
    (first : IsFirst (keys (sampler.processedLogits logits)) sampler.vocab index)

include greedy numbers first

/-- Without a temperature the truncations leave the first maximum first. -/
theorem decidedLogits_isFirst :
    Numbers (sampler.decidedLogits weight logits) sampler.vocab ∧
      sampler.decidedLogits weight logits index =
        sampler.processedLogits logits index ∧
      IsFirst (keys (sampler.decidedLogits weight logits)) sampler.vocab index := by
  obtain ⟨sameK, firstK⟩ := applyTopK_isFirst numbers first sampler.config.topK
  have numbersK := (applyTopK_truncates (sampler.processedLogits logits) sampler.vocab
    sampler.config.topK).numbers numbers
  rw [decidedLogits, sampler.truncatedLogits_greedy greedy]
  obtain ⟨sameP, firstP⟩ := applyTopP_isFirst weight _ sampler.vocab numbersK firstK
    sampler.config.topP
  have numbersP := (applyTopP_truncates weight
    (applyTopK (sampler.processedLogits logits) sampler.vocab sampler.config.topK)
    sampler.vocab sampler.config.topP).numbers numbersK
  exact ⟨numbersP, sameP.trans sameK, firstP⟩

/-- Without a temperature the host decides for the first maximum. -/
theorem decide_greedy
    (u : K) :
    sampler.decide weight logits u =
      if hasFiniteLogit (sampler.decidedLogits weight logits) sampler.vocab then
        .ok index
      else
        .error noFiniteLogit := by
  obtain ⟨numbersP, -, firstP⟩ :=
    sampler.decidedLogits_isFirst weight greedy numbers first
  have host := (argmaxOf_isFirst numbersP sampler.vocab_pos).unique firstP
  have off : ¬ 0 < sampler.config.temperature := by
    rw [greedy]
    exact lt_irrefl 0
  rw [decide, if_pos off, host]
  cases hasFiniteLogit (sampler.decidedLogits weight logits) sampler.vocab <;> rfl

end

end Sampler

/-- The device argmax and the host decision under an idle processor agree. -/
theorem device_argmax_eq_decide
    (sampler : Sampler K)
    (weight : Weight K)
    (logits : Nat → K)
    (u : K)
    (greedy : sampler.config.temperature = 0)
    (idle : ∀ logits, sampler.processedLogits logits = logits) :
    ∃ token, IsFirst logits sampler.vocab token ∧
      deviceArgmax logits sampler.vocab = token ∧
      sampler.decide weight (fun index => .finite (logits index)) u = .ok token ∧
      sampler.select weight logits u = .ok token := by
  have device := deviceArgmax_isFirst logits sampler.vocab_pos
  have first : IsFirst (keys fun index => .finite (logits index)) sampler.vocab
      (deviceArgmax logits sampler.vocab) := by
    refine ⟨device.1, fun other inside different => ?_⟩
    rcases device.2 other inside different with less | ⟨same, later⟩
    · exact .inl (WithBot.coe_lt_coe.mpr (WithTop.coe_lt_coe.mpr less))
    · exact .inr ⟨by simp only [keys, same], later⟩
  have processed := idle fun index => .finite (logits index)
  have decided : sampler.decide weight (fun index => .finite (logits index)) u =
      .ok (deviceArgmax logits sampler.vocab) := by
    rw [← processed] at first
    have numbers : Numbers (sampler.processedLogits fun index => .finite (logits index))
        sampler.vocab := by
      rw [processed]
      intro _ _ same
      cases same
    obtain ⟨-, same, -⟩ := sampler.decidedLogits_isFirst weight greedy numbers first
    rw [sampler.decide_greedy weight greedy numbers first, if_pos]
    refine List.any_eq_true.mpr ⟨_, List.mem_range.mpr device.1, ?_⟩
    rw [same, processed]
    rfl
  refine ⟨_, device, rfl, decided, ?_⟩
  rw [Sampler.select]
  split
  · rfl
  · exact decided

/-- A positive, strictly increasing function of the rationals. -/
def rationalWeight : Weight ℚ where
  exp value := if value < 0 then 1 / (1 - value) else 1 + value
  positive := by
    intro value
    split
    next negative => exact one_div_pos.mpr (by linarith)
    next nonneg => linarith [not_lt.mp nonneg]

/-- A greedy sampler of three tokens. -/
def threeTokens : Sampler ℚ :=
  ⟨3, by decide, ⟨0, 2, 1 / 2, le_refl 0, by norm_num, by norm_num⟩, some id⟩

/-- The two largest of three logits are equal. -/
def tiedLogits (index : Nat) : ℚ :=
  if index = 0 then 1 else 2

theorem device_argmax_eq_decide_three :
    ∃ token, IsFirst tiedLogits 3 token ∧
      deviceArgmax tiedLogits 3 = token ∧
      threeTokens.decide rationalWeight (fun index => .finite (tiedLogits index)) 0 =
        .ok token ∧
      threeTokens.select rationalWeight tiedLogits 0 = .ok token :=
  device_argmax_eq_decide threeTokens rationalWeight tiedLogits 0 rfl fun _ => rfl

end Aeon.Sampling
