import Aeon.ExtendedArithmetic

namespace Aeon.Sampling

/-!
# The sampler

`sampler_ops` and `Sampler::decide` over exact arithmetic: processor, temperature,
top-k, top-p, the check for a finite logit, then the argmax or a draw.  A logit vector
is a function with its length beside it.  The exponential and the draw of the generator
are parameters.
-/

variable {K : Type} [Field K] [LinearOrder K]

/-- The logits of a vocabulary. -/
abbrev Logits (K : Type) := Nat → Extended K

/-- A function in the exponential's place. -/
structure Weight (K : Type) [Zero K] [LT K] where
  exp : K → K
  positive : ∀ value, 0 < exp value

/-- `exp`. -/
def Weight.apply (weight : Weight K) : Extended K → Extended K
  | .nan => .nan
  | .negInf => .finite 0
  | .finite value => .finite (weight.exp value)
  | .posInf => .posInf

/-- `SamplerConfig` as `set_config` takes it. -/
structure SamplerConfig (K : Type) [Zero K] [One K] [LinearOrder K] where
  temperature : K
  topK : Nat
  topP : K
  temperature_nonneg : 0 ≤ temperature
  topP_pos : 0 < topP
  topP_le_one : topP ≤ 1

/-! ## `sampler_ops` -/

variable (logits : Logits K)

/-- `argmax_of`. -/
def argmaxOf
    (n : Nat) : Nat :=
  (List.range' 1 (n - 1)).foldl
    (fun best index => if (logits best).lt (logits index) then index else best) 0

/-- `has_finite_logit`. -/
def hasFiniteLogit
    (n : Nat) : Bool :=
  (List.range n).any fun index => (logits index).isFinite

/-- `apply_temperature`. -/
def applyTemperature
    (temperature : K) : Logits K :=
  if temperature = 1 then logits
  else fun index => (logits index).mul (.finite (1 / temperature))

/-- The comparison of `nth_element`: one logit is larger. -/
def larger
    (one other : Nat) : Bool :=
  (logits other).lt (logits one)

/-- The comparison of the nucleus sort: the larger logit, then the lower index. -/
def ranksBefore
    (one other : Nat) : Bool :=
  if logits one ≠ logits other then larger logits one other else one < other

/-- The indices below `n`, sorted by a strict comparison. -/
def sortedIndices
    (before : Nat → Nat → Bool)
    (n : Nat) : List Nat :=
  (List.range n).mergeSort fun one other => !before other one

/-- The logit `nth_element` brings to the place `k - 1`: the k-th largest. -/
def kthLargest
    (n k : Nat) : Extended K :=
  logits ((sortedIndices (larger logits) n).getD (k - 1) 0)

/-- `apply_top_k`. -/
def applyTopK
    (n k : Nat) : Logits K :=
  if k = 0 ∨ n ≤ k then logits
  else
    let threshold := kthLargest logits n k
    fun index => if (logits index).lt threshold then .negInf else logits index

/-- The largest logit, as the loops of the nucleus and the softmax find it. -/
def maxLogit
    (n : Nat) : Extended K :=
  (List.range n).foldl
    (fun max index => if max.lt (logits index) then logits index else max) .negInf

section Mass

variable (weight : Weight K) (logits : Logits K) (n : Nat)

/-- The exponential of a logit less the largest one. -/
def mass (index : Nat) : Extended K :=
  weight.apply ((logits index).sub (maxLogit logits n))

/-- The sum of the exponentials. -/
def totalMass : Extended K :=
  Extended.sum (.finite 0) ((List.range n).map (mass weight logits n))

/-- The order of the nucleus. -/
def nucleusOrder : List Nat :=
  sortedIndices (ranksBefore logits) n

/-- The number of ranks kept: up to the one the shares reach `top_p` with. -/
def keepRanks (topP : K) : List (Extended K) → Extended K → Nat
  | [], _ => 0
  | share :: rest, accumulated =>
    let accumulated := accumulated.add share
    if (Extended.finite topP).le accumulated then 1
    else keepRanks topP rest accumulated + 1

/-- The number of ranks `apply_top_p` keeps. -/
def keep (topP : K) : Nat :=
  keepRanks topP
    ((nucleusOrder logits n).map fun index =>
      (mass weight logits n index).div (totalMass weight logits n))
    (.finite 0)

/-- `apply_top_p`. -/
def applyTopP (topP : K) : Logits K :=
  if 1 ≤ topP then logits
  else if !(maxLogit logits n).isFinite then logits
  else if !(Extended.finite 0).lt (totalMass weight logits n) then logits
  else fun index =>
    if index ∈ (nucleusOrder logits n).drop (keep weight logits n topP) then .negInf
    else logits index

/-- `softmax_in_place`. -/
def softmaxInPlace : Logits K :=
  fun index => (mass weight logits n index).mul
    ((Extended.finite 1).div (totalMass weight logits n))

end Mass

/-- The walk of `sample_from_probs`, which falls back on the last positive index. -/
def sampleWalk
    (probs : Logits K)
    (u : K) : List Nat → Extended K → Nat → Nat
  | [], _, lastPositive => lastPositive
  | index :: rest, accumulated, lastPositive =>
    let lastPositive :=
      if (Extended.finite 0).lt (probs index) then index else lastPositive
    let accumulated := accumulated.add (probs index)
    if (Extended.finite u).lt accumulated then index
    else sampleWalk probs u rest accumulated lastPositive

/-- `sample_from_probs`. -/
def sampleFromProbs
    (probs : Logits K)
    (n : Nat)
    (u : K) : Nat :=
  sampleWalk probs u (List.range n) (.finite 0) 0

/-! ## `Sampler` -/

/-- The refusal of `decide`. -/
def noFiniteLogit : String :=
  "Sampler: the logit processor left no finite logit — there is no " ++
    "distribution to decide from (a promotion must be a finite bias)"

/-- The sampler of a vocabulary, which its constructor refuses to be empty. -/
structure Sampler (K : Type) [Zero K] [One K] [LinearOrder K] where
  vocab : Nat
  vocab_pos : 0 < vocab
  config : SamplerConfig K
  processor : Option (Logits K → Logits K)

namespace Sampler

variable (sampler : Sampler K) (weight : Weight K) (logits : Logits K)

/-- The logits after the processor. -/
def processedLogits : Logits K :=
  match sampler.processor with
  | some processor => processor logits
  | none => logits

/-- The logits after temperature and top-k, which top-p cuts. -/
def truncatedLogits : Logits K :=
  let logits := sampler.processedLogits logits
  let logits :=
    if 0 < sampler.config.temperature then
      applyTemperature logits sampler.config.temperature
    else logits
  applyTopK logits sampler.vocab sampler.config.topK

/-- The logits the decision is made from. -/
def decidedLogits : Logits K :=
  applyTopP weight (sampler.truncatedLogits logits) sampler.vocab sampler.config.topP

/-- `Sampler::decide`, with the generator's draw. -/
def decide (u : K) : Except String Nat :=
  let decided := sampler.decidedLogits weight logits
  if !hasFiniteLogit decided sampler.vocab then .error noFiniteLogit
  else if ¬ 0 < sampler.config.temperature then .ok (argmaxOf decided sampler.vocab)
  else .ok (sampleFromProbs (softmaxInPlace weight decided sampler.vocab)
    sampler.vocab u)

end Sampler

end Aeon.Sampling
