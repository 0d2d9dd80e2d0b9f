import Aeon.IndexerTopkKernel

namespace Aeon.Attention

open BlockReduction StableSort

/-!
# The router's selection

`moe_router_kernel`, one block a token: its threads score the experts, thread 0 picks
the highest biased score over and over and masks what it picked, or the token's row of
the hash table names the experts.  The arithmetic of the scores is a parameter; an
access outside the shared arrays is `none`.
-/

variable {Score : Type}

/-- The floating-point operations the router scores and weighs with. -/
structure RouterArithmetic (Score : Type) where
  softplusSqrt : Score → Score
  add : Score → Score → Score
  multiply : Score → Score → Score
  divide : Score → Score → Score
  zero : Score
  epsilon : Score
  routedScalingFactor : Score

/-- What the kernel reads for a token. -/
structure RouterInput (Score : Type) where
  logits : Nat → Score
  bias : Option (Nat → Score)
  hashTable : Option (Nat → Int)
  tokenId : Nat

/-- Threads of a block of the router. -/
def routerThreads : Nat := 64

/-- Entries of the shared arrays of scores. -/
def routerExperts : Nat := 256

/-- The experts in the order the threads score them. -/
def scoredExperts (nRoutedExperts : Nat) : List Nat :=
  (List.range routerThreads).flatMap fun thread =>
    ((List.range 4).map fun item => thread + item * 64).filter (· < nRoutedExperts)

/-- The score of an expert. -/
def routerScore
    (arithmetic : RouterArithmetic Score)
    (input : RouterInput Score)
    (expert : Nat) : Score :=
  arithmetic.softplusSqrt (input.logits expert)

/-- The biased score of an expert, which the choice is made by. -/
def routerChoice
    (arithmetic : RouterArithmetic Score)
    (input : RouterInput Score)
    (expert : Nat) : Score :=
  arithmetic.add (routerScore arithmetic input expert)
    (match input.bias with
    | some bias => bias expert
    | none => arithmetic.zero)

/-- `s_scores` or `s_choice` after the scoring, over what the array held. -/
def sharedScores
    (value : Nat → Score)
    (nRoutedExperts : Nat)
    (shared : Nat → Score) : Nat → Score :=
  (scoredExperts nRoutedExperts).foldl
    (fun shared expert => Function.update shared expert (value expert)) shared

section Kernel

variable [LinearOrder Score] (arithmetic : RouterArithmetic Score) (floor : Score)

/-- Thread 0's search for the highest choice. -/
def highestChoice
    (choice : Nat → Score)
    (nRoutedExperts : Nat) : Best Score :=
  (List.range nRoutedExperts).foldl
    (fun best expert =>
      if best.score < choice expert then ⟨choice expert, expert⟩ else best) ⟨floor, -1⟩

/-- An expert as an index into the shared arrays. -/
def sharedIndex : Int → Option Nat
  | .ofNat expert => if expert < routerExperts then some expert else none
  | .negSucc _ => none

/-- The picks of thread 0, and the choices with the picked ones masked. -/
def routerRounds
    (scores choice : Nat → Score)
    (nRoutedExperts : Nat) : Nat → Option ((Nat → Score) × List (Nat × Score))
  | 0 => some (choice, [])
  | round + 1 => do
      let (choice, picks) ← routerRounds scores choice nRoutedExperts round
      let pick ← sharedIndex (highestChoice floor choice nRoutedExperts).index
      return (Function.update choice pick floor, picks ++ [(pick, scores pick)])

/-- The experts the token's row of the hash table names. -/
def hashedExperts
    (hashTable : Nat → Int)
    (tokenId topK : Nat)
    (scores : Nat → Score) : Option (List (Nat × Score)) :=
  (List.range topK).mapM fun thread => do
    let expert ← sharedIndex (hashTable (tokenId * topK + thread))
    return (expert, scores expert)

/-- The weight of one of the picks. -/
def routerWeight
    (picks : List (Nat × Score))
    (renormalize : Bool)
    (value : Score) : Score :=
  let sum := picks.foldl (fun sum pick => arithmetic.add sum pick.2) arithmetic.zero
  let value :=
    if renormalize then arithmetic.divide value (arithmetic.add sum arithmetic.epsilon)
    else value
  arithmetic.multiply value arithmetic.routedScalingFactor

/-- `moe_router_kernel` on one token: the indices it writes with their weights. -/
def moeRouterKernel
    (input : RouterInput Score)
    (nRoutedExperts topK : Nat)
    (renormalize : Bool)
    (sharedScores₀ sharedChoice₀ : Nat → Score) : Option (List (Nat × Score)) := do
  let scores :=
    sharedScores (routerScore arithmetic input) nRoutedExperts sharedScores₀
  let choice :=
    sharedScores (routerChoice arithmetic input) nRoutedExperts sharedChoice₀
  let picks ←
    match input.hashTable with
    | some hashTable => hashedExperts hashTable input.tokenId topK scores
    | none => do
        let (_, picks) ← routerRounds floor scores choice nRoutedExperts topK
        return picks
  return picks.map fun pick =>
    (pick.1, routerWeight arithmetic picks renormalize pick.2)

end Kernel

/-! ## The picks follow the sort -/

/-- The threads of a block score every expert. -/
theorem mem_scoredExperts
    {nRoutedExperts expert : Nat}
    (fits : nRoutedExperts ≤ routerExperts) :
    expert ∈ scoredExperts nRoutedExperts ↔ expert < nRoutedExperts := by
  have fits' : nRoutedExperts ≤ 256 := fits
  simp only [scoredExperts, List.mem_flatMap, List.mem_filter, List.mem_map,
    List.mem_range, decide_eq_true_iff, routerThreads]
  constructor
  · rintro ⟨-, -, -, inside⟩
    exact inside
  · intro inside
    exact ⟨expert % 64, by omega, ⟨expert / 64, by omega, by omega⟩, inside⟩

theorem sharedScores_apply
    (value shared : Nat → Score)
    {nRoutedExperts expert : Nat}
    (fits : nRoutedExperts ≤ routerExperts)
    (inside : expert < nRoutedExperts) :
    sharedScores value nRoutedExperts shared expert = value expert := by
  rw [sharedScores, foldl_store]
  exact if_pos ((mem_scoredExperts fits).mpr inside)

section Rounds

variable [LinearOrder Score] {floor : Score} {choice : Nat → Score}

/-- One round's scan, for any choice. -/
theorem highestChoice_spec
    (choice : Nat → Score)
    (nRoutedExperts : Nat) :
    let best := highestChoice floor choice nRoutedExperts
    (best = ⟨floor, -1⟩ ∧ ∀ expert < nRoutedExperts, choice expert ≤ floor) ∨
      ∃ pick < nRoutedExperts, best = entry choice pick ∧ floor < choice pick ∧
        ∀ other < nRoutedExperts, other ≠ pick → Before choice pick other := by
  induction nRoutedExperts with
  | zero => exact .inl ⟨rfl, by simp⟩
  | succ count ih =>
    simp only [highestChoice, List.range_succ, List.foldl_append, List.foldl_cons,
      List.foldl_nil]
    rw [← highestChoice]
    rcases ih with
      ⟨nothing, low⟩ | ⟨pick, inside, found, higher, first⟩
    · rw [nothing]
      by_cases more : floor < choice count
      · rw [if_pos more]
        refine .inr ⟨count, Nat.lt_succ_self _, rfl, more, ?_⟩
        intro other otherInside different
        exact .inl (lt_of_le_of_lt (low other (by omega)) more)
      · rw [if_neg more]
        refine .inl ⟨rfl, fun expert expertInside => ?_⟩
        rcases Nat.lt_succ_iff_lt_or_eq.mp expertInside with earlier | rfl
        · exact low expert earlier
        · exact not_lt.mp more
    · rw [found]
      by_cases more : choice pick < choice count
      · rw [if_pos (by exact more)]
        refine .inr ⟨count, Nat.lt_succ_self _, rfl, lt_trans higher more, ?_⟩
        intro other otherInside different
        by_cases same : other = pick
        · exact .inl (same ▸ more)
        · rcases first other (by omega) same with less | ⟨equal, -⟩
          · exact .inl (lt_trans less more)
          · exact .inl (equal ▸ more)
      · rw [if_neg (by exact more)]
        refine .inr ⟨pick, by omega, rfl, higher, ?_⟩
        intro other otherInside different
        rcases Nat.lt_succ_iff_lt_or_eq.mp otherInside with earlier | rfl
        · exact first other earlier different
        · rcases lt_or_eq_of_le (not_lt.mp more) with less | equal
          · exact .inl less
          · exact .inr ⟨equal, inside⟩

/-- The rounds take the front of the descending order. -/
theorem routerRounds_eq
    (scores : Nat → Score)
    {nRoutedExperts : Nat}
    (fits : nRoutedExperts ≤ routerExperts)
    (above : ∀ expert < nRoutedExperts, floor < choice expert)
    {round : Nat}
    (enough : round ≤ nRoutedExperts) :
    ∃ masked, routerRounds floor scores choice nRoutedExperts round =
        some (masked, ((descending choice nRoutedExperts).take round).map
          fun expert => (expert, scores expert)) ∧
      ∀ expert, masked expert =
        if expert ∈ (descending choice nRoutedExperts).take round then floor
        else choice expert := by
  induction round with
  | zero => exact ⟨choice, rfl, fun expert => by simp⟩
  | succ round ih =>
    obtain ⟨masked, reached, masks⟩ := ih (by omega)
    obtain ⟨free, freeInside, isFree⟩ := @exists_left nRoutedExperts
      ((descending choice nRoutedExperts).take round) (by
        rw [List.length_take, descending_length]
        omega)
    rcases @highestChoice_spec _ _ floor masked nRoutedExperts with
      ⟨-, low⟩ | ⟨pick, inside, found, higher, first⟩
    · have notHigher := low free freeInside
      rw [masks, if_neg isFree] at notHigher
      exact absurd (above free freeInside) (not_lt.mpr notHigher)
    have left : pick ∉ (descending choice nRoutedExperts).take round := by
      intro listed
      rw [masks, if_pos listed] at higher
      exact lt_irrefl _ higher
    have next := take_succ_eq choice nRoutedExperts inside left (by
      intro other otherInside otherLeft different
      have before := first other otherInside different
      rwa [Before, masks, masks, if_neg left, if_neg otherLeft] at before)
    have index : sharedIndex (pick : Int) = some pick :=
      if_pos (Nat.lt_of_lt_of_le inside fits)
    refine ⟨Function.update masked pick floor, ?_, ?_⟩
    · rw [routerRounds, reached, next]
      simp only [Option.bind_eq_bind, Option.bind_some, found, entry, index,
        List.map_append]
      rfl
    · intro expert
      rw [next]
      by_cases same : expert = pick
      · simp [same]
      · simp [masks, same]

/-- The kernel picks the front of the stable descending order. -/
theorem moeRouterKernel_picks
    (arithmetic : RouterArithmetic Score)
    {input : RouterInput Score}
    (learned : input.hashTable = none)
    {nRoutedExperts topK : Nat}
    (fits : nRoutedExperts ≤ routerExperts)
    (enough : topK ≤ nRoutedExperts)
    (above : ∀ expert < nRoutedExperts, floor < routerChoice arithmetic input expert)
    (renormalize : Bool)
    (sharedScores₀ sharedChoice₀ : Nat → Score) :
    ∃ picks, moeRouterKernel arithmetic floor input nRoutedExperts topK renormalize
        sharedScores₀ sharedChoice₀ = some picks ∧
      picks.map (·.1) =
        (descending (routerChoice arithmetic input) nRoutedExperts).take topK := by
  have choices : ∀ expert < nRoutedExperts,
      sharedScores (routerChoice arithmetic input) nRoutedExperts sharedChoice₀ expert =
        routerChoice arithmetic input expert :=
    fun expert inside => sharedScores_apply _ _ fits inside
  obtain ⟨masked, reached, -⟩ := @routerRounds_eq _ _ floor
    (sharedScores (routerChoice arithmetic input) nRoutedExperts sharedChoice₀)
    (sharedScores (routerScore arithmetic input) nRoutedExperts sharedScores₀) _ fits
    (fun expert inside => by
      rw [choices expert inside]
      exact above expert inside) _ enough
  rw [descending_congr _ _ choices] at reached
  refine ⟨_, by
    simp only [moeRouterKernel, learned, reached, Option.bind_eq_bind, Option.bind_some]
    rfl, ?_⟩
  rw [List.map_map]
  exact List.map_id _

/-- Both selections are the front of a stable descending sort. -/
theorem selections_eq_stable_sort
    (floor : Score)
    (arithmetic : RouterArithmetic Score) :
    (∀ (scores : Nat → Score) (candidateCount topk : Nat) (before : Nat → Int),
      1 ≤ candidateCount → 1 ≤ topk →
      (∀ candidate < candidateCount, floor < scores candidate) →
      ∃ row, v4IndexerTopkKernel floor scores candidateCount topk before = some row ∧
        (topk < candidateCount → (List.range topk).map row =
          ((descending scores candidateCount).take topk).map Int.ofNat) ∧
        (topk < candidateCount → ((List.range topk).map row).Nodup) ∧
        (candidateCount ≤ topk → (List.range topk).map row =
          (List.range candidateCount).map Int.ofNat ++
            List.replicate (topk - candidateCount) (-1)) ∧
        (∀ candidate : Nat, (∃ index < topk, row index = candidate) ↔
          candidate ∈
            (descending scores candidateCount).take (min candidateCount topk)) ∧
        ∀ index, topk ≤ index → row index = before index) ∧
    (∀ (input : RouterInput Score) (nRoutedExperts : Nat) (renormalize : Bool)
        (sharedScores₀ sharedChoice₀ : Nat → Score),
      input.hashTable = none → 6 ≤ nRoutedExperts → nRoutedExperts ≤ routerExperts →
      (∀ expert < nRoutedExperts, floor < routerChoice arithmetic input expert) →
      ∃ picks, moeRouterKernel arithmetic floor input nRoutedExperts 6 renormalize
          sharedScores₀ sharedChoice₀ = some picks ∧
        picks.map (·.1) =
          (descending (routerChoice arithmetic input) nRoutedExperts).take 6 ∧
        (picks.map (·.1)).Nodup) := by
  refine ⟨?_, ?_⟩
  · intro scores candidateCount topk before _ _ above
    rcases Nat.lt_or_ge topk candidateCount with many | few
    · obtain ⟨row, returned, written, frame⟩ :=
        v4IndexerTopkKernel_many above many before
      have distinct : ((List.range topk).map row).Nodup := by
        rw [written]
        exact (front_nodup scores candidateCount topk).map fun _ _ => Int.ofNat.inj
      exact ⟨row, returned, fun _ => written, fun _ => distinct,
        fun few => absurd few (by omega),
        v4IndexerTopkKernel_selected above returned, frame⟩
    · obtain ⟨row, returned, written, frame⟩ :=
        @v4IndexerTopkKernel_few _ _ floor scores _ _ few before
      exact ⟨row, returned, fun many => absurd many (by omega),
        fun many => absurd many (by omega), fun _ => written,
        v4IndexerTopkKernel_selected above returned, frame⟩
  · intro input nRoutedExperts renormalize sharedScores₀ sharedChoice₀ learned enough
      fits above
    obtain ⟨picks, returned, picked⟩ := moeRouterKernel_picks arithmetic learned fits
      enough above renormalize sharedScores₀ sharedChoice₀
    refine ⟨picks, returned, picked, ?_⟩
    rw [picked]
    exact front_nodup (routerChoice arithmetic input) nRoutedExperts 6

/-- Arithmetic on integers, where a score is its logit. -/
def integerArithmetic : RouterArithmetic Int :=
  ⟨id, (· + ·), (· * ·), fun score _ => score, 0, 1, 1⟩

/-- Seven experts, of which the last two tie. -/
def sevenExperts : RouterInput Int :=
  ⟨fun expert => 10 - min expert 5, none, none, 0⟩

/-- Two of three candidates, and six of seven experts. -/
theorem selections_eq_stable_sort_three :
    (∃ row, v4IndexerTopkKernel (0 : Int) (fun candidate => 3 - candidate) 3 2
        (fun _ => 7) = some row ∧
      (List.range 2).map row =
        ((descending (fun candidate => (3 - candidate : Int)) 3).take 2).map
          Int.ofNat) ∧
    ∃ picks, moeRouterKernel integerArithmetic 0 sevenExperts 7 6 true (fun _ => 0)
        (fun _ => 0) = some picks ∧
      picks.map (·.1) =
        (descending (routerChoice integerArithmetic sevenExperts) 7).take 6 ∧
      (picks.map (·.1)).Nodup := by
  obtain ⟨topk, router⟩ := selections_eq_stable_sort (0 : Int) integerArithmetic
  obtain ⟨row, returned, written, -⟩ := topk (fun candidate => 3 - candidate) 3 2
    (fun _ => 7) (by decide) (by decide) (by decide)
  exact ⟨⟨row, returned, written (by decide)⟩,
    router sevenExperts 7 true _ _ rfl (by decide) (by decide) (by decide)⟩

end Rounds

end Aeon.Attention
