import Aeon.Sampler
import Aeon.StableSort

namespace Aeon.Sampling

open StableSort

/-!
# What the stages of the sampler leave

The sorts and scans of the stages are those of one linear order, as long as no logit is
not-a-number.  A truncation leaves a logit as it is or lowers it to negative infinity,
and never touches the first maximum.
-/

variable {K : Type} [LinearOrder K]

/-- No logit is not-a-number. -/
def Numbers
    (logits : Logits K)
    (n : Nat) : Prop :=
  ∀ index < n, logits index ≠ .nan

instance
    (logits : Logits K)
    (n : Nat) :
    Decidable (Numbers logits n) :=
  inferInstanceAs (Decidable (∀ index < n, logits index ≠ .nan))

/-- Where the logits stand in their order. -/
def keys (logits : Logits K) : Nat → WithBot (WithTop K) :=
  fun index => (logits index).key

section Order

variable {logits : Logits K} {n : Nat}

/-- On numbers the comparison is that of the keys. -/
theorem Numbers.lt_iff
    (numbers : Numbers logits n)
    {one other : Nat}
    (oneInside : one < n)
    (otherInside : other < n) :
    (logits one).lt (logits other) = true ↔ keys logits one < keys logits other :=
  Extended.lt_iff_key (numbers one oneInside) (numbers other otherInside)

theorem sortedIndices_congr
    {before before' : Nat → Nat → Bool}
    (same : ∀ one < n, ∀ other < n, before one other = before' one other) :
    sortedIndices before n = sortedIndices before' n := by
  have mapped := List.map_mergeSort (f := id)
    (r := fun one other => !before other one) (s := fun one other => !before' other one)
    (l := List.range n) (by
      intro one oneListed other otherListed
      rw [same other (List.mem_range.mp otherListed) one (List.mem_range.mp oneListed)]
      rfl)
  rwa [List.map_id, List.map_id] at mapped

/-- `apply_top_k`'s order is the stable descending one. -/
theorem sortedIndices_larger (numbers : Numbers logits n) :
    sortedIndices (larger logits) n = descending (keys logits) n := by
  have sameSort : sortedIndices (larger logits) n = sortedIndices
      (fun one other => decide (keys logits other < keys logits one)) n := by
    refine sortedIndices_congr fun one oneInside other otherInside => ?_
    rw [larger, Bool.eq_iff_iff, numbers.lt_iff otherInside oneInside,
      decide_eq_true_iff]
  rw [sameSort, sortedIndices, descending]
  congr 1
  funext one other
  rw [Bool.eq_iff_iff]
  simp

/-- So is the order `apply_top_p` walks. -/
theorem nucleusOrder_eq (numbers : Numbers logits n) :
    nucleusOrder logits n = descending (keys logits) n := by
  rw [nucleusOrder, ← mergeSort_before]
  have byKeys :
      sortedIndices (fun one other => decide (Before (keys logits) one other)) n =
        (List.range n).mergeSort fun one other =>
          !decide (Before (keys logits) other one) := rfl
  rw [← byKeys]
  refine sortedIndices_congr fun one oneInside other otherInside => ?_
  have equal := Extended.key_inj (numbers one oneInside) (numbers other otherInside)
  rw [ranksBefore, larger, Bool.eq_iff_iff, decide_eq_true_iff, Before]
  by_cases same : logits one = logits other
  · have sameKey : keys logits other = keys logits one := (equal.mpr same).symm
    simp [same, sameKey]
  · have differentKey : keys logits other ≠ keys logits one := fun sameKey =>
      same (equal.mp sameKey.symm)
    rw [if_pos same, numbers.lt_iff otherInside oneInside]
    simp [differentKey]

/-- `argmax` finds the first of the largest. -/
theorem argmaxOf_isFirst
    (numbers : Numbers logits n)
    (positive : 0 < n) :
    IsFirst (keys logits) n (argmaxOf logits n) := by
  obtain ⟨count, rfl⟩ := Nat.exists_eq_succ_of_ne_zero (Nat.ne_of_gt positive)
  rw [argmaxOf, Nat.succ_sub_one]
  have run : ∀ turns ≤ count, IsFirst (keys logits) (turns + 1)
      ((List.range' 1 turns).foldl (fun best index =>
        if (logits best).lt (logits index) then index else best) 0) := by
    intro turns
    induction turns with
    | zero =>
      refine fun _ => ⟨Nat.one_pos, fun other inside different => ?_⟩
      exact absurd (Nat.lt_one_iff.mp inside) different
    | succ turns ih =>
      intro enough
      have first := ih (by omega)
      rw [List.range'_1_concat, List.foldl_append, List.foldl_cons, List.foldl_nil]
      generalize (List.range' 1 turns).foldl _ 0 = best at first ⊢
      have bestInside := first.1
      rw [Nat.add_comm 1 turns]
      by_cases more : keys logits best < keys logits (turns + 1)
      · rw [if_pos ((numbers.lt_iff (by omega) (by omega)).mpr more)]
        refine ⟨by omega, fun other inside different => .inl ?_⟩
        exact lt_of_le_of_lt (first.le (by omega)) more
      · rw [if_neg fun less => more ((numbers.lt_iff (by omega) (by omega)).mp less)]
        refine ⟨by omega, fun other inside different => ?_⟩
        rcases Nat.lt_succ_iff_lt_or_eq.mp inside with earlier | rfl
        · exact first.2 other earlier different
        · rcases lt_or_eq_of_le (not_lt.mp more) with less | same
          · exact .inl less
          · exact .inr ⟨same, bestInside⟩
  exact run count (Nat.le_refl _)

theorem maxLogit_eq
    (numbers : Numbers logits n)
    {index : Nat}
    (first : IsFirst (keys logits) n index) :
    maxLogit logits n = logits index := by
  have run : ∀ turns ≤ n, maxLogit logits turns ≠ .nan ∧
      (∀ other < turns, keys logits other ≤ (maxLogit logits turns).key) ∧
      (maxLogit logits turns = .negInf ∨
        ∃ other < turns, maxLogit logits turns = logits other) := by
    intro turns
    induction turns with
    | zero => exact fun _ => ⟨Extended.negInf_ne_nan, by simp, .inl rfl⟩
    | succ turns ih =>
      intro enough
      obtain ⟨number, largest, origin⟩ := ih (by omega)
      have next : maxLogit logits (turns + 1) =
          if (maxLogit logits turns).lt (logits turns) then logits turns
          else maxLogit logits turns := by
        rw [maxLogit, List.range_succ, List.foldl_append, List.foldl_cons,
          List.foldl_nil, ← maxLogit]
      have compared := Extended.lt_iff_key number (numbers turns (by omega))
      rw [next]
      by_cases more : (maxLogit logits turns).lt (logits turns) = true
      · rw [if_pos more]
        refine ⟨numbers turns (by omega), fun other inside => ?_,
          .inr ⟨turns, by omega, rfl⟩⟩
        rcases Nat.lt_succ_iff_lt_or_eq.mp inside with earlier | rfl
        · exact le_trans (largest other earlier) (le_of_lt (compared.mp more))
        · exact le_refl _
      · rw [if_neg more]
        refine ⟨number, fun other inside => ?_, ?_⟩
        · rcases Nat.lt_succ_iff_lt_or_eq.mp inside with earlier | rfl
          · exact largest other earlier
          · exact not_lt.mp fun less => more (compared.mpr less)
        · exact origin.imp id fun ⟨other, inside, same⟩ => ⟨other, by omega, same⟩
  obtain ⟨number, largest, origin⟩ := run n (Nat.le_refl _)
  rw [← Extended.key_inj number (numbers index first.1)]
  refine le_antisymm ?_ (largest index first.1)
  rcases origin with bottom | ⟨other, inside, same⟩
  · rw [bottom]
    exact bot_le
  · rw [same]
    exact first.le inside

end Order

/-! ## Top-k -/

section TopK

variable {logits : Logits K} {n : Nat}

/-- A logit below the k-th largest, where top-k truncates at all. -/
def BelowTopK
    (logits : Logits K)
    (n k index : Nat) : Prop :=
  0 < k ∧ k < n ∧ (logits index).lt (kthLargest logits n k) = true

instance
    (logits : Logits K)
    (n k index : Nat) :
    Decidable (BelowTopK logits n k index) :=
  inferInstanceAs (Decidable (_ ∧ _))

/-- Top-k keeps a logit or replaces it by minus infinity. -/
theorem applyTopK_apply
    (logits : Logits K)
    (n k index : Nat) :
    applyTopK logits n k index =
      if BelowTopK logits n k index then .negInf else logits index := by
  rw [applyTopK]
  by_cases off : k = 0 ∨ n ≤ k
  · rw [if_pos off, if_neg]
    rintro ⟨some, fewer, -⟩
    omega
  · rw [if_neg off]
    refine if_congr ?_ rfl rfl
    exact ⟨fun below => ⟨by omega, by omega, below⟩, fun below => below.2.2⟩

/-- The first of the largest survives top-k. -/
theorem IsFirst.not_belowTopK
    (numbers : Numbers logits n)
    {index : Nat}
    (first : IsFirst (keys logits) n index)
    (k : Nat) :
    ¬ BelowTopK logits n k index := by
  rintro ⟨some, fewer, below⟩
  have placed : k - 1 < (descending (keys logits) n).length := by
    rw [descending_length]
    omega
  rw [kthLargest, sortedIndices_larger numbers, List.getD_eq_getElem?_getD,
    List.getElem?_eq_getElem placed, Option.getD_some] at below
  have inside := (mem_descending (keys logits) n).mp (List.getElem_mem placed)
  rw [numbers.lt_iff first.1 inside] at below
  exact absurd below (not_lt.mpr (first.le inside))

end TopK

/-! ## Truncations -/

/-- Some logits lowered to negative infinity. -/
def Truncates
    (logits truncated : Logits K) : Prop :=
  ∀ index, truncated index = logits index ∨ truncated index = .negInf

omit [LinearOrder K] in
theorem Truncates.numbers
    {logits truncated : Logits K}
    {n : Nat}
    (truncates : Truncates logits truncated)
    (numbers : Numbers logits n) :
    Numbers truncated n := by
  intro index inside
  rcases truncates index with same | lowered
  · rw [same]
    exact numbers index inside
  · rw [lowered]
    exact Extended.negInf_ne_nan

/-- A truncation that leaves the first maximum alone leaves it first. -/
theorem Truncates.isFirst
    {logits truncated : Logits K}
    {n index : Nat}
    (truncates : Truncates logits truncated)
    (first : IsFirst (keys logits) n index)
    (same : truncated index = logits index) :
    IsFirst (keys truncated) n index := by
  refine first.lower (congrArg Extended.key same) fun other _ => ?_
  rcases truncates other with kept | lowered
  · exact le_of_eq (congrArg Extended.key kept)
  · rw [keys, lowered]
    exact bot_le

/-- Top-k truncates. -/
theorem applyTopK_truncates
    (logits : Logits K)
    (n k : Nat) :
    Truncates logits (applyTopK logits n k) := by
  intro index
  rw [applyTopK_apply]
  split
  · exact .inr rfl
  · exact .inl rfl

/-- The first of the largest is so after top-k. -/
theorem applyTopK_isFirst
    {logits : Logits K}
    {n index : Nat}
    (numbers : Numbers logits n)
    (first : IsFirst (keys logits) n index)
    (k : Nat) :
    applyTopK logits n k index = logits index ∧
      IsFirst (keys (applyTopK logits n k)) n index := by
  have same : applyTopK logits n k index = logits index := by
    rw [applyTopK_apply, if_neg (IsFirst.not_belowTopK numbers first k)]
  exact ⟨same, (applyTopK_truncates logits n k).isFirst first same⟩

section TopP

variable [Field K] (weight : Weight K) (logits : Logits K) (n : Nat)

/-- Some rank is always kept. -/
theorem keepRanks_pos
    (topP : K)
    (share : Extended K)
    (rest : List (Extended K))
    (accumulated : Extended K) :
    0 < keepRanks topP (share :: rest) accumulated := by
  rw [keepRanks]
  split
  · exact Nat.one_pos
  · exact Nat.succ_pos _

/-- Top-p keeps everything or cuts the end of its order. -/
theorem applyTopP_cases (topP : K) :
    applyTopP weight logits n topP = logits ∨
      applyTopP weight logits n topP = fun index =>
        if index ∈ (nucleusOrder logits n).drop (keep weight logits n topP) then .negInf
        else logits index := by
  unfold applyTopP
  split
  · exact .inl rfl
  split
  · exact .inl rfl
  split
  · exact .inl rfl
  · exact .inr rfl

theorem applyTopP_cut
    {logits : Logits K}
    {n : Nat}
    {topP value total : K}
    (cuts : ¬ 1 ≤ topP)
    (finite : maxLogit logits n = .finite value)
    (isTotal : totalMass weight logits n = .finite total)
    (positive : 0 < total) :
    applyTopP weight logits n topP = fun index =>
      if index ∈ (nucleusOrder logits n).drop (keep weight logits n topP) then .negInf
      else logits index := by
  rw [applyTopP, if_neg cuts, finite, isTotal, Extended.lt_finite,
    decide_eq_true positive]
  rfl

/-- Top-p truncates. -/
theorem applyTopP_truncates (topP : K) :
    Truncates logits (applyTopP weight logits n topP) := by
  intro index
  rcases applyTopP_cases weight logits n topP with same | cut
  · exact .inl (congrFun same index)
  · rw [cut]
    by_cases dropped : index ∈ (nucleusOrder logits n).drop (keep weight logits n topP)
    · exact .inr (if_pos dropped)
    · exact .inl (if_neg dropped)

/-- The first of the largest is so after top-p. -/
theorem applyTopP_isFirst
    {index : Nat}
    (numbers : Numbers logits n)
    (first : IsFirst (keys logits) n index)
    (topP : K) :
    applyTopP weight logits n topP index = logits index ∧
      IsFirst (keys (applyTopP weight logits n topP)) n index := by
  have same : applyTopP weight logits n topP index = logits index := by
    rcases applyTopP_cases weight logits n topP with same | cut
    · exact congrFun same index
    rw [cut]
    refine if_neg ?_
    obtain ⟨rest, order⟩ := first.descending_eq
    rw [← nucleusOrder_eq numbers] at order
    have distinct : (nucleusOrder logits n).Nodup := by
      rw [nucleusOrder_eq numbers]
      exact descending_nodup _ _
    have kept : 0 < keep weight logits n topP := by
      rw [keep, order]
      exact keepRanks_pos topP _ _ _
    generalize keep weight logits n topP = keep at kept ⊢
    obtain ⟨keep, rfl⟩ := Nat.exists_eq_succ_of_ne_zero (Nat.ne_of_gt kept)
    rw [order] at distinct ⊢
    intro dropped
    exact (List.nodup_cons.mp distinct).1 (List.mem_of_mem_drop dropped)
  exact ⟨same, (applyTopP_truncates weight logits n topP).isFirst first same⟩

end TopP

end Aeon.Sampling
