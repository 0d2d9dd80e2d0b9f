import Mathlib.Data.List.Sort
import Mathlib.Data.List.Nodup
import Mathlib.Order.Basic

namespace Aeon.StableSort

/-!
# The stable descending sort of an indexed family

Indices sorted by falling score, equal scores in index order.  The order between two
indices is strict and total, so that a selection which always takes the first index
left is the sorted list, one index after the other.
-/

variable {Score : Type} [LinearOrder Score]

/-- One index comes before another: the higher score, then the lower index. -/
def Before
    (scores : Nat → Score)
    (one other : Nat) : Prop :=
  scores other < scores one ∨ scores other = scores one ∧ one < other

instance
    (scores : Nat → Score)
    (one other : Nat) :
    Decidable (Before scores one other) :=
  inferInstanceAs (Decidable (_ ∨ _))

/-- The stable descending sort of the indices below `count`. -/
def descending
    (scores : Nat → Score)
    (count : Nat) : List Nat :=
  (List.range count).mergeSort fun one other => decide (scores other ≤ scores one)

theorem Before.asymm
    {scores : Nat → Score}
    {one other : Nat}
    (before : Before scores one other) :
    ¬ Before scores other one := by
  rintro (more | ⟨same, lower⟩)
  · rcases before with more' | ⟨same', -⟩
    · exact lt_asymm more more'
    · exact absurd same' (ne_of_gt more)
  · rcases before with more' | ⟨-, lower'⟩
    · exact absurd same (ne_of_gt more')
    · exact Nat.lt_asymm lower lower'

/-- Not before is behind, or the same. -/
theorem not_before_iff
    {scores : Nat → Score}
    {one other : Nat} :
    ¬ Before scores other one ↔
      scores other < scores one ∨ scores other = scores one ∧ one ≤ other := by
  rw [Before, not_or, not_lt, not_and, Nat.not_lt]
  constructor
  · rintro ⟨atMost, lower⟩
    rcases lt_or_eq_of_le atMost with less | same
    · exact .inl less
    · exact .inr ⟨same, lower same.symm⟩
  · rintro (less | ⟨same, lower⟩)
    · exact ⟨le_of_lt less, fun same => absurd same (ne_of_gt less)⟩
    · exact ⟨le_of_eq same, fun _ => lower⟩

/-- In a list without repetitions two elements stand in one order only. -/
theorem sublist_pair_asymm
    {list : List Nat}
    (distinct : list.Nodup)
    {one other : Nat}
    (inOrder : [one, other].Sublist list) :
    ¬ [other, one].Sublist list := by
  have indexed : list.Pairwise fun one other => list.idxOf one < list.idxOf other := by
    rw [List.pairwise_iff_getElem]
    intro front back frontInside backInside less
    rwa [distinct.idxOf_getElem, distinct.idxOf_getElem]
  intro reversed
  exact Nat.lt_asymm (indexed.forall_sublist inOrder) (indexed.forall_sublist reversed)

/-- Two numbers below a bound stand in the range in their order. -/
theorem pair_sublist_range
    {lower upper count : Nat}
    (less : lower < upper)
    (inside : upper < count) :
    [lower, upper].Sublist (List.range count) := by
  obtain ⟨rest, rfl⟩ := Nat.exists_eq_add_of_lt inside
  rw [Nat.add_assoc, List.range_add]
  refine @List.Sublist.append _ [lower] _ [upper] _ ?_ ?_
  · exact List.singleton_sublist.mpr (List.mem_range.mpr less)
  · refine List.singleton_sublist.mpr (List.mem_map.mpr ⟨0, ?_, rfl⟩)
    exact List.mem_range.mpr (Nat.succ_pos rest)

section Descending

variable (scores : Nat → Score) (count : Nat)

/-- The order lists every index once. -/
theorem descending_perm :
    (descending scores count).Perm (List.range count) :=
  List.mergeSort_perm _ _

@[simp]
theorem descending_length : (descending scores count).length = count := by
  rw [descending, List.length_mergeSort, List.length_range]

@[simp]
theorem mem_descending
    {index : Nat} :
    index ∈ descending scores count ↔ index < count := by
  rw [descending, List.mem_mergeSort, List.mem_range]

theorem descending_nodup : (descending scores count).Nodup :=
  (descending_perm scores count).nodup_iff.mpr List.nodup_range

theorem front_nodup (size : Nat) : ((descending scores count).take size).Nodup :=
  (descending_nodup scores count).sublist (List.take_sublist _ _)

/-- The sorted list is in the strict order throughout. -/
theorem descending_pairwise :
    (descending scores count).Pairwise (Before scores) := by
  have transitive : ∀ one two three : Nat,
      decide (scores two ≤ scores one) = true →
      decide (scores three ≤ scores two) = true →
      decide (scores three ≤ scores one) = true := by
    intro one two three first second
    exact decide_eq_true (le_trans (of_decide_eq_true second) (of_decide_eq_true first))
  have total : ∀ one two : Nat,
      (decide (scores two ≤ scores one) || decide (scores one ≤ scores two)) =
        true := by
    intro one two
    rcases le_total (scores two) (scores one) with more | less
    · rw [decide_eq_true more, Bool.true_or]
    · rw [decide_eq_true less, Bool.or_true]
  have sorted := List.pairwise_mergeSort transitive total (List.range count)
  have distinct := descending_nodup scores count
  rw [List.pairwise_iff_forall_sublist]
  intro one other inOrder
  have different : one ≠ other := by
    rintro rfl
    exact List.nodup_iff_sublist.mp distinct one inOrder
  have atLeast : scores other ≤ scores one := of_decide_eq_true
    (List.pairwise_iff_forall_sublist.mp sorted inOrder)
  rcases lt_or_eq_of_le atLeast with less | same
  · exact .inl less
  · refine .inr ⟨same, ?_⟩
    by_contra higher
    have inside : one < count :=
      (mem_descending scores count).mp (inOrder.subset List.mem_cons_self)
    -- a stable sort keeps a lower index of the same score in front
    have kept := List.pair_sublist_mergeSort transitive total (decide_eq_true same.ge)
      (pair_sublist_range (by omega : other < one) inside)
    exact sublist_pair_asymm distinct inOrder kept

/-- The sort reads the scores of the indices it sorts only. -/
theorem descending_congr
    {others : Nat → Score}
    (same : ∀ index < count, scores index = others index) :
    descending scores count = descending others count := by
  have mapped := List.map_mergeSort (f := id)
    (r := fun one other => decide (scores other ≤ scores one))
    (s := fun one other => decide (others other ≤ others one))
    (l := List.range count) (by
      intro one oneListed other otherListed
      rw [same one (List.mem_range.mp oneListed),
        same other (List.mem_range.mp otherListed)]
      rfl)
  rwa [List.map_id, List.map_id] at mapped

/-- It is the one sorted listing. -/
theorem eq_descending
    {list : List Nat}
    (perm : list.Perm (List.range count))
    (sorted : list.Pairwise (Before scores)) :
    list = descending scores count :=
  List.Perm.eq_of_pairwise (fun _ _ _ _ before after => absurd after before.asymm)
    sorted (descending_pairwise scores count)
    (perm.trans (descending_perm scores count).symm)

/-- Sorting by the strict order itself gives the stable sort. -/
theorem mergeSort_before :
    ((List.range count).mergeSort fun one other => !decide (Before scores other one)) =
      descending scores count := by
  have transitive : ∀ one two three : Nat,
      (!decide (Before scores two one)) = true →
      (!decide (Before scores three two)) = true →
      (!decide (Before scores three one)) = true := by
    intro one two three first second
    simp only [Bool.not_eq_true', decide_eq_false_iff_not, not_before_iff] at *
    rcases first with less | ⟨same, lower⟩
    · rcases second with less' | ⟨same', -⟩
      · exact .inl (lt_trans less' less)
      · exact .inl (same' ▸ less)
    · rcases second with less' | ⟨same', lower'⟩
      · exact .inl (same ▸ less')
      · exact .inr ⟨same'.trans same, Nat.le_trans lower lower'⟩
  have total : ∀ one two : Nat,
      (!decide (Before scores two one) || !decide (Before scores one two)) = true := by
    intro one two
    by_cases before : Before scores two one
    · rw [decide_eq_false before.asymm, Bool.not_false, Bool.or_true]
    · rw [decide_eq_false before, Bool.not_false, Bool.true_or]
  have perm := List.mergeSort_perm (List.range count)
    fun one other => !decide (Before scores other one)
  refine eq_descending scores count perm ?_
  have distinct := perm.nodup_iff.mpr List.nodup_range
  refine ((List.pairwise_mergeSort transitive total (List.range count)).and
    distinct).imp ?_
  rintro one other ⟨sorted, different⟩
  rcases not_before_iff.mp (of_decide_eq_false (by simpa using sorted)) with
    less | ⟨same, lower⟩
  · exact .inl less
  · exact .inr ⟨same, Nat.lt_of_le_of_ne lower different⟩

/-- The best index left is the next of the order. -/
theorem take_succ_eq
    {round pick : Nat}
    (inside : pick < count)
    (left : pick ∉ (descending scores count).take round)
    (first : ∀ other < count, other ∉ (descending scores count).take round →
      other ≠ pick → Before scores pick other) :
    (descending scores count).take (round + 1) =
      (descending scores count).take round ++ [pick] := by
  have listed := (mem_descending scores count).mpr inside
  have dropped : pick ∈ (descending scores count).drop round := by
    rw [← List.take_append_drop round (descending scores count)] at listed
    exact (List.mem_append.mp listed).resolve_left left
  have room : round < (descending scores count).length := by
    by_contra full
    rw [List.drop_of_length_le (Nat.le_of_not_lt full)] at dropped
    exact List.not_mem_nil dropped
  rw [List.take_succ_eq_append_getElem room]
  generalize nextIs : (descending scores count)[round] = next
  have split : (descending scores count).drop round =
      next :: (descending scores count).drop (round + 1) := by
    rw [List.drop_eq_getElem_cons room, nextIs]
  have nextDropped : next ∈ (descending scores count).drop round := by
    rw [split]
    exact List.mem_cons_self
  have nextLeft : next ∉ (descending scores count).take round := fun taken =>
    List.disjoint_take_drop (descending_nodup scores count) (Nat.le_refl round)
      taken nextDropped
  have nextInside := (mem_descending scores count).mp (List.mem_of_mem_drop nextDropped)
  by_cases same : next = pick
  · rw [same]
  · have before := first next nextInside nextLeft same
    rw [split] at dropped
    have later := (List.mem_cons.mp dropped).resolve_left (Ne.symm same)
    have sorted := (descending_pairwise scores count).sublist
      (List.drop_sublist round _)
    rw [split] at sorted
    exact absurd before ((List.pairwise_cons.mp sorted).1 pick later).asymm

end Descending

/-! ## The first index of the sort -/

/-- The first index below `count`: the highest score, and the lowest index of it. -/
def IsFirst
    (scores : Nat → Score)
    (count index : Nat) : Prop :=
  index < count ∧ ∀ other < count, other ≠ index → Before scores index other

/-- There is one first index, -/
theorem IsFirst.unique
    {scores : Nat → Score}
    {count one other : Nat}
    (first : IsFirst scores count one)
    (first' : IsFirst scores count other) :
    one = other := by
  by_contra different
  exact (first.2 other first'.1 (Ne.symm different)).asymm
    (first'.2 one first.1 different)

theorem IsFirst.le
    {scores : Nat → Score}
    {count index other : Nat}
    (first : IsFirst scores count index)
    (inside : other < count) :
    scores other ≤ scores index := by
  by_cases same : other = index
  · rw [same]
  · rcases first.2 other inside same with less | ⟨equal, -⟩
    · exact le_of_lt less
    · exact le_of_eq equal

/-- and the order starts with it. -/
theorem IsFirst.descending_eq
    {scores : Nat → Score}
    {count index : Nat}
    (first : IsFirst scores count index) :
    ∃ rest, descending scores count = index :: rest := by
  have taken := @take_succ_eq _ _ scores count 0 index first.1 (by simp)
    (fun other inside _ different => first.2 other inside different)
  rw [List.take_zero, List.nil_append] at taken
  refine ⟨(descending scores count).drop 1, ?_⟩
  conv_lhs => rw [← List.take_append_drop 1 (descending scores count), taken]
  rfl

theorem IsFirst.lower
    {scores lowered : Nat → Score}
    {count index : Nat}
    (first : IsFirst scores count index)
    (same : lowered index = scores index)
    (lower : ∀ other < count, lowered other ≤ scores other) :
    IsFirst lowered count index := by
  refine ⟨first.1, fun other inside different => ?_⟩
  have below := lower other inside
  rw [Before, same]
  rcases first.2 other inside different with less | ⟨equal, later⟩
  · exact .inl (lt_of_le_of_lt below less)
  · rcases lt_or_eq_of_le (equal ▸ below) with less | equal'
    · exact .inl less
    · exact .inr ⟨equal', later⟩

end Aeon.StableSort
