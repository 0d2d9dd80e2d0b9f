import Aeon.MoveToFront
import Mathlib.Algebra.BigOperators.Intervals
import Mathlib.Data.List.Dedup
import Mathlib.Order.Interval.Finset.Nat

namespace Aeon.StackDistance

open Finset

/-!
# Stack distances

The distance of a request is the number of distinct items asked for since that item
was last asked for.  A least-recently-used cache answers a request from memory exactly
when the distance is below its capacity.  The same number is a count of the positions
at which an item was last asked for, which is what a tree over positions can keep.
-/

variable {α : Type} [DecidableEq α]

/-! ## Last uses -/

/-- The position at which an item was last asked for. -/
def lastUse : List α → α → Option Nat
  | [], _ => none
  | first :: rest, item =>
    match lastUse rest item with
    | some position => some (position + 1)
    | none => if first = item then some 0 else none

/-- Whether the item at a position was not asked for again. -/
def isLast (items : List α) (position : Nat) : Bool :=
  match items[position]? with
  | some item => decide (item ∉ items.drop (position + 1))
  | none => false

/-- How many distinct items were asked for after a position. -/
def distinctAfter (items : List α) (position : Nat) : Nat :=
  (items.drop (position + 1)).dedup.length

variable {items : List α}
variable {item : α}

theorem lastUse_eq_none
    {item : α} :
    lastUse items item = none ↔ item ∉ items := by
  induction items with
  | nil => simp [lastUse]
  | cons first rest ih =>
    rw [lastUse, List.mem_cons, not_or]
    cases later : lastUse rest item with
    | some position =>
      have absent : ¬ item ∉ rest := by
        rw [← ih, later]
        exact nofun
      simp [not_not.mp absent]
    | none =>
      have absent : item ∉ rest := ih.mp later
      by_cases same : first = item
      · simp [same]
      · simp [same, absent, Ne.symm same]

theorem lastUse_eq_some
    {position : Nat} :
    lastUse items item = some position ↔
      items[position]? = some item ∧ item ∉ items.drop (position + 1) := by
  induction items generalizing position with
  | nil => simp [lastUse]
  | cons first rest ih =>
    cases later : lastUse rest item with
    | some found =>
      have asked : item ∈ rest := by
        by_contra absent
        rw [lastUse_eq_none.mpr absent] at later
        exact nomatch later
      simp only [lastUse, later, Option.some.injEq]
      cases position with
      | zero => simp [asked]
      | succ position =>
        rw [List.getElem?_cons_succ, List.drop_succ_cons, ← ih,
          later, Option.some.injEq]
        omega
    | none =>
      have absent := lastUse_eq_none.mp later
      simp only [lastUse, later]
      cases position with
      | zero => simp [absent]
      | succ position =>
        rw [List.getElem?_cons_succ, List.drop_succ_cons, ← ih,
          later]
        by_cases same : first = item <;> simp [same]

theorem lastUse_lt
    {position : Nat}
    (used : lastUse items item = some position) :
    position < items.length :=
  (List.getElem?_eq_some_iff.mp (lastUse_eq_some.mp used).1).1

theorem lastUse_concat
    (items : List α)
    (newest item : α) :
    lastUse (items ++ [newest]) item =
      if newest = item then some items.length else lastUse items item := by
  induction items with
  | nil => simp [lastUse]
  | cons first rest ih =>
    rw [List.cons_append, lastUse, ih]
    by_cases same : newest = item
    · simp [same]
    · simp only [same, if_false, lastUse]

theorem isLast_iff
    {position : Nat} :
    isLast items position = true ↔
      ∃ item, lastUse items item = some position := by
  unfold isLast
  cases here : items[position]? with
  | none => simp [lastUse_eq_some, here]
  | some item => simp [lastUse_eq_some, here]

/-- Asking for an item moves its mark to the end. -/
theorem isLast_concat
    (items : List α)
    (newest : α)
    (position : Nat) :
    isLast (items ++ [newest]) position = true ↔
      position = items.length ∨
        isLast items position = true ∧ lastUse items newest ≠ some position := by
  simp only [isLast_iff, lastUse_concat]
  constructor
  · rintro ⟨item, used⟩
    by_cases same : newest = item
    · rw [if_pos same] at used
      exact .inl (Option.some.inj used).symm
    · rw [if_neg same] at used
      refine .inr ⟨⟨item, used⟩, fun other => same ?_⟩
      have first := (lastUse_eq_some.mp used).1
      rw [(lastUse_eq_some.mp other).1] at first
      exact Option.some.inj first
  · rintro (atEnd | ⟨⟨item, used⟩, other⟩)
    · exact ⟨newest, by simp [atEnd]⟩
    · refine ⟨item, ?_⟩
      rw [if_neg, used]
      rintro rfl
      exact other used

theorem dedup_length_eq
    (items : List α) :
    items.dedup.length = #{position ∈ range items.length | isLast items position} := by
  induction items with
  | nil => rfl
  | cons first rest ih =>
    have shifted : ∀ position,
        isLast (first :: rest) (position + 1) = isLast rest position :=
      fun position => by simp [isLast]
    have head : isLast (first :: rest) 0 = decide (first ∉ rest) := by simp [isLast]
    rw [card_filter, List.length_cons, sum_range_succ']
    simp only [shifted, head, decide_eq_true_eq]
    rw [← card_filter, ← ih]
    by_cases again : first ∈ rest
    · simp [List.dedup_cons_of_mem again, again]
    · simp [List.dedup_cons_of_notMem again, again]

theorem distinctAfter_eq
    (items : List α)
    (position : Nat) :
    distinctAfter items position =
      #{later ∈ Ico (position + 1) items.length | isLast items later} := by
  have shifted : ∀ later,
      isLast items (position + 1 + later) =
        isLast (items.drop (position + 1)) later := by
    intro later
    simp [isLast, List.getElem?_drop, List.drop_drop, Nat.add_assoc]
  rw [distinctAfter, dedup_length_eq, card_filter, card_filter,
    sum_Ico_eq_sum_range, List.length_drop]
  simp only [shifted]

/-! ## The least-recently-used cache -/

/-- Serve a request: the item comes to the front and the list is cut to capacity. -/
def lruServe
    (capacity : Nat)
    (cache : List α)
    (item : α) : List α :=
  (moveToFront cache item).take capacity

/-- What a cache that started empty holds, the most recently used item first. -/
def lruCache
    (capacity : Nat)
    (items : List α) : List α :=
  items.foldl (lruServe capacity) []

theorem lruCache_concat
    (capacity : Nat)
    (items : List α)
    (newest : α) :
    lruCache capacity (items ++ [newest]) =
      lruServe capacity (lruCache capacity items) newest :=
  List.foldl_concat _ _ _ _

theorem recency_concat
    (items : List α)
    (newest : α) :
    recency (items ++ [newest]) = moveToFront (recency items) newest :=
  moveAllToFront_concat

/-- An item beyond the capacity is not missed when another one is taken out. -/
private theorem take_erase
    (ranking : List α)
    (item : α)
    (capacity : Nat) :
    ((ranking.take (capacity + 1)).erase item).take capacity =
      (ranking.erase item).take capacity := by
  induction ranking generalizing capacity with
  | nil => rfl
  | cons first rest ih =>
    rw [List.take_succ_cons]
    by_cases same : first = item
    · subst same
      simp
    · rw [List.erase_cons_tail (by simpa using same),
        List.erase_cons_tail (by simpa using same)]
      cases capacity with
      | zero => rfl
      | succ capacity =>
        rw [List.take_succ_cons, List.take_succ_cons, ih]

/-- The stack property: every capacity holds a prefix of the same ranking. -/
theorem lruCache_eq
    (capacity : Nat)
    (items : List α) :
    lruCache capacity items = (recency items).take capacity := by
  induction items using List.reverseRecOn with
  | nil => simp [lruCache, recency]
  | append_singleton items newest ih =>
    rw [lruCache_concat, recency_concat, ih, lruServe]
    cases capacity with
    | zero => rfl
    | succ capacity =>
      rw [moveToFront, moveToFront, List.take_succ_cons, List.take_succ_cons,
        take_erase]

theorem recency_of_lastUse
    {position : Nat}
    (used : lastUse items item = some position) :
    ∃ ahead behind, recency items = ahead ++ item :: behind ∧
      item ∉ ahead ∧ ahead.length = distinctAfter items position := by
  obtain ⟨here, later⟩ := lastUse_eq_some.mp used
  obtain ⟨inside, at_position⟩ := List.getElem?_eq_some_iff.mp here
  have split : items =
      (items.take position ++ [item]) ++ items.drop (position + 1) := by
    rw [← at_position, List.take_concat_get' _ _ inside]
    exact (List.take_append_drop (position + 1) items).symm
  have front : recency (items.take position ++ [item]) =
      item :: (recency (items.take position)).erase item :=
    recency_concat _ _
  have unique : (recency (items.take position ++ [item])).Nodup :=
    moveAllToFront_nodup List.nodup_nil
  have ranked : recency items =
      recency (items.drop (position + 1)) ++
        (recency (items.take position ++ [item])).filter
          fun other => decide (other ∉ items.drop (position + 1)) := by
    rw [← moveAllToFront_eq unique]
    conv_lhs => rw [split, recency, moveAllToFront, List.foldl_append]
    rfl
  rw [front, List.filter_cons_of_pos (by simpa using later)] at ranked
  refine ⟨_, _, ranked, fun ahead => later (mem_recency.mp ahead), ?_⟩
  have same : (recency (items.drop (position + 1))).Perm
      (items.drop (position + 1)).dedup := by
    have once : (recency (items.drop (position + 1))).Nodup :=
      moveAllToFront_nodup List.nodup_nil
    rw [List.perm_ext_iff_of_nodup once (List.nodup_dedup _)]
    intro other
    rw [List.mem_dedup]
    exact mem_recency
  exact same.length_eq

/--
A cache answers a request from memory exactly when the item was asked for before and
fewer distinct items than its capacity were asked for since.
-/
theorem mem_lruCache_iff
    {capacity : Nat}
    {items : List α}
    {item : α} :
    item ∈ lruCache capacity items ↔
      ∃ position, lastUse items item = some position ∧
        distinctAfter items position < capacity := by
  rw [lruCache_eq]
  cases used : lastUse items item with
  | none =>
    have absent : item ∉ recency items :=
      fun ranked => lastUse_eq_none.mp used (mem_recency.mp ranked)
    simpa using fun cached => absent (List.mem_of_mem_take cached)
  | some position =>
    obtain ⟨ahead, behind, ranked, notAhead, distance⟩ := recency_of_lastUse used
    simp only [Option.some.injEq, exists_eq_left']
    rw [ranked, ← distance, List.take_append, List.mem_append]
    constructor
    · rintro (early | late)
      · exact absurd (List.mem_of_mem_take early) notAhead
      · by_contra full
        rw [Nat.sub_eq_zero_of_le (Nat.not_lt.mp full)] at late
        exact nomatch late
    · intro room
      obtain ⟨extra, size⟩ := Nat.exists_eq_add_of_lt room
      refine .inr ?_
      rw [size, show ahead.length + extra + 1 - ahead.length = extra + 1 by omega,
        List.take_succ_cons]
      exact List.mem_cons_self

end Aeon.StackDistance
