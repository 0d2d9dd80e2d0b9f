import Aeon.RoutingReuse
import Mathlib.Algebra.BigOperators.Ring.Finset
import Mathlib.Algebra.Order.Interval.Finset.SuccPred

namespace Aeon.RoutingReuse

open Finset Aeon.Fenwick Aeon.StackDistance RoutingReuseProfiler
open Function (update update_of_ne update_self)

/-!
# The stack-distance curve against the ideal cache

The tree is meant to mark the last position of every expert seen.  A rebuild in the
middle of an update breaks this: the mark taken out of an expert's old position comes
back from the position table, which is written last, and stays until the next rebuild.
-/

/-! ## What was asked for -/

/-- One request of the stream, with whether its layer is learned. -/
structure Request where
  counted : Bool
  observation : Observation
deriving Repr, DecidableEq

def Request.gid (request : Request) : Nat :=
  request.observation.globalExpertId

variable (totalExperts : Nat)

/-- The requests of one call, in slot order, without unknown experts. -/
def requestsOfLayer
    (call : LayerCall) : List Request :=
  (call.2.filter fun request => decide (request.globalExpertId < totalExperts)).map
    fun observation => { counted := decide (call.1 ≥ firstLearnedLayer), observation }

/-- The stream of a run. -/
def requestsOf
    (calls : List LayerCall) : List Request :=
  calls.flatMap (requestsOfLayer totalExperts)

/-- The selected experts, in order. -/
def idsOf (requests : List Request) : List Nat :=
  requests.map Request.gid

/-- Whether a request is counted; requests past the end are not. -/
def countedAt (requests : List Request) (i : Nat) : Bool :=
  (requests[i]?.map Request.counted).getD false

/-- The position at which the expert of a request was last selected before it. -/
def previousUse (ids : List Nat) (i : Nat) : Option Nat :=
  lastUse (ids.take i) (ids.getD i 0)

/-! ## The ideal cache -/

/-- Serve one request and count it if it is answered from memory. -/
def idealServe
    (capacity : Nat)
    (state : List Nat × Nat)
    (request : Request) : List Nat × Nat :=
  (lruServe capacity state.1 request.gid,
    if request.counted && decide (request.gid ∈ state.1) then state.2 + 1 else state.2)

/--
The counted requests a fully associative least-recently-used cache answers from
memory, started empty and fed the whole stream.
-/
def lruHits (capacity : Nat) (requests : List Request) : Nat :=
  (requests.foldl (idealServe capacity) ([], 0)).2

/-! ## Where the tree loses track -/

/-- The positions at which the tree grows. -/
def Grows (totalExperts position : Nat) : Prop :=
  ∃ doublings, position = max totalExperts 1024 * 2 ^ doublings

instance decidableGrows
    (totalExperts position : Nat) :
    Decidable (Grows totalExperts position) :=
  decidable_of_iff
    (∃ doublings < position + 1,
      position = max totalExperts 1024 * 2 ^ doublings) <| by
    constructor
    · rintro ⟨doublings, -, size⟩
      exact ⟨doublings, size⟩
    · rintro ⟨doublings, size⟩
      refine ⟨doublings, ?_, size⟩
      have grown : doublings < 2 ^ doublings := Nat.lt_two_pow_self
      have scaled : 2 ^ doublings ≤ max totalExperts 1024 * 2 ^ doublings :=
        Nat.le_mul_of_pos_left _ (by omega)
      omega

/--
The position whose mark the last rebuild before a request left behind: the old
position of the expert that was being moved.
-/
def staleMark
    (totalExperts : Nat)
    (ids : List Nat) : Nat → Option Nat
  | 0 => none
  | i + 1 =>
    if Grows totalExperts i then previousUse ids i else staleMark totalExperts ids i

/--
A counted request that a cache of the capacity just answers, and whose expert was
last selected before a mark that was left behind.
-/
def LosesHit
    (totalExperts capacity : Nat)
    (requests : List Request)
    (i : Nat) : Prop :=
  countedAt requests i = true ∧
    ∃ previous stale, previousUse (idsOf requests) i = some previous ∧
      distinctAfter ((idsOf requests).take i) previous + 1 = capacity ∧
      staleMark totalExperts (idsOf requests) i = some stale ∧ previous < stale

/-! ## Streams that grow -/

section Streams

variable {totalExperts : Nat} {requests : List Request} {request : Request}

@[simp] theorem idsOf_concat :
    idsOf (requests ++ [request]) = idsOf requests ++ [request.gid] := by
  simp [idsOf]

@[simp] theorem idsOf_length : (idsOf requests).length = requests.length :=
  List.length_map _

theorem countedAt_concat
    {i : Nat}
    (inside : i < requests.length) :
    countedAt (requests ++ [request]) i = countedAt requests i := by
  rw [countedAt, countedAt, List.getElem?_append_left inside]

@[simp] theorem countedAt_newest :
    countedAt (requests ++ [request]) requests.length = request.counted := by
  simp [countedAt]

variable {newest i : Nat}

theorem previousUse_concat
    {ids : List Nat}
    (inside : i < ids.length) :
    previousUse (ids ++ [newest]) i = previousUse ids i := by
  rw [previousUse, previousUse, List.take_append_of_le_length inside.le,
    List.getD_append _ _ _ _ inside]

@[simp] theorem previousUse_newest
    (ids : List Nat)
    (newest : Nat) :
    previousUse (ids ++ [newest]) ids.length = lastUse ids newest := by
  simp [previousUse]

theorem staleMark_concat
    {ids : List Nat}
    {newest i : Nat}
    (inside : i ≤ ids.length) :
    staleMark totalExperts (ids ++ [newest]) i = staleMark totalExperts ids i := by
  induction i with
  | zero => rfl
  | succ i ih =>
    rw [staleMark, staleMark, ih (by omega),
      previousUse_concat (by omega)]

/-- The stack distance of a request, zero for the first request of an expert. -/
def stackDistance (ids : List Nat) (i : Nat) : Nat :=
  match previousUse ids i with
  | some previous => distinctAfter (ids.take i) previous
  | none => 0

/-- Whether a mark left behind lies after the expert's last position. -/
def counts (stale : Option Nat) (previous : Nat) : Bool :=
  stale.any fun position => decide (previous < position)

/-- The distance the tree reports: one more when a mark left behind is counted. -/
def treeDistance (totalExperts : Nat) (ids : List Nat) (i : Nat) : Nat :=
  stackDistance ids i +
    ((previousUse ids i).any (counts (staleMark totalExperts ids i))).toNat

/-- The counted repeated requests whose distance is below a capacity. -/
def answeredBelow
    (distance : List Nat → Nat → Nat)
    (capacity : Nat)
    (requests : List Request) : Nat :=
  #{i ∈ range requests.length |
    countedAt requests i = true ∧ (previousUse (idsOf requests) i).isSome = true ∧
      distance (idsOf requests) i < capacity}

section

variable
    {ids : List Nat}
    (inside : i < ids.length)

include inside

theorem stackDistance_concat :
    stackDistance (ids ++ [newest]) i = stackDistance ids i := by
  rw [stackDistance, stackDistance, previousUse_concat inside,
    List.take_append_of_le_length inside.le]

theorem treeDistance_concat :
    treeDistance totalExperts (ids ++ [newest]) i =
      treeDistance totalExperts ids i := by
  rw [treeDistance, treeDistance, stackDistance_concat inside,
    previousUse_concat inside, staleMark_concat inside.le]

end

theorem answeredBelow_concat
    {distance : List Nat → Nat → Nat}
    (stable : ∀ (ids : List Nat) (newest i : Nat), i < ids.length →
      distance (ids ++ [newest]) i = distance ids i)
    (capacity : Nat) :
    answeredBelow distance capacity (requests ++ [request]) =
      answeredBelow distance capacity requests +
        if request.counted = true ∧ (lastUse (idsOf requests) request.gid).isSome ∧
            distance (idsOf requests ++ [request.gid]) requests.length < capacity
        then 1 else 0 := by
  have newest : previousUse (idsOf requests ++ [request.gid]) requests.length =
      lastUse (idsOf requests) request.gid := by
    simpa using previousUse_newest (idsOf requests) request.gid
  have older : {i ∈ range requests.length |
        countedAt (requests ++ [request]) i = true ∧
          (previousUse (idsOf (requests ++ [request])) i).isSome = true ∧
          distance (idsOf (requests ++ [request])) i < capacity} =
      {i ∈ range requests.length |
        countedAt requests i = true ∧
          (previousUse (idsOf requests) i).isSome = true ∧
          distance (idsOf requests) i < capacity} := by
    refine filter_congr fun i member => ?_
    have inside := mem_range.mp member
    rw [countedAt_concat inside, idsOf_concat,
      previousUse_concat (by simpa using inside), stable _ _ _ (by simpa using inside)]
  rw [answeredBelow, answeredBelow, List.length_append, List.length_singleton,
    range_add_one, filter_insert, older, idsOf_concat, newest, countedAt_newest]
  split
  · rw [card_insert_of_notMem (by simp)]
  · rfl

end Streams

/-! ## The ideal cache answers by distance -/

theorem idealServe_cache
    (capacity : Nat)
    (requests : List Request) :
    (requests.foldl (idealServe capacity) ([], 0)).1 =
      lruCache capacity (idsOf requests) := by
  induction requests using List.reverseRecOn with
  | nil => rfl
  | append_singleton requests request ih =>
    rw [List.foldl_concat, idsOf_concat, lruCache_concat, ← ih]
    rfl

theorem lruHits_eq
    (capacity : Nat)
    (requests : List Request) :
    lruHits capacity requests = answeredBelow stackDistance capacity requests := by
  induction requests using List.reverseRecOn with
  | nil => rfl
  | append_singleton requests request ih =>
    have newest : previousUse (idsOf requests ++ [request.gid]) requests.length =
        lastUse (idsOf requests) request.gid := by
      simpa using previousUse_newest (idsOf requests) request.gid
    have front : (idsOf requests ++ [request.gid]).take requests.length =
        idsOf requests := by
      simp
    rw [answeredBelow_concat fun _ _ _ => stackDistance_concat,
      ← ih, lruHits, List.foldl_concat, idealServe,
      idealServe_cache, stackDistance, newest, front]
    have answered := @mem_lruCache_iff _ _ capacity (idsOf requests) request.gid
    simp only [Bool.and_eq_true, decide_eq_true_eq, answered, lruHits]
    cases used : lastUse (idsOf requests) request.gid with
    | none => simp
    | some previous =>
      simp only [Option.some.injEq, exists_eq_left', Option.isSome_some, true_and]
      split <;> rfl

/-! ## The tree and the positions -/

section Tree

variable {totalExperts : Nat} {ids : List Nat}

/-- The marks of a tree: the last positions, and one that was left behind. -/
def marks (ids : List Nat) (stale : Option Nat) (mark : Nat) : Int :=
  (if isLast ids (mark - 1) then 1 else 0) + if stale = some (mark - 1) then 1 else 0

/-- The capacity is the smallest of the growth positions that the clock fits. -/
def Sized (totalExperts clock capacity : Nat) : Prop :=
  ∃ doublings, capacity = max totalExperts 1024 * 2 ^ doublings ∧ clock ≤ capacity ∧
    (doublings = 0 ∨ capacity < 2 * clock)

theorem capacity_pos
    (totalExperts doublings : Nat) :
    0 < max totalExperts 1024 * 2 ^ doublings :=
  Nat.mul_pos (by omega) (Nat.two_pow_pos doublings)

section

variable
    {clock capacity : Nat}
    (sized : Sized totalExperts clock capacity)

include sized

theorem Sized.grows_iff :
    Grows totalExperts clock ↔ clock = capacity := by
  obtain ⟨doublings, size, room, least⟩ := sized
  constructor
  · rintro ⟨earlier, position⟩
    have ordered : earlier ≤ doublings := by
      by_contra later
      have := Nat.mul_lt_mul_of_pos_left
        (Nat.pow_lt_pow_right (show 1 < 2 by decide) (Nat.not_le.mp later))
        (show 0 < max totalExperts 1024 by omega)
      omega
    rcases ordered.eq_or_lt with same | before
    · rw [position, size, same]
    · have half : 2 * clock ≤ capacity := by
        rw [position, size, Nat.mul_left_comm, ← Nat.pow_succ']
        exact Nat.mul_le_mul_left _ (Nat.pow_le_pow_right (by decide) before)
      omega
  · intro full
    exact ⟨doublings, full.trans size⟩

theorem Sized.next
    (room : clock < capacity) :
    Sized totalExperts (clock + 1) capacity := by
  obtain ⟨doublings, size, -, least⟩ := sized
  exact ⟨doublings, size, room, by omega⟩

end

theorem Sized.double
    {clock : Nat}
    (sized : Sized totalExperts clock clock) :
    Sized totalExperts (clock + 1) (clock * 2) := by
  obtain ⟨doublings, size, -, -⟩ := sized
  have positive : 0 < clock := by
    rw [size]
    exact capacity_pos totalExperts doublings
  refine ⟨doublings + 1, ?_, by omega, .inr (by omega)⟩
  rw [size, pow_succ, Nat.mul_assoc]

theorem doubledTo_next
    {capacity : Nat}
    (positive : 0 < capacity) :
    doubledTo capacity (capacity + 1) = capacity * 2 := by
  rw [doubledTo, if_pos ⟨positive, Nat.lt_succ_self _⟩, doubledTo, if_neg (by omega)]

theorem rebuilt_holds
    {profiler : RoutingReuseProfiler}
    (table : ∀ gid, profiler.lastPos gid = lastUse ids gid)
    (known : ∀ gid ∈ ids, gid < profiler.totalExperts)
    (capacity : Nat) :
    Holds capacity (profiler.rebuilt capacity) (marks ids none) := by
  have built
      (step : Nodes → Nat → Nodes)
      (kept : ∀ fresh gid, lastUse ids gid = none → step fresh gid = fresh)
      (moved : ∀ fresh gid last, lastUse ids gid = some last →
        step fresh gid = addFrom capacity 1 fresh (last + 1)) :
      ∀ count, Holds capacity ((List.range count).foldl step fun _ => 0) fun mark => #{gid ∈ range count | lastUse ids gid = some (mark - 1)} := by
    intro count
    induction count with
    | zero => simpa using holds_zero capacity
    | succ count ih =>
      rw [List.range_succ, List.foldl_concat]
      cases used : lastUse ids count with
      | none =>
        rw [kept _ _ used]
        refine ih.congr fun mark _ _ => ?_
        rw [range_add_one, filter_insert, if_neg (by simp [used])]
      | some last =>
        rw [moved _ _ _ used]
        refine (ih.add (Nat.succ_pos last) 1).congr
          fun mark positive _ => ?_
        rw [range_add_one, filter_insert]
        by_cases here : mark = last + 1
        · subst here
          rw [update_self, if_pos (by simpa using used),
            card_insert_of_notMem (by simp)]
          simp
        · rw [update_of_ne here, if_neg]
          rw [used, Option.some.injEq]
          omega
  unfold RoutingReuseProfiler.rebuilt
  refine (built _ (fun fresh gid unused => by rw [table gid, unused])
    (fun fresh gid last used => by rw [table gid, used])
    profiler.totalExperts).congr fun mark positive _ => ?_
  simp only [marks, reduceCtorEq, if_false, add_zero]
  by_cases last : isLast ids (mark - 1) = true
  · obtain ⟨gid, used⟩ := isLast_iff.mp last
    have here := (lastUse_eq_some.mp used).1
    have only : {other ∈ range profiler.totalExperts |
        lastUse ids other = some (mark - 1)} = {gid} := by
      refine Finset.eq_singleton_iff_unique_mem.mpr ⟨?_, ?_⟩
      · rw [mem_filter, mem_range]
        exact ⟨known gid (List.mem_of_getElem? here), used⟩
      · intro other member
        have there := (lastUse_eq_some.mp (mem_filter.mp member).2).1
        rw [here] at there
        exact (Option.some.inj there).symm
    rw [only, if_pos last]
    rfl
  · rw [if_neg last, filter_eq_empty_iff.mpr]
    · rfl
    · intro other _ used
      exact last (isLast_iff.mpr ⟨other, used⟩)

/-- No position is the last one from the end of the stream on. -/
theorem not_isLast_length : isLast ids ids.length = false := by
  simp [isLast]

/-- Marking the end of the stream, after a rebuild if the tree is full. -/
theorem addMark_end
    {profiler : RoutingReuseProfiler}
    {before : Nat → Int}
    (table : ∀ gid, profiler.lastPos gid = lastUse ids gid)
    (known : ∀ gid ∈ ids, gid < profiler.totalExperts)
    (sized : Sized totalExperts ids.length profiler.fenwickCapacity)
    (holds : Holds profiler.fenwickCapacity profiler.fenwick before) :
    Sized totalExperts (ids.length + 1)
        (profiler.addMark ids.length 1).fenwickCapacity ∧
      Holds (profiler.addMark ids.length 1).fenwickCapacity
        (profiler.addMark ids.length 1).fenwick
        (let kept := if Grows totalExperts ids.length then marks ids none else before
         update kept (ids.length + 1) (kept (ids.length + 1) + 1)) := by
  by_cases full : Grows totalExperts ids.length
  · have size := sized.grows_iff.mp full
    rw [← size] at sized
    have positive : 0 < ids.length := by
      obtain ⟨doublings, grown⟩ := full
      rw [grown]
      exact capacity_pos totalExperts doublings
    rw [addMark, if_pos (by omega), grow, ← size, doubledTo_next positive]
    refine ⟨sized.double, ?_⟩
    simp only [if_pos full]
    exact (rebuilt_holds table known _).add (Nat.succ_pos _) 1
  · have room : ids.length < profiler.fenwickCapacity := by
      refine Nat.lt_of_le_of_ne ?_ fun size => full (sized.grows_iff.mpr size)
      obtain ⟨_, -, fits, -⟩ := sized
      exact fits
    rw [addMark, if_neg (by omega)]
    refine ⟨sized.next room, ?_⟩
    simp only [if_neg full]
    exact holds.add (Nat.succ_pos _) 1

theorem previousUse_lt
    {i previous : Nat}
    (used : previousUse ids i = some previous) :
    previous < i := by
  have inside := lastUse_lt used
  rw [List.length_take] at inside
  omega

theorem staleMark_lt
    {i stale : Nat}
    (left : staleMark totalExperts ids i = some stale) :
    stale < i := by
  induction i with
  | zero => exact nomatch left
  | succ i ih =>
    rw [staleMark] at left
    split at left
    · exact (previousUse_lt left).trans (Nat.lt_succ_self i)
    · exact (ih left).trans (Nat.lt_succ_self i)

section

variable
    {stale : Option Nat}

/-- A mark left behind is counted when it lies after the position. -/
private theorem sum_stale
    {previous stop : Nat}
    (before : ∀ position, stale = some position → position < stop) :
    ∑ position ∈ Ico (previous + 1) stop,
        (if stale = some position then (1 : Int) else 0) =
      (counts stale previous).toNat := by
  cases stale with
  | none => simp [counts]
  | some stale =>
    simp only [Option.some.injEq, sum_ite_eq, mem_Ico, counts, Option.any_some]
    have inside := before stale rfl
    by_cases after : previous < stale
    · simp [after, inside]
    · simp [after]

theorem sum_marks
    (before : ∀ position, stale = some position → position < ids.length)
    (previous : Nat) :
    ∑ mark ∈ Ioc (previous + 1) ids.length, marks ids stale mark =
      (distinctAfter ids previous + (counts stale previous).toNat : Nat) := by
  have shifted : ∑ mark ∈ Ioc (previous + 1) ids.length, marks ids stale mark =
      ∑ position ∈ Ico (previous + 1) ids.length, marks ids stale (position + 1) := by
    rw [sum_Ico_add' (marks ids stale) _ _ 1, Ico_add_one_add_one_eq_Ioc]
  rw [shifted]
  simp only [marks, Nat.add_sub_cancel]
  rw [sum_add_distrib, sum_stale before, distinctAfter_eq, sum_boole, Nat.cast_add]

end

/-- The tree reports the distance of a repeated request. -/
theorem fenwickSum_sub
    {profiler : RoutingReuseProfiler}
    {stale : Option Nat}
    {previous : Nat}
    (before : ∀ position, stale = some position → position < ids.length)
    (room : ids.length ≤ profiler.fenwickCapacity)
    (holds : Holds profiler.fenwickCapacity profiler.fenwick (marks ids stale))
    (inside : previous < ids.length) :
    profiler.fenwickSum (ids.length - 1) - profiler.fenwickSum previous =
      (distinctAfter ids previous + (counts stale previous).toNat : Nat) := by
  rw [fenwickSum, fenwickSum, Nat.min_eq_left (by omega), Nat.min_eq_left (by omega),
    Nat.sub_add_cancel (by omega), holds.sum room, holds.sum (by omega),
    ← sum_Ioc_consecutive _ (Nat.zero_le (previous + 1)) inside, add_sub_cancel_left,
    sum_marks before]

theorem staleMark_newest
    (gid : Nat) :
    staleMark totalExperts (ids ++ [gid]) (ids.length + 1) =
      if Grows totalExperts ids.length then lastUse ids gid
      else staleMark totalExperts ids ids.length := by
  rw [staleMark, previousUse_newest, staleMark_concat le_rfl]

/-- An expert that is asked for again leaves its old position. -/
theorem not_isLast_moved
    {gid last : Nat}
    (used : lastUse ids gid = some last) :
    isLast (ids ++ [gid]) last = false := by
  have inside := lastUse_lt used
  rw [← Bool.not_eq_true, isLast_concat, used]
  rintro (atEnd | ⟨-, moved⟩)
  · omega
  · exact moved rfl

theorem marks_first
    {gid mark : Nat}
    {stale : Option Nat}
    (new : lastUse ids gid = none)
    (before : ∀ position, stale = some position → position < ids.length)
    (positive : 0 < mark) :
    update (marks ids stale) (ids.length + 1)
        (marks ids stale (ids.length + 1) + 1) mark =
      marks (ids ++ [gid]) stale mark := by
  have kept := isLast_concat ids gid (mark - 1)
  rw [new] at kept
  by_cases newest : mark = ids.length + 1
  · subst newest
    have unmarked : stale ≠ some ids.length :=
      fun left => absurd (before _ left) (Nat.lt_irrefl _)
    simp only [Nat.add_sub_cancel, true_or, iff_true] at kept
    simp [marks, kept, not_isLast_length, unmarked]
  · have older : mark - 1 ≠ ids.length := by omega
    simp only [older, ne_eq, reduceCtorEq, not_false_eq_true, and_true,
      false_or] at kept
    rw [update_of_ne newest, marks, marks]
    simp only [kept]

section

variable
    {gid last mark : Nat}

/-- A repeated request moves the mark of its expert. -/
theorem marks_again
    {stale : Option Nat}
    (used : lastUse ids gid = some last)
    (before : ∀ position, stale = some position → position < ids.length)
    (positive : 0 < mark) :
    update
        (update (marks ids stale) (last + 1) (marks ids stale (last + 1) + -1))
        (ids.length + 1)
        (update (marks ids stale) (last + 1)
          (marks ids stale (last + 1) + -1) (ids.length + 1) + 1) mark =
      marks (ids ++ [gid]) stale mark := by
  have kept := isLast_concat ids gid (mark - 1)
  have inside := lastUse_lt used
  rw [used] at kept
  by_cases newest : mark = ids.length + 1
  · subst newest
    have unmarked : stale ≠ some ids.length :=
      fun left => absurd (before _ left) (Nat.lt_irrefl _)
    have elsewhere : ids.length + 1 ≠ last + 1 := by omega
    simp only [Nat.add_sub_cancel, true_or, iff_true] at kept
    rw [update_self, update_of_ne elsewhere]
    simp [marks, kept, not_isLast_length, unmarked]
  · have older : mark - 1 ≠ ids.length := by omega
    rw [update_of_ne newest]
    by_cases moved : mark = last + 1
    · subst moved
      have wasLast : isLast ids last = true := isLast_iff.mpr ⟨gid, used⟩
      rw [update_self]
      simp [marks, wasLast, not_isLast_moved used]
    · have other : some last ≠ some (mark - 1) := by
        rw [ne_eq, Option.some.injEq]
        omega
      simp only [older, other, ne_eq, not_false_eq_true, and_true, false_or] at kept
      rw [update_of_ne moved, marks, marks]
      simp only [kept]

/-- A rebuild in the middle of a move leaves the old mark behind. -/
theorem marks_rebuilt
    (used : lastUse ids gid = some last)
    (positive : 0 < mark) :
    update (marks ids none) (ids.length + 1)
        (marks ids none (ids.length + 1) + 1) mark =
      marks (ids ++ [gid]) (some last) mark := by
  have kept := isLast_concat ids gid (mark - 1)
  have inside := lastUse_lt used
  rw [used] at kept
  by_cases newest : mark = ids.length + 1
  · subst newest
    have elsewhere : last ≠ ids.length := by omega
    simp only [Nat.add_sub_cancel, true_or, iff_true] at kept
    simp [marks, kept, not_isLast_length, elsewhere]
  · have older : mark - 1 ≠ ids.length := by omega
    rw [update_of_ne newest]
    by_cases moved : mark = last + 1
    · subst moved
      have wasLast : isLast ids last = true := isLast_iff.mpr ⟨gid, used⟩
      simp [marks, wasLast, not_isLast_moved used]
    · have other : some last ≠ some (mark - 1) := by
        rw [ne_eq, Option.some.injEq]
        omega
      simp only [older, other, ne_eq, not_false_eq_true, and_true, false_or] at kept
      simp only [marks, kept, other, reduceCtorEq]

end

end Tree

/-! ## Runs -/

section Frames

variable (profiler : RoutingReuseProfiler) (index : Nat) (delta : Int)

/-- Marking touches the tree only. -/
theorem addMark_eq :
    profiler.addMark index delta =
      { profiler with
        fenwick := (profiler.addMark index delta).fenwick
        fenwickCapacity := (profiler.addMark index delta).fenwickCapacity } := by
  unfold addMark grow
  split <;> rfl

@[simp] theorem addMark_enabled :
    (profiler.addMark index delta).enabled = profiler.enabled := by
  rw [addMark_eq]

@[simp] theorem addMark_totalExperts :
    (profiler.addMark index delta).totalExperts = profiler.totalExperts := by
  rw [addMark_eq]

@[simp] theorem addMark_lastPos :
    (profiler.addMark index delta).lastPos = profiler.lastPos := by
  rw [addMark_eq]

@[simp] theorem addMark_clock :
    (profiler.addMark index delta).clock = profiler.clock := by
  rw [addMark_eq]

@[simp] theorem addMark_observed :
    (profiler.addMark index delta).observed = profiler.observed := by
  rw [addMark_eq]

@[simp] theorem addMark_distanceHist :
    (profiler.addMark index delta).distanceHist = profiler.distanceHist := by
  rw [addMark_eq]

@[simp] theorem addMark_streamIds :
    (profiler.addMark index delta).streamIds = profiler.streamIds := by
  rw [addMark_eq]

@[simp] theorem addMark_streamCounted :
    (profiler.addMark index delta).streamCounted = profiler.streamCounted := by
  rw [addMark_eq]

theorem addMark_inside
    (inside : index < profiler.fenwickCapacity) :
    profiler.addMark index delta =
      { profiler with
        fenwick :=
          addFrom profiler.fenwickCapacity delta profiler.fenwick (index + 1) } := by
  rw [addMark, if_neg (by omega)]

end Frames

/-- The profiler after a stream of requests. -/
structure Tracks
    (totalExperts : Nat)
    (requests : List Request)
    (profiler : RoutingReuseProfiler) : Prop where
  enabled : profiler.enabled = true
  total : profiler.totalExperts = totalExperts
  clock : profiler.clock = requests.length
  table : ∀ gid, profiler.lastPos gid = lastUse (idsOf requests) gid
  known : ∀ gid ∈ idsOf requests, gid < totalExperts
  sized : Sized totalExperts requests.length profiler.fenwickCapacity
  holds :
    Holds profiler.fenwickCapacity profiler.fenwick
      (marks (idsOf requests)
        (staleMark totalExperts (idsOf requests) requests.length))
  hits :
    ∀ capacity, profiler.idealLruHits capacity =
      answeredBelow (treeDistance totalExperts) capacity requests
  streamIds : profiler.streamIds = idsOf requests
  streamCounted : profiler.streamCounted = requests.map Request.counted
  observed : profiler.observed = requests.countP Request.counted

theorem reset_tracks (totalExperts : Nat) :
    Tracks totalExperts [] (reset totalExperts) where
  enabled := rfl
  total := rfl
  clock := rfl
  table := fun _ => rfl
  known := nofun
  sized := ⟨0, by simp [reset], Nat.zero_le _, .inl rfl⟩
  holds := (holds_zero _).congr fun _ _ _ => by simp [marks, isLast, idsOf, staleMark]
  hits := fun capacity => by simp [idealLruHits, reset, answeredBelow]
  streamIds := rfl
  streamCounted := rfl
  observed := rfl

theorem idealLruHits_record
    (profiler : RoutingReuseProfiler)
    {reported : Int}
    {distance : Nat}
    (same : reported = distance)
    (inside : distance ≤ profiler.totalExperts)
    (capacity : Nat) :
    (profiler.recordDistance reported).idealLruHits capacity =
      profiler.idealLruHits capacity + if distance < capacity then 1 else 0 := by
  subst same
  have index : min (if (distance : Int) < 0 then 0 else (distance : Int).toNat)
      profiler.totalExperts = distance := by
    rw [if_neg (by omega), Int.toNat_natCast, Nat.min_eq_left inside]
  simp only [idealLruHits, recordDistance, index]
  by_cases below : distance < capacity
  · have member : distance ∈ range (min (profiler.totalExperts + 1) capacity) := by
      rw [mem_range]
      omega
    rw [if_pos below, sum_update_of_mem member, ← sum_erase_add _ _ member,
      sdiff_singleton_eq_erase]
    omega
  · rw [if_neg below, add_zero]
    refine sum_update_of_notMem ?_ _ _
    rw [mem_range]
    omega

theorem treeDistance_le
    {totalExperts : Nat}
    {ids : List Nat}
    {gid previous : Nat}
    (known : ∀ other ∈ ids, other < totalExperts)
    (used : lastUse ids gid = some previous) :
    distinctAfter ids previous + 1 ≤ totalExperts := by
  obtain ⟨here, later⟩ := lastUse_eq_some.mp used
  have unique : (gid :: (ids.drop (previous + 1)).dedup).Nodup :=
    List.nodup_cons.mpr ⟨fun again => later (List.mem_dedup.mp again),
      List.nodup_dedup _⟩
  have inside : (gid :: (ids.drop (previous + 1)).dedup).toFinset ⊆
      range totalExperts := by
    intro other member
    rw [mem_range]
    rcases List.mem_cons.mp (List.mem_toFinset.mp member) with same | after
    · subst same
      exact known other (List.mem_of_getElem? here)
    · exact known other (List.mem_of_mem_drop (List.mem_dedup.mp after))
  have size := card_le_card inside
  rwa [List.toFinset_card_of_nodup unique, card_range] at size

section Steps

variable {totalExperts : Nat} {requests : List Request} {request : Request}
  {profiler : RoutingReuseProfiler}

theorem staleMark_inside
    (requests : List Request)
    (position : Nat)
    (left : staleMark totalExperts (idsOf requests) requests.length = some position) :
    position < (idsOf requests).length := by
  rw [idsOf_length]
  exact staleMark_lt left

theorem Tracks.known_next
    (tracks : Tracks totalExperts requests profiler)
    (inside : request.gid < totalExperts) :
    ∀ gid ∈ idsOf (requests ++ [request]), gid < totalExperts := by
  intro gid member
  rw [idsOf_concat, List.mem_append, List.mem_singleton] at member
  rcases member with older | newest
  · exact tracks.known gid older
  · exact newest ▸ inside

/-- What the counters and the tree are brought to before the newest mark is set. -/
structure Counted
    (totalExperts : Nat)
    (requests : List Request)
    (request : Request)
    (before : Nat → Int)
    (profiler : RoutingReuseProfiler) : Prop where
  enabled : profiler.enabled = true
  total : profiler.totalExperts = totalExperts
  clock : profiler.clock = requests.length
  table : ∀ gid, profiler.lastPos gid = lastUse (idsOf requests) gid
  sized : Sized totalExperts requests.length profiler.fenwickCapacity
  holds : Holds profiler.fenwickCapacity profiler.fenwick before
  hits :
    ∀ capacity, profiler.idealLruHits capacity =
      answeredBelow (treeDistance totalExperts) capacity (requests ++ [request])
  streamIds : profiler.streamIds = idsOf (requests ++ [request])
  streamCounted : profiler.streamCounted = (requests ++ [request]).map Request.counted
  observed : profiler.observed = (requests ++ [request]).countP Request.counted

/-- Setting the newest mark and the expert's position. -/
theorem Counted.stamp
    {before : Nat → Int}
    (counted : Counted totalExperts requests request before profiler)
    (inside : ∀ gid ∈ idsOf (requests ++ [request]), gid < totalExperts)
    (moves :
      ∀ mark, 0 < mark →
        update
            (if Grows totalExperts requests.length then marks (idsOf requests) none
              else before) (requests.length + 1)
            ((if Grows totalExperts requests.length then marks (idsOf requests) none
              else before) (requests.length + 1) + 1) mark =
          marks (idsOf (requests ++ [request]))
            (staleMark totalExperts (idsOf (requests ++ [request]))
              (requests.length + 1)) mark) :
    Tracks totalExperts (requests ++ [request])
      ((profiler.addMark profiler.clock 1).advance request.gid) := by
  have known : ∀ gid ∈ idsOf requests, gid < profiler.totalExperts := by
    intro gid member
    rw [counted.total]
    exact inside gid (by simp [member])
  have sized := counted.sized
  rw [← @idsOf_length requests] at sized
  obtain ⟨sizedNext, holdsNext⟩ := addMark_end counted.table known sized counted.holds
  rw [idsOf_length] at sizedNext holdsNext
  rw [counted.clock]
  constructor
  case enabled => simpa [advance] using counted.enabled
  case total => simpa [advance] using counted.total
  case clock => simp [advance, counted.clock]
  case table =>
    intro gid
    simp only [advance, addMark_lastPos, addMark_clock, counted.clock, idsOf_concat,
      lastUse_concat, idsOf_length]
    by_cases same : request.gid = gid
    · simp [same]
    · rw [update_of_ne (Ne.symm same), if_neg same, counted.table]
  case known => exact inside
  case sized => simpa [advance] using sizedNext
  case holds =>
    rw [List.length_append, List.length_singleton]
    exact holdsNext.congr fun mark positive _ => moves mark positive
  case hits =>
    intro capacity
    rw [← counted.hits]
    simp [idealLruHits, advance]
  case streamIds => simpa [advance] using counted.streamIds
  case streamCounted => simpa [advance] using counted.streamCounted
  case observed => simpa [advance] using counted.observed

section

variable
    (tracks : Tracks totalExperts requests profiler)

include tracks

theorem Tracks.countFirst
    (new : lastUse (idsOf requests) request.gid = none) :
    Counted totalExperts requests request
      (marks (idsOf requests)
        (staleMark totalExperts (idsOf requests) requests.length))
      (let streamed :=
        { profiler with
          streamIds := profiler.streamIds ++ [request.gid]
          streamCounted := profiler.streamCounted ++ [request.counted] }
       if request.counted then
         { streamed.countObserved request.observation.answeredFromHot with
           compulsory := streamed.compulsory + 1 }
       else streamed) := by
  have unanswered : ∀ capacity,
      answeredBelow (treeDistance totalExperts) capacity (requests ++ [request]) =
        answeredBelow (treeDistance totalExperts) capacity requests := by
    intro capacity
    rw [answeredBelow_concat fun _ _ _ => treeDistance_concat]
    simp [new]
  cases learned : request.counted with
  | true =>
    constructor
    case streamIds => simp [countObserved, tracks.streamIds]
    case streamCounted => simp [countObserved, tracks.streamCounted, learned]
    case observed => simp [countObserved, tracks.observed, learned]
    case hits =>
      intro capacity
      rw [unanswered, ← tracks.hits]
      rfl
    exacts [tracks.enabled, tracks.total, tracks.clock, tracks.table, tracks.sized,
      tracks.holds]
  | false =>
    constructor
    case streamIds => simp [tracks.streamIds]
    case streamCounted => simp [tracks.streamCounted, learned]
    case observed => simp [tracks.observed, learned]
    case hits =>
      intro capacity
      rw [unanswered, ← tracks.hits]
      rfl
    exacts [tracks.enabled, tracks.total, tracks.clock, tracks.table, tracks.sized,
      tracks.holds]

theorem Tracks.first
    (inside : request.gid < totalExperts)
    (new : lastUse (idsOf requests) request.gid = none) :
    Tracks totalExperts (requests ++ [request])
      ({ profiler with
          streamIds := profiler.streamIds ++ [request.gid]
          streamCounted := profiler.streamCounted ++ [request.counted] }.observeFirst
        request.counted request.observation) := by
  refine (tracks.countFirst new).stamp (tracks.known_next inside)
    fun mark positive => ?_
  have newest := @staleMark_newest totalExperts (idsOf requests) request.gid
  have moved := @marks_first (idsOf requests) request.gid mark
  simp only [idsOf_length] at newest moved
  rw [idsOf_concat, newest, new]
  by_cases full : Grows totalExperts requests.length
  · simp only [if_pos full]
    exact moved new (by intro _ same; cases same) positive
  · simp only [if_neg full]
    exact moved new (fun _ left => staleMark_lt left) positive

end

variable {last : Nat}

section

variable
    (used : lastUse (idsOf requests) request.gid = some last)

include used

theorem treeDistance_newest :
    treeDistance totalExperts (idsOf requests ++ [request.gid]) requests.length =
      distinctAfter (idsOf requests) last +
        (counts (staleMark totalExperts (idsOf requests) requests.length)
          last).toNat := by
  have newest := previousUse_newest (idsOf requests) request.gid
  have kept := @staleMark_concat totalExperts (idsOf requests) request.gid _ le_rfl
  rw [idsOf_length] at newest kept
  have front : (idsOf requests ++ [request.gid]).take requests.length =
      idsOf requests := by
    simp
  rw [treeDistance, stackDistance, newest, used, kept, front]
  rfl

theorem answeredBelow_again
    (capacity : Nat) :
    answeredBelow (treeDistance totalExperts) capacity (requests ++ [request]) =
      answeredBelow (treeDistance totalExperts) capacity requests +
        if request.counted = true ∧
            distinctAfter (idsOf requests) last +
              (counts (staleMark totalExperts (idsOf requests) requests.length)
                last).toNat < capacity
        then 1 else 0 := by
  rw [answeredBelow_concat fun _ _ _ => treeDistance_concat, treeDistance_newest used,
    used]
  simp

end

section

variable
    (tracks : Tracks totalExperts requests profiler)

include tracks

/-- The counters of a repeated request, and its mark taken out. -/
theorem Tracks.countAgain
    (used : lastUse (idsOf requests) request.gid = some last) :
    Counted totalExperts requests request
      (let kept := marks (idsOf requests)
        (staleMark totalExperts (idsOf requests) requests.length)
       update kept (last + 1) (kept (last + 1) + -1))
      ((let streamed :=
        { profiler with
          streamIds := profiler.streamIds ++ [request.gid]
          streamCounted := profiler.streamCounted ++ [request.counted] }
        let distance := streamed.fenwickSum (streamed.clock - 1) -
          streamed.fenwickSum last
        if request.counted then
          (streamed.countObserved request.observation.answeredFromHot).recordDistance
            distance
        else streamed).addMark last (-1)) := by
  have inside := lastUse_lt used
  have fits : requests.length ≤ profiler.fenwickCapacity := by
    obtain ⟨_, -, fits, -⟩ := tracks.sized
    exact fits
  have distance := @fenwickSum_sub (idsOf requests) profiler _ last
    (staleMark_inside requests) (by simpa using fits) tracks.holds inside
  rw [idsOf_length] at inside distance
  have reported : profiler.fenwickSum (profiler.clock - 1) - profiler.fenwickSum last =
      (distinctAfter (idsOf requests) last +
        (counts (staleMark totalExperts (idsOf requests) requests.length)
          last).toNat : Nat) := by
    rw [tracks.clock]
    exact distance
  have room : distinctAfter (idsOf requests) last +
      (counts (staleMark totalExperts (idsOf requests) requests.length) last).toNat ≤
        totalExperts := by
    have below := treeDistance_le tracks.known used
    have one := Bool.toNat_le
      (counts (staleMark totalExperts (idsOf requests) requests.length) last)
    omega
  have holds := tracks.holds.add (Nat.succ_pos last) (-1)
  cases learned : request.counted with
  | true =>
    simp only [if_true]
    rw [addMark_inside _ _ _ (by exact inside.trans_le fits)]
    constructor
    case streamIds => simp [recordDistance, countObserved, tracks.streamIds]
    case streamCounted =>
      simp [recordDistance, countObserved, tracks.streamCounted, learned]
    case observed => simp [recordDistance, countObserved, tracks.observed, learned]
    case hits =>
      intro capacity
      rw [answeredBelow_again used, ← tracks.hits]
      simp only [learned, true_and]
      exact idealLruHits_record
        ({ profiler with
            streamIds := profiler.streamIds ++ [request.gid]
            streamCounted := profiler.streamCounted ++ [true] }.countObserved
          request.observation.answeredFromHot)
        reported (room.trans_eq tracks.total.symm) capacity
    exacts [tracks.enabled, tracks.total, tracks.clock, tracks.table, tracks.sized,
      holds]
  | false =>
    simp only [Bool.false_eq_true, if_false]
    rw [addMark_inside _ _ _ (by exact inside.trans_le fits)]
    constructor
    case streamIds => simp [tracks.streamIds]
    case streamCounted => simp [tracks.streamCounted, learned]
    case observed => simp [tracks.observed, learned]
    case hits =>
      intro capacity
      rw [answeredBelow_again used, ← tracks.hits]
      simp only [learned, Bool.false_eq_true, false_and, if_false, add_zero]
      rfl
    exacts [tracks.enabled, tracks.total, tracks.clock, tracks.table, tracks.sized,
      holds]

theorem Tracks.again
    (inside : request.gid < totalExperts)
    (used : lastUse (idsOf requests) request.gid = some last) :
    Tracks totalExperts (requests ++ [request])
      ({ profiler with
          streamIds := profiler.streamIds ++ [request.gid]
          streamCounted := profiler.streamCounted ++ [request.counted] }.observeAgain
        request.counted request.observation last) := by
  have stamped := (tracks.countAgain used).stamp (tracks.known_next inside)
    fun mark positive => ?_
  · rw [addMark_clock] at stamped
    exact stamped
  have newest := @staleMark_newest totalExperts (idsOf requests) request.gid
  have moved := @marks_again (idsOf requests) request.gid last mark
  have rebuilt := @marks_rebuilt (idsOf requests) request.gid last mark
  simp only [idsOf_length] at newest moved rebuilt
  rw [idsOf_concat, newest, used]
  by_cases full : Grows totalExperts requests.length
  · simp only [if_pos full]
    exact rebuilt used positive
  · simp only [if_neg full]
    exact moved used (fun _ left => staleMark_lt left) positive

theorem Tracks.observe
    (inside : request.gid < totalExperts) :
    Tracks totalExperts (requests ++ [request])
      (profiler.observe request.counted request.observation) := by
  have known : ¬ request.observation.globalExpertId ≥ profiler.totalExperts := by
    rw [tracks.total]
    exact Nat.not_le.mpr inside
  have table : profiler.lastPos request.observation.globalExpertId =
      lastUse (idsOf requests) request.gid := tracks.table request.gid
  rw [RoutingReuseProfiler.observe, if_neg known, table]
  cases used : lastUse (idsOf requests) request.gid with
  | none => exact tracks.first inside used
  | some last => exact tracks.again inside used

theorem Tracks.skip
    {observation : Observation}
    (outside : ¬ observation.globalExpertId < totalExperts)
    (learned : Bool) :
    profiler.observe learned observation = profiler := by
  rw [RoutingReuseProfiler.observe, if_pos]
  rw [tracks.total]
  exact Nat.not_lt.mp outside

theorem Tracks.observeLayer
    (call : LayerCall) :
    Tracks totalExperts (requests ++ requestsOfLayer totalExperts call)
      (profiler.observeLayer call.1 call.2) := by
  obtain ⟨layerId, observations⟩ := call
  rw [RoutingReuseProfiler.observeLayer]
  by_cases nothing : totalExperts = 0
  · rw [if_pos (by simp [tracks.total, nothing])]
    simpa [requestsOfLayer, nothing] using tracks
  rw [if_neg (by simp [tracks.enabled, tracks.total, nothing])]
  simp only
  induction observations generalizing requests profiler with
  | nil => simpa [requestsOfLayer] using tracks
  | cons observation rest ih =>
    rw [List.foldl_cons]
    by_cases inside : observation.globalExpertId < totalExperts
    · have next := @Tracks.observe _ _
        ⟨decide (layerId ≥ firstLearnedLayer), observation⟩ _ tracks inside
      have last := ih next
      rw [List.append_assoc] at last
      simpa [requestsOfLayer, inside] using last
    · rw [tracks.skip inside]
      simpa [requestsOfLayer, inside] using ih tracks

end

end Steps

/-- What the profiler holds after any run. -/
theorem run_tracks
    (totalExperts : Nat)
    (calls : List LayerCall) :
    Tracks totalExperts (requestsOf totalExperts calls) (run totalExperts calls) := by
  induction calls using List.reverseRecOn with
  | nil => exact reset_tracks totalExperts
  | append_singleton calls call ih =>
    rw [run, List.foldl_concat, requestsOf, List.flatMap_append,
      List.flatMap_singleton]
    exact ih.observeLayer call

theorem losesHit_iff
    {totalExperts capacity i : Nat}
    {requests : List Request} :
    LosesHit totalExperts capacity requests i ↔
      (countedAt requests i = true ∧ (previousUse (idsOf requests) i).isSome = true ∧
        stackDistance (idsOf requests) i < capacity) ∧
        ¬ treeDistance totalExperts (idsOf requests) i < capacity := by
  rw [LosesHit, treeDistance, stackDistance]
  cases used : previousUse (idsOf requests) i with
  | none => simp
  | some previous =>
    simp only [Option.some.injEq, Option.any_some, Option.isSome_some, true_and]
    cases left : staleMark totalExperts (idsOf requests) i with
    | none => simp [counts]
    | some stale =>
      simp only [Option.some.injEq, counts, Option.any_some]
      constructor
      · rintro ⟨counted, _, _, rfl, distance, rfl, after⟩
        simp only [after, decide_true, Bool.toNat_true]
        exact ⟨⟨counted, by omega⟩, by omega⟩
      · rintro ⟨⟨counted, below⟩, lost⟩
        by_cases after : previous < stale
        · simp only [after, decide_true, Bool.toNat_true] at lost
          exact ⟨counted, _, _, rfl, by omega, rfl, after⟩
        · simp only [after, decide_false, Bool.toNat_false] at lost
          exact absurd below lost

theorem answeredBelow_eq_iff
    (totalExperts capacity : Nat)
    (requests : List Request) :
    answeredBelow (treeDistance totalExperts) capacity requests =
        answeredBelow stackDistance capacity requests ↔
      ¬ ∃ i, LosesHit totalExperts capacity requests i := by
  simp only [answeredBelow, losesHit_iff]
  have fewer : {i ∈ range requests.length |
        countedAt requests i = true ∧ (previousUse (idsOf requests) i).isSome = true ∧
          treeDistance totalExperts (idsOf requests) i < capacity} ⊆
      {i ∈ range requests.length |
        countedAt requests i = true ∧ (previousUse (idsOf requests) i).isSome = true ∧
          stackDistance (idsOf requests) i < capacity} := by
    intro i member
    rw [mem_filter] at member ⊢
    obtain ⟨inside, counted, again, below⟩ := member
    exact ⟨inside, counted, again, Nat.lt_of_le_of_lt (Nat.le_add_right _ _) below⟩
  constructor
  · rintro same ⟨i, ⟨counted, again, below⟩, lost⟩
    have inside : i < requests.length := by
      by_contra outside
      rw [countedAt, List.getElem?_eq_none (Nat.not_lt.mp outside)] at counted
      exact nomatch counted
    have member : i ∈ {i ∈ range requests.length |
        countedAt requests i = true ∧ (previousUse (idsOf requests) i).isSome = true ∧
          stackDistance (idsOf requests) i < capacity} :=
      mem_filter.mpr ⟨mem_range.mpr inside, counted, again, below⟩
    rw [← eq_of_subset_of_card_le fewer same.ge, mem_filter] at member
    exact lost member.2.2.2
  · intro kept
    congr 1
    refine fewer.antisymm fun i member => ?_
    rw [mem_filter] at member ⊢
    obtain ⟨inside, counted, again, below⟩ := member
    refine ⟨inside, counted, again, ?_⟩
    by_contra lost
    exact kept ⟨i, ⟨counted, again, below⟩, lost⟩

/--
The recorded distances below a capacity are the hits of the ideal cache exactly when no
counted request that the cache just answers has a mark left behind after its expert's
last position.
-/
theorem idealLruHits_eq_lruHits_iff
    (totalExperts : Nat)
    (calls : List LayerCall)
    (capacity : Nat) :
    (run totalExperts calls).idealLruHits capacity =
        lruHits capacity (requestsOf totalExperts calls) ↔
      ¬ ∃ i, LosesHit totalExperts capacity (requestsOf totalExperts calls) i := by
  rw [(run_tracks totalExperts calls).hits, lruHits_eq, answeredBelow_eq_iff]

/-- A run whose tree grows while expert 0 is being moved: 1026 requests of a layer. -/
def growingCalls : List LayerCall :=
  [(3, (List.replicate 1022 0 ++ [1, 0, 0, 1]).map fun gid => ⟨gid, false⟩)]

/-- Two slots answer the last request of the run, and the curve does not count it. -/
theorem growing_run_loses_hit :
    ¬ ∀ (totalExperts : Nat) (calls : List LayerCall) (capacity : Nat),
      1 ≤ totalExperts → 1 ≤ capacity →
        (run totalExperts calls).idealLruHits capacity =
          lruHits capacity (requestsOf totalExperts calls) := by
  intro claim
  have same := claim 2 growingCalls 2 (by decide) (by decide)
  rw [(run_tracks 2 growingCalls).hits, lruHits_eq, answeredBelow_eq_iff] at same
  refine same ⟨1025, ?_, 1022, 1023, ?_, ?_, ?_, by decide⟩ <;> decide +kernel

end Aeon.RoutingReuse
