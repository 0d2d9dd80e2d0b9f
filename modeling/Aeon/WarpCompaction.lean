import Mathlib.Data.List.Basic
import Mathlib.Logic.Function.Basic
import Mathlib.Algebra.GroupWithZero.Nat

namespace Aeon.WarpCompaction

/-!
# Ordered compaction by ballot and prefix count

A block of threads keeps the candidates that pass a test, in candidate order.  Each
warp votes, the votes are counted, and a thread that keeps its candidate stores it
behind the kept ones of the warps and lanes in front of it.  The block takes one
candidate a thread and a round.
-/

variable {Value : Type}

/-- The shape of a block. -/
structure Block where
  warps : Nat
  lanes : Nat
  lanes_pos : 0 < lanes

namespace Block

variable (block : Block)

/-- The threads of a block. -/
def threads : Nat :=
  block.warps * block.lanes

/-- The votes of a warp, lane by lane. -/
def ballot
    (kept : Nat → Option Value)
    (warp : Nat) : List Bool :=
  (List.range block.lanes).map fun lane => (kept (warp * block.lanes + lane)).isSome

/-- The number of votes. -/
def popcount (votes : List Bool) : Nat :=
  votes.count true

/-- Where a thread stores what it keeps. -/
def target
    (kept : Nat → Option Value)
    (stored thread : Nat) : Nat :=
  stored +
    ((List.range (thread / block.lanes)).map fun warp =>
      popcount (block.ballot kept warp)).sum +
    popcount ((block.ballot kept (thread / block.lanes)).take (thread % block.lanes))

/-- One thread's store. -/
def store
    (kept : Nat → Option Value)
    (stored : Nat)
    (list : Nat → Value)
    (thread : Nat) : Nat → Value :=
  match kept thread with
  | none => list
  | some value => Function.update list (block.target kept stored thread) value

/-- One round: the list and the number of values stored in it. -/
def round
    (candidate : Nat → Option Value)
    (state : (Nat → Value) × Nat)
    (base : Nat) : (Nat → Value) × Nat :=
  let kept := fun thread => candidate (base + thread)
  ((List.range block.threads).foldl (block.store kept state.2) state.1,
    state.2 + ((List.range block.warps).map fun warp =>
      popcount (block.ballot kept warp)).sum)

/-- The rounds that cover `candidates` candidates. -/
def rounds (candidates : Nat) : List Nat :=
  (List.range ((candidates + block.threads - 1) / block.threads)).map (· * block.threads)

/-- The whole compaction of a list that held anything. -/
def compact
    (candidates : Nat)
    (candidate : Nat → Option Value)
    (list : Nat → Value) : (Nat → Value) × Nat :=
  (block.rounds candidates).foldl (block.round candidate) (list, 0)

/-! ## A thread's target -/

/-- What the first `count` threads keep. -/
def keptBy
    (kept : Nat → Option Value)
    (count : Nat) : List Value :=
  (List.range count).filterMap kept

section

variable
    (kept : Nat → Option Value)

include kept

theorem keptBy_add
    (front back : Nat) :
    keptBy kept (front + back) =
      keptBy kept front ++ keptBy (fun thread => kept (front + thread)) back := by
  unfold keptBy
  rw [List.range_add, List.filterMap_append, List.filterMap_map]
  rfl

theorem keptBy_succ
    (count : Nat) :
    keptBy kept (count + 1) = keptBy kept count ++ (kept count).toList := by
  rw [keptBy_add]
  cases found : kept count <;> simp [keptBy, found]

theorem popcount_votes
    (count : Nat) :
    popcount ((List.range count).map fun thread => (kept thread).isSome) =
      (keptBy kept count).length := by
  induction count with
  | zero => rfl
  | succ count ih =>
    rw [keptBy_succ, List.range_succ, List.map_append, popcount, List.count_append,
      ← popcount, ih, List.length_append]
    cases found : kept count <;> simp [found]

theorem popcount_ballot
    (warp lanes : Nat)
    (inside : lanes ≤ block.lanes) :
    popcount ((block.ballot kept warp).take lanes) =
      (keptBy (fun lane => kept (warp * block.lanes + lane)) lanes).length := by
  unfold ballot
  rw [← List.map_take, List.take_range, Nat.min_eq_left inside]
  exact popcount_votes _ lanes

theorem votes_sum
    (warps : Nat) :
    ((List.range warps).map fun warp => popcount (block.ballot kept warp)).sum =
      (keptBy kept (warps * block.lanes)).length := by
  induction warps with
  | zero => simp [keptBy]
  | succ warps ih =>
    have whole := block.popcount_ballot kept warps block.lanes (Nat.le_refl _)
    rw [List.take_of_length_le (by simp [ballot])] at whole
    rw [List.range_succ, List.map_append, List.sum_append, ih,
      Nat.succ_mul, keptBy_add, List.length_append, ← whole]
    simp

theorem target_eq
    (stored thread : Nat) :
    block.target kept stored thread = stored + (keptBy kept thread).length := by
  have lane := Nat.mod_lt thread block.lanes_pos
  have split : thread = thread / block.lanes * block.lanes + thread % block.lanes := by
    rw [Nat.mul_comm]
    exact (Nat.div_add_mod _ _).symm
  unfold target
  rw [votes_sum, popcount_ballot _ _ _ _ (Nat.le_of_lt lane), Nat.add_assoc, ← List.length_append,
    ← keptBy_add, ← split]

end

/-! ## The rounds -/

/-- The values stored are the given ones, in order. -/
def Holds
    (state : (Nat → Value) × Nat)
    (values : List Value) : Prop :=
  state.2 = values.length ∧ ∀ index value, values[index]? = some value →
    state.1 index = value

section

variable
    {kept : Nat → Option Value}
    {thread : Nat}

theorem store_none
    (own : kept thread = none)
    (stored : Nat)
    (list : Nat → Value) :
    block.store kept stored list thread = list := by
  rw [store, own]

theorem store_some
    {value : Value}
    (own : kept thread = some value)
    (stored : Nat)
    (list : Nat → Value) :
    block.store kept stored list thread =
      Function.update list (stored + (keptBy kept thread).length) value := by
  rw [store, own, target_eq]

end

/-- The threads one after the other store what they keep behind the list. -/
theorem stores_hold
    (kept : Nat → Option Value)
    {list : Nat → Value}
    {values : List Value}
    (holds : ∀ index value, values[index]? = some value → list index = value)
    (count : Nat) :
    ∀ index value, (values ++ keptBy kept count)[index]? = some value →
      (List.range count).foldl (block.store kept values.length) list index = value := by
  induction count with
  | zero => simpa [keptBy] using holds
  | succ count ih =>
    intro index value found
    rw [List.range_succ, List.foldl_append, List.foldl_cons, List.foldl_nil]
    cases own : kept count with
    | none =>
      rw [keptBy_succ, own] at found
      rw [store_none block own]
      exact ih index value (by simpa using found)
    | some new =>
      rw [keptBy_succ, own, Option.toList_some, ← List.append_assoc] at found
      rw [store_some block own, ← List.length_append]
      by_cases newest : index = (values ++ keptBy kept count).length
      · subst newest
        rw [Function.update_self]
        simpa using found
      · rw [Function.update_of_ne newest]
        refine ih index value ?_
        have bound := (List.getElem?_eq_some_iff.mp found).1
        rw [List.length_append, List.length_singleton] at bound
        rwa [List.getElem?_append_left (by omega)] at found

theorem round_holds
    (candidate : Nat → Option Value)
    {state : (Nat → Value) × Nat}
    {values : List Value}
    (holds : Holds state values)
    (base : Nat) :
    Holds (block.round candidate state base)
      (values ++ keptBy (fun thread => candidate (base + thread)) block.threads) := by
  obtain ⟨count, stored⟩ := holds
  refine ⟨?_, ?_⟩
  · rw [round, votes_sum, List.length_append, count]
    rfl
  · intro index value found
    rw [round, count]
    exact block.stores_hold _ stored block.threads index value found

theorem rounds_hold
    (candidate : Nat → Option Value)
    (list : Nat → Value)
    (count : Nat) :
    Holds
      (((List.range count).map (· * block.threads)).foldl (block.round candidate)
        (list, 0))
      (keptBy candidate (count * block.threads)) := by
  induction count with
  | zero => simp [Holds, keptBy]
  | succ count ih =>
    rw [List.range_succ, List.map_append, List.foldl_append, Nat.succ_mul, keptBy_add]
    exact block.round_holds candidate ih _

section

variable
    {candidate : Nat → Option Value}
    {candidates : Nat}

theorem keptBy_covered
    (last : ∀ index, candidates ≤ index → candidate index = none)
    {count : Nat}
    (covered : candidates ≤ count) :
    keptBy candidate count = keptBy candidate candidates := by
  obtain ⟨extra, rfl⟩ := Nat.exists_eq_add_of_le covered
  rw [keptBy_add]
  have nothing : keptBy (fun thread => candidate (candidates + thread)) extra = [] := by
    unfold keptBy
    rw [List.filterMap_eq_nil_iff]
    intro thread _
    exact last _ (Nat.le_add_right _ _)
  rw [nothing, List.append_nil]

/-- The compaction keeps exactly the candidates that pass, in their order. -/
theorem compact_holds
    (some_ : 0 < block.warps)
    (last : ∀ index, candidates ≤ index → candidate index = none)
    (list : Nat → Value) :
    Holds (block.compact candidates candidate list) (keptBy candidate candidates) := by
  have threads_pos : 0 < block.threads := Nat.mul_pos some_ block.lanes_pos
  have covered : candidates ≤
      (candidates + block.threads - 1) / block.threads * block.threads := by
    have split := Nat.div_add_mod (candidates + block.threads - 1) block.threads
    have rest := Nat.mod_lt (candidates + block.threads - 1) threads_pos
    rw [Nat.mul_comm] at split
    omega
  have held := block.rounds_hold candidate list
    ((candidates + block.threads - 1) / block.threads)
  rwa [keptBy_covered last covered] at held

end

/-- The stored part of the list, as a list. -/
def stored (state : (Nat → Value) × Nat) : List Value :=
  (List.range state.2).map state.1

theorem Holds.stored
    {state : (Nat → Value) × Nat}
    {values : List Value}
    (holds : Holds state values) :
    stored state = values := by
  refine List.ext_getElem? fun index => ?_
  unfold Block.stored
  rw [holds.1]
  by_cases inside : index < values.length
  · have found := List.getElem?_eq_getElem inside
    rw [found, List.getElem?_map, List.getElem?_range inside, Option.map_some,
      holds.2 index _ found]
  · rw [List.getElem?_eq_none (by simpa using inside),
      List.getElem?_eq_none (by omega)]

end Block

end Aeon.WarpCompaction
