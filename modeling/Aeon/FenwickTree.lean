import Mathlib.Algebra.BigOperators.Intervals
import Mathlib.Data.Nat.Bitwise
import Mathlib.Data.Nat.Size
import Mathlib.Order.Interval.Finset.Nat
import Mathlib.Tactic.Ring

namespace Aeon.Fenwick

open Finset

/-!
# Binary indexed trees

A node `i ≥ 1` holds the sum of the marks in `(i - lowBit i, i]`.  Adding to one mark
visits every node whose range has it, summing a prefix visits nodes whose ranges tile
it.  Nothing here knows what the marks are.
-/

/-- `i & (~i + 1)`, in a word wide enough for `i`. -/
def lowBit (i : Nat) : Nat :=
  i &&& (2 ^ i.size - i)

/-- A number and its complement share no bit. -/
private theorem and_complement
    (word : Nat) :
    word &&& (2 ^ word.size - (word + 1)) = 0 := by
  refine Nat.eq_of_testBit_eq fun bit => ?_
  rw [Nat.testBit_and, Nat.testBit_two_pow_sub_succ (Nat.lt_size_self word)]
  cases word.testBit bit <;> simp

theorem lowBit_odd (half : Nat) : lowBit (2 * half + 1) = 1 := by
  have size_eq : (2 * half + 1).size = half.size + 1 := by
    simpa [Nat.bit] using Nat.size_bit (b := true) (n := half) (by simp [Nat.bit])
  have complement : 2 ^ (half.size + 1) - (2 * half + 1) =
      Nat.bit true (2 ^ half.size - (half + 1)) := by
    have inside := Nat.lt_size_self half
    simp only [Nat.bit, cond_true, pow_succ]
    omega
  have odd : 2 * half + 1 = Nat.bit true half := rfl
  rw [lowBit, size_eq, complement, odd, Nat.land_bit, and_complement]
  rfl

theorem lowBit_even (half : Nat) : lowBit (2 * half) = 2 * lowBit half := by
  by_cases zero : half = 0
  · subst zero
    rfl
  have size_eq : (2 * half).size = half.size + 1 := by
    simpa [Nat.bit] using
      Nat.size_bit (b := false) (n := half) (by simpa [Nat.bit] using zero)
  have complement : 2 ^ (half.size + 1) - 2 * half =
      Nat.bit false (2 ^ half.size - half) := by
    simp only [Nat.bit, cond_false, pow_succ]
    omega
  have even : 2 * half = Nat.bit false half := rfl
  rw [lowBit, size_eq, complement, even, Nat.land_bit]
  rfl

theorem lowBit_bounds
    {i : Nat}
    (positive : 0 < i) :
    0 < lowBit i ∧ lowBit i ≤ i := by
  induction i using Nat.strong_induction_on with
  | _ i ih =>
    obtain ⟨half, even | odd⟩ := i.even_or_odd'
    · subst even
      have smaller := ih half (by omega) (by omega)
      rw [lowBit_even]
      omega
    · subst odd
      rw [lowBit_odd]
      omega

/--
The next node an addition visits is the first later one with the mark in its range.
-/
theorem covers_next
    {mark node : Nat}
    (positive : 0 < mark)
    (later : mark < node) :
    node - lowBit node < mark ↔
      mark + lowBit mark ≤ node ∧ node - lowBit node < mark + lowBit mark := by
  induction node using Nat.strong_induction_on generalizing mark with
  | _ node ih =>
    obtain ⟨half, even | odd⟩ := node.even_or_odd'
    · subst even
      have bounds := lowBit_bounds (show 0 < half by omega)
      rw [lowBit_even]
      obtain ⟨part, evenMark | oddMark⟩ := mark.even_or_odd'
      · subst evenMark
        have smaller := @ih half (by omega) part (by omega)
          (by omega)
        rw [lowBit_even]
        omega
      · subst oddMark
        rw [lowBit_odd]
        omega
    · subst odd
      rw [lowBit_odd]
      obtain ⟨part, evenMark | oddMark⟩ := mark.even_or_odd'
      · subst evenMark
        rw [lowBit_even]
        omega
      · subst oddMark
        rw [lowBit_odd]
        omega

/-! ## The two loops -/

/-- The nodes of a tree. -/
abbrev Nodes := Nat → Int

/-- Add to the node and to every later one up to the capacity that covers it. -/
def addFrom
    (capacity : Nat)
    (delta : Int)
    (nodes : Nodes)
    (i : Nat) : Nodes :=
  if 0 < i ∧ i ≤ capacity then
    addFrom capacity delta (Function.update nodes i (nodes i + delta)) (i + lowBit i)
  else
    nodes
termination_by capacity + 1 - i
decreasing_by
  have := lowBit_bounds (i := i) (by omega)
  omega

/-- Sum the nodes whose ranges tile `[1, i]`. -/
def sumFrom (nodes : Nodes) (i : Nat) : Int :=
  if 0 < i then
    nodes i + sumFrom nodes (i - lowBit i)
  else
    0
termination_by i
decreasing_by
  have := lowBit_bounds (i := i) (by omega)
  omega

theorem addFrom_apply
    (capacity : Nat)
    (delta : Int)
    (nodes : Nodes)
    {mark : Nat}
    (positive : 0 < mark)
    (node : Nat) :
    addFrom capacity delta nodes mark node =
      nodes node +
        if mark ≤ node ∧ node ≤ capacity ∧ node - lowBit node < mark then delta
        else 0 := by
  fun_induction addFrom capacity delta nodes mark with
  | case1 nodes mark inside ih =>
    rw [ih (by omega)]
    rcases Nat.lt_trichotomy node mark with before | same | after
    · have bounds := lowBit_bounds positive
      rw [Function.update_of_ne (by omega), if_neg (by omega), if_neg (by omega)]
    · subst same
      have bounds := lowBit_bounds positive
      rw [Function.update_self, if_neg (by omega), if_pos (by omega)]
      ring
    · have covers := covers_next positive after
      rw [Function.update_of_ne (by omega)]
      congr 1
      refine if_congr ?_ rfl rfl
      omega
  | case2 nodes mark outside =>
    rw [if_neg (by omega), add_zero]

/-! ## What a tree holds -/

/-- Every node up to the capacity holds the sum of the marks in its range. -/
def Holds (capacity : Nat) (nodes : Nodes) (marks : Nat → Int) : Prop :=
  ∀ node, 0 < node → node ≤ capacity →
    nodes node = ∑ mark ∈ Ioc (node - lowBit node) node, marks mark

/-- An empty tree holds no marks. -/
theorem holds_zero (capacity : Nat) : Holds capacity (fun _ => 0) fun _ => 0 := by
  intro node positive inside
  simp

variable {capacity : Nat}
variable {nodes : Nodes}

theorem Holds.congr
    {marks others : Nat → Int}
    (holds : Holds capacity nodes marks)
    (same : ∀ mark, 0 < mark → mark ≤ capacity → marks mark = others mark) :
    Holds capacity nodes others := by
  intro node positive inside
  rw [holds node positive inside]
  refine sum_congr rfl fun mark member => same mark ?_ ?_
  · have := (mem_Ioc.mp member).1
    omega
  · exact (mem_Ioc.mp member).2.trans inside

theorem Holds.add
    {marks : Nat → Int}
    (holds : Holds capacity nodes marks)
    {mark : Nat}
    (positive : 0 < mark)
    (delta : Int) :
    Holds capacity (addFrom capacity delta nodes mark)
      (Function.update marks mark (marks mark + delta)) := by
  intro node nodePositive inside
  rw [addFrom_apply capacity delta nodes positive, holds node nodePositive inside]
  by_cases covered : mark ∈ Ioc (node - lowBit node) node
  · have bounds := mem_Ioc.mp covered
    rw [if_pos ⟨bounds.2, inside, bounds.1⟩, sum_update_of_mem covered,
      ← sum_erase_add _ _ covered, sdiff_singleton_eq_erase]
    ring
  · have outside : ¬ (mark ≤ node ∧ node ≤ capacity ∧ node - lowBit node < mark) :=
      fun reaches => covered (mem_Ioc.mpr ⟨reaches.2.2, reaches.1⟩)
    rw [if_neg outside, sum_update_of_notMem covered, add_zero]

theorem Holds.sum
    {marks : Nat → Int}
    (holds : Holds capacity nodes marks)
    {last : Nat}
    (inside : last ≤ capacity) :
    sumFrom nodes last = ∑ mark ∈ Ioc 0 last, marks mark := by
  fun_induction sumFrom nodes last with
  | case1 last positive ih =>
    have bounds := lowBit_bounds positive
    rw [ih (by omega), holds last positive inside,
      ← sum_Ioc_consecutive marks (Nat.zero_le _) (Nat.sub_le last (lowBit last)),
      add_comm]
  | case2 last empty =>
    have none : last = 0 := by omega
    subst none
    rfl

end Aeon.Fenwick
