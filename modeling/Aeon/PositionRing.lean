import Mathlib.Data.List.Basic
import Mathlib.Data.Nat.ModEq
import Mathlib.Logic.Function.Basic

namespace Aeon.PositionRing

/-!
# Rings addressed by position

A ring of a fixed capacity keeps the value of position `p` in slot `p % capacity`,
together with the position as a label.  Written in position order, it holds the last
positions written, as many as it has slots.
-/

variable {Value : Type}

/-- Two positions less than a capacity apart are in different slots. -/
theorem slot_ne
    {one other capacity : Nat}
    (before : one < other)
    (close : other < one + capacity) :
    one % capacity ≠ other % capacity := by
  intro same
  have divides := (Nat.modEq_iff_dvd' (Nat.le_of_lt before)).mp same
  have := Nat.le_of_dvd (by omega) divides
  omega

/-- The ring holds the last positions below `count`, as many as fit. -/
structure Holds
    (capacity count : Nat)
    (cells : Nat → Value)
    (labels : Nat → Int)
    (value : Nat → Value) : Prop where
  cell : ∀ position < count, count ≤ position + capacity →
    cells (position % capacity) = value position
  label : ∀ position < count, count ≤ position + capacity →
    labels (position % capacity) = position

section Write

variable {capacity count : Nat} {cells : Nat → Value} {labels : Nat → Int}
  {value : Nat → Value}

theorem holds_zero : Holds capacity 0 cells labels value :=
  ⟨fun _ below => absurd below (Nat.not_lt_zero _),
    fun _ below => absurd below (Nat.not_lt_zero _)⟩

theorem Holds.congr
    {other : Nat → Value}
    (holds : Holds capacity count cells labels value)
    (same : ∀ position < count, value position = other position) :
    Holds capacity count cells labels other :=
  ⟨fun position below fits => (holds.cell position below fits).trans (same position below),
    holds.label⟩

/-- The next position may be written. -/
theorem Holds.write
    (holds : Holds capacity count cells labels value) :
    Holds capacity (count + 1)
      (Function.update cells (count % capacity) (value count))
      (Function.update labels (count % capacity) count) value := by
  constructor
  · intro position below inside
    by_cases last : position = count
    · subst last
      exact Function.update_self _ _ _
    · rw [Function.update_of_ne (slot_ne (by omega) (by omega))]
      exact holds.cell position (by omega) (by omega)
  · intro position below inside
    by_cases last : position = count
    · subst last
      exact Function.update_self _ _ _
    · rw [Function.update_of_ne (slot_ne (by omega) (by omega))]
      exact holds.label position (by omega) (by omega)

/-- The slots behind the first positions are not written. -/
def Unwritten
    (capacity count : Nat)
    (labels : Nat → Int) : Prop :=
  ∀ slot < capacity, count ≤ slot → labels slot = -1

theorem Unwritten.write
    (unwritten : Unwritten capacity count labels) :
    Unwritten capacity (count + 1)
      (Function.update labels (count % capacity) count) := by
  intro slot inside behind
  have other : slot ≠ count % capacity := by
    have := Nat.mod_le count capacity
    omega
  rw [Function.update_of_ne other]
  exact unwritten slot inside (by omega)

end Write

/-! ## The window of a position, slot by slot -/

section Window

variable {capacity last : Nat}

/-- The first position of the window that ends at `last`. -/
def windowFirst (capacity last : Nat) : Nat :=
  last + 1 - capacity

/-- The position a slot holds in the window from `first` on. -/
def slotPosition (capacity first slot : Nat) : Nat :=
  first + (((slot : Int) - first) % capacity).toNat

theorem slotPosition_spec
    {slot : Nat}
    (inside : slot < min capacity (last + 1)) :
    windowFirst capacity last ≤ slotPosition capacity (windowFirst capacity last) slot ∧
      slotPosition capacity (windowFirst capacity last) slot ≤ last ∧
      slotPosition capacity (windowFirst capacity last) slot % capacity = slot := by
  have capacity_pos : (0 : Int) < capacity := by omega
  have low := Int.emod_nonneg ((slot : Int) - windowFirst capacity last)
    (Int.ne_of_gt capacity_pos)
  have high := Int.emod_lt_of_pos ((slot : Int) - windowFirst capacity last) capacity_pos
  refine ⟨Nat.le_add_right _ _, ?_, ?_⟩
  · by_cases full : capacity ≤ last + 1
    · unfold slotPosition
      generalize ((slot : Int) - windowFirst capacity last) % capacity = offset at *
      unfold windowFirst
      omega
    · have start : windowFirst capacity last = 0 := by
        unfold windowFirst
        omega
      unfold slotPosition
      rw [start, Int.natCast_zero, sub_zero, Int.emod_eq_of_lt (by omega) (by omega)]
      omega
  · have cast : (slotPosition capacity (windowFirst capacity last) slot : Int) =
        windowFirst capacity last +
          ((slot : Int) - windowFirst capacity last) % capacity := by
      unfold slotPosition
      omega
    have modular : (slotPosition capacity (windowFirst capacity last) slot : Int) %
        capacity = slot := by
      rw [cast, Int.add_emod_emod, show (windowFirst capacity last : Int) +
        (slot - windowFirst capacity last) = slot by omega]
      exact Int.emod_eq_of_lt (by omega) (by omega)
    omega

variable {cells : Nat → Value} {labels : Nat → Int} {value : Nat → Value}

theorem Holds.slot
    (holds : Holds capacity (last + 1) cells labels value)
    {slot : Nat}
    (inside : slot < min capacity (last + 1)) :
    cells slot = value (slotPosition capacity (windowFirst capacity last) slot) ∧
      labels slot = slotPosition capacity (windowFirst capacity last) slot := by
  obtain ⟨low, high, same⟩ := slotPosition_spec inside
  have fits : last + 1 ≤
      slotPosition capacity (windowFirst capacity last) slot + capacity := by
    unfold windowFirst at low ⊢
    omega
  have cell := holds.cell _ (by omega) fits
  have label := holds.label _ (by omega) fits
  rw [same] at cell label
  exact ⟨cell, label⟩

theorem Holds.window
    (holds : Holds capacity (last + 1) cells labels value)
    (unwritten : Unwritten capacity (last + 1) labels) :
    ((List.range capacity).filterMap fun slot =>
        if (windowFirst capacity last : Int) ≤ labels slot ∧ labels slot ≤ last then
          some (cells slot)
        else
          none) =
      (List.range (min capacity (last + 1))).map fun slot =>
        value (slotPosition capacity (windowFirst capacity last) slot) := by
  obtain ⟨rest, split⟩ := Nat.exists_eq_add_of_le (Nat.min_le_left capacity (last + 1))
  have slots : List.range capacity = List.range (min capacity (last + 1)) ++
      (List.range rest).map (min capacity (last + 1) + ·) := by
    rw [← List.range_add, ← split]
  rw [slots, List.filterMap_append]
  have written : ((List.range (min capacity (last + 1))).filterMap fun slot =>
      if (windowFirst capacity last : Int) ≤ labels slot ∧ labels slot ≤ last then
        some (cells slot)
      else
        none) = (List.range (min capacity (last + 1))).map fun slot =>
          value (slotPosition capacity (windowFirst capacity last) slot) := by
    rw [← List.filterMap_eq_map]
    refine List.filterMap_congr fun slot listed => ?_
    have inside := List.mem_range.mp listed
    obtain ⟨cell, label⟩ := holds.slot inside
    obtain ⟨low, high, -⟩ := slotPosition_spec inside
    rw [cell, label, if_pos ⟨by omega, by omega⟩]
    rfl
  have others : (((List.range rest).map (min capacity (last + 1) + ·)).filterMap
      fun slot =>
        if (windowFirst capacity last : Int) ≤ labels slot ∧ labels slot ≤ last then
          some (cells slot)
        else
          none) = [] := by
    rw [List.filterMap_eq_nil_iff]
    intro slot listed
    obtain ⟨place, inside, rfl⟩ := List.mem_map.mp listed
    have below := List.mem_range.mp inside
    rw [unwritten _ (by omega) (by omega), if_neg (by omega)]
  rw [written, others, List.append_nil]

end Window

end Aeon.PositionRing
