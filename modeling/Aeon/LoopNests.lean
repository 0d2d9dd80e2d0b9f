import Aeon.MixedRadix
import Mathlib.Data.Multiset.Bind

namespace Aeon.Layout

/-!
# Reordered loops

Two nested loops over fixed lists do the same work in either order, and a nest of ranges
with a bound on its index does the work of one range.
-/

variable {Outer Inner Item : Type}

/-- Two nested loops in either order. -/
theorem flatMap_comm
    (outer : List Outer)
    (inner : List Inner)
    (item : Outer → Inner → List Item) :
    (outer.flatMap fun one => inner.flatMap fun other => item one other).Perm
      (inner.flatMap fun other => outer.flatMap fun one => item one other) := by
  rw [← Multiset.coe_eq_coe]
  simp only [← Multiset.coe_bind]
  exact Multiset.bind_bind _ _

/-- Two nested loops of one item each, in either order. -/
theorem flatMap_map_comm
    (outer : List Outer)
    (inner : List Inner)
    (item : Outer → Inner → Item) :
    (outer.flatMap fun one => inner.map fun other => item one other).Perm
      (inner.flatMap fun other => outer.map fun one => item one other) := by
  rw [← Multiset.coe_eq_coe]
  simp only [← Multiset.coe_bind, ← Multiset.map_coe]
  exact Multiset.bind_map_comm _ _

/-- A loop past a bound that its body checks. -/
theorem range_flatMap_if
    {count total : Nat}
    (enough : count ≤ total)
    (item : Nat → Item) :
    ((List.range total).flatMap fun index => if index < count then [item index] else []) =
      (List.range count).map item := by
  obtain ⟨rest, rfl⟩ := Nat.exists_eq_add_of_le enough
  rw [List.range_add, List.flatMap_append, List.flatMap_map]
  have within : ((List.range count).flatMap fun index =>
      if index < count then [item index] else []) = (List.range count).map item := by
    rw [List.map_eq_flatMap]
    refine List.flatMap_congr fun index member => ?_
    rw [if_pos (List.mem_range.mp member)]
  have beyond : ((List.range rest).flatMap fun index =>
      if count + index < count then [item (count + index)] else []) = [] := by
    refine List.flatMap_eq_nil_iff.mpr fun index _ => ?_
    rw [if_neg (Nat.not_lt.mpr (Nat.le_add_right count index))]
  rw [within, beyond, List.append_nil]

end Aeon.Layout
