import Mathlib.Data.List.Basic
import Mathlib.Data.List.Nodup
import Mathlib.Logic.Function.Basic
import Mathlib.Algebra.Group.Nat.Defs

namespace Aeon.Layout

/-!
# Mixed-radix indices, stores and strided arrays

A memory layout is an index computed from a few loop variables, `i * b + j` over
and over.  This module has the arithmetic of one such step, what a nest of loops
enumerates, what a memory holds after a list of stores, and the strided arrays of
an array library with the one operation that reorders them.
-/

section Digits

variable {radix high low : Nat}

/-- The high part of an index is read back by a division. -/
theorem digit_div (small : low < radix) : (high * radix + low) / radix = high := by
  rw [Nat.add_comm, Nat.add_mul_div_right _ _ (Nat.zero_lt_of_lt small),
    Nat.div_eq_of_lt small, Nat.zero_add]

/-- The low part of an index is read back by a remainder. -/
theorem digit_mod (small : low < radix) : (high * radix + low) % radix = low := by
  rw [Nat.add_comm, Nat.add_mul_mod_self_right, Nat.mod_eq_of_lt small]

/-- Two bounded parts make a bounded index. -/
theorem digit_lt
    {highs : Nat}
    (large : high < highs)
    (small : low < radix) :
    high * radix + low < highs * radix :=
  calc high * radix + low
      < high * radix + radix := Nat.add_lt_add_left small _
    _ = (high + 1) * radix := (Nat.succ_mul high radix).symm
    _ ≤ highs * radix := Nat.mul_le_mul_right radix large

end Digits

/-- Two nested loops enumerate the indices in order. -/
theorem range_flatMap_range
    {Item : Type}
    (highs radix : Nat)
    (item : Nat → List Item) :
    ((List.range highs).flatMap fun high =>
        (List.range radix).flatMap fun low => item (high * radix + low)) =
      (List.range (highs * radix)).flatMap item := by
  induction highs with
  | zero => simp
  | succ highs ih =>
    rw [List.range_succ, List.flatMap_append, ih, Nat.succ_mul, List.range_add,
      List.flatMap_append]
    simp [List.flatMap_map]

/-- Two nested loops enumerate the two parts of every index. -/
theorem range_flatMap_digits
    {Item : Type}
    (highs radix : Nat)
    (item : Nat → Nat → List Item) :
    ((List.range highs).flatMap fun high =>
        (List.range radix).flatMap fun low => item high low) =
      (List.range (highs * radix)).flatMap fun index =>
        item (index / radix) (index % radix) := by
  rw [← range_flatMap_range]
  refine List.flatMap_congr fun high _ => List.flatMap_congr fun low small => ?_
  rw [digit_div (List.mem_range.mp small), digit_mod (List.mem_range.mp small)]

section Stores

variable {Item : Type}

/-- What each index of a memory holds; `none` is a cell nothing was stored in. -/
abbrev Buffer (Item : Type) := Nat → Option Item

/-- The memory an array occupies. -/
def Buffer.ofList (items : List Item) : Buffer Item :=
  fun index => items[index]?

/-- Run the stores in order on a memory that holds nothing. -/
def scatter (stores : List (Nat × Option Item)) : Buffer Item :=
  stores.foldl (fun buffer store => Function.update buffer store.1 store.2)
    (fun _ => none)

/-- Stores elsewhere leave a cell alone. -/
theorem foldl_update_of_notMem
    (stores : List (Nat × Option Item))
    (buffer : Buffer Item)
    {index : Nat}
    (untouched : index ∉ stores.map Prod.fst) :
    stores.foldl (fun buffer store => Function.update buffer store.1 store.2)
        buffer index = buffer index := by
  induction stores generalizing buffer with
  | nil => rfl
  | cons store stores ih =>
    rw [List.map_cons, List.mem_cons, not_or] at untouched
    rw [List.foldl_cons, ih _ untouched.2, Function.update_of_ne untouched.1]

theorem foldl_update_of_mem
    (stores : List (Nat × Option Item))
    (buffer : Buffer Item)
    (once : (stores.map Prod.fst).Nodup)
    {store : Nat × Option Item}
    (stored : store ∈ stores) :
    stores.foldl (fun buffer store => Function.update buffer store.1 store.2)
        buffer store.1 = store.2 := by
  induction stores generalizing buffer with
  | nil => simp at stored
  | cons first stores ih =>
    rw [List.map_cons, List.nodup_cons] at once
    rw [List.foldl_cons]
    rcases List.mem_cons.mp stored with rfl | later
    · rw [foldl_update_of_notMem _ _ once.1, Function.update_self]
    · exact ih _ once.2 later

/-- A cell no store names is never written. -/
theorem scatter_of_notMem
    {stores : List (Nat × Option Item)}
    {index : Nat}
    (untouched : index ∉ stores.map Prod.fst) :
    scatter stores index = none :=
  foldl_update_of_notMem stores _ untouched

theorem scatter_of_mem
    {stores : List (Nat × Option Item)}
    (once : (stores.map Prod.fst).Nodup)
    {index : Nat}
    {item : Option Item}
    (stored : (index, item) ∈ stores) :
    scatter stores index = item :=
  foldl_update_of_mem stores _ once stored

theorem scatter_range
    {count : Nat}
    {place back : Nat → Nat}
    (item : Nat → Option Item)
    (place_back : ∀ index < count, back index < count ∧ place (back index) = index)
    (back_place : ∀ cell < count, place cell < count ∧ back (place cell) = cell) :
    scatter ((List.range count).map fun cell => (place cell, item cell)) =
      fun index => if index < count then item (back index) else none := by
  funext index
  by_cases inside : index < count
  · rw [if_pos inside]
    obtain ⟨back_lt, back_eq⟩ := place_back index inside
    apply scatter_of_mem
    · rw [List.map_map]
      apply List.Nodup.map_on _ List.nodup_range
      intro first first_mem second second_mem same
      rw [← (back_place first (List.mem_range.mp first_mem)).2,
        ← (back_place second (List.mem_range.mp second_mem)).2]
      exact congrArg back same
    · refine List.mem_map.mpr ⟨back index, List.mem_range.mpr back_lt, ?_⟩
      rw [back_eq]
  · rw [if_neg inside]
    apply scatter_of_notMem
    intro touched
    rw [List.map_map, List.mem_map] at touched
    obtain ⟨cell, cell_mem, rfl⟩ := touched
    exact inside (back_place cell (List.mem_range.mp cell_mem)).1

end Stores

section Strided

variable {Item : Type}

/-- An array library's view: a buffer with a length and a step for each axis. -/
structure NdArray (Item : Type) where
  shape : List Nat
  strides : List Nat
  data : List Item

/-- The steps of an array stored in row-major order. -/
def rowMajor : List Nat → List Nat
  | [] => []
  | _ :: shape => shape.prod :: rowMajor shape

/-- A contiguous array under a shape; `none` is a shape of another size. -/
def NdArray.ofShape (data : List Item) (shape : List Nat) :
    Option (NdArray Item) :=
  if data.length = shape.prod then some ⟨shape, rowMajor shape, data⟩ else none

/-- The axes in another order, over the same buffer. -/
def NdArray.transpose (array : NdArray Item) (axes : List Nat) : NdArray Item :=
  { array with
    shape := axes.map fun axis => array.shape.getD axis 1
    strides := axes.map fun axis => array.strides.getD axis 0 }

/-- The buffer offsets of the elements, the last axis moving fastest. -/
def offsets : List Nat → List Nat → List Nat
  | [], _ => [0]
  | _ :: _, [] => [0]
  | extent :: shape, stride :: strides =>
    (List.range extent).flatMap fun position =>
      (offsets shape strides).map fun offset => position * stride + offset

/-- The elements copied out in that order. -/
def NdArray.contiguous (array : NdArray Item) : Option (List Item) :=
  (offsets array.shape array.strides).mapM fun offset => array.data[offset]?

theorem mapM_congr
    {Index : Type}
    {first second : Index → Option Item}
    {indices : List Index}
    (same : ∀ index ∈ indices, first index = second index) :
    indices.mapM first = indices.mapM second := by
  have items := congrArg (List.mapM id) (List.map_congr_left same)
  simpa only [List.mapM_map, Function.id_comp] using items

theorem mapM_isSome
    {Index : Type}
    {item : Index → Option Item}
    {indices : List Index}
    (present : ∀ index ∈ indices, (item index).isSome) :
    (indices.mapM item).isSome := by
  induction indices with
  | nil => rfl
  | cons index indices ih =>
    obtain ⟨first, first_eq⟩ :=
      Option.isSome_iff_exists.mp (present index List.mem_cons_self)
    obtain ⟨rest, rest_eq⟩ := Option.isSome_iff_exists.mp
      (ih fun later later_mem => present later (List.mem_cons_of_mem _ later_mem))
    rw [List.mapM_cons, first_eq, rest_eq]
    rfl

end Strided

end Aeon.Layout
