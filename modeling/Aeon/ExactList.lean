import Mathlib.Data.List.Nodup

namespace Aeon

/-!
# Lists that enumerate a predicate

A free list, a recency list and an owner list are all the same kind of thing: a
duplicate-free list of exactly the items with some property.  This module has the
edits of such a list: push, pop, erase, filter and rebuild.
-/

/-- `items` has no duplicate and contains exactly the items with `member`. -/
structure Exactly
    {α : Type}
    (items : List α)
    (member : α → Prop) : Prop where
  nodup : items.Nodup
  mem_iff : ∀ item, item ∈ items ↔ member item

namespace Exactly

variable {α : Type} {items : List α} {member after : α → Prop} {item : α}

/-- Only the extension of the predicate matters. -/
theorem congr
    (exact' : Exactly items member)
    (same : ∀ other, after other ↔ member other) :
    Exactly items after := by
  refine ⟨exact'.nodup, ?_⟩
  intro other
  rw [exact'.mem_iff, same]

/-- The order of the items does not matter. -/
theorem perm
    {others : List α}
    (exact' : Exactly items member)
    (same : items.Perm others) :
    Exactly others member := by
  refine ⟨same.nodup_iff.mp exact'.nodup, ?_⟩
  intro other
  rw [← same.mem_iff, exact'.mem_iff]

/-- Put an item in front that was not there. -/
theorem push
    (exact' : Exactly items member)
    (absent : ¬ member item)
    (grown : ∀ other, after other ↔ member other ∨ other = item) :
    Exactly (item :: items) after := by
  constructor
  · rw [List.nodup_cons]
    refine ⟨?_, exact'.nodup⟩
    rw [exact'.mem_iff]
    exact absent
  · intro other
    rw [List.mem_cons, exact'.mem_iff, grown, or_comm]

/-- Put several items in front that were not there. -/
theorem append
    {added : List α}
    (exact' : Exactly items member)
    (unique : added.Nodup)
    (absent : ∀ other ∈ added, ¬ member other)
    (grown : ∀ other, after other ↔ member other ∨ other ∈ added) :
    Exactly (added ++ items) after := by
  constructor
  · rw [List.nodup_append]
    refine ⟨unique, exact'.nodup, ?_⟩
    rintro other isAdded _ present rfl
    rw [exact'.mem_iff] at present
    exact absent other isAdded present
  · intro other
    rw [List.mem_append, exact'.mem_iff, grown, or_comm]

/-- Take the first item away. -/
theorem pop
    (exact' : Exactly (item :: items) member)
    (shrunk : ∀ other, after other ↔ member other ∧ other ≠ item) :
    Exactly items after := by
  have unique := List.nodup_cons.mp exact'.nodup
  refine ⟨unique.2, ?_⟩
  intro other
  rw [shrunk, ← exact'.mem_iff, List.mem_cons]
  constructor
  · intro present
    refine ⟨Or.inr present, ?_⟩
    rintro rfl
    exact unique.1 present
  · rintro ⟨same | present, different⟩
    · exact absurd same different
    · exact present

/-- Take one item away, wherever it stands. -/
theorem erase
    [DecidableEq α]
    (exact' : Exactly items member)
    (shrunk : ∀ other, after other ↔ member other ∧ other ≠ item) :
    Exactly (items.erase item) after := by
  refine ⟨exact'.nodup.erase item, ?_⟩
  intro other
  rw [exact'.nodup.mem_erase_iff, exact'.mem_iff, shrunk, and_comm]

/-- Take every copy of one item away. -/
theorem remove
    [DecidableEq α]
    (exact' : Exactly items member)
    (shrunk : ∀ other, after other ↔ member other ∧ other ≠ item) :
    Exactly (items.filter (· != item)) after := by
  refine ⟨exact'.nodup.filter _, ?_⟩
  intro other
  rw [List.mem_filter, exact'.mem_iff, shrunk]
  simp

theorem dropLast
    (exact' : Exactly items member)
    (last : items.getLast? = some item)
    (shrunk : ∀ other, after other ↔ member other ∧ other ≠ item) :
    Exactly items.dropLast after := by
  obtain ⟨front, rfl⟩ := List.getLast?_eq_some_iff.mp last
  have unique := exact'.nodup
  rw [List.nodup_append] at unique
  rw [List.dropLast_concat]
  refine ⟨unique.1, ?_⟩
  intro other
  rw [shrunk, ← exact'.mem_iff]
  simp only [List.mem_append, List.mem_singleton]
  constructor
  · intro present
    exact ⟨Or.inl present, unique.2.2 other present item (by simp)⟩
  · rintro ⟨present | same, different⟩
    · exact present
    · exact absurd same different

end Exactly

end Aeon
