import Mathlib.Data.List.Nodup
import Mathlib.Data.List.Infix

namespace Aeon

/-!
# Rankings under move-to-front

A recency list whose items are moved to its front one after another.  The module
names no component: it says what such a list looks like after any sequence of
moves, and exactly when the moves leave it as it was.
-/

variable {α : Type} [DecidableEq α]

/-- Move one item to the front of a ranking. -/
def moveToFront
    (ranking : List α)
    (item : α) : List α :=
  item :: ranking.erase item

/-- Move several items to the front, one after another. -/
def moveAllToFront
    (ranking moved : List α) : List α :=
  moved.foldl moveToFront ranking

/-- The distinct items of a sequence, the one that came last first. -/
def recency (moved : List α) : List α :=
  moveAllToFront [] moved

variable {ranking moved : List α} {item : α}

@[simp] theorem moveAllToFront_nil :
    moveAllToFront ranking [] = ranking :=
  rfl

theorem moveAllToFront_concat :
    moveAllToFront ranking (moved ++ [item]) =
      item :: (moveAllToFront ranking moved).erase item := by
  simp [moveAllToFront, moveToFront]

theorem moveToFront_nodup
    (unique : ranking.Nodup) :
    (moveToFront ranking item).Nodup := by
  unfold moveToFront
  rw [List.nodup_cons]
  exact ⟨unique.not_mem_erase, unique.erase item⟩

theorem moveAllToFront_nodup
    (unique : ranking.Nodup) :
    (moveAllToFront ranking moved).Nodup := by
  induction moved generalizing ranking with
  | nil => exact unique
  | cons item rest step => exact step (moveToFront_nodup unique)

theorem mem_moveAllToFront
    (unique : ranking.Nodup) :
    item ∈ moveAllToFront ranking moved ↔ item ∈ ranking ∨ item ∈ moved := by
  induction moved generalizing ranking with
  | nil => simp
  | cons first rest step =>
    have after : moveAllToFront ranking (first :: rest) =
        moveAllToFront (moveToFront ranking first) rest := rfl
    rw [after, step (moveToFront_nodup unique)]
    simp only [moveToFront, List.mem_cons, unique.mem_erase_iff]
    by_cases same : item = first <;> simp [same]

theorem mem_recency :
    item ∈ recency moved ↔ item ∈ moved := by
  unfold recency
  rw [mem_moveAllToFront List.nodup_nil]
  simp

/-- The moved items come first, the others keep their order behind them. -/
theorem moveAllToFront_eq
    (unique : ranking.Nodup) :
    moveAllToFront ranking moved =
      recency moved ++ ranking.filter fun other => decide (other ∉ moved) := by
  induction moved using List.reverseRecOn with
  | nil => simp [recency]
  | append_singleton moved item step =>
    have uniqueAfter : (moveAllToFront ranking moved).Nodup :=
      moveAllToFront_nodup unique
    have uniqueRecent : (moveAllToFront [] moved).Nodup :=
      moveAllToFront_nodup List.nodup_nil
    unfold recency at step ⊢
    rw [moveAllToFront_concat, moveAllToFront_concat, List.cons_append]
    congr 1
    rw [uniqueAfter.erase_eq_filter, uniqueRecent.erase_eq_filter, step,
      List.filter_append, List.filter_filter]
    congr 1
    apply List.filter_congr
    intro other _
    by_cases same : other = item <;> simp [same]

/--
Moves of ranked items leave a ranking as it was exactly when the moved items, the
last one first, already were its head.
-/
theorem moveAllToFront_eq_self_iff
    (unique : ranking.Nodup) :
    moveAllToFront ranking moved = ranking ↔ recency moved <+: ranking := by
  rw [moveAllToFront_eq unique]
  constructor
  · intro same
    exact ⟨_, same⟩
  · rintro ⟨rest, rfl⟩
    rw [List.nodup_append] at unique
    rw [List.filter_append]
    have headGone :
        (recency moved).filter (fun other => decide (other ∉ moved)) = [] := by
      rw [List.filter_eq_nil_iff]
      intro other present
      simp [mem_recency.mp present]
    have restStays :
        rest.filter (fun other => decide (other ∉ moved)) = rest := by
      rw [List.filter_eq_self]
      intro other present
      rw [decide_eq_true_eq]
      intro isMoved
      exact unique.2.2 other (mem_recency.mpr isMoved) other present rfl
    rw [headGone, restStays, List.nil_append]

theorem filter_hide
    {hidden after : α → Bool}
    (unique : ranking.Nodup)
    (hides : ∀ other, after other = (hidden other || decide (other = item))) :
    ranking.filter (fun other => !after other) =
      (ranking.filter fun other => !hidden other).erase item := by
  rw [(unique.filter _).erase_eq_filter, List.filter_filter]
  apply List.filter_congr
  intro other _
  rw [hides]
  by_cases same : other = item <;> simp [same]

theorem filter_return
    {hidden after : α → Bool}
    (unique : ranking.Nodup)
    (wasHidden : hidden item = true)
    (returns : ∀ other, after other = (hidden other && decide (other ≠ item))) :
    (item :: ranking.erase item).filter (fun other => !after other) =
      item :: ranking.filter fun other => !hidden other := by
  have back : after item = false := by
    rw [returns]
    simp
  rw [List.filter_cons_of_pos (by simp [back]), unique.erase_eq_filter,
    List.filter_filter]
  congr 1
  apply List.filter_congr
  intro other _
  rw [returns]
  by_cases same : other = item <;> simp [same, wasHidden]

end Aeon
