import Aeon.Bytes
import Mathlib.Data.List.Infix

namespace Aeon.Bytes

/-!
# What stands behind a marker

A reader that searches a text for a marker goes on behind the first occurrence.  The
rules here pass over a front that holds no occurrence.  Whether one starts inside a
front can be decided from the front alone where each of its bytes differs from the
marker before the front ends.  This module names nothing of the program.
-/

/-- The text behind the first occurrence of `needle`. -/
def behind (needle : Bytes) : Bytes → Option Bytes
  | [] => if needle.isEmpty then some [] else none
  | byte :: text =>
    if needle.isPrefixOf (byte :: text) then
      some ((byte :: text).drop needle.length)
    else
      behind needle text

/-- A search that goes on behind what it found. -/
theorem find_behind
    (needle text : Bytes) :
    (find needle text).map (fun place => text.drop (place + needle.length)) =
      behind needle text := by
  induction text with
  | nil =>
    rw [find, behind]
    split
    · simp
    · rfl
  | cons byte text ih =>
    rw [find, behind]
    split
    · simp
    · rw [Option.map_map, ← ih]
      congr 1
      funext place
      simp [Nat.add_right_comm place 1]

theorem behind_of_prefix
    {needle : Bytes}
    (nonempty : needle ≠ [])
    (text : Bytes) :
    behind needle (needle ++ text) = some text := by
  cases needle with
  | nil => exact absurd rfl nonempty
  | cons byte rest =>
    have occurs : (byte :: rest).isPrefixOf (byte :: (rest ++ text)) = true :=
      List.isPrefixOf_iff_prefix.mpr ⟨text, rfl⟩
    rw [List.cons_append, behind, if_pos occurs, List.length_cons,
      List.drop_succ_cons, List.drop_left]

theorem behind_cons
    {needle text : Bytes}
    {byte : UInt8}
    (absent : ¬ needle <+: byte :: text) :
    behind needle (byte :: text) = behind needle text := by
  rw [behind, if_neg fun occurs => absent (List.isPrefixOf_iff_prefix.mp occurs)]

/-! ## Fronts that decide it -/

/-- The texts differ at a place that both have. -/
def clashes : Bytes → Bytes → Bool
  | first :: needle, other :: text => first != other || clashes needle text
  | _, _ => false

theorem not_prefix_of_clashes
    {needle front : Bytes}
    (clash : clashes needle front = true)
    (text : Bytes) :
    ¬ needle <+: front ++ text := by
  induction needle generalizing front with
  | nil => cases front <;> simp [clashes] at clash
  | cons first needle ih =>
    cases front with
    | nil => simp [clashes] at clash
    | cons other front =>
      rw [clashes, Bool.or_eq_true, bne_iff_ne] at clash
      rw [List.cons_append, List.cons_prefix_cons]
      rintro ⟨same, rest⟩
      rcases clash with differs | clash
      · exact differs same
      · exact ih clash rest

/-- Every place of the front differs from the marker before the front ends. -/
def clear
    (needle : Bytes) : Bytes → Bool
  | [] => true
  | byte :: front => clashes needle (byte :: front) && clear needle front

theorem behind_clear
    {needle front : Bytes}
    (passed : clear needle front = true)
    (text : Bytes) :
    behind needle (front ++ text) = behind needle text := by
  induction front with
  | nil => rfl
  | cons byte front ih =>
    rw [clear, Bool.and_eq_true] at passed
    have absent : ¬ needle <+: byte :: (front ++ text) :=
      not_prefix_of_clashes passed.1 text
    rw [List.cons_append, behind_cons absent, ih passed.2]

theorem behind_append_of_notMem
    {first : UInt8}
    {needle front : Bytes}
    (lacking : first ∉ front)
    (text : Bytes) :
    behind (first :: needle) (front ++ text) = behind (first :: needle) text := by
  induction front with
  | nil => rfl
  | cons byte front ih =>
    rw [List.mem_cons, not_or] at lacking
    rw [List.cons_append, behind_cons, ih lacking.2]
    rw [List.cons_prefix_cons]
    exact fun occurs => lacking.1 occurs.1

end Aeon.Bytes
