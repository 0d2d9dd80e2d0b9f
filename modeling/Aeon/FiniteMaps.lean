import Mathlib.Data.Finmap
import Mathlib.Data.Finset.Sort

namespace Aeon.FiniteMaps

/-!
# Finite maps written out in the order of their keys

A hash map that is saved is copied into a list, sorted by the keys, and loaded by
inserting the entries again.  This module names nothing of the program.
-/

variable {Key Value : Type}
variable [DecidableEq Key]

/-- A finite map whose values have one type. -/
abbrev Map (Key Value : Type) := Finmap fun _ : Key => Value

/-- The map that inserting the entries makes. -/
def ofEntries (entries : List (Key × Value)) : Map Key Value :=
  entries.foldl (fun map entry => map.insert entry.1 entry.2) ∅

section Sorted

variable [LE Key] [DecidableLE Key]
variable [IsTrans Key (· ≤ ·)] [Std.Antisymm (α := Key) (· ≤ ·)]
variable [Std.Total (α := Key) (· ≤ ·)]

/-- The entries, sorted by their keys. -/
def sortedEntries (map : Map Key Value) : List (Key × Value) :=
  (map.keys.sort (· ≤ ·)).filterMap fun key => (map.lookup key).map fun value => (key, value)

end Sorted

/-! ## Loading what was saved -/

/-- Entries with distinct keys are found as they were inserted. -/
theorem lookup_foldl_insert
    (entries : List (Key × Value))
    (map : Map Key Value)
    (distinct : (entries.map Prod.fst).Nodup)
    (key : Key) :
    (entries.foldl (fun map entry => map.insert entry.1 entry.2) map).lookup key =
      ((entries.find? fun entry => entry.1 = key).map Prod.snd).or (map.lookup key) := by
  induction entries generalizing map with
  | nil => rfl
  | cons entry entries ih =>
    rw [List.map_cons, List.nodup_cons] at distinct
    rw [List.foldl_cons, ih _ distinct.2]
    by_cases same : entry.1 = key
    · subst same
      have absent : entries.find? (fun other => other.1 = entry.1) = none := by
        rw [List.find?_eq_none]
        intro other listed
        rw [decide_eq_true_eq]
        exact fun equal => distinct.1 (List.mem_map.mpr ⟨other, listed, equal⟩)
      rw [absent, List.find?_cons_of_pos (by simp), Finmap.lookup_insert]
      rfl
    · rw [List.find?_cons_of_neg (by simpa using same),
        Finmap.lookup_insert_of_ne _ (Ne.symm same)]

section Sorted

variable [LE Key] [DecidableLE Key]
variable [IsTrans Key (· ≤ ·)] [Std.Antisymm (α := Key) (· ≤ ·)]
variable [Std.Total (α := Key) (· ≤ ·)]

theorem sortedEntries_keys
    (map : Map Key Value) :
    (sortedEntries map).map Prod.fst = map.keys.sort (· ≤ ·) := by
  have present : ∀ key ∈ map.keys.sort (· ≤ ·), ∃ value, map.lookup key = some value := by
    intro key listed
    rw [Finset.mem_sort, Finmap.mem_keys, Finmap.mem_iff] at listed
    exact listed
  rw [sortedEntries]
  generalize map.keys.sort (· ≤ ·) = keys at present ⊢
  induction keys with
  | nil => rfl
  | cons key keys ih =>
    rw [List.forall_mem_cons] at present
    obtain ⟨value, found⟩ := present.1
    rw [List.filterMap_cons, found]
    exact congrArg (key :: ·) (ih present.2)

theorem sortedEntries_length
    (map : Map Key Value) :
    (sortedEntries map).length = map.keys.card := by
  rw [← List.length_map Prod.fst, sortedEntries_keys, Finset.length_sort]

/-- The sorted entries are those of the map. -/
theorem mem_sortedEntries
    {map : Map Key Value}
    {entry : Key × Value} :
    entry ∈ sortedEntries map ↔ map.lookup entry.1 = some entry.2 := by
  obtain ⟨key, value⟩ := entry
  rw [sortedEntries, List.mem_filterMap]
  constructor
  · rintro ⟨other, -, found⟩
    rw [Option.map_eq_some_iff] at found
    obtain ⟨_, found, same⟩ := found
    cases same
    exact found
  · intro found
    refine ⟨key, ?_, by rw [found]; rfl⟩
    rw [Finset.mem_sort, Finmap.mem_keys]
    exact Finmap.mem_of_lookup_eq_some found

/-- And the map is made of them. -/
theorem ofEntries_sortedEntries
    (map : Map Key Value) :
    ofEntries (sortedEntries map) = map := by
  have distinct : ((sortedEntries map).map Prod.fst).Nodup := by
    rw [sortedEntries_keys]
    exact Finset.sort_nodup _ _
  refine Finmap.ext_lookup fun key => ?_
  rw [ofEntries, lookup_foldl_insert _ _ distinct, Finmap.lookup_empty, Option.or_none]
  cases found : map.lookup key with
  | none =>
    rw [List.find?_eq_none.mpr, Option.map_none]
    intro entry listed
    rw [decide_eq_true_eq]
    rintro rfl
    rw [mem_sortedEntries, found] at listed
    cases listed
  | some value =>
    cases search : (sortedEntries map).find? fun entry => entry.1 = key with
    | none =>
      rw [List.find?_eq_none] at search
      exact absurd (decide_eq_true rfl) (search (key, value) (mem_sortedEntries.mpr found))
    | some entry =>
      have same : entry.1 = key := by
        simpa using List.find?_some search
      have listed := mem_sortedEntries.mp (List.mem_of_find?_eq_some search)
      rw [same, found, Option.some.injEq] at listed
      rw [Option.map_some, listed]

end Sorted

end Aeon.FiniteMaps
