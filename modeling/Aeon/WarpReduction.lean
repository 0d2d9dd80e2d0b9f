import Mathlib.Data.List.Basic
import Mathlib.Order.Defs.Unbundled

namespace Aeon.WarpReduction

/-!
# Reductions that pick the best value

A reduction whose step picks one of two values, never the worse one.  Whatever the
shape of the reduction, what it ends with is one of the values it began with and is
at least as good as all of them.  The shapes here are a loop and a butterfly over
the lanes of a warp.
-/

variable {Value : Type}

/-- `pick` returns one of its arguments, and one that is at least as good as both. -/
structure Picks
    (atLeast : Value → Value → Prop)
    (pick : Value → Value → Value) : Prop where
  refl : ∀ value, atLeast value value
  trans : ∀ one two three, atLeast one two → atLeast two three → atLeast one three
  one_of : ∀ one two, pick one two = one ∨ pick one two = two
  left : ∀ one two, atLeast (pick one two) one
  right : ∀ one two, atLeast (pick one two) two

section Loop

variable {atLeast : Value → Value → Prop} {pick : Value → Value → Value}

/-- What a loop ends with is what it began with or one of the values it saw. -/
theorem Picks.foldl_mem
    (picks : Picks atLeast pick)
    (start : Value)
    (values : List Value) :
    values.foldl pick start ∈ start :: values := by
  induction values generalizing start with
  | nil => exact List.mem_singleton_self _
  | cons first rest ih =>
    rw [List.foldl_cons]
    rcases List.mem_cons.mp (ih (pick start first)) with same | later
    · rw [same]
      rcases picks.one_of start first with kept | replaced
      · rw [kept]
        exact List.mem_cons_self
      · rw [replaced]
        exact List.mem_cons_of_mem _ List.mem_cons_self
    · exact List.mem_cons_of_mem _ (List.mem_cons_of_mem _ later)

/-- What a loop ends with is at least as good as all it saw. -/
theorem Picks.foldl_atLeast
    (picks : Picks atLeast pick)
    (start : Value)
    (values : List Value) :
    ∀ value ∈ start :: values, atLeast (values.foldl pick start) value := by
  induction values generalizing start with
  | nil =>
    intro value listed
    rw [List.mem_singleton.mp listed]
    exact picks.refl start
  | cons first rest ih =>
    intro value listed
    have later := ih (pick start first)
    have head := later _ List.mem_cons_self
    rcases List.mem_cons.mp listed with rfl | listed
    · exact picks.trans _ _ _ head (picks.left _ _)
    · rcases List.mem_cons.mp listed with rfl | listed
      · exact picks.trans _ _ _ head (picks.right _ _)
      · exact later value (List.mem_cons_of_mem _ listed)

end Loop

/-- One exchange of a warp: every lane picks from its value and another lane's. -/
def exchange
    (pick : Value → Value → Value)
    (lanes : Nat → Value)
    (offset : Nat) : Nat → Value :=
  fun lane => pick (lanes lane) (lanes (lane ^^^ offset))

/-- The exchanges over a list of offsets. -/
def butterfly
    (pick : Value → Value → Value)
    (offsets : List Nat)
    (lanes : Nat → Value) : Nat → Value :=
  offsets.foldl (exchange pick) lanes

/-- The lanes a lane hears of. -/
def heard : List Nat → Nat → List Nat
  | [], lane => [lane]
  | offset :: rest, lane =>
    (heard rest lane) ++ (heard rest lane).map (· ^^^ offset)

/-- A lane's result depends on the lanes it hears of only. -/
theorem butterfly_congr
    {pick : Value → Value → Value}
    {offsets : List Nat}
    {lanes others : Nat → Value}
    {lane : Nat}
    (same : ∀ source ∈ heard offsets lane, lanes source = others source) :
    butterfly pick offsets lanes lane = butterfly pick offsets others lane := by
  induction offsets generalizing lanes others with
  | nil => exact same lane (List.mem_singleton_self _)
  | cons offset rest ih =>
    rw [butterfly, butterfly, List.foldl_cons, List.foldl_cons]
    refine ih fun source listed => ?_
    rw [exchange, exchange, same source (List.mem_append_left _ listed),
      same (source ^^^ offset) (List.mem_append_right _ (List.mem_map_of_mem listed))]

section Butterfly

variable {atLeast : Value → Value → Prop} {pick : Value → Value → Value}

theorem Picks.butterfly_mem
    (picks : Picks atLeast pick)
    (offsets : List Nat)
    (lanes : Nat → Value)
    (lane : Nat) :
    ∃ source ∈ heard offsets lane, butterfly pick offsets lanes lane = lanes source := by
  induction offsets generalizing lanes with
  | nil => exact ⟨lane, List.mem_singleton_self _, rfl⟩
  | cons offset rest ih =>
    obtain ⟨source, listed, same⟩ := ih (exchange pick lanes offset)
    rw [butterfly, List.foldl_cons, ← butterfly, same]
    rcases picks.one_of (lanes source) (lanes (source ^^^ offset)) with kept | taken
    · exact ⟨source, List.mem_append_left _ listed, kept⟩
    · exact ⟨source ^^^ offset,
        List.mem_append_right _ (List.mem_map_of_mem listed), taken⟩

theorem Picks.butterfly_atLeast
    (picks : Picks atLeast pick)
    (offsets : List Nat)
    (lanes : Nat → Value)
    (lane : Nat) :
    ∀ source ∈ heard offsets lane,
      atLeast (butterfly pick offsets lanes lane) (lanes source) := by
  induction offsets generalizing lanes with
  | nil =>
    intro source listed
    rw [List.mem_singleton.mp listed]
    exact picks.refl _
  | cons offset rest ih =>
    intro source listed
    rw [butterfly, List.foldl_cons, ← butterfly]
    have later := ih (exchange pick lanes offset)
    rcases List.mem_append.mp listed with own | other
    · exact picks.trans _ _ _ (later source own) (picks.left _ _)
    · obtain ⟨partner, heardOf, rfl⟩ := List.mem_map.mp other
      exact picks.trans _ _ _ (later partner heardOf) (picks.right _ _)

end Butterfly

end Aeon.WarpReduction
