import Mathlib.Logic.Basic

namespace Aeon

/-!
# Finite runs of a labelled step relation

The components of this development are step relations: a server thread that
pushes events, a registry that edits its slot maps, an engine that feeds tokens.
This module names nothing of them.  It fixes the one notion of a finite run used
throughout, the induction rule for invariants, and the split of a run at the
first step that breaks a side condition.
-/

/-- A finite run: the actions taken, in order, between two states. -/
inductive Run
    {State Action : Type}
    (step : State → Action → State → Prop) :
    State → List Action → State → Prop where
  | nil (state : State) :
      Run step state [] state
  | cons
      {first second last : State}
      {action : Action}
      {rest : List Action}
      (head : step first action second)
      (tail : Run step second rest last) :
      Run step first (action :: rest) last

/-- The steps of `step` whose source state and action meet `allowed`. -/
def Guarded
    {State Action : Type}
    (step : State → Action → State → Prop)
    (allowed : State → Action → Prop)
    (source : State)
    (action : Action)
    (target : State) : Prop :=
  allowed source action ∧ step source action target

namespace Run

variable {State Action : Type}
variable {step : State → Action → State → Prop}

/-- One step is a run. -/
theorem single
    {source target : State}
    {action : Action}
    (taken : step source action target) :
    Run step source [action] target :=
  .cons taken (.nil target)

/-- Runs compose. -/
theorem append
    {first second last : State}
    {leading trailing : List Action}
    (before : Run step first leading second)
    (after : Run step second trailing last) :
    Run step first (leading ++ trailing) last := by
  induction before with
  | nil =>
    exact after
  | cons head _ ih =>
    exact .cons head (ih after)

variable {first last : State}
variable {actions : List Action}

/-- What every step preserves, a run preserves. -/
theorem invariant
    (run : Run step first actions last)
    (Holds : State → Prop)
    (preserved :
      ∀ {source action target},
        Holds source →
        step source action target →
        Holds target)
    (initially : Holds first) :
    Holds last := by
  induction run with
  | nil =>
    exact initially
  | cons head _ ih =>
    exact ih (preserved initially head)

/-- A run stays one where more steps are allowed. -/
theorem mono
    {larger : State → Action → State → Prop}
    (included :
      ∀ {source action target},
        step source action target →
        larger source action target)
    (run : Run step first actions last) :
    Run larger first actions last := by
  induction run with
  | nil state =>
    exact .nil state
  | cons head _ ih =>
    exact .cons (included head) ih

/--
A run either meets the side condition at every step, or splits at the first step
that does not.
-/
theorem guarded_or_first_violation
    (allowed : State → Action → Prop)
    (run : Run step first actions last) :
    Run (Guarded step allowed) first actions last ∨
      ∃ leading action trailing source target,
        actions = leading ++ action :: trailing ∧
          Run (Guarded step allowed) first leading source ∧
          ¬ allowed source action ∧
          step source action target ∧
          Run step target trailing last := by
  induction run with
  | nil state =>
    exact Or.inl (.nil state)
  | @cons first second last action rest head tail ih =>
    by_cases permitted : allowed first action
    · rcases ih with guarded | violated
      · exact Or.inl (.cons ⟨permitted, head⟩ guarded)
      · obtain ⟨leading, broken, trailing, source, target,
          shape, before, refused, taken, after⟩ := violated
        refine Or.inr ⟨action :: leading, broken, trailing,
          source, target, ?_, ?_, refused, taken, after⟩
        · simp [shape]
        · exact .cons ⟨permitted, head⟩ before
    · exact Or.inr ⟨[], action, rest, first, second,
        rfl, .nil first, permitted, head, tail⟩

/-- A run of two lists of actions passes a state between them. -/
theorem split
    {leading trailing : List Action}
    (run : Run step first (leading ++ trailing) last) :
    ∃ middle,
      Run step first leading middle ∧ Run step middle trailing last := by
  induction leading generalizing first with
  | nil =>
    exact ⟨first, .nil first, run⟩
  | cons action rest ih =>
    cases run with
    | cons head tail =>
      obtain ⟨middle, before, after⟩ := ih tail
      exact ⟨middle, .cons head before, after⟩

/-- Where a step is a function, so is a run. -/
theorem deterministic
    {first one other : State}
    (run : Run step first actions one)
    (again : Run step first actions other)
    (functional :
      ∀ {source action one other},
        step source action one →
        step source action other →
        one = other) :
    one = other := by
  induction run with
  | nil state =>
    cases again
    rfl
  | cons head _ ih =>
    cases again with
    | cons otherHead otherTail =>
      obtain rfl := functional head otherHead
      exact ih otherTail

end Run

end Aeon
