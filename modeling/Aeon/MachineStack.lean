import Mathlib.Data.List.Basic

namespace Aeon.MachineStack

/-!
# Stacks of machines

A stack of machines, each with a state of its own, turns a stream of values into a
stream of values: what one machine returns is what the next one reads.  The stream
may pass the whole stack value by value, or the machines may take the whole stream
one after the other.  Both end in the same states and produce the same values.
-/

variable {Machine State Value : Type} (step : Machine → State → Value → State × Value)

/-- One machine on a stream. -/
def runOn
    (machine : Machine) : State → List Value → State × List Value
  | state, [] => (state, [])
  | state, value :: rest =>
    let next := step machine state value
    let last := runOn machine next.1 rest
    (last.1, next.2 :: last.2)

/-- One value through a stack: the stack and what each machine returned. -/
def through :
    List (Machine × State) → Value → List (Machine × State) × List Value
  | [], _ => ([], [])
  | (machine, state) :: rest, value =>
    let next := step machine state value
    let later := through rest next.2
    ((machine, next.1) :: later.1, next.2 :: later.2)

/-- A stream through a stack, value by value. -/
def byValue :
    List (Machine × State) → List Value → List (Machine × State) × List (List Value)
  | stack, [] => (stack, [])
  | stack, value :: rest =>
    let next := through step stack value
    let last := byValue next.1 rest
    (last.1, next.2 :: last.2)

/-- A stream through a stack, machine by machine. -/
def byMachine :
    List (Machine × State) → List Value → List (Machine × State) × List (List Value)
  | [], _ => ([], [])
  | (machine, state) :: rest, values =>
    let run := runOn step machine state values
    let later := byMachine rest run.2
    ((machine, run.1) :: later.1, run.2 :: later.2)

variable {step}

theorem runOn_append
    (machine : Machine)
    (state : State)
    (front back : List Value) :
    runOn step machine state (front ++ back) =
      ((runOn step machine (runOn step machine state front).1 back).1,
        (runOn step machine state front).2 ++
          (runOn step machine (runOn step machine state front).1 back).2) := by
  induction front generalizing state with
  | nil => rfl
  | cons value rest ih =>
    rw [List.cons_append, runOn, ih]
    rfl

/-- The first machine takes the whole stream before the rest of the stack does. -/
theorem byValue_cons
    (machine : Machine)
    (state : State)
    (stack : List (Machine × State))
    (values : List Value) :
    byValue step ((machine, state) :: stack) values =
      ((machine, (runOn step machine state values).1) ::
          (byValue step stack (runOn step machine state values).2).1,
        List.zipWith List.cons (runOn step machine state values).2
          (byValue step stack (runOn step machine state values).2).2) := by
  induction values generalizing state stack with
  | nil => rfl
  | cons value rest ih =>
    rw [byValue, through]
    simp only [ih]
    rfl

theorem byValue_nil
    (values : List Value) :
    byValue step ([] : List (Machine × State)) values =
      ([], List.replicate values.length []) := by
  induction values with
  | nil => rfl
  | cons value rest ih =>
    simp only [byValue, through, ih, List.length_cons,
      List.replicate_succ]

theorem byValue_length
    (stack : List (Machine × State))
    (values : List Value) :
    (byValue step stack values).2.length = values.length := by
  induction values generalizing stack with
  | nil => rfl
  | cons value rest ih =>
    simp only [byValue, List.length_cons, ih]

/-- The two orders end in the same states. -/
theorem byMachine_states
    (stack : List (Machine × State))
    (values : List Value) :
    (byMachine step stack values).1 = (byValue step stack values).1 := by
  induction stack generalizing values with
  | nil => rw [byValue_nil, byMachine]
  | cons first rest ih =>
    obtain ⟨machine, state⟩ := first
    rw [byValue_cons, byMachine, ih]

/-- The two orders produce the same values. -/
theorem byMachine_values
    (stack : List (Machine × State))
    (values : List Value)
    (level index : Nat) :
    ((byMachine step stack values).2[level]?.bind fun outputs => outputs[index]?) =
      (byValue step stack values).2[index]?.bind fun outputs => outputs[level]? := by
  induction stack generalizing values level with
  | nil =>
    rw [byValue_nil, byMachine, List.getElem?_nil, Option.bind_none,
      List.getElem?_replicate]
    split <;> rfl
  | cons first rest ih =>
    obtain ⟨machine, state⟩ := first
    rw [byValue_cons, byMachine, List.getElem?_zipWith]
    have lengths := @byValue_length _ _ _ step rest
      (runOn step machine state values).2
    cases level with
    | zero =>
      rw [List.getElem?_cons_zero, Option.bind_some]
      by_cases inside : index < (runOn step machine state values).2.length
      · rw [List.getElem?_eq_getElem inside,
          List.getElem?_eq_getElem (lengths.symm ▸ inside)]
        rfl
      · rw [List.getElem?_eq_none (Nat.le_of_not_lt inside)]
        rfl
    | succ level =>
      rw [List.getElem?_cons_succ, ih]
      by_cases inside : index < (runOn step machine state values).2.length
      · rw [List.getElem?_eq_getElem inside,
          List.getElem?_eq_getElem (lengths.symm ▸ inside)]
        rfl
      · rw [List.getElem?_eq_none (Nat.le_of_not_lt inside),
          List.getElem?_eq_none (lengths ▸ Nat.le_of_not_lt inside)]
        rfl

end Aeon.MachineStack
