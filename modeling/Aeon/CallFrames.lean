import Aeon.ThrowingCall

namespace Aeon.Call

/-!
# What a call leaves alone

A call keeps a view of its object when the view is the same before and after,
whether the call returned or threw and whatever it was answered.  This module
names nothing of the program: it gives one rule for each way of combining calls.
-/

variable {Answer State Part Error Value Next Item View : Type}

/-- Whatever it is answered and however it ends, the call keeps the view. -/
def Keeps
    (view : State → View)
    (call : Call Answer State Error Value) : Prop :=
  ∀ state answers, view (call state answers).2.1 = view state

namespace Keeps

variable {view : State → View}

/-- A call that leaves the state alone keeps every view of it. -/
theorem leaves
    {call : Call Answer State Error Value}
    (callLeaves : Leaves call) :
    Keeps view call :=
  fun state answers => congrArg view (callLeaves state answers)

theorem ret
    (value : Value) :
    Keeps view (Call.ret value : Call Answer State Error Value) :=
  leaves (Leaves.ret value)

theorem throwing
    (error : Error) :
    Keeps view (Call.throwing error : Call Answer State Error Value) :=
  leaves (Leaves.throwing error)

theorem check
    (condition : Bool)
    (error : Error) :
    Keeps view (Call.check condition error : Call Answer State Error Unit) :=
  leaves (Leaves.check condition error)

theorem read :
    Keeps view (Call.read : Call Answer State Error State) :=
  leaves Leaves.read

theorem ask
    (exhausted : Answer) :
    Keeps view (Call.ask exhausted : Call Answer State Error Answer) :=
  leaves (Leaves.ask exhausted)

/-- A write keeps the views it does not change. -/
theorem write
    {change : State → State}
    (same : ∀ state, view (change state) = view state) :
    Keeps view (Call.write change : Call Answer State Error Unit) :=
  fun state _ => same state

/-- What both halves keep, the sequence keeps, also where the first one throws. -/
theorem andThen
    {first : Call Answer State Error Value}
    {next : Value → Call Answer State Error Next}
    (firstKeeps : Keeps view first)
    (nextKeeps : ∀ value, Keeps view (next value)) :
    Keeps view (first >>= next) := by
  intro state answers
  have kept := firstKeeps state answers
  change view (Call.andThen first next state answers).2.1 = view state
  unfold Call.andThen
  generalize first state answers = outcome at kept ⊢
  rcases outcome with ⟨error | value, after, rest⟩
  · exact kept
  · exact (nextKeeps value after rest).trans kept

theorem branch
    {condition : Prop}
    [Decidable condition]
    {yes no : Call Answer State Error Value}
    (yesKeeps : Keeps view yes)
    (noKeeps : Keeps view no) :
    Keeps view (if condition then yes else no) := by
  split
  · exact yesKeeps
  · exact noKeeps

/-- A handler has to keep the view from where the body threw. -/
theorem catching
    {body : Call Answer State Error Value}
    {handler : Error → Call Answer State Error Value}
    (bodyKeeps : Keeps view body)
    (handlerKeeps : ∀ error, Keeps view (handler error)) :
    Keeps view (Call.catching body handler) := by
  intro state answers
  have kept := bodyKeeps state answers
  unfold Call.catching
  generalize body state answers = outcome at kept ⊢
  rcases outcome with ⟨error | value, after, rest⟩
  · exact (handlerKeeps error after rest).trans kept
  · exact kept

/-- A loop keeps what each round of it keeps. -/
theorem forEach
    {step : Item → Call Answer State Error Unit}
    (stepKeeps : ∀ item, Keeps view (step item))
    (items : List Item) :
    Keeps view (Call.forEach step items) := by
  induction items with
  | nil => exact ret ()
  | cons item items ih =>
    exact andThen (stepKeeps item) fun _ => ih

/-- A call on one half of a pair keeps the views of that half. -/
theorem onFirst
    {call : Call Answer State Error Value}
    (callKeeps : Keeps view call) :
    Keeps (fun pair : State × Part => view pair.1) (Call.onFirst call) :=
  fun pair answers => callKeeps pair.1 answers

/-- And a call on one part of a list those of what the parts share. -/
theorem onPart
    {index : Nat}
    {call : Call Answer (State × Part) Error Unit}
    (callKeeps : Keeps (fun pair : State × Part => view pair.1) call) :
    Keeps (fun pair : State × List Part => view pair.1)
      (Call.onPart index call) := by
  rintro ⟨state, parts⟩ answers
  unfold Call.onPart
  cases present : parts[index]? with
  | none => simp only [present]
  | some part =>
    have kept := callKeeps (state, part) answers
    simp only [present]
    exact kept

end Keeps

end Aeon.Call
