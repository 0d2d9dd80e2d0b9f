import Mathlib.Logic.Basic

namespace Aeon

/-!
# Calls that throw

A method of a C++ object returns or throws, and either way leaves the object as
its writes so far have made it.  What it cannot decide for itself (whether an
event has fired, whether a submission is taken, which read completes next) it
asks its surroundings, which answer as they like.  A call is modelled by a
function of the object and of the answers still to come.  This module names
nothing of the program.  It gives the calls their sequencing, and one rule of pre-
and postconditions for each way of combining them.
-/

/-- A call on an object of type `State`, with answers of type `Answer`. -/
def Call (Answer State Error Value : Type) :=
  State → List Answer → Except Error Value × State × List Answer

namespace Call

variable {Answer State Part Error Value Next Item : Type}

/-- Return a value. -/
def ret (value : Value) : Call Answer State Error Value :=
  fun state answers => (.ok value, state, answers)

/-- Run one call after another; a throw of the first is the throw of both. -/
def andThen
    (first : Call Answer State Error Value)
    (next : Value → Call Answer State Error Next) :
    Call Answer State Error Next :=
  fun state answers =>
    match first state answers with
    | (.error error, after, rest) => (.error error, after, rest)
    | (.ok value, after, rest) => next value after rest

instance : Monad (Call Answer State Error) where
  pure := ret
  bind := andThen

/-- Read the object. -/
def read : Call Answer State Error State :=
  fun state answers => (.ok state, state, answers)

/-- Write the object. -/
def write (change : State → State) : Call Answer State Error Unit :=
  fun state answers => (.ok (), change state, answers)

/-- Throw. -/
def throwing (error : Error) : Call Answer State Error Value :=
  fun state answers => (.error error, state, answers)

/-- Throw unless the condition holds. -/
def check
    (condition : Bool)
    (error : Error) : Call Answer State Error Unit :=
  if condition then ret () else throwing error

/-- The next answer, or `exhausted` when none is left. -/
def ask (exhausted : Answer) : Call Answer State Error Answer :=
  fun state answers =>
    (.ok (answers.headD exhausted), state, answers.tail)

/-- Run `handler` on what `body` throws, in the state `body` left. -/
def catching
    (body : Call Answer State Error Value)
    (handler : Error → Call Answer State Error Value) :
    Call Answer State Error Value :=
  fun state answers =>
    match body state answers with
    | (.error error, after, rest) => handler error after rest
    | (.ok value, after, rest) => (.ok value, after, rest)

/-- A call on the first of two objects. -/
def onFirst
    (call : Call Answer State Error Value) :
    Call Answer (State × Part) Error Value :=
  fun pair answers =>
    let finished := call pair.1 answers
    (finished.1, (finished.2.1, pair.2), finished.2.2)

/-- One call for each item of a list, in order. -/
def forEach
    (step : Item → Call Answer State Error Unit) :
    List Item → Call Answer State Error Unit
  | [] => ret ()
  | item :: items => andThen (step item) fun _ => forEach step items

/--
One call for each part of a list, on the object and that part.  A throw stops the
loop and keeps the parts as they are by then.
-/
def overParts
    (step : Call Answer (State × Part) Error Unit) :
    List Part → State → List Answer →
      Except Error Unit × (State × List Part) × List Answer
  | [], state, answers => (.ok (), (state, []), answers)
  | part :: parts, state, answers =>
    match step (state, part) answers with
    | (.error error, (after, changed), rest) =>
      (.error error, (after, changed :: parts), rest)
    | (.ok (), (after, changed), rest) =>
      match overParts step parts after rest with
      | (outcome, (last, others), left) =>
        (outcome, (last, changed :: others), left)

/-- The loop as a call on the object and its list of parts. -/
def eachPart
    (step : Call Answer (State × Part) Error Unit) :
    Call Answer (State × List Part) Error Unit :=
  fun (state, parts) answers => overParts step parts state answers

/-- A call on one part of a list; there is nothing to do for a missing part. -/
def onPart
    (index : Nat)
    (call : Call Answer (State × Part) Error Unit) :
    Call Answer (State × List Part) Error Unit :=
  fun (state, parts) answers =>
    match parts[index]? with
    | none => (.ok (), (state, parts), answers)
    | some part =>
      match call (state, part) answers with
      | (outcome, (after, changed), rest) =>
        (outcome, (after, parts.set index changed), rest)

/-- A loop that asks at least once a turn: it has a turn for every answer. -/
def whileAnswered
    (loop : Nat → Call Answer State Error Value) :
    Call Answer State Error Value :=
  fun state answers => loop (answers.length + 1) state answers

/-! ## Running a call -/

section Apply

variable
    (state : State)
    (answers : List Answer)

theorem bind_apply
    (first : Call Answer State Error Value)
    (next : Value → Call Answer State Error Next) :
    (first >>= next) state answers =
      match first state answers with
      | (.error error, after, rest) => (.error error, after, rest)
      | (.ok value, after, rest) => next value after rest :=
  rfl

theorem ret_apply
    (value : Value) :
    (ret value : Call Answer State Error Value) state answers =
      (.ok value, state, answers) :=
  rfl

theorem read_apply :
    (read : Call Answer State Error State) state answers =
      (.ok state, state, answers) :=
  rfl

theorem write_apply
    (change : State → State) :
    (write change : Call Answer State Error Unit) state answers =
      (.ok (), change state, answers) :=
  rfl

theorem ask_apply
    (exhausted : Answer) :
    (ask exhausted : Call Answer State Error Answer) state answers =
      (.ok (answers.headD exhausted), state, answers.tail) :=
  rfl

theorem onFirst_apply
    (call : Call Answer State Error Value)
    (part : Part) :
    onFirst call (state, part) answers =
      ((call state answers).1, ((call state answers).2.1, part),
        (call state answers).2.2) :=
  rfl

theorem check_apply
    (condition : Bool)
    (error : Error) :
    (check condition error : Call Answer State Error Unit) state answers =
      if condition then (.ok (), state, answers)
      else (.error error, state, answers) := by
  cases condition <;> rfl

section

variable
    {state after : State}
    {answers rest : List Answer}

theorem bind_of_ok
    {value : Value}
    {first : Call Answer State Error Value}
    (returned : first state answers = (.ok value, after, rest))
    (next : Value → Call Answer State Error Next) :
    (first >>= next) state answers = next value after rest := by
  rw [bind_apply, returned]

theorem bind_of_error
    {error : Error}
    {first : Call Answer State Error Value}
    (threw : first state answers = (.error error, after, rest))
    (next : Value → Call Answer State Error Next) :
    (first >>= next) state answers = (.error error, after, rest) := by
  rw [bind_apply, threw]

end

end Apply

/-! ## Pre- and postconditions -/

/-- A call that asks, returns and throws, and never writes. -/
def Leaves (call : Call Answer State Error Value) : Prop :=
  ∀ state answers, (call state answers).2.1 = state

/-- In every state in which a loop starts on an item, `Meets` holds of both. -/
def Along
    (Meets : Item → State → List Answer → Prop)
    (step : Item → Call Answer State Error Unit) :
    List Item → State → List Answer → Prop
  | [], _, _ => True
  | item :: items, state, answers =>
    Meets item state answers ∧
      match step item state answers with
      | (.ok (), after, rest) => Along Meets step items after rest
      | (.error _, _, _) => True

/-- A condition on the turns of a loop is decided by running the loop. -/
instance decidableAlong
    {Meets : Item → State → List Answer → Prop}
    [∀ item state answers, Decidable (Meets item state answers)]
    {step : Item → Call Answer State Error Unit} :
    ∀ items state answers, Decidable (Along Meets step items state answers)
  | [], _, _ => .isTrue trivial
  | item :: items, state, answers =>
    have : Decidable
        (match step item state answers with
        | (.ok (), after, rest) => Along Meets step items after rest
        | (.error _, _, _) => True) :=
      match step item state answers with
      | (.ok (), after, rest) => decidableAlong items after rest
      | (.error _, _, _) => .isTrue trivial
    inferInstanceAs (Decidable (_ ∧ _))

/-- Two conditions that hold along a loop hold along it together. -/
theorem Along.and
    {Meets Also : Item → State → List Answer → Prop}
    {step : Item → Call Answer State Error Unit}
    {items : List Item}
    {state : State}
    {answers : List Answer}
    (first : Along Meets step items state answers)
    (second : Along Also step items state answers) :
    Along
      (fun item state answers =>
        Meets item state answers ∧ Also item state answers)
      step items state answers := by
  induction items generalizing state answers with
  | nil => trivial
  | cons item items ih =>
    obtain ⟨meets, later⟩ := first
    obtain ⟨also, alsoLater⟩ := second
    refine ⟨⟨meets, also⟩, ?_⟩
    generalize step item state answers = outcome at later alsoLater ⊢
    rcases outcome with ⟨error | value, after, rest⟩
    · trivial
    · exact ih later alsoLater

/--
The same for a loop over parts: `Meets` holds of the object and the part, in every
state in which the loop starts on a part.
-/
def AlongParts
    (Meets : State × Part → List Answer → Prop)
    (step : Call Answer (State × Part) Error Unit) :
    List Part → State → List Answer → Prop
  | [], _, _ => True
  | part :: parts, state, answers =>
    Meets (state, part) answers ∧
      match step (state, part) answers with
      | (.ok (), (after, _), rest) =>
        AlongParts Meets step parts after rest
      | (.error _, _, _) => True

instance decidableAlongParts
    {Meets : State × Part → List Answer → Prop}
    [∀ pair answers, Decidable (Meets pair answers)]
    {step : Call Answer (State × Part) Error Unit} :
    ∀ parts state answers,
      Decidable (AlongParts Meets step parts state answers)
  | [], _, _ => .isTrue trivial
  | part :: parts, state, answers =>
    have : Decidable
        (match step (state, part) answers with
        | (.ok (), (after, _), rest) =>
          AlongParts Meets step parts after rest
        | (.error _, _, _) => True) :=
      match step (state, part) answers with
      | (.ok (), (after, _), rest) => decidableAlongParts parts after rest
      | (.error _, _, _) => .isTrue trivial
    inferInstanceAs (Decidable (_ ∧ _))

/-- What a finished call satisfies. -/
def Finished
    (Returned : Value → State → Prop)
    (Threw : State → Prop) :
    Except Error Value × State × List Answer → Prop
  | (.ok value, after, _) => Returned value after
  | (.error _, after, _) => Threw after

/--
From a state with `Before`, whatever the surroundings answer, the call returns
into `Returned` or throws into `Threw`.
-/
def Ensures
    (Before : State → Prop)
    (call : Call Answer State Error Value)
    (Returned : Value → State → Prop)
    (Threw : State → Prop) : Prop :=
  ∀ state answers,
    Before state → Finished Returned Threw (call state answers)

namespace Finished

variable
    {Returned Narrower : Value → State → Prop}
    {Threw Milder : State → Prop}

theorem weaken
    {outcome : Except Error Value × State × List Answer}
    (finished : Finished Narrower Milder outcome)
    (returned : ∀ value state, Narrower value state → Returned value state)
    (threw : ∀ state, Milder state → Threw state) :
    Finished Returned Threw outcome := by
  rcases outcome with ⟨error | value, after, rest⟩
  · exact threw after finished
  · exact returned value after finished

theorem andThen
    {After : Next → State → Prop}
    {first : Call Answer State Error Value}
    {next : Value → Call Answer State Error Next}
    {state : State}
    {answers : List Answer}
    (finished : Finished Returned Threw (first state answers))
    (nextEnsures : ∀ value, Ensures (Returned value) (next value) After Threw) :
    Finished After Threw ((first >>= next) state answers) := by
  change Finished After Threw (Call.andThen first next state answers)
  unfold Call.andThen
  generalize first state answers = outcome at finished ⊢
  rcases outcome with ⟨error | value, after, rest⟩
  · exact finished
  · exact nextEnsures value after rest finished

theorem onFirst
    {call : Call Answer State Error Value}
    {state : State}
    {answers : List Answer}
    (finished : Finished Returned Threw (call state answers))
    (part : Part) :
    Finished
      (fun value pair => Returned value pair.1 ∧ pair.2 = part)
      (fun pair => Threw pair.1 ∧ pair.2 = part)
      (Call.onFirst call (state, part) answers) := by
  unfold Call.onFirst
  dsimp only
  generalize call state answers = outcome at finished ⊢
  rcases outcome with ⟨error | value, after, rest⟩
  · exact ⟨finished, rfl⟩
  · exact ⟨finished, rfl⟩

end Finished

namespace Leaves

theorem ret
    (value : Value) :
    Leaves (Call.ret value : Call Answer State Error Value) :=
  fun _ _ => rfl

theorem throwing
    (error : Error) :
    Leaves (Call.throwing error : Call Answer State Error Value) :=
  fun _ _ => rfl

theorem check
    (condition : Bool)
    (error : Error) :
    Leaves (Call.check condition error : Call Answer State Error Unit) := by
  cases condition with
  | false => exact throwing error
  | true => exact ret ()

theorem ask
    (exhausted : Answer) :
    Leaves (Call.ask exhausted : Call Answer State Error Answer) :=
  fun _ _ => rfl

theorem read :
    Leaves (Call.read : Call Answer State Error State) :=
  fun _ _ => rfl

theorem andThen
    {first : Call Answer State Error Value}
    {next : Value → Call Answer State Error Next}
    (firstLeaves : Leaves first)
    (nextLeaves : ∀ value, Leaves (next value)) :
    Leaves (first >>= next) := by
  intro state answers
  have finished := firstLeaves state answers
  change (Call.andThen first next state answers).2.1 = state
  unfold Call.andThen
  generalize first state answers = outcome at finished ⊢
  rcases outcome with ⟨error | value, after, rest⟩
  · exact finished
  · exact (nextLeaves value after rest).trans finished

theorem onFirst
    {call : Call Answer State Error Value}
    (callLeaves : Leaves call) :
    Leaves
      (Call.onFirst call : Call Answer (State × Part) Error Value) := by
  rintro ⟨state, part⟩ answers
  have same := callLeaves state answers
  unfold Call.onFirst
  dsimp only
  rw [same]

end Leaves

namespace Ensures

variable
    {Before : State → Prop}
    {Returned : Value → State → Prop}
    {Threw : State → Prop}

variable {call : Call Answer State Error Value}
variable {Ended : Next → State → Prop}
variable {step : Item → Call Answer State Error Unit}

/-- A weaker precondition and stronger postconditions are enough. -/
theorem weaken
    {Stronger : State → Prop}
    {Narrower : Value → State → Prop}
    {Milder : State → Prop}
    (ensures : Ensures Stronger call Narrower Milder)
    (before : ∀ state, Before state → Stronger state)
    (returned : ∀ value state, Narrower value state → Returned value state)
    (threw : ∀ state, Milder state → Threw state) :
    Ensures Before call Returned Threw := by
  intro state answers holds
  have finished := ensures state answers (before state holds)
  generalize call state answers = outcome at finished ⊢
  rcases outcome with ⟨error | value, after, rest⟩
  · exact threw after finished
  · exact returned value after finished

theorem ret
    {value : Value}
    (holds : ∀ state, Before state → Returned value state) :
    Ensures Before (Call.ret value : Call Answer State Error Value)
      Returned Threw :=
  fun state _ before => holds state before

theorem andThen
    {first : Call Answer State Error Value}
    {next : Value → Call Answer State Error Next}
    {Middle : Value → State → Prop}
    (firstEnsures : Ensures Before first Middle Threw)
    (nextEnsures : ∀ value, Ensures (Middle value) (next value) Ended Threw) :
    Ensures Before (first >>= next) Ended Threw := by
  intro state answers before
  have finished := firstEnsures state answers before
  change Finished Ended Threw (Call.andThen first next state answers)
  unfold Call.andThen
  generalize first state answers = outcome at finished ⊢
  rcases outcome with ⟨error | value, after, rest⟩
  · exact finished
  · exact nextEnsures value after rest finished

theorem read
    {next : State → Call Answer State Error Next}
    (nextEnsures :
      ∀ current,
        Ensures (fun state => Before state ∧ state = current) (next current)
          Ended Threw) :
    Ensures Before (Call.read >>= next) Ended Threw :=
  fun state answers before => nextEnsures state state answers ⟨before, rfl⟩

/-- A write takes the object where it is written to. -/
theorem write
    {change : State → State}
    {After : State → Prop}
    (holds : ∀ state, Before state → After (change state)) :
    Ensures Before
      (Call.write change : Call Answer State Error Unit)
      (fun _ => After) Threw :=
  fun state _ before => holds state before

theorem throwing
    {error : Error}
    (holds : ∀ state, Before state → Threw state) :
    Ensures Before (Call.throwing error : Call Answer State Error Value)
      Returned Threw :=
  fun state _ before => holds state before

theorem check
    {condition : Bool}
    {error : Error}
    (holds : ∀ state, condition = false → Before state → Threw state) :
    Ensures Before
      (Call.check condition error : Call Answer State Error Unit)
      (fun _ state => condition = true ∧ Before state) Threw := by
  cases condition with
  | false => exact fun state _ before => holds state rfl before
  | true => exact fun state _ before => ⟨rfl, before⟩

theorem ask
    {exhausted : Answer}
    {next : Answer → Call Answer State Error Next}
    (nextEnsures : ∀ answer, Ensures Before (next answer) Ended Threw) :
    Ensures Before (Call.ask exhausted >>= next) Ended Threw :=
  fun state answers before =>
    nextEnsures (answers.headD exhausted) state answers.tail before

/-- A call that never writes keeps whatever holds. -/
theorem leaves
    (callLeaves : Leaves call)
    (threw : ∀ state, Before state → Threw state) :
    Ensures Before call (fun _ => Before) Threw := by
  intro state answers before
  have same := callLeaves state answers
  generalize call state answers = outcome at same ⊢
  rcases outcome with ⟨error | value, after, rest⟩
  · obtain rfl : after = state := same
    exact threw after before
  · obtain rfl : after = state := same
    exact before

/-- Both branches of a test end the same way. -/
theorem branch
    {condition : Prop}
    [Decidable condition]
    {yes no : Call Answer State Error Value}
    (yesEnsures :
      condition → Ensures Before yes Returned Threw)
    (noEnsures :
      ¬ condition → Ensures Before no Returned Threw) :
    Ensures Before (if condition then yes else no) Returned Threw := by
  by_cases holds : condition
  · rw [if_pos holds]
    exact yesEnsures holds
  · rw [if_neg holds]
    exact noEnsures holds

theorem catching
    {body : Call Answer State Error Value}
    {handler : Error → Call Answer State Error Value}
    {Caught : State → Prop}
    (bodyEnsures : Ensures Before body Returned Caught)
    (handlerEnsures : ∀ error, Ensures Caught (handler error) Returned Threw) :
    Ensures Before (Call.catching body handler) Returned Threw := by
  intro state answers before
  have finished := bodyEnsures state answers before
  unfold Call.catching
  generalize body state answers = outcome at finished ⊢
  rcases outcome with ⟨error | value, after, rest⟩
  · exact handlerEnsures error after rest finished
  · exact finished

theorem onFirst
    {Start : State × Part → Prop}
    {Ended : Value → State × Part → Prop}
    {Broken : State × Part → Prop}
    (ensures :
      ∀ part,
        Ensures (fun state => Start (state, part)) call
          (fun value state => Ended value (state, part))
          (fun state => Broken (state, part))) :
    Ensures Start (Call.onFirst call) Ended Broken := by
  rintro ⟨state, part⟩ answers start
  have finished := ensures part state answers start
  unfold Call.onFirst
  dsimp only
  generalize call state answers = outcome at finished ⊢
  rcases outcome with ⟨error | value, after, rest⟩
  · exact finished
  · exact finished

theorem onState
    (ensures : Ensures Before call Returned Threw) :
    Ensures
      (fun pair : State × Part => Before pair.1)
      (Call.onFirst call)
      (fun value pair => Returned value pair.1)
      (fun pair => Threw pair.1) :=
  onFirst fun _ => ensures

theorem whileAnswered
    {loop : Nat → Call Answer State Error Value}
    (loopEnsures : ∀ turns, Ensures Before (loop turns) Returned Threw) :
    Ensures Before (Call.whileAnswered loop) Returned Threw :=
  fun state answers before =>
    loopEnsures (answers.length + 1) state answers before

theorem forEach
    {Keeps : State → Prop}
    (items : List Item)
    (stepEnsures :
      ∀ item ∈ items, Ensures Keeps (step item) (fun _ => Keeps) Threw) :
    Ensures Keeps (Call.forEach step items) (fun _ => Keeps) Threw := by
  induction items with
  | nil =>
    exact ret fun _ keeps => keeps
  | cons item items ih =>
    have here := stepEnsures item List.mem_cons_self
    have there := ih fun other later =>
      stepEnsures other (List.mem_cons_of_mem item later)
    exact andThen here fun _ => there

section

variable
    {Meets : Item → State → List Answer → Prop}

/--
A loop along a run that meets every item it reaches.  `Keeps done` is what holds
between two steps, with the items `done` behind.
-/
theorem forEach_turns
    {Keeps : List Item → State → Prop}
    (items : List Item)
    (stepEnsures :
      ∀ done item rest state answers,
        items = done ++ item :: rest →
          Meets item state answers → Keeps done state →
            Finished (fun _ => Keeps (done ++ [item])) Threw
              (step item state answers))
    (state : State)
    (answers : List Answer)
    (along : Along Meets step items state answers)
    (keeps : Keeps [] state) :
    Finished (fun _ => Keeps items) Threw
      (Call.forEach step items state answers) := by
  have loop (done rest : List Item) (shape : items = done ++ rest)
      (state : State) (answers : List Answer)
      (along : Along Meets step rest state answers)
      (keeps : Keeps done state) :
      Finished (fun _ => Keeps items) Threw
        (Call.forEach step rest state answers) := by
    induction rest generalizing done state answers with
    | nil =>
      rw [List.append_nil] at shape
      rw [shape]
      exact keeps
    | cons item rest ih =>
      obtain ⟨meets, later⟩ := along
      have finished :=
        stepEnsures done item rest state answers shape meets keeps
      unfold Call.forEach Call.andThen
      generalize step item state answers = outcome at finished later ⊢
      rcases outcome with ⟨error | value, after, left⟩
      · exact finished
      · exact ih (done ++ [item]) (by simp [shape]) after
          left later finished
  exact loop [] items rfl state answers along keeps

/--
What every step of a loop keeps when it starts in a state that `Meets` its item,
the loop keeps along a run that meets every item it reaches.
-/
theorem forEach_along
    {Keeps : State → Prop}
    (stepEnsures :
      ∀ item state answers,
        Meets item state answers → Keeps state →
          Finished (fun _ => Keeps) Threw (step item state answers))
    (items : List Item)
    (state : State)
    (answers : List Answer)
    (along : Along Meets step items state answers)
    (keeps : Keeps state) :
    Finished (fun _ => Keeps) Threw
      (Call.forEach step items state answers) := by
  let Always (_ : List Item) : State → Prop := Keeps
  have turn (done : List Item) (item : Item) (rest : List Item)
      (state : State) (answers : List Answer)
      (_ : items = done ++ item :: rest)
      (meets : Meets item state answers)
      (keeps : Always done state) :
      Finished (fun _ => Always (done ++ [item])) Threw
        (step item state answers) :=
    stepEnsures item state answers meets keeps
  exact forEach_turns items turn state answers along keeps

end

section

variable
    {step : Call Answer (State × Part) Error Unit}

/--
A loop over parts, along a run that meets every part it reaches.  `Keeps done rest`
is what holds of the object between two steps, with the parts `done` behind and
`rest` to come; a step that throws leaves its own part first among those to come.
-/
theorem eachPart_along
    {Meets : State × Part → List Answer → Prop}
    {Keeps : List Part → List Part → State → Prop}
    (stepEnsures :
      ∀ done part rest state answers,
        Meets (state, part) answers →
          Keeps done (part :: rest) state →
            Finished
              (fun _ pair => Keeps (done ++ [pair.2]) rest pair.1)
              (fun pair => Keeps done (pair.2 :: rest) pair.1)
              (step (state, part) answers))
    (parts : List Part)
    (state : State)
    (answers : List Answer)
    (along : AlongParts Meets step parts state answers)
    (keeps : Keeps [] parts state) :
    Finished
      (fun _ pair => Keeps pair.2 [] pair.1)
      (fun pair => ∃ done rest, pair.2 = done ++ rest ∧
        Keeps done rest pair.1)
      (Call.eachPart step (state, parts) answers) := by
  have loop (parts done : List Part) (state : State) (answers : List Answer)
      (along : AlongParts Meets step parts state answers)
      (keeps : Keeps done parts state) :
      Finished
        (fun _ pair => Keeps (done ++ pair.2) [] pair.1)
        (fun pair => ∃ more rest, pair.2 = more ++ rest ∧
          Keeps (done ++ more) rest pair.1)
        (overParts step parts state answers) := by
    induction parts generalizing done state answers with
    | nil =>
      simpa [overParts, Finished] using keeps
    | cons part rest ih =>
      obtain ⟨meets, later⟩ := along
      have finished := stepEnsures done part rest state answers meets keeps
      unfold overParts
      generalize step (state, part) answers = outcome at finished later ⊢
      rcases outcome with ⟨error | value, ⟨after, changed⟩, left⟩
      · have thrown : Keeps done (changed :: rest) after := finished
        exact ⟨[], changed :: rest, rfl, by simpa using thrown⟩
      · have others :=
          ih (done ++ [changed]) after left later finished
        dsimp only
        generalize overParts step rest after left = last at others ⊢
        rcases last with ⟨error | value, ⟨final, tail⟩, ending⟩
        · obtain ⟨more, remaining, shape, holds⟩ := others
          refine ⟨changed :: more, remaining, ?_, ?_⟩
          · simpa using shape
          · simpa using holds
        · simpa [Finished] using others
  have finished := loop parts [] state answers along keeps
  simpa [Call.eachPart] using finished

/-- A condition that always holds is met along every loop. -/
theorem alongParts_trivial
    (parts : List Part)
    (state : State)
    (answers : List Answer) :
    AlongParts (fun _ _ => True) step parts state answers := by
  induction parts generalizing state answers with
  | nil => trivial
  | cons part parts ih =>
    refine ⟨trivial, ?_⟩
    rcases step (state, part) answers with
      ⟨error | value, ⟨after, changed⟩, rest⟩
    · trivial
    · exact ih after rest

theorem eachPart
    {Keeps : List Part → List Part → State → Prop}
    (stepEnsures :
      ∀ done part rest,
        Ensures (fun pair => pair.2 = part ∧ Keeps done (part :: rest) pair.1)
          step
          (fun _ pair => Keeps (done ++ [pair.2]) rest pair.1)
          (fun pair => Keeps done (pair.2 :: rest) pair.1))
    (parts : List Part) :
    Ensures
      (fun pair => pair.2 = parts ∧ Keeps [] parts pair.1)
      (Call.eachPart step)
      (fun _ pair => Keeps pair.2 [] pair.1)
      (fun pair => ∃ done rest, pair.2 = done ++ rest ∧
        Keeps done rest pair.1) := by
  rintro ⟨state, given⟩ answers ⟨rfl, keeps⟩
  exact eachPart_along
    (fun done part rest state answers _ keeps =>
      stepEnsures done part rest (state, part) answers ⟨rfl, keeps⟩)
    given state answers (alongParts_trivial given state answers) keeps

end

end Ensures

end Call

end Aeon
