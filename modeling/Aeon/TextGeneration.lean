import Aeon.PrefixRecord

namespace Aeon.Text

open Aeon.Session (PositionGap)

/-!
# The generation loop

`generate_token_ids` is handed the prefill and the decode step as callbacks, so
its model is generic in the state those callbacks advance.  Every exception point
is explicit: a callback returns what it threw beside the state it left, and the
state outlives the throw.
-/

/-- What a callback outside the engine can throw. -/
inductive External where
  | generationCancelled
  | failure
  deriving Repr, DecidableEq

/-- What leaves `generate_token_ids` or `V4Engine::generate` as an exception. -/
inductive Thrown where
  | refusal (message : String)
  | external (thrown : External)
  | positionGap (gap : PositionGap)
  deriving Repr, DecidableEq

/--
`GenerationOptions`.  `cancelled n` is what the poll taken after `n + 1` sampled
tokens gives (`0` for the one after the first token), and `onToken tokens` what
the callback does that is handed the last of `tokens`.
-/
structure GenerationOptions where
  maxNewTokens : Nat := 256
  eosTokenId : Nat := 1
  contextLimit : Nat := 0
  stopOnEos : Bool := true
  onToken : List Nat → Except External Unit := fun _ => .ok ()
  cancelled : Nat → Except External Bool := fun _ => .ok false

/-- `GenerationResult`. -/
structure GenerationResult where
  tokenIds : List Nat := []
  stopReason : StopReason := .error
  deriving Repr, DecidableEq

/-- A reply's ids without a trailing EOS. -/
def withoutEos
    (eosTokenId : Nat)
    (ids : List Nat) : List Nat :=
  if ids.getLast? = some eosTokenId then ids.dropLast else ids

/-- What an attempt returned or threw, and the state it left. -/
abbrev Attempt (State Value : Type) :=
  Except Thrown Value × State

/-- `Returned` holds of what an attempt returned, `Failed` of what it threw. -/
def Ends
    {State Value : Type}
    (Returned : Value → State → Prop)
    (Failed : Thrown → State → Prop) :
    Attempt State Value → Prop
  | (.ok value, after) => Returned value after
  | (.error thrown, after) => Failed thrown after

section Loop

variable {State : Type}

/-- The decode loop, with `remaining` steps left of `available_tokens`. -/
def decodeLoop
    (options : GenerationOptions)
    (promptSize : Nat)
    (limit : StopReason)
    (decode : Nat → Nat → State → Attempt State Nat) :
    Nat → Nat → Nat → List Nat → State → Attempt State GenerationResult
  | 0, _, _, tokenIds, state =>
    (.ok { tokenIds, stopReason := limit }, state)
  | remaining + 1, generated, nextToken, tokenIds, state =>
    match options.cancelled generated with
    | .error thrown => (.error (.external thrown), state)
    | .ok true => (.ok { tokenIds, stopReason := .cancelled }, state)
    | .ok false =>
      match decode nextToken (promptSize + generated - 1) state with
      | (.error thrown, after) => (.error thrown, after)
      | (.ok sampled, after) =>
        match options.onToken (tokenIds ++ [sampled]) with
        | .error thrown => (.error (.external thrown), after)
        | .ok () =>
          if options.stopOnEos && sampled == options.eosTokenId then
            (.ok {
              tokenIds := tokenIds ++ [sampled]
              stopReason := .eos }, after)
          else
            decodeLoop options promptSize limit decode remaining
              (generated + 1) sampled (tokenIds ++ [sampled]) after

/-- `available_tokens` and `context_limited`. -/
def availableTokens
    (options : GenerationOptions)
    (promptSize : Nat) : Nat × Bool :=
  if options.contextLimit ≠ 0 ∧
      options.contextLimit - promptSize < options.maxNewTokens then
    (options.contextLimit - promptSize, true)
  else
    (options.maxNewTokens, false)

/-- `generate_token_ids`, with both step callbacks given. -/
def generateTokenIds
    (prompt : List Nat)
    (options : GenerationOptions)
    (prefill : List Nat → State → Attempt State Nat)
    (decode : Nat → Nat → State → Attempt State Nat)
    (state : State) : Attempt State GenerationResult :=
  if prompt.isEmpty then
    (.error (.refusal "Generation prompt must not be empty"), state)
  else if options.maxNewTokens = 0 then
    (.error (.refusal "max_new_tokens must be greater than zero"), state)
  else if options.contextLimit ≠ 0 ∧
      options.contextLimit ≤ prompt.length then
    (.error (.refusal "Prompt does not leave room for generated tokens"),
      state)
  else
    match prefill prompt state with
    | (.error thrown, after) => (.error thrown, after)
    | (.ok first, after) =>
      match options.onToken [first] with
      | .error thrown => (.error (.external thrown), after)
      | .ok () =>
        if options.stopOnEos && first == options.eosTokenId then
          (.ok { tokenIds := [first], stopReason := .eos }, after)
        else
          match options.cancelled 0 with
          | .error thrown => (.error (.external thrown), after)
          | .ok true =>
            (.ok { tokenIds := [first], stopReason := .cancelled },
              after)
          | .ok false =>
            let (available, contextLimited) :=
              availableTokens options prompt.length
            decodeLoop options prompt.length
              (if contextLimited then .contextLimit
                else .maxNewTokens)
              decode (available - 1) 1 first [first] after

/-!
The rule for the loop.  `Reached tokens state` is what holds with `tokens`
sampled, `Failed thrown state` what holds when an exception leaves the loop.  The
last token of `tokens` has not been given to the decode step yet.
-/

variable {options : GenerationOptions}
variable {prompt : List Nat}
variable {prefill : List Nat → State → Attempt State Nat}
variable {decode : Nat → Nat → State → Attempt State Nat}
variable (Reached : List Nat → State → Prop)
variable (Failed : Thrown → State → Prop)

/-- What a caller of the loop may rely on. -/
def Settles (attempt : Attempt State GenerationResult) : Prop :=
  Ends
    (fun result after =>
      result.tokenIds ≠ [] ∧ Reached result.tokenIds after)
    Failed attempt

/-- What the rule asks of the decode step. -/
def DecodeSettles
    (promptSize : Nat)
    (decode : Nat → Nat → State → Attempt State Nat) : Prop :=
  ∀ tokens token state,
    Reached (tokens ++ [token]) state →
    Ends (fun sampled => Reached (tokens ++ [token] ++ [sampled])) Failed
      (decode token (promptSize + tokens.length) state)

variable {Reached Failed}

/-- Where the loop ends, by the postcondition of one decode. -/
theorem decodeLoop_settles
    {promptSize : Nat}
    {limit : StopReason}
    (decodeSettles : DecodeSettles Reached Failed promptSize decode)
    (interrupted :
      ∀ tokens thrown state,
        Reached tokens state →
        Failed (.external thrown) state)
    (remaining token : Nat)
    (tokens : List Nat)
    (state : State)
    (reached : Reached (tokens ++ [token]) state) :
    Settles Reached Failed
      (decodeLoop options promptSize limit decode remaining
        (tokens.length + 1) token (tokens ++ [token]) state) := by
  induction remaining generalizing token tokens state with
  | zero =>
    exact ⟨by simp, reached⟩
  | succ remaining ih =>
    have decoded := decodeSettles tokens token state reached
    have position :
        promptSize + (tokens.length + 1) - 1 =
          promptSize + tokens.length := by
      omega
    simp only [decodeLoop, position]
    rcases options.cancelled (tokens.length + 1) with thrown | _ | _
    · exact interrupted _ thrown state reached
    · rcases outcome : decode token (promptSize + tokens.length) state with
        ⟨thrown | sampled, after⟩
      · rw [outcome] at decoded
        exact decoded
      · rw [outcome] at decoded
        simp only
        rcases options.onToken (tokens ++ [token] ++ [sampled]) with thrown | _
        · exact interrupted _ thrown after decoded
        · simp only
          split
          · exact ⟨by simp, decoded⟩
          · have continued :=
              ih sampled (tokens ++ [token]) after decoded
            simpa using continued
    · exact ⟨by simp, reached⟩

/-- The same for a whole generation, prefill included. -/
theorem generateTokenIds_settles
    {state : State}
    (prefillSettles :
      Ends (fun first => Reached [first]) Failed (prefill prompt state))
    (decodeSettles : DecodeSettles Reached Failed prompt.length decode)
    (interrupted :
      ∀ tokens thrown state,
        Reached tokens state →
        Failed (.external thrown) state)
    (refused : ∀ message, Failed (.refusal message) state) :
    Settles Reached Failed
      (generateTokenIds prompt options prefill decode state) := by
  unfold generateTokenIds
  split
  · exact refused _
  split
  · exact refused _
  split
  · exact refused _
  rcases outcome : prefill prompt state with ⟨thrown | first, after⟩
  · rw [outcome] at prefillSettles
    exact prefillSettles
  · rw [outcome] at prefillSettles
    simp only
    rcases options.onToken [first] with thrown | _
    · exact interrupted _ thrown after prefillSettles
    · simp only
      split
      · exact ⟨by simp, prefillSettles⟩
      · rcases options.cancelled 0 with thrown | _ | _
        · exact interrupted _ thrown after prefillSettles
        · exact decodeLoop_settles decodeSettles interrupted _ first []
            after prefillSettles
        · exact ⟨by simp, prefillSettles⟩

/-- Stopping on it, the loop leaves end-of-sequence at the end only. -/
theorem decodeLoop_eos_last
    {promptSize : Nat}
    {limit : StopReason}
    (stops : options.stopOnEos = true)
    (remaining generated token : Nat)
    (tokens : List Nat)
    (state : State)
    (unended : options.eosTokenId ∉ tokens) :
    Ends (fun result _ => options.eosTokenId ∉ result.tokenIds.dropLast)
      (fun _ _ => True)
      (decodeLoop options promptSize limit decode remaining generated token
        tokens state) := by
  have unendedFront : options.eosTokenId ∉ tokens.dropLast :=
    fun member => unended (List.mem_of_mem_dropLast member)
  induction remaining generalizing generated token tokens state with
  | zero =>
    exact unendedFront
  | succ remaining ih =>
    simp only [decodeLoop]
    rcases options.cancelled generated with thrown | _ | _
    · trivial
    · rcases decode token (promptSize + generated - 1) state with
        ⟨thrown | sampled, after⟩
      · trivial
      · simp only
        rcases options.onToken (tokens ++ [sampled]) with thrown | _
        · trivial
        · simp only
          split
          · simpa [Ends] using unended
          · next continuing =>
              have notEnd : options.eosTokenId ≠ sampled := by
                rintro rfl
                simp [stops] at continuing
              have unendedNext : options.eosTokenId ∉ tokens ++ [sampled] := by
                simp [unended, notEnd]
              exact ih _ _ _ _ unendedNext
                fun member => unendedNext (List.mem_of_mem_dropLast member)
    · exact unendedFront

/-- So does the whole generation. -/
theorem generateTokenIds_eos_last
    {state : State}
    (stops : options.stopOnEos = true) :
    Ends (fun result _ => options.eosTokenId ∉ result.tokenIds.dropLast)
      (fun _ _ => True)
      (generateTokenIds prompt options prefill decode state) := by
  unfold generateTokenIds
  split
  · trivial
  split
  · trivial
  split
  · trivial
  rcases prefill prompt state with ⟨thrown | first, after⟩
  · trivial
  · simp only
    rcases options.onToken [first] with thrown | _
    · trivial
    · simp only
      split
      · simp [Ends]
      · next continuing =>
          rcases options.cancelled 0 with thrown | _ | _
          · trivial
          · apply decodeLoop_eos_last stops
            intro member
            obtain rfl := List.mem_singleton.mp member
            simp [stops] at continuing
          · simp [Ends]

end Loop

/-- At most the last id is dropped. -/
theorem withoutEos_cases
    (eosTokenId : Nat)
    (ids : List Nat) :
    ids = withoutEos eosTokenId ids ∨
      ids = withoutEos eosTokenId ids ++ [eosTokenId] := by
  unfold withoutEos
  split
  · next ended =>
      right
      exact (List.dropLast_append_getLast? eosTokenId ended).symm
  · left
    rfl

theorem eos_not_mem_withoutEos
    {eosTokenId : Nat}
    {ids : List Nat}
    (endsOnce : eosTokenId ∉ ids.dropLast) :
    eosTokenId ∉ withoutEos eosTokenId ids := by
  unfold withoutEos
  split
  · exact endsOnce
  · next notLast =>
      intro member
      rcases List.eq_nil_or_concat' ids with rfl | ⟨front, last, rfl⟩
      · cases member
      · rcases List.mem_append.mp member with inFront | isLast
        · exact endsOnce (by simpa using inFront)
        · obtain rfl := List.mem_singleton.mp isLast
          exact notLast (by simp)

end Aeon.Text
