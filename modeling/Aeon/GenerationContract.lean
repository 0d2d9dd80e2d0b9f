import Aeon.TextGeneration
import Mathlib.Algebra.Group.Nat.Defs

namespace Aeon.Text

open List (append_assoc append_nil filterMap_append length_cons nil_append nil_prefix
  prefix_rfl)

/-!
# What the generation loop calls

`generate_token_ids` with callbacks that may share a state: prefill, decode, `on_token`
and the cancel hook.  A run over recording callbacks keeps every call in a log, and the
log says which tokens were fed, where, what was reported and what was thrown, whatever the
callbacks do.
-/

/-! ## The loop over callbacks -/

/-- What follows a call that returned. -/
def andThen
    {State First Second : Type}
    (attempt : Attempt State First)
    (next : First → State → Attempt State Second) : Attempt State Second :=
  match attempt with
  | (.ok value, after) => next value after
  | (.error thrown, after) => (.error thrown, after)

/-- `PromptPrefill`. -/
abbrev PromptPrefill (State : Type) : Type :=
  List Nat → State → Attempt State Nat

/-- `TokenStep`: a token, its position, and whether it belongs to the prompt. -/
abbrev TokenStep (State : Type) : Type :=
  Nat → Nat → Bool → State → Attempt State Nat

/-- `GenerationOptions` with callbacks on a state; a callback may be empty. -/
structure CallbackOptions (State : Type) where
  maxNewTokens : Nat := 256
  eosTokenId : Nat := 1
  contextLimit : Nat := 0
  stopOnEos : Bool := true
  onToken : Option (Nat → State → Attempt State Unit) := none
  cancelled : Option (State → Attempt State Bool) := none

section Loop

variable {State : Type} (options : CallbackOptions State)

/-- `if (options.on_token) options.on_token(next_token)`. -/
def report
    (token : Nat)
    (state : State) : Attempt State Unit :=
  match options.onToken with
  | none => (.ok (), state)
  | some callback => callback token state

/-- `options.cancelled && options.cancelled()`. -/
def poll
    (state : State) : Attempt State Bool :=
  match options.cancelled with
  | none => (.ok false, state)
  | some hook => hook state

/-- `context_limited`: the context leaves fewer tokens than were asked for. -/
def ContextLimited
    (promptSize : Nat) : Prop :=
  options.contextLimit ≠ 0 ∧ options.contextLimit - promptSize < options.maxNewTokens

instance (promptSize : Nat) : Decidable (ContextLimited options promptSize) :=
  inferInstanceAs (Decidable (_ ∧ _))

/-- `available_tokens`. -/
def allowance
    (promptSize : Nat) : Nat :=
  if ContextLimited options promptSize then options.contextLimit - promptSize
  else options.maxNewTokens

/-- The stop reason of a run that used up its tokens. -/
def limitReason
    (promptSize : Nat) : StopReason :=
  if ContextLimited options promptSize then .contextLimit else .maxNewTokens

/-- The decode loop, with `remaining` steps left; positions are `uint32_t`. -/
def decodeRounds
    (promptSize : Nat)
    (decode : TokenStep State) :
    Nat → Nat → Nat → List Nat → State → Attempt State GenerationResult
  | 0, _, _, tokenIds, state =>
    (.ok { tokenIds, stopReason := limitReason options promptSize }, state)
  | remaining + 1, generated, nextToken, tokenIds, state =>
    andThen (poll options state) fun stop polled =>
      if stop then
        (.ok { tokenIds, stopReason := .cancelled }, polled)
      else
        andThen (decode nextToken ((promptSize + generated - 1) % 2 ^ 32) false polled)
          fun sampled decoded =>
            andThen (report options sampled decoded) fun _ reported =>
              if options.stopOnEos && sampled == options.eosTokenId then
                (.ok { tokenIds := tokenIds ++ [sampled], stopReason := .eos }, reported)
              else
                decodeRounds promptSize decode remaining (generated + 1) sampled
                  (tokenIds ++ [sampled]) reported

/-- `generate_token_ids` with both step callbacks. -/
def generateWith
    (prompt : List Nat)
    (prefill : PromptPrefill State)
    (decode : TokenStep State)
    (state : State) : Attempt State GenerationResult :=
  if prompt.isEmpty then
    (.error (.refusal "Generation prompt must not be empty"), state)
  else if options.maxNewTokens = 0 then
    (.error (.refusal "max_new_tokens must be greater than zero"), state)
  else if options.contextLimit ≠ 0 ∧ options.contextLimit ≤ prompt.length then
    (.error (.refusal "Prompt does not leave room for generated tokens"), state)
  else
    andThen (prefill prompt state) fun first prefilled =>
      andThen (report options first prefilled) fun _ reported =>
        if options.stopOnEos && first == options.eosTokenId then
          (.ok { tokenIds := [first], stopReason := .eos }, reported)
        else
          andThen (poll options reported) fun stop polled =>
            if stop then
              (.ok { tokenIds := [first], stopReason := .cancelled }, polled)
            else
              decodeRounds options prompt.length decode
                (allowance options prompt.length - 1) 1 first [first] polled

/-- The lambda of the one-step overload: the prompt through the step, token by token. -/
def walkPrompt
    (step : TokenStep State) :
    Nat → Nat → List Nat → State → Attempt State Nat
  | _, nextToken, [], state => (.ok nextToken, state)
  | index, _, token :: rest, state =>
    andThen (step token (index % 2 ^ 32) true state) fun sampled after =>
      walkPrompt step (index + 1) sampled rest after

/-- The one-step overload of `generate_token_ids`. -/
def generateByStep
    (prompt : List Nat)
    (step : TokenStep State)
    (state : State) : Attempt State GenerationResult :=
  generateWith options prompt (fun tokens => walkPrompt step 0 0 tokens) step state

end Loop

/-! ## Recording -/

/-- A call of a callback, with what it returned. -/
inductive CallEvent where
  | prefill (prompt : List Nat) (returned : Option Nat)
  | step (token position : Nat) (ofPrompt : Bool) (returned : Option Nat)
  | onToken (token : Nat)
  | cancelled (answer : Option Bool)
  /-- The call before it threw. -/
  | threw (thrown : Thrown)
  deriving Repr, DecidableEq

namespace CallEvent

def prompt? : CallEvent → Option (List Nat)
  | .prefill prompt _ => some prompt
  | _ => none

def fed? : CallEvent → Option (Nat × Nat × Bool)
  | .step token position ofPrompt _ => some (token, position, ofPrompt)
  | _ => none

def returned? : CallEvent → Option Nat
  | .prefill _ returned => returned
  | .step _ _ _ returned => returned
  | _ => none

def reported? : CallEvent → Option Nat
  | .onToken token => some token
  | _ => none

def answer? : CallEvent → Option Bool
  | .cancelled answer => answer
  | _ => none

def thrown? : CallEvent → Option Thrown
  | .threw thrown => some thrown
  | _ => none

end CallEvent

/-- The exception that left a call, if one did. -/
def raised
    {Value : Type} : Except Thrown Value → List Thrown
  | .ok _ => []
  | .error thrown => [thrown]

section Recording

variable {State : Type}

/-- A callback that keeps its call, and behind it what the call threw. -/
def recorded
    {Value : Type}
    (event : Option Value → CallEvent)
    (callback : State → Attempt State Value)
    (source : State × List CallEvent) : Attempt (State × List CallEvent) Value :=
  let attempt := callback source.1
  (attempt.1, (attempt.2,
    source.2 ++ event attempt.1.toOption :: (raised attempt.1).map .threw))

/-- The options with recording callbacks. -/
def CallbackOptions.recording
    (options : CallbackOptions State) : CallbackOptions (State × List CallEvent) where
  maxNewTokens := options.maxNewTokens
  eosTokenId := options.eosTokenId
  contextLimit := options.contextLimit
  stopOnEos := options.stopOnEos
  onToken := options.onToken.map fun callback token =>
    recorded (fun _ => .onToken token) (callback token)
  cancelled := options.cancelled.map fun hook => recorded .cancelled hook

def recordingPrefill
    (prefill : PromptPrefill State) : PromptPrefill (State × List CallEvent) :=
  fun prompt => recorded (.prefill prompt) (prefill prompt)

def recordingStep
    (step : TokenStep State) : TokenStep (State × List CallEvent) :=
  fun token position ofPrompt =>
    recorded (.step token position ofPrompt) (step token position ofPrompt)

/-- A run without its log. -/
def forget
    {Value : Type}
    (attempt : Attempt (State × List CallEvent) Value) : Attempt State Value :=
  (attempt.1, attempt.2.1)

/-! ## Recording changes nothing -/

theorem forget_andThen
    {First Second : Type}
    {attempt : Attempt (State × List CallEvent) First}
    {next : First → State × List CallEvent → Attempt (State × List CallEvent) Second}
    {plainNext : First → State → Attempt State Second}
    (same : ∀ value after, forget (next value after) = plainNext value after.1) :
    forget (andThen attempt next) = andThen (forget attempt) plainNext := by
  obtain ⟨outcome, after⟩ := attempt
  cases outcome with
  | ok value => exact same value after
  | error thrown => rfl

variable (options : CallbackOptions State)

theorem forget_report
    (token : Nat)
    (source : State × List CallEvent) :
    forget (report options.recording token source) = report options token source.1 := by
  unfold report CallbackOptions.recording
  cases options.onToken <;> rfl

theorem forget_poll
    (source : State × List CallEvent) :
    forget (poll options.recording source) = poll options source.1 := by
  unfold poll CallbackOptions.recording
  cases options.cancelled <;> rfl

/-- Recording does not change the loop. -/
theorem forget_decodeRounds
    (promptSize : Nat)
    (decode : TokenStep State)
    (remaining generated token : Nat)
    (tokenIds : List Nat)
    (source : State × List CallEvent) :
    forget (decodeRounds options.recording promptSize (recordingStep decode) remaining
        generated token tokenIds source) =
      decodeRounds options promptSize decode remaining generated token tokenIds source.1 := by
  induction remaining generalizing generated token tokenIds source with
  | zero => rfl
  | succ remaining ih =>
    rw [decodeRounds, decodeRounds, ← forget_poll]
    refine forget_andThen fun stop polled => ?_
    cases stop with
    | true => rfl
    | false =>
      refine forget_andThen fun sampled decoded => ?_
      rw [← forget_report]
      refine forget_andThen fun _ reported => ?_
      by_cases ended : (options.stopOnEos && sampled == options.eosTokenId) = true
      · have recordedEnd : (options.recording.stopOnEos &&
            sampled == options.recording.eosTokenId) = true := ended
        rw [if_pos ended, if_pos recordedEnd]
        rfl
      · have recordedOn : ¬ (options.recording.stopOnEos &&
            sampled == options.recording.eosTokenId) = true := ended
        rw [if_neg ended, if_neg recordedOn]
        exact ih _ _ _ _

/-- A recorded run returns and leaves what the run does. -/
theorem forget_generateWith
    (prompt : List Nat)
    {prefill : PromptPrefill State}
    {recordedPrefill : PromptPrefill (State × List CallEvent)}
    (same : ∀ source, forget (recordedPrefill prompt source) = prefill prompt source.1)
    (decode : TokenStep State)
    (source : State × List CallEvent) :
    forget (generateWith options.recording prompt recordedPrefill (recordingStep decode)
        source) =
      generateWith options prompt prefill decode source.1 := by
  unfold generateWith
  by_cases empty : prompt.isEmpty = true
  · rw [if_pos empty, if_pos empty]
    rfl
  rw [if_neg empty, if_neg empty]
  by_cases none : options.maxNewTokens = 0
  · rw [if_pos none, if_pos (show options.recording.maxNewTokens = 0 from none)]
    rfl
  rw [if_neg none, if_neg (show ¬ options.recording.maxNewTokens = 0 from none)]
  by_cases full : options.contextLimit ≠ 0 ∧ options.contextLimit ≤ prompt.length
  · rw [if_pos full, if_pos (show options.recording.contextLimit ≠ 0 ∧
      options.recording.contextLimit ≤ prompt.length from full)]
    rfl
  rw [if_neg full, if_neg (show ¬ (options.recording.contextLimit ≠ 0 ∧
    options.recording.contextLimit ≤ prompt.length) from full), ← same]
  refine forget_andThen fun first prefilled => ?_
  rw [← forget_report]
  refine forget_andThen fun _ reported => ?_
  by_cases ended : (options.stopOnEos && first == options.eosTokenId) = true
  · rw [if_pos ended, if_pos (show (options.recording.stopOnEos &&
      first == options.recording.eosTokenId) = true from ended)]
    rfl
  rw [if_neg ended, if_neg (show ¬ (options.recording.stopOnEos &&
    first == options.recording.eosTokenId) = true from ended), ← forget_poll]
  refine forget_andThen fun stop polled => ?_
  cases stop with
  | true => rfl
  | false => exact forget_decodeRounds options _ _ _ _ _ _ _

/-! ## The log of the loop -/

/-- Tokens fed from a position on, as a decode step is given them. -/
def feeds : Nat → List Nat → List (Nat × Nat × Bool)
  | _, [] => []
  | position, token :: rest => (token, position % 2 ^ 32, false) :: feeds (position + 1) rest

/-- The calls of `on_token` for a list of tokens. -/
def reports
    (tokens : List Nat) : List Nat :=
  if options.onToken.isSome then tokens else []

theorem reports_append
    (front back : List Nat) :
    reports options (front ++ back) = reports options front ++ reports options back := by
  unfold reports
  split <;> rfl

/-- What a part of a run adds to the log. -/
structure Adds
    (new : List CallEvent)
    (returned : List Nat)
    (fed : List (Nat × Nat × Bool))
    (reported : List Nat)
    (stopped : Prop)
    (thrown : List Thrown) : Prop where
  prompts : new.filterMap CallEvent.prompt? = []
  returned : new.filterMap CallEvent.returned? = returned
  fed : new.filterMap CallEvent.fed? = fed
  reported : new.filterMap CallEvent.reported? = reported
  stopped : true ∈ new.filterMap CallEvent.answer? ↔ stopped
  thrown : new.filterMap CallEvent.thrown? = thrown

theorem Adds.append
    {first second : List CallEvent}
    {returned returned₂ : List Nat}
    {fed fed₂ : List (Nat × Nat × Bool)}
    {reported reported₂ : List Nat}
    {stopped stopped₂ : Prop}
    {thrown thrown₂ : List Thrown}
    (adds : Adds first returned fed reported stopped thrown)
    (more : Adds second returned₂ fed₂ reported₂ stopped₂ thrown₂) :
    Adds (first ++ second) (returned ++ returned₂) (fed ++ fed₂) (reported ++ reported₂)
      (stopped ∨ stopped₂) (thrown ++ thrown₂) := by
  refine ⟨?_, ?_, ?_, ?_, ?_, ?_⟩
  · rw [filterMap_append, adds.prompts, more.prompts, append_nil]
  · rw [filterMap_append, adds.returned, more.returned]
  · rw [filterMap_append, adds.fed, more.fed]
  · rw [filterMap_append, adds.reported, more.reported]
  · rw [filterMap_append, List.mem_append, adds.stopped, more.stopped]
  · rw [filterMap_append, adds.thrown, more.thrown]

theorem Adds.step
    (token position : Nat)
    (ofPrompt : Bool)
    (outcome : Except Thrown Nat) :
    Adds (.step token position ofPrompt outcome.toOption :: (raised outcome).map .threw)
      outcome.toOption.toList [(token, position, ofPrompt)] [] False (raised outcome) := by
  cases outcome with
  | ok sampled => exact ⟨rfl, rfl, rfl, rfl, by simp [raised, CallEvent.answer?], rfl⟩
  | error thrown => exact ⟨rfl, rfl, rfl, rfl, by simp [raised, CallEvent.answer?], rfl⟩

theorem report_recording
    (token : Nat)
    (state : State)
    (log : List CallEvent) :
    ∃ new, report options.recording token (state, log) =
        ((report options token state).1, ((report options token state).2, log ++ new)) ∧
      Adds new [] [] (reports options [token]) False
        (raised (report options token state).1) := by
  unfold report reports CallbackOptions.recording
  cases options.onToken with
  | none =>
    refine ⟨[], ?_, rfl, rfl, rfl, rfl, by simp, rfl⟩
    simp only [Option.map_none, append_nil]
  | some callback =>
    refine ⟨.onToken token :: (raised (callback token state).1).map .threw, rfl, ?_⟩
    cases (callback token state).1 <;>
      exact ⟨rfl, rfl, rfl, rfl, by simp [raised, CallEvent.answer?], rfl⟩

theorem poll_recording
    (state : State)
    (log : List CallEvent) :
    ∃ new, poll options.recording (state, log) =
        ((poll options state).1, ((poll options state).2, log ++ new)) ∧
      Adds new [] [] [] ((poll options state).1 = .ok true)
        (raised (poll options state).1) := by
  unfold poll CallbackOptions.recording
  cases options.cancelled with
  | none =>
    refine ⟨[], ?_, rfl, rfl, rfl, rfl, by simp, rfl⟩
    simp only [Option.map_none, append_nil]
  | some hook =>
    refine ⟨.cancelled (hook state).1.toOption :: (raised (hook state).1).map .threw,
      rfl, ?_⟩
    cases (hook state).1 with
    | error thrown =>
      exact ⟨rfl, rfl, rfl, rfl,
        by simp [raised, CallEvent.answer?, Except.toOption], rfl⟩
    | ok answer =>
      refine ⟨rfl, rfl, rfl, rfl, ?_, rfl⟩
      cases answer <;> simp [raised, CallEvent.answer?, Except.toOption]

/-- A reply that ends with the EOS the loop stops on. -/
def EndsWithEos
    (tokens : List Nat) : Prop :=
  options.stopOnEos = true ∧ tokens.getLast? = some options.eosTokenId

instance (tokens : List Nat) : Decidable (EndsWithEos options tokens) :=
  inferInstanceAs (Decidable (_ ∧ _))

theorem endsWithEos_singleton
    (token : Nat) :
    EndsWithEos options [token] ↔
      (options.stopOnEos && token == options.eosTokenId) = true := by
  simp [EndsWithEos]

theorem endsWithEos_cons
    {token : Nat}
    (going : ¬ (options.stopOnEos && token == options.eosTokenId) = true)
    (more : List Nat) :
    EndsWithEos options (token :: more) ↔ EndsWithEos options more := by
  cases more with
  | nil =>
    rw [endsWithEos_singleton]
    exact ⟨fun ended => absurd ended going, fun ended => nomatch ended.2⟩
  | cons next others => rw [EndsWithEos, List.getLast?_cons_cons, EndsWithEos]

/--
What a part of a run leaves that had `token` in hand: the tokens `more` it produced, the
feeds and reports it made, and, when it returned, why it stopped.
-/
structure Traced
    (position token : Nat)
    (more : List Nat)
    (fed : List (Nat × Nat × Bool))
    (reported : List Nat)
    (stopped : Prop)
    (remaining : Nat)
    (limit : StopReason)
    (front : List Nat)
    (outcome : Except Thrown GenerationResult) : Prop where
  fedPrefix : fed <+: feeds position (token :: more)
  reportedPrefix : reported <+: reports options more
  few : more.length ≤ remaining
  tokenIds : ∀ result, outcome = .ok result → result.tokenIds = front ++ token :: more
  fed : ∀ result, outcome = .ok result → fed = feeds position (token :: more).dropLast
  reported : ∀ result, outcome = .ok result → reported = reports options more
  eos : ∀ result, outcome = .ok result → EndsWithEos options more →
    result.stopReason = .eos ∧ ¬ stopped
  cancelled : ∀ result, outcome = .ok result → ¬ EndsWithEos options more → stopped →
    result.stopReason = .cancelled
  limited : ∀ result, outcome = .ok result → ¬ EndsWithEos options more → ¬ stopped →
    result.stopReason = limit ∧ more.length = remaining

theorem reports_nil : reports options [] = [] := by
  unfold reports
  split <;> rfl

/-- A part that threw. -/
theorem Traced.thrown
    {position token remaining : Nat}
    {more front reported : List Nat}
    {fed : List (Nat × Nat × Bool)}
    {stopped : Prop}
    {limit : StopReason}
    (fedPrefix : fed <+: feeds position (token :: more))
    (reportedPrefix : reported <+: reports options more)
    (few : more.length ≤ remaining)
    (thrown : Thrown) :
    Traced options position token more fed reported stopped remaining limit front
      (.error thrown) :=
  ⟨fedPrefix, reportedPrefix, few, fun _ equal => (nomatch equal),
    fun _ equal => (nomatch equal), fun _ equal => (nomatch equal),
    fun _ equal => (nomatch equal), fun _ equal => (nomatch equal),
    fun _ equal => (nomatch equal)⟩

theorem Traced.returned
    {position token remaining : Nat}
    {front : List Nat}
    {stopped : Prop}
    {limit stopReason : StopReason}
    (cancelled : stopped → stopReason = .cancelled)
    (limited : ¬ stopped → stopReason = limit ∧ remaining = 0) :
    Traced options position token [] [] [] stopped remaining limit front
      (.ok ⟨front ++ [token], stopReason⟩) := by
  refine ⟨ nil_prefix, nil_prefix, Nat.zero_le _, ?_, ?_, ?_, ?_, ?_, ?_⟩
  · rintro result equal
    obtain rfl := Except.ok.inj equal
    rfl
  · exact fun _ _ => rfl
  · exact fun _ _ => (reports_nil options).symm
  · exact fun _ _ ended => nomatch ended.2
  · rintro result equal - told
    obtain rfl := Except.ok.inj equal
    exact cancelled told
  · rintro result equal - silent
    obtain rfl := Except.ok.inj equal
    exact ⟨(limited silent).1, (limited silent).2.symm⟩

theorem Traced.ended
    {position token sampled remaining : Nat}
    {front : List Nat}
    {limit : StopReason}
    (ended : EndsWithEos options [sampled]) :
    Traced options position token [sampled] [(token, position % 2 ^ 32, false)]
      (reports options [sampled]) False (remaining + 1) limit front
      (.ok ⟨front ++ [token] ++ [sampled], .eos⟩) := by
  refine ⟨(List.prefix_cons_inj _).mpr nil_prefix, prefix_rfl,
    Nat.succ_le_succ (Nat.zero_le _), ?_, ?_, ?_, ?_, ?_, ?_⟩
  · rintro result equal
    obtain rfl := Except.ok.inj equal
    simp only [append_assoc, List.cons_append, nil_append]
  · exact fun _ _ => rfl
  · exact fun _ _ => rfl
  · rintro result equal -
    obtain rfl := Except.ok.inj equal
    exact ⟨rfl, id⟩
  · exact fun _ _ other => absurd ended other
  · exact fun _ _ other => absurd ended other

theorem Traced.cons
    {position token sampled remaining : Nat}
    {more front reported : List Nat}
    {fed : List (Nat × Nat × Bool)}
    {stopped : Prop}
    {limit : StopReason}
    {outcome : Except Thrown GenerationResult}
    (going : ¬ (options.stopOnEos && sampled == options.eosTokenId) = true)
    (later : Traced options (position + 1) sampled more fed reported stopped remaining
      limit (front ++ [token]) outcome) :
    Traced options position token (sampled :: more)
      ((token, position % 2 ^ 32, false) :: fed) (reports options [sampled] ++ reported)
      stopped (remaining + 1) limit front outcome := by
  have same := endsWithEos_cons options going more
  refine ⟨(List.prefix_cons_inj _).mpr later.fedPrefix, ?_,
    Nat.succ_le_succ later.few, ?_, ?_, ?_, ?_, ?_, ?_⟩
  · have split : reports options (sampled :: more) =
        reports options [sampled] ++ reports options more := reports_append options [sampled] more
    rw [split]
    exact (List.prefix_append_right_inj _).mpr later.reportedPrefix
  · intro result equal
    rw [later.tokenIds result equal]
    simp only [append_assoc, List.cons_append, nil_append]
  · intro result equal
    rw [later.fed result equal, List.dropLast_cons_cons, feeds]
  · intro result equal
    rw [later.reported result equal, ← reports_append]
    rfl
  · exact fun result equal ended => later.eos result equal (same.mp ended)
  · exact fun result equal ended => later.cancelled result equal (mt same.mpr ended)
  · intro result equal ended silent
    obtain ⟨reason, used⟩ := later.limited result equal (mt same.mpr ended) silent
    exact ⟨reason, congrArg Nat.succ used⟩

/-- What the log of a loop holds, whether it returns or throws. -/
theorem decodeRounds_traced
    (promptSize : Nat)
    (decode : TokenStep State)
    (remaining token : Nat)
    (front : List Nat)
    (state : State)
    (log : List CallEvent) :
    ∃ more fed reported stopped new after outcome,
      decodeRounds options.recording promptSize (recordingStep decode) remaining
          (front.length + 1) token (front ++ [token]) (state, log) =
        (outcome, (after, log ++ new)) ∧
      Adds new more fed reported stopped (raised outcome) ∧
      Traced options (promptSize + front.length) token more fed reported stopped remaining
        (limitReason options promptSize) front outcome := by
  induction remaining generalizing token front state log with
  | zero =>
    refine ⟨[], [], [], False, [], state, _, ?_, ⟨rfl, rfl, rfl, rfl, by simp, rfl⟩,
      .returned options (fun told => told.elim) fun _ => ⟨rfl, rfl⟩⟩
    rw [append_nil]
    rfl
  | succ remaining ih =>
    obtain ⟨asked, pollEq, asks⟩ := poll_recording options state log
    rw [decodeRounds, pollEq]
    rcases polled : poll options state with ⟨thrown | stop, afterPoll⟩
    · rw [polled] at asks
      exact ⟨[], [], [], _, asked, afterPoll, .error thrown, rfl, asks,
        .thrown options nil_prefix nil_prefix (Nat.zero_le _) thrown⟩
    rw [polled] at asks
    cases stop with
    | true =>
      exact ⟨[], [], [], _, asked, afterPoll, _, rfl, asks,
        .returned options (fun _ => rfl) fun silent => absurd rfl silent⟩
    | false =>
      have place : promptSize + (front.length + 1) - 1 = promptSize + front.length := rfl
      simp only [andThen, Bool.false_eq_true, if_false, recordingStep, recorded, place]
      rcases decoded : decode token ((promptSize + front.length) % 2 ^ 32) false
        afterPoll with ⟨thrown | sampled, afterStep⟩
      · refine ⟨_, _, _, _, _, afterStep, .error thrown, ?_,
          asks.append (.step token _ false (.error thrown)),
          .thrown options prefix_rfl nil_prefix (Nat.zero_le _) thrown⟩
        rw [← append_assoc]
      have fedOnce := asks.append (.step token ((promptSize + front.length) % 2 ^ 32)
        false (.ok sampled))
      obtain ⟨told, reportEq, tells⟩ := report_recording options sampled afterStep
        (log ++ asked ++ [.step token ((promptSize + front.length) % 2 ^ 32) false
          (some sampled)])
      have shown : (Except.ok sampled : Except Thrown Nat).toOption = some sampled := rfl
      have quiet : (raised (Except.ok sampled : Except Thrown Nat)).map
          CallEvent.threw = [] := rfl
      simp only [shown, quiet, reportEq]
      have round : Adds (asked ++ ([.step token ((promptSize + front.length) % 2 ^ 32)
          false (some sampled)] ++ told)) [sampled]
          [(token, (promptSize + front.length) % 2 ^ 32, false)]
          (reports options [sampled]) False
          (raised (report options sampled afterStep).1) := by
        simpa [raised, Except.toOption] using fedOnce.append tells
      rcases reported : report options sampled afterStep with ⟨thrown | _, afterReport⟩
      · rw [reported] at round
        refine ⟨_, _, _, _, _, afterReport, .error thrown, ?_, round,
          .thrown options ?_ prefix_rfl (Nat.succ_le_succ (Nat.zero_le _)) thrown⟩
        · simp only [append_assoc]
        · exact (List.prefix_cons_inj _).mpr nil_prefix
      rw [reported] at round
      simp only
      by_cases ended : (options.stopOnEos && sampled == options.eosTokenId) = true
      · refine ⟨_, _, _, _, _, afterReport, _, ?_, round,
          .ended options ((endsWithEos_singleton options sampled).mpr ended)⟩
        rw [if_pos (show (options.recording.stopOnEos &&
          sampled == options.recording.eosTokenId) = true from ended)]
        simp only [append_assoc]
      · obtain ⟨more, fed, others, stopped, later, after, outcome, rest, adds, traced⟩ :=
          ih sampled (front ++ [token]) afterReport
            (log ++ asked ++ [.step token ((promptSize + front.length) % 2 ^ 32) false
              (some sampled)] ++ told)
        rw [List.length_append, List.length_singleton] at rest traced
        refine ⟨_, _, _, _, _, after, outcome, ?_, round.append adds, ?_⟩
        · rw [if_neg (show ¬ (options.recording.stopOnEos &&
            sampled == options.recording.eosTokenId) = true from ended), rest]
          simp only [append_assoc]
        · rw [false_or]
          exact traced.cons options ended

/-! ## The whole run -/

/-- What a run that produced `tokens` fed, reported and returned. -/
structure Kept
    (promptSize : Nat)
    (tokens : List Nat)
    (fed : List (Nat × Nat × Bool))
    (reported : List Nat)
    (stopped : Prop)
    (result : GenerationResult) : Prop where
  tokenIds : result.tokenIds = tokens
  fed : fed = feeds promptSize tokens.dropLast
  reported : reported = reports options tokens
  positive : 1 ≤ tokens.length
  few : tokens.length ≤ allowance options promptSize
  eos : EndsWithEos options tokens → result.stopReason = .eos ∧ ¬ stopped
  cancelled : ¬ EndsWithEos options tokens → stopped → result.stopReason = .cancelled
  limited : ¬ EndsWithEos options tokens → ¬ stopped →
    result.stopReason = limitReason options promptSize ∧
      tokens.length = allowance options promptSize

/-- The domain of the contract: what `generate_token_ids` does not refuse. -/
structure Accepted
    (prompt : List Nat) : Prop where
  nonempty : prompt ≠ []
  asked : 0 < options.maxNewTokens
  room : options.contextLimit = 0 ∨ prompt.length < options.contextLimit

variable {options}

theorem Accepted.allowance_pos
    {prompt : List Nat}
    (accepted : Accepted options prompt) :
    1 ≤ allowance options prompt.length := by
  have asked := accepted.asked
  have room := accepted.room
  rw [allowance]
  split_ifs with limited
  · obtain ⟨bounded, -⟩ := limited
    omega
  · exact asked

/-- Behind the guards, the run is its prefill and the loop. -/
theorem Accepted.generateWith_eq
    {prompt : List Nat}
    (accepted : Accepted options prompt)
    (prefill : PromptPrefill State)
    (decode : TokenStep State)
    (state : State) :
    generateWith options prompt prefill decode state =
      andThen (prefill prompt state) fun first prefilled =>
        andThen (report options first prefilled) fun _ reported =>
          if options.stopOnEos && first == options.eosTokenId then
            (.ok { tokenIds := [first], stopReason := .eos }, reported)
          else
            andThen (poll options reported) fun stop polled =>
              if stop then
                (.ok { tokenIds := [first], stopReason := .cancelled }, polled)
              else
                decodeRounds options prompt.length decode
                  (allowance options prompt.length - 1) 1 first [first] polled := by
  have asked := accepted.asked
  have room := accepted.room
  rw [generateWith, if_neg (by simpa using accepted.nonempty), if_neg (by omega),
    if_neg (by omega)]

theorem Kept.first
    {promptSize first : Nat}
    {stopReason : StopReason}
    {stopped : Prop}
    (room : 1 ≤ allowance options promptSize)
    (eos : EndsWithEos options [first] → stopReason = .eos ∧ ¬ stopped)
    (cancelled : ¬ EndsWithEos options [first] → stopped ∧ stopReason = .cancelled) :
    Kept options promptSize [first] [] (reports options [first]) stopped
      ⟨[first], stopReason⟩ :=
  ⟨rfl, rfl, rfl, Nat.le_refl _, room, eos, fun going _ => (cancelled going).2,
    fun going silent => absurd (cancelled going).1 silent⟩

/-- The log of an accepted call is that of its loop. -/
theorem Accepted.traced
    {prompt : List Nat}
    (accepted : Accepted options prompt)
    {recordedPrefill : PromptPrefill (State × List CallEvent)}
    (decode : TokenStep State)
    {source : State × List CallEvent}
    {first : Nat}
    {prefilled : State}
    {log : List CallEvent}
    (returned : recordedPrefill prompt source = (.ok first, (prefilled, log))) :
    ∃ more fed reported stopped new after outcome,
      generateWith options.recording prompt recordedPrefill (recordingStep decode) source =
          (outcome, (after, log ++ new)) ∧
        Adds new more fed reported stopped (raised outcome) ∧
        fed <+: feeds prompt.length (first :: more) ∧
        reported <+: reports options (first :: more) ∧
        ∀ result, outcome = .ok result →
          Kept options prompt.length (first :: more) fed reported stopped result := by
  have room := accepted.allowance_pos
  have guards : Accepted options.recording prompt :=
    ⟨accepted.nonempty, accepted.asked, accepted.room⟩
  rw [guards.generateWith_eq, returned]
  simp only [andThen]
  obtain ⟨told, reportEq, tells⟩ := report_recording options first prefilled log
  rw [reportEq]
  rcases reported : report options first prefilled with ⟨thrown | _, afterReport⟩ <;>
    rw [reported] at tells
  · exact ⟨[], [], _, _, told, afterReport, .error thrown, rfl, tells, nil_prefix,
      prefix_rfl, fun _ equal => (nomatch equal)⟩
  simp only
  by_cases ended : (options.stopOnEos && first == options.eosTokenId) = true
  · have eos := (endsWithEos_singleton options first).mpr ended
    refine ⟨[], [], _, _, told, afterReport, .ok ⟨[first], .eos⟩, ?_, tells,
      nil_prefix, prefix_rfl, ?_⟩
    · rw [if_pos (show (options.recording.stopOnEos &&
        first == options.recording.eosTokenId) = true from ended)]
    · rintro result equal
      obtain rfl := Except.ok.inj equal
      exact .first room (fun _ => ⟨rfl, id⟩) fun going => absurd eos going
  have going := mt (endsWithEos_singleton options first).mp ended
  rw [if_neg (show ¬ (options.recording.stopOnEos &&
    first == options.recording.eosTokenId) = true from ended)]
  obtain ⟨asked, pollEq, asks⟩ := poll_recording options afterReport (log ++ told)
  rw [pollEq]
  have front : Adds (told ++ asked) [] [] (reports options [first])
      ((poll options afterReport).1 = .ok true) (raised (poll options afterReport).1) := by
    simpa [raised] using tells.append asks
  rcases polled : poll options afterReport with ⟨thrown | stop, afterPoll⟩ <;>
    rw [polled] at front
  · refine ⟨[], [], _, _, told ++ asked, afterPoll, .error thrown, ?_, front,
      nil_prefix, prefix_rfl, fun _ equal => (nomatch equal)⟩
    simp only [append_assoc]
  cases stop with
  | true =>
    refine ⟨[], [], _, _, told ++ asked, afterPoll, .ok ⟨[first], .cancelled⟩, ?_, front,
      nil_prefix, prefix_rfl, ?_⟩
    · simp only [append_assoc, if_true]
    · rintro result equal
      obtain rfl := Except.ok.inj equal
      exact .first room (fun eos => absurd eos going) fun _ => ⟨rfl, rfl⟩
  | false =>
    obtain ⟨more, fed, others, stopped, later, after, outcome, rest, adds, traced⟩ :=
      decodeRounds_traced options prompt.length decode (allowance options prompt.length - 1)
        first [] afterPoll (log ++ told ++ asked)
    have whole : Adds (told ++ asked ++ later) more fed
        (reports options [first] ++ others) stopped (raised outcome) := by
      simpa [raised] using front.append adds
    have same := endsWithEos_cons options ended more
    have split : reports options (first :: more) =
        reports options [first] ++ reports options more :=
      reports_append options [first] more
    refine ⟨more, fed, _, stopped, told ++ asked ++ later, after, outcome, ?_, whole,
      traced.fedPrefix, ?_, ?_⟩
    · simp only [Bool.false_eq_true, if_false]
      rw [← append_assoc, ← append_assoc]
      exact rest
    · rw [split]
      exact (List.prefix_append_right_inj _).mpr traced.reportedPrefix
    · intro result equal
      have few := traced.few
      refine ⟨traced.tokenIds result equal, traced.fed result equal, ?_,
        Nat.succ_le_succ (Nat.zero_le _), ?_, fun eos => traced.eos result equal
          (same.mp eos), fun eos => traced.cancelled result equal (mt same.mpr eos), ?_⟩
      · rw [split, traced.reported result equal]
      · rw [length_cons]
        omega
      · intro eos silent
        obtain ⟨reason, used⟩ := traced.limited result equal (mt same.mpr eos) silent
        refine ⟨reason, ?_⟩
        rw [length_cons]
        omega

/-! ## The contract -/

/-- The calls of the decode step, in order. -/
def decodeCalls (log : List CallEvent) : List (Nat × Nat × Bool) :=
  (log.filterMap CallEvent.fed?).filter fun call => !call.2.2

/-- The calls of a step for a prompt token, in order. -/
def promptCalls (log : List CallEvent) : List (Nat × Nat × Bool) :=
  (log.filterMap CallEvent.fed?).filter fun call => call.2.2

/-- The tokens of a prompt from a position on, as the step is given them. -/
def promptFeeds : Nat → List Nat → List (Nat × Nat × Bool)
  | _, [] => []
  | position, token :: rest =>
    (token, position % 2 ^ 32, true) :: promptFeeds (position + 1) rest

/-- What holds of a run that returned, and of the calls it made. -/
structure Honoured
    (options : CallbackOptions State)
    (prompt : List Nat)
    (log : List CallEvent)
    (result : GenerationResult) : Prop where
  /-- All generated tokens but the last were fed, each behind the other. -/
  fed : decodeCalls log = feeds prompt.length result.tokenIds.dropLast
  reported : options.onToken.isSome → log.filterMap CallEvent.reported? = result.tokenIds
  atLeast : 1 ≤ result.tokenIds.length
  atMost : result.tokenIds.length ≤ options.maxNewTokens
  inside : options.contextLimit ≠ 0 →
    result.tokenIds.length ≤ options.contextLimit - prompt.length
  eos : result.stopReason = .eos ↔ EndsWithEos options result.tokenIds
  cancelled : result.stopReason = .cancelled ↔ true ∈ log.filterMap CallEvent.answer?
  contextLimit : result.stopReason = .contextLimit ↔
    ContextLimited options prompt.length ∧ ¬ EndsWithEos options result.tokenIds ∧
      true ∉ log.filterMap CallEvent.answer?
  maxNewTokens : result.stopReason = .maxNewTokens ↔
    ¬ ContextLimited options prompt.length ∧ ¬ EndsWithEos options result.tokenIds ∧
      true ∉ log.filterMap CallEvent.answer?
  /-- A run that a bound stopped used it up. -/
  used : ¬ EndsWithEos options result.tokenIds →
    true ∉ log.filterMap CallEvent.answer? →
      result.tokenIds.length = allowance options prompt.length

theorem filter_feeds
    (position : Nat)
    (tokens : List Nat) :
    (feeds position tokens).filter (fun call => !call.2.2) = feeds position tokens := by
  induction tokens generalizing position with
  | nil => rfl
  | cons token rest ih =>
    rw [feeds, List.filter_cons_of_pos rfl, ih]

theorem filter_promptFeeds
    (position : Nat)
    (tokens : List Nat) :
    (promptFeeds position tokens).filter (fun call => !call.2.2) = [] ∧
      (promptFeeds position tokens).filter (fun call => call.2.2) =
        promptFeeds position tokens ∧
      (feeds position tokens).filter (fun call => call.2.2) = [] := by
  induction tokens generalizing position with
  | nil => exact ⟨rfl, rfl, rfl⟩
  | cons token rest ih =>
    obtain ⟨none, all, other⟩ := ih (position + 1)
    refine ⟨?_, ?_, ?_⟩
    · rw [promptFeeds, List.filter_cons_of_neg (by simp), none]
    · rw [promptFeeds, List.filter_cons_of_pos rfl, all]
    · rw [feeds, List.filter_cons_of_neg (by simp), other]

/-- The allowance is within both limits. -/
theorem allowance_bounds
    (options : CallbackOptions State)
    (promptSize : Nat) :
    allowance options promptSize ≤ options.maxNewTokens ∧
      (options.contextLimit ≠ 0 →
        allowance options promptSize ≤ options.contextLimit - promptSize) := by
  rw [allowance]
  split_ifs with limited
  · obtain ⟨-, fewer⟩ := limited
    exact ⟨Nat.le_of_lt fewer, fun _ => Nat.le_refl _⟩
  · refine ⟨Nat.le_refl _, fun bounded => ?_⟩
    exact Nat.le_of_not_lt fun fewer => limited ⟨bounded, fewer⟩

/-- A kept run, behind a prefill that neither reported nor polled. -/
theorem Kept.honoured
    {prompt tokens returned reported : List Nat}
    {fed : List (Nat × Nat × Bool)}
    {stopped : Prop}
    {thrown : List Thrown}
    {front new : List CallEvent}
    {result : GenerationResult}
    (kept : Kept options prompt.length tokens fed reported stopped result)
    (adds : Adds new returned fed reported stopped thrown)
    (frontFed : decodeCalls front = [])
    (frontReported : front.filterMap CallEvent.reported? = [])
    (frontAnswers : front.filterMap CallEvent.answer? = []) :
    Honoured options prompt (front ++ new) result := by
  have told : true ∈ (front ++ new).filterMap CallEvent.answer? ↔ stopped := by
    rw [filterMap_append, frontAnswers, nil_append, adds.stopped]
  have ids := kept.tokenIds
  obtain ⟨most, inside⟩ := allowance_bounds options prompt.length
  have limitNot : limitReason options prompt.length ≠ .eos ∧
      limitReason options prompt.length ≠ .cancelled := by
    unfold limitReason
    split <;> decide
  have reasons : (EndsWithEos options tokens ∧ ¬ stopped ∧ result.stopReason = .eos) ∨
      (¬ EndsWithEos options tokens ∧ stopped ∧ result.stopReason = .cancelled) ∨
      (¬ EndsWithEos options tokens ∧ ¬ stopped ∧
        result.stopReason = limitReason options prompt.length) := by
    by_cases eos : EndsWithEos options tokens
    · exact .inl ⟨eos, (kept.eos eos).2, (kept.eos eos).1⟩
    · by_cases stop : stopped
      · exact .inr (.inl ⟨eos, stop, kept.cancelled eos stop⟩)
      · exact .inr (.inr ⟨eos, stop, (kept.limited eos stop).1⟩)
  refine ⟨?_, ?_, ?_, ?_, ?_, ?_, ?_, ?_, ?_, ?_⟩
  · rw [ids, decodeCalls, filterMap_append, List.filter_append, adds.fed, kept.fed,
      filter_feeds]
    exact congrArg (· ++ _) frontFed
  · intro given
    rw [ids, filterMap_append, frontReported, adds.reported, kept.reported, reports,
      if_pos given, nil_append]
  · exact ids ▸ kept.positive
  · exact ids ▸ Nat.le_trans kept.few most
  · exact fun bounded => ids ▸ Nat.le_trans kept.few (inside bounded)
  · rw [ids]
    rcases reasons with ⟨eos, -, reason⟩ | ⟨eos, -, reason⟩ | ⟨eos, -, reason⟩
    · simp only [reason, eos]
    · simp only [reason, eos, reduceCtorEq]
    · simp only [reason, eos, limitNot.1]
  · rw [told]
    rcases reasons with ⟨-, stop, reason⟩ | ⟨-, stop, reason⟩ | ⟨-, stop, reason⟩
    · simp only [reason, stop, reduceCtorEq]
    · simp only [reason, stop]
    · simp only [reason, stop, limitNot.2]
  · rw [ids, told]
    rcases reasons with ⟨eos, stop, reason⟩ | ⟨eos, stop, reason⟩ | ⟨eos, stop, reason⟩
    · simp only [reason, eos, reduceCtorEq, not_true_eq_false, false_and, and_false]
    · simp only [reason, stop, reduceCtorEq, not_true_eq_false, and_false]
    · rw [reason, limitReason]
      split_ifs with limited
      · simp only [limited, eos, stop, not_false_eq_true, and_self]
      · simp only [limited, false_and]
  · rw [ids, told]
    rcases reasons with ⟨eos, stop, reason⟩ | ⟨eos, stop, reason⟩ | ⟨eos, stop, reason⟩
    · simp only [reason, eos, reduceCtorEq, not_true_eq_false, false_and, and_false]
    · simp only [reason, stop, reduceCtorEq, not_true_eq_false, and_false]
    · rw [reason, limitReason]
      split_ifs with limited
      · simp only [limited, not_true_eq_false, false_and]
      · simp only [limited, eos, stop, not_false_eq_true, and_self]
  · rw [ids, told]
    exact fun eos stop => (kept.limited eos stop).2

/-- A walk of the prompt feeds it token by token. -/
theorem walkPrompt_traced
    (step : TokenStep State)
    (index nextToken : Nat)
    (tokens : List Nat)
    (state : State)
    (log : List CallEvent) :
    ∃ returned fed new after outcome,
      walkPrompt (recordingStep step) index nextToken tokens (state, log) =
          (outcome, (after, log ++ new)) ∧
        walkPrompt step index nextToken tokens state = (outcome, after) ∧
        Adds new returned fed [] False (raised outcome) ∧
        new.filterMap CallEvent.answer? = [] ∧
        (∀ token, outcome = .ok token → fed = promptFeeds index tokens) := by
  induction tokens generalizing index nextToken state log with
  | nil =>
    refine ⟨[], [], [], state, .ok nextToken, ?_, rfl,
      ⟨rfl, rfl, rfl, rfl, by simp, rfl⟩, rfl, fun _ _ => rfl⟩
    rw [append_nil]
    rfl
  | cons token rest ih =>
    simp only [walkPrompt, andThen, recordingStep, recorded]
    rcases stepped : step token (index % 2 ^ 32) true state with ⟨thrown | sampled, after⟩
    · exact ⟨_, _, _, after, .error thrown, rfl, rfl, .step token _ true (.error thrown),
        rfl, fun _ equal => (nomatch equal)⟩
    · obtain ⟨returned, fed, new, last, outcome, walked, plain, adds, silent, whole⟩ :=
        ih (index + 1) sampled after
          (log ++ [.step token (index % 2 ^ 32) true (some sampled)])
      have both : Adds ([.step token (index % 2 ^ 32) true (some sampled)] ++ new)
          (sampled :: returned) ((token, index % 2 ^ 32, true) :: fed) [] False
          (raised outcome) := by
        have added :=
          (Adds.step token (index % 2 ^ 32) true (.ok sampled)).append adds
        rwa [or_self] at added
      refine ⟨_, _, _, last, outcome, ?_, plain, both, ?_, ?_⟩
      · rw [← append_assoc]
        exact walked
      · rw [filterMap_append, silent]
        rfl
      · intro token equal
        rw [whole token equal]
        rfl

theorem forget_walkPrompt
    (step : TokenStep State)
    (tokens : List Nat)
    (source : State × List CallEvent) :
    forget (walkPrompt (recordingStep step) 0 0 tokens source) =
      walkPrompt step 0 0 tokens source.1 := by
  obtain ⟨_, _, _, after, outcome, walked, plain, _⟩ :=
    walkPrompt_traced step 0 0 tokens source.1 source.2
  rw [plain]
  exact congrArg forget walked

/-- Positions that do not wrap are the positions behind the prompt. -/
theorem feeds_exact
    {position : Nat}
    {tokens : List Nat}
    (small : position + tokens.length ≤ 2 ^ 32) :
    feeds position tokens =
      tokens.mapIdx fun index token => (token, position + index, false) := by
  induction tokens generalizing position with
  | nil => rfl
  | cons token rest ih =>
    rw [length_cons] at small
    rw [feeds, ih (by omega), List.mapIdx_cons,
      Nat.mod_eq_of_lt (by omega)]
    refine congrArg (_ :: List.mapIdx · rest) (funext fun index => funext fun other => ?_)
    rw [Nat.add_assoc, Nat.add_comm 1 index]

/-! ## Callbacks that do not throw -/

/-- An attempt that returned. -/
def Returns {Value : Type} (attempt : Attempt State Value) : Prop :=
  ∃ value, attempt.1 = .ok value

/-- The callbacks of the loop never throw. -/
structure Quiet
    (options : CallbackOptions State)
    (step : TokenStep State) : Prop where
  step : ∀ token position ofPrompt state, Returns (step token position ofPrompt state)
  onToken : ∀ callback, options.onToken = some callback →
    ∀ token state, Returns (callback token state)
  cancelled : ∀ hook, options.cancelled = some hook → ∀ state, Returns (hook state)

theorem Returns.andThen
    {First Second : Type}
    {attempt : Attempt State First}
    {next : First → State → Attempt State Second}
    (returns : Returns attempt)
    (later : ∀ value after, Returns (next value after)) :
    Returns (andThen attempt next) := by
  obtain ⟨outcome, after⟩ := attempt
  obtain ⟨value, rfl⟩ : ∃ value, outcome = .ok value := returns
  exact later value after

namespace Quiet

variable {step : TokenStep State} (quiet : Quiet options step)

include quiet

theorem report_returns
    (token : Nat)
    (state : State) :
    Returns (report options token state) := by
  unfold report
  split
  · exact ⟨(), rfl⟩
  · next given => exact quiet.onToken _ given token state

theorem poll_returns (state : State) : Returns (poll options state) := by
  unfold poll
  split
  · exact ⟨false, rfl⟩
  · next given => exact quiet.cancelled _ given state

/-- With callbacks that never throw the loop returns, -/
theorem decodeRounds_returns
    (promptSize remaining generated token : Nat)
    (tokenIds : List Nat)
    (state : State) :
    Returns
      (decodeRounds options promptSize step remaining generated token tokenIds state) := by
  induction remaining generalizing generated token tokenIds state with
  | zero => exact ⟨_, rfl⟩
  | succ remaining ih =>
    refine (quiet.poll_returns state).andThen fun stop polled => ?_
    split
    · exact ⟨_, rfl⟩
    refine (quiet.step _ _ _ _).andThen fun sampled decoded => ?_
    refine (quiet.report_returns _ _).andThen fun _ reported => ?_
    split
    · exact ⟨_, rfl⟩
    · exact ih _ _ _ _

/-- A run of callbacks that never throw returns. -/
theorem generateWith_returns
    {prompt : List Nat}
    (accepted : Accepted options prompt)
    {prefill : PromptPrefill State}
    {state : State}
    (prefills : Returns (prefill prompt state)) :
    Returns (generateWith options prompt prefill step state) := by
  rw [accepted.generateWith_eq]
  refine prefills.andThen fun first prefilled => ?_
  refine (quiet.report_returns _ _).andThen fun _ reported => ?_
  split
  · exact ⟨_, rfl⟩
  refine (quiet.poll_returns _).andThen fun stop polled => ?_
  split
  · exact ⟨_, rfl⟩
  · exact quiet.decodeRounds_returns _ _ _ _ _ _

/-- and so does the walk. -/
theorem walkPrompt_returns
    (index nextToken : Nat)
    (tokens : List Nat)
    (state : State) :
    Returns (walkPrompt step index nextToken tokens state) := by
  induction tokens generalizing index nextToken state with
  | nil => exact ⟨_, rfl⟩
  | cons token rest ih => exact (quiet.step _ _ _ _).andThen fun _ _ => ih _ _ _

end Quiet

/--
The contract of the loop, for all callbacks.  The prefill is called once, on the prompt.
The decode step is fed the token returned last, at the positions behind the prompt.  A
run that returns has fed every token but its last, reported every token once and in
order, and says why it stopped.  What a run throws is what one of its calls threw, and a
run in which none threw returns.  The one-step overload feeds the prompt token by token
and is otherwise the same run.
-/
theorem generate_contract
    {prompt : List Nat}
    (accepted : Accepted options prompt)
    (prefill : PromptPrefill State)
    (decode : TokenStep State)
    (state : State) :
    (∃ outcome after log,
      generateWith options prompt prefill decode state = (outcome, after) ∧
        generateWith options.recording prompt (recordingPrefill prefill)
            (recordingStep decode) (state, []) = (outcome, (after, log)) ∧
        log.filterMap CallEvent.prompt? = [prompt] ∧
        log.filterMap CallEvent.thrown? = raised outcome ∧
        log.filterMap CallEvent.fed? <+:
          feeds prompt.length (log.filterMap CallEvent.returned?) ∧
        ∀ result, outcome = .ok result →
          log.filterMap CallEvent.returned? = result.tokenIds ∧
            Honoured options prompt log result ∧
            (prompt.length + result.tokenIds.length ≤ 2 ^ 32 →
              decodeCalls log = result.tokenIds.dropLast.mapIdx fun index token =>
                (token, prompt.length + index, false))) ∧
      (Quiet options decode → Returns (prefill prompt state) →
        Returns (generateWith options prompt prefill decode state)) ∧
      (generateByStep options prompt decode state =
        generateWith options prompt (fun tokens => walkPrompt decode 0 0 tokens) decode
          state) ∧
      (Quiet options decode → Returns (generateByStep options prompt decode state)) ∧
      ∃ outcome after log,
        generateByStep options prompt decode state = (outcome, after) ∧
          generateByStep options.recording prompt (recordingStep decode) (state, []) =
            (outcome, (after, log)) ∧
          log.filterMap CallEvent.thrown? = raised outcome ∧
          ∀ result, outcome = .ok result →
            promptCalls log = promptFeeds 0 prompt ∧
              Honoured options prompt log result := by
  refine ⟨?_, fun quiet => quiet.generateWith_returns accepted, rfl,
    fun quiet => quiet.generateWith_returns accepted (quiet.walkPrompt_returns _ _ _ _), ?_⟩
  · have plain := @forget_generateWith _ options prompt prefill (recordingPrefill prefill)
      (fun _ => rfl) decode (state, [])
    rcases prefilled : prefill prompt state with ⟨thrown | first, after⟩
    · have guards : Accepted options.recording prompt :=
        ⟨accepted.nonempty, accepted.asked, accepted.room⟩
      have run : generateWith options.recording prompt (recordingPrefill prefill)
          (recordingStep decode) (state, []) =
            (.error thrown, (after, [.prefill prompt none, .threw thrown])) := by
        rw [guards.generateWith_eq]
        simp only [recordingPrefill, recorded, prefilled, andThen]
        rfl
      rw [run] at plain
      exact ⟨.error thrown, after, _, plain.symm, run, rfl, rfl, nil_prefix,
        fun _ equal => (nomatch equal)⟩
    · have returned : recordingPrefill prefill prompt (state, []) =
          (.ok first, (after, [.prefill prompt (some first)])) := by
        simp only [recordingPrefill, recorded, prefilled]
        rfl
      obtain ⟨more, fed, reported, stopped, new, last, outcome, run, adds, fedPrefix, -,
        kept⟩ := accepted.traced decode returned
      rw [run] at plain
      have returns : ([CallEvent.prefill prompt (some first)] ++ new).filterMap
          CallEvent.returned? = first :: more := by
        rw [filterMap_append, adds.returned]
        rfl
      refine ⟨outcome, last, _, plain.symm, run, ?_, ?_, ?_, fun result equal => ?_⟩
      · rw [filterMap_append, adds.prompts]
        rfl
      · rw [filterMap_append, adds.thrown]
        rfl
      · rw [returns, filterMap_append, adds.fed]
        exact fedPrefix
      · have ids := (kept result equal).tokenIds
        have honoured := @Kept.honoured _ options prompt _ _ _ _ _ _
          [.prefill prompt (some first)] _ _ (kept result equal) adds rfl rfl rfl
        refine ⟨returns.trans ids.symm, honoured, fun small => ?_⟩
        rw [honoured.fed]
        refine feeds_exact ?_
        rw [List.length_dropLast]
        omega
  · obtain ⟨returned, walkFed, front, after, outcome, walked, -, walkAdds, silent, whole⟩ :=
      walkPrompt_traced decode 0 0 prompt state []
    have plain := @forget_generateWith _ options prompt
      (fun tokens => walkPrompt decode 0 0 tokens)
      (fun tokens => walkPrompt (recordingStep decode) 0 0 tokens)
      (forget_walkPrompt decode prompt) decode (state, [])
    rw [nil_append] at walked
    rcases outcome with thrown | first
    · have guards : Accepted options.recording prompt :=
        ⟨accepted.nonempty, accepted.asked, accepted.room⟩
      have run : generateByStep options.recording prompt (recordingStep decode) (state, []) =
          (.error thrown, (after, front)) := by
        rw [generateByStep, guards.generateWith_eq, walked]
        rfl
      refine ⟨.error thrown, after, front, ?_, run, walkAdds.thrown,
        fun _ equal => (nomatch equal)⟩
      exact plain.symm.trans (congrArg forget run)
    · obtain ⟨more, fed, reported, stopped, new, last, outcome, run, adds, -, -, kept⟩ :=
        @Accepted.traced _ options prompt accepted
          (fun tokens => walkPrompt (recordingStep decode) 0 0 tokens) decode (state, [])
          first after front walked
      have walks := whole first rfl
      obtain ⟨noDecode, allPrompt, -⟩ := filter_promptFeeds 0 prompt
      refine ⟨outcome, last, front ++ new, plain.symm.trans (congrArg forget run), run,
        ?_, fun result equal => ⟨?_, ?_⟩⟩
      · rw [filterMap_append, walkAdds.thrown, adds.thrown]
        rfl
      · rw [promptCalls, filterMap_append, List.filter_append, walkAdds.fed, walks,
          allPrompt, adds.fed, (kept result equal).fed, (filter_promptFeeds _ _).2.2,
          append_nil]
      · refine (kept result equal).honoured adds ?_ walkAdds.reported silent
        rw [decodeCalls, walkAdds.fed, walks, noDecode]

/-- Five tokens asked for, room for three; the callbacks count their calls. -/
def countingOptions : CallbackOptions Nat where
  maxNewTokens := 5
  contextLimit := 5
  onToken := some fun _ count => (.ok (), count + 1)
  cancelled := some fun count => (.ok (count == 9), count + 1)

/-- A step that samples the next number. -/
def countingStep : TokenStep Nat :=
  fun token _ _ count => (.ok (token + 1), count + 1)

/-- The context stops the run after three tokens, two of them fed. -/
theorem countingOptions_contract :
    ∃ after log,
      generateByStep countingOptions [7, 8] countingStep 0 =
          (.ok ⟨[9, 10, 11], .contextLimit⟩, after) ∧
        generateByStep countingOptions.recording [7, 8] (recordingStep countingStep)
          (0, []) = (.ok ⟨[9, 10, 11], .contextLimit⟩, (after, log)) ∧
        promptCalls log = [(7, 0, true), (8, 1, true)] ∧
        decodeCalls log = [(9, 2, false), (10, 3, false)] ∧
        log.filterMap CallEvent.reported? = [9, 10, 11] ∧
        Honoured countingOptions [7, 8] log ⟨[9, 10, 11], .contextLimit⟩ := by
  have accepted : Accepted countingOptions [7, 8] :=
    ⟨by decide, by decide, .inr (by decide)⟩
  obtain ⟨outcome, after, log, ran, kept, -, honours⟩ :=
    (generate_contract accepted (fun _ count => (.ok 9, count)) countingStep 0).2.2.2.2
  have evaluated : (generateByStep countingOptions [7, 8] countingStep 0).1 =
      .ok ⟨[9, 10, 11], .contextLimit⟩ := rfl
  obtain rfl : outcome = .ok ⟨[9, 10, 11], .contextLimit⟩ := by
    rw [← evaluated, ran]
  obtain ⟨walked, honoured⟩ := honours _ rfl
  exact ⟨after, log, ran, kept, walked, honoured.fed, honoured.reported rfl, honoured⟩

end Recording

/-! ## The engine's loop -/

section Engine

variable {State : Type} {options : GenerationOptions}

/-- What a callback from outside threw, as it leaves the loop. -/
def fromOutside
    {Value : Type} : Except External Value → Except Thrown Value
  | .ok value => .ok value
  | .error thrown => .error (.external thrown)

/-- The answers of `options` as callbacks, on the tokens reported and the polls taken. -/
def GenerationOptions.callbacks
    (options : GenerationOptions) : CallbackOptions (State × List Nat × Nat) where
  maxNewTokens := options.maxNewTokens
  eosTokenId := options.eosTokenId
  contextLimit := options.contextLimit
  stopOnEos := options.stopOnEos
  onToken := some fun token source =>
    (fromOutside (options.onToken (source.2.1 ++ [token])),
      (source.1, source.2.1 ++ [token], source.2.2))
  cancelled := some fun source =>
    (fromOutside (options.cancelled source.2.2), (source.1, source.2.1, source.2.2 + 1))

theorem callbacks_fields :
    (@GenerationOptions.callbacks State options).maxNewTokens = options.maxNewTokens ∧
      (@GenerationOptions.callbacks State options).eosTokenId = options.eosTokenId ∧
      (@GenerationOptions.callbacks State options).contextLimit = options.contextLimit ∧
      (@GenerationOptions.callbacks State options).stopOnEos = options.stopOnEos :=
  ⟨rfl, rfl, rfl, rfl⟩

/-- A step of the engine, which leaves the tokens and the polls as they are. -/
def beside
    {Value : Type}
    (attempt : State → Attempt State Value)
    (source : State × List Nat × Nat) : Attempt (State × List Nat × Nat) Value :=
  ((attempt source.1).1, ((attempt source.1).2, source.2))

/-- What an attempt leaves of the engine. -/
def engine
    {Value : Type}
    (attempt : Attempt (State × List Nat × Nat) Value) : Attempt State Value :=
  (attempt.1, attempt.2.1)

/-- The engine's loop, round by round. -/
theorem decodeRounds_engine
    {promptSize : Nat}
    (decode : Nat → Nat → State → Attempt State Nat)
    {remaining generated : Nat}
    (small : promptSize + (generated + remaining) ≤ 2 ^ 32)
    (token : Nat)
    (tokens : List Nat)
    (state : State) :
    engine (decodeRounds options.callbacks promptSize
        (fun token position _ => beside (decode token position)) remaining generated token
        tokens (state, tokens, generated)) =
      decodeLoop options promptSize
        (limitReason (@GenerationOptions.callbacks State options) promptSize) decode remaining
        generated token tokens state := by
  have same := @callbacks_fields State options
  induction remaining generalizing generated token tokens state with
  | zero => rfl
  | succ remaining ih =>
    have asked : poll options.callbacks (state, tokens, generated) =
        (fromOutside (options.cancelled generated), (state, tokens, generated + 1)) := rfl
    have place : (promptSize + generated - 1) % 2 ^ 32 = promptSize + generated - 1 :=
      Nat.mod_eq_of_lt (by omega)
    rw [decodeRounds, decodeLoop, asked, place]
    rcases options.cancelled generated with thrown | _ | _
    · rfl
    · simp only [fromOutside, andThen, Bool.false_eq_true, if_false, beside]
      rcases decode token (promptSize + generated - 1) state with ⟨thrown | sampled, after⟩
      · rfl
      have told : report options.callbacks sampled (after, tokens, generated + 1) =
          (fromOutside (options.onToken (tokens ++ [sampled])),
            (after, tokens ++ [sampled], generated + 1)) := rfl
      simp only [told]
      rcases options.onToken (tokens ++ [sampled]) with thrown | _
      · rfl
      simp only [fromOutside, same]
      by_cases ended : (options.stopOnEos && sampled == options.eosTokenId) = true
      · rw [if_pos ended, if_pos ended]
        rfl
      · rw [if_neg ended, if_neg ended]
        exact ih (by omega) _ _ _
    · rfl

/--
The engine's model of the loop is the same loop: its callbacks are those of the options,
and the positions of a prompt with its allowance do not wrap.
-/
theorem generateTokenIds_engine
    {prompt : List Nat}
    (small : prompt.length + options.maxNewTokens ≤ 2 ^ 32)
    (prefill : List Nat → State → Attempt State Nat)
    (decode : Nat → Nat → State → Attempt State Nat)
    (state : State) :
    generateTokenIds prompt options prefill decode state =
      engine (generateWith options.callbacks prompt (fun tokens => beside (prefill tokens))
        (fun token position _ => beside (decode token position)) (state, [], 0)) := by
  have most : allowance (@GenerationOptions.callbacks State options) prompt.length ≤
      options.maxNewTokens :=
    (allowance_bounds options.callbacks prompt.length).1
  have same := @callbacks_fields State options
  unfold generateTokenIds generateWith
  simp only [same]
  by_cases empty : prompt.isEmpty = true
  · rw [if_pos empty, if_pos empty]
    rfl
  rw [if_neg empty, if_neg empty]
  by_cases asked : options.maxNewTokens = 0
  · rw [if_pos asked, if_pos asked]
    rfl
  rw [if_neg asked, if_neg asked]
  by_cases full : options.contextLimit ≠ 0 ∧ options.contextLimit ≤ prompt.length
  · rw [if_pos full, if_pos full]
    rfl
  rw [if_neg full, if_neg full]
  simp only [andThen, beside]
  rcases prefill prompt state with ⟨thrown | first, after⟩
  · rfl
  have told : report options.callbacks first (after, [], 0) =
      (fromOutside (options.onToken [first]), (after, [first], 0)) := rfl
  simp only [told]
  rcases options.onToken [first] with thrown | _
  · rfl
  simp only [fromOutside]
  by_cases ended : (options.stopOnEos && first == options.eosTokenId) = true
  · rw [if_pos ended, if_pos ended]
    rfl
  rw [if_neg ended, if_neg ended]
  have polled : poll options.callbacks (after, [first], 0) =
      (fromOutside (options.cancelled 0), (after, [first], 1)) := rfl
  simp only [polled]
  rcases options.cancelled 0 with thrown | _ | _
  · rfl
  · have loop := @decodeRounds_engine _ options prompt.length decode
      (allowance (@GenerationOptions.callbacks State options) prompt.length - 1) 1
      (by omega) first [first] after
    refine Eq.trans ?_ loop.symm
    by_cases limited : options.contextLimit ≠ 0 ∧
        options.contextLimit - prompt.length < options.maxNewTokens
    · simp only [availableTokens, if_pos limited, allowance, limitReason,
        if_pos (show ContextLimited options.callbacks prompt.length from limited), if_true]
      rfl
    · simp only [availableTokens, if_neg limited, allowance, limitReason,
        if_neg (show ¬ ContextLimited options.callbacks prompt.length from limited),
        Bool.false_eq_true, if_false]
      rfl
  · rfl

end Engine

end Aeon.Text
