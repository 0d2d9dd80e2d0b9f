import Aeon.SessionEngine

namespace Aeon.Runtime

open Aeon.Session (PositionGap PrefixRecord ReuseDecision)
open Aeon.Text

/-!
# The session record describes the device state

Record and device state are advanced at three sites: a prefill window, a decode
step and the cold start.  The invariant is that a record which can still be
reused (it is not empty and its epoch is the host's) names exactly what the
devices were fed.  Every exception point keeps it but one: a decode step whose
forward pass throws midway leaves a partially advanced state behind a record that
nobody clears.
-/

namespace Engine

/-- The devices hold the record's tokens, each at its own position. -/
def Agrees (engine : Engine) : Prop :=
  engine.device.partiallyAdvanced = false ∧
    engine.device.fed = engine.session.ids.zipIdx

/-- A record that can still be reused agrees with the devices. -/
def Described (engine : Engine) : Prop :=
  engine.session.ids ≠ [] →
    engine.sessionEpoch ≤ engine.stateEpoch ∧
      (engine.sessionEpoch = engine.stateEpoch → engine.Agrees)

/--
The engine inside a call under `key`: the record holds `ids` and, where `Clean`,
the devices agree with it.
-/
structure Holding
    (engine : Engine)
    (Clean : Prop)
    (key : Bytes)
    (ids : List Nat) : Prop where
  idsEq : engine.session.ids = ids
  keyEq : engine.session.key = key
  epochEq : engine.sessionEpoch = engine.stateEpoch
  agrees : Clean → engine.Agrees

/-- What an exception leaves behind. -/
def Abandoned
    (Clean : Prop)
    (thrown : Thrown)
    (engine : Engine) : Prop :=
  (∀ gap, thrown ≠ .positionGap gap) ∧ (Clean → engine.Described)

variable {engine : Engine} {Clean : Prop} {key : Bytes} {ids : List Nat}

theorem Holding.described
    (holding : engine.Holding Clean key ids)
    (clean : Clean) :
    engine.Described := by
  intro _
  exact ⟨Nat.le_of_eq holding.epochEq, fun _ => holding.agrees clean⟩

/-- A callback's exception leaves the engine as it was. -/
theorem Holding.abandoned
    (holding : engine.Holding Clean key ids)
    (thrown : External) :
    Abandoned Clean (.external thrown) engine :=
  ⟨by simp, holding.described⟩

theorem described_of_empty
    (empty : engine.session.ids = []) :
    engine.Described := by
  intro nonempty
  exact absurd empty nonempty

/-- A completed pass over the next tokens and their feeds keep the agreement. -/
theorem Agrees.feed
    (agrees : engine.Agrees)
    (tokens : List Nat)
    (session : PrefixRecord)
    (fed : session.ids = engine.session.ids ++ tokens) :
    Agrees
      { engine with
        device := engine.device.forward .completed
          engine.session.ids.length tokens
        session := session } := by
  obtain ⟨whole, recorded⟩ := agrees
  refine ⟨whole, ?_⟩
  simp [Device.forward, recorded, fed, List.zipIdx_append]

/-- The same inside a call. -/
theorem Holding.feed
    (holding : engine.Holding Clean key ids)
    {position : Nat}
    (next : engine.session.ids.length = position)
    (tokens : List Nat) :
    Holding
      { engine with
        device := engine.device.forward .completed position tokens
        session :=
          { engine.session with ids := engine.session.ids ++ tokens } }
      Clean key (ids ++ tokens) := by
  subst next
  exact {
    idsEq := by rw [holding.idsEq]
    keyEq := holding.keyEq
    epochEq := holding.epochEq
    agrees := fun clean => (holding.agrees clean).feed tokens _ rfl }

end Engine

open Engine

theorem feedWindow_next
    (record : PrefixRecord)
    (tokens : List Nat) :
    feedWindow record record.ids.length tokens =
      (.ok (), { record with ids := record.ids ++ tokens }) := by
  induction tokens generalizing record with
  | nil =>
    simp [feedWindow]
  | cons tokenId tokens ih =>
    have following :=
      ih { record with ids := record.ids ++ [tokenId] }
    simp only [List.length_append, List.length_singleton] at following
    simp [feedWindow, PrefixRecord.feed_next, following]

theorem reuseDecision_reused
    {engine : Engine}
    {call : GenerateCall}
    (reused : (engine.reuseDecision call).verdict = .reused) :
    engine.session.ids ≠ [] ∧
      engine.session.key = call.computationKey ∧
      engine.session.ids <+: call.prompt ∧
      engine.sessionEpoch = engine.stateEpoch ∧
      (engine.reuseDecision call).start = engine.session.ids.length := by
  unfold reuseDecision at reused ⊢
  split at reused
  · next asked =>
      dsimp only at reused
      split at reused
      · simp at reused
      · next current =>
          obtain ⟨nonempty, sameKey, _, isPrefix⟩ :=
            (PrefixRecord.plan_reused_iff _ _ _).mp reused
          have sameEpoch : engine.sessionEpoch = engine.stateEpoch := by
            by_contra differs
            exact current ⟨reused, differs⟩
          have start := engine.session.plan_start
            call.prompt call.computationKey
          rw [if_pos reused] at start
          simp only [asked, if_true, if_neg current]
          exact ⟨nonempty, sameKey, isPrefix, sameEpoch, start⟩
  · simp at reused

theorem reuseDecision_cold
    {engine : Engine}
    {call : GenerateCall}
    (rebuilt : (engine.reuseDecision call).verdict ≠ .reused) :
    (engine.reuseDecision call).start = 0 := by
  unfold reuseDecision at rebuilt ⊢
  split at rebuilt
  · next asked =>
      dsimp only at rebuilt
      split at rebuilt
      · next stale => simp [asked, stale]
      · next current =>
          have start := engine.session.plan_start
            call.prompt call.computationKey
          rw [if_neg rebuilt] at start
          simp only [asked, if_true, if_neg current]
          exact start
  · next unasked => simp [unasked]

section Call

variable {engine : Engine}
variable {Clean : Prop}
variable (setup : EngineSetup)
variable (call : GenerateCall)

theorem prepare_holding
    (described : Clean → engine.Described) :
    (engine.prepare (engine.reuseDecision call).start
        call.computationKey).Holding Clean call.computationKey
      (call.prompt.take (engine.reuseDecision call).start) := by
  by_cases reused : (engine.reuseDecision call).verdict = .reused
  · obtain ⟨nonempty, sameKey, isPrefix, sameEpoch, start⟩ :=
      reuseDecision_reused reused
    have positive : engine.session.ids.length ≠ 0 := by
      simpa using nonempty
    simp only [prepare, start, if_neg positive]
    exact {
      idsEq := List.prefix_iff_eq_take.mp isPrefix
      keyEq := sameKey
      epochEq := sameEpoch
      agrees := fun clean => (described clean nonempty).2 sameEpoch }
  · simp only [prepare, reuseDecision_cold reused, if_true]
    exact {
      idsEq := by simp [PrefixRecord.begin, PrefixRecord.clear]
      keyEq := by simp [PrefixRecord.begin]
      epochEq := rfl
      agrees := fun _ => ⟨rfl, by
        simp [PrefixRecord.begin, PrefixRecord.clear,
          resetGenerationState]⟩ }

/-- What the window loop gives, for the exceptions prefill treats apart. -/
def WindowsSettle
    (Clean : Prop)
    (attempt : Attempt Engine Unit) : Prop :=
  match attempt with
  | (.ok (), after) => after.Holding Clean call.computationKey call.prompt
  | (.error (.external .generationCancelled), after) =>
    Clean → after.Described
  | (.error thrown, _) => ∀ gap, thrown ≠ .positionGap gap

theorem prefillWindows_settles
    (window : Nat)
    (windowPositive : 0 < window)
    (rounds offset : Nat)
    (enough : call.prompt.length ≤ offset + rounds)
    (holding :
      engine.Holding Clean call.computationKey (call.prompt.take offset)) :
    WindowsSettle call Clean
      (prefillWindows call window rounds offset engine) := by
  induction rounds generalizing offset engine with
  | zero =>
    have whole : call.prompt.take offset = call.prompt :=
      List.take_of_length_le (by omega)
    rw [whole] at holding
    exact holding
  | succ rounds ih =>
    unfold prefillWindows
    split
    · next covered =>
        rw [List.take_of_length_le covered] at holding
        exact holding
    · next uncovered =>
        rcases call.windowCancelled offset with thrown | _ | _
        · cases thrown with
          | generationCancelled => exact holding.described
          | failure => simp [WindowsSettle]
        · simp only
          have recorded : engine.session.ids.length = offset := by
            rw [holding.idsEq, List.length_take]
            omega
          cases call.window offset with
          | refused => simp [WindowsSettle]
          | threwMidway => simp [WindowsSettle]
          | completed =>
            have feeds := feedWindow_next engine.session
              ((call.prompt.drop offset).take window)
            rw [recorded] at feeds
            simp only [feeds]
            apply ih
            · omega
            · have extended := holding.feed recorded
                ((call.prompt.drop offset).take window)
              rwa [← List.take_add] at extended
        · exact holding.described

theorem prefillStep_settles
    {start : Nat}
    (holding :
      engine.Holding Clean call.computationKey (call.prompt.take start)) :
    Ends
      (fun _ after =>
        after.Holding Clean call.computationKey call.prompt)
      (Abandoned Clean)
      (prefillStep setup call start call.prompt engine) := by
  have windowPositive :
      0 < prefillWindowFor setup (call.prompt.length - start) :=
    Nat.lt_of_lt_of_le Nat.zero_lt_one (Nat.le_max_left _ _)
  have settled := prefillWindows_settles call _ windowPositive
    (call.prompt.length - start) start (by omega) holding
  rcases outcome : prefillWindows call
      (prefillWindowFor setup (call.prompt.length - start))
      (call.prompt.length - start) start engine with ⟨thrown | _, after⟩
  · rw [outcome] at settled
    simp only [prefillStep, outcome]
    have cleared : Clean → after.endSession.Described :=
      fun _ => described_of_empty rfl
    rcases thrown with message | thrown | gap
    · exact ⟨by simp, cleared⟩
    · cases thrown with
      | generationCancelled => exact ⟨by simp, settled⟩
      | failure => exact ⟨by simp, cleared⟩
    · exact absurd rfl (settled gap)
  · rw [outcome] at settled
    simp only [prefillStep, outcome]
    cases call.firstToken with
    | none => exact settled.abandoned .failure
    | some token => exact settled

/-- The decode steps of this call that begin also end. -/
def GenerateCall.DecodeWhole : Prop :=
  ∀ position, call.decode position ≠ .threwMidway

theorem advance_settles
    (whole : Clean → call.DecodeWhole)
    (tokenId : Nat)
    (ids : List Nat)
    (holding : engine.Holding Clean call.computationKey ids) :
    Ends
      (fun _ after =>
        after.Holding Clean call.computationKey (ids ++ [tokenId]))
      (Abandoned Clean)
      (advance call tokenId ids.length engine) := by
  have recorded : engine.session.ids.length = ids.length := by
    rw [holding.idsEq]
  have feeds := PrefixRecord.feed_next engine.session tokenId
  rw [recorded] at feeds
  have extended := holding.feed recorded [tokenId]
  unfold advance
  cases ended : call.decode ids.length with
  | completed =>
    simp only [feeds]
    cases call.nextToken ids.length with
    | none => exact extended.abandoned .failure
    | some token => exact extended
  | refused =>
    exact holding.abandoned .failure
  | threwMidway =>
    exact ⟨by simp, fun clean => absurd ended (whole clean ids.length)⟩

/-- What one call leaves: a described engine, and no position gap. -/
def CallSettles
    (Clean : Prop)
    (attempt : Attempt Engine Reply) : Prop :=
  Ends
    (fun reply after =>
      (Clean → after.Described) ∧
        (reply.tokenIds ≠ [] →
          after.Holding Clean call.computationKey
            (call.prompt ++ reply.tokenIds.dropLast)))
    (Abandoned Clean) attempt

theorem generateTokenIds_holding
    (options : GenerationOptions)
    {start : Nat}
    (holding :
      engine.Holding Clean call.computationKey (call.prompt.take start))
    (whole : Clean → call.DecodeWhole) :
    Settles
      (fun tokens after =>
        after.Holding Clean call.computationKey
          (call.prompt ++ tokens.dropLast))
      (Abandoned Clean)
      (generateTokenIds call.prompt options (prefillStep setup call start)
        (advance call) engine) := by
  apply generateTokenIds_settles
  · simpa using prefillStep_settles setup call holding
  · intro tokens token state reached
    have stepped := advance_settles call whole token
      (call.prompt ++ tokens) (by simpa using reached)
    simpa using stepped
  · intro tokens thrown state reached
    exact reached.abandoned thrown
  · intro message
    exact ⟨by simp, holding.described⟩

/-- One call, whatever it meets on its way. -/
theorem generate_settles
    (described : Clean → engine.Described)
    (whole : Clean → call.DecodeWhole) :
    CallSettles call Clean (generate setup engine call) := by
  have prepared := prepare_holding call described
  unfold generate
  split
  · exact ⟨by simp, described⟩
  split
  · exact ⟨by simp, described⟩
  dsimp only
  split
  · have settled := generateTokenIds_holding setup call
      { call.generation with
        eosTokenId := setup.eosTokenId
        contextLimit := setup.contextCapacity } prepared whole
    revert settled
    rcases generateTokenIds call.prompt _ _ _ _ with ⟨thrown | result, after⟩
    · intro abandoned
      rcases thrown with message | thrown | gap
      · exact abandoned
      · cases thrown with
        | generationCancelled => exact ⟨abandoned.2, by simp⟩
        | failure => exact abandoned
      · exact abandoned
    · intro reached
      exact ⟨reached.2.described, fun _ => reached.2⟩
  · exact prepared.abandoned .failure

theorem generate_no_positionGap
    (setup : EngineSetup)
    (engine : Engine)
    (call : GenerateCall)
    (gap : PositionGap) :
    (generate setup engine call).1 ≠ .error (.positionGap gap) := by
  have settled : CallSettles call False (generate setup engine call) :=
    generate_settles setup call False.elim False.elim
  intro thrown
  rcases outcome : generate setup engine call with ⟨_, after⟩
  rw [outcome] at thrown settled
  subst thrown
  exact settled.1 gap rfl

end Call

/-- No decode step of the action throws after it began to advance the state. -/
def DecodesWhole
    (_ : Engine)
    (action : EngineAction) : Prop :=
  match action with
  | .generate call => call.DecodeWhole
  | .endSession => True
  | .hostReset => True

theorem step_described
    {setup : EngineSetup}
    {source target : Engine}
    {action : EngineAction}
    (described : source.Described)
    (taken : Guarded (EngineStep setup) DecodesWhole source action target) :
    target.Described := by
  obtain ⟨whole, step⟩ := taken
  cases action with
  | generate call =>
    have settled : CallSettles call True (generate setup source call) :=
      generate_settles setup call (fun _ => described) (fun _ => whole)
    obtain rfl : target = (generate setup source call).2 := step
    revert settled
    rcases generate setup source call with ⟨thrown | reply, after⟩
    · intro abandoned
      exact abandoned.2 trivial
    · intro returned
      exact returned.1 trivial
  | endSession =>
    obtain rfl : target = source.endSession := step
    exact described_of_empty rfl
  | hostReset =>
    obtain rfl : target = source.resetGenerationState := step
    intro nonempty
    have behind := (described nonempty).1
    -- The reset moved the host's epoch past the record's.
    refine ⟨Nat.le_succ_of_le behind, ?_⟩
    intro sameEpoch
    have ahead : source.sessionEpoch < source.stateEpoch + 1 :=
      Nat.lt_succ_of_le behind
    exact absurd sameEpoch (Nat.ne_of_lt ahead)

/-- A call that reuses finds exactly the tokens its record names. -/
def ReuseSound
    (setup : EngineSetup)
    (engine : Engine)
    (call : GenerateCall) : Prop :=
  ((engine.reuseDecision call).verdict = .reused →
    engine.device.partiallyAdvanced = false ∧
      engine.device.fed = engine.session.ids.zipIdx ∧
      engine.session.ids =
        call.prompt.take (engine.reuseDecision call).start) ∧
    ∀ gap, (generate setup engine call).1 ≠ .error (.positionGap gap)

/--
From an engine with no session, after any run whose decode steps are whole, every
call that decides to reuse finds the devices at exactly the record's tokens,
which are the first tokens of its prompt; and no call meets a position gap.
-/
theorem run_reuseSound
    {setup : EngineSetup}
    {first last : Engine}
    {actions : List EngineAction}
    (unrecorded : first.session.ids = [])
    (run : Run (Guarded (EngineStep setup) DecodesWhole) first actions last)
    (call : GenerateCall) :
    ReuseSound setup last call := by
  have described : last.Described :=
    run.invariant Engine.Described step_described
      (described_of_empty unrecorded)
  refine ⟨?_, generate_no_positionGap setup last call⟩
  intro reused
  obtain ⟨nonempty, _, isPrefix, sameEpoch, start⟩ :=
    reuseDecision_reused reused
  obtain ⟨whole, fed⟩ := (described nonempty).2 sameEpoch
  refine ⟨whole, fed, ?_⟩
  rw [start]
  exact List.prefix_iff_eq_take.mp isPrefix

/-- A small engine for the runs below. -/
def smallSetup : EngineSetup :=
  { contextCapacity := 16, prefillWindowTokens := 2, eosTokenId := 1 }

/-- A first turn of three prompt tokens whose sampler always answers 7. -/
def firstTurn (decode : Nat → Forward) : GenerateCall :=
  { prompt := [4, 5, 6]
    generation := { maxNewTokens := 3 }
    firstToken := some 7
    decode := decode
    nextToken := fun _ => some 7 }

/-- The turn that follows it under the same key. -/
def nextTurn (prompt : List Nat) : GenerateCall :=
  { prompt := prompt
    reusePrefix := true
    firstToken := some 8
    nextToken := fun _ => some 8 }

/-- A turn and its continuation: the second call reuses five tokens. -/
theorem continued_turn_reuseSound :
    (((generate smallSetup {} (firstTurn fun _ => .completed)).2
        ).reuseDecision (nextTurn [4, 5, 6, 7, 7, 7, 9])).verdict = .reused ∧
      ReuseSound smallSetup
        (generate smallSetup {} (firstTurn fun _ => .completed)).2
        (nextTurn [4, 5, 6, 7, 7, 7, 9]) := by
  have taken :
      Guarded (EngineStep smallSetup) DecodesWhole {}
        (.generate (firstTurn fun _ => .completed))
        (generate smallSetup {} (firstTurn fun _ => .completed)).2 :=
    ⟨fun _ => Forward.noConfusion, rfl⟩
  exact ⟨by decide, run_reuseSound rfl (Run.single taken) _⟩

/--
The decode step at position 4 throws midway.  The record still names the four
tokens fed before, so the next turn reuses a partially advanced state.
-/
theorem reuse_after_midway_decode_throw :
    ¬ (∀ (setup : EngineSetup) (first last : Engine)
        (actions : List EngineAction),
        first.session.ids = [] →
        Run (EngineStep setup) first actions last →
        ∀ call, ReuseSound setup last call) := by
  intro always
  have sound := always smallSetup {}
    (generate smallSetup {}
      (firstTurn fun position =>
        if position = 4 then .threwMidway else .completed)).2
    [.generate (firstTurn fun position =>
        if position = 4 then .threwMidway else .completed)]
    rfl (Run.single rfl) (nextTurn [4, 5, 6, 7, 7])
  have reused := sound.1 (by decide)
  exact absurd reused.1 (by decide)

end Aeon.Runtime
