import Aeon.JobStream

namespace Aeon.Server.Drain

/-!
# Which schedules deliver the whole reply

The consumer's two observations of an idle stream, a failed `pop` and then
`is_closed`, are separate critical sections.  A worker that closes between them
makes the loop stop over a stream that still holds the terminal event.  This
module proves that this is the only way to lose anything.
-/

/-! ## What one step can do -/

variable {loop : Loop}
variable {source target : System}
variable {accepts : Nat}
variable {consumer : Consumer}
variable {deltas : List TextDelta}
variable {terminal : JobEvent}
variable {action : Action}

theorem step_worker_cases
    (taken : Step loop source .worker target) :
    (∃ event rest,
      source.calls = .push event :: rest ∧
        target = { source with
          calls := rest
          stream := source.stream.push event }) ∨
      ∃ rest,
        source.calls = .close :: rest ∧
          target = { source with
            calls := rest
            stream := source.stream.close } := by
  unfold Step step? at taken
  cases callsEq : source.calls with
  | nil =>
    simp [callsEq] at taken
  | cons call rest =>
    cases call with
    | push event =>
      refine Or.inl ⟨event, rest, rfl, ?_⟩
      simpa [callsEq] using taken.symm
    | close =>
      refine Or.inr ⟨rest, rfl, ?_⟩
      simpa [callsEq] using taken.symm

theorem step_announce_cases
    (taken : Step loop source (.announce accepts) target) :
    source.consumer.phase = .announce ∧
      target = { source with
        consumer := source.consumer.write [.role] accepts .popping } := by
  unfold Step step? at taken
  by_cases announcing : source.consumer.phase = .announce
  · exact ⟨announcing, by simpa [announcing] using taken.symm⟩
  · simp [announcing] at taken

theorem step_pop_cases
    (taken : Step loop source (.pop accepts) target) :
    source.consumer.phase = .popping ∧
      ((∃ event rest,
          source.stream.events = event :: rest ∧
            target = { source with
              stream := { source.stream with events := rest }
              consumer := source.consumer.handle loop event accepts }) ∨
        (source.stream.events = [] ∧
          target = { source with
            consumer := { source.consumer with phase := .popFailed } })) := by
  unfold Step step? at taken
  by_cases popping : source.consumer.phase = .popping
  · refine ⟨popping, ?_⟩
    cases eventsEq : source.stream.events with
    | nil =>
      refine Or.inr ⟨rfl, ?_⟩
      simpa [popping, JobStream.pop, eventsEq] using taken.symm
    | cons event rest =>
      refine Or.inl ⟨event, rest, rfl, ?_⟩
      simpa [popping, JobStream.pop, eventsEq] using taken.symm
  · simp [popping] at taken

theorem step_isClosed_cases
    {writable : Bool}
    {keepalive : Option Nat}
    (taken :
      Step loop source (.isClosed writable keepalive accepts) target) :
    source.consumer.phase = .popFailed ∧
      target = { source with
        consumer :=
          source.consumer.afterFailedPop loop
            source.stream.closed writable keepalive accepts } := by
  unfold Step step? at taken
  by_cases failed : source.consumer.phase = .popFailed
  · exact ⟨failed, by simpa [failed, JobStream.isClosed] using taken.symm⟩
  · simp [failed] at taken

/-! ## What the loop has sent so far -/

/-- Only delta events. -/
def OnlyDeltas (events : List JobEvent) : Prop :=
  ∀ event ∈ events, isTerminal event = false

/-- Frames other than keep-alive comments. -/
def Consumer.replyFrames (consumer : Consumer) : List Frame :=
  consumer.frames.filter (fun frame => !frame.isQueued)

/-- What the loop has passed on of the events it retrieved. -/
def SentSoFar
    (loop : Loop)
    (consumer : Consumer) : Prop :=
  match loop with
  | .streamJob includeUsage =>
    consumer.replyFrames =
      .role :: consumer.received.flatMap (framesOf includeUsage)
  | .handleNonStream _ =>
    consumer.reasoning = consumer.received.flatMap reasoningOf ∧
      consumer.content = consumer.received.flatMap contentOf

@[simp] theorem isQueued_queued
    (position : Nat) :
    (Frame.queued position).isQueued = true :=
  rfl

theorem framesOf_not_queued
    (includeUsage : Bool)
    (event : JobEvent) :
    (framesOf includeUsage event).filter (fun frame => !frame.isQueued) =
      framesOf includeUsage event := by
  cases event with
  | delta delta => rfl
  | finished result => cases includeUsage <;> rfl
  | failed kind message => rfl

theorem handle_delta
    {event : JobEvent}
    (notTerminal : isTerminal event = false)
    (sent : SentSoFar loop consumer)
    (accepts : Nat) :
    (consumer.handle loop event accepts).phase = .ended .clientGone ∨
      ((consumer.handle loop event accepts).phase = .popping ∧
        SentSoFar loop (consumer.handle loop event accepts)) := by
  cases loop with
  | streamJob includeUsage =>
    by_cases accepted :
        (framesOf includeUsage event).length ≤ accepts
    · refine Or.inr ⟨?_, ?_⟩
      · simp [Consumer.handle, Consumer.write, accepted, phaseAfter,
          notTerminal]
      · have whole := List.take_of_length_le accepted
        simp only [SentSoFar, Consumer.replyFrames] at sent ⊢
        simp [Consumer.handle, Consumer.write, whole, sent,
          framesOf_not_queued]
    · refine Or.inl ?_
      simp only [Consumer.handle, Consumer.write, accepted, if_false]
  | handleNonStream seed =>
    refine Or.inr ⟨?_, ?_⟩
    · simp [Consumer.handle, phaseAfter, notTerminal]
    · obtain ⟨reasoningSent, contentSent⟩ := sent
      simp [SentSoFar, Consumer.handle, reasoningSent, contentSent]

theorem flatMap_framesOf_deltas
    (includeUsage : Bool)
    (deltas : List TextDelta) :
    (deltas.map JobEvent.delta).flatMap (framesOf includeUsage) =
      deltas.map Frame.delta := by
  induction deltas with
  | nil => rfl
  | cons delta rest ih =>
    simp [framesOf, ih]

theorem handle_terminal
    (terminates : isTerminal terminal = true)
    (received : consumer.received = deltas.map JobEvent.delta)
    (sent : SentSoFar loop consumer)
    (accepts : Nat) :
    (consumer.handle loop terminal accepts).phase = .ended .clientGone ∨
      ((consumer.handle loop terminal accepts).phase = .ended .returned ∧
        Delivered loop deltas terminal
          (consumer.handle loop terminal accepts)) := by
  cases loop with
  | streamJob includeUsage =>
    by_cases accepted :
        (framesOf includeUsage terminal).length ≤ accepts
    · refine Or.inr ⟨?_, ?_, ?_⟩
      · simp [Consumer.handle, Consumer.write, accepted, phaseAfter,
          terminates]
      · simp [Consumer.handle, Consumer.write, received, jobEvents]
      · have whole := List.take_of_length_le accepted
        simp only [SentSoFar, Consumer.replyFrames, received,
          flatMap_framesOf_deltas] at sent
        simp [SentWhole, Consumer.handle, Consumer.write, whole, sent,
          framesOf_not_queued]
    · refine Or.inl ?_
      simp only [Consumer.handle, Consumer.write, accepted, if_false]
  | handleNonStream seed =>
    obtain ⟨reasoningSent, contentSent⟩ := sent
    refine Or.inr ⟨?_, ?_, ?_⟩
    · simp [Consumer.handle, phaseAfter, terminates]
    · simp [Consumer.handle, received, jobEvents]
    · simp [SentWhole, Consumer.handle, reasoningSent, contentSent,
        received, List.flatMap_map]

theorem afterFailedPop_open
    (sent : SentSoFar loop consumer)
    (writable : Bool)
    (keepalive : Option Nat)
    (accepts : Nat) :
    (consumer.afterFailedPop loop false writable keepalive accepts).phase =
        .ended .clientGone ∨
      ((consumer.afterFailedPop loop false writable keepalive
          accepts).phase = .popping ∧
        SentSoFar loop
          (consumer.afterFailedPop loop false writable keepalive accepts)) := by
  cases loop with
  | streamJob includeUsage =>
    cases writable with
    | false =>
      exact Or.inl rfl
    | true =>
      cases keepalive with
      | none =>
        exact Or.inr ⟨rfl, sent⟩
      | some position =>
        by_cases accepted : 1 ≤ accepts
        · refine Or.inr ⟨?_, ?_⟩
          · simp [Consumer.afterFailedPop, Consumer.write, accepted]
          · have whole :
                [Frame.queued position].take accepts =
                  [Frame.queued position] :=
              List.take_of_length_le accepted
            simp only [SentSoFar, Consumer.replyFrames] at sent ⊢
            simp [Consumer.afterFailedPop, Consumer.write, whole, sent]
        · refine Or.inl ?_
          simp [Consumer.afterFailedPop, Consumer.write, accepted]
  | handleNonStream seed =>
    cases writable with
    | false => exact Or.inl rfl
    | true => exact Or.inr ⟨rfl, sent⟩

theorem afterFailedPop_received
    (loop : Loop)
    (consumer : Consumer)
    (closed writable : Bool)
    (keepalive : Option Nat)
    (accepts : Nat) :
    (consumer.afterFailedPop loop closed writable keepalive
      accepts).received = consumer.received := by
  cases loop with
  | streamJob includeUsage =>
    cases writable <;> cases closed <;> cases keepalive <;> rfl
  | handleNonStream seed =>
    cases writable <;> cases closed <;> rfl

theorem handle_received
    (loop : Loop)
    (consumer : Consumer)
    (event : JobEvent)
    (accepts : Nat) :
    (consumer.handle loop event accepts).received =
      consumer.received ++ [event] := by
  cases loop <;> rfl

/-! ## The invariant of schedules that meet the condition -/

/-- The worker still owes calls exactly while the stream is open. -/
def Producing (system : System) : Prop :=
  (system.stream.closed = true ∧ system.calls = []) ∨
    (system.stream.closed = false ∧
      ∃ remaining : List JobEvent,
        system.calls = remaining.map WorkerCall.push ++ [.close])

/-- What is known at each place of the consumer's loop. -/
def PhaseSound
    (loop : Loop)
    (deltas : List TextDelta)
    (terminal : JobEvent)
    (system : System) : Prop :=
  match system.consumer.phase with
  | .announce =>
    (∃ includeUsage, loop = .streamJob includeUsage) ∧
      system.consumer.received = [] ∧ system.consumer.frames = []
  | .popping =>
    OnlyDeltas system.consumer.received ∧ SentSoFar loop system.consumer
  | .popFailed =>
    OnlyDeltas system.consumer.received ∧
      SentSoFar loop system.consumer ∧
      system.stream.closed = false
  | .ended .returned =>
    Delivered loop deltas terminal system.consumer
  | .ended .clientGone =>
    True

/-- The invariant of the schedules without a close after a failed `pop`. -/
structure Lossless
    (loop : Loop)
    (deltas : List TextDelta)
    (terminal : JobEvent)
    (system : System) : Prop where
  produced :
    system.consumer.received ++ system.stream.events ++ pushes system.calls =
      jobEvents deltas terminal
  producing : Producing system
  phaseSound : PhaseSound loop deltas terminal system

theorem pushes_map_push
    (events : List JobEvent) :
    pushes (events.map WorkerCall.push ++ [.close]) = events := by
  induction events with
  | nil => rfl
  | cons event rest ih =>
    simp [pushes, ih]

theorem start_lossless
    (loop : Loop)
    (deltas : List TextDelta)
    (terminal : JobEvent) :
    Lossless loop deltas terminal (start loop deltas terminal) where
  produced := by
    simp [start, workerCalls, pushes_map_push]
  producing := Or.inr ⟨rfl, jobEvents deltas terminal, rfl⟩
  phaseSound := by
    cases loop with
    | streamJob includeUsage =>
      exact ⟨⟨includeUsage, rfl⟩, rfl, rfl⟩
    | handleNonStream seed =>
      refine ⟨?_, rfl, rfl⟩
      intro event member
      simp [start] at member

/--
When only deltas have been received, the next event of the job is a delta, or it
is the terminal event and every delta came before it.
-/
theorem next_event_cases
    {terminal event : JobEvent}
    {received rest : List JobEvent}
    (terminates : isTerminal terminal = true)
    (onlyDeltas : OnlyDeltas received)
    (split : received ++ event :: rest = jobEvents deltas terminal) :
    isTerminal event = false ∨
      (event = terminal ∧ received = deltas.map JobEvent.delta) := by
  unfold jobEvents at split
  rcases List.append_eq_append_iff.mp split with
    ⟨middle, deltasEq, tailEq⟩ | ⟨middle, receivedEq, tailEq⟩
  · cases middle with
    | nil =>
      simp only [List.nil_append, List.cons.injEq] at tailEq
      refine Or.inr ⟨tailEq.1, ?_⟩
      simpa using deltasEq.symm
    | cons head tail =>
      simp only [List.cons_append, List.cons.injEq] at tailEq
      have member : event ∈ deltas.map JobEvent.delta := by
        rw [deltasEq, tailEq.1]
        simp
      obtain ⟨delta, _, deltaEq⟩ := List.mem_map.mp member
      subst deltaEq
      exact Or.inl rfl
  · cases middle with
    | nil =>
      simp only [List.nil_append, List.cons.injEq] at tailEq
      refine Or.inr ⟨tailEq.1.symm, ?_⟩
      simpa using receivedEq
    | cons head tail =>
      -- The terminal event would already be among the received ones.
      simp only [List.cons_append, List.cons.injEq] at tailEq
      have member : terminal ∈ received := by
        rw [receivedEq, tailEq.1]
        simp
      have isDelta := onlyDeltas terminal member
      rw [terminates] at isDelta
      contradiction

theorem worker_preserves
    (permitted : NoCloseAfterFailedPop source .worker)
    (taken : Step loop source .worker target)
    (lossless : Lossless loop deltas terminal source) :
    Lossless loop deltas terminal target := by
  obtain ⟨produced, producing, phaseSound⟩ := lossless
  rcases step_worker_cases taken with
    ⟨event, rest, callsEq, rfl⟩ | ⟨rest, callsEq, rfl⟩
  · refine ⟨?_, ?_, phaseSound⟩
    · simpa [JobStream.push, callsEq, pushes] using produced
    · rcases producing with ⟨_, callsNil⟩ | ⟨isOpen, remaining, shape⟩
      · rw [callsNil] at callsEq
        contradiction
      · refine Or.inr ⟨isOpen, ?_⟩
        rw [callsEq] at shape
        cases remaining with
        | nil => simp at shape
        | cons head tail =>
          simp only [List.map_cons, List.cons_append,
            List.cons.injEq] at shape
          exact ⟨tail, shape.2⟩
  · refine ⟨?_, ?_, ?_⟩
    · simpa [JobStream.close, callsEq, pushes] using produced
    · rcases producing with ⟨_, callsNil⟩ | ⟨_, remaining, shape⟩
      · rw [callsNil] at callsEq
        contradiction
      · refine Or.inl ⟨rfl, ?_⟩
        rw [callsEq] at shape
        cases remaining with
        | nil => simpa using shape
        | cons head tail => simp at shape
    · have notFailed : source.consumer.phase ≠ .popFailed := by
        intro failed
        exact permitted ⟨rfl, by simp [callsEq], failed⟩
      unfold PhaseSound at phaseSound ⊢
      simp only
      split <;> simp_all

theorem announce_preserves
    (taken : Step loop source (.announce accepts) target)
    (lossless : Lossless loop deltas terminal source) :
    Lossless loop deltas terminal target := by
  obtain ⟨produced, producing, phaseSound⟩ := lossless
  obtain ⟨announcing, rfl⟩ := step_announce_cases taken
  refine ⟨produced, producing, ?_⟩
  simp only [PhaseSound, announcing] at phaseSound
  obtain ⟨⟨includeUsage, rfl⟩, received, frames⟩ := phaseSound
  by_cases accepted : 1 ≤ accepts
  · have whole : [Frame.role].take accepts = [Frame.role] :=
      List.take_of_length_le accepted
    simp [PhaseSound, Consumer.write, accepted, OnlyDeltas, SentSoFar,
      Consumer.replyFrames, received, frames, whole, Frame.isQueued]
  · simp [PhaseSound, Consumer.write, accepted]

theorem pop_preserves
    (terminates : isTerminal terminal = true)
    (taken : Step loop source (.pop accepts) target)
    (lossless : Lossless loop deltas terminal source) :
    Lossless loop deltas terminal target := by
  obtain ⟨produced, producing, phaseSound⟩ := lossless
  obtain ⟨popping, ⟨event, rest, eventsEq, rfl⟩ | ⟨drained, rfl⟩⟩ :=
    step_pop_cases taken
  · simp only [PhaseSound, popping] at phaseSound
    obtain ⟨onlyDeltas, sent⟩ := phaseSound
    rw [eventsEq] at produced
    refine ⟨?_, producing, ?_⟩
    · rw [handle_received]
      simpa using produced
    · have split :
          source.consumer.received ++
              event :: (rest ++ pushes source.calls) =
            jobEvents deltas terminal := by
        simpa using produced
      rcases next_event_cases terminates onlyDeltas split with
        notTerminal | ⟨rfl, allDeltas⟩
      · rcases handle_delta notTerminal sent accepts with
          gone | ⟨again, sentMore⟩
        · simp [PhaseSound, gone]
        · simp only [PhaseSound, again]
          refine ⟨?_, sentMore⟩
          intro other member
          rw [handle_received] at member
          rcases List.mem_append.mp member with earlier | latest
          · exact onlyDeltas other earlier
          · simpa [List.mem_singleton.mp latest] using notTerminal
      · rcases handle_terminal terminates allDeltas sent accepts with
          gone | ⟨returned, delivered⟩
        · simp [PhaseSound, gone]
        · simpa [PhaseSound, returned] using delivered
  · simp only [PhaseSound, popping] at phaseSound
    obtain ⟨onlyDeltas, sent⟩ := phaseSound
    refine ⟨produced, producing, onlyDeltas, sent, ?_⟩
    -- Had the stream been closed, an empty one would have delivered everything.
    rcases producing with ⟨_, callsNil⟩ | ⟨isOpen, _⟩
    · have all : source.consumer.received = jobEvents deltas terminal := by
        simpa [drained, callsNil, pushes] using produced
      have member : terminal ∈ source.consumer.received := by
        rw [all]
        simp [jobEvents]
      have isDelta := onlyDeltas terminal member
      rw [terminates] at isDelta
      contradiction
    · exact isOpen

/-- The `is_closed` test keeps the invariant. -/
theorem isClosed_preserves
    {writable : Bool}
    {keepalive : Option Nat}
    (taken :
      Step loop source (.isClosed writable keepalive accepts) target)
    (lossless : Lossless loop deltas terminal source) :
    Lossless loop deltas terminal target := by
  obtain ⟨produced, producing, phaseSound⟩ := lossless
  obtain ⟨failed, rfl⟩ := step_isClosed_cases taken
  simp only [PhaseSound, failed] at phaseSound
  obtain ⟨onlyDeltas, sent, isOpen⟩ := phaseSound
  refine ⟨?_, producing, ?_⟩
  · simpa [afterFailedPop_received] using produced
  · rw [isOpen]
    rcases afterFailedPop_open sent writable keepalive accepts with
      gone | ⟨again, sentStill⟩
    · simp [PhaseSound, gone]
    · simp only [PhaseSound, again]
      refine ⟨?_, sentStill⟩
      simpa [OnlyDeltas, afterFailedPop_received] using onlyDeltas

/-- Every step that meets the condition keeps the invariant. -/
theorem guarded_step_preserves
    (terminates : isTerminal terminal = true)
    (lossless : Lossless loop deltas terminal source)
    (taken :
      Guarded (Step loop) NoCloseAfterFailedPop source action target) :
    Lossless loop deltas terminal target := by
  obtain ⟨permitted, step⟩ := taken
  cases action with
  | worker => exact worker_preserves permitted step lossless
  | announce accepts => exact announce_preserves step lossless
  | pop accepts => exact pop_preserves terminates step lossless
  | isClosed writable keepalive accepts =>
    exact isClosed_preserves step lossless

/-! ## What a close after a failed `pop` loses -/

/-- The loop is past its last `pop` and never saw the terminal event. -/
structure Abandoned (system : System) : Prop where
  onlyDeltas : OnlyDeltas system.consumer.received
  closed : system.stream.closed = true
  past :
    system.consumer.phase = .popFailed ∨
      ∃ ending, system.consumer.phase = .ended ending

theorem afterFailedPop_closed
    (loop : Loop)
    (consumer : Consumer)
    (writable : Bool)
    (keepalive : Option Nat)
    (accepts : Nat) :
    ∃ ending,
      (consumer.afterFailedPop loop true writable keepalive
        accepts).phase = .ended ending := by
  cases loop with
  | streamJob includeUsage =>
    cases writable with
    | false => exact ⟨.clientGone, rfl⟩
    | true => exact ⟨.returned, rfl⟩
  | handleNonStream seed =>
    exact ⟨.returned, rfl⟩

theorem abandoned_preserves
    (abandoned : Abandoned source)
    (taken : Step loop source action target) :
    Abandoned target := by
  obtain ⟨onlyDeltas, closed, past⟩ := abandoned
  cases action with
  | worker =>
    rcases step_worker_cases taken with
      ⟨event, rest, _, rfl⟩ | ⟨rest, _, rfl⟩
    · exact ⟨onlyDeltas, closed, past⟩
    · exact ⟨onlyDeltas, rfl, past⟩
  | announce accepts =>
    obtain ⟨announcing, _⟩ := step_announce_cases taken
    simp [announcing] at past
  | pop accepts =>
    obtain ⟨popping, _⟩ := step_pop_cases taken
    simp [popping] at past
  | isClosed writable keepalive accepts =>
    obtain ⟨_, rfl⟩ := step_isClosed_cases taken
    refine ⟨?_, closed, Or.inr ?_⟩
    · simpa [OnlyDeltas, afterFailedPop_received] using onlyDeltas
    · rw [closed]
      exact afterFailedPop_closed loop source.consumer
        writable keepalive accepts

theorem violation_abandons
    (lossless : Lossless loop deltas terminal source)
    (refused : ¬ NoCloseAfterFailedPop source action)
    (taken : Step loop source action target) :
    Abandoned target := by
  unfold NoCloseAfterFailedPop at refused
  rw [not_not] at refused
  obtain ⟨rfl, closesNext, failed⟩ := refused
  have phaseSound := lossless.phaseSound
  simp only [PhaseSound, failed] at phaseSound
  rcases step_worker_cases taken with
    ⟨event, rest, callsEq, _⟩ | ⟨rest, _, rfl⟩
  · simp [callsEq] at closesNext
  · exact ⟨phaseSound.1, rfl, Or.inl failed⟩

/--
For either handler and every interleaving of the worker with it: a loop that
ended with its client still connected delivered every delta in push order and
the terminal event exactly once, and sent all of it on, if and only if no step
of the run closed the stream between a failed `pop` and its `is_closed` test.
-/
theorem delivered_iff_no_close_after_failed_pop
    (loop : Loop)
    (deltas : List TextDelta)
    (terminal : JobEvent)
    (terminates : isTerminal terminal = true)
    {actions : List Action}
    {final : System}
    (run : Run (Step loop) (start loop deltas terminal) actions final)
    (returned : final.consumer.phase = .ended .returned) :
    Delivered loop deltas terminal final.consumer ↔
      Run (Guarded (Step loop) NoCloseAfterFailedPop)
        (start loop deltas terminal) actions final := by
  constructor
  · intro delivered
    rcases run.guarded_or_first_violation NoCloseAfterFailedPop with
      guarded | ⟨leading, action, trailing, source, target,
        _, before, refused, taken, after⟩
    · exact guarded
    · have lossless :=
        before.invariant (Lossless loop deltas terminal)
          (guarded_step_preserves terminates)
          (start_lossless loop deltas terminal)
      have abandoned :=
        after.invariant Abandoned abandoned_preserves
          (violation_abandons lossless refused taken)
      have member : terminal ∈ final.consumer.received := by
        rw [delivered.1]
        simp [jobEvents]
      have isDelta := abandoned.onlyDeltas terminal member
      rw [terminates] at isDelta
      contradiction
  · intro guarded
    have lossless :=
      guarded.invariant (Lossless loop deltas terminal)
        (guarded_step_preserves terminates)
        (start_lossless loop deltas terminal)
    have phaseSound := lossless.phaseSound
    simpa only [PhaseSound, returned] using phaseSound

/-- A reply whose events are popped as they arrive is delivered whole. -/
theorem prompt_reply_delivered :
    Delivered (.streamJob false) [⟨.content, [104, 105]⟩]
      (.finished { stop := .eos })
      { phase := .ended .returned
        received := [.delta ⟨.content, [104, 105]⟩,
          .finished { stop := .eos }]
        frames := [.role, .delta ⟨.content, [104, 105]⟩, .finish .eos,
          .done] } := by
  have run :
      Run (Guarded (Step (.streamJob false)) NoCloseAfterFailedPop)
        (start (.streamJob false) [⟨.content, [104, 105]⟩]
          (.finished { stop := .eos }))
        [.announce 1, .worker, .pop 1, .worker, .worker, .pop 2]
        { calls := []
          stream := { events := [], closed := true }
          consumer :=
            { phase := .ended .returned
              received := [.delta ⟨.content, [104, 105]⟩,
                .finished { stop := .eos }]
              frames := [.role, .delta ⟨.content, [104, 105]⟩,
                .finish .eos, .done] } } := by
    refine .cons ⟨?_, rfl⟩ <| .cons ⟨?_, rfl⟩ <| .cons ⟨?_, rfl⟩ <|
      .cons ⟨?_, rfl⟩ <| .cons ⟨?_, rfl⟩ <| .cons ⟨?_, rfl⟩ <| .nil _
    all_goals simp [NoCloseAfterFailedPop, Consumer.handle, Consumer.write,
      framesOf, phaseAfter, isTerminal]
  exact (delivered_iff_no_close_after_failed_pop _ _ _ rfl
    (run.mono And.right) rfl).mpr run

/--
A job that finished, drained by either loop: the `pop` times out, the worker
pushes the result and closes, and the `is_closed` test ends the loop with the
result still queued.  The stream ends after its role frame, and the other loop
answers that the stream closed without a result.
-/
theorem reply_lost_between_pop_and_isClosed :
    (∃ final,
      Run (Step (.streamJob true))
          (start (.streamJob true) [] (.finished { stop := .eos }))
          [.announce 1, .pop 0, .worker, .worker, .isClosed true none 0]
          final ∧
        final.consumer.phase = .ended .returned ∧
        final.consumer.frames = [.role] ∧
        ¬ Delivered (.streamJob true) [] (.finished { stop := .eos })
          final.consumer) ∧
      ∃ final,
        Run (Step (.handleNonStream none))
            (start (.handleNonStream none) [] (.finished { stop := .eos }))
            [.pop 0, .worker, .worker, .isClosed true none 0]
            final ∧
          final.consumer.phase = .ended .returned ∧
          final.consumer.answer = some .closedWithoutResult ∧
          ¬ Delivered (.handleNonStream none) []
            (.finished { stop := .eos }) final.consumer := by
  refine ⟨⟨_, .cons rfl <| .cons rfl <| .cons rfl <| .cons rfl <|
      .cons rfl <| .nil _, rfl, rfl, ?_⟩,
    ⟨_, .cons rfl <| .cons rfl <| .cons rfl <| .cons rfl <| .nil _,
      rfl, rfl, ?_⟩⟩
  · intro delivered
    exact absurd delivered.1 (by decide)
  · intro delivered
    exact absurd delivered.1 (by decide)

end Aeon.Server.Drain
