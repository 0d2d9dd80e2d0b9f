import Aeon.ServiceTermination

namespace Aeon.Server.Service

/-!
# One conversation at a time, in submission order

What the engine does is observed beside the service: where a run of a job begins,
each delta it emits, and where it ends.  Jobs pass from the queue through the
worker's hands to the engine without overtaking each other, the worker starts a
run only when the last one has ended, and the sink it hands to the engine writes
to the stream of the job being run.
-/

open Drain (WorkerCall isTerminal)

/-! ## What the engine does -/

/-- One event of the engine. -/
inductive EngineEvent where
  | began (job : Nat)
  | emitted (job : Nat) (delta : TextDelta)
  | ended (job : Nat)
  deriving Repr, DecidableEq

/-- What a step makes the engine do. -/
def engineEvents
    (service : Service)
    (action : ServiceAction) : List EngineEvent :=
  match action, service.worker with
  | .loadCancel, .loadCancel job =>
    if service.cancelled job then [] else [.began job]
  | .engineDelta delta, .engineRun job => [.emitted job delta]
  | .engineEnd _, .engineRun job => [.ended job]
  | _, _ => []

/-- A service, and what its engine has done so far. -/
structure Observed where
  service : Service
  log : List EngineEvent

/-- A step of the service, with what the engine does in it. -/
def Observed.Step
    (source : Observed)
    (action : ServiceAction)
    (target : Observed) : Prop :=
  Service.Step source.service action target.service ∧
    target.log = source.log ++ engineEvents source.service action

theorem Observed.observe
    {source target : Service}
    {action : ServiceAction}
    {log : List EngineEvent}
    (taken : Service.Step source action target) :
    Observed.Step ⟨source, log⟩ action
      ⟨target, log ++ engineEvents source action⟩ :=
  ⟨taken, rfl⟩

/-- A service that has not run anything yet. -/
def Observed.start (maxQueue : Nat) : Observed where
  service := Service.start maxQueue
  log := []

/-- The jobs passed to `engine.run`, in order. -/
def runs (log : List EngineEvent) : List Nat :=
  log.filterMap fun event =>
    match event with
    | .began job => some job
    | _ => none

/-- The deltas that the runs of a job emitted, in order. -/
def emittedBy
    (job : Nat)
    (log : List EngineEvent) : List TextDelta :=
  log.filterMap fun event =>
    match event with
    | .emitted other delta => if other = job then some delta else none
    | _ => none

/--
The run that is open after a log, if any; there is no answer when two runs
overlap, or when something is emitted or ended that is not the open run's.
-/
def openRun : Option Nat → List EngineEvent → Option (Option Nat)
  | current, [] => some current
  | none, .began job :: rest => openRun (some job) rest
  | some job, .emitted other _ :: rest =>
    if other = job then openRun (some job) rest else none
  | some job, .ended other :: rest =>
    if other = job then openRun none rest else none
  | _, _ => none

/-- The runs of a log do not overlap. -/
def OneAtATime (log : List EngineEvent) : Prop :=
  (openRun none log).isSome

/-- A job's stream has its own run's deltas, then at most one terminal event. -/
def StreamsOwnRun
    (log : List EngineEvent)
    (job : Nat)
    (calls : List WorkerCall) : Prop :=
  ∃ ending,
    calls =
        (emittedBy job log).map (WorkerCall.push ∘ JobEvent.delta) ++ ending ∧
      (ending = [] ∨
        ∃ terminal,
          isTerminal terminal = true ∧
            (ending = [.push terminal] ∨ ending = [.push terminal, .close]))

/-! ## The invariant -/

/-- The job between its queue and its run. -/
def Worker.waitingJob : Worker → List Nat
  | .loadCancel job => [job]
  | _ => []

/-- The job whose run is open. -/
def Worker.runningJob : Worker → Option Nat
  | .engineRun job => some job
  | _ => none

/-- The deltas pushed to a stream. -/
def deltasOf (calls : List WorkerCall) : List TextDelta :=
  calls.filterMap fun made =>
    match made with
    | .push (.delta delta) => some delta
    | _ => none

/-- Nobody overtakes, nothing overlaps, and every delta is in its stream. -/
structure Ordered (observed : Observed) : Prop where
  inOrder :
    (runs observed.log ++
        (Worker.waitingJob observed.service.worker ++
          observed.service.queue)).Sublist observed.service.accepted
  numbered :
    observed.service.accepted.Pairwise (· < ·) ∧
      ∀ job ∈ observed.service.accepted, job < observed.service.nextId
  bounded : observed.service.queue.length ≤ observed.service.maxQueue
  serial :
    openRun none observed.log =
      some (Worker.runningJob observed.service.worker)
  streamed :
    ∀ job,
      deltasOf (observed.service.calls job) = emittedBy job observed.log

theorem openRun_append
    (current : Option Nat)
    (log more : List EngineEvent) :
    openRun current (log ++ more) =
      (openRun current log).bind fun reached => openRun reached more := by
  induction log generalizing current with
  | nil => rfl
  | cons event rest ih =>
    cases event with
    | began job =>
      cases current with
      | none => exact ih (some job)
      | some open_ => rfl
    | emitted other delta =>
      cases current with
      | none => rfl
      | some job =>
        by_cases own : other = job
        · simp [openRun, own, ih]
        · simp [openRun, own]
    | ended other =>
      cases current with
      | none => rfl
      | some job =>
        by_cases own : other = job
        · simp [openRun, own, ih]
        · simp [openRun, own]

/-! ## Steps that the engine does not see -/

variable {source target : Service}
variable {log : List EngineEvent}
variable {action : ServiceAction}
variable {job : Nat}

/--
A step in which the engine does nothing: the queue and the worker's hands only
lose jobs, and no delta is pushed.
-/
theorem Ordered.quiet
    (ordered : Ordered ⟨source, log⟩)
    (queue : target.queue.Sublist source.queue)
    (waiting :
      (Worker.waitingJob target.worker).Sublist
        (Worker.waitingJob source.worker))
    (running :
      Worker.runningJob target.worker = Worker.runningJob source.worker)
    (accepted : target.accepted = source.accepted)
    (nextId : target.nextId = source.nextId)
    (maxQueue : target.maxQueue = source.maxQueue)
    (calls :
      ∀ job, deltasOf (target.calls job) = deltasOf (source.calls job)) :
    Ordered ⟨target, log⟩ where
  inOrder := by
    rw [accepted]
    exact ((List.Sublist.refl _).append (waiting.append queue)).trans
      ordered.inOrder
  numbered := by
    rw [accepted, nextId]
    exact ordered.numbered
  bounded := by
    rw [maxQueue]
    exact queue.length_le.trans ordered.bounded
  serial := by
    rw [running]
    exact ordered.serial
  streamed := by
    intro job
    rw [calls job]
    exact ordered.streamed job

theorem deltasOf_call
    (service : Service)
    (job other : Nat)
    (made : WorkerCall)
    (noDelta : deltasOf [made] = []) :
    deltasOf ((service.call job made).calls other) =
      deltasOf (service.calls other) := by
  by_cases same : other = job
  · subst other
    rw [call_calls_self]
    unfold deltasOf at noDelta ⊢
    rw [List.filterMap_append, noDelta, List.append_nil]
  · rw [call_calls_other service made same]

theorem deltasOf_terminal
    (event : TerminalEvent) :
    deltasOf [.push event.val] = [] := by
  obtain ⟨event, terminates⟩ := event
  cases event with
  | delta delta => simp [isTerminal] at terminates
  | finished result => rfl
  | failed kind message => rfl

theorem drainCall_quiet
    {service next : Service}
    {loop after : DrainLoop}
    (drained : service.drainCall loop = some (next, after)) :
    (∀ job,
        deltasOf (next.calls job) = deltasOf (service.calls job)) ∧
      next.accepted = service.accepted ∧ next.nextId = service.nextId ∧
      next.maxQueue = service.maxQueue := by
  obtain ⟨pending, pushed⟩ := loop
  cases pending with
  | nil => simp [drainCall] at drained
  | cons job rest =>
    cases pushed with
    | false =>
      simp only [drainCall, Bool.false_eq_true, if_false,
        Option.some.injEq, Prod.mk.injEq] at drained
      obtain ⟨rfl, rfl⟩ := drained
      exact ⟨fun other => deltasOf_call service job other _
        (deltasOf_terminal cancelledEvent), rfl, rfl, rfl⟩
    | true =>
      simp only [drainCall, if_true, Option.some.injEq,
        Prod.mk.injEq] at drained
      obtain ⟨rfl, rfl⟩ := drained
      exact ⟨fun other => deltasOf_call service job other _ rfl,
        rfl, rfl, rfl⟩

/-! ## Every step keeps the order -/

theorem submit_ordered
    (ordered : Ordered ⟨source, log⟩)
    (taken : Step source .submit target) :
    Ordered ⟨target, log⟩ := by
  unfold Step step? at taken
  unfold submit at taken
  by_cases isReady : source.state = .ready
  · by_cases full : source.maxQueue ≤ source.queue.length
    · simp only [isReady, full, ne_eq, not_true_eq_false, if_false,
        if_true, Option.some.injEq] at taken
      exact taken ▸ ordered
    · simp only [isReady, full, ne_eq, not_true_eq_false, if_false,
        Option.some.injEq] at taken
      subst taken
      refine ⟨?_, ⟨?_, ?_⟩, ?_, ordered.serial, ordered.streamed⟩
      · simp only
        rw [← List.append_assoc, ← List.append_assoc, List.append_assoc
          (runs log)]
        exact ordered.inOrder.append (List.Sublist.refl _)
      · rw [List.pairwise_append]
        refine ⟨ordered.numbered.1, List.pairwise_singleton _ _, ?_⟩
        intro earlier listed later last
        rw [List.mem_singleton.mp last]
        exact ordered.numbered.2 earlier listed
      · intro job listed
        rcases List.mem_append.mp listed with earlier | last
        · exact Nat.lt_succ_of_lt (ordered.numbered.2 job earlier)
        · rw [List.mem_singleton.mp last]
          exact Nat.lt_succ_self _
      · simp only [List.length_append, List.length_singleton]
        omega
  · simp only [isReady, ne_eq, not_false_eq_true, if_true,
      Option.some.injEq] at taken
    exact taken ▸ ordered

theorem shutdown_ordered
    (ordered : Ordered ⟨source, log⟩)
    (taken : Step source .shutdown target) :
    Ordered ⟨target, log⟩ := by
  obtain rfl := Option.some.inj taken
  refine ordered.quiet (List.nil_sublist _) ?_ ?_ ?_ ?_ ?_ ?_
  all_goals
    unfold shutdown
    cases source.liveJob with
    | none => simp
    | some job => simp [cancel]

theorem shutdownDrain_ordered
    {index : Nat}
    (ordered : Ordered ⟨source, log⟩)
    (taken : Step source (.shutdownDrain index) target) :
    Ordered ⟨target, log⟩ := by
  unfold Step step? at taken
  cases found : source.shutdowns[index]? with
  | none => simp [found] at taken
  | some loop =>
    cases drained : source.drainCall loop with
    | none => simp [found, drained] at taken
    | some pair =>
      obtain ⟨next, after⟩ := pair
      simp only [found, drained, Option.some.injEq] at taken
      subst taken
      obtain ⟨worker, queue, -, -⟩ := drainCall_worker drained
      obtain ⟨calls, accepted, nextId, maxQueue⟩ := drainCall_quiet drained
      refine ordered.quiet ?_ ?_ ?_ accepted nextId maxQueue calls
      · simp [queue]
      · simp [worker]
      · simp [worker]

/-- The worker takes the oldest job of the queue, or leaves its loop. -/
theorem take_ordered
    (ordered : Ordered ⟨source, log⟩)
    (taken : Step source .take target) :
    Ordered ⟨target, log⟩ := by
  unfold Step step? at taken
  cases place : source.worker <;> simp only [place] at taken
  case take =>
    split at taken
    · cases queued : source.queue with
      | nil => simp [queued] at taken
      | cons job rest =>
        simp only [queued, Option.some.injEq] at taken
        subst taken
        have inOrder := ordered.inOrder
        have bounded := ordered.bounded
        have serial := ordered.serial
        simp only [place, queued, Worker.waitingJob, Worker.runningJob,
          List.nil_append, List.length_cons] at inOrder bounded serial
        refine ⟨inOrder, ordered.numbered, ?_, serial, ordered.streamed⟩
        simp only
        omega
    · obtain rfl := Option.some.inj taken
      refine ordered.quiet (List.Sublist.refl _) ?_ ?_ rfl rfl rfl
        fun _ => rfl
      · simp [Worker.waitingJob]
      · simp [place, Worker.runningJob]
  all_goals contradiction

/-- A job that is not cancelled when the worker looks begins its run. -/
theorem loadCancel_ordered
    (ordered : Ordered ⟨source, log⟩)
    (taken : Step source .loadCancel target) :
    Ordered ⟨target, log ++ engineEvents source .loadCancel⟩ := by
  unfold Step step? at taken
  cases place : source.worker <;> simp only [place] at taken
  case loadCancel job =>
    split at taken
    · next skipped =>
        obtain rfl := Option.some.inj taken
        simp only [engineEvents, place, skipped, if_true, List.append_nil]
        refine ordered.quiet (List.Sublist.refl _) ?_ ?_ rfl rfl rfl
          fun _ => rfl
        · simp [Worker.waitingJob]
        · simp [place, Worker.runningJob]
    · next uncancelled =>
        obtain rfl := Option.some.inj taken
        simp only [engineEvents, place, uncancelled]
        have inOrder := ordered.inOrder
        have serial := ordered.serial
        simp only [place, Worker.waitingJob, Worker.runningJob]
          at inOrder serial
        refine ⟨?_, ordered.numbered, ordered.bounded, ?_, fun other => ?_⟩
        · simpa [runs, Worker.waitingJob] using inOrder
        · simp [openRun_append, serial, openRun, Worker.runningJob]
        · simpa [emittedBy] using ordered.streamed other
  all_goals contradiction

/-- A delta goes to the stream of the job being run. -/
theorem engineDelta_ordered
    {delta : TextDelta}
    (ordered : Ordered ⟨source, log⟩)
    (taken : Step source (.engineDelta delta) target) :
    Ordered ⟨target, log ++ engineEvents source (.engineDelta delta)⟩ := by
  unfold Step step? at taken
  cases place : source.worker <;> simp only [place] at taken
  case engineRun job =>
    obtain rfl := Option.some.inj taken
    simp only [engineEvents, place]
    have inOrder := ordered.inOrder
    have serial := ordered.serial
    simp only [place, Worker.waitingJob, Worker.runningJob] at inOrder serial
    refine ⟨?_, ordered.numbered, ordered.bounded, ?_, fun other => ?_⟩
    · simpa [runs, call, place, Worker.waitingJob] using inOrder
    · simp [openRun_append, serial, openRun, call, place, Worker.runningJob]
    · have already := ordered.streamed other
      by_cases own : other = job
      · subst other
        simp only [call_calls_self]
        unfold deltasOf emittedBy at already ⊢
        rw [List.filterMap_append, List.filterMap_append, already]
        simp
      · simp only [call_calls_other source _ own, already]
        simp [emittedBy, Ne.symm own]
  all_goals contradiction

theorem engineEnd_ordered
    {outcome : EngineOutcome}
    (ordered : Ordered ⟨source, log⟩)
    (taken : Step source (.engineEnd outcome) target) :
    Ordered ⟨target, log ++ engineEvents source (.engineEnd outcome)⟩ := by
  unfold Step step? at taken
  cases place : source.worker <;> simp only [place] at taken
  case engineRun job =>
    obtain rfl := Option.some.inj taken
    simp only [engineEvents, place]
    have inOrder := ordered.inOrder
    have serial := ordered.serial
    simp only [place, Worker.waitingJob, Worker.runningJob] at inOrder serial
    refine ⟨?_, ordered.numbered, ordered.bounded, ?_, fun other => ?_⟩
    · simpa [runs, Worker.waitingJob] using inOrder
    · simp [openRun_append, serial, openRun, Worker.runningJob]
    · simpa [emittedBy] using ordered.streamed other
  all_goals contradiction

theorem worker_ordered
    (ordered : Ordered ⟨source, log⟩)
    (listed :
      action ∈ [.publishReady, .pushTerminal, .close, .settle, .exitSwap,
        .workerDrain, .storeStopping])
    (taken : Step source action target) :
    Ordered ⟨target, log⟩ := by
  unfold Step at taken
  simp only [List.mem_cons, List.not_mem_nil, or_false] at listed
  rcases listed with rfl | rfl | rfl | rfl | rfl | rfl | rfl
  all_goals simp only [step?] at taken
  · cases place : source.worker <;> simp only [place] at taken
    case publishReady =>
      obtain rfl := Option.some.inj taken
      refine ordered.quiet (List.Sublist.refl _) ?_ ?_ rfl rfl rfl
        fun _ => rfl
      · simp [Worker.waitingJob]
      · simp [place, Worker.runningJob]
    all_goals contradiction
  · cases place : source.worker <;> simp only [place] at taken
    case pushTerminal job event =>
      obtain rfl := Option.some.inj taken
      refine ordered.quiet (List.Sublist.refl _) ?_ ?_ rfl rfl rfl
        fun other => deltasOf_call source job other _
          (deltasOf_terminal event)
      · simp [Worker.waitingJob]
      · simp [place, Worker.runningJob]
    all_goals contradiction
  · cases place : source.worker <;> simp only [place] at taken
    case close job =>
      obtain rfl := Option.some.inj taken
      refine ordered.quiet (List.Sublist.refl _) ?_ ?_ rfl rfl rfl
        fun other => deltasOf_call source job other _ rfl
      · simp [Worker.waitingJob]
      · simp [place, Worker.runningJob]
    all_goals contradiction
  · cases place : source.worker <;> simp only [place] at taken
    case settle =>
      obtain rfl := Option.some.inj taken
      refine ordered.quiet (List.Sublist.refl _) ?_ ?_ rfl rfl rfl
        fun _ => rfl
      · simp [Worker.waitingJob]
      · simp [place, Worker.runningJob]
    all_goals contradiction
  · cases place : source.worker <;> simp only [place] at taken
    case exitSwap =>
      obtain rfl := Option.some.inj taken
      refine ordered.quiet (List.nil_sublist _) ?_ ?_ rfl rfl rfl
        fun _ => rfl
      · simp [Worker.waitingJob]
      · simp [place, Worker.runningJob]
    all_goals contradiction
  · cases place : source.worker <;> simp only [place] at taken
    case drain loop =>
      cases drained : source.drainCall loop with
      | none => simp [drained] at taken
      | some pair =>
        obtain ⟨next, after⟩ := pair
        simp only [drained, Option.some.injEq] at taken
        subst taken
        obtain ⟨-, queue, -, -⟩ := drainCall_worker drained
        obtain ⟨calls, accepted, nextId, maxQueue⟩ := drainCall_quiet drained
        refine ordered.quiet ?_ ?_ ?_ accepted nextId maxQueue calls
        · simp [queue]
        · simp [Worker.waitingJob]
        · simp [place, Worker.runningJob]
    all_goals contradiction
  · split at taken
    · next place =>
        obtain rfl := Option.some.inj taken
        refine ordered.quiet (List.Sublist.refl _) ?_ ?_ rfl rfl rfl
          fun _ => rfl
        · simp [Worker.waitingJob]
        · simp [place, Worker.runningJob]
    · contradiction

theorem step_ordered
    {source target : Observed}
    (ordered : Ordered source)
    (taken : Observed.Step source action target) :
    Ordered target := by
  obtain ⟨service, log⟩ := source
  obtain ⟨next, grown⟩ := target
  obtain ⟨step, rfl⟩ := taken
  simp only at step ordered ⊢
  have silent
      (nothing : engineEvents service action = [])
      (kept : Ordered ⟨next, log⟩) :
      Ordered ⟨next, log ++ engineEvents service action⟩ := by
    rw [nothing, List.append_nil]
    exact kept
  cases action with
  | submit => exact silent rfl (submit_ordered ordered step)
  | cancel job =>
    refine silent rfl ?_
    simp only [Step, step?] at step
    split at step
    · obtain rfl := Option.some.inj step
      exact ⟨ordered.inOrder, ordered.numbered, ordered.bounded,
        ordered.serial, ordered.streamed⟩
    · contradiction
  | shutdown => exact silent rfl (shutdown_ordered ordered step)
  | shutdownDrain index =>
    exact silent rfl (shutdownDrain_ordered ordered step)
  | take => exact silent rfl (take_ordered ordered step)
  | loadCancel => exact loadCancel_ordered ordered step
  | engineDelta delta => exact engineDelta_ordered ordered step
  | engineEnd outcome => exact engineEnd_ordered ordered step
  | _ => exact silent rfl (worker_ordered ordered (by simp) step)

theorem start_ordered
    (maxQueue : Nat) :
    Ordered (Observed.start maxQueue) where
  inOrder := List.Sublist.refl _
  numbered := ⟨List.Pairwise.nil, by simp [Observed.start, start]⟩
  bounded := Nat.zero_le _
  serial := rfl
  streamed := fun _ => rfl

theorem step_maxQueue
    (taken : Step source action target) :
    target.maxQueue = source.maxQueue := by
  have drainKeeps {next : Service} {loop after : DrainLoop}
      (drained : source.drainCall loop = some (next, after)) :
      next.maxQueue = source.maxQueue :=
    (drainCall_quiet drained).2.2.2
  unfold Step at taken
  cases action with
  | submit =>
    unfold step? submit at taken
    grind
  | shutdown =>
    obtain rfl := Option.some.inj taken
    unfold shutdown
    cases source.liveJob <;> rfl
  | shutdownDrain index =>
    simp only [step?] at taken
    grind
  | workerDrain =>
    simp only [step?] at taken
    grind
  | _ =>
    simp only [step?, call, cancel] at taken
    grind

/-! ## Cancelled jobs -/

/-- A cancelled job that the engine has not seen. -/
structure Withheld
    (job : Nat)
    (observed : Observed) : Prop where
  cancelled : observed.service.cancelled job = true
  unseen : job ∉ runs observed.log

theorem step_cancelled
    (taken : Step source action target)
    (cancelled : source.cancelled job = true) :
    target.cancelled job = true := by
  have drainKeeps {next : Service} {loop after : DrainLoop}
      (drained : source.drainCall loop = some (next, after)) :
      next.cancelled job = true := by
    obtain ⟨pending, pushed⟩ := loop
    cases pending with
    | nil => simp [drainCall] at drained
    | cons first rest =>
      cases pushed <;>
        · simp only [drainCall, Bool.false_eq_true, if_false, if_true,
            Option.some.injEq, Prod.mk.injEq] at drained
          obtain ⟨rfl, rfl⟩ := drained
          exact cancelled
  unfold Step at taken
  cases action with
  | submit =>
    unfold step? submit at taken
    grind
  | cancel other =>
    simp only [step?, cancel] at taken
    grind
  | shutdown =>
    obtain rfl := Option.some.inj taken
    unfold shutdown
    cases source.liveJob with
    | none => exact cancelled
    | some live => simp [cancel, cancelled]
  | shutdownDrain index =>
    simp only [step?] at taken
    grind
  | workerDrain =>
    simp only [step?] at taken
    grind
  | _ =>
    simp only [step?, call] at taken
    grind

/-- A cancelled job stays away from the engine. -/
theorem step_withheld
    {source target : Observed}
    (withheld : Withheld job source)
    (taken : Observed.Step source action target) :
    Withheld job target := by
  obtain ⟨step, grown⟩ := taken
  refine ⟨step_cancelled step withheld.cancelled, ?_⟩
  have quiet : job ∉ runs (engineEvents source.service action) := by
    have cancelled := withheld.cancelled
    unfold engineEvents runs
    grind
  rw [grown]
  unfold runs at quiet ⊢
  rw [List.filterMap_append, List.mem_append, not_or]
  exact ⟨withheld.unseen, quiet⟩

/-! ## Every run -/

theorem Accounted.shape
    {service : Service}
    (accounted : Accounted service)
    (known : job ∈ service.accepted) :
    ∃ (deltas : List TextDelta) (ending : List WorkerCall),
      service.calls job =
          deltas.map (WorkerCall.push ∘ JobEvent.delta) ++ ending ∧
        deltasOf ending = [] ∧
        (ending = [] ∨
          ∃ terminal,
            isTerminal terminal = true ∧
              (ending = [.push terminal] ∨
                ending = [.push terminal, .close])) := by
  have ledger := accounted.ledger
  have noDelta (terminal : JobEvent) (terminates : isTerminal terminal = true)
      (rest : List WorkerCall) :
      deltasOf (.push terminal :: rest) = deltasOf rest := by
    cases terminal with
    | delta delta => simp [isTerminal] at terminates
    | finished result => rfl
    | failed kind message => rfl
  by_cases ticketed : job ∈ service.tickets.map Ticket.job
  · obtain ⟨ticket, listed, rfl⟩ := List.mem_map.mp ticketed
    have fits := ledger.fits ticket listed
    cases stage : ticket.stage with
    | streaming =>
      rw [stage] at fits
      obtain ⟨deltas, shape⟩ := fits
      exact ⟨deltas, [], by simpa using shape, rfl, Or.inl rfl⟩
    | finishing =>
      rw [stage] at fits
      obtain ⟨deltas, terminal, terminates, shape⟩ := fits
      exact ⟨deltas, [.push terminal], shape, noDelta terminal terminates [],
        Or.inr ⟨terminal, terminates, Or.inl rfl⟩⟩
  · obtain ⟨deltas, terminal, terminates, shape⟩ :=
      ledger.settled job known ticketed
    refine ⟨deltas, [.push terminal, .close], ?_,
      noDelta terminal terminates [.close],
      Or.inr ⟨terminal, terminates, Or.inr rfl⟩⟩
    simp [shape, Drain.workerCalls, Drain.jobEvents]

theorem deltasOf_deltas
    (deltas : List TextDelta) :
    deltasOf (deltas.map (WorkerCall.push ∘ JobEvent.delta)) = deltas := by
  induction deltas with
  | nil => rfl
  | cons delta rest ih =>
    exact congrArg (delta :: ·) ih

theorem Ordered.streamsOwnRun
    {observed : Observed}
    (ordered : Ordered observed)
    (accounted : Accounted observed.service)
    (known : job ∈ observed.service.accepted) :
    StreamsOwnRun observed.log job (observed.service.calls job) := by
  obtain ⟨deltas, ending, shape, noDelta, finished⟩ := accounted.shape known
  have streamed := ordered.streamed job
  rw [shape] at streamed ⊢
  have own : deltas = emittedBy job observed.log := by
    rw [← streamed]
    unfold deltasOf at noDelta ⊢
    rw [List.filterMap_append, noDelta, List.append_nil]
    exact (deltasOf_deltas deltas).symm
  exact ⟨ending, by rw [own], finished⟩

theorem Ordered.queued_unseen
    {observed : Observed}
    (ordered : Ordered observed)
    (queued : job ∈ observed.service.queue) :
    job ∉ runs observed.log := by
  have apart : (runs observed.log ++
      (Worker.waitingJob observed.service.worker ++
        observed.service.queue)).Nodup := by
    refine List.Nodup.sublist ordered.inOrder ?_
    exact ordered.numbered.1.imp fun smaller => Nat.ne_of_lt smaller
  intro seen
  exact (List.nodup_append.mp apart).2.2 job seen job
    (List.mem_append_right _ queued) rfl

theorem run_ordered
    {maxQueue : Nat}
    {actions : List ServiceAction}
    {final : Observed}
    (run : Run Observed.Step (Observed.start maxQueue) actions final) :
    Ordered final ∧ Accounted final.service ∧
      final.service.maxQueue = maxQueue := by
  refine run.invariant
    (fun observed => Ordered observed ∧ Accounted observed.service ∧
      observed.service.maxQueue = maxQueue)
    (fun {source action target} holds taken => ?_)
    ⟨start_ordered maxQueue, start_accounted maxQueue, rfl⟩
  obtain ⟨ordered, accounted, same⟩ := holds
  exact ⟨step_ordered ordered taken, step_accounted accounted taken.1,
    (step_maxQueue taken.1).trans same⟩

/--
Over every interleaving of the callers with the worker: the jobs run are some of
those submitted, in order and each once; runs do not overlap; the queue keeps its
bound; every stream has the deltas of its own run, in order, before its end; and a
job that was cancelled while still queued is never run.
-/
theorem run_one_conversation_in_order
    (maxQueue : Nat)
    {actions : List ServiceAction}
    {final : Observed}
    (run : Run Observed.Step (Observed.start maxQueue) actions final) :
    (runs final.log).Sublist final.service.accepted ∧
      (runs final.log).Nodup ∧
      OneAtATime final.log ∧
      final.service.queue.length ≤ maxQueue ∧
      (∀ job ∈ final.service.accepted,
        StreamsOwnRun final.log job (final.service.calls job)) ∧
      ∀ before after middle job,
        actions = before ++ after →
          Run Observed.Step (Observed.start maxQueue) before middle →
            Run Observed.Step middle after final →
              job ∈ middle.service.queue →
                middle.service.cancelled job = true →
                  job ∉ runs final.log := by
  obtain ⟨ordered, accounted, same⟩ := run_ordered run
  have inOrder :=
    (List.sublist_append_left (runs final.log) _).trans ordered.inOrder
  have distinct : final.service.accepted.Nodup :=
    ordered.numbered.1.imp fun smaller => Nat.ne_of_lt smaller
  refine ⟨inOrder, distinct.sublist inOrder, ?_, ?_, ?_, ?_⟩
  · unfold OneAtATime
    rw [ordered.serial]
    rfl
  · rw [← same]
    exact ordered.bounded
  · intro job known
    exact ordered.streamsOwnRun accounted known
  · intro before after middle job _ leading trailing queued cancelled
    have unseen := (run_ordered leading).1.queued_unseen queued
    exact (trailing.invariant (Withheld job) step_withheld
      ⟨cancelled, unseen⟩).unseen

/-- Two jobs are submitted and the second is cancelled while the first runs. -/
theorem second_job_cancelled_in_order :
    ∃ final,
      Run Observed.Step (Observed.start 2)
          [.publishReady, .submit, .submit, .take, .loadCancel,
            .engineDelta ⟨.content, [104]⟩, .cancel 2,
            .engineEnd (.returned { stop := .eos }), .pushTerminal, .close,
            .settle, .take, .loadCancel, .pushTerminal, .close, .settle]
          final ∧
        final.service.accepted = [1, 2] ∧
        runs final.log = [1] ∧
        (runs final.log).Sublist final.service.accepted ∧
        OneAtATime final.log := by
  have passed :
      ∃ final,
        Run Observed.Step (Observed.start 2)
            [.publishReady, .submit, .submit, .take, .loadCancel,
              .engineDelta ⟨.content, [104]⟩, .cancel 2,
              .engineEnd (.returned { stop := .eos }), .pushTerminal, .close,
              .settle, .take, .loadCancel, .pushTerminal, .close, .settle]
            final ∧
          final.service.accepted = [1, 2] ∧ runs final.log = [1] := by
    refine ⟨_, .cons (Observed.observe rfl) <|
      .cons (Observed.observe rfl) <|
      .cons (Observed.observe rfl) <|
      .cons (Observed.observe rfl) <|
      .cons (Observed.observe rfl) <|
      .cons (Observed.observe rfl) <|
      .cons (Observed.observe rfl) <|
      .cons (Observed.observe rfl) <|
      .cons (Observed.observe rfl) <|
      .cons (Observed.observe rfl) <|
      .cons (Observed.observe rfl) <|
      .cons (Observed.observe rfl) <|
      .cons (Observed.observe rfl) <|
      .cons (Observed.observe rfl) <|
      .cons (Observed.observe rfl) <|
      .cons (Observed.observe rfl) <| .nil _,
      rfl, rfl⟩
  obtain ⟨final, run, accepted, ran⟩ := passed
  obtain ⟨inOrder, -, serial, -, -, -⟩ :=
    run_one_conversation_in_order 2 run
  exact ⟨final, run, accepted, ran, inOrder, serial⟩

end Aeon.Server.Service
