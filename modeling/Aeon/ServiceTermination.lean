import Aeon.ConversationService
import Mathlib.Data.List.Perm.Basic

namespace Aeon.Server.Service

/-!
# Every accepted job is terminated exactly once

A job that `submit` returned is always on exactly one ticket: in the queue, in
the worker's hands, or in a drain loop.  A ticket says how far its stream has
come; a job without one was terminated.  Every step of the service moves tickets
around or advances one of them by one stream call, so `run_worker` leaves a job
unterminated exactly when it returns with a ticket still out.
-/

open Drain (WorkerCall isTerminal)
open scoped List

/-! ## The ledger of open tickets -/

/-- How far an open job's stream has come. -/
inductive Stage where
  | streaming
  | finishing
  deriving Repr, DecidableEq

/-- One job whose stream is not closed yet. -/
structure Ticket where
  job : Nat
  stage : Stage
  deriving Repr, DecidableEq

/-- The stream calls a stage stands for. -/
def Stage.Fits (calls : List WorkerCall) : Stage → Prop
  | .streaming =>
    ∃ deltas : List TextDelta,
      calls = deltas.map (WorkerCall.push ∘ JobEvent.delta)
  | .finishing =>
    ∃ (deltas : List TextDelta) (terminal : JobEvent),
      isTerminal terminal = true ∧
        calls =
          deltas.map (WorkerCall.push ∘ JobEvent.delta) ++
            [.push terminal]

/-- The streams of the accepted jobs agree with the open tickets. -/
structure Ledger
    (service : Service)
    (tickets : List Ticket) : Prop where
  unique : (tickets.map Ticket.job).Nodup
  known : ∀ ticket ∈ tickets, ticket.job ∈ service.accepted
  fits :
    ∀ ticket ∈ tickets,
      ticket.stage.Fits (service.calls ticket.job)
  settled :
    ∀ job ∈ service.accepted,
      job ∉ tickets.map Ticket.job →
        TerminatedOnce (service.calls job)
  numbered : ∀ job ∈ service.accepted, job < service.nextId
  untouched : ∀ job, service.nextId ≤ job → service.calls job = []

variable {service : Service}
variable {rest : List Ticket}
variable {job : Nat}
variable {source target : Service}
variable {action : ServiceAction}

/-- The order of the tickets does not matter. -/
theorem Ledger.perm
    {tickets reordered : List Ticket}
    (ledger : Ledger service tickets)
    (same : tickets.Perm reordered) :
    Ledger service reordered where
  unique := (same.map Ticket.job).nodup_iff.mp ledger.unique
  known := by
    intro ticket member
    exact ledger.known ticket (same.mem_iff.mpr member)
  fits := by
    intro ticket member
    exact ledger.fits ticket (same.mem_iff.mpr member)
  settled := by
    intro job accepted absent
    apply ledger.settled job accepted
    intro present
    exact absent ((same.map Ticket.job).mem_iff.mp present)
  numbered := ledger.numbered
  untouched := ledger.untouched

theorem Ledger.congr
    {service other : Service}
    {tickets : List Ticket}
    (ledger : Ledger service tickets)
    (accepted : other.accepted = service.accepted)
    (calls : other.calls = service.calls)
    (nextId : other.nextId = service.nextId) :
    Ledger other tickets where
  unique := ledger.unique
  known := by
    rw [accepted]
    exact ledger.known
  fits := by
    rw [calls]
    exact ledger.fits
  settled := by
    rw [accepted, calls]
    exact ledger.settled
  numbered := by
    rw [accepted, nextId]
    exact ledger.numbered
  untouched := by
    rw [calls, nextId]
    exact ledger.untouched

@[simp] theorem call_calls_self
    (service : Service)
    (job : Nat)
    (made : WorkerCall) :
    (service.call job made).calls job = service.calls job ++ [made] := by
  simp [call]

theorem call_calls_other
    (service : Service)
    {job other : Nat}
    (made : WorkerCall)
    (different : other ≠ job) :
    (service.call job made).calls other = service.calls other := by
  simp [call, different]

theorem Ledger.call_other
    {ticket : Ticket}
    (ledger : Ledger service (ticket :: rest))
    (made : WorkerCall)
    {other : Ticket}
    (member : other ∈ rest) :
    (service.call ticket.job made).calls other.job =
      service.calls other.job := by
  apply call_calls_other
  intro same
  have unique := ledger.unique
  simp only [List.map_cons, List.nodup_cons] at unique
  apply unique.1
  rw [← same]
  exact List.mem_map_of_mem member

theorem Ledger.advance
    {stage next : Stage}
    {made : WorkerCall}
    (ledger : Ledger service (⟨job, stage⟩ :: rest))
    (moves :
      ∀ calls, stage.Fits calls → next.Fits (calls ++ [made])) :
    Ledger (service.call job made) (⟨job, next⟩ :: rest) where
  unique := ledger.unique
  known := by
    intro ticket member
    rcases List.mem_cons.mp member with rfl | later
    · exact ledger.known ⟨job, stage⟩ List.mem_cons_self
    · exact ledger.known ticket (List.mem_cons_of_mem _ later)
  fits := by
    intro ticket member
    rcases List.mem_cons.mp member with rfl | later
    · rw [call_calls_self]
      exact moves _ (ledger.fits ⟨job, stage⟩ List.mem_cons_self)
    · rw [ledger.call_other made later]
      exact ledger.fits ticket (List.mem_cons_of_mem _ later)
  settled := by
    intro other accepted absent
    have different : other ≠ job := by
      rintro rfl
      simp at absent
    rw [call_calls_other service made different]
    exact ledger.settled other accepted absent
  numbered := ledger.numbered
  untouched := by
    intro other fresh
    have accepted := ledger.known ⟨job, stage⟩ List.mem_cons_self
    have bounded := ledger.numbered job accepted
    have fresh' : service.nextId ≤ other := fresh
    rw [call_calls_other service made (by omega)]
    exact ledger.untouched other fresh

theorem Ledger.close
    (ledger : Ledger service (⟨job, .finishing⟩ :: rest)) :
    Ledger (service.call job .close) rest where
  unique := by
    have unique := ledger.unique
    simp only [List.map_cons, List.nodup_cons] at unique
    exact unique.2
  known := by
    intro ticket member
    exact ledger.known ticket (List.mem_cons_of_mem _ member)
  fits := by
    intro ticket member
    rw [ledger.call_other .close member]
    exact ledger.fits ticket (List.mem_cons_of_mem _ member)
  settled := by
    intro other accepted absent
    by_cases same : other = job
    · subst other
      obtain ⟨deltas, terminal, terminates, shape⟩ :=
        ledger.fits ⟨job, .finishing⟩ List.mem_cons_self
      refine ⟨deltas, terminal, terminates, ?_⟩
      rw [call_calls_self, shape]
      simp [Drain.workerCalls, Drain.jobEvents]
    · rw [call_calls_other service .close same]
      apply ledger.settled other accepted
      simpa [same] using absent
  numbered := ledger.numbered
  untouched := by
    intro other fresh
    have accepted := ledger.known ⟨job, .finishing⟩ List.mem_cons_self
    have bounded := ledger.numbered job accepted
    have fresh' : service.nextId ≤ other := fresh
    rw [call_calls_other service .close (by omega)]
    exact ledger.untouched other fresh

theorem fits_push_delta
    (delta : TextDelta)
    (calls : List WorkerCall)
    (fits : Stage.streaming.Fits calls) :
    Stage.streaming.Fits (calls ++ [.push (.delta delta)]) := by
  obtain ⟨deltas, rfl⟩ := fits
  exact ⟨deltas ++ [delta], by simp⟩

theorem fits_push_terminal
    (event : TerminalEvent)
    (calls : List WorkerCall)
    (fits : Stage.streaming.Fits calls) :
    Stage.finishing.Fits (calls ++ [.push event.val]) := by
  obtain ⟨deltas, rfl⟩ := fits
  exact ⟨deltas, event.val, event.property, rfl⟩

/-- An open ticket's stream is not terminated yet. -/
theorem Stage.Fits.not_terminatedOnce
    {calls : List WorkerCall}
    {stage : Stage}
    (fits : stage.Fits calls) :
    ¬ TerminatedOnce calls := by
  rintro ⟨deltas, terminal, _, shape⟩
  have closes : WorkerCall.close ∈ calls := by
    rw [shape]
    simp [Drain.workerCalls]
  cases stage with
  | streaming =>
    obtain ⟨sent, rfl⟩ := fits
    simp at closes
  | finishing =>
    obtain ⟨sent, last, _, rfl⟩ := fits
    simp at closes

/-! ## The tickets of a service state -/

/-- A job nobody has touched since it was queued. -/
def waiting (job : Nat) : Ticket :=
  ⟨job, .streaming⟩

/-- The tickets of a drain loop. -/
def DrainLoop.tickets (loop : DrainLoop) : List Ticket :=
  match loop.pending with
  | [] => []
  | job :: rest =>
    ⟨job, if loop.pushed then .finishing else .streaming⟩ ::
      rest.map waiting

/-- The tickets the worker holds. -/
def Worker.tickets : Worker → List Ticket
  | .loadCancel job => [⟨job, .streaming⟩]
  | .engineRun job => [⟨job, .streaming⟩]
  | .pushTerminal job _ => [⟨job, .streaming⟩]
  | .close job => [⟨job, .finishing⟩]
  | .drain loop => DrainLoop.tickets loop
  | _ => []

/-- Every open ticket: the worker's, the queue's and the drain loops'. -/
def tickets (service : Service) : List Ticket :=
  Worker.tickets service.worker ++
    (service.queue.map waiting ++
      service.shutdowns.flatMap DrainLoop.tickets)

/-- The invariant of every run of the service. -/
structure Accounted (service : Service) : Prop where
  ledger : Ledger service service.tickets
  stopped : service.worker = .returned → service.state = .stopping

theorem drainLoop_tickets_fresh
    (pending : List Nat) :
    DrainLoop.tickets { pending := pending } = pending.map waiting := by
  cases pending with
  | nil => rfl
  | cons job rest => rfl

theorem drainLoop_tickets_eq_nil
    {loop : DrainLoop} :
    DrainLoop.tickets loop = [] ↔ loop.pending = [] := by
  cases loop with
  | mk pending pushed =>
    cases pending <;> simp [DrainLoop.tickets]

theorem drainCall_ledger
    {service next : Service}
    {loop after : DrainLoop}
    {others : List Ticket}
    (drained : service.drainCall loop = some (next, after))
    (ledger : Ledger service (DrainLoop.tickets loop ++ others)) :
    Ledger next (DrainLoop.tickets after ++ others) := by
  obtain ⟨pending, pushed⟩ := loop
  cases pending with
  | nil =>
    simp [drainCall] at drained
  | cons job rest =>
    cases pushed with
    | false =>
      simp only [drainCall, Bool.false_eq_true, if_false,
        Option.some.injEq, Prod.mk.injEq] at drained
      obtain ⟨rfl, rfl⟩ := drained
      exact ledger.advance (fits_push_terminal cancelledEvent)
    | true =>
      simp only [drainCall, if_true, Option.some.injEq,
        Prod.mk.injEq] at drained
      obtain ⟨rfl, rfl⟩ := drained
      rw [drainLoop_tickets_fresh]
      exact ledger.close

theorem drainCall_worker
    {service next : Service}
    {loop after : DrainLoop}
    (drained : service.drainCall loop = some (next, after)) :
    next.worker = service.worker ∧ next.queue = service.queue ∧
      next.shutdowns = service.shutdowns ∧ next.state = service.state := by
  obtain ⟨pending, pushed⟩ := loop
  cases pending with
  | nil => simp [drainCall] at drained
  | cons job rest =>
    cases pushed <;>
      · simp only [drainCall, Bool.false_eq_true, if_false, if_true,
          Option.some.injEq, Prod.mk.injEq] at drained
        obtain ⟨rfl, rfl⟩ := drained
        exact ⟨rfl, rfl, rfl, rfl⟩

/-! ## What each step does to the ledger -/

theorem Ledger.relocate
    (ledger : Ledger source source.tickets)
    (accepted : target.accepted = source.accepted)
    (calls : target.calls = source.calls)
    (nextId : target.nextId = source.nextId)
    (same : source.tickets.Perm target.tickets) :
    Ledger target target.tickets :=
  (ledger.perm same).congr accepted calls nextId

theorem Ledger.accept
    {tickets : List Ticket}
    (ledger : Ledger source tickets)
    (accepted : target.accepted = source.accepted ++ [source.nextId])
    (calls : target.calls = source.calls)
    (nextId : target.nextId = source.nextId + 1) :
    Ledger target (waiting source.nextId :: tickets) where
  unique := by
    simp only [List.map_cons, List.nodup_cons]
    refine ⟨?_, ledger.unique⟩
    intro member
    obtain ⟨ticket, ticketMember, jobEq⟩ := List.mem_map.mp member
    have bounded :=
      ledger.numbered ticket.job (ledger.known ticket ticketMember)
    have same : ticket.job = source.nextId := jobEq
    omega
  known := by
    intro ticket member
    rw [accepted]
    rcases List.mem_cons.mp member with rfl | earlier
    · simp [waiting]
    · exact List.mem_append_left _ (ledger.known ticket earlier)
  fits := by
    intro ticket member
    rw [calls]
    rcases List.mem_cons.mp member with rfl | earlier
    · refine ⟨[], ?_⟩
      exact ledger.untouched source.nextId (Nat.le_refl _)
    · exact ledger.fits ticket earlier
  settled := by
    intro job member absent
    rw [calls]
    rw [accepted] at member
    rcases List.mem_append.mp member with earlier | latest
    · apply ledger.settled job earlier
      intro present
      exact absent (List.mem_cons_of_mem _ present)
    · exfalso
      apply absent
      rw [List.mem_singleton.mp latest]
      exact List.mem_cons_self
  numbered := by
    intro job member
    rw [accepted] at member
    rw [nextId]
    rcases List.mem_append.mp member with earlier | latest
    · exact Nat.lt_succ_of_lt (ledger.numbered job earlier)
    · rw [List.mem_singleton.mp latest]
      exact Nat.lt_succ_self _
  untouched := by
    intro job fresh
    rw [calls]
    rw [nextId] at fresh
    exact ledger.untouched job (by omega)

theorem submit_ok
    {service next : Service}
    (submitted : service.submit = .ok (job, next)) :
    service.state = .ready ∧
      job = service.nextId ∧
      next = { service with
        nextId := service.nextId + 1
        queue := service.queue ++ [service.nextId]
        accepted := service.accepted ++ [service.nextId] } := by
  unfold submit at submitted
  by_cases isReady : service.state = .ready
  · by_cases full : service.maxQueue ≤ service.queue.length
    · simp [isReady, full] at submitted
    · rw [if_neg (not_not.mpr isReady), if_neg full] at submitted
      simp only [Except.ok.injEq, Prod.mk.injEq] at submitted
      exact ⟨isReady, submitted.1.symm, submitted.2.symm⟩
  · simp [isReady] at submitted

theorem submit_accounted
    (accounted : Accounted source)
    (taken : Step source .submit target) :
    Accounted target := by
  unfold Step step? at taken
  cases submitted : source.submit with
  | error refused =>
    simp only [submitted, Option.some.injEq] at taken
    exact taken ▸ accounted
  | ok pair =>
    obtain ⟨job, next⟩ := pair
    simp only [submitted, Option.some.injEq] at taken
    subst taken
    obtain ⟨isReady, _, rfl⟩ := submit_ok submitted
    refine ⟨?_, ?_⟩
    · have grown :
          Ledger { source with
              nextId := source.nextId + 1
              queue := source.queue ++ [source.nextId]
              accepted := source.accepted ++ [source.nextId] }
            (waiting source.nextId :: source.tickets) :=
        accounted.ledger.accept rfl rfl rfl
      apply grown.perm
      simp only [tickets, List.map_append, List.map_cons, List.map_nil,
        List.append_assoc]
      apply List.Perm.trans List.perm_middle.symm
      apply List.Perm.append_left
      exact List.perm_middle.symm
    · intro returned
      have stopped := accounted.stopped returned
      rw [isReady] at stopped
      contradiction

theorem shutdown_accounted
    (accounted : Accounted source)
    (taken : Step source .shutdown target) :
    Accounted target := by
  simp only [Step, step?, Option.some.injEq] at taken
  subst taken
  refine ⟨?_, fun _ => rfl⟩
  apply accounted.ledger.relocate
  · cases live : source.liveJob <;> simp [shutdown, live, cancel]
  · cases live : source.liveJob <;> simp [shutdown, live, cancel]
  · cases live : source.liveJob <;> simp [shutdown, live, cancel]
  · have workerKept : source.shutdown.worker = source.worker := by
      cases live : source.liveJob <;> simp [shutdown, live, cancel]
    simp only [tickets, workerKept]
    apply List.Perm.append_left
    simpa [shutdown, drainLoop_tickets_fresh] using List.perm_append_comm

theorem tickets_front
    {index : Nat}
    {loop : DrainLoop}
    (found : service.shutdowns[index]? = some loop) :
    service.tickets.Perm
      (DrainLoop.tickets loop ++
        (Worker.tickets service.worker ++
          (service.queue.map waiting ++
            (service.shutdowns.eraseIdx index).flatMap
              DrainLoop.tickets))) := by
  have moved :
      (service.shutdowns.flatMap DrainLoop.tickets).Perm
        (DrainLoop.tickets loop ++
          (service.shutdowns.eraseIdx index).flatMap DrainLoop.tickets) := by
    obtain ⟨inRange, rfl⟩ := List.getElem?_eq_some_iff.mp found
    have split := (List.getElem_cons_eraseIdx_perm inRange).symm
    simpa using split.flatMap_right DrainLoop.tickets
  calc
    service.tickets
      = (Worker.tickets service.worker ++ service.queue.map waiting) ++
          service.shutdowns.flatMap DrainLoop.tickets := by
        simp [tickets]
    _ ~ (Worker.tickets service.worker ++ service.queue.map waiting) ++
          (DrainLoop.tickets loop ++
            (service.shutdowns.eraseIdx index).flatMap
              DrainLoop.tickets) :=
        List.Perm.append_left _ moved
    _ ~ DrainLoop.tickets loop ++
          ((Worker.tickets service.worker ++ service.queue.map waiting) ++
            (service.shutdowns.eraseIdx index).flatMap
              DrainLoop.tickets) := by
        rw [← List.append_assoc, ← List.append_assoc]
        exact List.Perm.append_right _ List.perm_append_comm
    _ = _ := by
        simp

theorem shutdownDrain_accounted
    {index : Nat}
    (accounted : Accounted source)
    (taken : Step source (.shutdownDrain index) target) :
    Accounted target := by
  unfold Step step? at taken
  cases found : source.shutdowns[index]? with
  | none => simp [found] at taken
  | some loop =>
    cases drained : source.drainCall loop with
    | none => simp [found, drained] at taken
    | some pair =>
      obtain ⟨next, after⟩ := pair
      simp only [found, drained, Option.some.injEq] at taken
      subst taken
      obtain ⟨workerKept, queueKept, _, stateKept⟩ :=
        drainCall_worker drained
      have advanced : Ledger next _ :=
        drainCall_ledger drained
          (accounted.ledger.perm (tickets_front found))
      refine ⟨?_, ?_⟩
      · have arranged :
            Ledger { next with
                shutdowns := source.shutdowns.set index after }
              (DrainLoop.tickets after ++
                (Worker.tickets source.worker ++
                  (source.queue.map waiting ++
                    (source.shutdowns.eraseIdx index).flatMap
                      DrainLoop.tickets))) :=
          advanced.congr rfl rfl rfl
        apply arranged.perm
        have inRange : index < source.shutdowns.length :=
          (List.getElem?_eq_some_iff.mp found).1
        have present :
            (source.shutdowns.set index after)[index]? = some after :=
          List.getElem?_set_self inRange
        have shape :
            ({ next with
              shutdowns := source.shutdowns.set index after } :
                Service).tickets.Perm _ :=
          tickets_front present
        simpa [workerKept, queueKept, List.eraseIdx_set_eq]
          using shape.symm
      · intro returned
        have was : source.worker = .returned := by
          rw [← workerKept]
          exact returned
        have stopped := accounted.stopped was
        simpa [stateKept] using stopped

theorem worker_accounted
    (accounted : Accounted source)
    (own :
      action ≠ .submit ∧ (∀ job, action ≠ .cancel job) ∧
        action ≠ .shutdown ∧ ∀ index, action ≠ .shutdownDrain index)
    (taken : Step source action target) :
    Accounted target := by
  have ledger := accounted.ledger
  unfold Step step? at taken
  cases action with
  | submit => simp at own
  | cancel job => simp at own
  | shutdown => simp at own
  | shutdownDrain index => simp at own
  | publishReady =>
    cases place : source.worker <;> simp [place] at taken
    subst taken
    refine ⟨?_, by simp⟩
    refine ledger.relocate rfl rfl rfl ?_
    simp [tickets, place, Worker.tickets]
  | take =>
    cases place : source.worker <;> simp [place] at taken
    by_cases isRunning : source.running
    · cases queueEq : source.queue with
      | nil => simp [isRunning, queueEq] at taken
      | cons job rest =>
        simp only [isRunning, queueEq, if_true,
          Option.some.injEq] at taken
        subst taken
        refine ⟨?_, by simp⟩
        refine ledger.relocate rfl rfl rfl ?_
        simp [tickets, place, Worker.tickets, queueEq, waiting]
    · simp only [isRunning, Bool.false_eq_true, if_false,
        Option.some.injEq] at taken
      subst taken
      refine ⟨?_, by simp⟩
      refine ledger.relocate rfl rfl rfl ?_
      simp [tickets, place, Worker.tickets]
  | loadCancel =>
    cases place : source.worker <;> simp [place] at taken
    split at taken
    · obtain rfl := Option.some.inj taken
      refine ⟨?_, by simp⟩
      refine ledger.relocate rfl rfl rfl ?_
      simp [tickets, place, Worker.tickets]
    · obtain rfl := Option.some.inj taken
      refine ⟨?_, by simp⟩
      refine ledger.relocate rfl rfl rfl ?_
      simp [tickets, place, Worker.tickets]
  | engineDelta delta =>
    cases place : source.worker with
    | engineRun job =>
      simp only [place, Option.some.injEq] at taken
      subst taken
      refine ⟨?_, ?_⟩
      · have shape :
            source.tickets = ⟨job, .streaming⟩ ::
              (source.queue.map waiting ++
                source.shutdowns.flatMap DrainLoop.tickets) := by
          simp [tickets, place, Worker.tickets]
        rw [shape] at ledger
        have advanced := ledger.advance (fits_push_delta delta)
        simpa [tickets, call, place, Worker.tickets] using advanced
      · simp [call, place]
    | _ => simp [place] at taken
  | engineEnd outcome =>
    cases place : source.worker <;> simp [place] at taken
    subst taken
    refine ⟨?_, by simp⟩
    refine ledger.relocate rfl rfl rfl ?_
    simp [tickets, place, Worker.tickets]
  | pushTerminal =>
    cases place : source.worker with
    | pushTerminal job event =>
      simp only [place, Option.some.injEq] at taken
      subst taken
      refine ⟨?_, by simp⟩
      have shape :
          source.tickets = ⟨job, .streaming⟩ ::
            (source.queue.map waiting ++
              source.shutdowns.flatMap DrainLoop.tickets) := by
        simp [tickets, place, Worker.tickets]
      rw [shape] at ledger
      have advanced := ledger.advance (fits_push_terminal event)
      exact advanced.congr rfl rfl rfl
    | _ => simp [place] at taken
  | close =>
    cases place : source.worker with
    | close job =>
      simp only [place, Option.some.injEq] at taken
      subst taken
      refine ⟨?_, by simp⟩
      have shape :
          source.tickets = ⟨job, .finishing⟩ ::
            (source.queue.map waiting ++
              source.shutdowns.flatMap DrainLoop.tickets) := by
        simp [tickets, place, Worker.tickets]
      rw [shape] at ledger
      exact ledger.close.congr rfl rfl rfl
    | _ => simp [place] at taken
  | settle =>
    cases place : source.worker <;> simp [place] at taken
    subst taken
    refine ⟨?_, by simp⟩
    refine ledger.relocate rfl rfl rfl ?_
    simp [tickets, place, Worker.tickets]
  | exitSwap =>
    cases place : source.worker <;> simp [place] at taken
    subst taken
    refine ⟨?_, by simp⟩
    refine ledger.relocate rfl rfl rfl ?_
    simp [tickets, place, Worker.tickets, drainLoop_tickets_fresh]
  | workerDrain =>
    cases place : source.worker with
    | drain loop =>
      cases drained : source.drainCall loop with
      | none => simp [place, drained] at taken
      | some pair =>
        obtain ⟨next, after⟩ := pair
        simp only [place, drained, Option.some.injEq] at taken
        subst taken
        refine ⟨?_, by simp⟩
        obtain ⟨_, queueKept, shutdownsKept, _⟩ :=
          drainCall_worker drained
        have shape :
            source.tickets =
              DrainLoop.tickets loop ++
                (source.queue.map waiting ++
                  source.shutdowns.flatMap DrainLoop.tickets) := by
          simp [tickets, place, Worker.tickets]
        rw [shape] at ledger
        have advanced := drainCall_ledger drained ledger
        have arranged :
            Ledger { next with worker := .drain after } _ :=
          advanced.congr rfl rfl rfl
        simpa [tickets, Worker.tickets, queueKept, shutdownsKept]
          using arranged
    | _ => simp [place] at taken
  | storeStopping =>
    cases place : source.worker with
    | drain loop =>
      obtain ⟨pending, pushed⟩ := loop
      cases pending with
      | nil =>
        simp only [place, Option.some.injEq] at taken
        subst taken
        refine ⟨?_, fun _ => rfl⟩
        refine ledger.relocate rfl rfl rfl ?_
        simp [tickets, place, Worker.tickets, DrainLoop.tickets]
      | cons job rest => simp [place] at taken
    | _ => simp [place] at taken

theorem step_accounted
    (accounted : Accounted source)
    (taken : Step source action target) :
    Accounted target := by
  cases action with
  | submit => exact submit_accounted accounted taken
  | cancel job =>
    simp only [Step, step?] at taken
    split at taken
    · obtain rfl := Option.some.inj taken
      exact ⟨accounted.ledger.congr rfl rfl rfl, accounted.stopped⟩
    · contradiction
  | shutdown => exact shutdown_accounted accounted taken
  | shutdownDrain index => exact shutdownDrain_accounted accounted taken
  | _ => exact worker_accounted accounted (by simp) taken

theorem start_accounted
    (maxQueue : Nat) :
    Accounted (start maxQueue) where
  ledger := by
    constructor <;> simp [start, tickets, Worker.tickets]
  stopped := by
    simp [start]

/-! ## Returning with a ticket still out -/

/-- The ledger together with a worker that only returns over no open ticket. -/
structure Settled (service : Service) : Prop where
  accounted : Accounted service
  drained :
    service.worker = .returned →
      service.queue = [] ∧ ∀ loop ∈ service.shutdowns, loop.pending = []

theorem Settled.allTerminated
    (settled : Settled service) :
    AllTerminated service := by
  intro returned job accepted
  apply settled.accounted.ledger.settled job accepted
  obtain ⟨queueEmpty, loopsEmpty⟩ := settled.drained returned
  have noLoopTickets :
      service.shutdowns.flatMap DrainLoop.tickets = [] := by
    rw [List.flatMap_eq_nil_iff]
    intro loop member
    exact drainLoop_tickets_eq_nil.mpr (loopsEmpty loop member)
  simp [tickets, returned, Worker.tickets, queueEmpty, noLoopTickets]

theorem returned_step_drained
    (settled : Settled source)
    (returned : source.worker = .returned)
    (taken : Step source action target) :
    target.queue = [] ∧ ∀ loop ∈ target.shutdowns, loop.pending = [] := by
  obtain ⟨queueEmpty, loopsEmpty⟩ := settled.drained returned
  have stopped := settled.accounted.stopped returned
  unfold Step at taken
  cases action with
  | submit =>
    have refused : source.submit = .error .notReady := by
      simp [submit, stopped]
    simp only [step?, refused, Option.some.injEq] at taken
    exact taken ▸ ⟨queueEmpty, loopsEmpty⟩
  | cancel job =>
    simp only [step?] at taken
    split at taken
    · obtain rfl := Option.some.inj taken
      exact ⟨queueEmpty, loopsEmpty⟩
    · contradiction
  | shutdown =>
    simp only [step?, Option.some.injEq] at taken
    subst taken
    refine ⟨rfl, ?_⟩
    intro loop member
    rcases List.mem_append.mp member with earlier | latest
    · exact loopsEmpty loop earlier
    · rw [List.mem_singleton.mp latest]
      exact queueEmpty
  | shutdownDrain index =>
    cases found : source.shutdowns[index]? with
    | none => simp [step?, found] at taken
    | some loop =>
      have empty := loopsEmpty loop (List.mem_of_getElem? found)
      simp [step?, found, drainCall, empty] at taken
  | _ => simp [step?, returned] at taken

theorem storeStopping_cases
    (taken : Step source .storeStopping target) :
    (∃ pushed, source.worker = .drain ⟨[], pushed⟩) ∧
      target = { source with state := .stopping, worker := .returned } := by
  unfold Step step? at taken
  cases place : source.worker with
  | drain loop =>
    obtain ⟨pending, pushed⟩ := loop
    cases pending with
    | nil =>
      simp only [place, Option.some.injEq] at taken
      exact ⟨⟨pushed, rfl⟩, taken.symm⟩
    | cons job rest => simp [place] at taken
  | _ => simp [place] at taken

theorem step_into_returned
    (taken : Step source action target)
    (running : source.worker ≠ .returned)
    (returned : target.worker = .returned) :
    action = .storeStopping := by
  unfold Step at taken
  cases action with
  | storeStopping => rfl
  | submit =>
    simp only [step?] at taken
    cases submitted : source.submit with
    | error refused =>
      simp only [submitted, Option.some.injEq] at taken
      exact absurd (taken ▸ returned) running
    | ok pair =>
      simp only [submitted, Option.some.injEq] at taken
      obtain ⟨_, _, nextEq⟩ := submit_ok submitted
      rw [← taken, nextEq] at returned
      exact absurd returned running
  | cancel job =>
    simp only [step?] at taken
    split at taken
    · obtain rfl := Option.some.inj taken
      exact absurd returned running
    · contradiction
  | shutdown =>
    simp only [step?, Option.some.injEq] at taken
    subst taken
    cases live : source.liveJob <;>
      exact absurd (by simpa [shutdown, live, cancel] using returned)
        running
  | shutdownDrain index =>
    cases found : source.shutdowns[index]? with
    | none => simp [step?, found] at taken
    | some loop =>
      cases drained : source.drainCall loop with
      | none => simp [step?, found, drained] at taken
      | some pair =>
        simp only [step?, found, drained, Option.some.injEq] at taken
        subst taken
        have kept := (drainCall_worker drained).1
        exact absurd (kept.symm.trans returned) running
  | take =>
    cases place : source.worker <;> simp [step?, place] at taken
    split at taken
    · split at taken
      · contradiction
      · obtain rfl := Option.some.inj taken
        simp at returned
    · obtain rfl := Option.some.inj taken
      simp at returned
  | loadCancel =>
    cases place : source.worker <;> simp [step?, place] at taken
    split at taken <;> obtain rfl := Option.some.inj taken <;>
      simp at returned
  | workerDrain =>
    cases place : source.worker with
    | drain loop =>
      cases drained : source.drainCall loop with
      | none => simp [step?, place, drained] at taken
      | some pair =>
        simp only [step?, place, drained, Option.some.injEq] at taken
        subst taken
        simp at returned
    | _ => simp [step?, place] at taken
  | _ =>
    cases place : source.worker <;> simp [step?, place] at taken
    subst taken
    simp [call, place] at returned

/-- A step that meets the condition keeps the worker's return clean. -/
theorem guarded_step_settled
    (settled : Settled source)
    (taken : Guarded Step ReturnsSettled source action target) :
    Settled target := by
  obtain ⟨permitted, step⟩ := taken
  refine ⟨step_accounted settled.accounted step, ?_⟩
  intro returned
  by_cases was : source.worker = .returned
  · exact returned_step_drained settled was step
  · obtain rfl := step_into_returned step was returned
    obtain ⟨queueEmpty, loopsEmpty⟩ := permitted rfl
    obtain ⟨_, rfl⟩ := storeStopping_cases step
    exact ⟨queueEmpty, loopsEmpty⟩

theorem start_settled
    (maxQueue : Nat) :
    Settled (start maxQueue) :=
  ⟨start_accounted maxQueue, by simp [start]⟩

/-- Returning with a ticket still out leaves an accepted job unterminated. -/
theorem violation_not_allTerminated
    (accounted : Accounted source)
    (refused : ¬ ReturnsSettled source action)
    (taken : Step source action target) :
    ¬ AllTerminated target := by
  unfold ReturnsSettled at refused
  rw [Classical.not_imp] at refused
  obtain ⟨rfl, notDrained⟩ := refused
  obtain ⟨⟨pushed, place⟩, rfl⟩ := storeStopping_cases taken
  have leftOver : source.tickets ≠ [] := by
    intro none
    simp only [tickets, List.append_eq_nil_iff, List.map_eq_nil_iff,
      List.flatMap_eq_nil_iff] at none
    apply notDrained
    refine ⟨none.2.1, ?_⟩
    intro loop member
    exact drainLoop_tickets_eq_nil.mp (none.2.2 loop member)
  obtain ⟨ticket, member⟩ := List.exists_mem_of_ne_nil _ leftOver
  intro terminated
  have closed :=
    terminated rfl ticket.job (accounted.ledger.known ticket member)
  exact (accounted.ledger.fits ticket member).not_terminatedOnce closed

theorem step_deterministic
    {source one other : Service}
    (taken : Step source action one)
    (again : Step source action other) :
    one = other :=
  Option.some.inj (taken.symm.trans again)

/--
For every interleaving of submits, cancels and shutdowns with one `run_worker`:
in every state of the run in which the worker has returned, every accepted job
has had its deltas, exactly one terminal event, `close` and nothing after it, if
and only if the worker's last step was taken over an empty queue and with no
`shutdown` call still in its drain loop.
-/
theorem allTerminated_iff_returnsSettled
    (maxQueue : Nat)
    {actions : List ServiceAction}
    {final : Service}
    (run : Run Step (start maxQueue) actions final) :
    (∀ leading trailing reached,
      actions = leading ++ trailing →
        Run Step (start maxQueue) leading reached →
          AllTerminated reached) ↔
      Run (Guarded Step ReturnsSettled) (start maxQueue) actions final := by
  constructor
  · intro always
    rcases run.guarded_or_first_violation ReturnsSettled with
      guarded | ⟨leading, action, trailing, source, target,
        shape, before, refused, taken, _⟩
    · exact guarded
    · exfalso
      have reach : Run Step (start maxQueue) leading source :=
        before.mono And.right
      have accounted :=
        reach.invariant Accounted step_accounted (start_accounted maxQueue)
      apply violation_not_allTerminated accounted refused taken
      apply always (leading ++ [action]) trailing target
      · simp [shape]
      · exact reach.append (.single taken)
  · intro guarded leading trailing reached shape reach
    rw [shape] at guarded
    obtain ⟨middle, before, _⟩ := guarded.split
    have same : middle = reached :=
      (before.mono And.right).deterministic reach step_deterministic
    subst same
    exact (before.invariant Settled guarded_step_settled
      (start_settled maxQueue)).allTerminated

/--
A shutdown that comes before `Ready` is published: the worker publishes it all
the same, leaves its loop and empties the queue; a job submitted before the
worker stores `Stopping` is accepted and never terminated.
-/
theorem early_shutdown_strands_job :
    ∃ final,
      Run Step (start 4)
          [.shutdown, .publishReady, .take, .exitSwap, .submit,
            .storeStopping]
          final ∧
        final.worker = .returned ∧
        final.accepted = [1] ∧
        final.calls 1 = [] ∧
        ¬ AllTerminated final := by
  refine ⟨_, .cons rfl <| .cons rfl <| .cons rfl <| .cons rfl <|
    .cons rfl <| .cons rfl <| .nil _, rfl, rfl, rfl, ?_⟩
  intro terminated
  obtain ⟨deltas, terminal, _, shape⟩ := terminated rfl 1 (by decide)
  have empty := congrArg List.length shape
  simp [Drain.workerCalls, shutdown, start] at empty

/-- One job run to its end before the shutdown. -/
theorem orderly_shutdown_allTerminated :
    ∃ final,
      Run Step (start 4)
          [.publishReady, .submit, .take, .loadCancel,
            .engineDelta ⟨.content, [104, 105]⟩,
            .engineEnd (.returned { stop := .eos }), .pushTerminal, .close,
            .settle, .shutdown, .take, .exitSwap, .storeStopping]
          final ∧
        final.worker = .returned ∧
        final.accepted = [1] ∧
        AllTerminated final := by
  have run :
      ∃ final,
        Run (Guarded Step ReturnsSettled) (start 4)
            [.publishReady, .submit, .take, .loadCancel,
              .engineDelta ⟨.content, [104, 105]⟩,
              .engineEnd (.returned { stop := .eos }), .pushTerminal,
              .close, .settle, .shutdown, .take, .exitSwap, .storeStopping]
            final ∧
          final.worker = .returned ∧ final.accepted = [1] := by
    refine ⟨_, .cons ⟨?_, rfl⟩ <| .cons ⟨?_, rfl⟩ <| .cons ⟨?_, rfl⟩ <|
      .cons ⟨?_, rfl⟩ <| .cons ⟨?_, rfl⟩ <| .cons ⟨?_, rfl⟩ <|
      .cons ⟨?_, rfl⟩ <| .cons ⟨?_, rfl⟩ <| .cons ⟨?_, rfl⟩ <|
      .cons ⟨?_, rfl⟩ <| .cons ⟨?_, rfl⟩ <| .cons ⟨?_, rfl⟩ <|
      .cons ⟨?_, rfl⟩ <| .nil _, rfl, rfl⟩
    case refine_13 =>
      intro _
      exact ⟨rfl, by simp [shutdown, start, call]⟩
    all_goals
      intro final
      contradiction
  obtain ⟨final, guarded, returned, accepted⟩ := run
  have reached := guarded.mono And.right
  exact ⟨final, reached, returned, accepted,
    (allTerminated_iff_returnsSettled 4 reached).mpr guarded
      _ [] final (List.append_nil _).symm reached⟩

end Aeon.Server.Service
