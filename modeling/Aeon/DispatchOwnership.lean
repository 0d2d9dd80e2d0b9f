import Aeon.StartOwnership

namespace Aeon.Transport

open Aeon.Registry
open Call (Ensures Finished bind_apply onFirst write)

/-!
# `dispatch` and the ownership of slots

The `try` block of one request and its handler, the reservation loop, the loop over
the requests and the submission of the queue.
-/

variable
    {allowed : Reads → Prop}
    {filling : Filling}
    {setup : SupplySetup}
    {operationId slot : Nat}

/-! ## One request -/

section Request

variable
    {request : RequestReservation}
    {supply : Supply}
    {answers : List Answer}

/-- What `dispatch` needs of the slots when a request starts a transfer. -/
structure StartMeets
    (setup : SupplySetup)
    (payload : PayloadRequest)
    (request : RequestReservation)
    (supply : Supply)
    (answers : List Answer) : Prop where
  unnamed : payload.stagingIdx ∉ supply.named
  borrows : Borrows setup request payload.stagingIdx supply answers

instance
    (payload : PayloadRequest) :
    Decidable (StartMeets setup payload request supply answers) :=
  decidable_of_iff
    (payload.stagingIdx ∉ supply.named ∧
      Borrows setup request payload.stagingIdx supply answers)
    ⟨fun met => ⟨met.1, met.2⟩, fun met => ⟨met.unnamed, met.borrows⟩⟩

/-- The number a reservation took is below the counter and has no record. -/
structure Issued
    (request : RequestReservation)
    (supply : Supply) : Prop where
  counted : request.operationId < supply.registry.nextOperationId
  absent : supply.find request.operationId = none

theorem Steady.opened
    (steady : Steady setup (onReads allowed) filling supply)
    (issued : Issued request supply)
    (unnamed : slot ∉ supply.named) :
    Opened setup allowed filling request.operationId slot supply := by
  refine ⟨steady, unnamed, issued.counted, fun transfer found => ?_⟩
  rw [issued.absent] at found
  contradiction

theorem startTransfer_ensures
    {Moved : Unit → Supply × PayloadTransfer → Prop}
    (payload : PayloadRequest)
    (steady : Steady setup (onReads allowed) filling supply)
    (issued : Issued request supply)
    (meets : StartMeets setup payload request supply answers)
    (state : PayloadTransfer)
    (moved :
      Ensures
        (fun pair : Supply × PayloadTransfer =>
          Entered setup allowed filling request.operationId payload.stagingIdx
              pair.1 ∧
            pair.2 = state)
        (moveBytes setup request payload.stagingIdx)
        Moved
        (fun pair =>
          Stopped setup (onReads allowed) filling request.operationId
            pair.1)) :
    Finished
      Moved
      (fun pair =>
        Stopped setup (onReads allowed) filling request.operationId pair.1)
      (startTransfer setup request payload.stagingIdx (supply, state)
        answers) := by
  have scheduled :=
    scheduleDemotion_opened (steady.opened issued meets.unnamed)
      issued.absent meets.borrows
  have rest :
      Ensures
        (fun pair : Supply × PayloadTransfer =>
          Opened setup allowed filling request.operationId
              payload.stagingIdx pair.1 ∧
            pair.2 = state)
        (onFirst (write fun supply =>
            supply.ensure request.operationId request.globalExpertId) >>=
          fun _ => moveBytes setup request payload.stagingIdx)
        Moved
        (fun pair =>
          Stopped setup (onReads allowed) filling request.operationId
            pair.1) := by
    refine .andThen (.onFirst fun part => .write ?_) fun _ => moved
    exact fun _ holds => ⟨holds.1.ensure _, holds.2⟩
  have opened :
      Finished
        (fun (_ : Unit) (pair : Supply × PayloadTransfer) =>
          Opened setup allowed filling request.operationId
              payload.stagingIdx pair.1 ∧
            pair.2 = state)
        (fun pair =>
          Stopped setup (onReads allowed) filling request.operationId pair.1)
        (onFirst (scheduleDemotion setup request) (supply, state)
          answers) :=
    (scheduled.onFirst state).weaken (fun _ _ holds => holds)
      (fun _ holds => holds.1)
  exact opened.andThen fun _ => rest

/-- The handler of the `try` block. -/
theorem abandonTransfer_steady
    {Returned : Unit → Supply × PayloadTransfer → Prop}
    (error : SupplyError) :
    Ensures
      (fun pair : Supply × PayloadTransfer =>
        Stopped setup (onReads allowed) filling operationId pair.1)
      (abandonTransfer setup operationId error)
      Returned
      (fun pair => Steady setup (onReads allowed) filling pair.1) := by
  refine .andThen (.onState ((markRequestFailed_steady _).weaken
    (fun _ stopped => ⟨stopped.steady, stopped.unread⟩)
    (fun _ _ steady => steady) (fun _ steady => steady))) fun _ => ?_
  refine .andThen (.onState reapRegistryTransfers_steady) fun _ => ?_
  exact .throwing fun _ steady => steady

/-- An entry with its reservation's numbers. -/
def PayloadTransfer.serving
    (request : RequestReservation)
    (state : PayloadTransfer) : PayloadTransfer :=
  { state with
    globalExpertId := request.globalExpertId
    operationId := request.operationId
    vramSlot := request.vramSlot
    sourceTier := request.sourceTier }

theorem joinPending_steady
    (expertId : Nat)
    (state : PayloadTransfer) :
    Ensures
      (fun pair : Supply × PayloadTransfer =>
        Steady setup (onReads allowed) filling pair.1 ∧ pair.2 = state)
      (joinPending expertId request)
      (fun _ pair =>
        Steady setup (onReads allowed) filling pair.1 ∧
          pair.2.ioPending = state.ioPending ∧
          pair.2.ioComplete = state.ioComplete)
      (fun pair => Steady setup (onReads allowed) filling pair.1) := by
  refine .read fun current => ?_
  obtain ⟨held, entry⟩ := current
  dsimp only
  cases held.find request.operationId with
  | none => exact .throwing fun _ holds => holds.1.1
  | some pending =>
    refine .andThen (.check fun _ _ holds => holds.1.1) fun _ => .write ?_
    rintro pair ⟨-, ⟨steady, rfl⟩, -⟩
    exact ⟨steady, rfl, rfl⟩

theorem serveReservation_ensures
    {Served : Unit → Supply × PayloadTransfer → Prop}
    (payload : PayloadRequest)
    (steady : Steady setup (onReads allowed) filling supply)
    (issued : request.kind.starts = true → Issued request supply)
    (meets :
      request.kind.starts = true →
        StartMeets setup payload request supply answers)
    (state : PayloadTransfer)
    (kept :
      ∀ after changed,
        Steady setup (onReads allowed) filling after →
          changed.ioPending = state.ioPending →
            changed.ioComplete = state.ioComplete →
              Served () (after, changed))
    (moved :
      request.kind.starts = true →
        Ensures
          (fun pair : Supply × PayloadTransfer =>
            Entered setup allowed filling request.operationId
                payload.stagingIdx pair.1 ∧
              pair.2 = state.serving request)
          (moveBytes setup request payload.stagingIdx)
          Served
          (fun pair =>
            Stopped setup (onReads allowed) filling request.operationId
              pair.1)) :
    Finished
      Served
      (fun pair => Steady setup (onReads allowed) filling pair.1)
      (serveReservation setup payload request (supply, state) answers) := by
  have started
      (starts : request.kind.starts = true) :
      Finished
        Served
        (fun pair => Steady setup (onReads allowed) filling pair.1)
        (Call.catching
          (startTransfer setup request payload.stagingIdx)
          (abandonTransfer setup request.operationId)
          (supply, state.serving request) answers) := by
    have finished := startTransfer_ensures payload steady (issued starts)
      (meets starts) (state.serving request) (moved starts)
    unfold Call.catching
    generalize startTransfer setup request payload.stagingIdx
      (supply, state.serving request) answers = outcome at finished ⊢
    rcases outcome with ⟨error | value, after, rest⟩
    · exact abandonTransfer_steady error after rest finished
    · exact finished
  unfold serveReservation
  rw [bind_apply]
  simp only [setState, Call.write_apply]
  cases kind : request.kind with
  | hotHit => exact kept supply (state.serving request) steady rfl rfl
  | pending =>
    refine (joinPending_steady payload.globalExpertId
      (state.serving request) _ answers ⟨steady, rfl⟩).weaken ?_
        fun _ steady => steady
    rintro ⟨⟩ ⟨after, changed⟩ ⟨afterSteady, pending, complete⟩
    exact kept after changed afterSteady pending complete
  | warmPromotion => exact started (by rw [kind]; rfl)
  | coldMiss => exact started (by rw [kind]; rfl)
  | coldStaged => exact started (by rw [kind]; rfl)

theorem serveReservation_steady
    (payload : PayloadRequest)
    (steady : Steady setup (onReads anyReads) filling supply)
    (issued : request.kind.starts = true → Issued request supply)
    (meets :
      request.kind.starts = true →
        StartMeets setup payload request supply answers)
    (state : PayloadTransfer) :
    Finished
      (fun _ pair => Steady setup (onReads anyReads) filling pair.1)
      (fun pair => Steady setup (onReads anyReads) filling pair.1)
      (serveReservation setup payload request (supply, state) answers) :=
  serveReservation_ensures payload steady issued meets state
    (fun _ _ after _ _ => after)
    fun _ => moveBytes_steady.weaken (fun _ holds => holds.1)
      (fun _ _ after => after) (fun _ stopped => stopped)

end Request

/-! ## The reservation -/

/-- A reservation takes a number no record has. -/
theorem reserve_issued
    (expertId : Nat)
    (arguments : DispatchArguments) :
    Ensures (Steady setup (onReads allowed) filling)
      (onRegistry fun registry =>
        registry.reserveRequestByGid expertId arguments.currentStep
          setup.demotionQueueCapacity arguments.stageOnly)
      (fun request supply =>
        Steady setup (onReads allowed) filling supply ∧
          (request.kind.starts = true →
            Issued request supply ∧
              filling.numbered ≤ request.operationId))
      (Steady setup (onReads allowed) filling) := by
  intro supply answers steady
  have numbered :=
    supply.registry.reserveRequestByGid_numbered expertId
      setup.demotionQueueCapacity arguments.currentStep arguments.stageOnly
  unfold onRegistry
  dsimp only
  generalize supply.registry.reserveRequestByGid expertId
    arguments.currentStep setup.demotionQueueCapacity arguments.stageOnly =
      outcome at numbered ⊢
  cases outcome with
  | threw error after => exact steady.onRegistry numbered.grows
  | returned request after =>
    refine ⟨steady.onRegistry numbered.grows, fun starts => ?_⟩
    obtain ⟨number, counted⟩ := numbered.takes request after rfl starts
    refine ⟨⟨number ▸ counted, List.find?_eq_none.mpr ?_⟩,
      number ▸ steady.counted⟩
    intro transfer listed
    have below := steady.owned.issued transfer listed
    simp only [decide_eq_true_eq]
    omega

theorem queryH2d_leaves :
    (queryH2d operationId).Leaves := by
  refine .andThen .read fun supply => ?_
  split
  · exact .ask _
  · exact .ret _

theorem reserveLoop_issued
    (arguments : DispatchArguments)
    (expertId turns : Nat) :
    Ensures (Steady setup (onReads allowed) filling)
      (reserveLoop setup arguments expertId turns)
      (fun request supply =>
        Steady setup (onReads allowed) filling supply ∧
          (request.kind.starts = true →
            Issued request supply ∧
              filling.numbered ≤ request.operationId))
      (Steady setup (onReads allowed) filling) := by
  have release (gid : Nat) :
      Ensures (Steady setup (onReads allowed) filling)
        (onRegistry fun registry => registry.releaseLease gid)
        (fun _ => Steady setup (onReads allowed) filling)
        (Steady setup (onReads allowed) filling) :=
    onRegistry_steady fun registry => registry.releaseLease_nextOperationId gid
  induction turns with
  | zero => exact .throwing fun _ steady => steady
  | succ turns ih =>
    refine .andThen (reserve_issued expertId arguments) fun request => ?_
    refine .read fun current => .branch (fun _ => ?_) (fun _ => ?_)
    · refine .andThen (.weaken (.leaves queryH2d_leaves
        fun _ steady => steady) (fun _ holds => holds.1.1)
          (fun _ _ after => after) (fun _ steady => steady)) fun answer => ?_
      have refused :
          Ensures (Steady setup (onReads allowed) filling)
            (do
              onRegistry fun registry =>
                registry.releaseLease request.globalExpertId
              Call.throwing
                (demotionInFlight expertId request.operationId) :
              SupplyCall RequestReservation)
            (fun request supply =>
              Steady setup (onReads allowed) filling supply ∧
                (request.kind.starts = true →
                  Issued request supply ∧
                    filling.numbered ≤ request.operationId))
            (Steady setup (onReads allowed) filling) :=
        .andThen (release _) fun _ => .throwing fun _ steady => steady
      cases answer with
      | ready =>
        exact .andThen (release _) fun _ =>
          .andThen reapRegistryTransfers_steady fun _ =>
            ih
      | failed => exact .throwing fun _ steady => steady
      | notReady => exact refused
      | taken count => exact refused
      | completes which result => exact refused
      | ringFailed => exact refused
    · exact .ret fun _ holds => holds.1

/-! ## The whole call -/

/-- What `dispatch` needs when its loop comes to a request. -/
def RequestMeets
    (setup : SupplySetup)
    (arguments : DispatchArguments)
    (item : Nat × PayloadRequest)
    (pair : Supply × Dispatching)
    (answers : List Answer) : Prop :=
  match Call.whileAnswered
      (reserveLoop setup arguments item.2.globalExpertId) pair.1 answers with
  | (.error _, _, _) => True
  | (.ok request, after, rest) =>
    request.kind.starts = true →
      StartMeets setup item.2 request after rest

instance
    (arguments : DispatchArguments)
    (item : Nat × PayloadRequest)
    (pair : Supply × Dispatching)
    (answers : List Answer) :
    Decidable (RequestMeets setup arguments item pair answers) :=
  match reserved : Call.whileAnswered
      (reserveLoop setup arguments item.2.globalExpertId) pair.1 answers with
  | (.error _, _, _) =>
    .isTrue (by unfold RequestMeets; rw [reserved]; trivial)
  | (.ok request, after, rest) =>
    decidable_of_iff
      (request.kind.starts = true →
        StartMeets setup item.2 request after rest)
      (by unfold RequestMeets; rw [reserved])

theorem dispatchRequest_steady
    (arguments : DispatchArguments)
    (item : Nat × PayloadRequest)
    (pair : Supply × Dispatching)
    (answers : List Answer)
    (meets : RequestMeets setup arguments item pair answers)
    (steady : Steady setup (onReads anyReads) filling pair.1) :
    Finished
      (fun _ pair => Steady setup (onReads anyReads) filling pair.1)
      (fun pair => Steady setup (onReads anyReads) filling pair.1)
      (dispatchRequest setup arguments item pair answers) := by
  obtain ⟨supply, dispatching⟩ := pair
  have reserved :=
    Call.Ensures.whileAnswered
      (reserveLoop_issued arguments item.2.globalExpertId)
      supply answers steady
  unfold RequestMeets at meets
  unfold dispatchRequest
  rw [bind_apply, Call.onFirst_apply]
  generalize Call.whileAnswered
    (reserveLoop setup arguments item.2.globalExpertId) supply answers =
      outcome at reserved meets ⊢
  rcases outcome with ⟨error | request, after, rest⟩
  · exact reserved
  · obtain ⟨steadyAfter, issued⟩ := reserved
    simp only [bind_apply, Call.write_apply]
    unfold onEntry Call.onPart
    dsimp only
    cases dispatching.transfers[item.1]? with
    | none => exact steadyAfter
    | some state =>
      have served := serveReservation_steady item.2 steadyAfter
        (fun starts => (issued starts).1) meets state
      dsimp only
      generalize serveReservation setup item.2 request (after, state) rest =
        outcome at served ⊢
      rcases outcome with ⟨error | value, ⟨last, changed⟩, left⟩
      · exact served
      · exact served

theorem submitPendingReads_steady
    (turns : Nat) :
    Ensures (Steady setup (onReads anyReads) filling)
      (submitPendingReads turns)
      (fun _ => Steady setup (onReads anyReads) filling)
      (Steady setup (onReads anyReads) filling) := by
  induction turns with
  | zero => exact .ret fun _ steady => steady
  | succ turns ih =>
    refine .read fun current => .branch (fun _ => ?_) (fun _ => ?_)
    · exact .ret fun _ holds => holds.1
    · refine .ask fun answer => ?_
      have whole :
          Ensures
            (fun supply =>
              Steady setup (onReads anyReads) filling supply ∧
                supply = current)
            (write fun supply => supply.enter supply.queued.length :
              SupplyCall Unit)
            (fun _ => Steady setup (onReads anyReads) filling)
            (Steady setup (onReads anyReads) filling) :=
        .write fun _ holds =>
          holds.1.readsOnly (fun _ _ _ _ => trivial) (.enter _ _)
      cases answer with
      | ready => exact whole
      | notReady => exact whole
      | failed => exact whole
      | completes which result => exact whole
      | ringFailed => exact .throwing fun _ holds => holds.1
      | taken count =>
        cases count with
        | zero => exact .throwing fun _ holds => holds.1
        | succ count =>
          exact .andThen
            (.write fun _ holds =>
              holds.1.readsOnly (fun _ _ _ _ => trivial) (.enter _ _))
            fun _ => ih

/-- A failed submission frees the slots of the batch's own reads. -/
theorem abandonReads_steady
    {Returned : Unit → Supply → Prop}
    (transfers : List PayloadTransfer)
    (error : SupplyError) :
    Ensures (Steady setup (onReads anyReads) {})
      (abandonReads setup transfers error)
      Returned
      (Steady setup (onReads anyReads) {}) := by
  refine .andThen (.forEach _ fun state _ => ?_)
    fun _ => .throwing fun _ steady => steady
  exact (markRequestFailed_steady _).weaken
    (fun _ steady => ⟨steady, fun _ _ _ _ => List.not_mem_nil⟩)
    (fun _ _ steady => steady) (fun _ steady => steady)

theorem submitBatch_steady
    (transfers : List PayloadTransfer) :
    Ensures (Steady setup (onReads anyReads) {})
      (submitBatch setup transfers)
      (fun _ => Steady setup (onReads anyReads) {})
      (Steady setup (onReads anyReads) {}) := by
  refine .read fun current => .branch (fun _ => ?_) (fun _ => ?_)
  · exact (Call.Ensures.catching (submitPendingReads_steady _)
      (abandonReads_steady transfers)).weaken (fun _ holds => holds.1)
        (fun _ _ steady => steady) (fun _ steady => steady)
  · exact .ret fun _ holds => holds.1

/-- What a `dispatch` needs of the state it is called in. -/
def DispatchMeets
    (setup : SupplySetup)
    (arguments : DispatchArguments)
    (pair : Supply × Dispatching)
    (answers : List Answer) : Prop :=
  Call.Along (RequestMeets setup arguments)
    (dispatchRequest setup arguments)
    (requestOrder pair.1.registry arguments.requests) pair answers

instance
    (arguments : DispatchArguments)
    (pair : Supply × Dispatching)
    (answers : List Answer) :
    Decidable (DispatchMeets setup arguments pair answers) :=
  Call.decidableAlong _ _ _

theorem dispatchInto_steady
    (arguments : DispatchArguments)
    (pair : Supply × Dispatching)
    (answers : List Answer)
    (meets : DispatchMeets setup arguments pair answers)
    (steady : Steady setup (onReads anyReads) {} pair.1) :
    Finished
      (fun _ pair => Steady setup (onReads anyReads) {} pair.1)
      (fun pair => Steady setup (onReads anyReads) {} pair.1)
      (dispatchInto setup arguments pair answers) := by
  have looped :=
    Call.Ensures.forEach_along
      (dispatchRequest_steady arguments) _ pair answers meets steady
  unfold dispatchInto
  rw [bind_apply, Call.read_apply]
  dsimp only
  rw [bind_apply]
  generalize Call.forEach (dispatchRequest setup arguments)
    (requestOrder pair.1.registry arguments.requests) pair answers =
      outcome at looped ⊢
  rcases outcome with ⟨error | value, after, rest⟩
  · exact looped
  · obtain ⟨last, dispatching⟩ := after
    have submitted :
        Ensures
          (fun pair : Supply × Dispatching =>
            Steady setup (onReads anyReads) {} pair.1)
          (onFirst (submitBatch setup dispatching.transfers))
          (fun _ pair => Steady setup (onReads anyReads) {} pair.1)
          (fun pair => Steady setup (onReads anyReads) {} pair.1) :=
      .onState (submitBatch_steady dispatching.transfers)
    exact submitted (last, dispatching) rest looped

end Aeon.Transport
