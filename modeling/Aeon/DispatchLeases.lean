import Aeon.CallFrames
import Aeon.RegistryLeases
import Aeon.TieredExpertSupply

namespace Aeon.Transport

open Aeon.Registry
open ExpertRegistry (leasesPlus setEntry)

/-!
# `dispatch` and its leases

`dispatch` tells its caller which experts it leased, so that the caller can give
the leases back.  A lease is taken inside the reservation, before the expert is
noted; the reservation loop gives back what it does not keep.  One of its exits
forgets to, the event query that fails, and so does an audit that refuses the
reservation.  On every other run each expert has as many leases more as it was
noted.
-/

/-- The lease counts behind a supply. -/
def Supply.leases (supply : Supply) : Nat × (Nat → Nat) :=
  supply.registry.leases

/-! ## Calls that keep the leases -/

/-- A call of the supply that takes and gives back no lease. -/
abbrev KeepsLeases
    {Value : Type}
    (call : SupplyCall Value) : Prop :=
  Call.Keeps Supply.leases call

/-- The same for a call on the supply and one entry of the batch. -/
abbrev KeepsEntryLeases
    {Value : Type}
    (call : EntryCall Value) : Prop :=
  Call.Keeps (fun pair : Supply × PayloadTransfer => pair.1.leases) call

open Call.Keeps

variable (setup : SupplySetup)

section Arena

variable (operationId slot : Nat)

theorem submit_leases
    (what : String) :
    KeepsLeases (submit what) :=
  andThen (ask _) fun _ => check _ _

theorem onRegistry_leases
    {Value : Type}
    {call : ExpertRegistry → Outcome Value}
    (same : ∀ registry, (call registry).registry.leases = registry.leases) :
    KeepsLeases (onRegistry call) := by
  intro supply answers
  have kept := same supply.registry
  unfold onRegistry
  cases ended : call supply.registry with
  | returned value after =>
    rw [ended] at kept
    exact kept
  | threw error after =>
    rw [ended] at kept
    exact kept

theorem update_leases
    (change : PendingTransfer → PendingTransfer) :
    KeepsLeases (Call.write fun supply => supply.update operationId change) :=
  write fun _ => rfl

theorem ensure_leases
    (gid : Nat) :
    KeepsLeases (Call.write fun supply => supply.ensure operationId gid) := by
  refine write fun supply => ?_
  unfold Supply.ensure
  split <;> rfl

theorem transition_leases
    (expected next : SlotState) :
    KeepsLeases (transition setup expected next operationId slot) :=
  andThen (check _ _) fun _ => andThen read fun _ =>
    andThen (check _ _) fun _ => write fun _ => rfl

/-- Staging a payload takes and gives no lease. -/
theorem stagePayload_leases :
    KeepsLeases (stagePayload setup operationId slot) :=
  andThen (check _ _) fun _ => andThen read fun _ =>
    andThen (check _ _) fun _ => write fun _ => rfl

theorem releaseIfCopying_leases :
    KeepsLeases (releaseIfCopying setup operationId slot) :=
  andThen (check _ _) fun _ => andThen read fun _ =>
    branch (write fun _ => rfl) (ret ())

theorem releaseAfterFailure_leases :
    KeepsLeases (releaseAfterFailure setup operationId slot) :=
  andThen (check _ _) fun _ => write fun _ => rfl

theorem uploadFromHostExpert_leases
    (vramSlot : Option Nat) :
    KeepsLeases (uploadFromHostExpert setup vramSlot) :=
  andThen (check _ _) fun _ => submit_leases _

end Arena

/-! ## Retiring transfers -/

section Reaper

variable
    (index : Nat)
    (transfer : PendingTransfer)

theorem reapDemotion_leases :
    KeepsLeases (reapDemotion setup index transfer) := by
  refine branch ?_ (ret true)
  refine andThen (ask _) fun answer => ?_
  have landed : KeepsLeases (landStagedDemotion setup transfer) :=
    branch
      (andThen (check _ _) fun _ => andThen (check _ _) fun _ =>
        transition_leases setup _ _ _ _)
      (ret ())
  have dropped : KeepsLeases (dropStagedDemotion setup transfer) :=
    branch (releaseAfterFailure_leases setup _ _) (ret ())
  cases answer with
  | ready =>
    refine andThen landed fun _ => andThen (onRegistry_leases fun registry =>
      (Frame.refl 0 registry).completeDemotion.leases) fun _ => ?_
    exact andThen (write fun _ => rfl) fun _ => ret true
  | failed =>
    refine andThen dropped fun _ => andThen (onRegistry_leases fun registry =>
      (Frame.refl 0 registry).failDemotion.leases) fun _ => ?_
    exact andThen (write fun _ => rfl) fun _ => ret true
  | _ => exact ret false

theorem reapRequest_leases
    (demotionReady : Bool) :
    KeepsLeases (reapRequest setup index transfer demotionReady) := by
  have failed :
      KeepsLeases
        (onRegistry fun registry =>
          registry.failRequest transfer.operationId) :=
    onRegistry_leases fun registry =>
      (Frame.refl 0 registry).failRequest.leases
  have erased :
      KeepsLeases (do
        Call.write fun supply => supply.eraseAt index
        Call.ret true) :=
    andThen (write fun _ => rfl) fun _ => ret true
  refine branch (branch (andThen failed fun _ => erased) (ret false)) ?_
  refine branch (andThen (ask _) fun answer => ?_) (ret false)
  cases answer with
  | ready =>
    refine andThen (onRegistry_leases fun registry =>
      (Frame.refl 0 registry).completeRequest.leases) fun _ => ?_
    exact andThen (branch (releaseIfCopying_leases setup _ _) (ret ()))
      fun _ => erased
  | failed =>
    exact andThen (branch (releaseAfterFailure_leases setup _ _) (ret ()))
      fun _ => andThen failed fun _ => erased
  | _ => exact ret false

theorem reapFrom_leases
    (remaining : Nat) :
    KeepsLeases (reapFrom setup remaining index) := by
  induction remaining generalizing index with
  | zero =>
    exact ret ()
  | succ remaining ih =>
    refine andThen (andThen read fun supply => ?_) fun _ =>
      ih _
    cases supply.transfers[index]? with
    | none => exact ret false
    | some transfer =>
      exact andThen (reapDemotion_leases setup index transfer) fun _ =>
        reapRequest_leases setup index transfer _

/-- Nor does reaping the transfers, -/
theorem reapRegistryTransfers_leases :
    KeepsLeases (reapRegistryTransfers setup) :=
  andThen read fun _ => reapFrom_leases setup 0 _

end Reaper

/-! ## Starting a transfer -/

section Start

variable
    (request : RequestReservation)
    (operationId stagingIdx : Nat)

theorem routeDemotion_leases
    (destination : Nat) :
    KeepsLeases (routeDemotion setup operationId destination) := by
  refine branch (ret true) (andThen read fun supply => ?_)
  cases firstAvailable setup supply with
  | none =>
    exact andThen (onRegistry_leases fun registry =>
      (Frame.refl 0 registry).dropDemotion.leases) fun _ => ret false
  | some slot =>
    exact andThen (transition_leases setup _ _ _ _) fun _ =>
      andThen (update_leases _ _) fun _ => ret true

theorem copyDemotion_leases
    (sourceSlot : Nat) :
    KeepsLeases (copyDemotion setup operationId sourceSlot) := by
  refine andThen (andThen (submit_leases _) fun _ => update_leases _ _)
    fun _ => ?_
  exact andThen (check _ _) fun _ => andThen (submit_leases _) fun _ =>
    andThen (update_leases _ _) fun _ => submit_leases _

theorem abandonDemotion_leases
    (error : SupplyError) :
    KeepsLeases (abandonDemotion setup operationId error) := by
  refine andThen read fun supply => branch (throwing _) ?_
  refine andThen (onRegistry_leases fun registry =>
    (Frame.refl 0 registry).dropDemotion.leases) fun _ => ?_
  refine andThen (andThen read fun current => ?_) fun _ =>
    andThen (update_leases _ _) fun _ => throwing _
  cases (current.find operationId).bind PendingTransfer.demotionStagingIdx with
  | some slot => exact releaseAfterFailure_leases setup _ _
  | none => exact ret ()

/-- scheduling a demotion, -/
theorem scheduleDemotion_leases :
    KeepsLeases (scheduleDemotion setup request) := by
  unfold scheduleDemotion
  cases request.demotion with
  | some demotion =>
    refine andThen (ensure_leases _ _) fun _ =>
      andThen (update_leases _ _) fun _ => andThen (check _ _) fun _ => ?_
    refine andThen (routeDemotion_leases setup _ _) fun _ => branch ?_ (ret ())
    exact catching (copyDemotion_leases setup _ _)
      (abandonDemotion_leases setup _)
  | none =>
    refine andThen read fun supply => branch (ret ()) ?_
    refine andThen (ensure_leases _ _) fun _ => ?_
    cases supply.registry.findOperationVictim request.operationId with
    | none => exact ret ()
    | some gid => exact write fun _ => rfl

theorem bindStaging_leases :
    KeepsLeases (bindStaging setup operationId stagingIdx) := by
  refine andThen read fun supply => ?_
  cases supply.find operationId with
  | none => exact throwing _
  | some transfer => exact andThen (update_leases _ _) fun _ => check _ _

theorem markRequestFailed_leases
    (reason : String) :
    KeepsLeases (markRequestFailed setup operationId reason) := by
  refine andThen read fun supply => ?_
  cases supply.find operationId with
  | none => exact ret ()
  | some transfer =>
    exact andThen (update_leases _ _) fun _ =>
      branch (releaseAfterFailure_leases setup _ _) (ret ())

theorem waitForDemotionDependency_leases :
    KeepsLeases (waitForDemotionDependency operationId) :=
  andThen read fun _ => branch (submit_leases _) (ret ())

theorem recordH2dEvent_leases
    (hasStaging : Bool)
    (sourceSlot destinationSlot : Option Nat) :
    KeepsLeases
      (recordH2dEvent operationId stagingIdx hasStaging sourceSlot
        destinationSlot) := by
  refine andThen read fun supply => ?_
  cases supply.find operationId with
  | none => exact throwing _
  | some transfer =>
    exact andThen (check _ _) fun _ => andThen (submit_leases _) fun _ =>
      andThen (update_leases _ _) fun _ => andThen (submit_leases _) fun _ =>
        update_leases _ _

theorem uploadClaimed_leases
    (sourceSlot : Option Nat)
    (what : String) :
    KeepsLeases (uploadClaimed setup request stagingIdx sourceSlot what) :=
  andThen (uploadFromHostExpert_leases setup _) fun _ =>
    andThen (submit_leases _) fun _ => recordH2dEvent_leases _ _ _ _ _

theorem stageHostSlot_leases
    (sourceSlot : Nat) :
    KeepsLeases (stageHostSlot setup operationId stagingIdx sourceSlot) :=
  andThen (update_leases _ _) fun _ => andThen (check _ _) fun _ =>
    stagePayload_leases setup _ _

theorem startDirectRead_leases :
    KeepsLeases (startDirectRead setup request stagingIdx) := by
  refine andThen (bindStaging_leases setup _ _) fun _ =>
    andThen (check _ _) fun _ => andThen read fun supply =>
      andThen (transition_leases setup _ _ _ _) fun _ => andThen ?_ fun _ =>
        andThen (write fun _ => rfl) fun _ => ret _
  refine andThen (check _ _) fun _ => andThen (forEach (fun chunk => ?_) _)
    fun _ => ret _
  refine andThen ?_ fun _ => andThen read fun _ => andThen (check _ _)
    fun _ => write fun _ => rfl
  exact andThen (check _ _) fun _ => andThen (check _ _) fun _ => check _ _

theorem stageWarm_leases :
    KeepsLeases (stageWarm setup request stagingIdx) :=
  andThen (bindStaging_leases setup _ _) fun _ =>
    branch (transition_leases setup _ _ _ _) (stageHostSlot_leases setup _ _ _)

theorem uploadPinnedWarm_leases :
    KeepsLeases (uploadPinnedWarm setup request stagingIdx) :=
  andThen (bindStaging_leases setup _ _) fun _ =>
    andThen (transition_leases setup _ _ _ _) fun _ =>
      andThen (waitForDemotionDependency_leases _) fun _ =>
        andThen (check _ _) fun _ => uploadClaimed_leases setup _ _ _ _

theorem uploadStagedWarm_leases :
    KeepsLeases (uploadStagedWarm setup request stagingIdx) :=
  andThen (stageHostSlot_leases setup _ _ _) fun _ =>
    andThen (transition_leases setup _ _ _ _) fun _ =>
      andThen (waitForDemotionDependency_leases _) fun _ =>
        uploadClaimed_leases setup _ _ _ _

theorem uploadMapped_leases :
    KeepsLeases (uploadMapped setup request stagingIdx) :=
  andThen (check _ _) fun _ => andThen (bindStaging_leases setup _ _) fun _ =>
    andThen (stagePayload_leases setup _ _) fun _ =>
      andThen (transition_leases setup _ _ _ _) fun _ =>
        andThen (waitForDemotionDependency_leases _) fun _ =>
          uploadClaimed_leases setup _ _ _ _

theorem setState_leases
    (change : PayloadTransfer → PayloadTransfer) :
    KeepsEntryLeases (setState change) :=
  write fun _ => rfl

/-- or moving the bytes. -/
theorem moveBytes_leases :
    KeepsEntryLeases (moveBytes setup request stagingIdx) := by
  refine branch ?_ (branch ?_ ?_)
  · exact andThen read fun _ =>
      andThen (onFirst (startDirectRead_leases setup _ _)) fun _ =>
        setState_leases _
  · exact andThen (onFirst (stageWarm_leases setup _ _)) fun _ =>
      setState_leases _
  · refine andThen (onFirst ?_) fun _ => setState_leases _
    exact branch
      (branch (uploadPinnedWarm_leases setup _ _)
        (uploadStagedWarm_leases setup _ _))
      (uploadMapped_leases setup _ _)

theorem serveReservation_leases
    (payload : PayloadRequest) :
    KeepsEntryLeases (serveReservation setup payload request) := by
  have started :
      KeepsEntryLeases (startTransfer setup request payload.stagingIdx) :=
    andThen (onFirst (scheduleDemotion_leases setup request)) fun _ =>
      andThen (onFirst (ensure_leases _ _)) fun _ => moveBytes_leases setup _ _
  have abandoned (error : SupplyError) :
      KeepsEntryLeases (abandonTransfer setup request.operationId error) :=
    andThen (onFirst (markRequestFailed_leases setup _ _)) fun _ =>
      andThen (onFirst (reapRegistryTransfers_leases setup)) fun _ =>
        throwing _
  refine andThen (setState_leases _) fun _ => ?_
  cases request.kind with
  | hotHit => exact ret ()
  | pending =>
    refine andThen read fun pair => ?_
    dsimp only
    cases pair.1.find request.operationId with
    | none => exact throwing _
    | some pending => exact andThen (check _ _) fun _ => setState_leases _
  | warmPromotion | coldMiss | coldStaged => exact catching started abandoned

end Start

/-! ## The reservation loop -/

section Loop

variable
    (arguments : DispatchArguments)
    (expertId : Nat)

/--
Whether the reservation loop ends without giving its lease back: an event query
fails, or the audit refuses a reservation.
-/
def reserveLeaks : Nat → Supply → List Answer → Bool
  | 0, _, _ => false
  | turns + 1, supply, answers =>
    supply.registry.auditRefuses expertId setup.demotionQueueCapacity
      arguments.currentStep arguments.stageOnly ||
    match supply.registry.reserveRequestByGid expertId arguments.currentStep
      setup.demotionQueueCapacity arguments.stageOnly with
    | .threw _ _ => false
    | .returned request after =>
      if request.kind = .pending ∧
          (after.catalog request.globalExpertId).operation =
            .demotionPending then
        match queryH2d request.operationId
          { supply with registry := after } answers with
        | (.ok .failed, _, _) => true
        | (.ok .ready, current, rest) =>
          match (do
            onRegistry fun registry =>
              registry.releaseLease request.globalExpertId
            reapRegistryTransfers setup : SupplyCall Unit)
              current rest with
          | (.ok (), next, left) => reserveLeaks turns next left
          | (.error _, _, _) => false
        | _ => false
      else false

/-- A lease taken is given back. -/
theorem releaseLease_taken
    {registry : ExpertRegistry}
    {leases : Nat × (Nat → Nat)}
    (inside : expertId < leases.1)
    (taken : registry.leases = leasesPlus leases expertId) :
    ∃ after, registry.releaseLease expertId = .returned () after ∧
      after.leases = leases := by
  have total : registry.totalExperts = leases.1 := congrArg Prod.fst taken
  have count : (registry.catalog expertId).leaseCount =
      leases.2 expertId + 1 := by
    have counted := congrFun (congrArg Prod.snd taken) expertId
    simpa [ExpertRegistry.leases, leasesPlus] using counted
  have allowed : ¬ (registry.totalExperts ≤ expertId ∨
      (registry.catalog expertId).leaseCount = 0) := by
    omega
  refine ⟨_, if_neg allowed, ?_⟩
  refine Prod.ext total (funext fun other => ?_)
  have counted := congrFun (congrArg Prod.snd taken) other
  by_cases here : other = expertId
  · subst here
    simp [ExpertRegistry.leases, setEntry, count]
  · simp only [ExpertRegistry.leases, leasesPlus,
      Function.update_of_ne here] at counted
    simp only [ExpertRegistry.leases, setEntry,
      Function.update_of_ne here]
    exact counted

theorem queryH2d_answered
    (operationId : Nat)
    (supply : Supply)
    (answers : List Answer) :
    ∃ answer rest,
      queryH2d operationId supply answers = (.ok answer, supply, rest) := by
  unfold queryH2d
  rw [Call.bind_apply, Call.read_apply]
  dsimp only
  split
  · exact ⟨_, _, rfl⟩
  · exact ⟨_, _, rfl⟩

/-- How the reservation loop ends, given whether it leaks its lease. -/
def LoopEnds
    (leases : Nat × (Nat → Nat))
    (expertId : Nat)
    (leaks : Bool) :
    Except SupplyError RequestReservation × Supply × List Answer → Prop
  | (.ok request, after, _) =>
    leaks = false ∧ request.globalExpertId = expertId ∧
      expertId < leases.1 ∧
      after.leases = leasesPlus leases expertId
  | (.error _, after, _) =>
    after.leases =
      if leaks then leasesPlus leases expertId else leases

theorem onRegistry_of_returned
    {Value : Type}
    {call : ExpertRegistry → Outcome Value}
    {supply : Supply}
    {value : Value}
    {after : ExpertRegistry}
    (returned : call supply.registry = .returned value after)
    (answers : List Answer) :
    onRegistry call supply answers =
      (.ok value, { supply with registry := after }, answers) := by
  unfold onRegistry
  rw [returned]

theorem onRegistry_of_threw
    {Value : Type}
    {call : ExpertRegistry → Outcome Value}
    {supply : Supply}
    {error : RegistryError}
    {after : ExpertRegistry}
    (threw : call supply.registry = .threw error after)
    (answers : List Answer) :
    onRegistry call supply answers =
      (.error (.registry error), { supply with registry := after }, answers) := by
  unfold onRegistry
  rw [threw]

theorem demotingTurn_leases
    {request : RequestReservation}
    {supply : Supply}
    {leases : Nat × (Nat → Nat)}
    {leaks : Supply → List Answer → Bool}
    {next : SupplyCall RequestReservation}
    (names : request.globalExpertId = expertId)
    (inside : expertId < leases.1)
    (leased : supply.leases = leasesPlus leases expertId)
    (ends : ∀ later rest, later.leases = leases →
      LoopEnds leases expertId (leaks later rest) (next later rest))
    (failure inFlight : SupplyError)
    (answers : List Answer) :
    LoopEnds leases expertId
      (match queryH2d request.operationId supply answers with
      | (.ok .failed, _, _) => true
      | (.ok .ready, current, rest) =>
        match (do
          onRegistry fun registry =>
            registry.releaseLease request.globalExpertId
          reapRegistryTransfers setup : SupplyCall Unit) current rest with
        | (.ok (), later, left) => leaks later left
        | (.error _, _, _) => false
      | _ => false)
      ((do
        match ← queryH2d request.operationId with
        | .ready => do
            onRegistry fun registry =>
              registry.releaseLease request.globalExpertId
            reapRegistryTransfers setup
            next
        | .failed => Call.throwing failure
        | _ => do
            onRegistry fun registry =>
              registry.releaseLease request.globalExpertId
            Call.throwing inFlight : SupplyCall RequestReservation)
        supply answers) := by
  obtain ⟨answer, rest, answered⟩ :=
    queryH2d_answered request.operationId supply answers
  obtain ⟨released, returned, restored⟩ :=
    releaseLease_taken expertId inside leased
  rw [← names] at returned
  have givenBack := @onRegistry_of_returned _
    (fun registry => registry.releaseLease request.globalExpertId) supply _ _
    returned rest
  rw [answered, Call.bind_of_ok answered]
  cases answer with
  | failed =>
    exact leased
  | ready =>
    have kept :=
      reapRegistryTransfers_leases setup { supply with registry := released }
        rest
    dsimp only
    rw [Call.bind_of_ok givenBack, Call.bind_of_ok givenBack,
      Call.bind_apply]
    generalize reapRegistryTransfers setup
      { supply with registry := released } rest = reaped at kept ⊢
    rcases reaped with ⟨error | value, later, left⟩
    · exact kept.trans restored
    · exact ends later left (kept.trans restored)
  | _ =>
    dsimp only
    rw [Call.bind_of_ok givenBack]
    exact restored

/-- The reserve loop takes one lease, or leaks it if it throws there. -/
theorem reserveLoop_leases
    (turns : Nat)
    (supply : Supply)
    (answers : List Answer) :
    LoopEnds supply.leases expertId
      (reserveLeaks setup arguments expertId turns supply answers)
      (reserveLoop setup arguments expertId turns supply answers) := by
  induction turns generalizing supply answers with
  | zero =>
    rfl
  | succ turns ih =>
    have claims :=
      supply.registry.reserveRequestByGid_claims expertId
        setup.demotionQueueCapacity arguments.currentStep arguments.stageOnly
    unfold reserveLeaks reserveLoop
    cases reserved : supply.registry.reserveRequestByGid expertId
        arguments.currentStep setup.demotionQueueCapacity
        arguments.stageOnly with
    | threw error after =>
      rw [reserved] at claims
      rw [Call.bind_of_error (onRegistry_of_threw reserved answers)]
      simp only [Bool.or_false]
      exact claims
    | returned request after =>
      rw [reserved] at claims
      obtain ⟨names, inside, leased, passed⟩ := claims
      rw [Call.bind_of_ok (onRegistry_of_returned reserved answers),
        passed, Bool.false_or, Call.bind_apply, Call.read_apply]
      dsimp only
      by_cases demoting : request.kind = .pending ∧
          (after.catalog request.globalExpertId).operation =
            .demotionPending
      · rw [if_pos demoting, if_pos demoting]
        have taken :
            Supply.leases { supply with registry := after } =
              leasesPlus supply.leases expertId :=
          leased
        refine demotingTurn_leases setup expertId names inside taken ?_ _ _
          answers
        intro later rest same
        have ends := ih later rest
        rw [same] at ends
        exact ends
      · rw [if_neg demoting, if_neg demoting]
        exact ⟨rfl, names, inside, leased⟩

end Loop

/-! ## `dispatch` -/

/-- The leases after so many experts were noted. -/
def noted
    (leases : Nat × (Nat → Nat))
    (experts : List Nat) : Nat × (Nat → Nat) :=
  (leases.1, fun gid => leases.2 gid + experts.count gid)

theorem noted_snoc
    (leases : Nat × (Nat → Nat))
    (experts : List Nat)
    (gid : Nat) :
    leasesPlus (noted leases experts) gid =
      noted leases (experts ++ [gid]) := by
  refine Prod.ext rfl (funext fun other => ?_)
  by_cases here : other = gid
  · subst here
    simp [leasesPlus, noted, Nat.add_assoc]
  · have elsewhere : [gid].count other = 0 := by
      simp [Ne.symm here]
    simp [leasesPlus, noted, here, elsewhere]

/--
Each expert has as many leases more than `before` as it was appended to the list
that was `given`.
-/
def Balanced
    (before : Nat × (Nat → Nat))
    (given : List Nat)
    (pair : Supply × Dispatching) : Prop :=
  ∃ appended, pair.2.leasedExperts = given ++ appended ∧
    (∀ gid ∈ appended, gid < before.1) ∧ pair.1.leases = noted before appended

section Dispatch

variable
    (arguments : DispatchArguments)
    {before : Nat × (Nat → Nat)}
    {given : List Nat}

/-- Whether a turn of the request loop keeps a lease it does not note. -/
def turnLeaks
    (item : Nat × PayloadRequest)
    (pair : Supply × Dispatching)
    (answers : List Answer) : Bool :=
  reserveLeaks setup arguments item.2.globalExpertId (answers.length + 1)
    pair.1 answers

theorem onEntry_leases
    (index : Nat)
    {call : EntryCall Unit}
    (keeps : KeepsEntryLeases call)
    (pair : Supply × Dispatching)
    (answers : List Answer) :
    (onEntry index call pair answers).2.1.1.leases = pair.1.leases ∧
      (onEntry index call pair answers).2.1.2.leasedExperts =
        pair.2.leasedExperts := by
  exact ⟨@onPart _ _ _ _ _ Supply.leases index call keeps
    (pair.1, pair.2.transfers) answers, rfl⟩

/-- One request of a batch, by whether its turn leaks. -/
theorem dispatchRequest_balanced
    (item : Nat × PayloadRequest)
    (pair : Supply × Dispatching)
    (answers : List Answer)
    (balanced : Balanced before given pair) :
    (turnLeaks setup arguments item pair answers = false →
      Balanced before given
        (dispatchRequest setup arguments item pair answers).2.1) ∧
    (turnLeaks setup arguments item pair answers = true →
      (∃ error,
        (dispatchRequest setup arguments item pair answers).1 =
          .error error) ∧
      ¬ Balanced before given
        (dispatchRequest setup arguments item pair answers).2.1) := by
  obtain ⟨supply, dispatching⟩ := pair
  obtain ⟨appended, listed, inside, counted⟩ := balanced
  have ends :=
    reserveLoop_leases setup arguments item.2.globalExpertId
      (answers.length + 1) supply answers
  rw [show supply.leases = noted before appended from counted] at ends
  have turn :
      dispatchRequest setup arguments item (supply, dispatching) answers =
        match reserveLoop setup arguments item.2.globalExpertId
          (answers.length + 1) supply answers with
        | (.error error, after, rest) =>
          (.error error, (after, dispatching), rest)
        | (.ok request, after, rest) =>
          onEntry item.1 (serveReservation setup item.2 request)
            (after,
              { dispatching with
                leasedExperts := dispatching.leasedExperts ++
                  [request.globalExpertId] }) rest := by
    unfold dispatchRequest
    rw [Call.bind_apply, Call.onFirst_apply]
    unfold Call.whileAnswered
    dsimp only
    generalize reserveLoop setup arguments item.2.globalExpertId
      (answers.length + 1) supply answers = ended
    rcases ended with ⟨error | request, after, rest⟩ <;> rfl
  rw [turn]
  unfold turnLeaks
  dsimp only
  generalize reserveLeaks setup arguments item.2.globalExpertId
    (answers.length + 1) supply answers = leaks at ends ⊢
  generalize reserveLoop setup arguments item.2.globalExpertId
    (answers.length + 1) supply answers = ended at ends ⊢
  rcases ended with ⟨error | request, after, rest⟩
  · cases leaks with
    | false =>
      exact ⟨fun _ => ⟨appended, listed, inside, ends⟩, nofun⟩
    | true =>
      refine ⟨nofun, fun _ => ⟨⟨error, rfl⟩, ?_⟩⟩
      rintro ⟨other, otherListed, _, otherCounted⟩
      obtain rfl : other = appended :=
        List.append_cancel_left (otherListed.symm.trans listed)
      have leaked : after.leases = noted before
          (other ++ [item.2.globalExpertId]) := by
        rw [← noted_snoc]
        exact ends
      have counts := congrFun
        (congrArg Prod.snd (otherCounted.symm.trans leaked))
        item.2.globalExpertId
      simp [noted] at counts
  · obtain ⟨notLeaked, names, known, taken⟩ := ends
    subst notLeaked
    refine ⟨fun _ => ?_, nofun⟩
    obtain ⟨kept, sameList⟩ :=
      onEntry_leases item.1 (serveReservation_leases setup request item.2)
        (after,
          { dispatching with
            leasedExperts := dispatching.leasedExperts ++
              [request.globalExpertId] }) rest
    rw [noted_snoc] at taken
    refine ⟨appended ++ [item.2.globalExpertId], ?_, ?_, kept.trans taken⟩
    · rw [sameList, names, listed, List.append_assoc]
    · intro gid member
      rcases List.mem_append.mp member with earlier | new
      · exact inside gid earlier
      · obtain rfl := List.mem_singleton.mp new
        exact known

theorem forEach_balanced_iff
    (items : List (Nat × PayloadRequest))
    (pair : Supply × Dispatching)
    (answers : List Answer)
    (balanced : Balanced before given pair) :
    Balanced before given
        (Call.forEach (dispatchRequest setup arguments) items pair
          answers).2.1 ↔
      Call.Along
        (fun item pair answers =>
          turnLeaks setup arguments item pair answers = false)
        (dispatchRequest setup arguments) items pair answers := by
  induction items generalizing pair answers with
  | nil =>
    exact iff_of_true balanced trivial
  | cons item items ih =>
    obtain ⟨kept, lost⟩ :=
      dispatchRequest_balanced setup arguments item pair answers balanced
    unfold Call.forEach Call.andThen Call.Along
    cases leaks : turnLeaks setup arguments item pair answers with
    | true =>
      obtain ⟨⟨error, threw⟩, unbalanced⟩ := lost leaks
      generalize dispatchRequest setup arguments item pair answers = ended
        at threw unbalanced ⊢
      rcases ended with ⟨outcome, after, rest⟩
      obtain rfl : outcome = .error error := threw
      exact iff_of_false unbalanced fun along => by cases along.1
    | false =>
      have stillBalanced := kept leaks
      generalize dispatchRequest setup arguments item pair answers = ended
        at stillBalanced ⊢
      rcases ended with ⟨error | value, after, rest⟩
      · exact iff_of_true stillBalanced ⟨rfl, trivial⟩
      · have later := ih after rest stillBalanced
        simp only [true_and]
        exact later

theorem submitBatch_leases
    (transfers : List PayloadTransfer) :
    KeepsLeases (submitBatch setup transfers) := by
  have submitted (turns : Nat) : KeepsLeases (submitPendingReads turns) := by
    induction turns with
    | zero =>
      exact ret ()
    | succ turns ih =>
      refine andThen read fun supply => branch (ret ()) ?_
      refine andThen (ask _) fun answer => ?_
      cases answer with
      | ringFailed => exact throwing _
      | taken count =>
        cases count with
        | zero => exact throwing _
        | succ count =>
          exact andThen (write fun _ => rfl) fun _ => ih
      | _ => exact write fun _ => rfl
  refine andThen read fun supply => branch ?_ (ret ())
  refine catching (submitted _) fun error => ?_
  exact andThen (forEach (fun _ => markRequestFailed_leases setup _ _) _)
    fun _ => throwing _

theorem dispatchInto_ends
    (pair : Supply × Dispatching)
    (answers : List Answer) :
    (dispatchInto setup arguments pair answers).2.1.1.leases =
        (Call.forEach (dispatchRequest setup arguments)
          (requestOrder pair.1.registry arguments.requests) pair
            answers).2.1.1.leases ∧
      (dispatchInto setup arguments pair answers).2.1.2 =
        (Call.forEach (dispatchRequest setup arguments)
          (requestOrder pair.1.registry arguments.requests) pair
            answers).2.1.2 := by
  unfold dispatchInto
  rw [Call.bind_apply, Call.read_apply]
  dsimp only
  rw [Call.bind_apply]
  generalize Call.forEach (dispatchRequest setup arguments)
    (requestOrder pair.1.registry arguments.requests) pair answers = looped
  rcases looped with ⟨error | value, ⟨after, dispatching⟩, rest⟩
  · exact ⟨rfl, rfl⟩
  · exact ⟨submitBatch_leases setup dispatching.transfers after rest, rfl⟩

/-- Give back a lease on each expert of a list. -/
def releaseAll
    (registry : ExpertRegistry) :
    List Nat → Outcome Unit
  | [] => .returned () registry
  | gid :: rest =>
    match registry.releaseLease gid with
    | .threw error after => .threw error after
    | .returned () after => releaseAll after rest

/-- All noted leases are given back. -/
theorem releaseAll_noted
    (experts : List Nat)
    (registry : ExpertRegistry)
    (inside : ∀ gid ∈ experts, gid < before.1)
    (counted : registry.leases = noted before experts) :
    ∃ released, releaseAll registry experts = .returned () released ∧
      released.leases = before := by
  induction experts generalizing registry with
  | nil =>
    refine ⟨registry, rfl, counted.trans ?_⟩
    exact Prod.ext rfl (funext fun gid => rfl)
  | cons gid rest ih =>
    have plus :
        registry.leases =
          leasesPlus (noted before rest) gid := by
      rw [counted, noted_snoc]
      refine Prod.ext rfl (funext fun other => ?_)
      simp only [noted, List.count_append, List.count_cons]
      simp [Nat.add_comm]
    obtain ⟨after, returned, restored⟩ :=
      releaseLease_taken gid
        (show gid < (noted before rest).1 from
          inside gid List.mem_cons_self) plus
    unfold releaseAll
    rw [returned]
    exact ih after
      (fun other member => inside other (List.mem_cons_of_mem gid member))
      restored

/--
However `dispatch` ends, every expert has as many leases more as it was appended
to the caller's list, exactly when no turn of the request loop met a failing event
query or an audit that refused its reservation.  Giving back the appended leases
then restores every count.
-/
theorem dispatch_balances_leases
    (setup : SupplySetup)
    (arguments : DispatchArguments)
    (supply : Supply)
    (given : List Nat)
    (answers : List Answer) :
    let started := (supply, Dispatching.start arguments given)
    let ended := (dispatchInto setup arguments started answers).2.1
    (Balanced supply.leases given ended ↔
      Call.Along
        (fun item pair answers =>
          turnLeaks setup arguments item pair answers = false)
        (dispatchRequest setup arguments)
        (requestOrder supply.registry arguments.requests) started answers) ∧
    (Balanced supply.leases given ended →
      ∃ appended released,
        ended.2.leasedExperts = given ++ appended ∧
          releaseAll ended.1.registry appended = .returned () released ∧
          released.leases = supply.leases) := by
  intro started ended
  have initially : Balanced supply.leases given started := by
    refine ⟨[], by simp [started, Dispatching.start], nofun, ?_⟩
    exact Prod.ext rfl (funext fun gid => rfl)
  obtain ⟨sameLeases, sameList⟩ :=
    dispatchInto_ends setup arguments started answers
  have same :
      Balanced supply.leases given ended ↔
        Balanced supply.leases given
          (Call.forEach (dispatchRequest setup arguments)
            (requestOrder supply.registry arguments.requests) started
              answers).2.1 := by
    unfold Balanced
    rw [show ended.1.leases = _ from sameLeases,
      show ended.2 = _ from sameList]
  refine ⟨same.trans
    (forEach_balanced_iff setup arguments _ started answers initially), ?_⟩
  rintro ⟨appended, listed, inside, counted⟩
  obtain ⟨released, returned, restored⟩ :=
    releaseAll_noted appended ended.1.registry inside counted
  exact ⟨appended, released, listed, returned, restored⟩

/-- Two pinned Warm slots and one VRAM slot for two experts. -/
def swappingSetup : SupplySetup where
  slotCount := 1
  arenaPinned := true
  hostSlots := 2
  isSlotPinned := fun _ => true
  vramSlots := 1
  directIo := false
  locate := fun _ => { fileOffset := 0, byteLength := 4096 }
  hostPayload := fun _ => true
  expertPayloadBytes := 4096
  demotionQueueCapacity := 4
  sectorSize := 4096
  sqEntries := 8
  slotAligned := fun _ => true

/-- Expert 0 in VRAM and expert 1 in Warm, with one Warm slot free. -/
def swappingSupply : Supply :=
  { registry := (ExpertRegistry.unbuilt.init 1 2 1 2 true).registry }

/-- A dispatch of one expert through staging slot 0. -/
def dispatchOne (gid : Nat) : DispatchArguments :=
  { requests := [{ globalExpertId := gid, stagingIdx := 0 }]
    currentStep := 0
    stageOnly := false }

/-- The supply once expert 1 is on its way in and expert 0 on its way out. -/
def swappedSupply : Supply :=
  (dispatchInto swappingSetup (dispatchOne 1)
    (swappingSupply, Dispatching.start (dispatchOne 1) []) []).2.1.1

/--
Expert 0 is requested while it is being demoted, and the query of the incoming
expert's event fails: `dispatch` throws with the lease taken and nothing noted.
-/
theorem failed_query_leaks_lease :
    let ended :=
      (dispatchInto swappingSetup (dispatchOne 0)
        (swappedSupply, Dispatching.start (dispatchOne 0) []) [.failed]).2.1
    swappedSupply.leases.2 0 = 0 ∧ ended.1.leases.2 0 = 1 ∧
      ended.2.leasedExperts = [] ∧
      ¬ Balanced swappedSupply.leases [] ended := by
  intro ended
  have before : swappedSupply.leases.2 0 = 0 := by decide +kernel
  have after : ended.1.leases.2 0 = 1 := by decide +kernel
  have listed : ended.2.leasedExperts = [] := by decide +kernel
  refine ⟨before, after, listed, ?_⟩
  rintro ⟨appended, appendedListed, _, counted⟩
  obtain rfl : [] = appended := listed.symm.trans appendedListed
  have counts := congrFun (congrArg Prod.snd counted) 0
  rw [after] at counts
  simp [noted, before] at counts

end Dispatch

end Aeon.Transport
