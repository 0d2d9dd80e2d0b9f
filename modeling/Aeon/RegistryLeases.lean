import Aeon.RegistryNumbering

namespace Aeon.Registry

/-!
# Leases

A request takes one lease on its expert, `release_lease` gives one back, and no
other call of the supply touches a lease count, whether it returns or throws.
-/

/-! ## Reservations with and without their audit -/

/-- Change the registry an outcome leaves. -/
def Outcome.onRegistry
    {α : Type}
    (change : ExpertRegistry → ExpertRegistry) :
    Outcome α → Outcome α
  | .returned value registry => .returned value (change registry)
  | .threw error registry => .threw error (change registry)

namespace ExpertRegistry

variable
    (registry : ExpertRegistry)
    (gid operationId capacity : Nat)
    (each : Bool)

/-- `set_validate_each_request`. -/
def audited
    (registry : ExpertRegistry)
    (each : Bool) : ExpertRegistry :=
  { registry with validateEachRequest := each }

theorem reserveWarmDestination_audited :
    (registry.audited each).reserveWarmDestination gid operationId =
      ((registry.reserveWarmDestination gid operationId).1,
        (registry.reserveWarmDestination gid operationId).2.audited each) := by
  have same :
      (registry.audited each).warmReclaimable gid =
        registry.warmReclaimable gid :=
    rfl
  unfold reserveWarmDestination
  rw [same, show (registry.audited each).freeHostSlots = registry.freeHostSlots from rfl,
    show (registry.audited each).warmHostLru = registry.warmHostLru from rfl]
  cases registry.freeHostSlots with
  | cons slot rest => rfl
  | nil =>
    cases registry.warmHostLru.reverse.find?
      (registry.warmReclaimable gid) <;> rfl

theorem demoteVictim_audited
    (slot incoming : Nat) :
    (registry.audited each).demoteVictim gid slot incoming operationId
        capacity =
      ((registry.demoteVictim gid slot incoming operationId capacity).1,
        (registry.demoteVictim gid slot incoming operationId
          capacity).2.audited each) := by
  have reserved :=
    reserveWarmDestination_audited
      { registry with demotionAttempts := registry.demotionAttempts + 1 }
      incoming operationId each
  unfold demoteVictim
  change (if registry.hostCapacity = 0 then _ else _) = _
  by_cases unhosted : registry.hostCapacity = 0
  · rw [if_pos unhosted, if_pos unhosted]
  · rw [if_neg unhosted, if_neg unhosted]
    change (if capacity ≤ registry.pendingDemotionCount then _ else _) = _
    by_cases full : capacity ≤ registry.pendingDemotionCount
    · simp only [full, if_true]
      rfl
    · simp only [full, if_false]
      erw [reserved]
      generalize reserveWarmDestination
        { registry with demotionAttempts := registry.demotionAttempts + 1 }
        incoming operationId = found
      rcases found with ⟨_ | destination, after⟩ <;> rfl

theorem reserveVramDestination_audited :
    (registry.audited each).reserveVramDestination gid operationId capacity =
      (registry.reserveVramDestination gid operationId
        capacity).onRegistry (·.audited each) := by
  unfold reserveVramDestination
  rw [show (registry.audited each).freeVramSlots = registry.freeVramSlots from rfl]
  cases registry.freeVramSlots with
  | cons slot rest => rfl
  | nil =>
    change (if registry.prefillStream &&
      registry.prefillAlloc == .freeListOnly then _
      else if registry.prefillStream || registry.warmFrozen then _
      else _) = _
    split
    · rfl
    · split
      · unfold evictForPrefill
        rw [show (registry.audited each).shadowLru = registry.shadowLru from rfl,
          show (registry.audited each).shadowReclaimable =
            registry.shadowReclaimable from rfl,
          show (registry.audited each).hotVramLru = registry.hotVramLru from rfl,
          show (registry.audited each).hotReclaimable gid true =
            registry.hotReclaimable gid true from rfl]
        cases registry.shadowLru.reverse.find?
            registry.shadowReclaimable with
        | some shadow => rfl
        | none =>
          cases registry.hotVramLru.reverse.find?
            (registry.hotReclaimable gid true) <;> rfl
      · rw [show (registry.audited each).hotVramLru = registry.hotVramLru from rfl,
          show (registry.audited each).hotReclaimable gid false =
            registry.hotReclaimable gid false from rfl]
        cases registry.hotVramLru.reverse.find?
            (registry.hotReclaimable gid false) with
        | none => rfl
        | some victim =>
          have demoted :=
            (registry.markVictim victim
              ((registry.catalog victim).slotIdx.getD 0)
              operationId).demoteVictim_audited victim operationId
                capacity each ((registry.catalog victim).slotIdx.getD 0) gid
          dsimp only
          erw [demoted]
          rfl

end ExpertRegistry

/-! ## The audit of a reservation -/

namespace ExpertRegistry

variable (registry : ExpertRegistry) (each : Bool)

theorem auditLru_audited
    (tier : ExpertTier)
    (seen lru : List Nat) :
    (registry.audited each).auditLru tier seen lru =
      registry.auditLru tier seen lru := by
  induction lru generalizing seen with
  | nil =>
    rfl
  | cons gid rest ih =>
    unfold auditLru
    rw [ih]
    rfl

theorem auditShadowLru_audited
    (seen lru : List Nat) :
    (registry.audited each).auditShadowLru seen lru =
      registry.auditShadowLru seen lru := by
  induction lru generalizing seen with
  | nil =>
    rfl
  | cons gid rest ih =>
    unfold auditShadowLru
    rw [ih]
    rfl

/-- The audit does not ask whether it is on. -/
theorem violation_audited :
    (registry.audited each).violation = registry.violation := by
  unfold violation validateLru
  rw [auditLru_audited, auditLru_audited, auditShadowLru_audited]
  rfl

end ExpertRegistry

/-- Return through the audit that `each` asks for. -/
def Outcome.audited
    {α : Type}
    (each : Bool) : Outcome α → Outcome α
  | .returned value registry => (registry.audited each).checkedValidate value
  | .threw error registry => .threw error (registry.audited each)

namespace ExpertRegistry

variable
    (registry : ExpertRegistry)
    (gid operationId capacity step : Nat)
    (each stageOnly : Bool)

/-- With its audit on or off, a reservation writes the same. -/
theorem reserveTransfer_audited :
    (registry.audited each).reserveTransfer gid capacity stageOnly =
      ((registry.audited false).reserveTransfer gid capacity
        stageOnly).audited each := by
  have numbered (given : Bool) :
      (registry.audited given).takeOperationId =
        registry.takeOperationId.audited given :=
    rfl
  have owner (given : Bool) :
      ((registry.audited given).catalog gid).owner =
        (registry.catalog gid).owner :=
    rfl
  have frozen (given : Bool) :
      (registry.audited given).warmFrozen = registry.warmFrozen :=
    rfl
  have issued (given : Bool) :
      (registry.audited given).nextOperationId = registry.nextOperationId :=
    rfl
  unfold reserveTransfer
  simp only [numbered, owner, frozen, issued, reserveVramDestination_audited]
  generalize registry.takeOperationId.reserveVramDestination gid
    registry.nextOperationId capacity = reserved
  cases (registry.catalog gid).owner <;> cases registry.warmFrozen <;>
    cases stageOnly <;> cases reserved <;> rfl

variable (registry : ExpertRegistry)

/--
What a reservation that is not audited does to the leases: it takes one on its
expert, unless it throws.
-/
def Leased
    (gid : Nat) :
    Outcome RequestReservation → Prop
  | .returned request after =>
    request.globalExpertId = gid ∧
      after.leases = leasesPlus registry.leases gid
  | .threw _ after => after.leases = registry.leases

/-- A transfer that starts is leased. -/
def Started
    (gid : Nat)
    (outcome : Outcome RequestReservation) : Prop :=
  Leased registry gid outcome ∧
    ∀ request after, outcome = .returned request after →
      request.kind.starts = true

variable {registry gid}

theorem Started.written
    {written : ExpertRegistry}
    {request : RequestReservation}
    (off : written.validateEachRequest = false)
    (names : request.globalExpertId = gid)
    (starts : request.kind.starts = true)
    (leased : (written.checkedValidate request).registry.leases =
      leasesPlus registry.leases gid) :
    Started registry gid (written.checkedValidate request) := by
  rw [checkedValidate_registry] at leased
  rw [checkedValidate, off]
  refine ⟨⟨names, leased⟩, ?_⟩
  intro other after returned
  cases returned
  exact starts

variable (registry gid)

theorem reserveTransfer_started :
    Started registry gid
      ((registry.audited false).reserveTransfer gid capacity stageOnly) := by
  have numbered :
      (registry.audited false).takeOperationId =
        registry.takeOperationId.audited false :=
    rfl
  have reserved :
      (registry.takeOperationId.reserveVramDestination gid
        registry.nextOperationId capacity).registry.leases =
        registry.leases :=
    (Frame.refl _ registry.takeOperationId).reserveVramDestination.leases
  have shadowed (after : ExpertRegistry) (target : Option Nat)
      (same : after.leases = registry.leases) :
      Started registry gid
        ((after.audited false).finishShadowReservation gid
          registry.nextOperationId target) := by
    refine Started.written rfl rfl rfl ?_
    exact (Frame.refl _ (after.audited false)).finishShadowReservation.leases.trans
      (congrArg (leasesPlus · gid) same)
  have promoted (after : ExpertRegistry) (destination : VramDestination)
      (same : after.leases = registry.leases) :
      Started registry gid
        ((after.audited false).finishPromotion gid
          registry.nextOperationId destination) := by
    refine Started.written rfl rfl rfl ?_
    exact (Frame.refl _ (after.audited false)).finishPromotion.leases.trans
      (congrArg (leasesPlus · gid) same)
  have read (after : ExpertRegistry) (destination : Option VramDestination)
      (same : after.leases = registry.leases) :
      Started registry gid
        ((after.audited false).finishColdRead gid
          registry.nextOperationId destination) := by
    refine Started.written rfl rfl ?_ ?_
    · cases destination <;> rfl
    · exact (Frame.refl _ (after.audited false)).finishColdRead.leases.trans
        (congrArg (leasesPlus · gid) same)
  have issued :
      (registry.audited false).nextOperationId = registry.nextOperationId :=
    rfl
  unfold reserveTransfer
  simp only [numbered, issued, reserveVramDestination_audited]
  have threwSame (error : RegistryError) (after : ExpertRegistry)
      (same : after.leases = registry.leases) :
      Started registry gid (.threw error (after.audited false)) :=
    ⟨same, fun _ _ returned => absurd returned threw_ne_returned⟩
  generalize registry.takeOperationId.reserveVramDestination gid
    registry.nextOperationId capacity = outcome at reserved ⊢
  split
  · split
    · split
      · exact shadowed _ none rfl
      · cases outcome with
        | threw error after => exact threwSame error after reserved
        | returned destination after => exact shadowed after _ reserved
    · cases outcome with
      | threw error after => exact threwSame error after reserved
      | returned destination after => exact promoted after destination reserved
  · split
    · exact read _ none rfl
    · cases outcome with
      | threw error after => exact threwSame error after reserved
      | returned destination after =>
        exact read after (some destination) reserved

/-- Whether the audit refuses a reservation that has taken its lease. -/
def auditRefuses
    (step : Nat)
    (stageOnly : Bool) : Bool :=
  registry.validateEachRequest &&
    match (registry.audited false).reserveRequestByGid gid step capacity
      stageOnly with
    | .returned request after =>
      request.kind.starts && after.violation.isSome
    | .threw _ _ => false

/-- What a reservation does to the leases, given what the audit says of it. -/
def Claims
    (gid : Nat)
    (refused : Bool) :
    Outcome RequestReservation → Prop
  | .returned request after =>
    request.globalExpertId = gid ∧ gid < registry.totalExperts ∧
      after.leases = leasesPlus registry.leases gid ∧ refused = false
  | .threw _ after =>
    after.leases =
      if refused then leasesPlus registry.leases gid else registry.leases

theorem reserveTransfer_claims
    (inside : gid < registry.totalExperts) :
    Claims registry gid
      (registry.validateEachRequest &&
        match (registry.audited false).reserveTransfer gid capacity
          stageOnly with
        | .returned request after =>
          request.kind.starts && after.violation.isSome
        | .threw _ _ => false)
      (registry.reserveTransfer gid capacity stageOnly) := by
  have shape :=
    registry.reserveTransfer_audited gid capacity registry.validateEachRequest
      stageOnly
  have started := registry.reserveTransfer_started gid capacity stageOnly
  change registry.reserveTransfer gid capacity stageOnly = _ at shape
  rw [shape]
  generalize (registry.audited false).reserveTransfer gid capacity stageOnly =
    outcome at started ⊢
  cases outcome with
  | threw error after =>
    have same : after.leases = registry.leases := started.1
    simp only [Bool.and_false, Claims, Outcome.audited]
    exact same
  | returned request after =>
    obtain ⟨⟨names, leased⟩, starts⟩ := started
    change Claims registry gid
      (registry.validateEachRequest &&
        (request.kind.starts && after.violation.isSome)) _
    rw [starts request after rfl]
    cases each : registry.validateEachRequest with
    | false => exact ⟨names, inside, leased, rfl⟩
    | true =>
      have audit := after.violation_audited true
      simp only [Outcome.audited, checkedValidate, audited, if_true]
      change Claims registry gid _ ((after.audited true).validated request)
      rw [validated, audit]
      cases after.violation with
      | none => exact ⟨names, inside, leased, rfl⟩
      | some message => exact leased

/--
A reservation that returns has taken one lease on its expert.  One that throws has
taken none, unless it was the audit that refused it.
-/
theorem reserveRequestByGid_claims :
    Claims registry gid (registry.auditRefuses gid capacity step stageOnly)
      (registry.reserveRequestByGid gid step capacity stageOnly) := by
  have activated :
      (registry.recordActivation gid step).leases = registry.leases :=
    (Frame.refl 0 registry).recordActivation.leases
  unfold auditRefuses reserveRequestByGid
  by_cases outside : registry.totalExperts ≤ gid
  · have outsideAudited : (registry.audited false).totalExperts ≤ gid := outside
    rw [if_pos outside, if_pos outsideAudited]
    simp only [Bool.and_false]
    rfl
  · have outsideAudited : ¬ (registry.audited false).totalExperts ≤ gid :=
      outside
    have inside : gid < registry.totalExperts := Nat.lt_of_not_le outside
    have same :
        (registry.audited false).recordActivation gid step =
          (registry.recordActivation gid step).audited false :=
      rfl
    have sameEntry :
        ((registry.recordActivation gid step).audited false).catalog gid =
          (registry.recordActivation gid step).catalog gid :=
      rfl
    have sameFrozen :
        ((registry.recordActivation gid step).audited false).warmFrozen =
          (registry.recordActivation gid step).warmFrozen :=
      rfl
    rw [if_neg outside, if_neg outsideAudited]
    simp only [same, sameEntry, sameFrozen]
    have claims :=
      (registry.recordActivation gid step).reserveTransfer_claims gid capacity
        stageOnly inside
    have each :
        (registry.recordActivation gid step).validateEachRequest =
          registry.validateEachRequest :=
      rfl
    generalize registry.recordActivation gid step = active
      at activated claims each ⊢
    have counted (touched : ExpertRegistry)
        (unleased : touched.leases = active.leases) :
        (touched.acquireLease gid).leases =
          leasesPlus registry.leases gid := by
      have leased : (touched.acquireLease gid).leases = leasesPlus touched.leases gid :=
        (Frame.refl 0 touched).acquireLease.leases
      rw [leased, unleased, activated]
    by_cases busy : (active.catalog gid).operation ≠ .idle ∨
        (active.catalog gid).publication = .unpublished
    · rw [if_pos busy, if_pos busy]
      by_cases lost : (active.catalog gid).operation = .idle ∨
          (active.catalog gid).operationId = 0
      · rw [if_pos lost, if_pos lost]
        simp only [Bool.and_false]
        exact activated
      · rw [if_neg lost, if_neg lost]
        exact ⟨rfl, inside, counted active rfl, Bool.and_false _⟩
    · rw [if_neg busy, if_neg busy]
      by_cases hot : (active.catalog gid).owner = .hotVram
      · rw [if_pos hot, if_pos hot]
        exact ⟨rfl, inside, counted _ (Frame.refl 0 _).touchHotLru.leases,
          Bool.and_false _⟩
      · rw [if_neg hot, if_neg hot]
        by_cases shadowed : active.warmFrozen = true ∧
            (active.catalog gid).owner = .warmHost ∧
            (active.catalog gid).shadowVramSlot.isSome = true
        · rw [if_pos shadowed, if_pos shadowed]
          exact ⟨rfl, inside, counted _ rfl, Bool.and_false _⟩
        · rw [if_neg shadowed, if_neg shadowed]
          rw [each] at claims
          have total : active.totalExperts = registry.totalExperts :=
            congrArg Prod.fst activated
          unfold Claims at claims ⊢
          rw [activated, total] at claims
          exact claims

end ExpertRegistry

end Aeon.Registry
