import Aeon.LabelledRun
import Aeon.RegistryFrames
import Aeon.RegistryModes

namespace Aeon.Registry

open ExpertRegistry (init settings validated_registry)

/-!
# Slot conservation

Over any run of the registry's calls no VRAM or host slot is leaked, freed twice
or held twice.  The registry's own audit reads neither free list, so nothing in
the code would notice.
-/

/-- A call on the registry, with its arguments. -/
inductive RegistryCall where
  | reserveRequestByGid
      (gid currentStep demotionQueueCapacity : Nat)
      (stageOnly : Bool)
  | attachVramDestination (operationId demotionQueueCapacity : Nat)
  | completeRequest (operationId : Nat)
  | failRequest (operationId : Nat)
  | completeDemotion (operationId : Nat)
  | failDemotion (operationId : Nat)
  | releaseLease (gid : Nat)
  | beginPrefillStream (drainSlots : Nat) (alloc : PrefillAlloc)
  | releaseLayer (layerId : Nat)
  | endPrefillStream
  | growHostCapacity (usable : Nat)
  | moveBoundary (keep : Nat)
  deriving Repr, DecidableEq

variable (registry : ExpertRegistry)

/-- `registry` returns normally from `call` and becomes `after`. -/
def Returns
    (call : RegistryCall)
    (after : ExpertRegistry) : Prop :=
  match call with
  | .reserveRequestByGid gid step capacity stageOnly =>
    ∃ reservation,
      registry.reserveRequestByGid gid step capacity stageOnly =
        .returned reservation after
  | .attachVramDestination operationId capacity =>
    ∃ slot,
      registry.attachVramDestination operationId capacity =
        .returned slot after
  | .completeRequest operationId =>
    registry.completeRequest operationId = .returned () after
  | .failRequest operationId =>
    registry.failRequest operationId = .returned () after
  | .completeDemotion operationId =>
    registry.completeDemotion operationId = .returned () after
  | .failDemotion operationId =>
    registry.failDemotion operationId = .returned () after
  | .releaseLease gid =>
    registry.releaseLease gid = .returned () after
  | .beginPrefillStream drainSlots alloc =>
    registry.beginPrefillStream drainSlots alloc = .returned () after
  | .releaseLayer layerId =>
    registry.releaseLayer layerId = .returned () after
  | .endPrefillStream =>
    registry.endPrefillStream = .returned () after
  | .growHostCapacity usable =>
    registry.growHostCapacity usable = .returned () after
  -- `release_host_tail` and at once `shrink_host_capacity`, between prefills.
  | .moveBoundary keep =>
    registry.prefillStream = false ∧
      ∃ released middle,
        registry.releaseHostTail keep = .returned released middle ∧
          middle.shrinkHostCapacity keep = .returned () after

/-- The expert is in VRAM slot `slot`, as its owner or as a shadow. -/
def HoldsVram
    (slot gid : Nat) : Prop :=
  gid < registry.totalExperts ∧
    (((registry.catalog gid).owner = .hotVram ∧
        (registry.catalog gid).slotIdx = some slot) ∨
      (registry.catalog gid).shadowVramSlot = some slot)

/-- The expert is in host slot `slot`. -/
def HoldsHost
    (slot gid : Nat) : Prop :=
  gid < registry.totalExperts ∧
    (registry.catalog gid).owner = .warmHost ∧
      (registry.catalog gid).slotIdx = some slot

/-- The expert's operation will load it into VRAM slot `slot`. -/
def AwaitsVram
    (slot gid : Nat) : Prop :=
  gid < registry.totalExperts ∧
    (registry.catalog gid).operation ≠ .idle ∧
      (registry.catalog gid).pendingSlotIdx = some slot

/-- The expert is being copied to the Warm slot its operation reserved. -/
def AwaitsHost
    (operationId gid : Nat) : Prop :=
  gid < registry.totalExperts ∧
    (registry.catalog gid).operation = .demotionPending ∧
      (registry.catalog gid).gpuTransfer = .d2hPending ∧
        (registry.catalog gid).operationId = operationId

/-- Every slot is free, awaited or held, by exactly one expert. -/
structure SlotConservation (registry : ExpertRegistry) : Prop where
  vramFree : registry.freeVramSlots.Nodup
  vramFree_iff :
    ∀ slot, slot ∈ registry.freeVramSlots ↔
      slot < registry.vramCapacity ∧ registry.vramSlots slot = none ∧
        registry.vramSlotReservations slot = 0
  vramAwaited :
    ∀ slot < registry.vramCapacity, registry.vramSlots slot = none →
      registry.vramSlotReservations slot ≠ 0 →
        ∃! gid, AwaitsVram registry slot gid
  vramHeld :
    ∀ slot < registry.vramCapacity, registry.vramSlots slot ≠ none →
      (∃! gid, HoldsVram registry slot gid) ∧
        ∀ gid, HoldsVram registry slot gid ↔
          registry.vramSlots slot = some gid
  hostFree : registry.freeHostSlots.Nodup
  hostFree_iff :
    ∀ slot, slot ∈ registry.freeHostSlots ↔
      slot < registry.hostCapacityUsable ∧ registry.hostSlots slot = none ∧
        registry.hostSlotReservations slot = 0
  hostAwaited :
    ∀ slot < registry.hostCapacityUsable, registry.hostSlots slot = none →
      registry.hostSlotReservations slot ≠ 0 →
        ∃! gid,
          AwaitsHost registry (registry.hostSlotReservations slot) gid
  hostHeld :
    ∀ slot < registry.hostCapacityUsable, registry.hostSlots slot ≠ none →
      (∃! gid, HoldsHost registry slot gid) ∧
        ∀ gid, HoldsHost registry slot gid ↔
          registry.hostSlots slot = some gid
  hostUnused :
    ∀ slot, registry.hostCapacityUsable ≤ slot →
      registry.hostSlots slot = none ∧
        registry.hostSlotReservations slot = 0

variable
    {stranded : List Nat}
    {registry : ExpertRegistry}
    {place : Nat → Residency}
    {slot gid : Nat}

theorem Accounts.holdsVram_iff
    (accounts : Accounts stranded registry place none) :
    HoldsVram registry slot gid ↔ registry.vramSlots slot = some gid := by
  constructor
  · rintro ⟨inside, holds⟩
    apply accounts.vram.owned gid slot inside
    have fit := accounts.catalog.fits gid inside
    rw [fit.owner, fit.slotIdx, fit.shadowVramSlot] at holds
    cases here : place gid <;> simp_all
  · intro held
    obtain ⟨inside, _, here⟩ := accounts.vram.owner slot gid held
    refine ⟨inside, ?_⟩
    have fit := accounts.catalog.fits gid inside
    rw [fit.owner, fit.slotIdx, fit.shadowVramSlot]
    cases there : place gid <;> simp_all

theorem Accounts.holdsHost_iff
    (accounts : Accounts stranded registry place none) :
    HoldsHost registry slot gid ↔ registry.hostSlots slot = some gid := by
  constructor
  · rintro ⟨inside, isWarm, slotEq⟩
    apply accounts.host.owned gid slot inside
    have fit := accounts.catalog.fits gid inside
    rw [fit.owner] at isWarm
    rw [fit.slotIdx] at slotEq
    cases here : place gid <;> simp_all
  · intro held
    obtain ⟨inside, _, here⟩ := accounts.host.owner slot gid held
    refine ⟨inside, ?_⟩
    have fit := accounts.catalog.fits gid inside
    rw [fit.owner, fit.slotIdx]
    cases there : place gid <;> simp_all

theorem existsUnique_of_slotMap
    {slots : Nat → Option Nat}
    {holds : Nat → Prop}
    (holds_iff : ∀ gid, holds gid ↔ slots slot = some gid)
    (occupied : slots slot ≠ none) :
    ∃! gid, holds gid := by
  obtain ⟨gid, held⟩ := Option.ne_none_iff_exists'.mp occupied
  refine ⟨gid, (holds_iff gid).mpr held, ?_⟩
  intro other otherHolds
  rw [holds_iff, held] at otherHolds
  exact (Option.some.inj otherHolds).symm

theorem Accounts.awaitsVram_iff
    (accounts : Accounts stranded registry place none)
    (inside : gid < registry.totalExperts) :
    AwaitsVram registry slot gid ↔
      ∃ operationId, (place gid).vramClaim = some (operationId, slot) := by
  have fit := accounts.catalog.fits gid inside
  constructor
  · rintro ⟨_, _, target⟩
    rw [fit.pendingSlotIdx] at target
    obtain ⟨⟨operationId, claimedSlot⟩, claims, rfl⟩ :=
      Option.map_eq_some_iff.mp target
    exact ⟨operationId, claims⟩
  · rintro ⟨operationId, claims⟩
    refine ⟨inside, ?_, ?_⟩
    · rw [fit.operation]
      have comes := (Residency.incoming_of_vramClaim claims).1
      cases here : place gid <;> simp_all
    · rw [fit.pendingSlotIdx, claims]
      rfl

theorem Accounts.vramAwaited
    (accounts : Accounts stranded registry place none)
    (isReserved : registry.vramSlotReservations slot ≠ 0) :
    ∃! gid, AwaitsVram registry slot gid := by
  obtain ⟨_, ⟨gid, inside, claims⟩ | dangles⟩ :=
    accounts.vram.claimant slot isReserved
  · refine ⟨gid, (accounts.awaitsVram_iff inside).mpr ⟨_, claims⟩, ?_⟩
    intro other awaits
    obtain ⟨operationId, otherClaims⟩ :=
      (accounts.awaitsVram_iff awaits.1).mp awaits
    -- The slot's one reservation names both operations.
    have sameOperation :=
      (accounts.vram.claimed other operationId slot awaits.1 otherClaims).1
    rw [sameOperation] at claims
    exact accounts.operations.incomingUnique other gid operationId awaits.1
      inside (Residency.incoming_of_vramClaim otherClaims).1
      (Residency.incoming_of_vramClaim claims).1
  · contradiction

theorem Accounts.awaitsHost_iff
    {operationId : Nat}
    (accounts : Accounts stranded registry place none)
    (inside : gid < registry.totalExperts) :
    AwaitsHost registry operationId gid ↔
      ∃ source destination,
        place gid = .demoting operationId source (some destination) := by
  have fit := accounts.catalog.fits gid inside
  constructor
  · rintro ⟨_, evicted, copies, idEq⟩
    rw [fit.operation] at evicted
    rw [fit.gpuTransfer] at copies
    have idOf := fit.operationId
    cases here : place gid with
    | demoting op source destination =>
      cases destination with
      | none => simp [here] at copies
      | some target =>
        rw [here] at idOf
        obtain rfl : op = operationId := by
          rw [← idEq]
          exact (idOf op rfl).symm
        exact ⟨source, target, rfl⟩
    | _ => simp [here] at evicted
  · rintro ⟨source, destination, here⟩
    rw [here] at fit
    exact ⟨inside, fit.operation, fit.gpuTransfer,
      fit.operationId operationId rfl⟩

theorem Accounts.hostAwaited
    (accounts : Accounts stranded registry place none)
    (empty : registry.hostSlots slot = none)
    (isReserved : registry.hostSlotReservations slot ≠ 0) :
    ∃! gid,
      AwaitsHost registry (registry.hostSlotReservations slot) gid := by
  obtain ⟨gid, inside, claims⟩ := accounts.host.claimant slot isReserved
  cases here : place gid with
  | promoting op host target =>
    -- A promotion keeps its source, which is then not empty.
    have held := accounts.host.owned gid host inside (by rw [here]; rfl)
    simp [here] at claims
    rw [claims.2, empty] at held
    contradiction
  | demoting op source destination =>
    cases destination with
    | none => simp [here] at claims
    | some target =>
      obtain ⟨rfl, rfl⟩ :
          op = registry.hostSlotReservations slot ∧ target = slot := by
        simpa [here] using claims
      refine ⟨gid, (accounts.awaitsHost_iff inside).mpr ⟨_, _, here⟩, ?_⟩
      intro other awaits
      obtain ⟨otherSource, _, otherHere⟩ :=
        (accounts.awaitsHost_iff awaits.1).mp awaits
      exact accounts.onlyVictim inside here other otherSource awaits.1
        (by rw [otherHere]; rfl)
  | _ => simp [here] at claims

theorem Consistent.slotConservation
    (consistent : Consistent [] registry) :
    SlotConservation registry := by
  obtain ⟨place, accounts⟩ := consistent
  constructor
  case vramFree => exact accounts.vram.free.nodup
  case vramFree_iff => exact accounts.vram.free.mem_iff
  case vramAwaited =>
    intro slot _ _ isReserved
    exact accounts.vramAwaited isReserved
  case vramHeld =>
    intro slot _ occupied
    have holds_iff :
        ∀ gid, HoldsVram registry slot gid ↔
          registry.vramSlots slot = some gid := by
      intro gid
      exact accounts.holdsVram_iff
    exact ⟨existsUnique_of_slotMap holds_iff occupied, holds_iff⟩
  case hostFree => simpa using accounts.host.free.nodup
  case hostFree_iff => simpa using accounts.host.free.mem_iff
  case hostAwaited =>
    intro slot _ empty isReserved
    exact accounts.hostAwaited empty isReserved
  case hostHeld =>
    intro slot _ occupied
    have holds_iff :
        ∀ gid, HoldsHost registry slot gid ↔
          registry.hostSlots slot = some gid := by
      intro gid
      exact accounts.holdsHost_iff
    exact ⟨existsUnique_of_slotMap holds_iff occupied, holds_iff⟩
  case hostUnused =>
    intro slot above
    exact accounts.hostUnused above

/--
The registry of a program that never freezes Warm by hand: consistent, with no
host slot left behind, and frozen exactly in a prefill.
-/
structure Conserving (registry : ExpertRegistry) : Prop where
  consistent : Consistent [] registry
  paired : registry.warmFrozen = registry.prefillStream

theorem Conserving.noShadow
    (conserving : Conserving registry)
    (decoding : registry.prefillStream = false) :
    ∀ gid < registry.totalExperts,
      (registry.catalog gid).shadowVramSlot = none := by
  obtain ⟨place, accounts⟩ := conserving.consistent
  intro gid inside
  by_contra hasShadow
  have frozen :=
    (accounts.shadow_of_entry inside
      (Option.isSome_iff_ne_none.mpr hasShadow)).1
  rw [conserving.paired, decoding] at frozen
  contradiction

variable {after : ExpertRegistry}

theorem Conserving.keep
    (conserving : Conserving registry)
    (consistent : Consistent [] after)
    (same : after.settings = registry.settings) :
    Conserving after := by
  simp only [settings, Prod.mk.injEq] at same
  obtain ⟨_, frozenEq, streamEq, _⟩ := same
  refine ⟨consistent, ?_⟩
  rw [frozenEq, streamEq]
  exact conserving.paired

/-- A prefill's entry pairs the two flags again. -/
theorem Conserving.begin
    {drainSlots : Nat}
    {alloc : PrefillAlloc}
    (conserving : Conserving registry)
    (returned :
      registry.beginPrefillStream drainSlots alloc = .returned () after) :
    Conserving after := by
  have consistent :
      Consistent [] (registry.beginPrefillStream drainSlots alloc).registry :=
    beginPrefillStream_consistent conserving.consistent
      fun decoding _ => conserving.noShadow decoding
  rw [returned] at consistent
  refine ⟨consistent, ?_⟩
  have registryEq := congrArg Outcome.registry returned
  unfold ExpertRegistry.beginPrefillStream at registryEq
  split at registryEq
  · simp only [Outcome.registry] at registryEq
    rw [← registryEq]
    exact conserving.paired
  · split at registryEq
    next blocked => simp [ExpertRegistry.beginPrefillStream, *] at returned
    · simp only [validated_registry] at registryEq
      simp only [Outcome.registry] at registryEq
      rw [← registryEq]

/-- So does its exit. -/
theorem Conserving.end
    (conserving : Conserving registry)
    (returned : registry.endPrefillStream = .returned () after) :
    Conserving after := by
  have consistent : Consistent [] registry.endPrefillStream.registry :=
    endPrefillStream_consistent conserving.consistent
  rw [returned] at consistent
  refine ⟨consistent, ?_⟩
  have registryEq := congrArg Outcome.registry returned
  unfold ExpertRegistry.endPrefillStream at registryEq
  split at registryEq
  · simp only [Outcome.registry] at registryEq
    rw [← registryEq]
    exact conserving.paired
  · split at registryEq
    next blocked => simp [ExpertRegistry.endPrefillStream, *] at returned
    · simp only [validated_registry] at registryEq
      simp only [Outcome.registry] at registryEq
      rw [← registryEq]

theorem Conserving.moveBoundary
    {middle after : ExpertRegistry}
    {keep released : Nat}
    (conserving : Conserving registry)
    (decoding : registry.prefillStream = false)
    (tail : registry.releaseHostTail keep = .returned released middle)
    (returned : middle.shrinkHostCapacity keep = .returned () after) :
    Conserving after := by
  have noShadow := conserving.noShadow decoding
  obtain ⟨place, accounts⟩ := conserving.consistent
  have spares :
      SparesShadows registry
        (List.range' keep (registry.hostCapacityUsable - keep)) := by
    intro slot _ gid held
    exact noShadow gid (accounts.host.owner slot gid held).1
  have tailSettings :
      (registry.releaseHostTail keep).registry.settings = registry.settings :=
    (Frame.refl 0 registry).releaseHostTail.settings
  obtain ⟨left, drained⟩ :=
    releaseHostTail_consistent ⟨place, accounts⟩ spares
  have shrinkSettings :
      (middle.shrinkHostCapacity keep).registry.settings = middle.settings :=
    (Frame.refl 0 middle).shrinkHostCapacity.settings
  rw [tail] at tailSettings drained
  simp only [Outcome.registry] at tailSettings drained
  apply conserving.keep
  · rcases shrinkHostCapacity_cases drained with
      ⟨above, unchanged⟩ | ⟨error, threw⟩ | consistent
    · -- Nothing lies above the boundary: neither call writes anything.
      rw [unchanged] at returned
      obtain rfl : middle = after := by simpa using returned
      unfold ExpertRegistry.releaseHostTail at tail
      split at tail
      · contradiction
      next inRange =>
        have sameUsable :=
          registry.releaseHostSlots_hostCapacityUsable 0
            (List.range' keep (registry.hostCapacityUsable - keep))
        rw [tail] at sameUsable
        simp only [Outcome.registry] at sameUsable
        have here : registry.hostCapacityUsable - keep = 0 := by omega
        rw [here] at tail
        have kept := congrArg Outcome.registry tail
        simp only [List.range'_zero, ExpertRegistry.releaseHostSlots,
          ExpertRegistry.checkedValidate_registry] at kept
        simp only [Outcome.registry] at kept
        rw [← kept]
        exact conserving.consistent
    · rw [threw] at returned
      contradiction
    · rw [returned] at consistent
      exact consistent
  · rw [returned] at shrinkSettings
    exact shrinkSettings.trans tailSettings

/-- A call that keeps the modes, however it ends. -/
theorem Conserving.call
    {α : Type}
    {outcome : Outcome α}
    {value : α}
    (conserving : Conserving registry)
    (returned : outcome = .returned value after)
    (consistent : Consistent [] outcome.registry)
    (same : outcome.registry.settings = registry.settings) :
    Conserving after := by
  rw [returned] at consistent same
  exact conserving.keep consistent same

theorem returns_conserving
    {call : RegistryCall}
    (conserving : Conserving registry)
    (returns : Returns registry call after) :
    Conserving after := by
  have consistent := conserving.consistent
  cases call with
  | reserveRequestByGid gid step capacity stageOnly =>
    obtain ⟨_, returned⟩ := returns
    exact conserving.call returned
      (reserveRequestByGid_consistent consistent)
      (registry.reserveRequestByGid_settings gid step capacity stageOnly)
  | attachVramDestination operationId capacity =>
    obtain ⟨_, returned⟩ := returns
    exact conserving.call returned
      (attachVramDestination_consistent consistent)
      (Frame.refl _ registry).attachVramDestination.settings
  | completeRequest operationId =>
    exact conserving.call returns (completeRequest_consistent consistent)
      (Frame.refl 0 registry).completeRequest.settings
  | failRequest operationId =>
    exact conserving.call returns (failRequest_consistent consistent)
      (Frame.refl 0 registry).failRequest.settings
  | completeDemotion operationId =>
    exact conserving.call returns (completeDemotion_consistent consistent)
      (Frame.refl 0 registry).completeDemotion.settings
  | failDemotion operationId =>
    exact conserving.call returns (failDemotion_consistent consistent)
      (Frame.refl 0 registry).failDemotion.settings
  | releaseLease gid =>
    exact conserving.call returns (releaseLease_consistent consistent)
      (registry.releaseLease_settings gid)
  | beginPrefillStream => exact conserving.begin returns
  | releaseLayer layerId =>
    exact conserving.call returns (releaseLayer_consistent consistent)
      (Frame.refl 0 registry).releaseLayer.settings
  | endPrefillStream => exact conserving.end returns
  | growHostCapacity usable =>
    exact conserving.call returns (growHostCapacity_consistent consistent)
      (Frame.refl 0 registry).growHostCapacity.settings
  | moveBoundary =>
    obtain ⟨decoding, _, _, tail, returned⟩ := returns
    exact conserving.moveBoundary decoding tail returned

theorem init_conserving
    {loaded : ExpertRegistry}
    {layers expertsLayer vramCap hostCap : Nat}
    {preloadWarmHost : Bool}
    (built :
      registry.init layers expertsLayer vramCap hostCap preloadWarmHost =
        .returned () loaded) :
    Conserving loaded := by
  refine ⟨init_consistent built, ?_⟩
  have builtEq := congrArg Outcome.registry built
  unfold init at builtEq
  split at builtEq
  next empty => simp [init, empty] at built
  · simp only [validated_registry] at builtEq
    simp only [Outcome.registry] at builtEq
    have same :
        (ExpertRegistry.populateRoundRobin preloadWarmHost 0 0
          (registry.cleared layers expertsLayer vramCap hostCap)
          (registry.cleared layers expertsLayer vramCap hostCap).roundRobin).settings =
          (registry.cleared layers expertsLayer vramCap hostCap).settings :=
      (Frame.refl 0 _).populateRoundRobin.settings
    rw [builtEq] at same
    simp only [settings, Prod.mk.injEq] at same
    obtain ⟨_, frozenEq, streamEq, _⟩ := same
    rw [frozenEq, streamEq]
    rfl

/-- From any load, every run of calls that return conserves the slots. -/
theorem run_slotConservation
    {unbuilt loaded final : ExpertRegistry}
    {layers expertsLayer vramCap hostCap : Nat}
    {preloadWarmHost : Bool}
    {calls : List RegistryCall}
    (built :
      unbuilt.init layers expertsLayer vramCap hostCap preloadWarmHost =
        .returned () loaded)
    (run : Run Returns loaded calls final) :
    SlotConservation final := by
  have conserving : Conserving final :=
    run.invariant Conserving returns_conserving (init_conserving built)
  exact conserving.consistent.slotConservation

/--
A promotion that demotes its victim into the one free host slot, from the
request to the release of its lease.
-/
theorem promotion_slotConservation :
    ∃ loaded final,
      ExpertRegistry.unbuilt.init 1 3 1 2 true = .returned () loaded ∧
        Run Returns loaded
          [.moveBoundary 1, .growHostCapacity 2,
            .reserveRequestByGid 1 0 4 false, .completeDemotion 1,
            .completeRequest 1, .releaseLease 1] final ∧
        SlotConservation final := by
  have promoted :
      ∃ loaded final,
        ExpertRegistry.unbuilt.init 1 3 1 2 true = .returned () loaded ∧
          Run Returns loaded
            [.moveBoundary 1, .growHostCapacity 2,
              .reserveRequestByGid 1 0 4 false, .completeDemotion 1,
              .completeRequest 1, .releaseLease 1] final := by
    apply Exists.intro
    apply Exists.intro
    apply And.intro
    · exact Eq.refl _
    apply Run.cons
    · exact And.intro rfl (Exists.intro _ (Exists.intro _ ⟨rfl, rfl⟩))
    apply Run.cons
    · exact Eq.refl _
    apply Run.cons
    · exact Exists.intro _ rfl
    apply Run.cons
    · exact Eq.refl _
    apply Run.cons
    · exact Eq.refl _
    apply Run.cons
    · exact Eq.refl _
    exact .nil _
  obtain ⟨loaded, final, built, run⟩ := promoted
  exact ⟨loaded, final, built, run, run_slotConservation built run⟩

end Aeon.Registry
