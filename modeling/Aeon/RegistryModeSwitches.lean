import Aeon.RegistryAudit
import Aeon.LabelledRun

namespace Aeon.Registry

/-!
# Freezes, prefills and boundary drains in any order

The legacy per-token prefill freezes Warm by hand, the swept prefill switches the
whole mode, and the host tail can be drained at any time.  Three of these calls
look only at part of the shadow state: the thaw skips a leased shadow and one whose
copy is in flight, the entry to a prefill clears the marks of a resident shadow but
keeps its VRAM slot, and the tail drain drops a Warm resident together with the
host bytes behind its shadow.  `Sheltered` says that none of them meets a shadow;
then every state of every run passes the audit.
-/

open ExpertRegistry

variable
    {stranded : List Nat}
    {registry : ExpertRegistry}
    {place : Nat → Residency}
    {gid slot : Nat}

/-! ## The freeze -/

/-- A frozen Warm tier admits whatever decode admits. -/
theorem Residency.admitted_frozen
    {here : Residency}
    {frozen streaming : Bool}
    (admitted : here.admitted frozen streaming = true) :
    here.admitted true streaming = true := by
  cases here with
  | warm host shadow => cases shadow <;> simp_all
  | _ => simp_all

theorem freeze_accounts
    (accounts : Accounts stranded registry place none) :
    Accounts stranded { registry with warmFrozen := true } place none := by
  refine { accounts with catalog := ⟨accounts.catalog.fits, ?_⟩, frozen := ?_ }
  · intro other inside
    exact Residency.admitted_frozen (accounts.catalog.admitted other inside)
  · exact fun _ => rfl

/-! ## The thaw -/

theorem releaseIdleShadow_accounts
    {host : Nat}
    (accounts : Accounts stranded registry place none)
    (inside : gid < registry.totalExperts)
    (shadowed : place gid = .warm host (some slot)) :
    Accounts stranded (registry.releaseIdleShadow gid)
      (Function.update place gid (.warm host none)) none := by
  have fit := accounts.catalog.fits gid inside
  rw [shadowed] at fit
  have slotEq : (registry.catalog gid).shadowVramSlot = some slot :=
    fit.shadowVramSlot
  constructor <;>
    simp only [releaseIdleShadow, setEntry, setVramSlot, pushFreeVram, slotEq]
  case catalog =>
    apply accounts.catalog.update
    · intro _
      exact { fit with shadowVramSlot := rfl }
    · rfl
  case vram => apply accounts.vram.release inside <;> simp [shadowed]
  case host => apply accounts.host.move <;> simp [shadowed]
  case operations => exact accounts.operations.finish rfl
  case ranks =>
    constructor
    · exact rank_keep accounts.ranks.hot (by simp [shadowed])
    · exact rank_keep accounts.ranks.warm (by simp [shadowed])
    · exact accounts.ranks.shadow.erase (rank_drop_iff rfl)
  case marks => apply accounts.marks.replace <;> simp [shadowed]
  case frozen => exact accounts.frozen
  case usable => exact accounts.usable
  case sized => exact accounts.sized

/-- Nothing that a thaw would skip: no copy in flight, no leased shadow. -/
structure Thawable (registry : ExpertRegistry) : Prop where
  landed : ∀ gid < registry.totalExperts,
    (registry.catalog gid).warmShadow = false
  unleased : ∀ gid < registry.totalExperts,
    (registry.catalog gid).shadowVramSlot.isSome = true →
      (registry.catalog gid).leaseCount = 0

theorem releaseShadowResidencies_frozen
    (frozen : Bool)
    (ranked : List Nat) :
    releaseShadowResidencies { registry with warmFrozen := frozen } ranked =
      { releaseShadowResidencies registry ranked with
        warmFrozen := frozen } := by
  induction ranked generalizing registry with
  | nil => rfl
  | cons gid rest step =>
    unfold releaseShadowResidencies
    split
    · exact step
    · have released :
          { registry with warmFrozen := frozen }.releaseIdleShadow gid =
            { registry.releaseIdleShadow gid with
              warmFrozen := frozen } := by
        unfold releaseIdleShadow
        cases slotEq : (registry.catalog gid).shadowVramSlot <;>
          simp only [setEntry, setVramSlot, pushFreeVram]
      rw [released]
      exact step

theorem Thawable.next
    (thawable : Thawable registry)
    (slotEq : (registry.catalog gid).shadowVramSlot = some slot) :
    Thawable (registry.releaseIdleShadow gid) := by
  have sameTotal :
      (registry.releaseIdleShadow gid).totalExperts =
        registry.totalExperts := by
    simp only [releaseIdleShadow, setEntry, setVramSlot, pushFreeVram, slotEq]
  have catalogEq :
      (registry.releaseIdleShadow gid).catalog =
        Function.update registry.catalog gid
          { registry.catalog gid with shadowVramSlot := none } := by
    simp only [releaseIdleShadow, setEntry, setVramSlot, pushFreeVram, slotEq]
  constructor <;> intro other inside <;> rw [sameTotal] at inside <;>
    rw [catalogEq]
  · have landed := thawable.landed other inside
    by_cases same : other = gid
    · subst same
      rw [Function.update_self]
      exact landed
    · rw [Function.update_of_ne same]
      exact landed
  · by_cases same : other = gid
    · subst same
      rw [Function.update_self]
      simp
    · rw [Function.update_of_ne same]
      exact thawable.unleased other inside

theorem releaseShadowResidencies_accounts
    {ranked : List Nat}
    (accounts : Accounts stranded registry place none)
    (thawable : Thawable registry)
    (rankedEq : registry.shadowLru = ranked) :
    ∃ moved,
      Accounts stranded (releaseShadowResidencies registry ranked) moved none ∧
        Thawable (releaseShadowResidencies registry ranked) ∧
        (releaseShadowResidencies registry ranked).shadowLru = [] ∧
        (releaseShadowResidencies registry ranked).prefillStream =
          registry.prefillStream := by
  induction ranked generalizing registry place with
  | nil => exact ⟨place, accounts, thawable, rankedEq, rfl⟩
  | cons gid rest step =>
    obtain ⟨inside, host, slot, shadowed, slotEq⟩ :=
      accounts.shadow_of_ranked (by rw [rankedEq]; exact List.mem_cons_self)
    have idle : (registry.catalog gid).operation = .idle := by
      rw [(accounts.catalog.fits gid inside).operation, shadowed]
      rfl
    have unleased := thawable.unleased gid inside (by rw [slotEq]; rfl)
    unfold releaseShadowResidencies
    rw [if_neg (by simp [idle, unleased])]
    obtain ⟨moved, final, thawed, emptied, sameStream⟩ :=
      step (releaseIdleShadow_accounts accounts inside shadowed)
        (thawable.next slotEq)
        (by
          simp only [releaseIdleShadow]
          rw [rankedEq, List.erase_cons_head])
    refine ⟨moved, final, thawed, emptied, sameStream.trans ?_⟩
    simp only [releaseIdleShadow, setEntry, setVramSlot, pushFreeVram,
      slotEq]

/-- A thaw that skips nobody leaves decode's single ownership. -/
theorem thaw_accounts
    (accounts : Accounts stranded registry place none)
    (decoding : registry.prefillStream = false)
    (thawable : Thawable registry) :
    Consistent stranded
      { releaseShadowResidencies registry registry.shadowLru with
        warmFrozen := false } := by
  obtain ⟨moved, released, thawed, emptied, sameStream⟩ :=
    releaseShadowResidencies_accounts accounts thawable rfl
  generalize
    releaseShadowResidencies registry registry.shadowLru = current at *
  rw [decoding] at sameStream
  refine ⟨moved, { released with
    catalog := ⟨released.catalog.fits, ?_⟩, frozen := ?_ }⟩
  · intro other inside
    have fit := released.catalog.fits other inside
    have landed := thawed.landed other inside
    rw [fit.warmShadow] at landed
    have unshadowed : (moved other).isShadowed = false := by
      by_contra shadowed
      have ranked :=
        (released.ranks.shadow.mem_iff other).mpr
          ⟨inside, by simpa using shadowed⟩
      rw [emptied] at ranked
      contradiction
    cases here : moved other with
    | warm host shadow => cases shadow <;> simp_all
    | _ => simp_all
  · intro streaming
    rw [sameStream] at streaming
    contradiction

theorem setWarmFrozen_consistent
    {frozen : Bool}
    (consistent : Consistent stranded registry)
    (thawable :
      frozen = false → registry.prefillStream = false →
        registry.warmFrozen = true → Thawable registry) :
    Consistent stranded (registry.setWarmFrozen frozen).registry := by
  obtain ⟨place, accounts⟩ := consistent
  unfold setWarmFrozen
  split
  · exact ⟨place, accounts⟩
  next decoding =>
    split
    · exact ⟨place, accounts⟩
    next switches =>
      simp only [validated_registry]
      cases frozen with
      | true =>
        rw [if_pos rfl]
        exact ⟨place, freeze_accounts accounts⟩
      | false =>
        rw [if_neg (by simp), releaseShadowResidencies_frozen]
        have decodes := Bool.eq_false_iff.mpr decoding
        exact thaw_accounts accounts decodes
          (thawable rfl decodes (by simpa using switches))

/-! ## The demotion drop -/

theorem dropDemotion_consistent
    {operationId : Nat}
    (consistent : Consistent stranded registry)
    (unheld :
      ∀ victim, registry.findOperationVictim operationId = some victim →
        (registry.catalog victim).gpuTransfer ≠ .d2hPending →
          registry.findReservedHostSlot operationId = none) :
    Consistent stranded (registry.dropDemotion operationId).registry := by
  obtain ⟨place, accounts⟩ := consistent
  unfold dropDemotion
  split
  · exact ⟨place, accounts⟩
  next victim found =>
    split
    · exact ⟨place, accounts⟩
    next uncopied =>
      obtain ⟨inside, slot, evicted⟩ :=
        accounts.uncopied_victim found uncopied
      rw [checkedValidate_registry, unheld victim found uncopied]
      have dropped :
          Accounts stranded (registry.dropVictim victim .unspecified) place
            none :=
        dropVictim_accounts accounts inside evicted
      exact ⟨place, dropped.congr rfl⟩

/-! ## Runs -/

/-- The outcome of a call whose result nobody reads. -/
def Outcome.discard
    {α : Type} : Outcome α → Outcome Unit
  | .returned _ registry => .returned () registry
  | .threw error registry => .threw error registry

@[simp] theorem Outcome.discard_registry
    {α : Type}
    (outcome : Outcome α) :
    outcome.discard.registry = outcome.registry := by
  cases outcome <;> rfl

/-- The public operations of an `ExpertRegistry`, with their arguments. -/
inductive RegistryOperation where
  | reserveRequestByGid
      (gid currentStep demotionQueueCapacity : Nat)
      (stageOnly : Bool)
  | attachVramDestination (operationId demotionQueueCapacity : Nat)
  | completeRequest (operationId : Nat)
  | failRequest (operationId : Nat)
  | completeDemotion (operationId : Nat)
  | dropDemotion (operationId : Nat)
  | failDemotion (operationId : Nat)
  | releaseLease (gid : Nat)
  | beginPrefillStream (drainSlots : Nat) (alloc : PrefillAlloc)
  | releaseLayer (layerId : Nat)
  | endPrefillStream
  | setWarmFrozen (frozen : Bool)
  | growHostCapacity (usable : Nat)
  | shrinkHostCapacity (usable : Nat)
  | releaseHostTail (keep : Nat)
  | setValidateEachRequest (enabled : Bool)
  | resetCounters
  deriving Repr, DecidableEq

/-- How one operation ends on a registry. -/
def RegistryOperation.perform
    (registry : ExpertRegistry) :
    RegistryOperation → Outcome Unit
  | .reserveRequestByGid gid step capacity stageOnly =>
    (registry.reserveRequestByGid gid step capacity stageOnly).discard
  | .attachVramDestination operationId capacity =>
    (registry.attachVramDestination operationId capacity).discard
  | .completeRequest operationId => registry.completeRequest operationId
  | .failRequest operationId => registry.failRequest operationId
  | .completeDemotion operationId => registry.completeDemotion operationId
  | .dropDemotion operationId => registry.dropDemotion operationId
  | .failDemotion operationId => registry.failDemotion operationId
  | .releaseLease gid => registry.releaseLease gid
  | .beginPrefillStream drainSlots alloc =>
    registry.beginPrefillStream drainSlots alloc
  | .releaseLayer layerId => registry.releaseLayer layerId
  | .endPrefillStream => registry.endPrefillStream
  | .setWarmFrozen frozen => registry.setWarmFrozen frozen
  | .growHostCapacity usable => registry.growHostCapacity usable
  | .shrinkHostCapacity usable => registry.shrinkHostCapacity usable
  | .releaseHostTail keep => (registry.releaseHostTail keep).discard
  | .setValidateEachRequest enabled =>
    .returned () { registry with validateEachRequest := enabled }
  | .resetCounters =>
    .returned ()
      { registry with
        hitsHot := 0
        hitsWarm := 0
        missesCold := 0
        demotionAttempts := 0
        demotionCompletions := 0
        demotionDrops := 0 }

/-- The calls that switch between decode, the legacy freeze and a prefill. -/
def RegistryOperation.isSwitch : RegistryOperation → Bool
  | .beginPrefillStream _ _ => true
  | .endPrefillStream => true
  | .setWarmFrozen _ => true
  | _ => false

/-- The operation ends, by a return or by an exception, in `after`. -/
def Performs
    (registry : ExpertRegistry)
    (operation : RegistryOperation)
    (after : ExpertRegistry) : Prop :=
  (operation.perform registry).registry = after

/--
The operation meets no shadow that it would mishandle, and a demotion drop does
not give up the source of a promotion.
-/
def Sheltered
    (registry : ExpertRegistry) :
    RegistryOperation → Prop
  | .setWarmFrozen frozen =>
    frozen = false → registry.prefillStream = false →
      registry.warmFrozen = true → Thawable registry
  | .beginPrefillStream _ _ =>
    registry.prefillStream = false → registry.boundaryViolation = none →
      ∀ gid < registry.totalExperts,
        (registry.catalog gid).shadowVramSlot = none
  | .releaseHostTail keep =>
    SparesShadows registry
      (List.range' keep (registry.hostCapacityUsable - keep))
  | .dropDemotion operationId =>
    ∀ victim, registry.findOperationVictim operationId = some victim →
      (registry.catalog victim).gpuTransfer ≠ .d2hPending →
        registry.findReservedHostSlot operationId = none
  | _ => True

/-- Some placement accounts for the registry, up to stranded host slots. -/
def Accounted (registry : ExpertRegistry) : Prop :=
  ∃ stranded, Consistent stranded registry

theorem performs_accounted
    {operation : RegistryOperation}
    {after : ExpertRegistry}
    (accounted : Accounted registry)
    (taken : Guarded Performs Sheltered registry operation after) :
    Accounted after := by
  obtain ⟨stranded, consistent⟩ := accounted
  obtain ⟨sheltered, performs⟩ := taken
  unfold Performs at performs
  subst performs
  cases operation with
  | reserveRequestByGid =>
    refine ⟨stranded, ?_⟩
    simp only [RegistryOperation.perform, Outcome.discard_registry]
    exact reserveRequestByGid_consistent consistent
  | attachVramDestination =>
    refine ⟨stranded, ?_⟩
    simp only [RegistryOperation.perform, Outcome.discard_registry]
    exact attachVramDestination_consistent consistent
  | completeRequest => exact ⟨stranded, completeRequest_consistent consistent⟩
  | failRequest => exact ⟨stranded, failRequest_consistent consistent⟩
  | completeDemotion =>
    exact ⟨stranded, completeDemotion_consistent consistent⟩
  | dropDemotion =>
    exact ⟨stranded, dropDemotion_consistent consistent sheltered⟩
  | failDemotion => exact ⟨stranded, failDemotion_consistent consistent⟩
  | releaseLease => exact ⟨stranded, releaseLease_consistent consistent⟩
  | beginPrefillStream =>
    exact ⟨stranded, beginPrefillStream_consistent consistent sheltered⟩
  | releaseLayer => exact ⟨stranded, releaseLayer_consistent consistent⟩
  | endPrefillStream =>
    exact ⟨stranded, endPrefillStream_consistent consistent⟩
  | setWarmFrozen =>
    exact ⟨stranded, setWarmFrozen_consistent consistent sheltered⟩
  | growHostCapacity =>
    exact ⟨stranded, growHostCapacity_consistent consistent⟩
  | shrinkHostCapacity usable =>
    rcases shrinkHostCapacity_cases consistent with
      ⟨_, unchanged⟩ | ⟨error, threw⟩ | rebuilt
    · refine ⟨stranded, ?_⟩
      simp only [RegistryOperation.perform]
      rw [unchanged]
      exact consistent
    · refine ⟨stranded, ?_⟩
      simp only [RegistryOperation.perform]
      rw [threw]
      exact consistent
    · exact ⟨[], rebuilt⟩
  | releaseHostTail =>
    simp only [Accounted, RegistryOperation.perform,
      Outcome.discard_registry]
    exact releaseHostTail_consistent consistent sheltered
  | setValidateEachRequest =>
    obtain ⟨place, accounts⟩ := consistent
    exact ⟨stranded, place, { accounts with }⟩
  | resetCounters =>
    obtain ⟨place, accounts⟩ := consistent
    exact ⟨stranded, place, { accounts with }⟩

/-- What the mode switches must never break. -/
structure ModesSound (registry : ExpertRegistry) : Prop where
  -- `validate_invariants` passes.
  audited : registry.violation = none
  -- No VRAM slot is unowned, unreserved and absent from the free list.
  vramKept :
    ∀ slot < registry.vramCapacity, registry.vramSlots slot = none →
      registry.vramSlotReservations slot = 0 →
        slot ∈ registry.freeVramSlots
  -- No shadow exists while Warm is not frozen.
  unshadowed :
    registry.warmFrozen = false →
      ∀ gid < registry.totalExperts,
        (registry.catalog gid).shadowVramSlot = none

theorem Accounted.modesSound
    (accounted : Accounted registry) :
    ModesSound registry := by
  obtain ⟨stranded, consistent⟩ := accounted
  have audited := consistent.violation_eq_none
  obtain ⟨place, accounts⟩ := consistent
  refine ⟨audited, ?_, ?_⟩
  · intro slot bound unowned unreserved
    exact (accounts.vram.free.mem_iff slot).mpr ⟨bound, unowned, unreserved⟩
  · intro thawed gid inside
    by_contra hasShadow
    have frozen :=
      (accounts.shadow_of_entry inside
        (Option.isSome_iff_ne_none.mpr hasShadow)).1
    rw [thawed] at frozen
    contradiction

/-- A switch whose audit passes can only throw at its entry checks. -/
theorem switch_threw
    {operation : RegistryOperation}
    {error : RegistryError}
    {after : ExpertRegistry}
    (switches : operation.isSwitch = true)
    (accounted : Accounted (operation.perform registry).registry)
    (threw : operation.perform registry = .threw error after) :
    after = registry := by
  obtain ⟨stranded, consistent⟩ := accounted
  cases operation with
  | beginPrefillStream drainSlots alloc =>
    simp only [RegistryOperation.perform] at consistent threw
    unfold beginPrefillStream at consistent threw
    split at threw
    · contradiction
    · split at threw
      · simp_all
      next clear =>
        rw [if_neg (by assumption), clear] at consistent
        simp only [validated_registry] at consistent
        rw [consistent.validated] at threw
        contradiction
  | endPrefillStream =>
    simp only [RegistryOperation.perform] at consistent threw
    unfold endPrefillStream at consistent threw
    split at threw
    · contradiction
    · split at threw
      · simp_all
      next clear =>
        rw [if_neg (by assumption), clear] at consistent
        simp only [validated_registry] at consistent
        rw [consistent.validated] at threw
        contradiction
  | setWarmFrozen frozen =>
    simp only [RegistryOperation.perform] at consistent threw
    unfold setWarmFrozen at consistent threw
    split at threw
    · contradiction
    · split at threw
      · contradiction
      · rw [if_neg (by assumption), if_neg (by assumption)] at consistent
        simp only [validated_registry] at consistent
        simp only at threw
        rw [consistent.validated] at threw
        contradiction
  | _ => contradiction

/--
In a run whose operations all meet no shadow that they would mishandle, every state
reached is sound, and a switch from it returns or leaves it unchanged.
-/
theorem run_modesSound
    {unbuilt loaded final : ExpertRegistry}
    {layers expertsLayer vramCap hostCap : Nat}
    {preloadWarmHost : Bool}
    {operations : List RegistryOperation}
    (built :
      unbuilt.init layers expertsLayer vramCap hostCap preloadWarmHost =
        .returned () loaded)
    (run : Run (Guarded Performs Sheltered) loaded operations final) :
    ModesSound final ∧
      ∀ switch error after,
        switch.isSwitch = true → Sheltered final switch →
          switch.perform final = .threw error after → after = final := by
  have accounted : Accounted final :=
    run.invariant Accounted performs_accounted ⟨[], init_consistent built⟩
  refine ⟨accounted.modesSound, ?_⟩
  intro switch error after switches sheltered threw
  exact switch_threw switches
    (performs_accounted accounted ⟨sheltered, rfl⟩) threw

/--
A legacy freeze with a shadow copy that lands and is released before the thaw, then
a prefill.
-/
theorem frozen_pass_modesSound :
    ∃ loaded final,
      ExpertRegistry.unbuilt.init 1 2 1 1 true = .returned () loaded ∧
        Run (Guarded Performs Sheltered) loaded
          [.setWarmFrozen true, .reserveRequestByGid 1 0 4 false,
            .completeRequest 1, .releaseLease 1, .setWarmFrozen false,
            .beginPrefillStream 1 .boundedEvict, .endPrefillStream]
          final ∧
        ModesSound final := by
  have passed :
      ∃ loaded final,
        ExpertRegistry.unbuilt.init 1 2 1 1 true = .returned () loaded ∧
          Run (Guarded Performs Sheltered) loaded
            [.setWarmFrozen true, .reserveRequestByGid 1 0 4 false,
              .completeRequest 1, .releaseLease 1, .setWarmFrozen false,
              .beginPrefillStream 1 .boundedEvict, .endPrefillStream]
            final := by
    apply Exists.intro
    apply Exists.intro
    apply And.intro (Eq.refl _)
    apply Run.cons ⟨nofun, Eq.refl _⟩
    apply Run.cons ⟨trivial, Eq.refl _⟩
    apply Run.cons ⟨trivial, Eq.refl _⟩
    apply Run.cons ⟨trivial, Eq.refl _⟩
    apply Run.cons
    · refine ⟨fun _ _ _ => ⟨?_, ?_⟩, Eq.refl _⟩
      · decide
      · decide
    apply Run.cons
    · refine ⟨fun _ _ => ?_, Eq.refl _⟩
      decide
    apply Run.cons ⟨trivial, Eq.refl _⟩
    exact .nil _
  obtain ⟨loaded, final, built, run⟩ := passed
  exact ⟨loaded, final, built, run, (run_modesSound built run).1⟩
/--
A thaw while a decode step still leases the shadow: the audit throws after the flag
has been cleared, and the shadow stays.
-/
theorem leased_shadow_survives_thaw :
    ∃ loaded leased thawed error,
      ExpertRegistry.unbuilt.init 1 2 1 1 true = .returned () loaded ∧
        Run Performs loaded
          [.setWarmFrozen true, .reserveRequestByGid 1 0 4 false,
            .completeRequest 1] leased ∧
        RegistryOperation.perform leased (.setWarmFrozen false) =
          .threw error thawed ∧
        thawed ≠ leased ∧ ¬ ModesSound thawed := by
  apply Exists.intro
  apply Exists.intro
  apply Exists.intro
  apply Exists.intro
  apply And.intro (Eq.refl _)
  apply And.intro
  · apply Run.cons (Eq.refl _)
    apply Run.cons (Eq.refl _)
    apply Run.cons (Eq.refl _)
    exact .nil _
  refine ⟨Eq.refl _, ?_, ?_⟩
  · intro same
    have flags := congrArg ExpertRegistry.warmFrozen same
    revert flags
    decide
  · intro sound
    have unshadowed := sound.unshadowed rfl 1 (by decide)
    revert unshadowed
    decide

end Aeon.Registry
