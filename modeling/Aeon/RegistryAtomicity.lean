import Aeon.RegistryModeSwitches

namespace Aeon.Registry

/-!
# Calls that fail and what they leave

A call that throws should leave the registry as it found it.  Every call checks
before it writes, except the two that walk: `release_layer` and
`release_host_tail` release what they pass and refuse at the first expert that is
leased or moving.  A walk that has something to release before that expert leaves
it released; every other failed call leaves the ledger alone.
-/

open ExpertRegistry

variable
    {registry : ExpertRegistry}
    {gid slot operationId : Nat}

/-- A catalog entry without its usage statistics. -/
def CatalogEntry.withoutUsage (entry : CatalogEntry) : CatalogEntry :=
  { entry with activationCount := 0, lastStepUsed := 0 }

/--
All of a registry but the usage statistics, the hit and demotion counters and the
number of the next operation.
-/
def ExpertRegistry.ledger (registry : ExpertRegistry) :=
  ((registry.numLayers, registry.expertsPerLayer, registry.totalExperts,
      registry.vramCapacity, registry.hostCapacity,
      registry.hostCapacityUsable, registry.warmFrozen,
      registry.prefillStream, registry.prefillAlloc,
      registry.validateEachRequest, registry.pendingDemotionCount),
    (fun gid => (registry.catalog gid).withoutUsage),
    (registry.vramSlots, registry.vramSlotReservations,
      registry.freeVramSlots, registry.hostSlots,
      registry.hostSlotReservations, registry.freeHostSlots),
    (registry.hotVramLru, registry.warmHostLru, registry.shadowLru,
      registry.shadowSlotOfExpert))

/-- Using an expert leaves the ledger alone. -/
theorem recordActivation_ledger
    (step : Nat) :
    (registry.recordActivation gid step).ledger = registry.ledger := by
  have sameCatalog :
      (fun other =>
        ((registry.recordActivation gid step).catalog other).withoutUsage) =
        fun other => (registry.catalog other).withoutUsage := by
    funext other
    by_cases here : other = gid
    · subst here
      simp [recordActivation, setEntry, CatalogEntry.withoutUsage]
    · simp [recordActivation, setEntry, here]
  unfold ledger
  rw [sameCatalog]
  rfl

/-! ## Reservations and transfers -/

section

variable
    {α : Type}
    {value : α}
    {error : RegistryError}
    {after : ExpertRegistry}
    (accounted : Accounted after)

include accounted

/-- An audit does not refuse what is accounted for. -/
theorem checkedValidate_not_threw :
    registry.checkedValidate value ≠ .threw error after := by
  intro threw
  have audited := registry.checkedValidate_registry value
  rw [threw] at audited
  obtain rfl : after = registry := audited
  obtain ⟨stranded, consistent⟩ := accounted
  rw [consistent.checkedValidate] at threw
  cases threw

theorem validated_not_threw :
    registry.validated value ≠ .threw error after := by
  intro threw
  have audited := registry.validated_registry value
  rw [threw] at audited
  obtain rfl : after = registry := audited
  obtain ⟨stranded, consistent⟩ := accounted
  rw [consistent.validated] at threw
  cases threw

end

theorem Accounts.warm_slot
    {stranded : List Nat}
    {place : Nat → Residency}
    (accounts : Accounts stranded registry place none)
    (inside : gid < registry.totalExperts)
    (owned : (registry.catalog gid).owner = .warmHost) :
    ∃ host, (registry.catalog gid).slotIdx = some host ∧
      registry.hostSlots host = some gid := by
  have fit := accounts.catalog.fits gid inside
  have held (host : Nat) (here : (place gid).hostSlot = some host) :
      registry.hostSlots host = some gid :=
    accounts.host.owned gid host inside here
  rw [fit.slotIdx]
  rw [fit.owner] at owned
  cases here : place gid with
  | warm host shadow => exact ⟨host, rfl, held host (by rw [here]; rfl)⟩
  | promoting op host target => exact ⟨host, rfl, held host (by rw [here]; rfl)⟩
  | shadowing op host target => exact ⟨host, rfl, held host (by rw [here]; rfl)⟩
  | cold | hot | reading | demoting => rw [here] at owned; cases owned

theorem retireVictim_totalExperts
    (victim : Option Nat) :
    (registry.retireVictim victim).totalExperts = registry.totalExperts := by
  unfold retireVictim
  split
  · rfl
  · split
    · split <;> rfl
    · rfl

section Threw

variable
    {error : RegistryError}
    {after : ExpertRegistry}
    (accounted : Accounted after)

include accounted

theorem reserveTransfer_threw
    {capacity : Nat}
    {stageOnly : Bool}
    (threw : registry.reserveTransfer gid capacity stageOnly =
      .threw error after) :
    after.ledger = registry.ledger := by
  have refused
      {found : RegistryError}
      {left : ExpertRegistry}
      (failed : registry.takeOperationId.reserveVramDestination gid
        registry.nextOperationId capacity = .threw found left) :
      left.ledger = registry.ledger := by
    rw [reserveVramDestination_threw failed]
    rfl
  unfold reserveTransfer at threw
  simp only at threw
  split at threw
  · split at threw
    · split at threw
      · exact absurd threw (checkedValidate_not_threw accounted)
      · split at threw
        · next failed =>
            cases threw
            exact refused failed
        · exact absurd threw (checkedValidate_not_threw accounted)
    · split at threw
      · next failed =>
          cases threw
          exact refused failed
      · exact absurd threw (checkedValidate_not_threw accounted)
  · split at threw
    · exact absurd threw (checkedValidate_not_threw accounted)
    · split at threw
      · next failed =>
          cases threw
          exact refused failed
      · exact absurd threw (checkedValidate_not_threw accounted)

theorem reserveRequestByGid_threw
    {step capacity : Nat}
    {stageOnly : Bool}
    (threw : registry.reserveRequestByGid gid step capacity stageOnly =
      .threw error after) :
    after.ledger = registry.ledger := by
  have used := @recordActivation_ledger registry gid step
  unfold reserveRequestByGid at threw
  simp only at threw
  split at threw
  · cases threw
    rfl
  · split at threw
    · split at threw
      · cases threw
        exact used
      · cases threw
    · split at threw
      · cases threw
      · split at threw
        · cases threw
        · exact (reserveTransfer_threw accounted threw).trans used

/-- A completion fails before it writes: its Warm source cannot be lost. -/
theorem completeRequest_threw
    (threw : registry.completeRequest operationId = .threw error after) :
    after = registry := by
  unfold completeRequest at threw
  simp only at threw
  split at threw
  · cases threw
    rfl
  · next gid found =>
      have inside : gid < registry.totalExperts :=
        List.mem_range.mp (List.mem_of_find?_eq_some found)
      have sameTotal :=
        @retireVictim_totalExperts registry
          (registry.findOperationVictim operationId)
      split at threw
      · cases threw
        rfl
      · split at threw
        · cases threw
          rfl
        · split at threw
          · cases threw
            rfl
          · split at threw
            · exact absurd threw (checkedValidate_not_threw accounted)
            · split at threw
              · cases threw
                rfl
              · split at threw
                · next owned =>
                    split at threw
                    · next lost =>
                        cases threw
                        obtain ⟨_, place, accounts⟩ := accounted
                        obtain ⟨host, slotEq, _⟩ :=
                          accounts.warm_slot (sameTotal ▸ inside) owned
                        rw [lost] at slotEq
                        cases slotEq
                    · next source slotEq =>
                        split at threw
                        · next lost =>
                            cases threw
                            obtain ⟨_, place, accounts⟩ := accounted
                            obtain ⟨host, hostEq, holds⟩ :=
                              accounts.warm_slot (sameTotal ▸ inside) owned
                            rw [slotEq] at hostEq
                            cases hostEq
                            exact absurd holds lost
                        · exact absurd threw
                            (checkedValidate_not_threw accounted)
                · exact absurd threw (checkedValidate_not_threw accounted)

theorem failRequest_threw
    (threw : registry.failRequest operationId = .threw error after) :
    after = registry := by
  unfold failRequest at threw
  simp only at threw
  split at threw
  · cases threw
    rfl
  · split at threw
    · exact absurd threw (checkedValidate_not_threw accounted)
    · split at threw
      · cases threw
        rfl
      · exact absurd threw (checkedValidate_not_threw accounted)

theorem completeDemotion_threw
    (threw : registry.completeDemotion operationId = .threw error after) :
    after = registry := by
  unfold completeDemotion at threw
  split at threw
  · cases threw
    rfl
  · split at threw
    · cases threw
      rfl
    · split at threw
      · exact absurd threw (checkedValidate_not_threw accounted)
      · cases threw
        rfl

theorem dropDemotion_threw
    (threw : registry.dropDemotion operationId = .threw error after) :
    after = registry := by
  unfold dropDemotion at threw
  split at threw
  · cases threw
    rfl
  · split at threw
    · cases threw
      rfl
    · exact absurd threw (checkedValidate_not_threw accounted)

theorem failDemotion_threw
    (threw : registry.failDemotion operationId = .threw error after) :
    after = registry := by
  unfold failDemotion at threw
  split at threw
  · cases threw
    rfl
  · split at threw
    · cases threw
      rfl
    · exact absurd threw (checkedValidate_not_threw accounted)

theorem growHostCapacity_threw
    {usable : Nat}
    (initially : Accounted registry)
    (threw : registry.growHostCapacity usable = .threw error after) :
    after = registry := by
  obtain ⟨_, place, accounts⟩ := initially
  unfold growHostCapacity at threw
  split at threw
  · cases threw
  · split at threw
    · cases threw
      rfl
    · rw [recoverHostSlots_registry] at threw
      · exact absurd threw (checkedValidate_not_threw accounted)
      · intro slot present
        rw [List.mem_range'_1] at present
        exact accounts.hostUnused present.1

theorem shrinkHostCapacity_threw
    {usable : Nat}
    (threw : registry.shrinkHostCapacity usable = .threw error after) :
    after = registry := by
  unfold shrinkHostCapacity at threw
  split at threw
  · cases threw
  · split at threw
    · cases threw
      rfl
    · exact absurd threw (checkedValidate_not_threw accounted)

end Threw

theorem attachVramDestination_threw
    {capacity : Nat}
    {error : RegistryError}
    {after : ExpertRegistry}
    (threw : registry.attachVramDestination operationId capacity =
      .threw error after) :
    after = registry := by
  unfold attachVramDestination at threw
  split at threw
  · cases threw
    rfl
  · split at threw
    · cases threw
    · split at threw
      · next failed =>
          cases threw
          exact reserveVramDestination_threw failed
      · cases threw

/-! ## The walks -/

/-- A walk that refuses at a blocked item after it has acted on one before. -/
def walkBreaks
    (blocked acts : Nat → Bool)
    (items : List Nat) : Bool :=
  items.any blocked &&
    (items.takeWhile fun item => !blocked item).any acts

theorem walkBreaks_cons
    {blocked acts : Nat → Bool}
    {item : Nat}
    {rest : List Nat}
    (passes : blocked item = false) :
    walkBreaks blocked acts (item :: rest) =
      (rest.any blocked &&
        (acts item ||
          (rest.takeWhile fun item => !blocked item).any acts)) := by
  simp [walkBreaks, passes]

/-- The expert stops `release_layer`. -/
def ExpertRegistry.layerBlocked
    (registry : ExpertRegistry)
    (gid : Nat) : Bool :=
  (registry.catalog gid).leaseCount != 0 ||
    (registry.catalog gid).operation != .idle

/-- The expert holds what `release_layer` would release. -/
def ExpertRegistry.layerHolds
    (registry : ExpertRegistry)
    (gid : Nat) : Bool :=
  ((registry.catalog gid).owner == .hotVram &&
      !(registry.catalog gid).residentAtPrefillBegin) ||
    (registry.catalog gid).shadowVramSlot.isSome

theorem releaseExpert_passes
    (holds : registry.layerHolds gid = false) :
    registry.releaseExpert gid = registry := by
  simp only [layerHolds, Bool.or_eq_false_iff] at holds
  obtain ⟨notAdmitted, noShadow⟩ := holds
  have kept : ¬ ((registry.catalog gid).owner = .hotVram ∧
      !(registry.catalog gid).residentAtPrefillBegin) := by
    rintro ⟨hot, unmarked⟩
    simp [hot, unmarked] at notAdmitted
  unfold releaseExpert
  rw [if_neg kept]
  cases shadow : (registry.catalog gid).shadowVramSlot with
  | none => simp only [shadow]
  | some slot => simp [shadow] at noShadow

theorem releaseExpert_layerBlocked
    (other : Nat) :
    (registry.releaseExpert gid).layerBlocked other =
      registry.layerBlocked other := by
  have entry {current after : ExpertRegistry} {entry : CatalogEntry}
      (same : after.catalog = Function.update current.catalog gid entry)
      (lease : entry.leaseCount = (current.catalog gid).leaseCount)
      (operation : entry.operation = (current.catalog gid).operation) :
      after.layerBlocked other = current.layerBlocked other := by
    unfold layerBlocked
    rw [same]
    by_cases here : other = gid
    · subst here
      rw [Function.update_self, lease, operation]
    · rw [Function.update_of_ne here]
  have released :
      (registry.releaseHotResident gid).layerBlocked other =
        registry.layerBlocked other := by
    have removed :
        (registry.removeFromHotLru gid).layerBlocked other =
          registry.layerBlocked other :=
      entry rfl rfl rfl
    refine Eq.trans ?_ removed
    unfold releaseHotResident
    cases (registry.catalog gid).slotIdx with
    | none => exact entry rfl rfl rfl
    | some slot => exact @entry (registry.removeFromHotLru gid) _ _ rfl rfl rfl
  unfold releaseExpert
  split
  · simp only
    split
    · refine Eq.trans ?_ released
      exact @entry (registry.releaseHotResident gid) _ _ rfl rfl rfl
    · exact released
  · simp only
    split
    · exact entry rfl rfl rfl
    · rfl

section Walks

variable
    {error : RegistryError}
    {after : ExpertRegistry}
    (accounted : Accounted after)

include accounted

section

variable
    {layerId : Nat}
    {layer : List Nat}

theorem releaseExperts_unblocked
    (clear : ∀ gid ∈ layer, registry.layerBlocked gid = false) :
    releaseExperts layerId registry layer ≠ .threw error after := by
  induction layer generalizing registry with
  | nil =>
    exact validated_not_threw accounted
  | cons gid rest ih =>
    have passes := clear gid List.mem_cons_self
    simp only [layerBlocked, Bool.or_eq_false_iff, bne_eq_false_iff_eq]
      at passes
    unfold releaseExperts
    rw [if_neg (not_not_intro passes.1), if_neg (not_not_intro passes.2)]
    refine ih fun other member => ?_
    rw [releaseExpert_layerBlocked]
    exact clear other (List.mem_cons_of_mem gid member)

theorem releaseExperts_threw
    (whole : walkBreaks registry.layerBlocked registry.layerHolds layer =
      false)
    (threw : releaseExperts layerId registry layer = .threw error after) :
    after = registry := by
  induction layer with
  | nil =>
    exact absurd threw (validated_not_threw accounted)
  | cons gid rest ih =>
    cases blocked : registry.layerBlocked gid with
    | true =>
      simp only [layerBlocked, Bool.or_eq_true, bne_iff_ne] at blocked
      unfold releaseExperts at threw
      split at threw
      · cases threw
        rfl
      · next unleased =>
          rw [if_pos (blocked.resolve_left unleased)] at threw
          cases threw
          rfl
    | false =>
      rw [walkBreaks_cons blocked] at whole
      have passes := blocked
      simp only [layerBlocked, Bool.or_eq_false_iff, bne_eq_false_iff_eq]
        at passes
      unfold releaseExperts at threw
      rw [if_neg (not_not_intro passes.1),
        if_neg (not_not_intro passes.2)] at threw
      cases holds : registry.layerHolds gid with
      | false =>
        rw [releaseExpert_passes holds] at threw
        rw [holds, Bool.false_or] at whole
        exact ih whole threw
      | true =>
        rw [holds, Bool.true_or, Bool.and_true] at whole
        refine absurd threw (releaseExperts_unblocked accounted ?_)
        intro other member
        rw [releaseExpert_layerBlocked]
        simpa using List.any_eq_false.mp whole other member

end

section

variable
    {stranded slots : List Nat}
    {place : Nat → Residency}
    {count : Nat}
    (accounts : Accounts stranded registry place none)
    (unique : slots.Nodup)
    (spares : SparesShadows registry slots)

include accounts unique spares

theorem releaseHostSlots_unblocked
    (clear : ∀ slot ∈ slots, registry.tailBlocked slot = false) :
    releaseHostSlots count registry slots ≠ .threw error after := by
  induction slots generalizing stranded registry place count with
  | nil =>
    exact checkedValidate_not_threw accounted
  | cons slot rest ih =>
    obtain ⟨absent, uniqueRest⟩ := List.nodup_cons.mp unique
    have unblocked := clear slot List.mem_cons_self
    have clearRest : ∀ other ∈ rest, registry.tailBlocked other = false :=
      fun other member => clear other (List.mem_cons_of_mem slot member)
    have sparesRest : SparesShadows registry rest := by
      intro other drained
      apply spares other
      simp only [List.takeWhile_cons, unblocked, Bool.not_false, if_true]
      exact List.mem_cons_of_mem slot drained
    unfold releaseHostSlots
    split
    · exact ih accounts uniqueRest sparesRest clearRest
    · next gid held =>
        have passes := unblocked
        simp only [tailBlocked, held, Option.any_some, Bool.or_eq_false_iff,
          bne_eq_false_iff_eq] at passes
        obtain ⟨⟨isWarm, unleased⟩, idle⟩ := passes
        have noShadow := spares slot (by simp [unblocked]) gid held
        rw [if_neg (not_not_intro isWarm),
          if_neg (by simp [unleased, idle])]
        refine ih
          (surrenderHostSlot_accounts accounts held isWarm idle noShadow)
          uniqueRest (accounts.sparesShadows_next held absent sparesRest) ?_
        intro other member
        rw [accounts.tailBlocked_surrender held
          (ne_of_mem_of_not_mem member absent)]
        exact clearRest other member

theorem releaseHostSlots_threw
    (whole : walkBreaks registry.tailBlocked
      (fun slot => (registry.hostSlots slot).isSome) slots = false)
    (threw : releaseHostSlots count registry slots = .threw error after) :
    after = registry := by
  induction slots with
  | nil =>
    exact absurd threw (checkedValidate_not_threw accounted)
  | cons slot rest ih =>
    cases blocked : registry.tailBlocked slot with
    | true =>
      unfold releaseHostSlots at threw
      cases held : registry.hostSlots slot with
      | none => simp [tailBlocked, held] at blocked
      | some gid =>
        simp only [held] at threw
        split at threw
        · cases threw
          rfl
        · split at threw
          · cases threw
            rfl
          · next isWarm unpinned =>
              simp_all [tailBlocked]
    | false =>
      cases held : registry.hostSlots slot with
      | none =>
        obtain ⟨absent, uniqueRest⟩ := List.nodup_cons.mp unique
        have sparesRest : SparesShadows registry rest := by
          intro other drained
          apply spares other
          simp only [List.takeWhile_cons, blocked, Bool.not_false,
            if_true]
          exact List.mem_cons_of_mem slot drained
        rw [walkBreaks_cons blocked, held] at whole
        unfold releaseHostSlots at threw
        simp only [held] at threw
        exact ih uniqueRest sparesRest whole threw
      | some gid =>
        rw [walkBreaks_cons blocked, held, Option.isSome_some,
          Bool.true_or, Bool.and_true] at whole
        refine absurd threw (releaseHostSlots_unblocked accounted accounts
          unique spares ?_)
        intro other member
        rcases List.mem_cons.mp member with rfl | later
        · exact blocked
        · simpa using List.any_eq_false.mp whole other later

end

end Walks

/-! ## Every call -/

/-- The call walks, and refuses after it has released something. -/
def RegistryOperation.breaksOff
    (registry : ExpertRegistry) :
    RegistryOperation → Bool
  | .releaseLayer layerId =>
    registry.prefillStream && decide (layerId < registry.numLayers) &&
      walkBreaks registry.layerBlocked registry.layerHolds
        (List.range' (layerId * registry.expertsPerLayer)
          registry.expertsPerLayer)
  | .releaseHostTail keep =>
    decide (keep ≤ registry.hostCapacityUsable) &&
      walkBreaks registry.tailBlocked
        (fun slot => (registry.hostSlots slot).isSome)
        (List.range' keep (registry.hostCapacityUsable - keep))
  | _ => false

theorem Outcome.discard_threw
    {α : Type}
    {outcome : Outcome α}
    {error : RegistryError}
    {after : ExpertRegistry}
    (threw : outcome.discard = .threw error after) :
    outcome = .threw error after := by
  cases outcome with
  | returned => cases threw
  | threw =>
    cases threw
    rfl

theorem releaseLayer_threw
    {layerId : Nat}
    {error : RegistryError}
    {after : ExpertRegistry}
    (accounted : Accounted after)
    (whole : RegistryOperation.breaksOff registry (.releaseLayer layerId) =
      false)
    (threw : registry.releaseLayer layerId = .threw error after) :
    after = registry := by
  unfold releaseLayer at threw
  split at threw
  · cases threw
    rfl
  · next streaming =>
      split at threw
      · cases threw
        rfl
      · next inside =>
          have walks : registry.prefillStream = true := by simpa using streaming
          simp only [RegistryOperation.breaksOff, walks, Bool.true_and,
            decide_eq_true (Nat.lt_of_not_le inside)] at whole
          exact releaseExperts_threw accounted whole threw

theorem releaseHostTail_threw
    {keep : Nat}
    {error : RegistryError}
    {after : ExpertRegistry}
    (initially : Accounted registry)
    (sheltered : Sheltered registry (.releaseHostTail keep))
    (accounted : Accounted after)
    (whole : RegistryOperation.breaksOff registry (.releaseHostTail keep) =
      false)
    (threw : registry.releaseHostTail keep = .threw error after) :
    after = registry := by
  obtain ⟨_, place, accounts⟩ := initially
  unfold releaseHostTail at threw
  split at threw
  · cases threw
    rfl
  · next inside =>
      simp only [RegistryOperation.breaksOff, Bool.true_and,
        decide_eq_true (Nat.le_of_not_lt inside)] at whole
      exact releaseHostSlots_threw accounted accounts List.nodup_range'
        sheltered whole threw

theorem perform_threw
    {operation : RegistryOperation}
    {error : RegistryError}
    {after : ExpertRegistry}
    (accounted : Accounted registry)
    (sheltered : Sheltered registry operation)
    (whole : operation.breaksOff registry = false)
    (threw : operation.perform registry = .threw error after) :
    after.ledger = registry.ledger := by
  have stays : (operation.perform registry).registry = after := by
    rw [threw]
    rfl
  have settled : Accounted after :=
    performs_accounted accounted ⟨sheltered, stays⟩
  have unchanged (same : after = registry) : after.ledger = registry.ledger :=
    congrArg ledger same
  cases operation with
  | reserveRequestByGid =>
    exact reserveRequestByGid_threw settled (Outcome.discard_threw threw)
  | attachVramDestination =>
    exact unchanged
      (attachVramDestination_threw (Outcome.discard_threw threw))
  | completeRequest => exact unchanged (completeRequest_threw settled threw)
  | failRequest => exact unchanged (failRequest_threw settled threw)
  | completeDemotion => exact unchanged (completeDemotion_threw settled threw)
  | dropDemotion => exact unchanged (dropDemotion_threw settled threw)
  | failDemotion => exact unchanged (failDemotion_threw settled threw)
  | releaseLease =>
    apply unchanged
    simp only [RegistryOperation.perform] at threw
    unfold releaseLease at threw
    split at threw
    · cases threw
      rfl
    · cases threw
  | beginPrefillStream =>
    exact unchanged (switch_threw rfl (by rwa [stays]) threw)
  | endPrefillStream =>
    exact unchanged (switch_threw rfl (by rwa [stays]) threw)
  | setWarmFrozen =>
    exact unchanged (switch_threw rfl (by rwa [stays]) threw)
  | releaseLayer => exact unchanged (releaseLayer_threw settled whole threw)
  | growHostCapacity =>
    exact unchanged (growHostCapacity_threw settled accounted threw)
  | shrinkHostCapacity =>
    exact unchanged (shrinkHostCapacity_threw settled threw)
  | releaseHostTail =>
    exact unchanged (releaseHostTail_threw accounted sheltered settled whole
      (Outcome.discard_threw threw))
  | setValidateEachRequest => cases threw
  | resetCounters => cases threw

/--
In every run that meets no shadow it would mishandle, a call that throws without
breaking off a walk leaves the ledger as it found it.
-/
theorem failed_call_keeps_ledger
    {unbuilt loaded registry after : ExpertRegistry}
    {layers expertsLayer vramCap hostCap : Nat}
    {preloadWarmHost : Bool}
    {operations : List RegistryOperation}
    {operation : RegistryOperation}
    {error : RegistryError}
    (built :
      unbuilt.init layers expertsLayer vramCap hostCap preloadWarmHost =
        .returned () loaded)
    (run : Run (Guarded Performs Sheltered) loaded operations registry)
    (sheltered : Sheltered registry operation)
    (whole : operation.breaksOff registry = false)
    (threw : operation.perform registry = .threw error after) :
    after.ledger = registry.ledger := by
  have accounted : Accounted registry :=
    run.invariant Accounted performs_accounted ⟨[], init_consistent built⟩
  exact perform_threw accounted sheltered whole threw

/-- A shrink refused because the tail still holds residents. -/
theorem refused_shrink_keeps_ledger :
    ∃ loaded moving error after,
      ExpertRegistry.unbuilt.init 1 3 1 2 true = .returned () loaded ∧
        Run (Guarded Performs Sheltered) loaded
          [.reserveRequestByGid 2 0 0 false] moving ∧
        RegistryOperation.perform moving (.shrinkHostCapacity 0) =
          .threw error after ∧
        after.ledger = moving.ledger := by
  have refused :
      ∃ loaded moving error after,
        ExpertRegistry.unbuilt.init 1 3 1 2 true = .returned () loaded ∧
          Run (Guarded Performs Sheltered) loaded
            [.reserveRequestByGid 2 0 0 false] moving ∧
          RegistryOperation.perform moving (.shrinkHostCapacity 0) =
            .threw error after := by
    apply Exists.intro
    apply Exists.intro
    apply Exists.intro
    apply Exists.intro
    apply And.intro (Eq.refl _)
    apply And.intro
    · apply Run.cons ⟨trivial, Eq.refl _⟩
      exact .nil _
    · exact Eq.refl _
  obtain ⟨loaded, moving, error, after, built, run, threw⟩ := refused
  have sheltered : Sheltered moving (.shrinkHostCapacity 0) := trivial
  exact ⟨loaded, moving, error, after, built, run, threw,
    failed_call_keeps_ledger built run sheltered rfl threw⟩

/--
While expert 2 is promoted out of host slot 1, a drain of the whole Warm tier drops
expert 1 out of slot 0 and then refuses.
-/
theorem refused_drain_drops_resident :
    ∃ loaded moving error drained,
      ExpertRegistry.unbuilt.init 1 3 1 2 true = .returned () loaded ∧
        Run Performs loaded [.reserveRequestByGid 2 0 0 false] moving ∧
        RegistryOperation.perform moving (.releaseHostTail 0) =
          .threw error drained ∧
        moving.hostSlots 0 = some 1 ∧ drained.hostSlots 0 = none ∧
        (moving.catalog 1).owner = .warmHost ∧
        (drained.catalog 1).owner = .coldNvme ∧
        drained.ledger ≠ moving.ledger := by
  apply Exists.intro
  apply Exists.intro
  apply Exists.intro
  apply Exists.intro
  apply And.intro (Eq.refl _)
  apply And.intro
  · apply Run.cons (Eq.refl _)
    exact .nil _
  refine ⟨Eq.refl _, by decide, by decide, by decide, by decide, ?_⟩
  intro same
  have slots := congrFun (congrArg (·.2.2.1.2.2.2.1) same) 0
  revert slots
  decide

end Aeon.Registry
