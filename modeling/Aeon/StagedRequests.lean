import Aeon.DeferredDestination
import Aeon.DemotionDrop

namespace Aeon.Registry

open Function (update_idem update_of_ne update_self)

/-!
# Staging a request and attaching its destination

The two calls of a staged request against the one call of an immediate request: in
every state reached without mishandled shadows they write the same registry and
refuse alike.  They report the same and the operation can be completed exactly when
the destination is not won by a demotion.
-/

open ExpertRegistry

variable
    {stranded : List Nat}
    {registry after : ExpertRegistry}
    {place : Nat → Residency}
    {gid slot operationId capacity step : Nat}

/-! ## Whose demotion is reserved -/

/--
A destination for this expert is won by a demotion: decode has no free VRAM slot,
a Hot resident can be evicted, and there is room for its bytes in the queue and in
the Warm tier.
-/
def ExpertRegistry.demotesVictim
    (registry : ExpertRegistry)
    (gid capacity : Nat) : Bool :=
  registry.freeVramSlots.isEmpty && !registry.prefillStream &&
    !registry.warmFrozen &&
    registry.hotVramLru.any (registry.hotReclaimable gid false) &&
    registry.hostCapacity != 0 &&
    decide (registry.pendingDemotionCount < capacity) &&
    (!registry.freeHostSlots.isEmpty ||
      registry.warmHostLru.any (registry.warmReclaimable gid))

theorem reserveWarmDestination_isSome :
    (registry.reserveWarmDestination gid operationId).1.isSome =
      (!registry.freeHostSlots.isEmpty ||
        registry.warmHostLru.any (registry.warmReclaimable gid)) := by
  unfold reserveWarmDestination
  cases registry.freeHostSlots with
  | cons slot rest => rfl
  | nil =>
    simp only [List.isEmpty_nil, Bool.not_true, Bool.false_or]
    rw [← List.any_reverse, ← List.isSome_find?]
    cases registry.warmHostLru.reverse.find?
      (registry.warmReclaimable gid) <;> rfl

theorem demoteVictim_isSome
    {incoming : Nat} :
    (registry.demoteVictim gid slot incoming operationId
      capacity).1.demotion.isSome =
      (registry.hostCapacity != 0 &&
        decide (registry.pendingDemotionCount < capacity) &&
        (!registry.freeHostSlots.isEmpty ||
          registry.warmHostLru.any (registry.warmReclaimable incoming))) := by
  have reserved :=
    @reserveWarmDestination_isSome
      { registry with demotionAttempts := registry.demotionAttempts + 1 }
      incoming operationId
  unfold demoteVictim
  by_cases unhosted : registry.hostCapacity = 0
  · simp [unhosted]
  · simp only [unhosted, if_false]
    by_cases full : capacity ≤ registry.pendingDemotionCount
    · rw [decide_eq_false (Nat.not_lt.mpr full)]
      simp [full]
    · simp only [full, if_false]
      have room : registry.pendingDemotionCount < capacity :=
        Nat.lt_of_not_le full
      have hosted : (registry.hostCapacity != 0) = true := by simpa using unhosted
      rw [hosted, decide_eq_true room, Bool.true_and, Bool.true_and]
      refine Eq.trans ?_ reserved
      generalize reserveWarmDestination
        { registry with demotionAttempts := registry.demotionAttempts + 1 }
        incoming operationId = found
      rcases found with ⟨_ | destination, left⟩ <;> rfl

theorem Accounts.warmReclaimable_markVictim
    {victim : Nat}
    (accounts : Accounts stranded registry place none)
    (ranked : victim ∈ registry.hotVramLru) :
    (registry.markVictim victim slot operationId).warmHostLru.any
        ((registry.markVictim victim slot
          operationId).warmReclaimable gid) =
      registry.warmHostLru.any (registry.warmReclaimable gid) := by
  obtain ⟨_, _, hot, _⟩ := accounts.hot_of_ranked ranked
  have sameList :
      (registry.markVictim victim slot operationId).warmHostLru =
        registry.warmHostLru :=
    rfl
  rw [sameList]
  have pointwise :
      ∀ other ∈ registry.warmHostLru,
        (registry.markVictim victim slot
          operationId).warmReclaimable gid other =
          registry.warmReclaimable gid other := by
    intro other member
    obtain ⟨_, host, shadow, warm, _⟩ := accounts.warm_of_ranked member
    have different : other ≠ victim := by
      rintro rfl
      rw [hot] at warm
      cases warm
    unfold warmReclaimable
    simp only [markVictim, removeFromHotLru, setEntry, setVramReservation,
      update_of_ne different]
  rw [Bool.eq_iff_iff, List.any_eq_true, List.any_eq_true]
  constructor
  · rintro ⟨other, member, reclaimable⟩
    exact ⟨other, member, pointwise other member ▸ reclaimable⟩
  · rintro ⟨other, member, reclaimable⟩
    exact ⟨other, member, (pointwise other member).symm ▸ reclaimable⟩

theorem Accounts.reserveVramDestination_reports
    (accounts : Accounts stranded registry place none) :
    (∃ destination after,
      registry.reserveVramDestination gid operationId capacity =
          .returned destination after ∧
        destination.demotion.isSome = true) ↔
      registry.demotesVictim gid capacity = true := by
  unfold reserveVramDestination demotesVictim
  cases freeEq : registry.freeVramSlots with
  | cons slot rest => simp
  | nil =>
    cases streaming : registry.prefillStream with
    | true =>
      simp only [Bool.true_and, Bool.true_or, if_true]
      split
      · simp
      · unfold evictForPrefill
        split
        · simp
        · split <;> simp
    | false =>
      cases frozen : registry.warmFrozen with
      | true =>
        simp only [Bool.false_and, Bool.false_eq_true, if_false,
          Bool.or_true, if_true]
        unfold evictForPrefill
        split
        · simp
        · split <;> simp
      | false =>
        simp only [Bool.false_and, Bool.false_eq_true, if_false,
          Bool.or_false, List.isEmpty_nil, Bool.not_false,
          Bool.true_and]
        rw [← List.any_reverse, ← List.isSome_find?]
        cases found : registry.hotVramLru.reverse.find?
            (registry.hotReclaimable gid false) with
        | none => simp
        | some victim =>
          obtain ⟨ranked, _⟩ := mem_of_find?_reverse found
          simp only [Outcome.returned.injEq, Option.isSome_some,
            Bool.true_and]
          rw [← @Accounts.warmReclaimable_markVictim stranded registry
            place gid ((registry.catalog victim).slotIdx.getD 0)
            operationId victim accounts ranked]
          have reports :=
            @demoteVictim_isSome
              (registry.markVictim victim
                ((registry.catalog victim).slotIdx.getD 0)
                operationId) victim
              ((registry.catalog victim).slotIdx.getD 0) operationId
              capacity gid
          constructor
          · rintro ⟨_, _, ⟨rfl, rfl⟩, reported⟩
            rw [reports] at reported
            exact reported
          · intro room
            exact ⟨_, _, ⟨rfl, rfl⟩, reports.trans room⟩

/-! ## Victims that do not copy -/

/-- Nobody with this number is copying into the Warm tier. -/
def Uncopied
    (operationId : Nat)
    (registry : ExpertRegistry) : Prop :=
  ∀ gid, (registry.catalog gid).operationId = operationId →
    (registry.catalog gid).gpuTransfer ≠ .d2hPending

theorem Uncopied.setEntry
    {entry : CatalogEntry}
    (uncopied : Uncopied operationId registry)
    (moves : entry.gpuTransfer ≠ .d2hPending) :
    Uncopied operationId (registry.setEntry gid entry) := by
  intro other carries
  simp only [ExpertRegistry.setEntry] at carries ⊢
  by_cases here : other = gid
  · subst here
    rw [update_self]
    exact moves
  · rw [update_of_ne here] at carries ⊢
    exact uncopied other carries

theorem demoteVictim_uncopied
    {incoming : Nat}
    (uncopied : Uncopied operationId registry)
    (unreported :
      (registry.demoteVictim gid slot incoming operationId
        capacity).1.demotion = none) :
    Uncopied operationId
      (registry.demoteVictim gid slot incoming operationId capacity).2 := by
  have attempted :
      Uncopied operationId
        { registry with demotionAttempts := registry.demotionAttempts + 1 } :=
    uncopied
  unfold demoteVictim at unreported ⊢
  split at unreported
  · next unhosted =>
      rw [if_pos unhosted]
      exact uncopied
  · next hosted =>
      rw [if_neg hosted]
      simp only at unreported ⊢
      split at unreported
      · next full =>
          rw [if_pos full]
          exact attempted.setEntry (by simp)
      · next room =>
          rw [if_neg room]
          cases found : reserveWarmDestination
              { registry with
                demotionAttempts := registry.demotionAttempts + 1 }
              incoming operationId with
          | mk target left =>
            rw [found] at unreported
            cases target with
            | some destination => cases unreported
            | none =>
              have unchanged :
                  left =
                    { registry with
                      demotionAttempts :=
                        registry.demotionAttempts + 1 } := by
                unfold reserveWarmDestination at found
                split at found
                · cases found
                · split at found
                  · cases found
                  · cases found
                    rfl
              subst unchanged
              exact attempted.setEntry (by simp)

theorem reserveVramDestination_uncopied
    {incoming : Nat}
    {destination : VramDestination}
    (unused : ∀ gid, (registry.catalog gid).operationId ≠ operationId)
    (reserved :
      registry.reserveVramDestination incoming operationId capacity =
        .returned destination after)
    (unreported : destination.demotion = none) :
    Uncopied operationId after := by
  have uncopied : Uncopied operationId registry :=
    fun gid carries => absurd carries (unused gid)
  unfold reserveVramDestination at reserved
  split at reserved
  · cases reserved
    exact uncopied
  · split at reserved
    · cases reserved
    · split at reserved
      · unfold evictForPrefill at reserved
        split at reserved
        · next shadow _ =>
            cases reserved
            intro other carries
            refine absurd carries ?_
            simp only [takeShadowSlot, releaseShadowResidency,
              ExpertRegistry.setEntry, setVramSlot, setVramReservation]
            by_cases here : other = shadow
            · subst here
              rw [update_self]
              exact unused other
            · rw [update_of_ne here]
              exact unused other
        · split at reserved
          · next victim _ =>
              cases reserved
              intro other carries
              refine absurd carries ?_
              simp only [takeHotSlot, removeFromHotLru,
                ExpertRegistry.setEntry, setVramSlot, setVramReservation,
                update_idem]
              by_cases here : other = victim
              · subst here
                simp only [update_self]
                exact unused other
              · rw [update_of_ne here]
                exact unused other
          · cases reserved
      · split at reserved
        · cases reserved
        · next victim _ =>
            cases reserved
            have removed :
                Uncopied operationId
                  (registry.removeFromHotLru victim) := by
              intro other carries
              refine absurd carries ?_
              simp only [removeFromHotLru, ExpertRegistry.setEntry]
              by_cases here : other = victim
              · subst here
                rw [update_self]
                exact unused other
              · rw [update_of_ne here]
                exact unused other
            exact demoteVictim_uncopied (removed.setEntry (by simp))
              unreported

/-! ## Completing what was reserved -/

theorem Accounts.findIncomingOperation_of_entry
    (accounts : Accounts stranded registry place none)
    (inside : gid < registry.totalExperts)
    (carries : (registry.catalog gid).operationId = operationId)
    (comes :
      (registry.catalog gid).operation = .ioPending ∨
        (registry.catalog gid).operation = .promotionPending) :
    registry.findIncomingOperation operationId = some gid := by
  cases found : registry.findIncomingOperation operationId with
  | none =>
    unfold findIncomingOperation gids at found
    rw [List.find?_eq_none] at found
    refine absurd ?_ (found gid (List.mem_range.mpr inside))
    simpa [carries] using comes
  | some other =>
    obtain ⟨otherInside, otherComes⟩ := accounts.incoming_of_found found
    have fit := accounts.catalog.fits gid inside
    have here : (place gid).incoming = some operationId := by
      have operationEq := fit.operation
      have idOf := fit.operationId
      rw [carries] at idOf
      cases at_ : place gid <;> simp_all
    rw [accounts.operations.incomingUnique other gid operationId otherInside
      inside otherComes here]

theorem completeRequest_returns
    (accounted : Accounted registry)
    (found : registry.findIncomingOperation operationId = some gid)
    (target : (registry.catalog gid).pendingSlotIdx = some slot)
    (uncopied : Uncopied operationId registry) :
    ∃ completed,
      registry.completeRequest operationId = .returned () completed := by
  cases ended : registry.completeRequest operationId with
  | returned value completed => exact ⟨completed, rfl⟩
  | threw error left =>
    exfalso
    have settled : Accounted left := by
      obtain ⟨stranded, consistent⟩ := accounted
      refine ⟨stranded, ?_⟩
      have kept := @completeRequest_consistent _ _ operationId consistent
      rw [ended] at kept
      exact kept
    have unchanged := completeRequest_threw settled ended
    subst unchanged
    obtain ⟨stranded, place, accounts⟩ := accounted
    obtain ⟨inside, comes⟩ := accounts.incoming_of_found found
    have fit := accounts.catalog.fits gid inside
    have copying : (left.catalog gid).gpuTransfer = .h2dPending := by
      rw [fit.gpuTransfer]
      cases here : place gid <;> simp_all
    have claims : (place gid).vramClaim = some (operationId, slot) := by
      have pendingEq := fit.pendingSlotIdx
      rw [target] at pendingEq
      obtain ⟨⟨op, claimed⟩, claimEq, slotEq⟩ :=
        Option.map_eq_some_iff.mp pendingEq.symm
      obtain rfl : claimed = slot := slotEq
      have sameOp := (Residency.incoming_of_vramClaim claimEq).1
      rw [comes] at sameOp
      cases sameOp
      exact claimEq
    have reserved :=
      (accounts.vram.claimed gid operationId slot inside claims).1
    have clear :
        ((left.findOperationVictim operationId).any fun other =>
          (left.catalog other).gpuTransfer == .d2hPending) = false := by
      cases victim : left.findOperationVictim operationId with
      | none => rfl
      | some other =>
        have carries := List.find?_some victim
        simp only [Bool.and_eq_true, beq_iff_eq] at carries
        simpa using uncopied other carries.1
    unfold completeRequest at ended
    simp only [found, target] at ended
    rw [if_neg (not_not_intro copying), if_neg (not_not_intro reserved)]
      at ended
    split at ended
    · exact checkedValidate_not_threw settled ended
    · rw [if_neg (by simp [clear])] at ended
      split at ended
      · next owned =>
          -- A promotion still has its source once the victim is retired.
          have source
              (same :
                left.retireVictim (left.findOperationVictim operationId) =
                  left) :
              ∃ host,
                ((left.retireVictim (left.findOperationVictim
                  operationId)).catalog gid).slotIdx = some host ∧
                (left.retireVictim (left.findOperationVictim
                  operationId)).hostSlots host = some gid := by
            rw [same] at owned ⊢
            exact accounts.warm_slot inside owned
          split at ended
          · next lost =>
              obtain ⟨host, slotEq, _⟩ :=
                source (Outcome.threw.inj ended).2
              rw [lost] at slotEq
              cases slotEq
          · next hostSlot slotEq =>
              split at ended
              · next lost =>
                  obtain ⟨host, hostEq, holds⟩ :=
                    source (Outcome.threw.inj ended).2
                  rw [slotEq] at hostEq
                  cases hostEq
                  exact lost holds
              · exact checkedValidate_not_threw settled ended
      · exact checkedValidate_not_threw settled ended

/-! ## The two orders -/

/-- The entry of an expert whose copy waits for a destination. -/
def stagedEntry
    (operationId : Nat)
    (operation : ExpertOperation)
    (shadow : Bool)
    (entry : CatalogEntry) : CatalogEntry :=
  { entry with
    operation := operation
    operationId := operationId
    gpuTransfer := .h2dPending
    publication := .unpublished
    slotState := .active
    leaseCount := entry.leaseCount + 1
    pendingSlotIdx := none
    warmShadow := shadow || entry.warmShadow }

/-- What a staged Cold read changes. -/
def readStaging
    (gid operationId : Nat) : Staging where
  gid := gid
  pend := stagedEntry operationId .ioPending false
  rank := id
  hits := 0
  misses := 1

/-- What a staged shadow copy changes, of a ranked Warm expert. -/
def shadowStaging
    (gid operationId : Nat) : Staging where
  gid := gid
  pend := fun entry =>
    stagedEntry operationId .promotionPending true { entry with inLru := false }
  rank := fun ranked => ranked.erase gid
  hits := 1
  misses := 0

/-- What the use of an expert changes. -/
def usageStaging
    (gid step : Nat) : Staging where
  gid := gid
  pend := fun entry =>
    { entry with
      activationCount := entry.activationCount + 1
      lastStepUsed := step }
  rank := id
  hits := 0
  misses := 0

/-- Who is demoted does not depend on the use of the incoming expert. -/
theorem demotesVictim_recordActivation :
    (registry.recordActivation gid step).takeOperationId.demotesVictim gid
        capacity =
      registry.demotesVictim gid capacity := by
  have hot :=
    @Staging.hotReclaimable_apply (usageStaging gid step) registry false
  have warm :=
    @Staging.warmReclaimable_apply (usageStaging gid step) registry
  change (registry.recordActivation gid step).hotReclaimable gid false =
    registry.hotReclaimable gid false at hot
  change (registry.recordActivation gid step).warmReclaimable gid =
    registry.warmReclaimable gid at warm
  unfold demotesVictim
  change (registry.freeVramSlots.isEmpty && !registry.prefillStream &&
    !registry.warmFrozen &&
    registry.hotVramLru.any
      ((registry.recordActivation gid step).hotReclaimable gid false) &&
    registry.hostCapacity != 0 &&
    decide (registry.pendingDemotionCount < capacity) &&
    (!registry.freeHostSlots.isEmpty ||
      registry.warmHostLru.any
        ((registry.recordActivation gid step).warmReclaimable gid))) = _
  rw [hot, warm]

/-- The registry once a staged operation has its destination. -/
def attachedTo
    (registry : ExpertRegistry)
    (gid slot : Nat) : ExpertRegistry :=
  registry.setEntry gid
    { registry.catalog gid with pendingSlotIdx := some slot }

theorem Staging.attachVramDestination_apply
    {staging : Staging}
    (unshadowed : staging.Unshadowed registry)
    (notHot : staging.NotHot registry)
    (keeps : registry.warmFrozen = false → staging.KeepsRanks)
    (found :
      (staging.apply registry).findIncomingOperation operationId =
        some staging.gid)
    (waits :
      (staging.pend (registry.catalog staging.gid)).pendingSlotIdx = none) :
    (staging.apply registry).attachVramDestination operationId capacity =
      match registry.reserveVramDestination staging.gid operationId
          capacity with
      | .threw error left => .threw error (staging.apply left)
      | .returned destination left =>
        .returned destination.vramSlot
          (attachedTo (staging.apply left) staging.gid
            destination.vramSlot) := by
  have entry :
      (staging.apply registry).catalog staging.gid =
        staging.pend (registry.catalog staging.gid) :=
    update_self _ _ _
  unfold attachVramDestination
  rw [found]
  simp only [entry, waits]
  rw [staging.reserveVramDestination_apply unshadowed notHot keeps]
  cases registry.reserveVramDestination staging.gid operationId capacity with
  | threw error left => rfl
  | returned destination left => rfl

theorem finishColdRead_attached
    (destination : VramDestination) :
    registry.finishColdRead gid operationId (some destination) =
      (attachedTo ((readStaging gid operationId).apply registry) gid
        destination.vramSlot).checkedValidate
        { kind := .coldMiss
          sourceTier := .coldNvme
          globalExpertId := gid
          operationId := operationId
          vramSlot := some destination.vramSlot
          sourceHostSlot := none
          leaseAcquired := true
          demotion := destination.demotion } := by
  unfold finishColdRead attachedTo Staging.apply readStaging
  simp only [beginOperation, stagedEntry, setEntry, update_self,
    update_idem, Option.map_some, Option.isNone_some,
    Option.bind_some, Bool.false_eq_true, if_false, id_eq, Nat.add_zero]

theorem finishShadowReservation_attached
    (listed : (registry.catalog gid).inLru = true) :
    registry.finishShadowReservation gid operationId (some slot) =
      (attachedTo ((shadowStaging gid operationId).apply registry) gid
        slot).checkedValidate
        { kind := .warmPromotion
          sourceTier := .warmHost
          globalExpertId := gid
          operationId := operationId
          vramSlot := some slot
          sourceHostSlot := (registry.catalog gid).slotIdx
          leaseAcquired := true
          demotion := none } := by
  unfold finishShadowReservation attachedTo Staging.apply shadowStaging
  simp only [beginOperation, removeFromWarmLru, stagedEntry, setEntry,
    update_self, update_idem, listed, if_true,
    Nat.add_zero]

theorem finishColdRead_staged :
    registry.finishColdRead gid operationId none =
      ((readStaging gid operationId).apply registry).checkedValidate
        { kind := .coldStaged
          sourceTier := .coldNvme
          globalExpertId := gid
          operationId := operationId
          vramSlot := none
          sourceHostSlot := none
          leaseAcquired := true
          demotion := none } := by
  unfold finishColdRead Staging.apply readStaging
  simp only [beginOperation, stagedEntry, setEntry, Option.map_none,
    Option.isNone_none, Option.bind_none, if_true, id_eq, Nat.add_zero]

theorem finishShadowReservation_staged
    (listed : (registry.catalog gid).inLru = true) :
    registry.finishShadowReservation gid operationId none =
      ((shadowStaging gid operationId).apply registry).checkedValidate
        { kind := .warmPromotion
          sourceTier := .warmHost
          globalExpertId := gid
          operationId := operationId
          vramSlot := none
          sourceHostSlot := (registry.catalog gid).slotIdx
          leaseAcquired := true
          demotion := none } := by
  unfold finishShadowReservation Staging.apply shadowStaging
  simp only [beginOperation, removeFromWarmLru, stagedEntry, setEntry,
    update_self, update_idem, listed, if_true,
    Nat.add_zero]

/-- The requests whose destination `stage_only` defers. -/
def ExpertRegistry.honoursStaging
    (registry : ExpertRegistry)
    (gid : Nat) : Bool :=
  let entry := registry.catalog gid
  decide (gid < registry.totalExperts) && entry.operation == .idle &&
    entry.publication == .published &&
    (entry.owner == .coldNvme ||
      (registry.warmFrozen && entry.owner == .warmHost &&
        entry.shadowVramSlot.isNone))

/--
The operation can be completed by a caller who knows of this demotion only: it
completes the demotion it was told of, then the request.
-/
def Drives
    (registry : ExpertRegistry)
    (operationId : Nat) :
    Option DemotionReservation → Prop
  | none =>
    ∃ completed,
      registry.completeRequest operationId = .returned () completed
  | some _ =>
    ∃ landed completed,
      registry.completeDemotion operationId = .returned () landed ∧
        landed.completeRequest operationId = .returned () completed

/--
Staging and attaching is what reserving at once is: the same refusals, and
otherwise the same registry, the same slot, the same demotion reported, and an
operation that what was reported is enough to complete.  A staged request reports
its demotion with the reservation; attaching reports the slot only.
-/
def DeferralTransparent
    (registry : ExpertRegistry)
    (gid step capacity : Nat) : Prop :=
  ∃ staged waiting,
    registry.reserveRequestByGid gid step capacity true =
        .returned staged waiting ∧
      match registry.reserveRequestByGid gid step capacity false,
          waiting.attachVramDestination staged.operationId capacity with
      | .threw error _, .threw again _ => again = error
      | .returned now after, .returned slot attached =>
        attached = after ∧ now.operationId = staged.operationId ∧
          now.vramSlot = some slot ∧ staged.demotion = now.demotion ∧
          Drives attached staged.operationId staged.demotion
      | _, _ => False

theorem reserveRequestByGid_honoured
    {stageOnly : Bool}
    (honoured : registry.honoursStaging gid = true) :
    registry.reserveRequestByGid gid step capacity stageOnly =
      (registry.recordActivation gid step).reserveTransfer gid capacity
        stageOnly := by
  simp only [honoursStaging, Bool.and_eq_true, decide_eq_true_eq, beq_iff_eq,
    Bool.or_eq_true] at honoured
  obtain ⟨⟨⟨inside, idle⟩, published⟩, source⟩ := honoured
  have entry :
      (registry.recordActivation gid step).catalog gid =
        { registry.catalog gid with
          activationCount := (registry.catalog gid).activationCount + 1
          lastStepUsed := step } :=
    update_self _ _ _
  unfold reserveRequestByGid
  rw [if_neg (Nat.not_le_of_lt inside)]
  simp only [entry]
  rw [if_neg (by simp [idle, published])]
  rcases source with cold | ⟨⟨frozen, warm⟩, unshadowed⟩
  · rw [if_neg (by simp [cold]), if_neg (by simp [cold])]
  · have noShadow : (registry.catalog gid).shadowVramSlot = none := by
      simpa using unshadowed
    rw [if_neg (by simp [warm]), if_neg (by simp [noShadow])]

section Orders

variable
    {staging : Staging}
    {numbered : ExpertRegistry}
    {staged : RequestReservation}
    {now : VramDestination → RequestReservation}

/-- The staged entry waits for a destination of the operation. -/
structure Staging.Pends
    (staging : Staging)
    (operationId : Nat) : Prop where
  carries : ∀ entry, (staging.pend entry).operationId = operationId
  comes :
    ∀ entry, (staging.pend entry).operation = .ioPending ∨
      (staging.pend entry).operation = .promotionPending
  copies : ∀ entry, (staging.pend entry).gpuTransfer = .h2dPending
  waits : ∀ entry, (staging.pend entry).pendingSlotIdx = none

theorem Staging.Pends.found
    {current : ExpertRegistry}
    (pends : staging.Pends operationId)
    (accounted : Accounted (staging.apply current))
    (inside : staging.gid < current.totalExperts) :
    (staging.apply current).findIncomingOperation operationId =
      some staging.gid := by
  have entry :
      (staging.apply current).catalog staging.gid =
        staging.pend (current.catalog staging.gid) :=
    update_self _ _ _
  obtain ⟨_, _, accounts⟩ := accounted
  refine accounts.findIncomingOperation_of_entry inside ?_ ?_
  · rw [entry]
    exact pends.carries _
  · rw [entry]
    exact pends.comes _

theorem Staging.Pends.attached_completes
    {left : ExpertRegistry}
    (pends : staging.Pends operationId)
    (accounted :
      Accounted (attachedTo (staging.apply left) staging.gid slot))
    (inside : staging.gid < left.totalExperts)
    (uncopied : Uncopied operationId left) :
    ∃ completed,
      (attachedTo (staging.apply left) staging.gid slot).completeRequest
        operationId = .returned () completed := by
  have stagedUncopied : Uncopied operationId (staging.apply left) :=
    @Uncopied.setEntry left staging.gid operationId _ uncopied
      (by rw [pends.copies]; simp)
  have staged :
      (staging.apply left).catalog staging.gid =
        staging.pend (left.catalog staging.gid) :=
    update_self _ _ _
  have entry :
      (attachedTo (staging.apply left) staging.gid slot).catalog
          staging.gid =
        { staging.pend (left.catalog staging.gid) with
          pendingSlotIdx := some slot } := by
    unfold attachedTo
    rw [staged]
    exact update_self _ _ _
  have found :
      (attachedTo (staging.apply left) staging.gid
        slot).findIncomingOperation operationId = some staging.gid := by
    obtain ⟨_, _, accounts⟩ := accounted
    refine accounts.findIncomingOperation_of_entry inside ?_ ?_
    · rw [entry]
      exact pends.carries _
    · rw [entry]
      exact pends.comes _
  have target :
      ((attachedTo (staging.apply left) staging.gid slot).catalog
        staging.gid).pendingSlotIdx = some slot := by
    rw [entry]
  refine completeRequest_returns accounted found target
    (stagedUncopied.setEntry ?_)
  rw [staged]
  simp only
  rw [pends.copies]
  simp

/--
The two orders against each other, once the staged call returned and the immediate
one is known to be its destination followed by the same changes.
-/
theorem transparent_iff_of_staged
    (accounts : Accounts stranded numbered place none)
    (unused :
      ∀ other, (numbered.catalog other).operationId ≠ operationId)
    (inside : staging.gid < numbered.totalExperts)
    (unshadowed : staging.Unshadowed numbered)
    (notHot : staging.NotHot numbered)
    (keeps : numbered.warmFrozen = false → staging.KeepsRanks)
    (pends : staging.Pends operationId)
    (waits :
      registry.reserveRequestByGid staging.gid step capacity true =
        .returned staged (staging.apply numbered))
    (stagedId : staged.operationId = operationId)
    (unreported : staged.demotion = none)
    (settled : Accounted (staging.apply numbered))
    (immediate :
      registry.reserveRequestByGid staging.gid step capacity false =
        match numbered.reserveVramDestination staging.gid operationId
            capacity with
        | .threw error left => .threw error left
        | .returned destination left =>
          .returned (now destination)
            (attachedTo (staging.apply left) staging.gid
              destination.vramSlot))
    (nowId : ∀ destination, (now destination).operationId = operationId)
    (nowSlot :
      ∀ destination,
        (now destination).vramSlot = some destination.vramSlot)
    (nowReports :
      ∀ destination left,
        numbered.reserveVramDestination staging.gid operationId capacity =
            .returned destination left →
          (now destination).demotion = destination.demotion)
    (nowSettled :
      Accounted
        (registry.reserveRequestByGid staging.gid step capacity
          false).registry) :
    DeferralTransparent registry staging.gid step capacity ↔
      numbered.demotesVictim staging.gid capacity = false := by
  have attaches :=
    @Staging.attachVramDestination_apply numbered operationId capacity staging
      unshadowed notHot keeps (pends.found settled inside) (pends.waits _)
  have reports :=
    @Accounts.reserveVramDestination_reports stranded numbered place
      staging.gid operationId capacity accounts
  have unfolded :
      DeferralTransparent registry staging.gid step capacity ↔
        match registry.reserveRequestByGid staging.gid step capacity false,
            (staging.apply numbered).attachVramDestination operationId
              capacity with
        | .threw error _, .threw again _ => again = error
        | .returned now after, .returned slot attached =>
          attached = after ∧ now.operationId = operationId ∧
            now.vramSlot = some slot ∧ none = now.demotion ∧
            Drives attached operationId none
        | _, _ => False := by
    unfold DeferralTransparent
    rw [waits]
    constructor
    · rintro ⟨_, _, same, rest⟩
      obtain ⟨rfl, rfl⟩ := Outcome.returned.inj same
      rw [stagedId, unreported] at rest
      exact rest
    · intro rest
      refine ⟨staged, _, rfl, ?_⟩
      rw [stagedId, unreported]
      exact rest
  rw [unfolded, attaches]
  rw [immediate] at nowSettled ⊢
  cases reserved : numbered.reserveVramDestination staging.gid operationId
      capacity with
  | threw error left =>
    rw [reserved] at reports
    have kept : numbered.demotesVictim staging.gid capacity = false := by
      rw [Bool.eq_false_iff, Ne, ← reports]
      rintro ⟨_, _, same, _⟩
      cases same
    simp [kept]
  | returned destination left =>
    rw [reserved] at reports nowSettled
    have isSome :
        destination.demotion.isSome =
          numbered.demotesVictim staging.gid capacity := by
      rw [Bool.eq_iff_iff, ← reports]
      constructor
      · intro reported
        exact ⟨destination, left, rfl, reported⟩
      · rintro ⟨_, _, same, reported⟩
        obtain ⟨rfl, rfl⟩ := Outcome.returned.inj same
        exact reported
    have reported := nowReports destination left reserved
    simp only [nowId, nowSlot, reported, true_and]
    rw [← isSome]
    constructor
    · rintro ⟨noDemotion, _⟩
      rw [← noDemotion]
      rfl
    · intro isNone
      have noDemotion : destination.demotion = none := by
        simpa using isNone
      have sameTotal :
          (numbered.reserveVramDestination staging.gid operationId
            capacity).registry.totalExperts = numbered.totalExperts :=
        (Frame.refl _ numbered).reserveVramDestination.totalExperts
      rw [reserved] at sameTotal
      exact ⟨noDemotion.symm, pends.attached_completes nowSettled
        (Nat.lt_of_lt_of_eq inside sameTotal.symm)
        (reserveVramDestination_uncopied unused reserved noDemotion)⟩

end Orders

theorem returned_of_checkedValidate
    {α : Type}
    {value : α}
    {outcome : Outcome α}
    (ends : outcome = registry.checkedValidate value)
    (accounted : Accounted outcome.registry) :
    outcome = .returned value registry := by
  rw [ends, checkedValidate_registry] at accounted
  obtain ⟨stranded, consistent⟩ := accounted
  rw [ends, consistent.checkedValidate]

theorem immediate_eq
    {staging : Staging}
    {numbered : ExpertRegistry}
    {now : VramDestination → RequestReservation}
    {outcome : Outcome RequestReservation}
    {finish : VramDestination → ExpertRegistry → Outcome RequestReservation}
    (ends :
      outcome =
        match numbered.reserveVramDestination staging.gid operationId
            capacity with
        | .threw error left => .threw error left
        | .returned destination left => finish destination left)
    (finishes :
      ∀ destination left,
        numbered.reserveVramDestination staging.gid operationId capacity =
            .returned destination left →
          finish destination left =
            (attachedTo (staging.apply left) staging.gid
              destination.vramSlot).checkedValidate (now destination))
    (accounted : Accounted outcome.registry) :
    outcome =
      match numbered.reserveVramDestination staging.gid operationId
          capacity with
      | .threw error left => .threw error left
      | .returned destination left =>
        .returned (now destination)
          (attachedTo (staging.apply left) staging.gid
            destination.vramSlot) := by
  cases reserved : numbered.reserveVramDestination staging.gid operationId
      capacity with
  | threw error left =>
    rw [reserved] at ends
    exact ends
  | returned destination left =>
    rw [reserved] at ends
    exact returned_of_checkedValidate
      (ends.trans (finishes destination left reserved)) accounted

section

variable
    {stageOnly : Bool}

theorem reserveTransfer_cold
    (cold : (registry.catalog gid).owner = .coldNvme) :
    registry.reserveTransfer gid capacity stageOnly =
      if stageOnly then
        registry.takeOperationId.finishColdRead gid registry.nextOperationId
          none
      else
        match registry.takeOperationId.reserveVramDestination gid
            registry.nextOperationId capacity with
        | .threw error left => .threw error left
        | .returned destination left =>
          left.finishColdRead gid registry.nextOperationId
            (some destination) := by
  unfold reserveTransfer
  generalize (registry.catalog gid).owner = owner at cold ⊢
  subst cold
  rfl

theorem reserveTransfer_frozen
    (warm : (registry.catalog gid).owner = .warmHost)
    (frozen : registry.warmFrozen = true) :
    registry.reserveTransfer gid capacity stageOnly =
      if stageOnly then
        registry.takeOperationId.finishShadowReservation gid
          registry.nextOperationId none
      else
        match registry.takeOperationId.reserveVramDestination gid
            registry.nextOperationId capacity with
        | .threw error left => .threw error left
        | .returned destination left =>
          left.finishShadowReservation gid registry.nextOperationId
            (some destination.vramSlot) := by
  rw [reserveTransfer, warm]
  exact if_pos frozen

theorem reserveTransfer_accounted
    (accounts : Accounts stranded registry place none)
    (inside : gid < registry.totalExperts)
    (idle : (registry.catalog gid).operation = .idle)
    (notHot : (registry.catalog gid).owner ≠ .hotVram)
    (noShadow : (registry.catalog gid).shadowVramSlot = none) :
    Accounted (registry.reserveTransfer gid capacity stageOnly).registry :=
  ⟨stranded, reserveTransfer_consistent accounts inside idle notHot noShadow⟩

end

section

variable
    {requested : ExpertRegistry}
    (accounts : Accounts stranded registry place none)
    (issued : Issued registry)
    (inside : gid < registry.totalExperts)
    (idle : (registry.catalog gid).operation = .idle)

include accounts issued inside idle

/--
A transfer that is staged and attached is a transfer with its destination, in the
terms of `transparent_iff_of_staged`: of a Cold expert.
-/
theorem transparent_iff_cold
    (cold : (registry.catalog gid).owner = .coldNvme)
    (transfers :
      ∀ stageOnly,
        requested.reserveRequestByGid gid step capacity stageOnly =
          registry.reserveTransfer gid capacity stageOnly) :
    DeferralTransparent requested gid step capacity ↔
      registry.takeOperationId.demotesVictim gid capacity = false := by
  have here := accounts.cold_of_entry inside cold idle
  have noShadow : (registry.catalog gid).shadowVramSlot = none := by
    rw [(accounts.catalog.fits gid inside).shadowVramSlot, here]
    rfl
  have notHot : (registry.catalog gid).owner ≠ .hotVram := by simp [cold]
  have settles (stageOnly : Bool) :
      Accounted
        (requested.reserveRequestByGid gid step capacity
          stageOnly).registry := by
    rw [transfers]
    exact reserveTransfer_accounted accounts inside idle notHot noShadow
  obtain ⟨numbered, _, _⟩ := takeOperationId_accounts accounts
    (show (place gid).isShadowed = false by rw [here]; rfl)
  have waits :=
    returned_of_checkedValidate
      (((transfers true).trans (reserveTransfer_cold cold)).trans
        finishColdRead_staged) (settles true)
  have settled := settles true
  rw [waits] at settled
  exact @transparent_iff_of_staged stranded requested place
    registry.nextOperationId capacity step
    (readStaging gid registry.nextOperationId) _ _ _ numbered
    (fun other => Nat.ne_of_lt (issued other)) inside ⟨noShadow, noShadow⟩
    ⟨notHot, notHot⟩ (fun _ _ => rfl)
    ⟨fun _ => rfl, fun _ => Or.inl rfl, fun _ => rfl, fun _ => rfl⟩
    waits rfl rfl settled
    (immediate_eq ((transfers false).trans (reserveTransfer_cold cold))
      (fun destination _ _ => finishColdRead_attached destination)
      (settles false))
    (fun _ => rfl) (fun _ => rfl) (fun _ _ _ => rfl) (settles false)

theorem transparent_iff_frozen
    (warm : (registry.catalog gid).owner = .warmHost)
    (frozen : registry.warmFrozen = true)
    (noShadow : (registry.catalog gid).shadowVramSlot = none)
    (transfers :
      ∀ stageOnly,
        requested.reserveRequestByGid gid step capacity stageOnly =
          registry.reserveTransfer gid capacity stageOnly) :
    DeferralTransparent requested gid step capacity ↔
      registry.takeOperationId.demotesVictim gid capacity = false := by
  obtain ⟨host, here, _⟩ := accounts.warm_of_entry inside warm idle
  rw [noShadow] at here
  have listed : (registry.catalog gid).inLru = true := by
    rw [(accounts.catalog.fits gid inside).inLru, here]
    rfl
  have notHot : (registry.catalog gid).owner ≠ .hotVram := by simp [warm]
  have settles (stageOnly : Bool) :
      Accounted
        (requested.reserveRequestByGid gid step capacity
          stageOnly).registry := by
    rw [transfers]
    exact reserveTransfer_accounted accounts inside idle notHot noShadow
  obtain ⟨numbered, requestable, _⟩ := takeOperationId_accounts accounts
    (show (place gid).isShadowed = false by rw [here]; rfl)
  have waits :=
    returned_of_checkedValidate
      (((transfers true).trans (reserveTransfer_frozen warm frozen)).trans
        (finishShadowReservation_staged listed)) (settles true)
  have settled := settles true
  rw [waits] at settled
  have unmoved
      {destination : VramDestination}
      {left : ExpertRegistry}
      (reserved :
        registry.takeOperationId.reserveVramDestination gid
          registry.nextOperationId capacity = .returned destination left) :
      left.catalog gid = registry.catalog gid := by
    obtain ⟨_, _, unmoved, _⟩ :=
      reserveVramDestination_accounts numbered requestable reserved
    exact unmoved.entry
  have unreported
      {destination : VramDestination}
      {left : ExpertRegistry}
      (reserved :
        registry.takeOperationId.reserveVramDestination gid
          registry.nextOperationId capacity = .returned destination left) :
      destination.demotion = none := by
    have kept : registry.takeOperationId.demotesVictim gid capacity = false := by
      simp [demotesVictim, takeOperationId, frozen]
    by_contra reported
    have demotes :=
      numbered.reserveVramDestination_reports.mp
        ⟨destination, left, reserved, Option.isSome_iff_ne_none.mpr reported⟩
    rw [kept] at demotes
    cases demotes
  exact @transparent_iff_of_staged stranded requested place
    registry.nextOperationId capacity step
    (shadowStaging gid registry.nextOperationId) _ _
    (fun destination =>
      { kind := .warmPromotion
        sourceTier := .warmHost
        globalExpertId := gid
        operationId := registry.nextOperationId
        vramSlot := some destination.vramSlot
        sourceHostSlot := (registry.catalog gid).slotIdx
        leaseAcquired := true
        demotion := none })
    numbered
    (fun other => Nat.ne_of_lt (issued other)) inside ⟨noShadow, noShadow⟩
    ⟨notHot, notHot⟩
    (fun thawed => by
      change registry.warmFrozen = false at thawed
      rw [frozen] at thawed
      cases thawed)
    ⟨fun _ => rfl, fun _ => Or.inr rfl, fun _ => rfl, fun _ => rfl⟩
    waits rfl rfl settled
    (immediate_eq ((transfers false).trans (reserveTransfer_frozen warm frozen))
      (fun destination left reserved => by
        rw [finishShadowReservation_attached
          (by rw [unmoved reserved]; exact listed), unmoved reserved]
        rfl)
      (settles false))
    (fun _ => rfl) (fun _ => rfl)
    (fun _ _ reserved => (unreported reserved).symm) (settles false)

end

/-- Staging and attaching is reserving at once, unless a demotion is reserved. -/
theorem transparent_iff
    (accounted : Accounted registry)
    (issued : Issued registry)
    (honoured : registry.honoursStaging gid = true) :
    DeferralTransparent registry gid step capacity ↔
      registry.demotesVictim gid capacity = false := by
  have transfers (stageOnly : Bool) :=
    @reserveRequestByGid_honoured registry gid capacity step stageOnly honoured
  have entry :
      (registry.recordActivation gid step).catalog gid =
        { registry.catalog gid with
          activationCount := (registry.catalog gid).activationCount + 1
          lastStepUsed := step } :=
    update_self _ _ _
  simp only [honoursStaging, Bool.and_eq_true, decide_eq_true_eq, beq_iff_eq,
    Bool.or_eq_true] at honoured
  obtain ⟨⟨⟨inside, idle⟩, _⟩, source⟩ := honoured
  obtain ⟨stranded, place, initially⟩ := accounted
  have active := @recordActivation_accounts _ _ _ gid step initially inside
  have issuedActive : Issued (registry.recordActivation gid step) :=
    issued.keeps (Frame.refl 0 registry).recordActivation
  have idleActive :
      ((registry.recordActivation gid step).catalog gid).operation =
        .idle := by
    rw [entry]
    exact idle
  rw [← @demotesVictim_recordActivation registry gid capacity step]
  rcases source with cold | ⟨⟨frozen, warm⟩, unshadowed⟩
  · exact transparent_iff_cold active issuedActive inside idleActive
      (by rw [entry]; exact cold) transfers
  · exact transparent_iff_frozen active issuedActive inside idleActive
      (by rw [entry]; exact warm) frozen
      (by rw [entry]; simpa using unshadowed) transfers

/--
In every run that meets no shadow it would mishandle, deferring the destination of
an honoured request is transparent exactly when the destination is not won by a
demotion.
-/
theorem deferral_transparent_iff
    {unbuilt loaded registry : ExpertRegistry}
    {layers expertsLayer vramCap hostCap gid step capacity : Nat}
    {preloadWarmHost : Bool}
    {operations : List RegistryOperation}
    (built :
      unbuilt.init layers expertsLayer vramCap hostCap preloadWarmHost =
        .returned () loaded)
    (run : Run (Guarded Performs Sheltered) loaded operations registry)
    (honoured : registry.honoursStaging gid = true) :
    DeferralTransparent registry gid step capacity ↔
      registry.demotesVictim gid capacity = false := by
  have accounted : Accounted registry :=
    run.invariant Accounted performs_accounted ⟨[], init_consistent built⟩
  have issued : Issued registry := by
    have performed : Run Performs loaded operations registry :=
      run.mono fun taken => taken.2
    exact performed.invariant Issued Issued.performs (Issued.init built)
  exact transparent_iff accounted issued honoured

/-- A Cold read while Warm is frozen and VRAM full: a Hot resident is evicted. -/
theorem frozen_read_deferral_transparent :
    ∃ loaded frozen,
      ExpertRegistry.unbuilt.init 1 2 1 1 false = .returned () loaded ∧
        Run (Guarded Performs Sheltered) loaded
          [.setWarmFrozen true] frozen ∧
        frozen.honoursStaging 1 = true ∧
        DeferralTransparent frozen 1 0 4 := by
  have froze :
      ∃ loaded frozen,
        ExpertRegistry.unbuilt.init 1 2 1 1 false = .returned () loaded ∧
          Run (Guarded Performs Sheltered) loaded
            [.setWarmFrozen true] frozen ∧
          frozen.honoursStaging 1 = true ∧
          frozen.demotesVictim 1 4 = false := by
    apply Exists.intro
    apply Exists.intro
    apply And.intro (Eq.refl _)
    apply And.intro
    · apply Run.cons ⟨nofun, Eq.refl _⟩
      exact .nil _
    · exact ⟨rfl, rfl⟩
  obtain ⟨loaded, frozen, built, run, honoured, kept⟩ := froze
  exact ⟨loaded, frozen, built, run, honoured,
    (deferral_transparent_iff built run honoured).mpr kept⟩

/--
A Cold read in decode takes the slot of Hot expert 0: attaching reserves the copy
of expert 0 into host slot 0, nobody is told, and the read cannot be completed.
-/
theorem attached_demotion_unreported :
    ∃ loaded staged waiting attached error,
      ExpertRegistry.unbuilt.init 1 2 1 1 false = .returned () loaded ∧
        loaded.honoursStaging 1 = true ∧
        loaded.reserveRequestByGid 1 0 4 true = .returned staged waiting ∧
        staged.demotion = none ∧
        waiting.attachVramDestination staged.operationId 4 =
          .returned 0 attached ∧
        (attached.catalog 0).gpuTransfer = .d2hPending ∧
        attached.completeRequest staged.operationId = .threw error attached ∧
        ¬ DeferralTransparent loaded 1 0 4 := by
  apply Exists.intro
  apply Exists.intro
  apply Exists.intro
  apply Exists.intro
  apply Exists.intro
  refine ⟨Eq.refl _, rfl, Eq.refl _, rfl, Eq.refl _, rfl, Eq.refl _, ?_⟩
  rintro ⟨staged, waiting, reserved, same⟩
  cases reserved
  obtain ⟨_, _, _, reported, _⟩ := same
  cases reported

end Aeon.Registry
