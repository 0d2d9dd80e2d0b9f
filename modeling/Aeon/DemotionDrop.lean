import Aeon.RegistryIssue

namespace Aeon.Registry

/-!
# Dropping a demotion that was not submitted

The supply gives up a victim's copy when it finds no pinned destination or when
the submission fails, and calls `drop_demotion`.  The registry has marked the
victim `D2H_PENDING` since the reservation, and `drop_demotion` takes that mark for
a submitted copy: it refuses every demotion that a reservation returned.
-/

open ExpertRegistry

variable
    {registry after : ExpertRegistry}
    {gid slot operationId capacity : Nat}

/-- Every pending victim of the operation is marked as copying. -/
def VictimsCopy
    (operationId : Nat)
    (registry : ExpertRegistry) : Prop :=
  ∀ gid,
    (registry.catalog gid).operationId = operationId →
      (registry.catalog gid).operation = .demotionPending →
        (registry.catalog gid).gpuTransfer = .d2hPending

theorem VictimsCopy.setEntry
    {entry : CatalogEntry}
    (copies : VictimsCopy operationId registry)
    (moves : entry.operation ≠ .demotionPending) :
    VictimsCopy operationId (registry.setEntry gid entry) := by
  intro other carries pending
  simp only [ExpertRegistry.setEntry] at carries pending ⊢
  by_cases here : other = gid
  · subst here
    rw [Function.update_self] at pending
    exact absurd pending moves
  · rw [Function.update_of_ne here] at carries pending ⊢
    exact copies other carries pending

theorem VictimsCopy.keepEntry
    {entry : CatalogEntry}
    (copies : VictimsCopy operationId registry)
    (sameId : entry.operationId = (registry.catalog gid).operationId)
    (sameOperation : entry.operation = (registry.catalog gid).operation)
    (sameTransfer : entry.gpuTransfer = (registry.catalog gid).gpuTransfer) :
    VictimsCopy operationId (registry.setEntry gid entry) := by
  intro other carries pending
  simp only [ExpertRegistry.setEntry] at carries pending ⊢
  by_cases here : other = gid
  · subst here
    rw [Function.update_self] at carries pending ⊢
    rw [sameTransfer]
    exact copies other (sameId ▸ carries) (sameOperation ▸ pending)
  · rw [Function.update_of_ne here] at carries pending ⊢
    exact copies other carries pending

/-- Only `gid` may carry the number. -/
def CarriedBy
    (gid operationId : Nat)
    (registry : ExpertRegistry) : Prop :=
  ∀ other, other ≠ gid → (registry.catalog other).operationId ≠ operationId

theorem CarriedBy.keepEntry
    {other : Nat}
    {entry : CatalogEntry}
    (carried : CarriedBy gid operationId registry)
    (sameId : other ≠ gid →
      entry.operationId = (registry.catalog other).operationId) :
    CarriedBy gid operationId (registry.setEntry other entry) := by
  intro another different
  simp only [ExpertRegistry.setEntry]
  by_cases here : another = other
  · subst here
    rw [Function.update_self, sameId different]
    exact carried another different
  · rw [Function.update_of_ne here]
    exact carried another different

theorem CarriedBy.reserveWarmDestination
    {incoming : Nat}
    (carried : CarriedBy gid operationId registry) :
    CarriedBy gid operationId
      (registry.reserveWarmDestination incoming operationId).2 := by
  unfold ExpertRegistry.reserveWarmDestination
  split
  · exact carried
  · split
    · next other _ =>
        have removed :
            CarriedBy gid operationId (registry.removeFromWarmLru other) :=
          carried.keepEntry fun _ => rfl
        exact removed.keepEntry fun _ => rfl
    · exact carried

variable {demotion : DemotionReservation}

theorem demoteVictim_copies
    {incoming : Nat}
    (carried : CarriedBy gid operationId registry)
    (reported :
      (registry.demoteVictim gid slot incoming operationId
        capacity).1.demotion = some demotion) :
    demotion.operationId = operationId ∧
      VictimsCopy operationId
        (registry.demoteVictim gid slot incoming operationId capacity).2 := by
  have attempted :
      CarriedBy gid operationId
        { registry with demotionAttempts := registry.demotionAttempts + 1 } :=
    carried
  have reserved :=
    @CarriedBy.reserveWarmDestination _ gid operationId incoming attempted
  unfold demoteVictim at reported ⊢
  split at reported
  · cases reported
  · next hasHost =>
      rw [if_neg hasHost]
      simp only at reported ⊢
      split at reported
      · cases reported
      · next room =>
          rw [if_neg room]
          split at reported
          · cases reported
          · next destination current found =>
              rw [found] at reserved
              simp only at reported ⊢
              cases reported
              refine ⟨rfl, ?_⟩
              intro other carries _
              simp only [startDemotion, ExpertRegistry.setEntry]
                at carries ⊢
              by_cases here : other = gid
              · subst here
                rw [Function.update_self]
              · rw [Function.update_of_ne here] at carries
                exact absurd carries (reserved other here)

theorem reserveVramDestination_copies
    {incoming : Nat}
    {destination : VramDestination}
    (unused : ∀ gid, (registry.catalog gid).operationId ≠ operationId)
    (reserved :
      registry.reserveVramDestination incoming operationId capacity =
        .returned destination after)
    (reported : destination.demotion = some demotion) :
    demotion.operationId = operationId ∧ VictimsCopy operationId after := by
  unfold reserveVramDestination at reserved
  split at reserved
  · cases reserved
    cases reported
  · split at reserved
    · cases reserved
    · split at reserved
      · unfold evictForPrefill at reserved
        split at reserved
        · cases reserved
          cases reported
        · split at reserved
          · cases reserved
            cases reported
          · cases reserved
      · split at reserved
        · cases reserved
        · next victim _ =>
            cases reserved
            have removed :
                CarriedBy victim operationId
                  (registry.removeFromHotLru victim) :=
              CarriedBy.keepEntry (fun other _ => unused other) fun _ => rfl
            have marked :
                CarriedBy victim operationId
                  (registry.markVictim victim
                    ((registry.catalog victim).slotIdx.getD 0)
                    operationId) :=
              removed.keepEntry fun differs => absurd rfl differs
            exact demoteVictim_copies marked reported

theorem reserveTransfer_copies
    {stageOnly : Bool}
    {reservation : RequestReservation}
    (issued : Issued registry)
    (reserved :
      registry.reserveTransfer gid capacity stageOnly =
        .returned reservation after)
    (reported : reservation.demotion = some demotion) :
    demotion.operationId = reservation.operationId ∧
      VictimsCopy reservation.operationId after := by
  have unused :
      ∀ gid, (registry.takeOperationId.catalog gid).operationId ≠
        registry.nextOperationId :=
    fun gid => Nat.ne_of_lt (issued gid)
  unfold reserveTransfer at reserved
  simp only at reserved
  split at reserved
  · split at reserved
    · split at reserved
      · obtain ⟨rfl, rfl⟩ := checkedValidate_returned _ reserved
        cases reported
      · split at reserved
        · cases reserved
        · obtain ⟨rfl, rfl⟩ := checkedValidate_returned _ reserved
          cases reported
    · split at reserved
      · cases reserved
      · next destination current found =>
          obtain ⟨rfl, rfl⟩ := checkedValidate_returned _ reserved
          obtain ⟨numbered, copies⟩ :=
            reserveVramDestination_copies unused found reported
          refine ⟨numbered, ?_⟩
          have removed :
              VictimsCopy registry.nextOperationId
                (current.removeFromWarmLru gid) :=
            copies.keepEntry rfl rfl rfl
          exact removed.setEntry (by simp)
  · split at reserved
    · obtain ⟨rfl, rfl⟩ := checkedValidate_returned _ reserved
      cases reported
    · split at reserved
      · cases reserved
      · next destination current found =>
          obtain ⟨rfl, rfl⟩ := checkedValidate_returned _ reserved
          obtain ⟨numbered, copies⟩ :=
            reserveVramDestination_copies unused found reported
          exact ⟨numbered, copies.setEntry (by simp)⟩

theorem reserveRequestByGid_copies
    {step : Nat}
    {stageOnly : Bool}
    {reservation : RequestReservation}
    (issued : Issued registry)
    (reserved :
      registry.reserveRequestByGid gid step capacity stageOnly =
        .returned reservation after)
    (reported : reservation.demotion = some demotion) :
    demotion.operationId = reservation.operationId ∧
      VictimsCopy reservation.operationId after := by
  have active : Issued (registry.recordActivation gid step) :=
    issued.keeps (Frame.refl 0 registry).recordActivation
  unfold reserveRequestByGid at reserved
  split at reserved
  · cases reserved
  · simp only at reserved
    split at reserved
    · split at reserved
      · cases reserved
      · cases reserved
        cases reported
    · split at reserved
      · cases reserved
        cases reported
      · split at reserved
        · cases reserved
          cases reported
        · exact reserveTransfer_copies active reserved reported

theorem VictimsCopy.dropDemotion_threw
    (copies : VictimsCopy operationId registry) :
    ∃ error, registry.dropDemotion operationId = .threw error registry := by
  unfold dropDemotion
  split
  · exact ⟨_, rfl⟩
  · next victim found =>
      have carries := List.find?_some found
      simp only [Bool.and_eq_true, beq_iff_eq] at carries
      rw [if_pos (copies victim carries.1 carries.2)]
      exact ⟨_, rfl⟩

/--
What a drop of an unsubmitted demotion is for: it returns, the host slot goes back
to the Warm free list, the demotion is no longer pending, and the request can then
complete or fail with its victim Cold.
-/
def DropsCleanly
    (registry : ExpertRegistry)
    (incoming : Nat)
    (demotion : DemotionReservation) : Prop :=
  ∃ dropped,
    registry.dropDemotion demotion.operationId = .returned () dropped ∧
      demotion.destinationHostSlot ∈ dropped.freeHostSlots ∧
      dropped.pendingDemotionCount + 1 = registry.pendingDemotionCount ∧
      (∃ completed,
        dropped.completeRequest demotion.operationId =
            .returned () completed ∧
          (completed.catalog demotion.victimGid).owner = .coldNvme ∧
          completed.vramSlots demotion.sourceVramSlot = some incoming) ∧
      ∃ failed,
        dropped.failRequest demotion.operationId = .returned () failed ∧
          (failed.catalog demotion.victimGid).owner = .coldNvme ∧
          demotion.sourceVramSlot ∈ failed.freeVramSlots

/--
In every run, no demotion that a reservation returned can be dropped: the call
throws and changes nothing.
-/
theorem reserved_demotion_not_dropped
    {unbuilt loaded registry after : ExpertRegistry}
    {layers expertsLayer vramCap hostCap gid step capacity : Nat}
    {preloadWarmHost stageOnly : Bool}
    {operations : List RegistryOperation}
    {reservation : RequestReservation}
    {demotion : DemotionReservation}
    (built :
      unbuilt.init layers expertsLayer vramCap hostCap preloadWarmHost =
        .returned () loaded)
    (run : Run Performs loaded operations registry)
    (reserved :
      registry.reserveRequestByGid gid step capacity stageOnly =
        .returned reservation after)
    (reported : reservation.demotion = some demotion) :
    (∃ error,
      after.dropDemotion reservation.operationId = .threw error after) ∧
      ¬ DropsCleanly after gid demotion := by
  have issued : Issued registry :=
    run.invariant Issued Issued.performs (Issued.init built)
  obtain ⟨sameId, copies⟩ :=
    reserveRequestByGid_copies issued reserved reported
  obtain ⟨error, refused⟩ := copies.dropDemotion_threw
  refine ⟨⟨error, refused⟩, ?_⟩
  rintro ⟨dropped, returned, _⟩
  rw [sameId, refused] at returned
  cases returned

/-- A Cold miss takes expert 0's VRAM slot, and its demotion cannot be dropped. -/
theorem cold_miss_demotion_not_dropped :
    ∃ loaded reservation demotion after error,
      ExpertRegistry.unbuilt.init 1 2 1 1 false = .returned () loaded ∧
        loaded.reserveRequestByGid 1 0 4 false =
          .returned reservation after ∧
        reservation.demotion = some demotion ∧
        after.dropDemotion reservation.operationId = .threw error after ∧
        ¬ DropsCleanly after 1 demotion := by
  have missed :
      ∃ loaded reservation demotion after,
        ExpertRegistry.unbuilt.init 1 2 1 1 false = .returned () loaded ∧
          loaded.reserveRequestByGid 1 0 4 false =
            .returned reservation after ∧
          reservation.demotion = some demotion := by
    apply Exists.intro
    apply Exists.intro
    apply Exists.intro
    apply Exists.intro
    exact ⟨Eq.refl _, Eq.refl _, Eq.refl _⟩
  obtain ⟨loaded, reservation, demotion, after, built, reserved, reported⟩ :=
    missed
  obtain ⟨⟨error, refused⟩, notDropped⟩ :=
    reserved_demotion_not_dropped built (.nil loaded) reserved reported
  exact ⟨loaded, reservation, demotion, after, error, built, reserved,
    reported, refused, notDropped⟩

/-- The same demotion, whose copy nobody submitted, is taken for a submitted one. -/
theorem unsubmitted_demotion_refused :
    ∃ loaded reservation demotion after,
      ExpertRegistry.unbuilt.init 1 2 1 1 false = .returned () loaded ∧
        loaded.reserveRequestByGid 1 0 4 false =
          .returned reservation after ∧
        reservation.demotion = some demotion ∧
        demotion = ⟨1, 0, 0, 0⟩ ∧
        after.dropDemotion 1 =
          .threw (.logicError
            "ExpertRegistry: submitted D2H cannot be dropped") after ∧
        ¬ DropsCleanly after 1 demotion := by
  apply Exists.intro
  apply Exists.intro
  apply Exists.intro
  apply Exists.intro
  refine ⟨Eq.refl _, Eq.refl _, Eq.refl _, rfl, rfl, ?_⟩
  rintro ⟨dropped, returned, _⟩
  cases returned

end Aeon.Registry
