import Aeon.RegistryFrames

namespace Aeon.Registry

/-!
# Operation numbers

The registry numbers its operations.  Only the reservation of a transfer takes a
number, and it takes the next one; every other call leaves the counter alone.
-/

/-- Whether a reservation of this kind starts a transfer of its own. -/
def ExpertRequestKind.starts : ExpertRequestKind → Bool
  | .hotHit => false
  | .pending => false
  | _ => true

/--
What a reservation does to the counter: a transfer that starts takes the next
number, and nothing else moves it back.
-/
structure Numbered
    (registry : ExpertRegistry)
    (outcome : Outcome RequestReservation) : Prop where
  grows : registry.nextOperationId ≤ outcome.registry.nextOperationId
  takes :
    ∀ request after,
      outcome = .returned request after →
        request.kind.starts →
          request.operationId = registry.nextOperationId ∧
            registry.nextOperationId < after.nextOperationId

namespace ExpertRegistry

variable
    (registry : ExpertRegistry)
    (gid capacity : Nat)

theorem releaseLease_nextOperationId :
    (registry.releaseLease gid).registry.nextOperationId =
      registry.nextOperationId := by
  unfold releaseLease
  split <;> rfl

/-! ## Reservations -/

theorem Numbered.checkedValidate
    {registry audited : ExpertRegistry}
    {request : RequestReservation}
    (counted : audited.nextOperationId = registry.nextOperationId + 1)
    (number : request.operationId = registry.nextOperationId) :
    Numbered registry (audited.checkedValidate request) := by
  constructor
  · rw [checkedValidate_registry, counted]
    omega
  · intro result after returned _
    obtain ⟨rfl, rfl⟩ := audited.checkedValidate_returned returned
    exact ⟨number, by omega⟩

theorem threw_ne_returned
    {Value : Type}
    {error : RegistryError}
    {value : Value}
    {left after : ExpertRegistry} :
    Outcome.threw error left ≠ .returned value after := by
  intro same
  cases same

/-- A reservation that threw only has to keep the counter. -/
theorem Numbered.threw
    {registry after : ExpertRegistry}
    {error : RegistryError}
    (grows : registry.nextOperationId ≤ after.nextOperationId) :
    Numbered registry (.threw error after) :=
  ⟨grows, fun _ _ returned => absurd returned threw_ne_returned⟩

theorem reserveTransfer_numbered
    (stageOnly : Bool) :
    Numbered registry (registry.reserveTransfer gid capacity stageOnly) := by
  have reserved :
      (registry.takeOperationId.reserveVramDestination gid registry.nextOperationId
        capacity).registry.nextOperationId = registry.nextOperationId + 1 :=
    (Frame.refl _ registry.takeOperationId).reserveVramDestination.nextOperationId
  unfold reserveTransfer
  simp only
  split
  · split
    · split
      · exact Numbered.checkedValidate rfl rfl
      · split
        next found =>
          rw [found] at reserved
          exact Numbered.threw (by simp at reserved; omega)
        next found =>
          rw [found] at reserved
          exact Numbered.checkedValidate reserved rfl
    · split
      next found =>
        rw [found] at reserved
        exact Numbered.threw (by simp at reserved; omega)
      next found =>
        rw [found] at reserved
        exact Numbered.checkedValidate reserved rfl
  · split
    · exact Numbered.checkedValidate rfl rfl
    · split
      next found =>
        rw [found] at reserved
        exact Numbered.threw (by simp at reserved; omega)
      next found =>
        rw [found] at reserved
        exact Numbered.checkedValidate reserved rfl

theorem Numbered.joined
    {registry after : ExpertRegistry}
    {request : RequestReservation}
    (same : after.nextOperationId = registry.nextOperationId)
    (joins : request.kind.starts = false) :
    Numbered registry (.returned request after) := by
  refine ⟨Nat.le_of_eq same.symm, ?_⟩
  rintro result last returned started
  cases returned
  rw [joins] at started
  contradiction

theorem reserveRequestByGid_numbered
    (step : Nat)
    (stageOnly : Bool) :
    Numbered registry
      (registry.reserveRequestByGid gid step capacity stageOnly) := by
  unfold reserveRequestByGid
  split
  · exact Numbered.threw (Nat.le_refl _)
  · simp only
    split
    · split
      · exact Numbered.threw (Nat.le_refl _)
      · exact Numbered.joined rfl rfl
    · split
      · refine Numbered.joined ?_ rfl
        simp only [acquireLease, touchHotLru, pushHotLruFront,
          removeFromHotLru, recordActivation, setEntry]
      · split
        · refine Numbered.joined ?_ rfl
          simp only [acquireLease, shadowTouch, recordActivation, setEntry]
        · have transfer :=
            (registry.recordActivation gid step).reserveTransfer_numbered
              gid capacity stageOnly
          exact ⟨transfer.grows, transfer.takes⟩

end ExpertRegistry

end Aeon.Registry
