import Aeon.RegistryModeSwitches
import Aeon.RegistryNumbering

namespace Aeon.Registry

/-!
# Issued operation numbers

Every catalog entry carries the number of the last operation that touched it, and
every number was issued before.  This holds in every run, whatever modes it goes
through, so a transfer that starts is known by a number nobody else carries.
-/

open ExpertRegistry

/-- Every entry's operation number was issued. -/
def Issued (registry : ExpertRegistry) : Prop :=
  ∀ gid, (registry.catalog gid).operationId < registry.nextOperationId

namespace Issued

variable
    {registry : ExpertRegistry}
    {gid operationId capacity : Nat}

section

variable
    (issued : Issued registry)

include issued

theorem frame
    {number : Nat}
    {taken : Option Nat}
    {after : ExpertRegistry}
    (known : number < registry.nextOperationId)
    (frame : Frame number taken registry after) :
    Issued after := by
  intro gid
  rw [frame.nextOperationId]
  rcases frame.numbers gid with kept | cleared | moved
  · rw [kept]
    exact issued gid
  · rw [cleared]
    exact Nat.zero_lt_of_lt known
  · rw [moved]
    exact known

/-- A call that works for no number at all. -/
theorem keeps
    {taken : Option Nat}
    {after : ExpertRegistry}
    (frame : Frame 0 taken registry after) :
    Issued after :=
  issued.frame (Nat.zero_lt_of_lt (issued 0)) frame

/-- A pending operation is known by an issued number. -/
theorem of_incoming
    (found : registry.findIncomingOperation operationId = some gid) :
    operationId < registry.nextOperationId := by
  have carries := List.find?_some found
  simp only [Bool.and_eq_true, beq_iff_eq] at carries
  rw [← carries.1]
  exact issued gid

/-- A transfer that starts carries the number it takes. -/
theorem reserveRequestByGid
    {step : Nat}
    {stageOnly : Bool} :
    Issued (registry.reserveRequestByGid gid step capacity
      stageOnly).registry := by
  obtain ⟨taken, frame⟩ | ⟨taken, frame⟩ :=
    @Frame.reserveRequestByGid gid capacity registry step stageOnly
  · exact issued.keeps frame
  · have numbered : Issued registry.takeOperationId :=
      fun other => Nat.lt_succ_of_lt (issued other)
    exact numbered.frame (Nat.lt_succ_self _) frame

theorem attachVramDestination :
    Issued (registry.attachVramDestination operationId capacity).registry := by
  cases found : registry.findIncomingOperation operationId with
  | none =>
    rw [ExpertRegistry.attachVramDestination, found]
    exact issued
  | some gid =>
    exact issued.frame (issued.of_incoming found)
      (Frame.refl operationId registry).attachVramDestination

theorem releaseLease :
    Issued (registry.releaseLease gid).registry := by
  unfold ExpertRegistry.releaseLease
  split
  · exact issued
  · intro other
    simp only [Outcome.registry, setEntry]
    by_cases here : other = gid
    · subst here
      rw [Function.update_self]
      exact issued other
    · rw [Function.update_of_ne here]
      exact issued other

theorem beginPrefillStream
    {drainSlots : Nat}
    {alloc : PrefillAlloc} :
    Issued (registry.beginPrefillStream drainSlots alloc).registry := by
  unfold ExpertRegistry.beginPrefillStream
  split
  · exact issued
  · split
    · exact issued
    · rw [validated_registry]
      have marked : Issued registry.markResidents := issued
      have drained :
          Issued (ExpertRegistry.drainWorst registry.markResidents
            (min drainSlots registry.hotVramLru.length)) :=
        marked.keeps (Frame.refl 0 registry.markResidents).drainWorst
      exact drained

theorem endPrefillStream :
    Issued registry.endPrefillStream.registry := by
  unfold ExpertRegistry.endPrefillStream
  split
  · exact issued
  · split
    · exact issued
    · rw [validated_registry]
      exact issued

theorem setWarmFrozen
    {frozen : Bool} :
    Issued (registry.setWarmFrozen frozen).registry := by
  have thawed : Issued { registry with warmFrozen := frozen } := issued
  unfold ExpertRegistry.setWarmFrozen
  split
  · exact issued
  · split
    · exact issued
    · simp only
      rw [validated_registry]
      split
      · exact issued
      · exact thawed.keeps (Frame.refl 0 _).releaseShadowResidencies

end

/-! ## Runs -/

theorem performs
    {operation : RegistryOperation}
    {after : ExpertRegistry}
    (issued : Issued registry)
    (taken : Performs registry operation after) :
    Issued after := by
  unfold Performs at taken
  subst taken
  have frame := Frame.refl 0 registry
  cases operation with
  | reserveRequestByGid =>
    simp only [RegistryOperation.perform, Outcome.discard_registry]
    exact issued.reserveRequestByGid
  | attachVramDestination =>
    simp only [RegistryOperation.perform, Outcome.discard_registry]
    exact issued.attachVramDestination
  | completeRequest => exact issued.keeps frame.completeRequest
  | failRequest => exact issued.keeps frame.failRequest
  | completeDemotion => exact issued.keeps frame.completeDemotion
  | dropDemotion => exact issued.keeps frame.dropDemotion
  | failDemotion => exact issued.keeps frame.failDemotion
  | releaseLease => exact issued.releaseLease
  | beginPrefillStream => exact issued.beginPrefillStream
  | endPrefillStream => exact issued.endPrefillStream
  | setWarmFrozen => exact issued.setWarmFrozen
  | releaseLayer => exact issued.keeps frame.releaseLayer
  | growHostCapacity => exact issued.keeps frame.growHostCapacity
  | shrinkHostCapacity => exact issued.keeps frame.shrinkHostCapacity
  | releaseHostTail =>
    simp only [RegistryOperation.perform, Outcome.discard_registry]
    exact issued.keeps frame.releaseHostTail
  | setValidateEachRequest => exact issued
  | resetCounters => exact issued

theorem init
    {unbuilt loaded : ExpertRegistry}
    {layers expertsLayer vramCap hostCap : Nat}
    {preloadWarmHost : Bool}
    (built :
      unbuilt.init layers expertsLayer vramCap hostCap preloadWarmHost =
        .returned () loaded) :
    Issued loaded := by
  unfold ExpertRegistry.init at built
  split at built
  · cases built
  · have fresh :
        Issued (unbuilt.cleared layers expertsLayer vramCap hostCap) :=
      fun _ => Nat.zero_lt_one
    have audited := congrArg Outcome.registry built
    simp only [validated_registry] at audited
    rw [← show _ = loaded from audited]
    exact fresh.keeps (Frame.refl 0 _).populateRoundRobin

end Issued

end Aeon.Registry
