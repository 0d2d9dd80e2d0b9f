import Aeon.PrefillPreservation
import Aeon.RegistrySlotConservation

namespace Aeon.Registry

/-!
# A whole prefill pass

From the entry at a phase boundary, through any calls of a pass, to the exit.
Decode resumes on the residents the entry spared, in their slots, and on the whole
Warm map; Warm's recency order is another matter, because every shadow copy moves
its expert to the front when it ends.
-/

open ExpertRegistry

variable
    {registry begun : ExpertRegistry}
    {gid : Nat}

/-! ## The calls of a pass -/

/-- The registry after a sequence of operations, however each of them ends. -/
def performAll
    (registry : ExpertRegistry)
    (operations : List RegistryOperation) : ExpertRegistry :=
  operations.foldl (fun current operation =>
    (operation.perform current).registry) registry

/-- The experts whose shadow copies the operations end, in the order they end. -/
def settledOrder
    (registry : ExpertRegistry) :
    List RegistryOperation → List Nat
  | [] => []
  | operation :: rest =>
    (operation.settles registry).toList ++
      settledOrder (operation.perform registry).registry rest

/--
The registry inside a pass that has settled `done` so far: Warm's list shows the
ranking at entry, with the settled experts moved to its front and those still being
copied left out.
-/
structure Passing
    (begun now : ExpertRegistry)
    (done : List Nat) : Prop where
  accounted : Accounted now
  streaming : now.prefillStream = true
  kept : Kept begun now
  ranking :
    now.warmHostLru =
      (moveAllToFront begun.warmHostLru done).filter fun gid =>
        !(now.catalog gid).warmShadow
  known : ∀ gid ∈ done, gid < begun.totalExperts

/-- An expert whose copy a call ends is in the catalog. -/
theorem settles_inside
    {operation : RegistryOperation}
    (settles : operation.settles registry = some gid) :
    gid < registry.totalExperts := by
  have found :
      ∃ operationId,
        registry.findIncomingOperation operationId = some gid := by
    cases operation with
    | completeRequest operationId =>
      exact ⟨operationId, (Option.filter_eq_some_iff.mp settles).1⟩
    | failRequest operationId =>
      exact ⟨operationId, (Option.filter_eq_some_iff.mp settles).1⟩
    | _ => contradiction
  obtain ⟨operationId, found⟩ := found
  exact List.mem_range.mp (List.mem_of_find?_eq_some found)

variable {done : List Nat}
variable {drainSlots : Nat}

theorem Passing.next
    {operation : RegistryOperation}
    (passing : Passing begun registry done)
    (unique : begun.warmHostLru.Nodup)
    (inPass : operation.inPass = true) :
    Passing begun (operation.perform registry).registry
      (done ++ (operation.settles registry).toList) := by
  have sheltered : Sheltered registry operation := by
    cases operation <;> trivial
  have accounted :=
    performs_accounted passing.accounted ⟨sheltered, rfl⟩
  obtain ⟨stranded, place, accounts⟩ := passing.accounted
  have step := pass_step accounts passing.streaming inPass
  have sameSettings := step.kept.settings
  simp only [settings, Prod.mk.injEq] at sameSettings
  have passedSettings := passing.kept.settings
  simp only [settings, Prod.mk.injEq] at passedSettings
  refine ⟨accounted, sameSettings.2.2.1.trans passing.streaming,
    passing.kept.trans step.kept, ?_, ?_⟩
  case refine_2 =>
    intro gid present
    rw [List.mem_append, Option.mem_toList] at present
    rcases present with earlier | now
    · exact passing.known gid earlier
    · rw [← passedSettings.1.2.2.1]
      exact settles_inside now
  have uniqueNow : (moveAllToFront begun.warmHostLru done).Nodup :=
    moveAllToFront_nodup unique
  have ranking := passing.ranking
  generalize operation.settles registry = settled at *
  cases step.reranks with
  | same rankingKept copying =>
    rw [Option.toList_none, List.append_nil, rankingKept, ranking]
    simp only [copying]
  | leaves gid rankingLost copying =>
    rw [Option.toList_none, List.append_nil, rankingLost, ranking]
    exact (filter_hide uniqueNow copying).symm
  | settles gid wasCopying rankingGained copying =>
    rw [Option.toList_some, moveAllToFront_concat, rankingGained, ranking]
    exact (filter_return uniqueNow wasCopying copying).symm

theorem Passing.performAll
    {operations : List RegistryOperation}
    (passing : Passing begun registry done)
    (unique : begun.warmHostLru.Nodup)
    (inPass : ∀ operation ∈ operations, operation.inPass = true) :
    Passing begun (performAll registry operations)
      (done ++ settledOrder registry operations) := by
  induction operations generalizing registry done with
  | nil =>
    rw [settledOrder, List.append_nil]
    exact passing
  | cons operation rest step =>
    have next := passing.next unique (inPass operation List.mem_cons_self)
    have last :=
      step next fun later present =>
        inPass later (List.mem_cons_of_mem operation present)
    rw [List.append_assoc] at last
    exact last

/-! ## The entry -/

/-- An entry of the catalog after its resident was drained. -/
def drainedEntry (entry : CatalogEntry) : CatalogEntry :=
  { entry with
    inLru := false
    residentAtPrefillBegin := false
    owner := .coldNvme
    slotIdx := none
    slotState := .unallocated }

theorem drainWorst_spec
    (count : Nat)
    (unique : registry.hotVramLru.Nodup) :
    (drainWorst registry count).settings = registry.settings ∧
      (drainWorst registry count).warmHostLru = registry.warmHostLru ∧
      (drainWorst registry count).demotionAttempts =
        registry.demotionAttempts ∧
      ∀ gid, (drainWorst registry count).catalog gid =
        if gid ∈ registry.hotVramLru.drop
            (registry.hotVramLru.length - count) then
          drainedEntry (registry.catalog gid)
        else
          registry.catalog gid := by
  induction count generalizing registry with
  | zero => simp [drainWorst]
  | succ remaining step =>
    unfold drainWorst
    split
    next empty =>
      have isEmpty := List.getLast?_eq_none_iff.mp empty
      simp [isEmpty]
    next gid last =>
      obtain ⟨front, shape⟩ := List.getLast?_eq_some_iff.mp last
      rw [shape, List.nodup_append] at unique
      have popped : (registry.drainHot gid).hotVramLru = front := by
        unfold drainHot
        cases slotEq : (registry.catalog gid).slotIdx <;>
          simp [setEntry, setVramSlot, pushFreeVram, shape]
      have emptied :
          (registry.drainHot gid).catalog =
            Function.update registry.catalog gid
              (drainedEntry (registry.catalog gid)) := by
        unfold drainHot
        cases slotEq : (registry.catalog gid).slotIdx <;>
          simp only [setEntry, setVramSlot, pushFreeVram, drainedEntry]
      obtain ⟨sameSettings, sameWarm, sameAttempts, entries⟩ :=
        @step (registry.drainHot gid) (by rw [popped]; exact unique.1)
      refine ⟨?_, ?_, ?_, ?_⟩
      · rw [sameSettings]
        unfold drainHot
        cases slotEq : (registry.catalog gid).slotIdx <;> rfl
      · rw [sameWarm]
        unfold drainHot
        cases slotEq : (registry.catalog gid).slotIdx <;> rfl
      · rw [sameAttempts]
        unfold drainHot
        cases slotEq : (registry.catalog gid).slotIdx <;> rfl
      · intro other
        rw [entries, popped, emptied, shape]
        have dropEq :
            (front ++ [gid]).drop
                ((front ++ [gid]).length - (remaining + 1)) =
              front.drop (front.length - remaining) ++ [gid] := by
          rw [List.length_append, List.length_singleton,
            Nat.add_sub_add_right,
            List.drop_append_of_le_length (by omega)]
        rw [dropEq]
        by_cases same : other = gid
        · subst same
          have absent :
              other ∉ front.drop (front.length - remaining) := by
            intro present
            exact unique.2.2 other (List.mem_of_mem_drop present) other
              (by simp) rfl
          simp [absent]
        · simp [same]

/-- Nothing is leased, nothing moves and nobody has two copies, outside a prefill. -/
structure AtBoundary (registry : ExpertRegistry) : Prop where
  decoding : registry.prefillStream = false
  unleased : ∀ gid < registry.totalExperts,
    (registry.catalog gid).leaseCount = 0
  idle : ∀ gid < registry.totalExperts,
    (registry.catalog gid).operation = .idle
  unshadowed : ∀ gid < registry.totalExperts,
    (registry.catalog gid).shadowVramSlot = none

/-- The least recently used Hot residents, which the entry drains. -/
def drained
    (registry : ExpertRegistry)
    (drainSlots : Nat) : List Nat :=
  registry.hotVramLru.drop
    (registry.hotVramLru.length - min drainSlots registry.hotVramLru.length)

/-- Hot at the entry and not drained by it. -/
def Preserved
    (registry : ExpertRegistry)
    (drainSlots gid : Nat) : Prop :=
  gid < registry.totalExperts ∧ (registry.catalog gid).owner = .hotVram ∧
    gid ∉ drained registry drainSlots

/-- The registry right after an entry, against the boundary it came from. -/
structure Entered
    (boundary begun : ExpertRegistry)
    (drainSlots : Nat) : Prop where
  passing : Passing begun begun []
  total : begun.totalExperts = boundary.totalExperts
  capacity : begun.vramCapacity = boundary.vramCapacity
  attempts : begun.demotionAttempts = boundary.demotionAttempts
  ranking : begun.warmHostLru = boundary.warmHostLru
  unique : boundary.warmHostLru.Nodup
  ranked : ∀ gid ∈ boundary.warmHostLru, gid < boundary.totalExperts
  marked :
    ∀ gid < boundary.totalExperts,
      (begun.catalog gid).residentAtPrefillBegin = true ↔
        Preserved boundary drainSlots gid
  spared :
    ∀ gid, Preserved boundary drainSlots gid →
      (begun.catalog gid).owner = .hotVram ∧
        (begun.catalog gid).slotIdx = (boundary.catalog gid).slotIdx
  warmOwner :
    ∀ gid < boundary.totalExperts,
      (begun.catalog gid).owner = .warmHost ↔
        (boundary.catalog gid).owner = .warmHost
  warmSlot :
    ∀ gid < boundary.totalExperts,
      (boundary.catalog gid).owner = .warmHost →
        (begun.catalog gid).slotIdx = (boundary.catalog gid).slotIdx

theorem beginPrefillStream_entered
    {boundary : ExpertRegistry}
    {alloc : PrefillAlloc}
    (accounted : Accounted boundary)
    (atBoundary : AtBoundary boundary)
    (entered :
      boundary.beginPrefillStream drainSlots alloc = .returned () begun) :
    Entered boundary begun drainSlots := by
  have accountedBegun : Accounted begun := by
    have taken :
        Guarded Performs Sheltered boundary
          (.beginPrefillStream drainSlots alloc) begun :=
      ⟨fun _ _ => atBoundary.unshadowed, congrArg Outcome.registry entered⟩
    exact performs_accounted accounted taken
  obtain ⟨stranded, place, accounts⟩ := accounted
  have begunEq := congrArg Outcome.registry entered
  have notStreaming : ¬ boundary.prefillStream = true := by
    simp [atBoundary.decoding]
  unfold beginPrefillStream at begunEq
  rw [if_neg notStreaming] at begunEq
  split at begunEq
  next blocked =>
    simp [beginPrefillStream, notStreaming, blocked] at entered
  next clear =>
    simp only [validated_registry] at begunEq
    simp only [Outcome.registry] at begunEq
    obtain ⟨sameSettings, sameWarm, sameAttempts, entries⟩ :=
      @drainWorst_spec boundary.markResidents
        (min drainSlots boundary.hotVramLru.length)
        accounts.ranks.hot.nodup
    have drainedEq :
        boundary.markResidents.hotVramLru.drop
            (boundary.markResidents.hotVramLru.length -
              min drainSlots boundary.hotVramLru.length) =
          drained boundary drainSlots := rfl
    rw [drainedEq] at entries
    have entry :
        ∀ gid, begun.catalog gid =
          if gid ∈ drained boundary drainSlots then
            drainedEntry (boundary.markResidents.catalog gid)
          else
            boundary.markResidents.catalog gid := by
      intro gid
      rw [← begunEq]
      exact entries gid
    have drainedHot :
        ∀ gid ∈ drained boundary drainSlots,
          (boundary.catalog gid).owner = .hotVram := by
      intro gid present
      obtain ⟨inside, slot, hot, _⟩ :=
        accounts.hot_of_ranked (List.mem_of_mem_drop present)
      rw [(accounts.catalog.fits gid inside).owner, hot]
      rfl
    have sizes :
        begun.totalExperts = boundary.totalExperts ∧
          begun.vramCapacity = boundary.vramCapacity := by
      simp only [settings, Prod.mk.injEq] at sameSettings
      rw [← begunEq]
      exact ⟨sameSettings.1.2.2.1, sameSettings.1.2.2.2.1⟩
    have notCopying :
        ∀ gid, (begun.catalog gid).warmShadow = false := by
      intro gid
      rw [entry]
      split <;> rfl
    constructor
    case passing =>
      refine ⟨accountedBegun, ?_, .refl, ?_, by simp⟩
      · rw [← begunEq]
      · simp [notCopying]
    case total => exact sizes.1
    case capacity => exact sizes.2
    case attempts =>
      rw [← begunEq]
      exact sameAttempts
    case ranking =>
      rw [← begunEq]
      exact sameWarm
    case unique => exact accounts.ranks.warm.nodup
    case ranked =>
      intro gid present
      exact ((accounts.ranks.warm.mem_iff gid).mp present).1
    case marked =>
      intro gid inside
      rw [entry]
      by_cases isDrained : gid ∈ drained boundary drainSlots
      · simp [isDrained, drainedEntry, Preserved]
      · simp [isDrained, markResidents, Preserved, inside]
    case spared =>
      rintro gid ⟨inside, isHot, notDrained⟩
      rw [entry, if_neg notDrained]
      exact ⟨isHot, rfl⟩
    case warmOwner =>
      intro gid inside
      rw [entry]
      by_cases isDrained : gid ∈ drained boundary drainSlots
      · simp [isDrained, drainedEntry, drainedHot gid isDrained]
      · simp [isDrained, markResidents]
    case warmSlot =>
      intro gid inside isWarm
      have notDrained : gid ∉ drained boundary drainSlots := by
        intro isDrained
        rw [drainedHot gid isDrained] at isWarm
        contradiction
      rw [entry, if_neg notDrained]
      rfl

/-! ## The exit -/

theorem exitViolation_clear
    (clear : registry.exitViolation = none)
    (inside : gid < registry.totalExperts) :
    ((registry.catalog gid).owner = .hotVram →
        (registry.catalog gid).residentAtPrefillBegin = true) ∧
      (registry.catalog gid).shadowVramSlot = none ∧
      (registry.catalog gid).operation = .idle := by
  unfold exitViolation at clear
  rw [List.findSome?_eq_none_iff] at clear
  have checked := clear gid (List.mem_range.mpr inside)
  simp only at checked
  split at checked
  · contradiction
  next marked =>
    split at checked
    · contradiction
    next unshadowed =>
      split at checked
      · contradiction
      · split at checked
        · contradiction
        next idle =>
          refine ⟨?_, by simpa using unshadowed, not_not.mp idle⟩
          intro isHot
          simpa [isHot] using marked

/-- A successful exit from a prefill. -/
structure Left
    (last ended : ExpertRegistry) : Prop where
  accounted : Accounted ended
  clear : last.exitViolation = none
  total : ended.totalExperts = last.totalExperts
  capacity : ended.vramCapacity = last.vramCapacity
  attempts : ended.demotionAttempts = last.demotionAttempts
  ranking : ended.warmHostLru = last.warmHostLru
  entry :
    ∀ gid, ended.catalog gid =
      { last.catalog gid with residentAtPrefillBegin := false }

theorem endPrefillStream_left
    {last ended : ExpertRegistry}
    (accounted : Accounted last)
    (streaming : last.prefillStream = true)
    (left : last.endPrefillStream = .returned () ended) :
    Left last ended := by
  have accountedEnded : Accounted ended := by
    have taken :
        Guarded Performs Sheltered last .endPrefillStream ended :=
      ⟨trivial, congrArg Outcome.registry left⟩
    exact performs_accounted accounted taken
  have endedEq := congrArg Outcome.registry left
  have isStreaming : ¬ (!last.prefillStream) = true := by
    simp [streaming]
  unfold endPrefillStream at endedEq
  rw [if_neg isStreaming] at endedEq
  split at endedEq
  next error blocked =>
    unfold endPrefillStream at left
    rw [if_neg isStreaming, blocked] at left
    contradiction
  next clear =>
    simp only [validated_registry] at endedEq
    simp only [Outcome.registry] at endedEq
    subst endedEq
    exact ⟨accountedEnded, clear, rfl, rfl, rfl, rfl, fun _ => rfl⟩

theorem Accounted.free_iff
    (accounted : Accounted registry)
    (idle : ∀ gid < registry.totalExperts,
      (registry.catalog gid).operation = .idle)
    (unshadowed : ∀ gid < registry.totalExperts,
      (registry.catalog gid).shadowVramSlot = none)
    {slot : Nat}
    (bound : slot < registry.vramCapacity) :
    slot ∈ registry.freeVramSlots ↔
      ∀ gid < registry.totalExperts,
        (registry.catalog gid).owner = .hotVram →
          (registry.catalog gid).slotIdx ≠ some slot := by
  obtain ⟨stranded, place, accounts⟩ := accounted
  rw [accounts.vram.free.mem_iff]
  constructor
  · rintro ⟨_, empty, _⟩ gid inside isHot slotEq
    have held :=
      accounts.holdsVram_iff.mp ⟨inside, Or.inl ⟨isHot, slotEq⟩⟩
    rw [empty] at held
    contradiction
  · intro unheld
    have empty : registry.vramSlots slot = none := by
      cases held : registry.vramSlots slot with
      | none => rfl
      | some gid =>
        obtain ⟨inside, hot | shadow⟩ := accounts.holdsVram_iff.mpr held
        · exact absurd hot.2 (unheld gid inside hot.1)
        · rw [unshadowed gid inside] at shadow
          contradiction
    refine ⟨bound, empty, ?_⟩
    by_contra isReserved
    obtain ⟨_, ⟨gid, inside, claims⟩ | dangles⟩ :=
      accounts.vram.claimant slot isReserved
    · have fit := (accounts.catalog.fits gid inside).operation
      rw [idle gid inside] at fit
      have unclaimed := (Residency.vramClaim_of_idle fit.symm).1
      rw [unclaimed] at claims
      contradiction
    · contradiction

/-! ## The pass -/

/-- Decode's residents after a pass, against those at its entry. -/
structure PassPreserves
    (boundary ended : ExpertRegistry)
    (drainSlots : Nat) : Prop where
  hot :
    ∀ gid < boundary.totalExperts,
      (ended.catalog gid).owner = .hotVram ↔
        Preserved boundary drainSlots gid
  hotSlot :
    ∀ gid, Preserved boundary drainSlots gid →
      (ended.catalog gid).slotIdx = (boundary.catalog gid).slotIdx
  warm :
    ∀ gid < boundary.totalExperts,
      (ended.catalog gid).owner = .warmHost ↔
        (boundary.catalog gid).owner = .warmHost
  warmSlot :
    ∀ gid < boundary.totalExperts,
      (boundary.catalog gid).owner = .warmHost →
        (ended.catalog gid).slotIdx = (boundary.catalog gid).slotIdx
  free :
    ∀ slot < boundary.vramCapacity,
      slot ∈ ended.freeVramSlots ↔
        ∀ gid, Preserved boundary drainSlots gid →
          (boundary.catalog gid).slotIdx ≠ some slot
  unshadowed :
    ∀ gid < boundary.totalExperts,
      (ended.catalog gid).shadowVramSlot = none
  undemoted : ended.demotionAttempts = boundary.demotionAttempts

/-- A preserved resident is Hot, in the slot it had, and the slot is its own. -/
def StillHot
    (boundary now : ExpertRegistry)
    (gid : Nat) : Prop :=
  (now.catalog gid).owner = .hotVram ∧
    (now.catalog gid).slotIdx = (boundary.catalog gid).slotIdx ∧
      ∃ slot, (now.catalog gid).slotIdx = some slot ∧
        now.vramSlots slot = some gid

/-- Inside the pass no preserved resident is evicted. -/
theorem Passing.stillHot
    {boundary : ExpertRegistry}
    (entered : Entered boundary begun drainSlots)
    (passing : Passing begun registry done)
    (preserved : Preserved boundary drainSlots gid) :
    StillHot boundary registry gid := by
  have kept := passing.kept.entries gid
  have mark := (entered.marked gid preserved.1).mpr preserved
  obtain ⟨ownerBegun, slotBegun⟩ := entered.spared gid preserved
  obtain ⟨owner, slotIdx⟩ := kept.spared mark
  rw [ownerBegun] at owner
  rw [slotBegun] at slotIdx
  refine ⟨owner, slotIdx, ?_⟩
  obtain ⟨stranded, place, accounts⟩ := passing.accounted
  have sameSettings := passing.kept.settings
  simp only [settings, Prod.mk.injEq] at sameSettings
  have inside : gid < registry.totalExperts := by
    rw [sameSettings.1.2.2.1, entered.total]
    exact preserved.1
  have isHot := (accounts.marks.marked gid inside (kept.mark.trans mark)).2
  have fit := accounts.catalog.fits gid inside
  cases here : place gid with
  | hot slot =>
    refine ⟨slot, ?_, ?_⟩
    · rw [fit.slotIdx, here]
      rfl
    · exact accounts.vram.owned gid slot inside (by rw [here]; rfl)
  | _ => simp [here] at isHot

section

variable
    {boundary last ended : ExpertRegistry}
    (entered : Entered boundary begun drainSlots)
    (passing : Passing begun last done)
    (left : Left last ended)

include entered passing left

theorem Passing.preserves :
    PassPreserves boundary ended drainSlots := by
  have sameSettings := passing.kept.settings
  simp only [settings, Prod.mk.injEq] at sameSettings
  have lastTotal : last.totalExperts = boundary.totalExperts :=
    sameSettings.1.2.2.1.trans entered.total
  have endedTotal := left.total.trans lastTotal
  have clear :
      ∀ gid < boundary.totalExperts,
        ((last.catalog gid).owner = .hotVram →
            (last.catalog gid).residentAtPrefillBegin = true) ∧
          (last.catalog gid).shadowVramSlot = none ∧
          (last.catalog gid).operation = .idle := by
    intro gid inside
    rw [← lastTotal] at inside
    exact exitViolation_clear left.clear inside
  have hot :
      ∀ gid < boundary.totalExperts,
        (ended.catalog gid).owner = .hotVram ↔
          Preserved boundary drainSlots gid := by
    intro gid inside
    rw [left.entry]
    constructor
    · intro isHot
      have mark := (clear gid inside).1 isHot
      rw [(passing.kept.entries gid).mark] at mark
      exact (entered.marked gid inside).mp mark
    · intro preserved
      exact (passing.stillHot entered preserved).1
  have hotSlot :
      ∀ gid, Preserved boundary drainSlots gid →
        (ended.catalog gid).slotIdx = (boundary.catalog gid).slotIdx := by
    intro gid preserved
    rw [left.entry]
    exact (passing.stillHot entered preserved).2.1
  constructor
  case hot => exact hot
  case hotSlot => exact hotSlot
  case warm =>
    intro gid inside
    rw [left.entry]
    exact (passing.kept.entries gid).warmOwner.trans
      (entered.warmOwner gid inside)
  case warmSlot =>
    intro gid inside isWarm
    rw [left.entry]
    exact ((passing.kept.entries gid).warmSlot
      ((entered.warmOwner gid inside).mpr isWarm)).trans
        (entered.warmSlot gid inside isWarm)
  case free =>
    intro slot bound
    have sameCapacity :=
      (left.capacity.trans sameSettings.1.2.2.2.1).trans entered.capacity
    rw [← sameCapacity] at bound
    rw [left.accounted.free_iff _ _ bound]
    · constructor
      · intro unheld gid preserved
        have inside := preserved.1
        rw [← endedTotal] at inside
        rw [← hotSlot gid preserved]
        exact unheld gid inside ((hot gid preserved.1).mpr preserved)
      · intro unheld gid inside isHot
        rw [endedTotal] at inside
        have preserved := (hot gid inside).mp isHot
        rw [hotSlot gid preserved]
        exact unheld gid preserved
    · intro gid inside
      rw [endedTotal] at inside
      rw [left.entry]
      exact (clear gid inside).2.2
    · intro gid inside
      rw [endedTotal] at inside
      rw [left.entry]
      exact (clear gid inside).2.1
  case unshadowed =>
    intro gid inside
    rw [left.entry]
    exact (clear gid inside).2.1
  case undemoted =>
    exact (left.attempts.trans passing.kept.attempts).trans entered.attempts

theorem Passing.warmHostLru_eq :
    ended.warmHostLru = moveAllToFront boundary.warmHostLru done := by
  have ranking := passing.ranking
  obtain ⟨stranded, place, accounts⟩ := passing.accounted
  -- Nothing is being copied at the exit.
  have notCopying :
      ∀ gid < last.totalExperts, (last.catalog gid).warmShadow = false := by
    intro gid inside
    have fit := accounts.catalog.fits gid inside
    have idle := (exitViolation_clear left.clear inside).2.2
    rw [fit.operation] at idle
    rw [fit.warmShadow]
    cases here : place gid <;> simp_all
  have sameSettings := passing.kept.settings
  simp only [settings, Prod.mk.injEq] at sameSettings
  have lastTotal : last.totalExperts = begun.totalExperts :=
    sameSettings.1.2.2.1
  rw [left.ranking, ranking, entered.ranking, List.filter_eq_self]
  intro gid present
  have inside : gid < last.totalExperts := by
    rw [lastTotal]
    rcases (mem_moveAllToFront entered.unique).mp present with
      ranked | settledEarlier
    · rw [entered.total]
      exact entered.ranked gid ranked
    · exact passing.known gid settledEarlier
  simp [notCopying gid inside]

end

/-- Any boundary of a sheltered run can be entered. -/
theorem boundary_entered
    {unbuilt loaded boundary begun : ExpertRegistry}
    {layers expertsLayer vramCap hostCap drainSlots : Nat}
    {preloadWarmHost : Bool}
    {earlier : List RegistryOperation}
    {alloc : PrefillAlloc}
    (built :
      unbuilt.init layers expertsLayer vramCap hostCap preloadWarmHost =
        .returned () loaded)
    (reached : Run (Guarded Performs Sheltered) loaded earlier boundary)
    (atBoundary : AtBoundary boundary)
    (enters :
      boundary.beginPrefillStream drainSlots alloc = .returned () begun) :
    Entered boundary begun drainSlots ∧ begun.warmHostLru.Nodup := by
  have accounted : Accounted boundary :=
    reached.invariant Accounted performs_accounted ⟨[], init_consistent built⟩
  have entered := beginPrefillStream_entered accounted atBoundary enters
  refine ⟨entered, ?_⟩
  rw [entered.ranking]
  exact entered.unique

/--
A pass preserves residency: from any registry that a run of operations has brought
to a phase boundary, whatever the calls of the pass and however each of them ends.
The run met no shadow that it would mishandle: a VRAM slot that such a call has lost
stays lost through the pass.
-/
theorem pass_preserves
    {unbuilt loaded boundary begun ended : ExpertRegistry}
    {layers expertsLayer vramCap hostCap drainSlots : Nat}
    {preloadWarmHost : Bool}
    {earlier operations : List RegistryOperation}
    {alloc : PrefillAlloc}
    (built :
      unbuilt.init layers expertsLayer vramCap hostCap preloadWarmHost =
        .returned () loaded)
    (reached : Run (Guarded Performs Sheltered) loaded earlier boundary)
    (atBoundary : AtBoundary boundary)
    (enters :
      boundary.beginPrefillStream drainSlots alloc = .returned () begun)
    (inPass : ∀ operation ∈ operations, operation.inPass = true)
    (leaves :
      (performAll begun operations).endPrefillStream = .returned () ended) :
    PassPreserves boundary ended drainSlots ∧
      ∀ leading, leading <+: operations →
        ∀ gid, Preserved boundary drainSlots gid →
          StillHot boundary (performAll begun leading) gid := by
  obtain ⟨entered, unique⟩ := boundary_entered built reached atBoundary enters
  constructor
  · have passing := entered.passing.performAll unique inPass
    exact passing.preserves entered
      (endPrefillStream_left passing.accounted passing.streaming leaves)
  · intro leading isLeading gid preserved
    have passing :=
      entered.passing.performAll unique fun operation present =>
        inPass operation (isLeading.subset present)
    exact passing.stillHot entered preserved

/-- A pass drains one Hot resident and copies the best-ranked Warm expert. -/
theorem best_ranked_copy_passes :
    ∃ loaded begun ended,
      ExpertRegistry.unbuilt.init 1 4 2 2 true = .returned () loaded ∧
        AtBoundary loaded ∧
        loaded.beginPrefillStream 1 .freeListOnly = .returned () begun ∧
        (performAll begun
          [.reserveRequestByGid 3 0 4 false, .completeRequest 1,
            .releaseLease 3, .releaseLayer 0]).endPrefillStream =
          .returned () ended ∧
        recency (settledOrder begun
          [.reserveRequestByGid 3 0 4 false, .completeRequest 1,
            .releaseLease 3, .releaseLayer 0]) <+: loaded.warmHostLru := by
  apply Exists.intro
  apply Exists.intro
  apply Exists.intro
  apply And.intro (Eq.refl _)
  apply And.intro
  · constructor
    · rfl
    · decide
    · decide
    · decide
  apply And.intro (Eq.refl _)
  apply And.intro (Eq.refl _)
  decide

/-- Decode's residents are back after such a pass. -/
theorem copied_pass_preserves :
    ∃ loaded begun ended,
      ExpertRegistry.unbuilt.init 1 4 2 2 true = .returned () loaded ∧
        AtBoundary loaded ∧
        loaded.beginPrefillStream 1 .freeListOnly = .returned () begun ∧
        (performAll begun
          [.reserveRequestByGid 3 0 4 false, .completeRequest 1,
            .releaseLease 3, .releaseLayer 0]).endPrefillStream =
          .returned () ended ∧
        PassPreserves loaded ended 1 := by
  obtain ⟨loaded, begun, ended, built, atBoundary, enters, leaves, _⟩ :=
    best_ranked_copy_passes
  exact ⟨loaded, begun, ended, built, atBoundary, enters, leaves,
    (pass_preserves built (.nil loaded) atBoundary enters (by decide)
      leaves).1⟩

/--
A thaw with a shadow copy still unattached: the copy then takes a Hot resident's
slot as decode does, and its failure forgets the victim, so the slot that the
demotion empties is lost before the pass begins.
-/
theorem thawed_attachment_loses_slot :
    ∃ loaded boundary begun ended,
      ExpertRegistry.unbuilt.init 1 2 1 2 true = .returned () loaded ∧
        Run Performs loaded
          [.setWarmFrozen true, .reserveRequestByGid 1 0 4 true,
            .setWarmFrozen false, .attachVramDestination 1 4, .failRequest 1,
            .completeDemotion 1, .releaseLease 1] boundary ∧
        AtBoundary boundary ∧
        boundary.beginPrefillStream 0 .freeListOnly = .returned () begun ∧
        (performAll begun []).endPrefillStream = .returned () ended ∧
        ¬ PassPreserves boundary ended 0 := by
  apply Exists.intro
  apply Exists.intro
  apply Exists.intro
  apply Exists.intro
  apply And.intro (Eq.refl _)
  apply And.intro
  · iterate 7 apply Run.cons (Eq.refl _)
    exact .nil _
  apply And.intro
  · constructor
    · rfl
    · decide
    · decide
    · decide
  apply And.intro (Eq.refl _)
  apply And.intro (Eq.refl _)
  intro preserves
  refine absurd ((preserves.free 0 (by decide)).mpr ?_) (by decide)
  -- Nothing is Hot at the boundary.
  rintro gid ⟨inside, isHot, _⟩
  revert gid
  decide

/--
Warm's recency order survives a pass exactly when the experts whose shadow copies
ended, the last one first, already were the head of the order.
-/
theorem pass_warmHostLru_iff
    {unbuilt loaded boundary begun ended : ExpertRegistry}
    {layers expertsLayer vramCap hostCap drainSlots : Nat}
    {preloadWarmHost : Bool}
    {earlier operations : List RegistryOperation}
    {alloc : PrefillAlloc}
    (built :
      unbuilt.init layers expertsLayer vramCap hostCap preloadWarmHost =
        .returned () loaded)
    (reached : Run (Guarded Performs Sheltered) loaded earlier boundary)
    (atBoundary : AtBoundary boundary)
    (enters :
      boundary.beginPrefillStream drainSlots alloc = .returned () begun)
    (inPass : ∀ operation ∈ operations, operation.inPass = true)
    (leaves :
      (performAll begun operations).endPrefillStream = .returned () ended) :
    ended.warmHostLru = boundary.warmHostLru ↔
      recency (settledOrder begun operations) <+: boundary.warmHostLru := by
  obtain ⟨entered, unique⟩ := boundary_entered built reached atBoundary enters
  have passing := entered.passing.performAll unique inPass
  rw [List.nil_append] at passing
  rw [passing.warmHostLru_eq entered
    (endPrefillStream_left passing.accounted passing.streaming leaves)]
  exact moveAllToFront_eq_self_iff entered.unique

/-- A pass that copies the best-ranked Warm expert keeps Warm's order. -/
theorem best_ranked_copy_keeps_order :
    ∃ loaded begun ended,
      ExpertRegistry.unbuilt.init 1 4 2 2 true = .returned () loaded ∧
        loaded.beginPrefillStream 1 .freeListOnly = .returned () begun ∧
        (performAll begun
          [.reserveRequestByGid 3 0 4 false, .completeRequest 1,
            .releaseLease 3, .releaseLayer 0]).endPrefillStream =
          .returned () ended ∧
        ended.warmHostLru = loaded.warmHostLru := by
  obtain ⟨loaded, begun, ended, built, atBoundary, enters, leaves, head⟩ :=
    best_ranked_copy_passes
  exact ⟨loaded, begun, ended, built, enters, leaves,
    (pass_warmHostLru_iff built (.nil loaded) atBoundary enters (by decide)
      leaves).mpr head⟩

/-- A pass that copies the worst-ranked Warm expert turns Warm's order around. -/
theorem worst_ranked_copy_turns_order :
    ∃ loaded begun ended,
      ExpertRegistry.unbuilt.init 1 4 2 2 true = .returned () loaded ∧
        AtBoundary loaded ∧
        loaded.beginPrefillStream 1 .freeListOnly = .returned () begun ∧
        (performAll begun
          [.reserveRequestByGid 2 0 4 false, .completeRequest 1,
            .releaseLease 2, .releaseLayer 0]).endPrefillStream =
          .returned () ended ∧
        loaded.warmHostLru = [3, 2] ∧ ended.warmHostLru = [2, 3] := by
  apply Exists.intro
  apply Exists.intro
  apply Exists.intro
  apply And.intro (Eq.refl _)
  apply And.intro
  · constructor
    · rfl
    · decide
    · decide
    · decide
  apply And.intro (Eq.refl _)
  apply And.intro (Eq.refl _)
  exact ⟨rfl, rfl⟩

end Aeon.Registry
