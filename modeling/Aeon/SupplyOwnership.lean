import Aeon.RegistryNumbering
import Aeon.StagingOwnership

namespace Aeon.Transport

open Aeon.Registry
open Call (Ensures write)

/-!
# What the supply's calls do to the ownership of slots

One lemma for each call of the arena, the pipeline and the supply: from a state
that is `Steady` it returns or throws into one.  `Steady` is the ownership
invariant together with what the call is not to disturb: the reads, and the slots
that a read is still filling.
-/

/-- The reads of a supply, from the queue to the store. -/
structure Reads where
  queued : List ReadChunk
  inFlight : List ReadChunk
  posted : List DirectIoCompletion
  completions : List DirectIoCompletion
  nextDirectIoId : Nat
  mixups : List (Nat × Nat)

/-- The reads of a supply. -/
def Supply.reads (supply : Supply) : Reads where
  queued := supply.queued
  inFlight := supply.inFlight
  posted := supply.posted
  completions := supply.completions
  nextDirectIoId := supply.nextDirectIoId
  mixups := supply.mixups

/-- The slots each operation's record names. -/
abbrev Holdings := List (Nat × List Nat)

/-- The holdings of a supply. -/
def Supply.holdings (supply : Supply) : Holdings :=
  supply.transfers.map fun transfer =>
    (transfer.operationId, transfer.stagingSlots)

/--
What stands while calls run: the slots that reads fill, each with the operation it
is read for, and how many operations were numbered by then.
-/
structure Filling where
  reads : List (Nat × Nat) := []
  numbered : Nat := 0

/-- The slots alone. -/
def Filling.slots (filling : Filling) : List Nat :=
  filling.reads.map Prod.snd

/-- A slot is being read, and the operation's record names it. -/
def Supply.Fills
    (supply : Supply)
    (filled : Nat × Nat) : Prop :=
  supply.slots filled.2 = .ioPending ∧
    ∃ transfer ∈ supply.transfers,
      transfer.operationId = filled.1 ∧ filled.2 ∈ transfer.stagingSlots

/--
Owned, with reads and holdings as the frame allows them, the slots of `filling`
still being read, and no fewer operations numbered.
-/
structure Steady
    (setup : SupplySetup)
    (frame : Reads → Holdings → Prop)
    (filling : Filling)
    (supply : Supply) : Prop where
  owned : Owned setup supply
  framed : frame supply.reads supply.holdings
  fills : ∀ filled ∈ filling.reads, supply.Fills filled
  counted : filling.numbered ≤ supply.registry.nextOperationId

variable
    {frame : Reads → Holdings → Prop}
    {filling : Filling}
    {setup : SupplySetup}
    {operationId slot : Nat}

section

variable
    {supply after : Supply}
    {filled : Nat × Nat}
    {leading trailing : List PendingTransfer}

theorem Supply.Fills.split
    {transfer : PendingTransfer}
    (fills : supply.Fills filled)
    (split : supply.transfers = leading ++ transfer :: trailing)
    (slots : after.slots = supply.slots)
    (others :
      ∀ other, other ∈ leading ∨ other ∈ trailing → other ∈ after.transfers)
    (covers :
      filled.2 ∈ transfer.stagingSlots →
        ∃ next ∈ after.transfers,
          next.operationId = transfer.operationId ∧
            filled.2 ∈ next.stagingSlots) :
    after.Fills filled := by
  obtain ⟨pending, owner, listed, own, names⟩ := fills
  refine ⟨by rw [slots]; exact pending, ?_⟩
  rw [split] at listed
  rcases List.mem_append.mp listed with before | here
  · exact ⟨owner, others owner (Or.inl before), own, names⟩
  · rcases List.mem_cons.mp here with rfl | later
    · obtain ⟨next, present, same, named⟩ := covers names
      exact ⟨next, present, same.trans own, named⟩
    · exact ⟨owner, others owner (Or.inr later), own, names⟩

theorem Supply.Fills.replace
    {transfer next : PendingTransfer}
    (fills : supply.Fills filled)
    (split : supply.transfers = leading ++ transfer :: trailing)
    (changed : after.transfers = leading ++ next :: trailing)
    (slots : after.slots = supply.slots)
    (same : next.operationId = transfer.operationId)
    (grows : transfer.stagingSlots ⊆ next.stagingSlots) :
    after.Fills filled := by
  refine fills.split split slots ?_ fun names => ?_
  · rw [changed]
    rintro other (before | later)
    · exact List.mem_append_left _ before
    · exact List.mem_append_right _ (List.mem_cons_of_mem _ later)
  · refine ⟨next, ?_, same, grows names⟩
    rw [changed]
    exact List.mem_append_right _ List.mem_cons_self

end

/-! ## Calls that write nothing -/

theorem validateSlot_leaves :
    (validateSlot setup slot).Leaves :=
  .check _ _

/-- A slot index that was checked is in range. -/
theorem validateSlot_ensures
    {Before Threw : Supply → Prop}
    (outside :
      ∀ supply, ¬ slot < setup.slotCount → Before supply → Threw supply) :
    Ensures Before (validateSlot setup slot)
      (fun _ supply => slot < setup.slotCount ∧ Before supply) Threw := by
  refine Call.Ensures.weaken
    (.check fun supply refused => outside supply (by simpa using refused))
    (fun _ before => before) ?_ (fun _ threw => threw)
  rintro _ supply ⟨inRange, before⟩
  exact ⟨by simpa using inRange, before⟩

theorem submit_leaves
    (what : String) :
    (submit what).Leaves :=
  .andThen (.ask _) fun _ => .check _ _

theorem hostSlotPtr_leaves :
    (hostSlotPtr setup slot).Leaves :=
  .check _ _

theorem uploadFromHostExpert_leaves
    (vramSlot : Option Nat) :
    (uploadFromHostExpert setup vramSlot).Leaves :=
  .andThen (.check _ _) fun _ => submit_leaves _

theorem waitForDemotionDependency_leaves :
    (waitForDemotionDependency operationId).Leaves := by
  refine .andThen .read fun supply => ?_
  split
  · exact submit_leaves _
  · exact .ret ()

theorem copySource_leaves
    (state : PayloadTransfer) :
    (copySource setup state).Leaves := by
  unfold copySource
  split
  · exact hostSlotPtr_leaves
  · exact validateSlot_leaves

/-! ## The registry and the reads -/

theorem onRegistry_ensures
    {Value : Type}
    {call : ExpertRegistry → Outcome Value}
    (numbered :
      ∀ registry,
        registry.nextOperationId ≤
          (call registry).registry.nextOperationId)
    {Before : Supply → Prop}
    (stable :
      ∀ supply registry,
        supply.registry.nextOperationId ≤ registry.nextOperationId →
          Before supply → Before { supply with registry := registry }) :
    Ensures Before (onRegistry call) (fun _ => Before) Before := by
  intro supply answers before
  have grows := numbered supply.registry
  unfold onRegistry
  generalize call supply.registry = outcome at grows ⊢
  cases outcome with
  | returned value after => exact stable supply after grows before
  | threw error after => exact stable supply after grows before

theorem Steady.onRegistry
    {supply : Supply}
    {registry : ExpertRegistry}
    (grows :
      supply.registry.nextOperationId ≤ registry.nextOperationId)
    (steady : Steady setup frame filling supply) :
    Steady setup frame filling { supply with registry := registry } :=
  ⟨steady.owned.of_same grows rfl rfl rfl, steady.framed, steady.fills,
    Nat.le_trans steady.counted grows⟩

theorem onRegistry_steady
    {Value : Type}
    {call : ExpertRegistry → Outcome Value}
    (numbered :
      ∀ registry,
        (call registry).registry.nextOperationId =
          registry.nextOperationId) :
    Ensures (Steady setup frame filling) (onRegistry call)
      (fun _ => Steady setup frame filling) (Steady setup frame filling) :=
  onRegistry_ensures (fun registry => Nat.le_of_eq (numbered registry).symm)
    fun _ _ grows steady => steady.onRegistry grows

/-- Two supplies that differ in their reads alone. -/
structure Supply.SameTable (supply after : Supply) : Prop where
  registry : after.registry = supply.registry
  slots : after.slots = supply.slots
  transfers : after.transfers = supply.transfers
  trespasses : after.trespasses = supply.trespasses

namespace Supply.SameTable

variable (supply : Supply)

theorem trans
    {first second third : Supply}
    (one : SameTable first second)
    (other : SameTable second third) :
    SameTable first third :=
  ⟨other.registry.trans one.registry, other.slots.trans one.slots,
    other.transfers.trans one.transfers,
    other.trespasses.trans one.trespasses⟩

theorem enter
    (count : Nat) :
    SameTable supply (supply.enter count) :=
  ⟨rfl, rfl, rfl, rfl⟩

theorem post
    (index : Nat)
    (result : Option Int) :
    SameTable supply (supply.post index result) := by
  unfold Supply.post
  split <;> exact ⟨rfl, rfl, rfl, rfl⟩

theorem answered
    (answer : Answer) :
    SameTable supply (answer.post supply) := by
  unfold Answer.post
  split
  · exact post supply _ _
  · exact ⟨rfl, rfl, rfl, rfl⟩
  · exact post supply _ _

theorem emplace
    (completion : DirectIoCompletion) :
    SameTable supply (supply.emplace completion) := by
  unfold Supply.emplace
  split <;> exact ⟨rfl, rfl, rfl, rfl⟩

theorem consume
    (operationId : Nat)
    (completion : DirectIoCompletion) :
    SameTable supply (supply.consume operationId completion) :=
  ⟨rfl, rfl, rfl, rfl⟩

theorem drainPosted :
    SameTable supply supply.drainPosted := by
  unfold Supply.drainPosted
  have loop (completions : List DirectIoCompletion) (start : Supply) :
      SameTable start (completions.foldl Supply.emplace start) := by
    induction completions generalizing start with
    | nil => exact ⟨rfl, rfl, rfl, rfl⟩
    | cons completion rest ih =>
      exact (emplace start completion).trans (ih _)
  have emptied : SameTable supply { supply with posted := [] } :=
    ⟨rfl, rfl, rfl, rfl⟩
  exact emptied.trans (loop supply.posted _)

end Supply.SameTable

/-- A write to the reads alone, when the frame does not look at them. -/
theorem Steady.readsOnly
    {supply after : Supply}
    (steady : Steady setup frame filling supply)
    (ignores :
      ∀ reads other held, frame reads held → frame other held)
    (same : Supply.SameTable supply after) :
    Steady setup frame filling after := by
  have holdings : after.holdings = supply.holdings := by
    unfold Supply.holdings
    rw [same.transfers]
  refine ⟨?_, ?_, ?_, ?_⟩
  · exact steady.owned.of_same
      (Nat.le_of_eq (congrArg _ same.registry.symm)) same.slots
      same.transfers same.trespasses
  · rw [holdings]
    exact ignores _ _ _ steady.framed
  · intro filled listed
    unfold Supply.Fills
    rw [same.slots, same.transfers]
    exact steady.fills filled listed
  · rw [same.registry]
    exact steady.counted

/-! ## Slots -/

theorem releaseAfterFailure_ensures
    {Before Returned Threw : Supply → Prop}
    (freed :
      ∀ supply,
        Before supply →
          Returned (supply.setSlot operationId slot .available))
    (outside :
      ∀ supply, ¬ slot < setup.slotCount → Before supply → Threw supply) :
    Ensures Before (releaseAfterFailure setup operationId slot)
      (fun _ => Returned) Threw :=
  .andThen (validateSlot_ensures outside)
    fun _ => .write fun supply holds => freed supply holds.2

section

variable
    {Before Returned : Supply → Prop}
    (freed :
      ∀ supply,
        Before supply →
          supply.slots slot = .gpuTransferPending →
            Returned (supply.setSlot operationId slot .available))

include freed

theorem releaseAfterGpuTransfer_ensures :
    Ensures Before (releaseAfterGpuTransfer setup operationId slot)
      (fun _ => Returned) Before := by
  refine .andThen (validateSlot_ensures fun _ _ before => before)
    fun _ => .read fun current => ?_
  refine .andThen (.check fun _ _ holds => holds.1.2) fun _ => .write ?_
  rintro supply ⟨copying, ⟨-, before⟩, rfl⟩
  exact freed supply before (by simpa using copying)

theorem releaseIfCopying_ensures
    (kept :
      ∀ supply,
        Before supply →
          supply.slots slot ≠ .gpuTransferPending → Returned supply) :
    Ensures Before (releaseIfCopying setup operationId slot)
      (fun _ => Returned) Before := by
  refine .andThen (validateSlot_ensures fun _ _ before => before)
    fun _ => .read fun current => .branch ?_ ?_
  · intro copying
    refine .write ?_
    rintro supply ⟨⟨-, before⟩, rfl⟩
    exact freed supply before copying
  · intro other
    refine .ret ?_
    rintro supply ⟨⟨-, before⟩, rfl⟩
    exact kept supply before other

end

namespace Steady

variable {supply : Supply}

section

variable
    (steady : Steady setup frame filling supply)

include steady

theorem not_filling
    (other : supply.slots slot ≠ .ioPending) :
    slot ∉ filling.slots := by
  intro listed
  obtain ⟨filled, present, rfl⟩ := List.mem_map.mp listed
  exact other (steady.fills filled present).1

theorem setSlot
    (idle : slot ∉ filling.slots)
    {state : SlotState}
    (owned : Owned setup (supply.setSlot operationId slot state)) :
    Steady setup frame filling (supply.setSlot operationId slot state) := by
  refine ⟨owned, steady.framed, fun filled listed => ?_, steady.counted⟩
  obtain ⟨pending, named⟩ := steady.fills filled listed
  have other : filled.2 ≠ slot := fun same =>
    idle (same ▸ List.mem_map_of_mem listed)
  refine ⟨?_, named⟩
  change Function.update supply.slots slot state filled.2 = .ioPending
  rw [Function.update_of_ne other]
  exact pending

theorem free
    (idle : slot ∉ filling.slots)
    (clear : Clear operationId slot supply) :
    Steady setup frame filling (supply.setSlot operationId slot .available) :=
  steady.setSlot idle (steady.owned.free clear)

end

end Steady

/-- The operation's record has taken the slot and its copy is not submitted. -/
def Bound
    (operationId slot : Nat)
    (supply : Supply) : Prop :=
  ∃ transfer,
    supply.find operationId = some transfer ∧
      transfer.hasStaging = true ∧
      transfer.stagingIdx = slot ∧
      transfer.requestFailed = false ∧
      transfer.h2dSubmitted = false

/-- A record that `find` returns is in the table. -/
theorem Supply.mem_of_find
    {supply : Supply}
    {transfer : PendingTransfer}
    (found : supply.find operationId = some transfer) :
    transfer ∈ supply.transfers ∧ transfer.operationId = operationId := by
  refine ⟨List.mem_of_find?_eq_some found, ?_⟩
  have own := List.find?_some found
  simpa using own

theorem Owned.find_eq
    {supply : Supply}
    (owned : Owned setup supply)
    {transfer : PendingTransfer}
    (listed : transfer ∈ supply.transfers) :
    supply.find transfer.operationId = some transfer := by
  cases found : supply.find transfer.operationId with
  | none =>
    have missing := List.find?_eq_none.mp found transfer listed
    simp at missing
  | some other =>
    obtain ⟨otherListed, same⟩ := Supply.mem_of_find found
    rw [List.inj_on_of_nodup_map owned.distinct otherListed listed same]

namespace Bound

variable {supply : Supply}

section

variable
    (bound : Bound operationId slot supply)

include bound

theorem clear
    (owned : Owned setup supply) :
    Clear operationId slot supply := by
  obtain ⟨transfer, found, staged, rfl, -, -⟩ := bound
  obtain ⟨listed, rfl⟩ := Supply.mem_of_find found
  exact owned.clear_of_mem listed
    (PendingTransfer.mem_stagingSlots.mpr (Or.inl ⟨staged, rfl⟩))

theorem named :
    slot ∈ supply.named := by
  obtain ⟨transfer, found, staged, rfl, -, -⟩ := bound
  obtain ⟨listed, -⟩ := Supply.mem_of_find found
  exact Supply.mem_named.mpr ⟨transfer, listed,
    PendingTransfer.mem_stagingSlots.mpr (Or.inl ⟨staged, rfl⟩)⟩

theorem setSlot
    (owned : Owned setup supply)
    (inRange : slot < setup.slotCount)
    (state : SlotState) :
    Owned setup (supply.setSlot operationId slot state) := by
  refine owned.setSlot (bound.clear owned) (fun _ => bound.named)
    (fun _ => inRange) ?_
  obtain ⟨transfer, found, staged, rfl, unfailed, unsubmitted⟩ := bound
  obtain ⟨present, rfl⟩ := Supply.mem_of_find found
  intro other listed own
  obtain rfl : other = transfer :=
    List.inj_on_of_nodup_map owned.distinct listed present own
  have settled := owned.settled other listed
  refine ⟨fun _ failed => ?_, fun _ submitted => ?_, ?_, settled.routed⟩
  · rw [unfailed] at failed
    contradiction
  · rw [unsubmitted] at submitted
    contradiction
  · intro uses target named
    have apart := (List.nodup_flatMap.mp owned.apart).1 other listed
    have different : target ≠ other.stagingIdx := by
      rintro rfl
      simp [PendingTransfer.stagingSlots, staged, uses, named] at apart
    rw [Function.update_of_ne different]
    exact settled.demoted uses target named

end

end Bound

/--
A slot in one of the two reading states belongs to a record that took it for its
transfer: a demotion's slot is only ever copying.
-/
theorem Owned.bound_of_reading
    {supply : Supply}
    (owned : Owned setup supply)
    (clear : Clear operationId slot supply)
    (reading :
      supply.slots slot = .ioPending ∨ supply.slots slot = .ioComplete) :
    Bound operationId slot supply := by
  have used : supply.slots slot ≠ .available := by
    rcases reading with state | state <;> rw [state] <;> decide
  have copying : supply.slots slot ≠ .gpuTransferPending := by
    rcases reading with state | state <;> rw [state] <;> decide
  obtain ⟨transfer, listed, names⟩ :=
    Supply.mem_named.mp (owned.held slot used)
  have settled := owned.settled transfer listed
  have own : transfer.operationId = operationId := by
    by_contra other
    exact clear transfer listed other names
  rcases PendingTransfer.mem_stagingSlots.mp names with
    ⟨staged, rfl⟩ | ⟨uses, target⟩
  · refine ⟨transfer, own ▸ owned.find_eq listed, staged, rfl, ?_, ?_⟩
    · by_contra failed
      rw [Bool.not_eq_false] at failed
      cases submitted : transfer.h2dSubmitted with
      | false => exact used (settled.failed staged failed submitted)
      | true =>
        rcases settled.submitted staged submitted with free | copies
        · exact used free
        · exact copying copies
    · by_contra submitted
      rw [Bool.not_eq_false] at submitted
      rcases settled.submitted staged submitted with free | copies
      · exact used free
      · exact copying copies
  · rcases settled.demoted uses slot target with free | ⟨-, copies⟩
    · exact absurd free used
    · exact absurd copies copying

/-- Steady, while an operation works on the slot it took. -/
structure Working
    (setup : SupplySetup)
    (frame : Reads → Holdings → Prop)
    (filling : Filling)
    (operationId slot : Nat)
    (supply : Supply) : Prop where
  steady : Steady setup frame filling supply
  bound : Bound operationId slot supply
  idle : slot ∉ filling.slots

theorem transition_working
    (expected next : SlotState) :
    Ensures (Working setup frame filling operationId slot)
      (transition setup expected next operationId slot)
      (fun _ supply =>
        Working setup frame filling operationId slot supply ∧
          supply.slots slot = next)
      (Working setup frame filling operationId slot) := by
  refine .andThen (validateSlot_ensures fun _ _ working => working)
    fun _ => .read fun current => ?_
  refine .andThen (.check fun _ _ holds => holds.1.2) fun _ => .write ?_
  rintro supply ⟨-, ⟨inRange, working⟩, rfl⟩
  refine ⟨⟨?_, working.bound, working.idle⟩, ?_⟩
  · exact working.steady.setSlot working.idle
      (working.bound.setSlot working.steady.owned inRange next)
  · exact Function.update_self _ _ _

theorem stagePayload_working :
    Ensures (Working setup frame filling operationId slot)
      (stagePayload setup operationId slot)
      (fun _ supply =>
        Working setup frame filling operationId slot supply ∧
          supply.slots slot = .ioComplete)
      (Working setup frame filling operationId slot) := by
  refine .andThen (validateSlot_ensures fun _ _ working => working)
    fun _ => .read fun current => ?_
  refine .andThen (.check fun _ _ holds => holds.1.2) fun _ => .write ?_
  rintro supply ⟨-, ⟨inRange, working⟩, rfl⟩
  refine ⟨⟨?_, working.bound, working.idle⟩, ?_⟩
  · exact working.steady.setSlot working.idle
      (working.bound.setSlot working.steady.owned inRange .ioComplete)
  · exact Function.update_self _ _ _

/-! ## Records -/

namespace Supply

variable
    {supply : Supply}
    {transfer : PendingTransfer}
    {change : PendingTransfer → PendingTransfer}

/-- Whether a write trespasses is read off the holdings. -/
theorem touchesOther_eq
    (supply : Supply)
    (operationId slot : Nat) :
    supply.touchesOther operationId slot =
      (supply.slots slot ≠ .available &&
        supply.holdings.any fun held =>
          held.1 ≠ operationId && slot ∈ held.2) := by
  simp [touchesOther, holdings, List.any_map, Function.comp_def]

section

variable
    (found : supply.find operationId = some transfer)

include found

theorem find_update
    (same : (change transfer).operationId = operationId) :
    (supply.update operationId change).find operationId =
      some (change transfer) := by
  unfold find at found ⊢
  unfold update
  simp only
  generalize supply.transfers = transfers at found ⊢
  induction transfers with
  | nil => simp at found
  | cons first rest ih =>
    rw [List.find?_cons] at found
    by_cases here : first.operationId = operationId
    · simp only [here, decide_true] at found
      cases found
      simp [updateFirst, here, same]
    · simp only [here, decide_false] at found
      simp only [updateFirst, here, if_false, List.find?_cons, decide_false]
      exact ih found

theorem holdings_update
    (same : (change transfer).operationId = transfer.operationId)
    (names : (change transfer).stagingSlots = transfer.stagingSlots) :
    (supply.update operationId change).holdings = supply.holdings := by
  obtain ⟨-, leading, trailing, split, changed⟩ := find_split found
  unfold holdings
  rw [changed change, split]
  simp [same, names]

end

theorem named_eq
    (supply : Supply) :
    supply.named = supply.holdings.flatMap Prod.snd := by
  simp [named, holdings, List.flatMap_map]

theorem named_update
    (found : supply.find operationId = some transfer)
    (same : (change transfer).operationId = transfer.operationId)
    (names : (change transfer).stagingSlots = transfer.stagingSlots) :
    (supply.update operationId change).named = supply.named := by
  rw [named_eq, named_eq, holdings_update found same names]

/-- Two writes to one record are one write. -/
theorem updateFirst_updateFirst
    (operationId : Nat)
    (first second : PendingTransfer → PendingTransfer)
    (same : ∀ transfer, (first transfer).operationId = transfer.operationId)
    (transfers : List PendingTransfer) :
    updateFirst operationId second (updateFirst operationId first transfers) =
      updateFirst operationId (fun transfer => second (first transfer))
        transfers := by
  induction transfers with
  | nil => rfl
  | cons transfer rest ih =>
    by_cases here : transfer.operationId = operationId
    · simp [updateFirst, here, same]
    · simp [updateFirst, here, ih]

/-- A write to a record that keeps its slots commutes with one to a slot. -/
theorem setSlot_update
    (found : supply.find operationId = some transfer)
    (same : (change transfer).operationId = transfer.operationId)
    (names : (change transfer).stagingSlots = transfer.stagingSlots)
    (other : Nat)
    (state : SlotState) :
    (supply.update operationId change).setSlot other slot state =
      (supply.setSlot other slot state).update operationId change := by
  have holdings := holdings_update found same names
  have touches :
      (supply.update operationId change).touchesOther other slot =
        supply.touchesOther other slot := by
    rw [touchesOther_eq, touchesOther_eq, holdings]
    rfl
  simp only [setSlot, touches]
  rfl

end Supply

namespace Steady

variable
    {supply : Supply}
    {transfer : PendingTransfer}
    {change : PendingTransfer → PendingTransfer}

section

variable
    (steady : Steady setup frame filling supply)
    (found : supply.find operationId = some transfer)

include steady found

theorem update
    (same : (change transfer).operationId = transfer.operationId)
    (names : (change transfer).stagingSlots = transfer.stagingSlots)
    (settled : Settled supply.slots (change transfer)) :
    Steady setup frame filling (supply.update operationId change) := by
  obtain ⟨-, leading, trailing, split, changed⟩ := Supply.find_split found
  refine ⟨?_, ?_, fun filled listed => ?_, steady.counted⟩
  · exact steady.owned.rewrite split (changed change) rfl rfl rfl same names
      settled
  · rw [Supply.holdings_update found same names]
    exact steady.framed
  · exact (steady.fills filled listed).replace split (changed change) rfl same
      (names ▸ List.Subset.refl _)

/-- What the invariant knows of the record `find` returns. -/
theorem settled :
    Settled supply.slots transfer :=
  steady.owned.settled transfer (Supply.mem_of_find found).1

end

end Steady

/-- The slot a failed request would free is not being read. -/
def Unread
    (filling : Filling)
    (operationId : Nat)
    (supply : Supply) : Prop :=
  ∀ transfer,
    supply.find operationId = some transfer →
      transfer.hasStaging = true →
        transfer.h2dSubmitted = false →
          transfer.stagingIdx ∉ filling.slots

theorem Working.unread
    {supply : Supply}
    (working : Working setup frame filling operationId slot supply) :
    Unread filling operationId supply := by
  intro transfer found _ _
  obtain ⟨bound, boundFound, -, rfl, -, -⟩ := working.bound
  rw [boundFound] at found
  cases found
  exact working.idle

/-- The record of a failed request. -/
def PendingTransfer.failing
    (reason : String)
    (transfer : PendingTransfer) : PendingTransfer :=
  { transfer with requestFailed := true, failureReason := reason }

theorem Settled.failing
    {slots : Nat → SlotState}
    {transfer : PendingTransfer}
    (settled : Settled slots transfer)
    (reason : String)
    (freed :
      transfer.hasStaging = true →
        transfer.h2dSubmitted = false →
          slots transfer.stagingIdx = .available) :
    Settled slots (transfer.failing reason) :=
  ⟨fun staged _ unsubmitted => freed staged unsubmitted, settled.submitted,
    settled.demoted, settled.routed⟩

theorem markRequestFailed_steady
    (reason : String) :
    Ensures
      (fun supply =>
        Steady setup frame filling supply ∧
          Unread filling operationId supply)
      (markRequestFailed setup operationId reason)
      (fun _ => Steady setup frame filling)
      (Steady setup frame filling) := by
  refine .read fun current => ?_
  cases found : current.find operationId with
  | none => exact .ret fun _ holds => holds.1.1
  | some transfer =>
    have marked :
        Ensures
          (fun supply =>
            (Steady setup frame filling supply ∧
              Unread filling operationId supply) ∧ supply = current)
          (write fun supply =>
            supply.update operationId (PendingTransfer.failing reason) :
            SupplyCall Unit)
          (fun _ supply =>
            supply = current.update operationId
              (PendingTransfer.failing reason) ∧
            Steady setup frame filling current ∧
            Unread filling operationId current)
          (Steady setup frame filling) := by
      refine .write ?_
      rintro supply ⟨before, rfl⟩
      exact ⟨rfl, before⟩
    refine .andThen marked fun _ => .branch ?_ ?_
    · intro frees
      simp only [Bool.and_eq_true, Bool.not_eq_true'] at frees
      obtain ⟨listed, own⟩ := Supply.mem_of_find found
      have names : transfer.stagingIdx ∈ transfer.stagingSlots :=
        PendingTransfer.mem_stagingSlots.mpr (Or.inl ⟨frees.1, rfl⟩)
      refine releaseAfterFailure_ensures ?_ ?_
      · rintro supply ⟨rfl, steady, unread⟩
        have freed :=
          steady.free (unread transfer found frees.1 frees.2)
            (own ▸ steady.owned.clear_of_mem listed names)
        rw [Supply.setSlot_update found rfl rfl]
        refine freed.update found rfl rfl
          ((freed.settled found).failing reason fun _ _ => ?_)
        exact Function.update_self _ _ _
      · rintro supply outside ⟨rfl, steady, -⟩
        refine steady.update found rfl rfl
          ((steady.settled found).failing reason fun _ _ => ?_)
        by_contra used
        exact outside (steady.owned.ranged _ used)
    · intro keeps
      refine .ret ?_
      rintro supply ⟨rfl, steady, -⟩
      refine steady.update found rfl rfl
        ((steady.settled found).failing reason fun staged unsubmitted => ?_)
      simp [staged, unsubmitted] at keeps

/-- Steady, with a request that may now be marked failed. -/
structure Stopped
    (setup : SupplySetup)
    (frame : Reads → Holdings → Prop)
    (filling : Filling)
    (operationId : Nat)
    (supply : Supply) : Prop where
  steady : Steady setup frame filling supply
  unread : Unread filling operationId supply

theorem Working.stopped
    {supply : Supply}
    (working : Working setup frame filling operationId slot supply) :
    Stopped setup frame filling operationId supply :=
  ⟨working.steady, working.unread⟩

/-! ## The copy leg -/

theorem recordH2dEvent_working
    (sourceSlot destinationSlot : Option Nat) :
    Ensures
      (fun supply =>
        Working setup frame filling operationId slot supply ∧
          supply.slots slot = .gpuTransferPending)
      (recordH2dEvent operationId slot true sourceSlot destinationSlot)
      (fun _ => Steady setup frame filling)
      (Stopped setup frame filling operationId) := by
  refine .read fun current => ?_
  cases current.find operationId with
  | none => exact .throwing fun _ holds => holds.1.1.stopped
  | some transfer =>
    refine .andThen (.check fun _ _ holds => holds.1.1.stopped) fun _ => ?_
    refine .andThen (.leaves (submit_leaves _)
      fun _ holds => holds.2.1.1.stopped) fun _ => ?_
    have created :
        Ensures
          (fun supply =>
            (!transfer.h2dEvent) = true ∧
              (Working setup frame filling operationId slot supply ∧
                supply.slots slot = .gpuTransferPending) ∧
              supply = current)
          (write fun supply =>
            supply.update operationId fun transfer =>
              { transfer with h2dEvent := true } : SupplyCall Unit)
          (fun _ supply =>
            Working setup frame filling operationId slot supply ∧
              supply.slots slot = .gpuTransferPending)
          (Stopped setup frame filling operationId) := by
      refine .write ?_
      rintro supply ⟨-, ⟨working, copying⟩, -⟩
      obtain ⟨record, found, staged, idx, unfailed, unsubmitted⟩ :=
        working.bound
      have settled := working.steady.settled found
      refine ⟨⟨?_, ?_, working.idle⟩, copying⟩
      · exact working.steady.update found rfl rfl
          ⟨settled.failed, settled.submitted, settled.demoted,
            settled.routed⟩
      · exact ⟨_, Supply.find_update found (Supply.mem_of_find found).2,
          staged, idx, unfailed, unsubmitted⟩
    refine .andThen created fun _ => ?_
    refine .andThen (.leaves (submit_leaves _)
      fun _ holds => holds.1.stopped) fun _ => .write ?_
    rintro supply ⟨working, copying⟩
    obtain ⟨record, found, staged, rfl, unfailed, unsubmitted⟩ :=
      working.bound
    have settled := working.steady.settled found
    refine working.steady.update found rfl ?_
      ⟨?_, ?_, settled.demoted, settled.routed⟩
    · simp [PendingTransfer.stagingSlots, staged]
    · intro _ _ submitted
      contradiction
    · exact fun _ _ => Or.inr copying

/-! ## Taking a slot -/

/-- A frame on the reads alone. -/
def onReads
    (allowed : Reads → Prop) : Reads → Holdings → Prop :=
  fun reads _ => allowed reads

/-- An operation was reserved and the slot it is to take is nobody's. -/
structure Opened
    (setup : SupplySetup)
    (allowed : Reads → Prop)
    (filling : Filling)
    (operationId slot : Nat)
    (supply : Supply) : Prop where
  steady : Steady setup (onReads allowed) filling supply
  unnamed : slot ∉ supply.named
  issued : operationId < supply.registry.nextOperationId
  fresh :
    ∀ transfer,
      supply.find operationId = some transfer →
        transfer.hasStaging = false ∧
          transfer.requestFailed = false ∧
          transfer.h2dSubmitted = false

variable {allowed : Reads → Prop}

namespace Opened

variable {supply : Supply}

section

variable
    (opened : Opened setup allowed filling operationId slot supply)

include opened

theorem stopped :
    Stopped setup (onReads allowed) filling operationId supply := by
  refine ⟨opened.steady, fun transfer found staged _ => ?_⟩
  rw [(opened.fresh transfer found).1] at staged
  contradiction

theorem idle :
    slot ∉ filling.slots := by
  refine opened.steady.not_filling ?_
  rw [opened.steady.owned.available_of_unnamed opened.unnamed]
  decide

theorem bind
    {transfer : PendingTransfer}
    (found : supply.find operationId = some transfer) :
    Working setup (onReads allowed) filling operationId slot
      (supply.update operationId fun transfer =>
        { transfer with stagingIdx := slot, hasStaging := true }) := by
  obtain ⟨unstaged, unfailed, unsubmitted⟩ := opened.fresh transfer found
  have owned := opened.steady.owned
  have settled := opened.steady.settled found
  have own := (Supply.mem_of_find found).2
  obtain ⟨-, leading, trailing, split, changed⟩ := Supply.find_split found
  have grown :
      ({ transfer with
          stagingIdx := slot
          hasStaging := true } : PendingTransfer).stagingSlots =
        slot :: transfer.stagingSlots := by
    simp [PendingTransfer.stagingSlots, unstaged]
  refine ⟨⟨?_, opened.steady.framed, fun filled listed => ?_,
    opened.steady.counted⟩, ?_, opened.idle⟩
  · refine owned.replace split (changed _) rfl rfl rfl rfl ?_ ?_
      ⟨fun _ failed => ?_, fun _ submitted => ?_, settled.demoted,
        settled.routed⟩
    · have apart := owned.apart
      have unnamed := opened.unnamed
      unfold Supply.named at apart unnamed ⊢
      rw [split] at apart unnamed
      rw [changed, List.flatMap_append, List.flatMap_cons, grown,
        List.cons_append, List.nodup_middle]
      rw [List.flatMap_append, List.flatMap_cons] at apart unnamed
      exact List.nodup_cons.mpr ⟨unnamed, apart⟩
    · intro target listed _
      rw [grown]
      exact List.mem_cons_of_mem _ listed
    · simp [unfailed] at failed
    · simp [unsubmitted] at submitted
  · refine (opened.steady.fills filled listed).replace split (changed _) rfl
      rfl ?_
    rw [grown]
    exact List.subset_cons_self _ _
  · exact ⟨_, Supply.find_update found own, rfl, rfl, unfailed, unsubmitted⟩

end

end Opened

theorem bindStaging_working :
    Ensures (Opened setup allowed filling operationId slot)
      (bindStaging setup operationId slot)
      (fun _ => Working setup (onReads allowed) filling operationId slot)
      (Stopped setup (onReads allowed) filling operationId) := by
  refine .read fun current => ?_
  cases found : current.find operationId with
  | none => exact .throwing fun _ holds => holds.1.stopped
  | some transfer =>
    have bound :
        Ensures
          (fun supply =>
            Opened setup allowed filling operationId slot supply ∧
              supply = current)
          (write fun supply =>
            supply.update operationId fun transfer =>
              { transfer with stagingIdx := slot, hasStaging := true } :
            SupplyCall Unit)
          (fun _ => Working setup (onReads allowed) filling operationId slot)
          (Stopped setup (onReads allowed) filling operationId) := by
      refine .write ?_
      rintro supply ⟨opened, rfl⟩
      exact opened.bind found
    exact .andThen bound fun _ =>
      .leaves validateSlot_leaves fun _ working => working.stopped

end Aeon.Transport
