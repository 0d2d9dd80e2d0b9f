import Aeon.LabelledRun
import Aeon.PipelineOwnership

namespace Aeon.Transport

open Aeon.Registry

/-!
# Runs of the supply

A world is the supply and the batches its callers still hold.  The calls come in
any order, on any batch, with any answers of the surroundings, and between two
calls the drive completes reads and the executor releases leases.  In a run whose
steps take only slots that no other transfer's record names, every slot in use has
exactly one owner and no write touches another transfer's slot.
-/

/-- The supply, and the batches that `dispatch` has returned. -/
structure World where
  supply : Supply
  batches : List (List PayloadTransfer) := []

/-- A freshly configured supply over a registry. -/
def World.start (registry : ExpertRegistry) : World where
  supply := { registry := registry }

/-- What can happen to a world. -/
inductive WorldStep where
  | dispatch (arguments : DispatchArguments)
  | materialize (batch : Nat)
  | materializeAvailable (batch : Nat)
  | releaseStreamedStaging (batch : Nat)
  | reapRegistryTransfers
  | releaseLease (gid : Nat)
  | completeRead (index : Nat) (result : Option Int)
  deriving Repr, DecidableEq

namespace World

/-- A `dispatch` that throws loses the batch it was filling. -/
def dispatch
    (setup : SupplySetup)
    (arguments : DispatchArguments)
    (answers : List Answer)
    (world : World) : World :=
  match dispatchInto setup arguments
      (world.supply, Dispatching.start arguments []) answers with
  | (.ok _, (supply, dispatching), _) =>
    { world with
      supply := supply
      batches := world.batches ++ [dispatching.transfers] }
  | (.error _, (supply, _), _) => { world with supply := supply }

/-- A pass over one of the batches, whether it returns or throws. -/
def onBatch
    (index : Nat)
    (call : BatchCall Unit)
    (answers : List Answer)
    (world : World) : World :=
  match world.batches[index]? with
  | none => world
  | some transfers =>
    let (_, (supply, changed), _) := call (world.supply, transfers) answers
    { world with
      supply := supply
      batches := world.batches.set index changed }

/-- A call on the supply alone, whether it returns or throws. -/
def onSupply
    (call : SupplyCall Unit)
    (answers : List Answer)
    (world : World) : World :=
  { world with supply := (call world.supply answers).2.1 }

/-- One step, with the answers the surroundings give during it. -/
def perform
    (setup : SupplySetup)
    (world : World) : WorldStep × List Answer → World
  | (.dispatch arguments, answers) => world.dispatch setup arguments answers
  | (.materialize batch, answers) =>
    world.onBatch batch (Transport.materialize setup) answers
  | (.materializeAvailable batch, answers) =>
    world.onBatch batch (Transport.materializeAvailable setup) answers
  | (.releaseStreamedStaging batch, answers) =>
    world.onBatch batch (Transport.releaseStreamedStaging setup) answers
  | (.reapRegistryTransfers, answers) =>
    world.onSupply (Transport.reapRegistryTransfers setup) answers
  | (.releaseLease gid, answers) =>
    world.onSupply (onRegistry fun registry => registry.releaseLease gid)
      answers
  | (.completeRead index result, _) =>
    { world with supply := world.supply.post index result }

/-- The step relation of a world. -/
def Performs
    (setup : SupplySetup)
    (world : World)
    (label : WorldStep × List Answer)
    (after : World) : Prop :=
  after = world.perform setup label

end World

/-! ## The condition -/

/-- What a step needs of the slots it works on. -/
def SlotsMeet
    (setup : SupplySetup)
    (world : World)
    (label : WorldStep × List Answer) : Prop :=
  match label.1 with
  | .dispatch arguments =>
    DispatchMeets setup arguments
      (world.supply, Dispatching.start arguments []) label.2
  | .materialize batch | .materializeAvailable batch =>
    ∀ transfers,
      world.batches[batch]? = some transfers →
        ∀ state ∈ transfers,
          state.reading = true →
            Clear state.operationId state.stagingIdx world.supply
  | .releaseStreamedStaging batch =>
    ∀ transfers,
      world.batches[batch]? = some transfers →
        ∀ state ∈ transfers,
          state.isPrefetched = true →
            world.supply.slots state.stagingIdx = .gpuTransferPending →
              Clear state.operationId state.stagingIdx world.supply
  | .reapRegistryTransfers | .releaseLease _ | .completeRead _ _ => True

instance
    (operationId slot : Nat)
    (supply : Supply) :
    Decidable (Clear operationId slot supply) :=
  inferInstanceAs (Decidable
    (∀ transfer ∈ supply.transfers,
      transfer.operationId ≠ operationId → slot ∉ transfer.stagingSlots))

instance
    (setup : SupplySetup)
    (world : World)
    (label : WorldStep × List Answer) :
    Decidable (SlotsMeet setup world label) :=
  match label with
  | (.dispatch arguments, answers) =>
    inferInstanceAs (Decidable (DispatchMeets setup arguments
      (world.supply, Dispatching.start arguments []) answers))
  | (.materialize batch, _) | (.materializeAvailable batch, _) =>
    inferInstanceAs (Decidable
      (∀ transfers ∈ world.batches[batch]?,
        ∀ state ∈ transfers,
          state.reading = true →
            Clear state.operationId state.stagingIdx world.supply))
  | (.releaseStreamedStaging batch, _) =>
    inferInstanceAs (Decidable
      (∀ transfers ∈ world.batches[batch]?,
        ∀ state ∈ transfers,
          state.isPrefetched = true →
            world.supply.slots state.stagingIdx = .gpuTransferPending →
              Clear state.operationId state.stagingIdx world.supply))
  | (.reapRegistryTransfers, _) => .isTrue trivial
  | (.releaseLease _, _) => .isTrue trivial
  | (.completeRead _ _, _) => .isTrue trivial

/-! ## Every step keeps the slots owned -/

section Steps

variable
    {setup : SupplySetup}
    {world : World}
    {answers : List Answer}

theorem World.onBatch_ensures
    {Before : Supply × List PayloadTransfer → Prop}
    {After : Supply → Prop}
    {call : BatchCall Unit}
    (index : Nat)
    (ensured :
      Call.Ensures Before call (fun _ pair => After pair.1)
        (fun pair => After pair.1))
    (met :
      ∀ transfers,
        world.batches[index]? = some transfers →
          Before (world.supply, transfers))
    (already : After world.supply) :
    After (world.onBatch index call answers).supply := by
  unfold World.onBatch
  cases held : world.batches[index]? with
  | none => exact already
  | some transfers =>
    have finished :=
      ensured (world.supply, transfers) answers (met transfers held)
    dsimp only
    generalize call (world.supply, transfers) answers =
      outcome at finished ⊢
    rcases outcome with ⟨error | value, ⟨after, changed⟩, left⟩
    · exact finished
    · exact finished

theorem World.onSupply_ensures
    {Holds : Supply → Prop}
    {call : SupplyCall Unit}
    (ensured : Call.Ensures Holds call (fun _ => Holds) Holds)
    (holds : Holds world.supply) :
    Holds (world.onSupply call answers).supply := by
  have finished := ensured world.supply answers holds
  unfold World.onSupply
  generalize call world.supply answers = outcome at finished ⊢
  rcases outcome with ⟨error | value, after, left⟩
  · exact finished
  · exact finished

/-- The slots of a supply are owned, whatever its reads. -/
abbrev SlotsOwned
    (setup : SupplySetup)
    (supply : Supply) : Prop :=
  Steady setup (onReads anyReads) {} supply

/-- A pass over a batch whose slots no other operation has taken. -/
theorem World.onBatch_owned
    {call : BatchCall Unit}
    (index : Nat)
    (tends :
      ∀ holdings,
        Call.Ensures
          (fun pair => BatchTended setup holdings pair.2 pair.1) call
          (fun _ pair => BatchTended setup holdings pair.2 pair.1)
          (fun pair => BatchTended setup holdings pair.2 pair.1))
    (owned : SlotsOwned setup world.supply)
    (clear :
      ∀ transfers,
        world.batches[index]? = some transfers →
          ∀ state ∈ transfers,
            state.reading = true →
              Clear state.operationId state.stagingIdx world.supply) :
    SlotsOwned setup (world.onBatch index call answers).supply := by
  have forget (pair : Supply × List PayloadTransfer)
      (tended :
        BatchTended setup world.supply.holdings pair.2 pair.1) :
      SlotsOwned setup pair.1 :=
    ⟨tended.steady.owned, trivial, tended.steady.fills,
      tended.steady.counted⟩
  have ensured :=
    (tends world.supply.holdings).weaken (fun _ tended => tended)
      (fun _ pair tended => forget pair tended) forget
  refine World.onBatch_ensures index ensured (fun transfers held => ?_) owned
  refine ⟨⟨owned.owned, rfl, owned.fills, owned.counted⟩,
    fun state listed reading => ?_⟩
  exact clear_iff.mp (clear transfers held state listed reading)

theorem World.dispatch_owned
    (arguments : DispatchArguments)
    (owned : SlotsOwned setup world.supply)
    (meets :
      DispatchMeets setup arguments
        (world.supply, Dispatching.start arguments []) answers) :
    SlotsOwned setup (world.dispatch setup arguments answers).supply := by
  have finished := dispatchInto_steady arguments
    (world.supply, Dispatching.start arguments []) answers meets owned
  unfold World.dispatch
  generalize dispatchInto setup arguments
    (world.supply, Dispatching.start arguments []) answers =
      outcome at finished ⊢
  rcases outcome with ⟨error | value, ⟨after, dispatching⟩, left⟩
  · exact finished
  · exact finished

theorem World.perform_owned
    (label : WorldStep × List Answer)
    (meets : SlotsMeet setup world label)
    (owned : SlotsOwned setup world.supply) :
    SlotsOwned setup (world.perform setup label).supply := by
  obtain ⟨step, answers⟩ := label
  cases step with
  | dispatch arguments => exact World.dispatch_owned arguments owned meets
  | materialize batch =>
    exact World.onBatch_owned batch (fun _ => materialize_tended) owned meets
  | materializeAvailable batch =>
    exact World.onBatch_owned batch (fun _ => materializeAvailable_tended)
      owned meets
  | releaseStreamedStaging batch =>
    exact World.onBatch_ensures batch releaseStreamedStaging_draining
      (fun transfers held => ⟨owned, meets transfers held⟩) owned
  | reapRegistryTransfers =>
    exact World.onSupply_ensures reapRegistryTransfers_steady owned
  | releaseLease gid =>
    exact World.onSupply_ensures (onRegistry_steady fun registry =>
      registry.releaseLease_nextOperationId gid) owned
  | completeRead index result =>
    exact owned.readsOnly (fun _ _ _ _ => trivial) (.post _ _ _)

theorem World.start_owned
    (registry : ExpertRegistry) :
    SlotsOwned setup (World.start registry).supply := by
  refine ⟨⟨?_, ?_, ?_, ?_, ?_, ?_, rfl⟩, trivial, ?_, Nat.zero_le _⟩
  · exact fun transfer listed => absurd listed List.not_mem_nil
  · exact List.nodup_nil
  · exact List.nodup_nil
  · exact fun slot used => absurd rfl used
  · exact fun slot used => absurd rfl used
  · exact fun transfer listed => absurd listed List.not_mem_nil
  · exact fun slot listed => absurd listed List.not_mem_nil

end Steps

/-! ## Slot ownership over a run -/

/-- Every slot in use belongs to exactly one transfer of the table. -/
def OneOwner (supply : Supply) : Prop :=
  ∀ slot,
    supply.slots slot ≠ .available →
      ∃ transfer,
        (supply.transfers.filter fun transfer =>
          slot ∈ transfer.stagingSlots) = [transfer]

/-- A list of lists without repetition holds an element in one of its lists. -/
theorem Owned.oneOwner
    {setup : SupplySetup}
    {supply : Supply}
    (owned : Owned setup supply) :
    OneOwner supply := by
  intro slot used
  obtain ⟨transfer, listed, names⟩ :=
    Supply.mem_named.mp (owned.held slot used)
  obtain ⟨before, after, split⟩ := List.append_of_mem listed
  have apart := owned.apart
  unfold Supply.named at apart
  rw [split, List.flatMap_append, List.flatMap_cons] at apart
  have others := List.nodup_append.mp apart
  have later := (List.nodup_append.mp others.2.1).2.2
  refine ⟨transfer, ?_⟩
  rw [split, List.filter_append, List.filter_cons_of_pos (by simpa using names),
    List.filter_eq_nil_iff.mpr, List.filter_eq_nil_iff.mpr, List.nil_append]
  · intro other listedAfter namesToo
    exact later slot names slot
      (List.mem_flatMap.mpr ⟨other, listedAfter, by simpa using namesToo⟩) rfl
  · intro other listedBefore namesToo
    exact others.2.2 slot
      (List.mem_flatMap.mpr ⟨other, listedBefore, by simpa using namesToo⟩)
      slot (List.mem_append_left _ names) rfl

/--
In a run whose steps meet the condition, every staging slot in use belongs to
exactly one transfer, and no write touched another transfer's slot.
-/
theorem run_slots_owned
    {setup : SupplySetup}
    {registry : ExpertRegistry}
    {labels : List (WorldStep × List Answer)}
    {world : World}
    (run :
      Run (Guarded (World.Performs setup) (SlotsMeet setup))
        (World.start registry) labels world) :
    OneOwner world.supply ∧ world.supply.trespasses = [] := by
  have owned :=
    run.invariant (fun world => SlotsOwned setup world.supply)
      (fun {source label target} owned taken => by
        obtain ⟨meets, rfl⟩ := taken
        exact World.perform_owned label meets owned)
      (World.start_owned registry)
  exact ⟨owned.owned.oneOwner, owned.owned.kept⟩

/-- An arena of two slots, over payloads that one direct read fetches. -/
def twoSlotSetup : SupplySetup where
  slotCount := 2
  arenaPinned := true
  hostSlots := 0
  isSlotPinned := fun _ => true
  vramSlots := 2
  directIo := true
  locate := fun _ => { fileOffset := 0, byteLength := 4096 }
  hostPayload := fun _ => false
  expertPayloadBytes := 4096
  demotionQueueCapacity := 4
  sectorSize := 4096
  sqEntries := 8
  slotAligned := fun _ => true

/-- Two cold experts are read, copied and retired through two slots. -/
theorem two_reads_slots_owned :
    ∃ loaded world,
      ExpertRegistry.unbuilt.init 1 4 2 0 true = .returned () loaded ∧
        Run (Guarded (World.Performs twoSlotSetup) (SlotsMeet twoSlotSetup))
          (World.start loaded)
          [(.dispatch ⟨[⟨2, 0⟩, ⟨3, 1⟩], 0, false⟩, []),
            (.completeRead 1 none, []), (.completeRead 0 none, []),
            (.materializeAvailable 0, []), (.releaseLease 2, []),
            (.reapRegistryTransfers, [.ready, .notReady])]
          world ∧
        OneOwner world.supply ∧ world.supply.trespasses = [] := by
  have passed :
      ∃ loaded world,
        ExpertRegistry.unbuilt.init 1 4 2 0 true = .returned () loaded ∧
          Run (Guarded (World.Performs twoSlotSetup) (SlotsMeet twoSlotSetup))
            (World.start loaded)
            [(.dispatch ⟨[⟨2, 0⟩, ⟨3, 1⟩], 0, false⟩, []),
              (.completeRead 1 none, []), (.completeRead 0 none, []),
              (.materializeAvailable 0, []), (.releaseLease 2, []),
              (.reapRegistryTransfers, [.ready, .notReady])]
            world := by
    apply Exists.intro
    apply Exists.intro
    apply And.intro (Eq.refl _)
    apply Run.cons ⟨by decide +kernel, Eq.refl _⟩
    apply Run.cons ⟨trivial, Eq.refl _⟩
    apply Run.cons ⟨trivial, Eq.refl _⟩
    apply Run.cons ⟨by decide +kernel, Eq.refl _⟩
    apply Run.cons ⟨trivial, Eq.refl _⟩
    apply Run.cons ⟨trivial, Eq.refl _⟩
    exact .nil _
  obtain ⟨loaded, world, built, run⟩ := passed
  exact ⟨loaded, world, built, run, run_slots_owned run⟩

/--
A second request for a slot that a read is still filling: `begin_io` refuses, and
the handler frees the slot of the first transfer.
-/
theorem refused_dispatch_frees_slot :
    ∃ loaded first second,
      ExpertRegistry.unbuilt.init 1 4 2 0 true = .returned () loaded ∧
        Run (World.Performs twoSlotSetup) (World.start loaded)
          [(.dispatch ⟨[⟨2, 0⟩], 0, false⟩, [])] first ∧
        World.Performs twoSlotSetup first
          (.dispatch ⟨[⟨3, 0⟩], 0, false⟩, []) second ∧
        (first.supply.find 1).map PendingTransfer.stagingSlots = some [0] ∧
        first.supply.slots 0 = .ioPending ∧
        second.supply.slots 0 = .available ∧
        second.supply.trespasses = [(2, 0)] := by
  apply Exists.intro
  apply Exists.intro
  apply Exists.intro
  apply And.intro (Eq.refl _)
  apply And.intro
  · apply Run.cons (Eq.refl _)
    exact .nil _
  apply And.intro (Eq.refl _)
  decide +kernel

end Aeon.Transport
