import Aeon.ReadDispatch

namespace Aeon.Transport

open Aeon.Registry

/-!
# Runs of the supply and the reads

In a run whose steps, besides taking only free slots, never give a read up while
another read of its payload is outstanding, a slot that is available has no read
queued or in flight, the outstanding reads have different numbers, and every
completion is consumed by the transfer that submitted its read.
-/

/-- What a step needs of the reads it submits and waits for. -/
def ReadsMeet
    (setup : SupplySetup)
    (world : World)
    (label : WorldStep × List Answer) : Prop :=
  match label.1 with
  | .dispatch arguments =>
    ReadDispatchMeets setup arguments
      (world.supply, Dispatching.start arguments []) label.2
  | .materialize batch =>
    ∀ transfers,
      world.batches[batch]? = some transfers →
        MaterializeMeets setup (world.supply, transfers) label.2
  | .materializeAvailable _ | .releaseStreamedStaging _
  | .reapRegistryTransfers | .releaseLease _ | .completeRead _ _ => True

instance
    (setup : SupplySetup)
    (world : World)
    (label : WorldStep × List Answer) :
    Decidable (ReadsMeet setup world label) :=
  match label with
  | (.dispatch arguments, answers) =>
    inferInstanceAs (Decidable (ReadDispatchMeets setup arguments
      (world.supply, Dispatching.start arguments []) answers))
  | (.materialize batch, answers) =>
    inferInstanceAs (Decidable
      (∀ transfers ∈ world.batches[batch]?,
        MaterializeMeets setup (world.supply, transfers) answers))
  | (.materializeAvailable _, _) => .isTrue trivial
  | (.releaseStreamedStaging _, _) => .isTrue trivial
  | (.reapRegistryTransfers, _) => .isTrue trivial
  | (.releaseLease _, _) => .isTrue trivial
  | (.completeRead _ _, _) => .isTrue trivial

/-- Both conditions on a step. -/
def SlotsAndReadsMeet
    (setup : SupplySetup)
    (world : World)
    (label : WorldStep × List Answer) : Prop :=
  SlotsMeet setup world label ∧ ReadsMeet setup world label

instance
    (setup : SupplySetup)
    (world : World)
    (label : WorldStep × List Answer) :
    Decidable (SlotsAndReadsMeet setup world label) :=
  inferInstanceAs (Decidable (_ ∧ _))

variable
    {setup : SupplySetup}
    {world : World}
    {answers : List Answer}

/-- The reads of a world are followed for the entries of all its batches. -/
structure World.Follows
    (setup : SupplySetup)
    (world : World) : Prop where
  following : ReadsFollowed setup world.batches.flatten world.supply
  unqueued : Unqueued world.batches.flatten world.supply

/-! ## `dispatch` -/

theorem Followed.idle
    {reads : Reads}
    {state : PayloadTransfer}
    (waits : state.ioPending = false)
    (landed : state.ioComplete = false) :
    Followed reads state := by
  refine ⟨fun complete => ?_, fun pending => ?_, fun pending => ?_,
    fun pending => ?_⟩
  · exact absurd (landed.symm.trans complete) (by decide)
  · exact absurd (waits.symm.trans pending) (by decide)
  · exact absurd (waits.symm.trans pending) (by decide)
  · exact absurd (waits.symm.trans pending) (by decide)

/-- A dispatch keeps every read followed, -/
theorem World.dispatch_follows
    (arguments : DispatchArguments)
    (follows : World.Follows setup world)
    (meets :
      DispatchMeets setup arguments
        (world.supply, Dispatching.start arguments []) answers)
    (readMeets :
      ReadDispatchMeets setup arguments
        (world.supply, Dispatching.start arguments []) answers) :
    World.Follows setup (world.dispatch setup arguments answers) := by
  have blank (state : PayloadTransfer)
      (listed : state ∈ (Dispatching.start arguments []).transfers) :
      state = {} :=
    List.eq_of_mem_replicate listed
  have following :
      ReadsFollowed setup
        ((Dispatching.start arguments []).transfers ++ world.batches.flatten)
        world.supply := by
    refine ⟨follows.following.steady, follows.following.sound, ?_, ?_⟩
    · intro state listed
      rcases List.mem_append.mp listed with own | outside
      · rw [blank state own]
        exact .idle rfl rfl
      · exact follows.following.followed state outside
    · intro state listed reading
      rcases List.mem_append.mp listed with own | outside
      · rw [blank state own] at reading
        contradiction
      · exact follows.following.issued state outside reading
  have untouched : Untouched [] (Dispatching.start arguments []).transfers := by
    intro index _ state held
    rw [blank state (List.mem_of_getElem? held)]
    exact ⟨rfl, rfl⟩
  have finished := dispatchInto_following arguments world.supply
    (Dispatching.start arguments []) answers meets readMeets
    ⟨following, follows.unqueued⟩ untouched
  unfold World.dispatch
  generalize dispatchInto setup arguments
    (world.supply, Dispatching.start arguments []) answers =
      outcome at finished ⊢
  rcases outcome with ⟨error | value, ⟨after, dispatching⟩, left⟩
  · exact ⟨finished.following, finished.unqueued⟩
  · have among (state : PayloadTransfer)
        (listed :
          state ∈ (world.batches ++ [dispatching.transfers]).flatten) :
        state ∈ dispatching.transfers ++ world.batches.flatten := by
      simpa [or_comm] using listed
    refine ⟨finished.1.among among, fun state listed => ?_⟩
    exact finished.2 state (among state listed)

/-! ## A pass over a batch -/

/-- The batches with one of them replaced. -/
theorem World.onBatch_follows
    (index : Nat)
    {call : BatchCall Unit}
    (passes :
      ∀ others transfers,
        world.batches[index]? = some transfers →
          ReadsFollowed setup (transfers ++ others) world.supply →
            Unqueued (transfers ++ others) world.supply →
              Call.Finished
                (fun _ pair =>
                  ReadsFollowed setup (pair.2 ++ others) pair.1 ∧
                    Unqueued (pair.2 ++ others) pair.1)
                (fun pair =>
                  ReadsFollowed setup (pair.2 ++ others) pair.1 ∧
                    Unqueued (pair.2 ++ others) pair.1)
                (call (world.supply, transfers) answers))
    (follows : World.Follows setup world) :
    World.Follows setup (world.onBatch index call answers) := by
  unfold World.onBatch
  cases held : world.batches[index]? with
  | none => exact follows
  | some transfers =>
    obtain ⟨inside, rfl⟩ := List.getElem?_eq_some_iff.mp held
    let others :=
      (world.batches.take index).flatten ++
        (world.batches.drop (index + 1)).flatten
    have rejoin (changed : List PayloadTransfer) (state : PayloadTransfer) :
        state ∈ (world.batches.set index changed).flatten ↔
          state ∈ changed ++ others := by
      rw [List.set_eq_take_append_cons_drop, if_pos inside]
      simp only [List.flatten_append, List.flatten_cons, List.mem_append,
        others]
      tauto
    have whole (state : PayloadTransfer)
        (listed : state ∈ world.batches[index] ++ others) :
        state ∈ world.batches.flatten := by
      have back := (rejoin world.batches[index] state).mpr listed
      rwa [List.set_getElem_self] at back
    have finished := passes others world.batches[index] held
      (follows.following.among whole)
      (fun state listed => follows.unqueued state (whole state listed))
    dsimp only
    generalize call (world.supply, world.batches[index]) answers =
      outcome at finished ⊢
    rcases outcome with ⟨error | value, ⟨after, changed⟩, left⟩
    · exact ⟨finished.1.among fun state => (rejoin changed state).mp,
        fun state listed => finished.2 state ((rejoin changed state).mp listed)⟩
    · exact ⟨finished.1.among fun state => (rejoin changed state).mp,
        fun state listed => finished.2 state ((rejoin changed state).mp listed)⟩

theorem Following.batchWatched
    {supply : Supply}
    {transfers others : List PayloadTransfer}
    (following : ReadsFollowed setup (transfers ++ others) supply)
    (unqueued : Unqueued (transfers ++ others) supply)
    (clear :
      ∀ state ∈ transfers,
        state.reading = true →
          Clear state.operationId state.stagingIdx supply) :
    BatchWatched setup supply.holdings supply.queued others transfers
      supply := by
  refine ⟨⟨⟨following.steady.owned, ⟨rfl, rfl⟩, following.steady.fills,
    Nat.zero_le _⟩, following.sound, following.followed, following.issued⟩,
    fun state listed reading => ?_, fun state listed => ?_⟩
  · exact clear_iff.mp (clear state listed reading)
  · exact unqueued state (List.mem_append_left _ listed)

theorem BatchWatched.follows
    {supply after : Supply}
    {transfers changed others : List PayloadTransfer}
    (watched :
      BatchWatched setup supply.holdings supply.queued others changed after)
    (unqueued : Unqueued (transfers ++ others) supply) :
    ReadsFollowed setup (changed ++ others) after ∧
      Unqueued (changed ++ others) after := by
  have following := watched.following
  have queue : after.queued = supply.queued := following.steady.framed.2
  refine ⟨⟨⟨following.steady.owned, trivial, following.steady.fills,
    Nat.zero_le _⟩, following.sound, following.followed, following.issued⟩, ?_⟩
  intro state listed pending chunk queued
  rcases List.mem_append.mp listed with own | outside
  · exact watched.unqueued state own pending chunk (queue ▸ queued)
  · exact unqueued state (List.mem_append_right _ outside) pending chunk
      (queue ▸ queued)

/-- and so does a call on one batch, -/
theorem World.onBatch_watched
    (index : Nat)
    {call : BatchCall Unit}
    (watches :
      ∀ holdings queued others transfers,
        world.batches[index]? = some transfers →
          BatchWatched setup holdings queued others transfers world.supply →
            Call.Finished
              (fun _ pair =>
                BatchWatched setup holdings queued others pair.2 pair.1)
              (fun pair =>
                BatchWatched setup holdings queued others pair.2 pair.1)
              (call (world.supply, transfers) answers))
    (follows : World.Follows setup world)
    (clear :
      ∀ transfers,
        world.batches[index]? = some transfers →
          ∀ state ∈ transfers,
            state.reading = true →
              Clear state.operationId state.stagingIdx world.supply) :
    World.Follows setup (world.onBatch index call answers) := by
  refine World.onBatch_follows index
    (fun others transfers held following unqueued => ?_) follows
  refine (watches world.supply.holdings world.supply.queued others transfers
    held (following.batchWatched unqueued (clear transfers held))).weaken ?_ ?_
  · exact fun _ pair watched => watched.follows unqueued
  · exact fun pair watched => watched.follows unqueued

/-! ## The drain -/

/-- An entry that the drain may have taken its copy off. -/
def PayloadTransfer.Drained (state changed : PayloadTransfer) : Prop :=
  ∃ prefetched, changed = { state with isPrefetched := prefetched }

theorem Followed.drained
    {reads : Reads}
    {state changed : PayloadTransfer}
    (followed : Followed reads state)
    (drained : state.Drained changed) :
    Followed reads changed := by
  obtain ⟨prefetched, rfl⟩ := drained
  exact ⟨followed.complete, followed.listed, followed.own, followed.numbered⟩

/-- One turn of the drain changes nothing an entry waits for. -/
theorem releaseStreamed_drained
    (state : PayloadTransfer) :
    Call.Ensures
      (fun pair : Supply × PayloadTransfer => pair.2 = state)
      (releaseStreamed setup)
      (fun _ pair => state.Drained pair.2)
      (fun pair => state.Drained pair.2) := by
  have onSupply {Value : Type} (call : SupplyCall Value) :
      Call.Ensures
        (fun pair : Supply × PayloadTransfer => pair.2 = state)
        (Call.onFirst call)
        (fun _ pair => pair.2 = state)
        (fun pair => state.Drained pair.2) := by
    rintro ⟨supply, part⟩ answers rfl
    rw [Call.onFirst_apply]
    generalize call supply answers = outcome
    rcases outcome with ⟨error | value, after, rest⟩
    · exact ⟨part.isPrefetched, rfl⟩
    · exact rfl
  have drained :
      Call.Ensures
        (fun pair : Supply × PayloadTransfer => pair.2 = state)
        (setState fun state => { state with isPrefetched := false })
        (fun _ pair => state.Drained pair.2)
        (fun pair => state.Drained pair.2) := by
    refine .write ?_
    rintro ⟨supply, part⟩ rfl
    exact ⟨false, rfl⟩
  refine .read fun current => ?_
  refine Call.Ensures.weaken ?_ (fun pair holds => holds.1)
    (fun _ _ same => same) (fun _ same => same)
  refine .branch (fun _ => ?_) (fun _ => ?_)
  · refine .andThen (onSupply _) fun _ => .branch (fun _ => ?_)
      (fun _ => drained)
    exact .andThen (onSupply _) fun _ =>
      .andThen (onSupply _) fun _ => drained
  · exact .ret fun pair same => ⟨pair.2.isPrefetched, same ▸ rfl⟩

theorem releaseStreamedStaging_drained
    (transfers : List PayloadTransfer) :
    Call.Ensures
      (fun pair : Supply × List PayloadTransfer => pair.2 = transfers)
      (releaseStreamedStaging setup)
      (fun _ pair =>
        ∀ changed ∈ pair.2, ∃ state ∈ transfers, state.Drained changed)
      (fun pair =>
        ∀ changed ∈ pair.2, ∃ state ∈ transfers, state.Drained changed) := by
  let Keeps (done rest : List PayloadTransfer) (_ : Supply) : Prop :=
    ∀ changed ∈ done ++ rest, ∃ state ∈ transfers, state.Drained changed
  have turn (done : List PayloadTransfer) (part : PayloadTransfer)
      (rest : List PayloadTransfer) :
      Call.Ensures
        (fun pair => pair.2 = part ∧ Keeps done (part :: rest) pair.1)
        (releaseStreamed setup)
        (fun _ pair => Keeps (done ++ [pair.2]) rest pair.1)
        (fun pair => Keeps done (pair.2 :: rest) pair.1) := by
    rintro ⟨supply, own⟩ answers ⟨rfl, keeps⟩
    have moves (changed : PayloadTransfer) (drained : own.Drained changed) :
        ∀ other ∈ done ++ changed :: rest,
          ∃ state ∈ transfers, state.Drained other := by
      intro other listed
      rcases List.mem_append.mp listed with before | later
      · exact keeps other (List.mem_append_left _ before)
      · rcases List.mem_cons.mp later with rfl | last
        · obtain ⟨state, present, first, shape⟩ := keeps own (by simp)
          obtain ⟨second, rfl⟩ := drained
          exact ⟨state, present, second, by rw [shape]⟩
        · exact keeps other (by simp [last])
    refine (releaseStreamed_drained own (supply, own) answers rfl).weaken ?_ ?_
    · rintro _ ⟨after, changed⟩ drained
      have kept := moves changed drained
      rw [List.append_cons] at kept
      exact kept
    · exact fun pair drained => moves pair.2 drained
  rintro ⟨supply, given⟩ answers rfl
  refine (Call.Ensures.eachPart turn given (supply, given) answers
    ⟨rfl, fun state listed => ⟨state, listed, state.isPrefetched, rfl⟩⟩).weaken
      ?_ ?_
  · rintro _ ⟨after, changed⟩ kept other listed
    exact kept other (List.mem_append_left _ listed)
  · rintro ⟨after, changed⟩ ⟨done, rest, rfl, kept⟩
    exact kept

/-- the release of streamed staging, -/
theorem releaseStreamedStaging_follows
    {supply : Supply}
    {transfers others : List PayloadTransfer}
    (following : ReadsFollowed setup (transfers ++ others) supply)
    (unqueued : Unqueued (transfers ++ others) supply)
    (clear :
      ∀ state ∈ transfers,
        state.isPrefetched = true →
          supply.slots state.stagingIdx = .gpuTransferPending →
            Clear state.operationId state.stagingIdx supply) :
    Call.Finished
      (fun _ pair =>
        ReadsFollowed setup (pair.2 ++ others) pair.1 ∧
          Unqueued (pair.2 ++ others) pair.1)
      (fun pair =>
        ReadsFollowed setup (pair.2 ++ others) pair.1 ∧
          Unqueued (pair.2 ++ others) pair.1)
      (releaseStreamedStaging setup (supply, transfers) answers) := by
  have steady :
      Steady setup (onReads (sameReads supply.reads)) supply.standing supply :=
    ⟨following.steady.owned, rfl, following.steady.fills, Nat.le_refl _⟩
  have finished := releaseStreamedStaging_draining (supply, transfers) answers
    ⟨steady, clear⟩
  have drained := @releaseStreamedStaging_drained setup transfers
    (supply, transfers) answers rfl
  have together (after : Supply) (changed : List PayloadTransfer)
      (kept :
        Steady setup (onReads (sameReads supply.reads)) supply.standing after)
      (entries :
        ∀ other ∈ changed, ∃ state ∈ transfers, state.Drained other) :
      ReadsFollowed setup (changed ++ others) after ∧
        Unqueued (changed ++ others) after := by
    have stands := following.unpin kept kept.framed trivial
    have queue : after.queued = supply.queued :=
      congrArg Reads.queued kept.framed
    refine ⟨⟨stands.steady, stands.sound, ?_, ?_⟩, ?_⟩
    · intro other listed
      rcases List.mem_append.mp listed with own | outside
      · obtain ⟨state, present, drained⟩ := entries other own
        exact (stands.followed state (List.mem_append_left _ present)).drained
          drained
      · exact stands.followed other (List.mem_append_right _ outside)
    · intro other listed reading
      rcases List.mem_append.mp listed with own | outside
      · obtain ⟨state, present, prefetched, rfl⟩ := entries other own
        exact stands.issued state (List.mem_append_left _ present) reading
      · exact stands.issued other (List.mem_append_right _ outside) reading
    · intro other listed pending chunk queued
      rw [queue] at queued
      rcases List.mem_append.mp listed with own | outside
      · obtain ⟨state, present, prefetched, rfl⟩ := entries other own
        exact unqueued state (List.mem_append_left _ present) pending chunk
          queued
      · exact unqueued other (List.mem_append_right _ outside) pending chunk
          queued
  generalize releaseStreamedStaging setup (supply, transfers) answers =
    outcome at finished drained ⊢
  rcases outcome with ⟨error | value, ⟨after, changed⟩, left⟩
  · exact together after changed finished drained
  · exact together after changed finished drained

/-! ## One step -/

/-- a call on the supply alone, -/
theorem World.onSupply_follows
    {call : SupplyCall Unit}
    (leaves :
      ∀ reads filling,
        Call.Ensures (Steady setup (onReads (sameReads reads)) filling) call
          (fun _ => Steady setup (onReads (sameReads reads)) filling)
          (Steady setup (onReads (sameReads reads)) filling))
    (follows : World.Follows setup world) :
    World.Follows setup (world.onSupply call answers) := by
  have following := follows.following
  have kept :
      Steady setup (onReads (sameReads world.supply.reads))
        world.supply.standing (world.onSupply call answers).supply :=
    World.onSupply_ensures (leaves _ _)
      ⟨following.steady.owned, rfl, following.steady.fills, Nat.le_refl _⟩
  have queue :
      (world.onSupply call answers).supply.queued = world.supply.queued :=
    congrArg Reads.queued kept.framed
  refine ⟨following.unpin kept kept.framed trivial, ?_⟩
  intro state listed pending chunk queued
  exact follows.unqueued state listed pending chunk (queue ▸ queued)

/-- and so every step. -/
theorem World.perform_follows
    (label : WorldStep × List Answer)
    (meets : SlotsAndReadsMeet setup world label)
    (follows : World.Follows setup world) :
    World.Follows setup (world.perform setup label) := by
  obtain ⟨step, answers⟩ := label
  obtain ⟨slots, reads⟩ := meets
  cases step with
  | dispatch arguments =>
    exact World.dispatch_follows arguments follows slots reads
  | materialize batch =>
    exact World.onBatch_watched batch
      (fun _ _ _ transfers held watched =>
        materialize_watched world.supply transfers answers
          (reads transfers held) watched)
      follows slots
  | materializeAvailable batch =>
    exact World.onBatch_watched batch
      (fun _ _ _ transfers _ watched =>
        materializeAvailable_watched world.supply transfers answers watched)
      follows slots
  | releaseStreamedStaging batch =>
    exact World.onBatch_follows batch
      (fun _ transfers held following unqueued =>
        releaseStreamedStaging_follows following unqueued
          (slots transfers held))
      follows
  | reapRegistryTransfers =>
    exact World.onSupply_follows
      (fun _ _ => reapRegistryTransfers_steady) follows
  | releaseLease gid =>
    exact World.onSupply_follows
      (fun _ _ => onRegistry_steady fun registry =>
        registry.releaseLease_nextOperationId gid)
      follows
  | completeRead index result =>
    have counts := world.supply.post_counts index result
    refine ⟨follows.following.drains (.post _ _ _) trivial
      (world.supply.post_drains index result), ?_⟩
    intro state listed pending chunk queued
    exact follows.unqueued state listed pending chunk (counts.1 ▸ queued)

/-- At the start nothing is read. -/
theorem World.start_follows
    (registry : ExpertRegistry) :
    World.Follows setup (World.start registry) := by
  have owned : SlotsOwned setup (World.start registry).supply :=
    World.start_owned registry
  refine ⟨⟨⟨owned.owned, trivial, ?_, Nat.zero_le _⟩, ⟨?_, ?_, rfl⟩, ?_, ?_⟩,
    ?_⟩
  · exact fun filled listed => absurd listed List.not_mem_nil
  · exact List.nodup_nil
  · exact fun item listed => absurd listed List.not_mem_nil
  · exact fun state listed => absurd listed List.not_mem_nil
  · exact fun state listed => absurd listed List.not_mem_nil
  · exact fun state listed => absurd listed List.not_mem_nil

/-! ## The reads over a run -/

/--
In a run whose steps meet both conditions, an available slot has no read queued or
in flight, the outstanding reads have different numbers, and no completion was
consumed by another transfer.
-/
theorem run_reads_owned
    {registry : ExpertRegistry}
    {labels : List (WorldStep × List Answer)}
    (run :
      Run (Guarded (World.Performs setup) (SlotsAndReadsMeet setup))
        (World.start registry) labels world) :
    (∀ slot,
        world.supply.slots slot = .available →
          ∀ chunk ∈ world.supply.queued ++ world.supply.inFlight,
            chunk.stagingIdx ≠ slot) ∧
      ((world.supply.queued ++ world.supply.inFlight).map
        ReadChunk.userData).Nodup ∧
      world.supply.mixups = [] := by
  have follows :=
    run.invariant (World.Follows setup)
      (fun {source label target} follows taken => by
        obtain ⟨meets, rfl⟩ := taken
        exact World.perform_follows label meets follows)
      (World.start_follows registry)
  have following := follows.following
  refine ⟨fun slot free chunk outstanding same => ?_, ?_,
    following.sound.unmixed⟩
  · have fills := following.steady.fills
      (chunk.operationId, chunk.stagingIdx)
      (List.mem_map.mpr ⟨chunk, outstanding, rfl⟩)
    have pending : world.supply.slots chunk.stagingIdx = .ioPending := fills.1
    rw [same, free] at pending
    contradiction
  · have distinct := following.sound.distinct
    unfold Reads.items at distinct
    rw [List.map_append, List.map_map] at distinct
    exact (List.nodup_append.mp distinct).1

/-- The same arena, over payloads of two reads. -/
def twoReadSetup : SupplySetup :=
  { twoSlotSetup with
    locate := fun _ => { fileOffset := 0, byteLength := 8 * 1024 * 1024 }
    expertPayloadBytes := 8 * 1024 * 1024 }

/-- A payload of two reads that complete out of order is copied and retired. -/
theorem two_chunks_reads_owned :
    ∃ loaded world,
      ExpertRegistry.unbuilt.init 1 4 2 0 true = .returned () loaded ∧
        Run (Guarded (World.Performs twoReadSetup)
            (SlotsAndReadsMeet twoReadSetup))
          (World.start loaded)
          [(.dispatch ⟨[⟨2, 0⟩, ⟨3, 1⟩], 0, false⟩, []),
            (.completeRead 3 (some (-5)), []),
            (.materialize 0, [.completes 1 none, .completes 0 none])]
          world ∧
        (∀ slot,
            world.supply.slots slot = .available →
              ∀ chunk ∈ world.supply.queued ++ world.supply.inFlight,
                chunk.stagingIdx ≠ slot) ∧
          ((world.supply.queued ++ world.supply.inFlight).map
            ReadChunk.userData).Nodup ∧
          world.supply.mixups = [] := by
  have passed :
      ∃ loaded world,
        ExpertRegistry.unbuilt.init 1 4 2 0 true = .returned () loaded ∧
          Run (Guarded (World.Performs twoReadSetup)
              (SlotsAndReadsMeet twoReadSetup))
            (World.start loaded)
            [(.dispatch ⟨[⟨2, 0⟩, ⟨3, 1⟩], 0, false⟩, []),
              (.completeRead 3 (some (-5)), []),
              (.materialize 0, [.completes 1 none, .completes 0 none])]
            world := by
    apply Exists.intro
    apply Exists.intro
    apply And.intro (Eq.refl _)
    apply Run.cons ⟨by decide +kernel, Eq.refl _⟩
    apply Run.cons ⟨by decide +kernel, Eq.refl _⟩
    apply Run.cons ⟨by decide +kernel, Eq.refl _⟩
    exact .nil _
  obtain ⟨loaded, world, built, run⟩ := passed
  exact ⟨loaded, world, built, run, run_reads_owned run⟩

/--
The first read of a payload fails while the second is in flight: the blocking pass
marks the request failed, and the slot is available with a read still to land in it.
-/
theorem failed_read_frees_filling_slot :
    ∃ loaded world,
      ExpertRegistry.unbuilt.init 1 4 2 0 true = .returned () loaded ∧
        Run (World.Performs twoReadSetup) (World.start loaded)
          [(.dispatch ⟨[⟨2, 0⟩], 0, false⟩, []),
            (.materialize 0, [.completes 0 (some (-5))])]
          world ∧
        world.supply.slots 0 = .available ∧
        ∃ chunk ∈ world.supply.queued ++ world.supply.inFlight,
          chunk.stagingIdx = 0 := by
  apply Exists.intro
  apply Exists.intro
  apply And.intro (Eq.refl _)
  apply And.intro
  · apply Run.cons (Eq.refl _)
    apply Run.cons (Eq.refl _)
    exact .nil _
  decide +kernel

end Aeon.Transport
