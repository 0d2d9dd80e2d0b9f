import Aeon.RoutingProfileRun

namespace Aeon.RoutingProfile

open FiniteMaps (Map sortedEntries)

/-!
# A routing profile survives every crash

The state on the disk is the last published profile, and without metadata that profile
is empty.  So a store that opens the directory starts from it, whichever publications a
crash left out.  The one thing that can go wrong is the search for the fingerprint.
-/

/-! ## Profiles and stores -/

section Contents

variable {numLayers : UInt32}

theorem SelectionCounts.ext_cells
    {one other : SelectionCounts numLayers}
    (same : ∀ phase layerId expertId,
      one.selectionCount phase layerId expertId =
        other.selectionCount phase layerId expertId) :
    one = other := by
  obtain ⟨counts, sized⟩ := one
  obtain ⟨otherCounts, otherSized⟩ := other
  congr
  refine List.ext_getElem (sized.trans otherSized.symm) fun place inside otherInside => ?_
  have listed : place ∈ List.range (kPhaseCount * numLayers.toNat * kExpertCount) :=
    List.mem_range.mpr (sized ▸ inside)
  rw [← cells_index, List.mem_map] at listed
  obtain ⟨cell, listed, rfl⟩ := listed
  have equal := same cell.1 cell.2.1 cell.2.2
  rw [selectionCount_of_mem _ listed, selectionCount_of_mem _ listed] at equal
  simpa [inside, otherInside] using equal

variable {profile : Profile}
variable {prompt : RoutingPrompt}

theorem Represents.unique
    {one other : Store numLayers}
    (represents : Represents profile one)
    (otherRepresents : Represents profile other) :
    one = other := by
  have counts : one.aggregate = other.aggregate :=
    SelectionCounts.ext_cells fun phase layerId expertId => UInt64.toNat_inj.mp
      ((represents.counts phase layerId expertId).trans
        (otherRepresents.counts phase layerId expertId).symm)
  have completed : one.completed = other.completed :=
    Finmap.ext_lookup fun id =>
      (represents.completed id).trans (otherRepresents.completed id).symm
  have failed : one.failed = other.failed :=
    represents.failed.trans otherRepresents.failed.symm
  obtain ⟨aggregate, completedMap, failedMap⟩ := one
  obtain ⟨otherAggregate, otherCompleted, otherFailed⟩ := other
  simp only at counts completed failed
  rw [counts, completed, failed]

theorem selectionCount_zero
    (phase : RoutingPhase)
    (layerId expertId : Nat) :
    (SelectionCounts.zero numLayers).selectionCount phase layerId expertId = 0 := by
  rw [SelectionCounts.selectionCount, SelectionCounts.zero]
  split
  · rfl
  · rw [List.getD_eq_getElem?_getD, List.getElem?_replicate]
    split <;> rfl

theorem represents_fresh :
    Represents Profile.empty (Store.fresh numLayers) where
  counts := fun phase layerId expertId => by
    rw [Store.fresh, selectionCount_zero]
    rfl
  completed := fun id => Finmap.lookup_empty id
  once := List.nodup_nil
  failed := rfl

theorem selectionCount_merge
    {selections merged counter : SelectionCounts numLayers}
    (returned : selections.merge ⟨numLayers, counter⟩ = .ok merged)
    (phase : RoutingPhase)
    (layerId expertId : Nat) :
    merged.selectionCount phase layerId expertId =
      selections.selectionCount phase layerId expertId +
        counter.selectionCount phase layerId expertId := by
  have counts := SelectionCounts.merge_counts returned
  unfold SelectionCounts.selectionCount
  split
  · rfl
  · rw [counts]
    simp only [List.getD_eq_getElem?_getD, List.getElem?_zipWith]
    have lengths : selections.counts.length = counter.counts.length :=
      selections.sized.trans counter.sized.symm
    by_cases inside : index numLayers phase layerId expertId < selections.counts.length
    · rw [List.getElem?_eq_getElem inside, List.getElem?_eq_getElem (lengths ▸ inside)]
      rfl
    · rw [List.getElem?_eq_none (Nat.not_lt.mp inside),
        List.getElem?_eq_none (lengths ▸ Nat.not_lt.mp inside)]
      rfl

section

variable
    {store : Store numLayers}
    (represents : Represents profile store)

include represents

theorem isCompleted_new
    (new : ∀ entry ∈ profile.credited, entry.1.id ≠ prompt.id) :
    store.isCompleted prompt = .ok false := by
  have absent : profile.credited.find? (fun entry => entry.1.id = prompt.id) = none := by
    rw [List.find?_eq_none]
    intro entry listed
    rw [decide_eq_true_eq]
    exact new entry listed
  rw [Store.isCompleted, represents.completed, absent]
  rfl

theorem addPrompt_accepted
    {counter : RoutingCounter}
    (accepted : profile.Accepts numLayers prompt counter) :
    ∃ added, store.addPrompt prompt counter = .ok added ∧
      Represents (profile.add numLayers prompt counter) added ∧
        added.completed =
          store.completed.insert prompt.id (routingPromptSignature prompt) ∧
          added.failed = store.failed.erase prompt.id := by
  have credit : profile.add numLayers prompt counter =
      ⟨profile.credited ++ [(prompt, counter)], profile.failures.erase prompt.id⟩ :=
    if_pos accepted
  obtain ⟨layers, new⟩ := accepted
  obtain ⟨counterLayers, selections⟩ := counter
  subst layers
  obtain ⟨merged, returned⟩ : ∃ merged,
      store.aggregate.merge ⟨counterLayers, selections⟩ = .ok merged :=
    ⟨_, if_neg (not_not.mpr rfl)⟩
  refine ⟨⟨merged, store.completed.insert prompt.id (routingPromptSignature prompt),
    store.failed.erase prompt.id⟩, ?_, ?_, rfl, rfl⟩
  · rw [Store.addPrompt, isCompleted_new represents new]
    simp only [ok_bind, returned]
    rfl
  rw [credit]
  constructor
  · intro phase layerId expertId
    rw [selectionCount_merge returned, UInt64.toNat_add, represents.counts,
      List.map_append, List.sum_append, List.map_singleton, List.sum_singleton,
      Nat.mod_add_mod]
  · intro id
    rw [List.find?_append]
    by_cases same : id = prompt.id
    · subst same
      rw [Finmap.lookup_insert, List.find?_eq_none.mpr fun entry listed => by
        simpa using new entry listed]
      simp
    · rw [Finmap.lookup_insert_of_ne _ same, represents.completed,
        List.find?_cons_of_neg (by simpa using Ne.symm same), List.find?_nil, Option.or_none]
  · rw [List.map_append, List.nodup_append]
    refine ⟨represents.once, List.nodup_singleton _, ?_⟩
    intro id known other isLast
    obtain ⟨entry, listed, rfl⟩ := List.mem_map.mp known
    rw [List.map_singleton, List.mem_singleton] at isLast
    rw [isLast]
    exact new entry listed
  · rw [represents.failed]

theorem isCompleted_credited
    (credited : ∃ entry ∈ profile.credited, entry.1.id = prompt.id) :
    store.isCompleted prompt = .ok true ∨
      ∃ error, store.isCompleted prompt = .error error := by
  have present : (profile.credited.find? fun entry => entry.1.id = prompt.id).isSome := by
    rw [List.find?_isSome]
    simpa using credited
  obtain ⟨entry, found⟩ := Option.isSome_iff_exists.mp present
  have known := represents.completed prompt.id
  rw [found, Option.map_some] at known
  rw [Store.isCompleted, known]
  simp only
  split
  · exact Or.inr ⟨_, rfl⟩
  · exact Or.inl rfl

theorem addPrompt_refused
    {counter : RoutingCounter}
    (refused : ¬ profile.Accepts numLayers prompt counter) :
    ∃ error, store.addPrompt prompt counter = .error error := by
  by_cases new : ∀ entry ∈ profile.credited, entry.1.id ≠ prompt.id
  · have layers : counter.numLayers ≠ numLayers := fun same => refused ⟨same, new⟩
    obtain ⟨error, thrown⟩ := store.aggregate.merge_other layers
    refine ⟨error, ?_⟩
    rw [Store.addPrompt, isCompleted_new represents new]
    simp only [ok_bind, thrown]
    rfl
  · rw [Store.addPrompt]
    rcases isCompleted_credited represents (by simpa using new) with known | ⟨error, thrown⟩
    · rw [known]
      exact ⟨_, rfl⟩
    · rw [thrown]
      exact ⟨_, rfl⟩

end

end Contents

/-- The ids of a store are known, and its reasons are short. -/
structure Bounded
    {numLayers : UInt32}
    (known : Finset Bytes)
    (store : Store numLayers) : Prop where
  completed : store.completed.keys ⊆ known
  failed : store.failed.keys ⊆ known
  reasons : ∀ id reason, store.failed.lookup id = some reason →
    reason.length ≤ maxStringBytes

section Bounds

variable {numLayers : UInt32}
variable {known : Finset Bytes}
variable {store : Store numLayers}

theorem Bounded.fits
    (bounded : Bounded known store)
    (few : known.card < 2 ^ 64)
    (short : ∀ id ∈ known, id.length ≤ maxStringBytes) :
    store.Fits where
  completedCount := Nat.lt_of_le_of_lt (Finset.card_le_card bounded.completed) few
  failedCount := Nat.lt_of_le_of_lt (Finset.card_le_card bounded.failed) few
  completedIds := fun id present =>
    short id (bounded.completed (Finmap.mem_keys.mpr present))
  failedIds := fun id present => short id (bounded.failed (Finmap.mem_keys.mpr present))
  reasons := bounded.reasons

theorem bounded_fresh : Bounded known (Store.fresh numLayers) where
  completed := by
    rw [Store.fresh, Finmap.keys_empty]
    exact Finset.empty_subset known
  failed := by
    rw [Store.fresh, Finmap.keys_empty]
    exact Finset.empty_subset known
  reasons := fun id reason found => by
    rw [Store.fresh, Finmap.lookup_empty] at found
    cases found

theorem keys_insert_subset
    {Value : Type}
    {map : Map Bytes Value}
    (inside : map.keys ⊆ known)
    {id : Bytes}
    (listed : id ∈ known)
    (value : Value) :
    (map.insert id value).keys ⊆ known := by
  intro other present
  rw [Finmap.mem_keys, Finmap.mem_insert] at present
  rcases present with rfl | present
  · exact listed
  · exact inside (Finmap.mem_keys.mpr present)

section

variable
    (bounded : Bounded known store)
    {prompt : RoutingPrompt}

include bounded

theorem Bounded.added
    (listed : prompt.id ∈ known)
    {added : Store numLayers}
    (completed : added.completed =
      store.completed.insert prompt.id (routingPromptSignature prompt))
    (failed : added.failed = store.failed.erase prompt.id) :
    Bounded known added where
  completed := completed ▸ keys_insert_subset bounded.completed listed _
  failed := by
    rw [failed, Finmap.keys_erase]
    exact (Finset.erase_subset _ _).trans bounded.failed
  reasons := by
    intro id reason found
    rw [failed] at found
    by_cases same : id = prompt.id
    · rw [same, Finmap.lookup_erase] at found
      cases found
    · rw [Finmap.lookup_erase_ne same] at found
      exact bounded.reasons id reason found

theorem Bounded.markFailed
    {reason : Bytes}
    (listed : prompt.id ∈ known)
    (short : reason.length ≤ maxStringBytes) :
    Bounded known (store.markFailed prompt reason) where
  completed := bounded.completed
  failed := keys_insert_subset bounded.failed listed reason
  reasons := by
    intro id other found
    rw [Store.markFailed] at found
    by_cases same : id = prompt.id
    · subst same
      rw [Finmap.lookup_insert, Option.some.injEq] at found
      exact found ▸ short
    · rw [Finmap.lookup_insert_of_ne _ same] at found
      exact bounded.reasons id other found

end

end Bounds

theorem Represents.markFailed
    {numLayers : UInt32}
    {profile : Profile}
    {store : Store numLayers}
    (represents : Represents profile store)
    (prompt : RoutingPrompt)
    (reason : Bytes) :
    Represents (profile.fail prompt reason) (store.markFailed prompt reason) where
  counts := represents.counts
  completed := represents.completed
  once := represents.once
  failed := by rw [Store.markFailed, represents.failed, Profile.fail]

/-! ## Publishing -/

section Program

variable {config : RunConfig}
variable {reports : Reports config.numLayers}

theorem checkpoint_eq
    (disk : Disk)
    (store : Store config.numLayers) :
    checkpoint config reports disk store = publishFirst config reports 6 disk store :=
  rfl

/-- There are six publications. -/
theorem publishFirst_all
    {count : Nat}
    (all : 6 ≤ count)
    (disk : Disk)
    (store : Store config.numLayers) :
    publishFirst config reports count disk store = checkpoint config reports disk store := by
  rw [publishFirst, List.take_of_length_le all, checkpoint]

section

variable
    (count : Nat)
    (disk : Disk)
    (store : Store config.numLayers)

include count disk store

theorem publishFirst_stateBin :
    publishFirst config reports count disk store .stateBin =
      if count = 0 then disk .stateBin else some (writeState store) := by
  match count with
  | 0 | 1 | 2 | 3 | 4 | 5 => rfl
  | count + 6 =>
    rw [publishFirst_all (Nat.le_add_left 6 count)]
    rfl

theorem publishFirst_metadataJson :
    publishFirst config reports count disk store .metadataJson =
      if count < 6 then disk .metadataJson
      else some (metadataJson config store.completed.keys.card store.failed.keys.card) := by
  match count with
  | 0 | 1 | 2 | 3 | 4 | 5 => rfl
  | count + 6 =>
    rw [if_neg (Nat.not_lt.mpr (Nat.le_add_left 6 count)),
      publishFirst_all (Nat.le_add_left 6 count)]
    rfl

end

/-! ## The invariant -/

variable (config)

/-- The store holds what its profile says, within the known ids. -/
def Kept
    (known : Finset Bytes)
    (profile : Profile)
    (store : Store config.numLayers) : Prop :=
  Represents profile store ∧ Bounded known store

/-- The program agrees with the ledger, and metadata stands for a published profile. -/
structure Agrees
    (known : Finset Bytes)
    (ledger : Ledger)
    (system : System config) : Prop where
  live : Option.Rel (Kept config known) ledger.live system.live
  published : Option.Rel
    (fun profile file => ∃ store : Store config.numLayers,
      file = writeState store ∧ Kept config known profile store)
    ledger.published (system.disk .stateBin)
  /-- Without metadata no process runs, and at most the empty profile is published. -/
  metadata :
    (system.disk .metadataJson = none ∧ ledger.restored = Profile.empty ∧
      ledger.live = none) ∨
    (ledger.published.isSome = true ∧ ∃ completed failed,
      system.disk .metadataJson = some (metadataJson config completed failed))

variable {config}
variable {known : Finset Bytes}
variable {ledger : Ledger}
variable {system : System config}

theorem agrees_initial :
    Agrees config known Ledger.initial (System.initial config) where
  live := .none
  published := .none
  metadata := Or.inl ⟨rfl, rfl, rfl⟩

theorem openStore_published
    (positive : config.numLayers ≠ 0)
    (apart : ¬ Collides fingerprintField config.aeonGitCommit)
    (few : known.card < 2 ^ 64)
    (short : ∀ id ∈ known, id.length ≤ maxStringBytes)
    {completed failed : Nat}
    (written : system.disk .metadataJson = some (metadataJson config completed failed))
    {file : Bytes}
    (state : system.disk .stateBin = some file)
    {store : Store config.numLayers}
    (encoded : file = writeState store)
    (bounded : Bounded known store) :
    openStore config system.disk = .ok store := by
  have fingerprint := extract_fingerprint apart completed failed
  rw [fingerprintField] at fingerprint
  rw [openStore, if_neg positive, written]
  simp only [fingerprint, ok_bind, if_neg (not_not.mpr rfl), state, encoded]
  exact loadState_writeState (bounded.fits few short)

theorem Agrees.openStore
    (agrees : Agrees config known ledger system)
    (positive : config.numLayers ≠ 0)
    (apart : ¬ Collides fingerprintField config.aeonGitCommit)
    (few : known.card < 2 ^ 64)
    (short : ∀ id ∈ known, id.length ≤ maxStringBytes) :
    ∃ store, RoutingProfile.openStore config system.disk = .ok store ∧
      Kept config known ledger.restored store ∧
        ∀ file ∈ system.disk .stateBin, file = writeState store := by
  have published := agrees.published
  rcases agrees.metadata with ⟨missing, nothing, -⟩ | ⟨some, completed, failed, written⟩
  · refine ⟨.fresh config.numLayers, ?_, ?_, ?_⟩
    · rw [RoutingProfile.openStore, if_neg positive, missing]
    · rw [nothing]
      exact ⟨represents_fresh, bounded_fresh⟩
    · intro file isState
      rw [Option.mem_def] at isState
      rw [isState] at published
      rw [Ledger.restored] at nothing
      generalize ledger.published = last at published nothing
      cases published with
      | some saved =>
        obtain ⟨store, encoded, kept⟩ := saved
        rw [Option.getD_some] at nothing
        rw [encoded, (nothing ▸ kept.1 : Represents Profile.empty store).unique
          represents_fresh]
  · obtain ⟨profile, isLast⟩ := Option.isSome_iff_exists.mp some
    rw [isLast] at published
    generalize state : system.disk .stateBin = file at published
    cases published with
    | some saved =>
      obtain ⟨store, encoded, kept⟩ := saved
      refine ⟨store, openStore_published positive apart few short written state encoded
        kept.2, ?_, ?_⟩
      · rw [Ledger.restored, isLast]
        exact kept
      · intro other isState
        rw [Option.mem_some] at isState
        rw [← isState, encoded]

/-! ## One event -/

variable (reports)

variable {profile : Profile}

theorem agrees_checkpoint
    (disk : Disk)
    {store : Store config.numLayers}
    (kept : Kept config known profile store) :
    Agrees config known ⟨some profile, some profile⟩
      ⟨checkpoint config reports disk store, some store⟩ where
  live := .some kept
  published := by
    dsimp only
    rw [checkpoint_eq, publishFirst_stateBin]
    exact .some ⟨store, rfl, kept⟩
  metadata := by
    dsimp only
    rw [checkpoint_eq, publishFirst_metadataJson]
    exact Or.inr ⟨rfl, _, _, rfl⟩

section

variable
    (agrees : Agrees config known ledger system)

include agrees

theorem Agrees.checkpoint_crash
    {store : Store config.numLayers}
    (kept : Kept config known profile store)
    (first : system.disk .metadataJson = none → profile = ledger.restored)
    (count : Nat) :
    Agrees config known ⟨ledger.afterPublishing count profile, none⟩
      ⟨publishFirst config reports count system.disk store, none⟩ where
  live := .none
  published := by
    dsimp only
    rw [publishFirst_stateBin, Ledger.afterPublishing]
    split
    · exact agrees.published
    · exact .some ⟨store, rfl, kept⟩
  metadata := by
    dsimp only
    rw [publishFirst_metadataJson]
    by_cases all : 6 ≤ count
    · rw [if_neg (Nat.not_lt.mpr all), Ledger.afterPublishing,
        if_neg (Nat.ne_of_gt (Nat.lt_of_lt_of_le (by decide) all))]
      exact Or.inr ⟨rfl, _, _, rfl⟩
    · rw [if_pos (Nat.not_le.mp all)]
      rcases agrees.metadata with ⟨missing, nothing, -⟩ | ⟨some, completed, failed, written⟩
      · refine Or.inl ⟨missing, ?_, rfl⟩
        rw [Ledger.restored, Ledger.afterPublishing]
        split
        · exact nothing
        · rw [Option.getD_some, first missing, nothing]
      · refine Or.inr ⟨?_, completed, failed, written⟩
        rw [Ledger.afterPublishing]
        split
        · exact some
        · rfl

theorem Agrees.change
    {profile changed : Profile}
    {store : Store config.numLayers}
    (running : ledger.live = some profile)
    (kept : Kept config known changed store) :
    Agrees config known { ledger with live := some changed }
      { system with live := some store } where
  live := .some kept
  published := agrees.published
  metadata := by
    rcases agrees.metadata with ⟨-, -, stopped⟩ | written
    · rw [running] at stopped
      cases stopped
    · exact Or.inr written

/-- Both processes run, or neither does. -/
theorem Agrees.running :
    (ledger.live = none ∧ system.live = none) ∨
      ∃ profile store, ledger.live = some profile ∧ system.live = some store ∧
        Kept config known profile store := by
  have live := agrees.live
  generalize ledger.live = expected at live ⊢
  generalize system.live = actual at live ⊢
  cases live with
  | none => exact Or.inl ⟨rfl, rfl⟩
  | some kept => exact Or.inr ⟨_, _, rfl, rfl, kept⟩

/-- While a process runs there is metadata. -/
theorem Agrees.written_of_running
    (running : ledger.live = some profile) :
    system.disk .metadataJson ≠ none := by
  rcases agrees.metadata with ⟨-, -, stopped⟩ | ⟨-, completed, failed, written⟩
  · rw [running] at stopped
    cases stopped
  · rw [written]
    exact Option.some_ne_none _

end

theorem Kept.addPrompt
    {store : Store config.numLayers}
    (kept : Kept config known profile store)
    {prompt : RoutingPrompt}
    (listed : prompt.id ∈ known)
    (counter : RoutingCounter) :
    (∃ added, store.addPrompt prompt counter = .ok added ∧
      Kept config known (profile.add config.numLayers prompt counter) added) ∨
    (∃ error, store.addPrompt prompt counter = .error error) ∧
      profile.add config.numLayers prompt counter = profile := by
  by_cases accepted : profile.Accepts config.numLayers prompt counter
  · obtain ⟨added, returned, represents, completed, failed⟩ :=
      addPrompt_accepted kept.1 accepted
    exact Or.inl ⟨added, returned, represents, kept.2.added listed completed failed⟩
  · exact Or.inr ⟨addPrompt_refused kept.1 accepted, if_neg accepted⟩

section

variable
    (agrees : Agrees config known ledger system)
    (positive : config.numLayers ≠ 0)
    (apart : ¬ Collides fingerprintField config.aeonGitCommit)
    (few : known.card < 2 ^ 64)
    (short : ∀ id ∈ known, id.length ≤ maxStringBytes)

include agrees positive apart few short

theorem Agrees.step
    {event : Event}
    (within : event.Within known) :
    ∃ next, perform config reports system event = .ok next ∧
      Agrees config known (ledger.next config.numLayers event) next := by
  cases event with
  | start =>
    obtain ⟨store, opened, kept, -⟩ := agrees.openStore positive apart few short
    refine ⟨_, ?_, agrees_checkpoint reports system.disk kept⟩
    rw [perform, opened, ok_bind]
  | startCrash published =>
    obtain ⟨store, opened, kept, -⟩ := agrees.openStore positive apart few short
    refine ⟨_, ?_, agrees.checkpoint_crash reports kept (fun _ => rfl) published⟩
    rw [perform, opened, ok_bind]
  | addPrompt prompt counter =>
    rcases agrees.running with ⟨stopped, idle⟩ | ⟨profile, store, runs, live, kept⟩
    · refine ⟨system, by rw [perform, idle], ?_⟩
      rw [Ledger.next, stopped, Option.map_none, ← stopped]
      exact agrees
    · rw [Ledger.next, runs, Option.map_some]
      rcases kept.addPrompt within counter with
        ⟨added, returned, keptAdded⟩ | ⟨⟨error, thrown⟩, unchanged⟩
      · refine ⟨_, ?_, agrees.change runs keptAdded⟩
        simp only [perform, live, returned]
      · refine ⟨system, by simp only [perform, live, thrown], ?_⟩
        rw [unchanged, ← runs]
        exact agrees
  | markFailed prompt reason =>
    rcases agrees.running with ⟨stopped, idle⟩ | ⟨profile, store, runs, live, kept⟩
    · refine ⟨system, ?_, ?_⟩
      · rw [perform, idle, Option.map_none, ← idle]
      · rw [Ledger.next, stopped, Option.map_none, ← stopped]
        exact agrees
    · rw [Ledger.next, runs, Option.map_some]
      refine ⟨_, ?_, agrees.change runs ⟨kept.1.markFailed prompt reason,
        kept.2.markFailed within.1 within.2⟩⟩
      rw [perform, live, Option.map_some]
  | checkpoint =>
    rcases agrees.running with ⟨stopped, idle⟩ | ⟨profile, store, runs, live, kept⟩
    · refine ⟨system, by rw [perform, idle], ?_⟩
      rw [Ledger.next, stopped]
      exact agrees
    · refine ⟨_, by rw [perform, live], ?_⟩
      rw [Ledger.next, runs]
      exact agrees_checkpoint reports system.disk kept
  | checkpointCrash published =>
    rcases agrees.running with ⟨stopped, idle⟩ | ⟨profile, store, runs, live, kept⟩
    · refine ⟨system, by rw [perform, idle], ?_⟩
      rw [Ledger.next, stopped]
      exact agrees
    · refine ⟨_, by rw [perform, live], ?_⟩
      rw [Ledger.next, runs]
      exact agrees.checkpoint_crash reports kept
        (fun missing => absurd missing (agrees.written_of_running runs)) published
  | crash =>
    refine ⟨_, rfl, .none, agrees.published, ?_⟩
    exact agrees.metadata.imp (fun none => ⟨none.1, none.2.1, rfl⟩) id

/-- From a state in step, a whole history stays in step. -/
theorem Agrees.run
    {events : List Event}
    (within : ∀ event ∈ events, event.Within known) :
    ∃ last, events.foldlM (perform config reports) system = .ok last ∧
      Agrees config known (events.foldl (Ledger.next config.numLayers) ledger) last := by
  induction events generalizing ledger system with
  | nil => exact ⟨system, rfl, agrees⟩
  | cons event events ih =>
    rw [List.forall_mem_cons] at within
    obtain ⟨next, performed, agreesNext⟩ :=
      agrees.step reports positive apart few short within.1
    obtain ⟨last, ran, agreesLast⟩ := ih agreesNext within.2
    refine ⟨last, ?_, agreesLast⟩
    rw [List.foldlM_cons, performed, ok_bind, ran]

end

theorem rel_mono
    {One Other : Type}
    {relation weaker : One → Other → Prop}
    (included : ∀ {one other}, relation one other → weaker one other)
    {one : Option One}
    {other : Option Other}
    (related : Option.Rel relation one other) :
    Option.Rel weaker one other := by
  cases related with
  | none => exact .none
  | some related => exact .some (included related)

/-- Being in step is sound, with what opening the directory would do. -/
theorem Agrees.sound
    (agrees : Agrees config known ledger system)
    (positive : config.numLayers ≠ 0)
    (apart : ¬ Collides fingerprintField config.aeonGitCommit)
    (few : known.card < 2 ^ 64)
    (short : ∀ id ∈ known, id.length ≤ maxStringBytes) :
    Sound config ledger system where
  live := rel_mono (fun kept => kept.1) agrees.live
  published := rel_mono (fun saved => saved.imp fun _ found => ⟨found.1, found.2.1⟩)
    agrees.published
  reopened := by
    obtain ⟨store, opened, kept, encoded⟩ := agrees.openStore positive apart few short
    exact ⟨store, opened, kept.1, encoded⟩

section

variable
    (positive : config.numLayers ≠ 0)
    (collides : Collides fingerprintField config.aeonGitCommit)

include positive collides

theorem second_start_throws :
    RoutingProfile.run config reports [.start, .start] =
      .error (bytes "invalid JSONL record: expected ':'") := by
  have first : perform config reports (System.initial config) .start =
      .ok ⟨checkpoint config reports (fun _ => none) (.fresh config.numLayers),
        some (.fresh config.numLayers)⟩ := by
    rw [perform, openStore, if_neg positive]
    rfl
  have written := @publishFirst_metadataJson config reports 6 (fun _ => none)
    (Store.fresh config.numLayers)
  rw [if_neg (Nat.lt_irrefl 6), ← checkpoint_eq] at written
  have read := extract_collision collides
    (Store.fresh config.numLayers).completed.keys.card
    (Store.fresh config.numLayers).failed.keys.card
  rw [fingerprintField] at read
  rw [RoutingProfile.run, List.foldlM_cons, first, ok_bind, List.foldlM_cons, perform,
    openStore, if_neg positive]
  simp only [written, read, error_bind]

theorem not_survives_of_collides :
    ¬ Survives config reports := by
  intro survives
  obtain ⟨system, ran, -⟩ := survives.1 [.start, .start]
    ⟨∅, by decide, by simp, by simp [Event.Within]⟩
  rw [second_start_throws reports positive collides] at ran
  cases ran

end

/--
A profile survives every history if and only if the commit neither is the name of the
fingerprint field nor ends in a quote and that name.
-/
theorem survives_iff
    (positive : config.numLayers ≠ 0) :
    Survives config reports ↔ ¬ Collides fingerprintField config.aeonGitCommit := by
  constructor
  · exact fun survives collides =>
      not_survives_of_collides reports positive collides survives
  · refine fun apart => ⟨fun events offered => ?_, fun store => loadState_writeState⟩
    obtain ⟨known, few, short, within⟩ := offered
    obtain ⟨last, ran, agrees⟩ :=
      agrees_initial.run reports positive apart few short within
    exact ⟨last, ran, agrees.sound positive apart few short⟩

end Program

/-- The reports without their numbers. -/
def plainReports (numLayers : UInt32) : Reports numLayers where
  rankingCsv := fun _ => []
  summaryCsv := fun _ => []

/-- A run over 43 layers of an unknown commit. -/
def unknownConfig : RunConfig := { numLayers := 43 }

theorem survives_iff_unknownConfig :
    Survives unknownConfig (plainReports unknownConfig.numLayers) := by
  refine (survives_iff (plainReports unknownConfig.numLayers) (by decide)).mpr ?_
  rintro (same | suffix)
  · exact absurd same (by decide +kernel)
  · exact absurd suffix (by decide +kernel)

/-- A run over 43 layers of a branch with the name of the field. -/
def collidingConfig : RunConfig :=
  { aeonGitCommit := fingerprintField, numLayers := 43 }

theorem collidingConfig_not_survives :
    ¬ Survives collidingConfig (plainReports collidingConfig.numLayers) := by
  have spelled : collidingConfig.aeonGitCommit = fingerprintField := by
    rw [collidingConfig]
  exact not_survives_of_collides _ (by decide) (Or.inl spelled)

end Aeon.RoutingProfile
