import Aeon.ReadTracking

namespace Aeon.Transport

open Aeon.Registry
open Call (Along Ensures Finished bind_apply eachPart forEach onFirst read_apply
  write_apply)

/-!
# The pipeline and the reads

A pass over a batch takes completions for its entries and frees slots when a read
fails.  It keeps the reads followed if, whenever it gives a read up, the drive has
no other read of the same payload; the non-blocking pass starts on an entry only
when all its reads have landed, so it needs nothing.
-/

variable
    {setup : SupplySetup}
    {frame : Reads → Holdings → Prop}
    {entries others : List PayloadTransfer}
    {operationId : Nat}

/-! ## Giving a read up -/

theorem markRequestFailed_following
    (reason : String) :
    Ensures
      (fun supply =>
        Following setup frame entries supply ∧
          supply.reads.Quiet operationId)
      (markRequestFailed setup operationId reason)
      (fun _ => Following setup frame entries)
      (Following setup frame entries) := by
  rintro supply answers ⟨following, quiet⟩
  have finished :
      Finished
        (fun _ => Steady setup (pinned supply.reads frame) supply.standing)
        (Steady setup (pinned supply.reads frame) supply.standing)
        (markRequestFailed setup operationId reason supply answers) :=
    markRequestFailed_steady reason supply answers
      ⟨following.pin, following.unread quiet⟩
  generalize markRequestFailed setup operationId reason supply answers =
    outcome at finished ⊢
  rcases outcome with ⟨error | value, after, rest⟩
  · exact following.unpin finished finished.framed.1 finished.framed.2
  · exact following.unpin finished finished.framed.1 finished.framed.2

theorem failRead_following
    {Value : Type}
    {Returned : Value → Supply → Prop}
    (reason : String)
    (error : SupplyError) :
    Ensures
      (fun supply =>
        Following setup frame entries supply ∧
          supply.reads.Quiet operationId)
      (failRead setup operationId reason error)
      Returned
      (Following setup frame entries) :=
  .andThen (markRequestFailed_following reason)
    fun _ => .throwing fun _ following => following

/-- Whether a blocking pass gives a read up for its result. -/
def refusesRead
    (setup : SupplySetup)
    (chunk : Nat)
    (result : Int) : Bool :=
  result < 0 || setup.expertPayloadBytes ≤ chunk * defaultChunkBytes ||
    result ≠ expectedBytes setup chunk

theorem checkRead_following
    (chunk : Nat)
    (result : Int)
    (More : Reads → Prop) :
    Ensures
      (fun supply =>
        (Following setup frame entries supply ∧
          (refusesRead setup chunk result = true →
            supply.reads.Quiet operationId)) ∧ More supply.reads)
      (checkRead setup operationId chunk result)
      (fun _ supply =>
        Following setup frame entries supply ∧ More supply.reads)
      (Following setup frame entries) := by
  refine .branch (fun negative => ?_) (fun _ => .branch (fun short => ?_)
    (fun _ => ?_))
  · refine (failRead_following _ _).weaken ?_ (fun _ _ after => after)
      (fun _ following => following)
    rintro supply ⟨⟨following, quiet⟩, -⟩
    exact ⟨following, quiet (by simp [refusesRead, negative])⟩
  · refine (failRead_following _ _).weaken ?_ (fun _ _ after => after)
      (fun _ following => following)
    rintro supply ⟨⟨following, quiet⟩, -⟩
    exact ⟨following, quiet (by simp [refusesRead, short])⟩
  · exact .ret fun _ holds => ⟨holds.1.1, holds.2⟩

/-! ## Waiting for a read -/

theorem Supply.post_counts
    (supply : Supply)
    (index : Nat)
    (result : Option Int) :
    (supply.post index result).queued = supply.queued ∧
      (supply.post index result).posted.length +
          (supply.post index result).inFlight.length =
        supply.posted.length + supply.inFlight.length := by
  unfold Supply.post
  cases held : supply.inFlight[index]? with
  | none => exact ⟨rfl, rfl⟩
  | some chunk =>
    have inside := (List.getElem?_eq_some_iff.mp held).1
    refine ⟨rfl, ?_⟩
    simp only [List.length_append, List.length_singleton,
      List.length_eraseIdx_of_lt inside]
    omega

theorem Answer.post_cases
    (answer : Answer)
    (supply : Supply) :
    (answer.post supply = supply ∧
        (answer = .ringFailed ∨ supply.inFlight = [])) ∨
      ∃ index result,
        answer.post supply = supply.post index result ∧
          index < supply.inFlight.length := by
  have posts (index : Nat) (result : Option Int)
      (inside : supply.inFlight ≠ [] → index < supply.inFlight.length) :
      (supply.post index result = supply ∧ supply.inFlight = []) ∨
        index < supply.inFlight.length := by
    rcases List.eq_nil_or_concat supply.inFlight with empty | ⟨_, _, some⟩
    · refine Or.inl ⟨?_, empty⟩
      unfold Supply.post
      rw [empty]
      rfl
    · exact Or.inr (inside (by simp [some]))
  have positive (some : supply.inFlight ≠ []) : 0 < supply.inFlight.length :=
    List.length_pos_iff.mpr some
  have first :
      (supply.post 0 none = supply ∧
          (answer = .ringFailed ∨ supply.inFlight = [])) ∨
        ∃ index result,
          supply.post 0 none = supply.post index result ∧
            index < supply.inFlight.length := by
    rcases posts 0 none positive with ⟨same, empty⟩ | inside
    · exact Or.inl ⟨same, Or.inr empty⟩
    · exact Or.inr ⟨0, none, rfl, inside⟩
  cases answer with
  | ringFailed => exact Or.inl ⟨rfl, Or.inl rfl⟩
  | completes index result =>
    rcases posts (index % supply.inFlight.length) result
      (fun some => Nat.mod_lt _ (positive some)) with ⟨same, empty⟩ | inside
    · exact Or.inl ⟨same, Or.inr empty⟩
    · exact Or.inr ⟨_, result, rfl, inside⟩
  | ready => exact first
  | notReady => exact first
  | failed => exact first
  | taken count => exact first

theorem waitForCompletion_outcome
    (supply : Supply)
    (answers : List Answer) :
    match waitForCompletion supply answers with
    | (.ok completion, after, rest) =>
      supply.SameTable after ∧
        supply.reads.Drains (after.reads.storing completion) ∧
        after.queued = supply.queued ∧
        after.posted.length + after.inFlight.length <
          supply.posted.length + supply.inFlight.length ∧
        rest ⊆ answers
    | (.error _, after, _) =>
      after = supply ∧
        (.ringFailed ∈ answers ∨ supply.inFlight = []) := by
  unfold waitForCompletion
  rw [bind_apply, read_apply]
  dsimp only
  cases posted : supply.posted with
  | cons completion rest =>
    simp only [bind_apply, write_apply, Call.ret_apply]
    refine ⟨⟨rfl, rfl, rfl, rfl⟩, supply.emplacePosted_drains posted,
      trivial, ?_, List.Subset.refl _⟩
    simp
  | nil =>
    simp only [bind_apply, Call.ask_apply, write_apply,
      read_apply]
    rcases Answer.post_cases (answers.headD .ready) supply with
      ⟨same, reason⟩ | ⟨index, result, same, inside⟩
    · rw [same, posted]
      refine ⟨rfl, reason.imp_left fun failed => ?_⟩
      cases answers with
      | nil => contradiction
      | cons answer rest => exact failed ▸ List.mem_cons_self
    · rw [same]
      have counts := supply.post_counts index result
      have drains := supply.post_drains index result
      have table := Supply.SameTable.post supply index result
      cases landed : (supply.post index result).posted with
      | nil =>
        rw [Supply.post, List.getElem?_eq_getElem inside] at landed
        simp at landed
      | cons completion rest =>
        simp only [bind_apply, write_apply, Call.ret_apply]
        refine ⟨⟨table.registry, table.slots, table.transfers,
          table.trespasses⟩, drains.trans
            ((supply.post index result).emplacePosted_drains landed),
          counts.1, ?_, (List.tail_sublist _).subset⟩
        rw [landed, posted] at counts
        simp only [List.length_cons, List.length_nil] at counts ⊢
        omega

/-- A frame that looks at nothing of the reads but the queue. -/
def OnQueue (frame : Reads → Holdings → Prop) : Prop :=
  ∀ reads other held,
    other.queued = reads.queued → frame reads held → frame other held

theorem awaitCompletion_following
    (onQueue : OnQueue frame)
    (userData turns : Nat)
    (supply : Supply)
    (answers : List Answer)
    (following : Following setup frame entries supply)
    (unqueued : ∀ chunk ∈ supply.queued, chunk.operationId ≠ operationId)
    (ringUp : .ringFailed ∉ answers)
    (enough : supply.posted.length + supply.inFlight.length < turns) :
    Finished
      (fun completion after =>
        Following setup frame entries after ∧
          after.queued = supply.queued ∧
          supply.reads.Drains after.reads ∧
          after.stored userData = some completion)
      (Following setup frame entries)
      (awaitCompletion setup operationId userData turns supply answers) := by
  induction turns generalizing supply answers with
  | zero => omega
  | succ turns ih =>
    unfold awaitCompletion
    rw [bind_apply, read_apply]
    dsimp only
    cases stored : supply.stored userData with
    | some completion =>
      exact ⟨following, rfl, .refl _, stored⟩
    | none =>
      have waited := waitForCompletion_outcome supply answers
      dsimp only
      rw [bind_apply]
      unfold Call.catching
      generalize waitForCompletion supply answers = outcome at waited ⊢
      rcases outcome with ⟨error | completion, after, rest⟩
      · obtain ⟨rfl, reason⟩ := waited
        have empty := reason.resolve_left ringUp
        have quiet : after.reads.Quiet operationId := by
          intro chunk listed
          have shape : after.reads.outstanding = after.queued := by
            change after.queued ++ after.inFlight = _
            rw [empty, List.append_nil]
          exact unqueued chunk (shape ▸ listed)
        have failed :
            Ensures
              (fun supply =>
                Following setup frame entries supply ∧
                  supply.reads.Quiet operationId)
              (failRead setup operationId "nvme_completion_wait_failure"
                error : SupplyCall DirectIoCompletion)
              (fun _ _ => False)
              (Following setup frame entries) :=
          failRead_following _ _
        have finished := failed after rest ⟨following, quiet⟩
        dsimp only
        generalize failRead setup operationId
          "nvme_completion_wait_failure" error after rest =
            outcome at finished ⊢
        rcases outcome with ⟨error | value, last, left⟩
        · exact finished
        · exact finished.elim
      · obtain ⟨table, drains, queued, fewer, answersLeft⟩ := waited
        simp only [bind_apply, write_apply]
        have emplaced := after.emplace_drains completion
        have stands := Supply.SameTable.emplace after completion
        have sameQueue :
            (after.emplace completion).queued = supply.queued := by
          rw [← queued]
          unfold Supply.emplace
          split <;> rfl
        have counts :
            (after.emplace completion).posted = after.posted ∧
              (after.emplace completion).inFlight = after.inFlight := by
          unfold Supply.emplace
          split <;> exact ⟨rfl, rfl⟩
        have followed :=
          following.drains (table.trans stands)
            (onQueue supply.reads _ _ sameQueue following.steady.framed)
            (drains.trans emplaced)
        have finished := ih (after.emplace completion)
          rest followed (sameQueue ▸ unqueued)
          (fun failed => ringUp (answersLeft failed))
          (by rw [counts.1, counts.2]; omega)
        refine finished.weaken ?_ fun _ following => following
        rintro found last ⟨lastFollowing, lastQueue, lastDrains, lastStored⟩
        exact ⟨lastFollowing, lastQueue.trans sameQueue,
          (drains.trans emplaced).trans lastDrains, lastStored⟩

/-- A number that no read has any more. -/
def Reads.Gone
    (reads : Reads)
    (userData : Nat) : Prop :=
  userData ∉ reads.items.map Prod.fst

theorem Reads.Drains.gone
    {before after : Reads}
    {userData : Nat}
    (drains : before.Drains after)
    (gone : before.Gone userData) :
    after.Gone userData :=
  fun listed => gone (List.map_subset _ drains.items.subset listed)

theorem Supply.consume_gone
    {supply : Supply}
    {completion : DirectIoCompletion}
    (sound : supply.reads.Sound)
    (stored : completion ∈ supply.completions) :
    (supply.consume operationId completion).reads.Gone completion.userData := by
  have distinct := sound.distinct
  unfold Reads.Gone
  simp only [Reads.items, Supply.reads, Supply.consume, List.map_append,
    List.map_map, ← List.append_assoc] at distinct ⊢
  rw [List.mem_append, not_or]
  rw [List.nodup_append] at distinct
  constructor
  · intro listed
    exact distinct.2.2 _ listed _ (List.mem_map.mpr ⟨completion, stored, rfl⟩)
      rfl
  · intro listed
    obtain ⟨other, kept, same⟩ := List.mem_map.mp listed
    have different := (List.mem_filter.mp kept).2
    simp only [Function.comp_apply] at same
    simp [same] at different

variable {state : PayloadTransfer}

/-- What an entry's number range says of the completion it finds in the store. -/
theorem Followed.own_stored
    {supply : Supply}
    {chunk : Nat}
    {completion : DirectIoCompletion}
    (followed : Followed supply.reads state)
    (pending : state.ioPending = true)
    (inside : chunk < state.ioRequestCount)
    (stored : supply.stored (state.ioUserData + chunk) = some completion) :
    completion ∈ supply.completions ∧
      completion.userData = state.ioUserData + chunk ∧
      completion.operationId = state.operationId := by
  have listed := List.mem_of_find?_eq_some stored
  have number : completion.userData = state.ioUserData + chunk := by
    simpa using List.find?_some stored
  refine ⟨listed, number, ?_⟩
  refine followed.own pending (completion.userData, completion.operationId)
    ?_ ?_ ?_
  · exact List.mem_append_right _ (List.mem_map.mpr
      ⟨completion, List.mem_append_right _ listed, rfl⟩)
  · simp only [number]
    omega
  · simp only [number]
    omega

/--
What the blocking pass needs when it comes to a read: the ring does not fail, and
a result it refuses is that of the last read of the payload outstanding.
-/
def ChunkMeets
    (setup : SupplySetup)
    (state : PayloadTransfer)
    (chunk : Nat)
    (supply : Supply)
    (answers : List Answer) : Prop :=
  .ringFailed ∉ answers ∧
    match awaitCompletion setup state.operationId (state.ioUserData + chunk)
        (supply.posted.length + supply.inFlight.length + 2) supply answers with
    | (.ok completion, after, _) =>
      refusesRead setup chunk completion.result = true →
        after.reads.Quiet state.operationId
    | (.error _, _, _) => True

instance
    (reads : Reads)
    (operationId : Nat) :
    Decidable (reads.Quiet operationId) :=
  inferInstanceAs (Decidable
    (∀ chunk ∈ reads.outstanding, chunk.operationId ≠ operationId))

instance
    (state : PayloadTransfer)
    (chunk : Nat)
    (supply : Supply)
    (answers : List Answer) :
    Decidable (ChunkMeets setup state chunk supply answers) :=
  have : Decidable
      (match awaitCompletion setup state.operationId
          (state.ioUserData + chunk)
          (supply.posted.length + supply.inFlight.length + 2) supply
          answers with
      | (.ok completion, after, _) =>
        refusesRead setup chunk completion.result = true →
          after.reads.Quiet state.operationId
      | (.error _, _, _) => True) :=
    match awaitCompletion setup state.operationId (state.ioUserData + chunk)
        (supply.posted.length + supply.inFlight.length + 2) supply
        answers with
    | (.ok _, _, _) => inferInstanceAs (Decidable (_ → _))
    | (.error _, _, _) => .isTrue trivial
  inferInstanceAs (Decidable (_ ∧ _))

/-- One turn of the chunk loop of `materialize`. -/
theorem awaitChunk_following
    (onQueue : OnQueue frame)
    (pending : state.ioPending = true)
    (listed : state ∈ entries)
    {chunk : Nat}
    (inside : chunk < state.ioRequestCount)
    (supply : Supply)
    (answers : List Answer)
    (following : Following setup frame entries supply)
    (unqueued : ∀ chunk ∈ supply.queued, chunk.operationId ≠ state.operationId)
    (meets : ChunkMeets setup state chunk supply answers) :
    Finished
      (fun _ after =>
        Following setup frame entries after ∧
          after.queued = supply.queued ∧
          supply.reads.Drains after.reads ∧
          after.reads.Gone (state.ioUserData + chunk))
      (Following setup frame entries)
      (awaitChunk setup state chunk supply answers) := by
  have awaited := awaitCompletion_following onQueue
    (state.ioUserData + chunk)
    (supply.posted.length + supply.inFlight.length + 2) supply answers
    following unqueued meets.1 (by omega)
  have refused := meets.2
  unfold awaitChunk
  rw [bind_apply, read_apply]
  dsimp only
  rw [bind_apply]
  generalize awaitCompletion setup state.operationId
    (state.ioUserData + chunk)
    (supply.posted.length + supply.inFlight.length + 2) supply answers =
      outcome at awaited refused ⊢
  rcases outcome with ⟨error | completion, after, rest⟩
  · exact awaited
  · obtain ⟨waited, queue, drains, stored⟩ := awaited
    obtain ⟨held, number, own⟩ :=
      (waited.followed state listed).own_stored pending inside stored
    simp only [bind_apply, write_apply]
    have consumed := after.consume_drains own
    have gone :
        (after.consume state.operationId completion).reads.Gone
          completion.userData :=
      Supply.consume_gone waited.sound held
    have followed :=
      waited.drains (.consume after state.operationId completion)
        (onQueue after.reads _ _ rfl waited.steady.framed) consumed
    let More (reads : Reads) : Prop :=
      reads.queued = supply.queued ∧
        supply.reads.Drains reads ∧
        reads.Gone (state.ioUserData + chunk)
    have checked :
        Ensures
          (fun supply =>
            (Following setup frame entries supply ∧
              (refusesRead setup chunk completion.result = true →
                supply.reads.Quiet state.operationId)) ∧ More supply.reads)
          (if 0 ≤ completion.result ∧
              setup.expertPayloadBytes ≤ chunk * defaultChunkBytes then
            failRead setup state.operationId "nvme_invalid_chunk"
              (.runtimeError
                ("TieredExpertSupply: direct expert read returned an " ++
                  "invalid chunk index"))
          else
            checkRead setup state.operationId chunk completion.result)
          (fun _ supply =>
            Following setup frame entries supply ∧ More supply.reads)
          (Following setup frame entries) := by
      refine .branch (fun invalid => ?_) (fun _ => ?_)
      · refine (failRead_following _ _).weaken ?_ (fun _ _ after => after)
          (fun _ following => following)
        rintro current ⟨⟨currentFollowing, quiet⟩, -⟩
        exact ⟨currentFollowing, quiet (by simp [refusesRead, invalid.2])⟩
      · exact checkRead_following chunk completion.result More
    refine checked _ rest ⟨⟨followed, fun refuses => ?_⟩, queue, ?_, ?_⟩
    · exact consumed.quiet (refused refuses)
    · exact drains.trans consumed
    · exact number ▸ gone

theorem Followed.quiet
    {reads : Reads}
    (followed : Followed reads state)
    (pending : state.ioPending = true)
    (gone :
      ∀ chunk < state.ioRequestCount, reads.Gone (state.ioUserData + chunk)) :
    reads.Quiet state.operationId := by
  intro chunk outstanding own
  obtain ⟨lower, upper⟩ := followed.listed pending chunk outstanding own
  refine gone (chunk.userData - state.ioUserData) (by omega) ?_
  rw [Nat.add_sub_cancel' lower]
  exact List.mem_map.mpr ⟨(chunk.userData, chunk.operationId),
    List.mem_append_left _ (List.mem_map.mpr ⟨chunk, outstanding, rfl⟩), rfl⟩

/-- The chunk loop of `materialize`. -/
theorem awaitChunks_following
    (onQueue : OnQueue frame)
    (pending : state.ioPending = true)
    (listed : state ∈ entries)
    (supply : Supply)
    (answers : List Answer)
    (following : Following setup frame entries supply)
    (unqueued : ∀ chunk ∈ supply.queued, chunk.operationId ≠ state.operationId)
    (along :
      Along (ChunkMeets setup state) (awaitChunk setup state)
        (List.range state.ioRequestCount) supply answers) :
    Finished
      (fun _ after =>
        Following setup frame entries after ∧
          after.reads.Quiet state.operationId)
      (Following setup frame entries)
      (forEach (awaitChunk setup state)
        (List.range state.ioRequestCount) supply answers) := by
  let Keeps (done : List Nat) (after : Supply) : Prop :=
    Following setup frame entries after ∧
      after.queued = supply.queued ∧
      ∀ chunk ∈ done, after.reads.Gone (state.ioUserData + chunk)
  have turn (done : List Nat) (chunk : Nat) (rest : List Nat)
      (current : Supply) (answers : List Answer)
      (shape : List.range state.ioRequestCount = done ++ chunk :: rest)
      (meets : ChunkMeets setup state chunk current answers)
      (keeps : Keeps done current) :
      Finished (fun _ => Keeps (done ++ [chunk]))
        (Following setup frame entries)
        (awaitChunk setup state chunk current answers) := by
    obtain ⟨currentFollowing, queue, gone⟩ := keeps
    have inside : chunk < state.ioRequestCount := by
      rw [← List.mem_range, shape]
      simp
    have finished := awaitChunk_following onQueue pending listed inside current
      answers currentFollowing (queue ▸ unqueued) meets
    refine finished.weaken ?_ fun _ following => following
    rintro _ after ⟨afterFollowing, afterQueue, drains, here⟩
    refine ⟨afterFollowing, afterQueue.trans queue, fun other behind => ?_⟩
    rcases List.mem_append.mp behind with before | last
    · exact drains.gone (gone other before)
    · rw [List.mem_singleton.mp last]
      exact here
  have finished := Call.Ensures.forEach_turns
    (List.range state.ioRequestCount) turn supply answers along
    ⟨following, rfl, fun chunk none => absurd none List.not_mem_nil⟩
  refine finished.weaken ?_ fun _ following => following
  rintro _ after ⟨afterFollowing, -, gone⟩
  refine ⟨afterFollowing, (afterFollowing.followed state listed).quiet pending
    fun chunk inside => gone chunk (List.mem_range.mpr inside)⟩

/-! ## One entry of a pass -/

section Entry

variable
    {holdings : Holdings}
    {queued : List ReadChunk}

/-- The records name what they named, and nothing was queued. -/
def passing
    (holdings : Holdings)
    (queued : List ReadChunk) : Reads → Holdings → Prop :=
  fun reads held => held = holdings ∧ reads.queued = queued

theorem passing_onQueue : OnQueue (passing holdings queued) :=
  fun _ _ _ same framed => ⟨framed.1, same.trans framed.2⟩

/-- The reads are followed, and the entry's slot and reads are its own. -/
structure Watched
    (setup : SupplySetup)
    (holdings : Holdings)
    (queued : List ReadChunk)
    (others : List PayloadTransfer)
    (pair : Supply × PayloadTransfer) : Prop where
  following :
    Following setup (passing holdings queued) (pair.2 :: others) pair.1
  clear :
    pair.2.reading = true →
      ClearIn holdings pair.2.operationId pair.2.stagingIdx
  unqueued :
    pair.2.ioPending = true →
      ∀ chunk ∈ queued, chunk.operationId ≠ pair.2.operationId

/-- The entry's copy can be enqueued. -/
structure CopyReady
    (setup : SupplySetup)
    (holdings : Holdings)
    (queued : List ReadChunk)
    (others : List PayloadTransfer)
    (pair : Supply × PayloadTransfer) : Prop where
  watched : Watched setup holdings queued others pair
  quiet : pair.1.reads.Quiet pair.2.operationId
  reading : pair.2.reading = true

theorem Following.cons
    {supply : Supply}
    {state : PayloadTransfer}
    (following : Following setup frame entries supply)
    (followed : Followed supply.reads state)
    (issued :
      state.reading = true →
        state.operationId < supply.registry.nextOperationId) :
    Following setup frame (state :: entries) supply := by
  refine ⟨following.steady, following.sound, ?_, ?_⟩
  · intro other listed
    rcases List.mem_cons.mp listed with rfl | later
    · exact followed
    · exact following.followed other later
  · intro other listed
    rcases List.mem_cons.mp listed with rfl | later
    · exact issued
    · exact following.issued other later

variable {supply : Supply}
variable {state : PayloadTransfer}

theorem Following.among
    (following : Following setup frame entries supply)
    (among : ∀ state ∈ others, state ∈ entries) :
    Following setup frame others supply :=
  ⟨following.steady, following.sound,
    fun state listed => following.followed state (among state listed),
    fun state listed => following.issued state (among state listed)⟩

theorem Following.swap
    {state changed : PayloadTransfer}
    (following : Following setup frame (state :: others) supply)
    (followed : Followed supply.reads changed)
    (issued :
      changed.reading = true →
        changed.operationId < supply.registry.nextOperationId) :
    Following setup frame (changed :: others) supply :=
  (following.among fun _ listed => List.mem_cons_of_mem _ listed).cons followed
    issued

/-- The entry that the list of followed entries starts with. -/
theorem Watched.own
    {pair : Supply × PayloadTransfer}
    (watched : Watched setup holdings queued others pair) :
    Followed pair.1.reads pair.2 :=
  watched.following.followed pair.2 List.mem_cons_self

/-- An entry whose copy was enqueued needs nothing more. -/
theorem Following.enqueued
    (following :
      Following setup (passing holdings queued) (state :: others) supply) :
    Watched setup holdings queued others (supply, state.enqueued) :=
  ⟨following.swap ⟨nofun, nofun, nofun, nofun⟩ nofun, nofun, nofun⟩

theorem attachDeferred_copyReady :
    Ensures (CopyReady setup holdings queued others)
      (attachDeferred setup)
      (fun _ => CopyReady setup holdings queued others)
      (Watched setup holdings queued others) := by
  refine .read fun current => .branch (fun _ => ?_) (fun _ => .branch
    (fun _ => ?_) (fun _ => ?_))
  · exact .ret fun _ holds => holds.1
  · exact .ret fun _ holds => holds.1
  · have attached :
        Ensures
          (fun pair =>
            CopyReady setup holdings queued others pair ∧ pair = current)
          (onFirst (onRegistry fun registry =>
            registry.attachVramDestination current.2.operationId
              setup.demotionQueueCapacity))
          (fun _ => CopyReady setup holdings queued others)
          (Watched setup holdings queued others) := by
      rintro ⟨supply, state⟩ answers ⟨ready, rfl⟩
      have ensured :
          Ensures
            (fun supply =>
              Following setup (passing holdings queued) (state :: others)
                  supply ∧
                supply.reads.Quiet state.operationId)
            (onRegistry fun registry =>
              registry.attachVramDestination state.operationId
                setup.demotionQueueCapacity)
            (fun _ supply =>
              Following setup (passing holdings queued) (state :: others)
                  supply ∧
                supply.reads.Quiet state.operationId)
            (Following setup (passing holdings queued) (state :: others)) :=
        Following.ensures
          (fun _ _ => onRegistry_steady fun registry =>
            (Frame.refl _ registry).attachVramDestination.nextOperationId)
          fun reads => reads.Quiet state.operationId
      have finished := (ensured supply answers
        ⟨ready.watched.following, ready.quiet⟩).onFirst state
      refine finished.weaken ?_ ?_
      · rintro _ ⟨after, entry⟩ ⟨⟨following, quiet⟩, rfl⟩
        exact ⟨⟨following, ready.watched.clear, ready.watched.unqueued⟩,
          quiet, ready.reading⟩
      · rintro ⟨after, entry⟩ ⟨following, rfl⟩
        exact ⟨following, ready.watched.clear, ready.watched.unqueued⟩
    refine .andThen attached fun vramSlot => .andThen (.write ?_)
      fun _ => .ret fun _ ready => ready
    intro pair ready
    have own := ready.watched.own
    refine ⟨⟨ready.watched.following.swap
      ⟨own.complete, own.listed, own.own, own.numbered⟩
      (ready.watched.following.issued pair.2 List.mem_cons_self), ?_, ?_⟩,
      ready.quiet, ready.reading⟩
    · exact ready.watched.clear
    · exact ready.watched.unqueued

theorem enqueueExpertCopy_watched :
    Ensures (CopyReady setup holdings queued others)
      (enqueueExpertCopy setup)
      (fun _ => Watched setup holdings queued others)
      (Watched setup holdings queued others) := by
  refine .andThen attachDeferred_copyReady fun attached =>
    .branch (fun _ => .read fun current => ?_) (fun _ => ?_)
  · have uploaded :
        Ensures
          (fun pair =>
            CopyReady setup holdings queued others pair ∧ pair = current)
          (onFirst (uploadStaged setup current.2))
          (fun _ pair =>
            Following setup (passing holdings queued) (pair.2 :: others)
              pair.1)
          (Watched setup holdings queued others) := by
      rintro ⟨supply, state⟩ answers ⟨ready, rfl⟩
      have following := ready.watched.following
      have clear : Clear state.operationId state.stagingIdx supply := by
        rw [clear_iff, show supply.holdings = holdings from
          following.steady.framed.1]
        exact ready.watched.clear ready.reading
      have finished :=
        (uploadStaged_steady state supply answers
          ⟨following.pin, clear, following.idle clear ready.quiet⟩).onFirst
            state
      refine finished.weaken ?_ ?_
      · rintro _ ⟨after, entry⟩ ⟨steady, rfl⟩
        exact following.unpin steady steady.framed.1 steady.framed.2
      · rintro ⟨after, entry⟩ ⟨steady, rfl⟩
        exact ⟨following.unpin steady steady.framed.1 steady.framed.2,
          ready.watched.clear, ready.watched.unqueued⟩
    exact .andThen uploaded fun _ =>
      .andThen (.write fun _ following => following.enqueued)
        fun _ => .ret fun _ watched => watched
  · exact .ret fun _ ready => ready.watched

theorem enqueueOrThrow_watched :
    Ensures (CopyReady setup holdings queued others)
      (enqueueOrThrow setup)
      (fun _ => Watched setup holdings queued others)
      (Watched setup holdings queued others) :=
  .andThen enqueueExpertCopy_watched fun _ =>
    (Call.Ensures.check fun _ _ watched => watched).weaken
      (fun _ watched => watched) (fun _ _ after => after.2)
      (fun _ watched => watched)

/-- An entry whose reads have landed can be copied. -/
theorem Watched.copyReady
    {pair : Supply × PayloadTransfer}
    (watched : Watched setup holdings queued others pair)
    (landed : pair.2.ioComplete = true) :
    CopyReady setup holdings queued others pair :=
  ⟨watched, watched.own.complete landed,
    by simp [PayloadTransfer.reading, landed]⟩

theorem materializeStaged_watched :
    Ensures (Watched setup holdings queued others)
      (materializeStaged setup)
      (fun _ => Watched setup holdings queued others)
      (Watched setup holdings queued others) := by
  refine .read fun current => .branch (fun staged => ?_) (fun _ => ?_)
  · refine enqueueOrThrow_watched.weaken ?_ (fun _ _ watched => watched)
      (fun _ watched => watched)
    rintro pair ⟨watched, rfl⟩
    exact watched.copyReady staged
  · exact .ret fun _ holds => holds.1

theorem pumpCopy_watched :
    Ensures (Watched setup holdings queued others)
      (pumpCopy setup)
      (fun _ => Watched setup holdings queued others)
      (Watched setup holdings queued others) := by
  refine .read fun current => .branch (fun staged => ?_) (fun _ => ?_)
  · refine .andThen (enqueueExpertCopy_watched.weaken ?_
      (fun _ _ watched => watched) (fun _ watched => watched))
        fun _ => .ret fun _ watched => watched
    rintro pair ⟨watched, rfl⟩
    exact watched.copyReady staged
  · exact .ret fun _ holds => holds.1

/-- What the blocking pass needs when it comes to an entry. -/
def PendingMeets
    (setup : SupplySetup)
    (pair : Supply × PayloadTransfer)
    (answers : List Answer) : Prop :=
  pair.2.ioPending = true →
    Along (ChunkMeets setup pair.2) (awaitChunk setup pair.2)
      (List.range pair.2.ioRequestCount) pair.1 answers

instance
    (pair : Supply × PayloadTransfer)
    (answers : List Answer) :
    Decidable (PendingMeets setup pair answers) :=
  inferInstanceAs (Decidable (_ → _))

theorem materializePending_watched
    (pair : Supply × PayloadTransfer)
    (answers : List Answer)
    (meets : PendingMeets setup pair answers)
    (watched : Watched setup holdings queued others pair) :
    Finished
      (fun _ => Watched setup holdings queued others)
      (Watched setup holdings queued others)
      (materializePending setup pair answers) := by
  obtain ⟨supply, state⟩ := pair
  unfold materializePending
  rw [bind_apply, read_apply]
  dsimp only
  cases pending : state.ioPending with
  | false => exact watched
  | true =>
    have reading : state.reading = true := by
      simp [PayloadTransfer.reading, pending]
    have queue : supply.queued = queued :=
      watched.following.steady.framed.2
    have landed := awaitChunks_following passing_onQueue pending
      List.mem_cons_self supply answers watched.following
      (queue ▸ watched.unqueued pending) (meets pending)
    have waited :
        Finished
          (fun _ => CopyReady setup holdings queued others)
          (Watched setup holdings queued others)
          (onFirst (forEach (awaitChunk setup state)
            (List.range state.ioRequestCount)) (supply, state) answers) := by
      refine (landed.onFirst state).weaken ?_ ?_
      · rintro _ ⟨after, entry⟩ ⟨⟨following, quiet⟩, rfl⟩
        exact ⟨⟨following, watched.clear, watched.unqueued⟩, quiet, reading⟩
      · rintro ⟨after, entry⟩ ⟨following, rfl⟩
        exact ⟨following, watched.clear, watched.unqueued⟩
    exact waited.andThen fun _ => enqueueOrThrow_watched

/-- One turn of the chunk loop of `materialize_available`. -/
theorem takeChunk_following
    (pending : state.ioPending = true)
    (onQueue : OnQueue frame)
    (listed : state ∈ entries)
    {chunk : Nat}
    (inside : chunk < state.ioRequestCount) :
    Ensures
      (fun supply =>
        Following setup frame entries supply ∧
          supply.reads.Quiet state.operationId)
      (takeChunk setup state chunk)
      (fun _ supply =>
        Following setup frame entries supply ∧
          supply.reads.Quiet state.operationId)
      (Following setup frame entries) := by
  refine .read fun current => ?_
  cases stored : current.stored (state.ioUserData + chunk) with
  | none => exact .ret fun _ holds => holds.1
  | some completion =>
    have consumed :
        Ensures
          (fun supply =>
            (Following setup frame entries supply ∧
              supply.reads.Quiet state.operationId) ∧ supply = current)
          (Call.write fun supply =>
            supply.consume state.operationId completion : SupplyCall Unit)
          (fun _ supply =>
            (Following setup frame entries supply ∧
              (refusesRead setup chunk completion.result = true →
                supply.reads.Quiet state.operationId)) ∧
              supply.reads.Quiet state.operationId)
          (Following setup frame entries) := by
      refine .write ?_
      rintro supply ⟨⟨following, quiet⟩, rfl⟩
      obtain ⟨-, -, own⟩ :=
        (following.followed state listed).own_stored pending inside stored
      have drains := supply.consume_drains own
      refine ⟨⟨?_, fun _ => drains.quiet quiet⟩, drains.quiet quiet⟩
      exact following.drains (.consume supply state.operationId completion)
        (onQueue supply.reads _ _ rfl following.steady.framed) drains
    exact .andThen consumed fun _ =>
      checkRead_following chunk completion.result
        fun reads => reads.Quiet state.operationId

/-- The reads of an entry whose completions are all stored are not outstanding. -/
theorem Followed.quiet_of_landed
    (followed : Followed supply.reads state)
    (sound : supply.reads.Sound)
    (pending : state.ioPending = true)
    (landed : state.landed supply = true) :
    supply.reads.Quiet state.operationId := by
  intro chunk outstanding own
  obtain ⟨lower, upper⟩ := followed.listed pending chunk outstanding own
  have present := List.all_eq_true.mp landed (chunk.userData - state.ioUserData)
    (List.mem_range.mpr (by omega))
  rw [Nat.add_sub_cancel' lower] at present
  obtain ⟨completion, stored⟩ := Option.isSome_iff_exists.mp present
  have listed := List.mem_of_find?_eq_some stored
  have same : completion.userData = chunk.userData := by
    simpa using List.find?_some stored
  have distinct := sound.distinct
  simp only [Reads.items, List.map_append, List.map_map] at distinct
  rw [List.nodup_append] at distinct
  refine distinct.2.2 chunk.userData ?_ completion.userData ?_ same.symm
  · exact List.mem_map.mpr ⟨chunk, outstanding, rfl⟩
  · exact List.mem_append_right _ (List.mem_map.mpr ⟨completion, listed, rfl⟩)

theorem landReads_watched :
    Ensures
      (fun pair =>
        Watched setup holdings queued others pair ∧
          pair.2.ioPending = true ∧
          pair.1.reads.Quiet pair.2.operationId)
      (landReads setup)
      (fun _ => Watched setup holdings queued others)
      (Watched setup holdings queued others) := by
  refine .read fun current => ?_
  have taken :
      Ensures
        (fun pair =>
          (Watched setup holdings queued others pair ∧
            pair.2.ioPending = true ∧
            pair.1.reads.Quiet pair.2.operationId) ∧ pair = current)
        (onFirst (forEach (takeChunk setup current.2)
          (List.range current.2.ioRequestCount)))
        (fun _ pair =>
          Watched setup holdings queued others pair ∧
            pair.2.ioPending = true ∧
            pair.1.reads.Quiet pair.2.operationId)
        (Watched setup holdings queued others) := by
    rintro ⟨supply, state⟩ answers ⟨⟨watched, pending, quiet⟩, rfl⟩
    have loop :=
      Call.Ensures.forEach (List.range state.ioRequestCount)
        (fun chunk inside =>
          takeChunk_following pending passing_onQueue List.mem_cons_self
            (List.mem_range.mp inside))
        supply answers ⟨watched.following, quiet⟩
    refine (loop.onFirst state).weaken ?_ ?_
    · rintro _ ⟨after, entry⟩ ⟨⟨following, afterQuiet⟩, rfl⟩
      exact ⟨⟨following, watched.clear, watched.unqueued⟩, pending, afterQuiet⟩
    · rintro ⟨after, entry⟩ ⟨following, rfl⟩
      exact ⟨following, watched.clear, watched.unqueued⟩
  refine .andThen taken fun _ => .write ?_
  rintro pair ⟨watched, pending, quiet⟩
  have reading : pair.2.reading = true := by
    simp [PayloadTransfer.reading, pending]
  refine ⟨watched.following.swap ⟨fun _ => quiet, by simp, by simp, by simp⟩
    fun _ => watched.following.issued pair.2 List.mem_cons_self reading,
    fun _ => watched.clear reading, by simp⟩

/-- One turn of the entry loop of `materialize_available`. -/
theorem pumpEntry_watched :
    Ensures (Watched setup holdings queued others)
      (pumpEntry setup)
      (fun _ => Watched setup holdings queued others)
      (Watched setup holdings queued others) := by
  refine .read fun current => .branch (fun pending => .branch (fun landed => ?_)
    (fun _ => ?_)) (fun _ => ?_)
  · refine .andThen (landReads_watched.weaken ?_ (fun _ _ watched => watched)
      (fun _ watched => watched)) fun _ => pumpCopy_watched
    rintro pair ⟨watched, rfl⟩
    exact ⟨watched, pending, watched.own.quiet_of_landed
      watched.following.sound pending landed⟩
  · exact .ret fun _ holds => holds.1
  · exact pumpCopy_watched.weaken (fun _ holds => holds.1)
      (fun _ _ watched => watched) (fun _ watched => watched)

/-! ## A pass over a batch -/

/-- The reads are followed, and a batch's slots and reads are its own. -/
structure BatchWatched
    (setup : SupplySetup)
    (holdings : Holdings)
    (queued : List ReadChunk)
    (others transfers : List PayloadTransfer)
    (supply : Supply) : Prop where
  following :
    Following setup (passing holdings queued) (transfers ++ others) supply
  clear :
    ∀ state ∈ transfers,
      state.reading = true →
        ClearIn holdings state.operationId state.stagingIdx
  unqueued :
    ∀ state ∈ transfers,
      state.ioPending = true →
        ∀ chunk ∈ queued, chunk.operationId ≠ state.operationId

theorem BatchWatched.entry
    {done rest : List PayloadTransfer}
    {state : PayloadTransfer}
    {supply : Supply}
    (watched :
      BatchWatched setup holdings queued others (done ++ state :: rest)
        supply) :
    Watched setup holdings queued (done ++ rest ++ others) (supply, state) := by
  refine ⟨watched.following.among fun other listed => ?_,
    watched.clear state (by simp), watched.unqueued state (by simp)⟩
  simp only [List.mem_cons, List.mem_append] at listed ⊢
  tauto

theorem BatchWatched.changed
    {done rest : List PayloadTransfer}
    {state changed : PayloadTransfer}
    {supply after : Supply}
    (watched :
      BatchWatched setup holdings queued others (done ++ state :: rest) supply)
    (own :
      Watched setup holdings queued (done ++ rest ++ others)
        (after, changed)) :
    BatchWatched setup holdings queued others (done ++ changed :: rest)
      after := by
  refine ⟨own.following.among fun other listed => ?_, ?_, ?_⟩
  · simp only [List.mem_cons, List.mem_append] at listed ⊢
    tauto
  · intro other listed
    rcases List.mem_append.mp listed with before | later
    · exact watched.clear other (List.mem_append_left _ before)
    · rcases List.mem_cons.mp later with rfl | last
      · exact own.clear
      · exact watched.clear other (by simp [last])
  · intro other listed
    rcases List.mem_append.mp listed with before | later
    · exact watched.unqueued other (List.mem_append_left _ before)
    · rcases List.mem_cons.mp later with rfl | last
      · exact own.unqueued
      · exact watched.unqueued other (by simp [last])

/-- A pass whose every turn keeps its entry watched. -/
theorem eachPart_watched
    {step : EntryCall Unit}
    {Meets : Supply × PayloadTransfer → List Answer → Prop}
    (stepEnsures :
      ∀ others pair answers,
        Meets pair answers →
          Watched setup holdings queued others pair →
            Finished
              (fun _ => Watched setup holdings queued others)
              (Watched setup holdings queued others)
              (step pair answers))
    (supply : Supply)
    (transfers : List PayloadTransfer)
    (answers : List Answer)
    (along : Call.AlongParts Meets step transfers supply answers)
    (watched :
      BatchWatched setup holdings queued others transfers supply) :
    Finished
      (fun _ pair =>
        BatchWatched setup holdings queued others pair.2 pair.1)
      (fun pair => BatchWatched setup holdings queued others pair.2 pair.1)
      (eachPart step (supply, transfers) answers) := by
  let Keeps (done rest : List PayloadTransfer) (supply : Supply) : Prop :=
    BatchWatched setup holdings queued others (done ++ rest) supply
  have turn (done : List PayloadTransfer) (state : PayloadTransfer)
      (rest : List PayloadTransfer) (supply : Supply) (answers : List Answer)
      (meets : Meets (supply, state) answers)
      (keeps : Keeps done (state :: rest) supply) :
      Finished
        (fun _ pair => Keeps (done ++ [pair.2]) rest pair.1)
        (fun pair => Keeps done (pair.2 :: rest) pair.1)
        (step (supply, state) answers) := by
    have before : BatchWatched setup holdings queued others
        (done ++ state :: rest) supply := keeps
    refine (stepEnsures (done ++ rest ++ others) (supply, state) answers meets
      before.entry).weaken ?_ ?_
    · rintro _ ⟨after, changed⟩ own
      have kept := before.changed own
      rw [List.append_cons] at kept
      exact kept
    · rintro ⟨after, changed⟩ own
      exact before.changed own
  refine (Call.Ensures.eachPart_along turn transfers supply answers along
    watched).weaken ?_ ?_
  · rintro _ ⟨after, changed⟩ kept
    have all : BatchWatched setup holdings queued others (changed ++ [])
        after := kept
    rw [List.append_nil] at all
    exact all
  · rintro ⟨after, changed⟩ ⟨done, rest, rfl, kept⟩
    exact kept

/-- What `materialize` needs of its batch. -/
def MaterializeMeets
    (setup : SupplySetup)
    (pair : Supply × List PayloadTransfer)
    (answers : List Answer) : Prop :=
  match eachPart (materializeStaged setup) pair answers with
  | (.ok (), (after, transfers), rest) =>
    Call.AlongParts (PendingMeets setup) (materializePending setup)
      transfers after rest
  | (.error _, _, _) => True

instance
    (pair : Supply × List PayloadTransfer)
    (answers : List Answer) :
    Decidable (MaterializeMeets setup pair answers) :=
  match staged : eachPart (materializeStaged setup) pair answers with
  | (.ok (), (after, transfers), rest) =>
    decidable_of_iff
      (Call.AlongParts (PendingMeets setup) (materializePending setup)
        transfers after rest)
      (by unfold MaterializeMeets; rw [staged])
  | (.error _, _, _) =>
    .isTrue (by unfold MaterializeMeets; rw [staged]; trivial)

theorem materialize_watched
    (supply : Supply)
    (transfers : List PayloadTransfer)
    (answers : List Answer)
    (meets : MaterializeMeets setup (supply, transfers) answers)
    (watched :
      BatchWatched setup holdings queued others transfers supply) :
    Finished
      (fun _ pair =>
        BatchWatched setup holdings queued others pair.2 pair.1)
      (fun pair => BatchWatched setup holdings queued others pair.2 pair.1)
      (materialize setup (supply, transfers) answers) := by
  have staged := eachPart_watched
    (fun others pair answers _ watched =>
      materializeStaged_watched pair answers watched)
    supply transfers answers (Call.Ensures.alongParts_trivial _ _ _) watched
  unfold MaterializeMeets at meets
  unfold materialize
  rw [bind_apply]
  generalize eachPart (materializeStaged setup) (supply, transfers)
    answers = outcome at staged meets ⊢
  rcases outcome with ⟨error | value, ⟨after, changed⟩, rest⟩
  · exact staged
  · exact eachPart_watched
      (fun others pair answers meets watched =>
        materializePending_watched pair answers meets watched)
      after changed rest meets staged

theorem materializeAvailable_watched
    (supply : Supply)
    (transfers : List PayloadTransfer)
    (answers : List Answer)
    (watched :
      BatchWatched setup holdings queued others transfers supply) :
    Finished
      (fun _ pair =>
        BatchWatched setup holdings queued others pair.2 pair.1)
      (fun pair => BatchWatched setup holdings queued others pair.2 pair.1)
      (materializeAvailable setup (supply, transfers) answers) := by
  have drained :
      BatchWatched setup holdings queued others transfers
        (if setup.directIo then supply.drainPosted else supply) := by
    split
    · refine ⟨watched.following.drains (.drainPosted supply) ?_
        supply.drainPosted_drains, watched.clear, watched.unqueued⟩
      exact passing_onQueue supply.reads _ _ supply.drainPosted_queued
        watched.following.steady.framed
    · exact watched
  unfold materializeAvailable
  rw [bind_apply, Call.onFirst_apply]
  simp only [write_apply]
  exact eachPart_watched
    (fun others pair answers _ watched =>
      pumpEntry_watched pair answers watched)
    _ transfers answers (Call.Ensures.alongParts_trivial _ _ _) drained

end Entry

end Aeon.Transport
