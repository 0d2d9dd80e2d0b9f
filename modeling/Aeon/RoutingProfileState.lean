import Aeon.ByteCodec
import Aeon.FiniteMaps
import Aeon.MixedRadix
import Aeon.RoutingProfileMetadata

namespace Aeon.RoutingProfile

open Json (decimal)
open LittleEndian (pack unpack)
open ByteCodec (Reader Reads readExact readMany)
open FiniteMaps (Map sortedEntries ofEntries)

/-!
# The state of a routing profile

The counts, the prompts that were completed and the prompts that failed, and the file
`state.bin` that holds them.  The hash maps of the store are finite maps: the program
looks ids up, inserts and erases them, and lists them sorted.
-/

/-! ## Counts -/

/-- `RoutingPhase`. -/
inductive RoutingPhase where
  | prefill
  | decode
  deriving Repr, DecidableEq

namespace RoutingPhase

/-- The value of the enumerator. -/
def number : RoutingPhase → Nat
  | prefill => 0
  | decode => 1

/-- The phases in the order of the loops. -/
def all : List RoutingPhase := [prefill, decode]

/-- `phase_name`. -/
def name : RoutingPhase → Bytes
  | prefill => bytes "prefill"
  | decode => bytes "decode"

end RoutingPhase

/-- `RoutingCounter::kPhaseCount`. -/
def kPhaseCount : Nat := 2

/-- The counts of a `RoutingCounter` or a `RoutingProfileAggregate`. -/
structure SelectionCounts (numLayers : UInt32) where
  counts : List UInt64
  sized : counts.length = kPhaseCount * numLayers.toNat * kExpertCount
  deriving DecidableEq

/-- `RoutingCounter`. -/
structure RoutingCounter where
  numLayers : UInt32
  selections : SelectionCounts numLayers

/-- `index`. -/
def index
    (numLayers : UInt32)
    (phase : RoutingPhase)
    (layerId expertId : Nat) : Nat :=
  (phase.number * numLayers.toNat + layerId) * kExpertCount + expertId

namespace SelectionCounts

variable {numLayers : UInt32}

/-- The constructors: all counts are zero. -/
def zero (numLayers : UInt32) : SelectionCounts numLayers where
  counts := List.replicate (kPhaseCount * numLayers.toNat * kExpertCount) 0
  sized := List.length_replicate

variable (selections : SelectionCounts numLayers)

/-- `selection_count`. -/
def selectionCount
    (phase : RoutingPhase)
    (layerId expertId : Nat) : UInt64 :=
  if layerId ≥ numLayers.toNat ∨ expertId ≥ kExpertCount then 0
  else selections.counts.getD (index numLayers phase layerId expertId) 0

/-- The innermost statement of `merge`. -/
def mergeCell
    (counter : RoutingCounter)
    (selections : SelectionCounts numLayers)
    (cell : RoutingPhase × Nat × Nat) : SelectionCounts numLayers where
  counts :=
    selections.counts.modify (index numLayers cell.1 cell.2.1 cell.2.2)
      (· + counter.selections.selectionCount cell.1 cell.2.1 cell.2.2)
  sized := by rw [List.length_modify, selections.sized]

/-- The cells in the order of the three loops. -/
def cells (numLayers : UInt32) : List (RoutingPhase × Nat × Nat) :=
  RoutingPhase.all.flatMap fun phase =>
    (List.range numLayers.toNat).flatMap fun layerId =>
      (List.range kExpertCount).map fun expertId => (phase, layerId, expertId)

/-- `RoutingProfileAggregate::merge`. -/
def merge
    (counter : RoutingCounter) : Except Bytes (SelectionCounts numLayers) :=
  if counter.numLayers ≠ numLayers then
    .error (bytes "routing counter layer count does not match profile aggregate")
  else
    .ok ((cells numLayers).foldl (mergeCell counter) selections)

/-- `counts_csv`. -/
def countsCsv (selections : SelectionCounts numLayers) : Bytes :=
  bytes "phase,layer_id,expert_id,selection_count\n" ++
    (cells numLayers).flatMap fun (phase, layerId, expertId) =>
      phase.name ++ bytes "," ++ decimal layerId ++ bytes "," ++ decimal expertId ++
        bytes "," ++ decimal (selections.selectionCount phase layerId expertId).toNat ++
        bytes "\n"

end SelectionCounts

/-! ## Prompts -/

/-- `RoutingPrompt`. -/
structure RoutingPrompt where
  id : Bytes
  tokens : List UInt32
  maxNewTokens : UInt32
  deriving Repr, DecidableEq

/-- The first value of the hash. -/
def fnv1aBasis : UInt64 := 1469598103934665603

/-- `fnv1a_bytes`. -/
def fnv1aBytes
    (data : Bytes)
    (hash : UInt64) : UInt64 :=
  data.foldl (fun hash byte => (hash ^^^ byte.toUInt64) * 1099511628211) hash

/-- `routing_prompt_signature`. -/
def routingPromptSignature (prompt : RoutingPrompt) : UInt64 :=
  let hash := fnv1aBytes prompt.id fnv1aBasis
  let hash := fnv1aBytes (pack 4 prompt.maxNewTokens.toNat) hash
  prompt.tokens.foldl (fun hash token => fnv1aBytes (pack 4 token.toNat) hash) hash

/-! ## The store -/

/-- The members of `RoutingProfileStore` that a run changes. -/
structure Store (numLayers : UInt32) where
  aggregate : SelectionCounts numLayers
  completed : Map Bytes UInt64
  failed : Map Bytes Bytes

namespace Store

variable {numLayers : UInt32}

/-- The store of a profile that was never written. -/
def fresh (numLayers : UInt32) : Store numLayers where
  aggregate := .zero numLayers
  completed := ∅
  failed := ∅

/-- `is_completed`. -/
def isCompleted
    (store : Store numLayers)
    (prompt : RoutingPrompt) : Except Bytes Bool :=
  match store.completed.lookup prompt.id with
  | none => .ok false
  | some signature =>
    if signature ≠ routingPromptSignature prompt then
      .error (bytes "prompt id was already profiled with different content: " ++ prompt.id)
    else
      .ok true

/-- `add_prompt`; a call that throws leaves the store as it was. -/
def addPrompt
    (store : Store numLayers)
    (prompt : RoutingPrompt)
    (counter : RoutingCounter) : Except Bytes (Store numLayers) := do
  if ← store.isCompleted prompt then
    .error (bytes "prompt was already profiled: " ++ prompt.id)
  else
    let aggregate ← store.aggregate.merge counter
    .ok
      { aggregate := aggregate
        completed := store.completed.insert prompt.id (routingPromptSignature prompt)
        failed := store.failed.erase prompt.id }

/-- `mark_failed`. -/
def markFailed
    (store : Store numLayers)
    (prompt : RoutingPrompt)
    (reason : Bytes) : Store numLayers :=
  { store with failed := store.failed.insert prompt.id reason }

end Store

/-! ## The file -/

/-- The first bytes of `state.bin`. -/
def stateMagic : Bytes := bytes "AEONRP01"

/-- `write_string`. -/
def writeString (value : Bytes) : Bytes :=
  pack 8 value.length ++ value

/-- An entry of the completed prompts. -/
def writeCompleted (entry : Bytes × UInt64) : Bytes :=
  writeString entry.1 ++ pack 8 entry.2.toNat

/-- An entry of the failed prompts. -/
def writeFailed (entry : Bytes × Bytes) : Bytes :=
  writeString entry.1 ++ writeString entry.2

instance : IsTrans Bytes (· ≤ ·) := inferInstance

instance : Std.Antisymm (α := Bytes) (· ≤ ·) := inferInstance

instance : Std.Total (α := Bytes) (· ≤ ·) := inferInstance

/-- `write_state`: the bytes of the file. -/
def writeState
    {numLayers : UInt32}
    (store : Store numLayers) : Bytes :=
  let completed := sortedEntries store.completed
  let failed := sortedEntries store.failed
  stateMagic ++
    (pack 4 1 ++
    (pack 4 numLayers.toNat ++
    (pack 8 store.aggregate.counts.length ++
    (store.aggregate.counts.flatMap (fun count => pack 8 count.toNat) ++
    (pack 8 completed.length ++
    (completed.flatMap writeCompleted ++
    (pack 8 failed.length ++
    failed.flatMap writeFailed)))))))

/-- The text of a read past the end. -/
def truncated : Bytes := bytes "truncated routing profile state"

/-- `read_value` of an unsigned integer. -/
def readValue (width : Nat) : Reader Bytes Nat := fun input => do
  let (value, rest) ← readExact truncated width input
  .ok (unpack value, rest)

/-- `read_value<uint64_t>`. -/
def readUInt64 : Reader Bytes UInt64 := fun input => do
  let (value, rest) ← readValue 8 input
  .ok (UInt64.ofNat value, rest)

/-- `16 * 1024 * 1024`. -/
def maxStringBytes : Nat := 16 * 1024 * 1024

/-- `read_string`. -/
def readString : Reader Bytes Bytes := fun input => do
  let (size, rest) ← readExact (bytes "invalid routing profile state string") 8 input
  if unpack size > maxStringBytes then
    .error (bytes "invalid routing profile state string")
  else
    readExact truncated (unpack size) rest

/-- An entry of the completed prompts. -/
def readCompleted : Reader Bytes (Bytes × UInt64) := fun input => do
  let (id, rest) ← readString input
  let (signature, rest) ← readUInt64 rest
  .ok ((id, signature), rest)

/-- An entry of the failed prompts. -/
def readFailed : Reader Bytes (Bytes × Bytes) := fun input => do
  let (id, rest) ← readString input
  let (reason, rest) ← readString rest
  .ok ((id, reason), rest)

/-- `set_raw_counts`. -/
def setRawCounts
    (numLayers : UInt32)
    (counts : List UInt64) : Except Bytes (SelectionCounts numLayers) :=
  if sized : counts.length = kPhaseCount * numLayers.toNat * kExpertCount then
    .ok ⟨counts, sized⟩
  else
    .error (bytes "routing profile state has an invalid count array size")

/-- `load_state`, into a store with empty maps. -/
def loadState
    (numLayers : UInt32)
    (file : Bytes) : Except Bytes (Store numLayers) := do
  let badMagic := bytes "invalid routing profile state magic"
  let (magic, input) ← readExact badMagic 8 file
  if magic ≠ stateMagic then
    .error badMagic
  else
    let (version, input) ← readValue 4 input
    let (layers, input) ← readValue 4 input
    let (countSize, input) ← readValue 8 input
    if version ≠ 1 ∨ layers ≠ numLayers.toNat ∨
        countSize ≠ kPhaseCount * numLayers.toNat * kExpertCount then
      .error (bytes "routing profile state is incompatible with the requested run")
    else
      let (counts, input) ← readMany readUInt64 countSize input
      let aggregate ← setRawCounts numLayers counts
      let (completedSize, input) ← readValue 8 input
      let (completed, input) ← readMany readCompleted completedSize input
      let (failedSize, input) ← readValue 8 input
      let (failed, _) ← readMany readFailed failedSize input
      .ok
        { aggregate := aggregate
          completed := ofEntries completed
          failed := ofEntries failed }

/-! ## Merging adds every count -/

/-- The cells are visited in the order of their counts. -/
theorem cells_index
    (numLayers : UInt32) :
    (SelectionCounts.cells numLayers).map (fun cell =>
        index numLayers cell.1 cell.2.1 cell.2.2) =
      List.range (kPhaseCount * numLayers.toNat * kExpertCount) := by
  have experts : ∀ row : Nat,
      (List.range kExpertCount).map (fun expertId => row * kExpertCount + expertId) =
        (List.range kExpertCount).flatMap fun expertId =>
          [row * kExpertCount + expertId] :=
    fun row => List.map_eq_flatMap
  have phases : ∀ rows : Nat → List Nat,
      (RoutingPhase.all.flatMap fun phase => rows phase.number) =
        (List.range kPhaseCount).flatMap rows :=
    fun rows => rfl
  simp only [SelectionCounts.cells, List.map_flatMap, List.map_map, Function.comp_def,
    index, experts]
  rw [phases fun phase => (List.range numLayers.toNat).flatMap fun layerId =>
      (List.range kExpertCount).flatMap fun expertId =>
        [(phase * numLayers.toNat + layerId) * kExpertCount + expertId],
    Layout.range_flatMap_range _ _ fun row => (List.range kExpertCount).flatMap
      fun expertId => [row * kExpertCount + expertId],
    Layout.range_flatMap_range _ _ fun place => [place], ← List.map_eq_flatMap,
    List.map_id']

theorem getElem_foldl_modify
    (added : Nat → UInt64)
    (counts : List UInt64)
    (bound place : Nat) :
    ((List.range bound).foldl (fun counts place => counts.modify place (· + added place))
        counts)[place]? =
      if place < bound then counts[place]?.map (· + added place) else counts[place]? := by
  induction bound with
  | zero => rfl
  | succ bound ih =>
    rw [List.range_succ, List.foldl_append, List.foldl_cons, List.foldl_nil,
      List.getElem?_modify, ih]
    by_cases last : bound = place
    · subst last
      simp
    · simp only [if_neg last, id_map']
      have same : place < bound + 1 ↔ place < bound := by omega
      simp only [same]

namespace SelectionCounts

variable {numLayers : UInt32}

variable (selections : SelectionCounts numLayers)

theorem selectionCount_of_mem
    {cell : RoutingPhase × Nat × Nat}
    (listed : cell ∈ cells numLayers) :
    selections.selectionCount cell.1 cell.2.1 cell.2.2 =
      selections.counts.getD (index numLayers cell.1 cell.2.1 cell.2.2) 0 := by
  simp only [cells, List.mem_flatMap, List.mem_map, List.mem_range] at listed
  obtain ⟨phase, -, layerId, layerInside, expertId, expertInside, rfl⟩ := listed
  rw [selectionCount, if_neg (by simp only; omega)]

theorem foldl_mergeCell
    (counter : SelectionCounts numLayers)
    {visited : List (RoutingPhase × Nat × Nat)}
    (listed : ∀ cell ∈ visited, cell ∈ cells numLayers)
    (selections : SelectionCounts numLayers) :
    (visited.foldl (mergeCell ⟨numLayers, counter⟩) selections).counts =
      (visited.map fun cell => index numLayers cell.1 cell.2.1 cell.2.2).foldl
        (fun counts place => counts.modify place (· + counter.counts.getD place 0))
        selections.counts := by
  induction visited generalizing selections with
  | nil => rfl
  | cons cell visited ih =>
    rw [List.forall_mem_cons] at listed
    have one : (mergeCell ⟨numLayers, counter⟩ selections cell).counts =
        selections.counts.modify (index numLayers cell.1 cell.2.1 cell.2.2)
          (· + counter.counts.getD (index numLayers cell.1 cell.2.1 cell.2.2) 0) := by
      rw [← selectionCount_of_mem counter listed.1]
      rfl
    rw [List.foldl_cons, ih listed.2, List.map_cons, List.foldl_cons, one]

/-- A merge adds count by count. -/
theorem merge_counts
    {selections merged counter : SelectionCounts numLayers}
    (returned : selections.merge ⟨numLayers, counter⟩ = .ok merged) :
    merged.counts = List.zipWith (· + ·) selections.counts counter.counts := by
  rw [merge, if_neg (not_not.mpr rfl), Except.ok.injEq] at returned
  subst returned
  rw [foldl_mergeCell counter fun _ listed => listed, cells_index]
  refine List.ext_getElem? fun place => ?_
  rw [getElem_foldl_modify, List.getElem?_zipWith]
  by_cases inside : place < kPhaseCount * numLayers.toNat * kExpertCount
  · have first : place < selections.counts.length := selections.sized ▸ inside
    have second : place < counter.counts.length := counter.sized ▸ inside
    simp [inside, first, second]
  · have first : selections.counts.length ≤ place := selections.sized ▸ Nat.not_lt.mp inside
    simp [inside, List.getElem?_eq_none first]

/-- And refuses a counter of another size. -/
theorem merge_other
    {counter : RoutingCounter}
    (other : counter.numLayers ≠ numLayers) :
    ∃ error, selections.merge counter = .error error :=
  ⟨_, if_pos other⟩

end SelectionCounts

/-! ## Loading undoes writing -/

/-- A number that fits its bytes is read back, -/
theorem reads_value
    {width value : Nat}
    (fits : value < 256 ^ width) :
    Reads (readValue width) (pack width value) value := by
  intro rest
  have read := ByteCodec.reads_exact truncated (pack width value) rest
  rw [LittleEndian.pack_length] at read
  simp only [readValue, read, ok_bind, LittleEndian.unpack_pack fits]

theorem reads_uint64
    (value : UInt64) :
    Reads readUInt64 (pack 8 value.toNat) value := by
  intro rest
  have read := @reads_value 8 _ value.toNat_lt rest
  simp only [readUInt64, read, ok_bind, UInt64.ofNat_toNat]

/-- and so is a string of an accepted size, -/
theorem reads_string
    {value : Bytes}
    (small : value.length ≤ maxStringBytes) :
    Reads readString (writeString value) value := by
  intro rest
  have size := ByteCodec.reads_exact (bytes "invalid routing profile state string")
    (pack 8 value.length) (value ++ rest)
  have content := ByteCodec.reads_exact truncated value rest
  have unpacked : unpack (pack 8 value.length) = value.length :=
    LittleEndian.unpack_pack (Nat.lt_of_le_of_lt small (by decide))
  rw [LittleEndian.pack_length] at size
  rw [writeString, List.append_assoc]
  simp only [readString, size, ok_bind, unpacked, if_neg (Nat.not_lt.mpr small), content]

/-- a completed entry, -/
theorem reads_completed
    {entry : Bytes × UInt64}
    (small : entry.1.length ≤ maxStringBytes) :
    Reads readCompleted (writeCompleted entry) entry := by
  intro rest
  have id := reads_string small (pack 8 entry.2.toNat ++ rest)
  have signature := reads_uint64 entry.2 rest
  rw [writeCompleted, List.append_assoc]
  simp only [readCompleted, id, ok_bind, signature]

/-- a failed one, -/
theorem reads_failed
    {entry : Bytes × Bytes}
    (small : entry.1.length ≤ maxStringBytes)
    (smallReason : entry.2.length ≤ maxStringBytes) :
    Reads readFailed (writeFailed entry) entry := by
  intro rest
  have id := reads_string small (writeString entry.2 ++ rest)
  have reason := reads_string smallReason rest
  rw [writeFailed, List.append_assoc]
  simp only [readFailed, id, ok_bind, reason]

/-- The sizes of a store that the file can say and that the reader accepts. -/
structure Store.Fits
    {numLayers : UInt32}
    (store : Store numLayers) : Prop where
  completedCount : store.completed.keys.card < 2 ^ 64
  failedCount : store.failed.keys.card < 2 ^ 64
  completedIds : ∀ id ∈ store.completed, id.length ≤ maxStringBytes
  failedIds : ∀ id ∈ store.failed, id.length ≤ maxStringBytes
  reasons : ∀ id reason, store.failed.lookup id = some reason →
    reason.length ≤ maxStringBytes

section RoundTrip

variable {numLayers : UInt32}
variable {store : Store numLayers}

theorem reads_count {count : Nat} (fits : count < 2 ^ 64) :
    Reads (readValue 8) (pack 8 count) count :=
  reads_value fits

/-- and a table of counts. -/
theorem reads_counts
    (counts : List UInt64) :
    Reads (readMany readUInt64 counts.length)
      (counts.flatMap fun count => pack 8 count.toNat) counts :=
  ByteCodec.reads_many fun count _ => reads_uint64 count

theorem Store.Fits.reads_completed
    (fits : store.Fits) :
    Reads (readMany readCompleted (sortedEntries store.completed).length)
      ((sortedEntries store.completed).flatMap writeCompleted)
      (sortedEntries store.completed) :=
  ByteCodec.reads_many fun entry listed =>
    RoutingProfile.reads_completed (fits.completedIds entry.1
      (Finmap.mem_of_lookup_eq_some (FiniteMaps.mem_sortedEntries.mp listed)))

theorem Store.Fits.reads_failed
    (fits : store.Fits) :
    Reads (readMany readFailed (sortedEntries store.failed).length)
      ((sortedEntries store.failed).flatMap writeFailed) (sortedEntries store.failed) := by
  refine ByteCodec.reads_many fun entry listed => ?_
  have present := FiniteMaps.mem_sortedEntries.mp listed
  exact RoutingProfile.reads_failed
    (fits.failedIds entry.1 (Finmap.mem_of_lookup_eq_some present))
    (fits.reasons _ _ present)

theorem loadState_writeState
    (fits : store.Fits) :
    loadState numLayers (writeState store) = .ok store := by
  have magic : Reads (readExact (bytes "invalid routing profile state magic") 8)
      stateMagic stateMagic :=
    ByteCodec.reads_exact _ stateMagic
  have version : Reads (readValue 4) (pack 4 1) 1 := reads_value (by decide)
  have layers : Reads (readValue 4) (pack 4 numLayers.toNat) numLayers.toNat :=
    reads_value numLayers.toNat_lt
  have sized := store.aggregate.sized
  have countSize : Reads (readValue 8) (pack 8 store.aggregate.counts.length)
      store.aggregate.counts.length := by
    refine reads_count ?_
    have bound := numLayers.toNat_lt
    rw [sized, kPhaseCount, kExpertCount]
    omega
  have completedSize : Reads (readValue 8) (pack 8 (sortedEntries store.completed).length)
      (sortedEntries store.completed).length :=
    reads_count (FiniteMaps.sortedEntries_length store.completed ▸ fits.completedCount)
  have failedSize : Reads (readValue 8) (pack 8 (sortedEntries store.failed).length)
      (sortedEntries store.failed).length :=
    reads_count (FiniteMaps.sortedEntries_length store.failed ▸ fits.failedCount)
  have failed := fits.reads_failed []
  rw [List.append_nil] at failed
  have restored : setRawCounts numLayers store.aggregate.counts = .ok store.aggregate :=
    dif_pos sized
  have compatible : ¬ ((1 : Nat) ≠ 1 ∨ numLayers.toNat ≠ numLayers.toNat ∨
      store.aggregate.counts.length ≠ kPhaseCount * numLayers.toNat * kExpertCount) := by
    simp [sized]
  unfold loadState
  simp only [writeState, magic _, version _, layers _, countSize _, reads_counts _ _,
    completedSize _, fits.reads_completed _, failedSize _, failed, ok_bind,
    if_neg compatible, restored, FiniteMaps.ofEntries_sortedEntries]
  rw [if_neg (not_not.mpr rfl)]

end RoundTrip

end Aeon.RoutingProfile
