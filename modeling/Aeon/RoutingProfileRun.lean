import Aeon.RoutingProfileState

namespace Aeon.RoutingProfile

open FiniteMaps (Map sortedEntries)
open Json (decimal)
open Server (jsonEscape)

/-!
# A routing profile over crashes

A checkpoint publishes six files one after another, each by a rename, and a crash leaves
any number of them new.  The constructor trusts `state.bin` if there is a
`metadata.json`.  What a profile is for is said by the prompts credited to it: the
published profile and the one in memory, each with every prompt at most once.
-/

/-! ## The files -/

/-- The files of a profile. -/
inductive ProfileFile where
  | stateBin
  | countsCsv
  | rankingCsv
  | summaryCsv
  | progressJson
  | metadataJson
  deriving Repr, DecidableEq

/-- The output directory. -/
abbrev Disk := ProfileFile → Option Bytes

/-- The two reports with probabilities, whose digits `std::ostream` makes. -/
structure Reports (numLayers : UInt32) where
  rankingCsv : SelectionCounts numLayers → Bytes
  summaryCsv : SelectionCounts numLayers → Bytes

/-- `progress_json`. -/
def progressJson
    {numLayers : UInt32}
    (store : Store numLayers) : Bytes :=
  let completed := (sortedEntries store.completed).map fun entry =>
    Bytes.quoted (jsonEscape entry.1)
  let failed := (sortedEntries store.failed).map fun entry =>
    bytes "\x7b\"id\":" ++ Bytes.quoted (jsonEscape entry.1) ++
      bytes ",\"error\":" ++ Bytes.quoted (jsonEscape entry.2) ++ bytes "\x7d"
  bytes "\x7b\n  \"completed\": [" ++ Bytes.join (bytes ", ") completed ++
    bytes "],\n  \"failed\": [" ++ Bytes.join (bytes ", ") failed ++ bytes "]\n\x7d\n"

section Program

variable (config : RunConfig)
variable (reports : Reports config.numLayers)

/-- What `checkpoint` publishes, in order. -/
def publications (store : Store config.numLayers) : List (ProfileFile × Bytes) :=
  [(.stateBin, writeState store),
    (.countsCsv, store.aggregate.countsCsv),
    (.rankingCsv, reports.rankingCsv store.aggregate),
    (.summaryCsv, reports.summaryCsv store.aggregate),
    (.progressJson, progressJson store),
    (.metadataJson,
      metadataJson config store.completed.keys.card store.failed.keys.card)]

/-- `write_text_atomic` and `write_binary_atomic`: a rename replaces the whole file. -/
def publish
    (disk : Disk)
    (publication : ProfileFile × Bytes) : Disk :=
  Function.update disk publication.1 (some publication.2)

/-- The disk after the first publications of a checkpoint. -/
def publishFirst
    (count : Nat)
    (disk : Disk)
    (store : Store config.numLayers) : Disk :=
  ((publications config reports store).take count).foldl publish disk

/-- `checkpoint`. -/
def checkpoint
    (disk : Disk)
    (store : Store config.numLayers) : Disk :=
  (publications config reports store).foldl publish disk

/-- The constructor up to its checkpoint. -/
def openStore (disk : Disk) : Except Bytes (Store config.numLayers) :=
  if config.numLayers = 0 then
    .error (bytes "routing profile requires a positive model layer count")
  else
    match disk .metadataJson with
    | none => .ok (.fresh config.numLayers)
    | some metadata => do
        let existing ← extractJsonStringField metadata (bytes "compatibility_fingerprint")
        if existing ≠ config.compatibilityFingerprint then
          .error (bytes
            "routing profile compatibility fingerprint mismatch; use a new output directory")
        else
          match disk .stateBin with
          | none => .error (bytes "routing profile metadata exists without state.bin")
          | some file => loadState config.numLayers file

/-- What happens to a profile. -/
inductive Event where
  /-- The constructor, in a new process. -/
  | start
  /-- The constructor, with a crash after some publications of its checkpoint. -/
  | startCrash (published : Nat)
  | addPrompt (prompt : RoutingPrompt) (counter : RoutingCounter)
  | markFailed (prompt : RoutingPrompt) (reason : Bytes)
  | checkpoint
  /-- A checkpoint with a crash after some of its publications. -/
  | checkpointCrash (published : Nat)
  /-- The process ends. -/
  | crash

/-- The output directory and the store of the running process. -/
structure System where
  disk : Disk
  live : Option (Store config.numLayers)

/-- No file, no process. -/
def System.initial : System config where
  disk := fun _ => none
  live := none

/-- One event; a process that does not run makes no calls. -/
def perform (system : System config) : Event → Except Bytes (System config)
  | .start => do
      let store ← openStore config system.disk
      .ok ⟨RoutingProfile.checkpoint config reports system.disk store, some store⟩
  | .startCrash published => do
      let store ← openStore config system.disk
      .ok ⟨publishFirst config reports published system.disk store, none⟩
  | .addPrompt prompt counter =>
    match system.live with
    | none => .ok system
    | some store =>
      match store.addPrompt prompt counter with
      | .ok added => .ok { system with live := some added }
      -- The driver skips a completed prompt and gives up on a refused one.
      | .error _ => .ok system
  | .markFailed prompt reason =>
    .ok { system with live := system.live.map (·.markFailed prompt reason) }
  | .checkpoint =>
    match system.live with
    | none => .ok system
    | some store =>
      .ok { system with
        disk := RoutingProfile.checkpoint config reports system.disk store }
  | .checkpointCrash published =>
    match system.live with
    | none => .ok system
    | some store =>
      .ok ⟨publishFirst config reports published system.disk store, none⟩
  | .crash => .ok { system with live := none }

/-- A history of a profile, from an empty directory. -/
def run (events : List Event) : Except Bytes (System config) :=
  events.foldlM (perform config reports) (System.initial config)

end Program

/-! ## What a profile is for -/

/-- The prompts a profile has taken in, each with its counter, and the failures. -/
structure Profile where
  credited : List (RoutingPrompt × RoutingCounter)
  failures : Map Bytes Bytes

namespace Profile

/-- Nothing is credited. -/
def empty : Profile := ⟨[], ∅⟩

/-- The prompt's id is new and its counter counts the layers of the profile. -/
def Accepts
    (profile : Profile)
    (numLayers : UInt32)
    (prompt : RoutingPrompt)
    (counter : RoutingCounter) : Prop :=
  counter.numLayers = numLayers ∧ ∀ entry ∈ profile.credited, entry.1.id ≠ prompt.id

instance
    (profile : Profile)
    (numLayers : UInt32)
    (prompt : RoutingPrompt)
    (counter : RoutingCounter) :
    Decidable (profile.Accepts numLayers prompt counter) :=
  inferInstanceAs (Decidable (_ ∧ _))

/-- Take a prompt in; one that is refused changes nothing. -/
def add
    (profile : Profile)
    (numLayers : UInt32)
    (prompt : RoutingPrompt)
    (counter : RoutingCounter) : Profile :=
  if profile.Accepts numLayers prompt counter then
    ⟨profile.credited ++ [(prompt, counter)], profile.failures.erase prompt.id⟩
  else
    profile

/-- Note a failure. -/
def fail
    (profile : Profile)
    (prompt : RoutingPrompt)
    (reason : Bytes) : Profile :=
  { profile with failures := profile.failures.insert prompt.id reason }

end Profile

/-- The profile last published, and the one in memory. -/
structure Ledger where
  published : Option Profile
  live : Option Profile

namespace Ledger

/-- Nothing was published and nothing runs. -/
def initial : Ledger := ⟨none, none⟩

/-- What a new process starts from. -/
def restored (ledger : Ledger) : Profile :=
  ledger.published.getD .empty

/-- The first publication of a checkpoint is the one that counts. -/
def afterPublishing
    (ledger : Ledger)
    (published : Nat)
    (profile : Profile) : Option Profile :=
  if published = 0 then ledger.published else some profile

/-- One event. -/
def next
    (numLayers : UInt32)
    (ledger : Ledger) : Event → Ledger
  | .start => ⟨some ledger.restored, some ledger.restored⟩
  | .startCrash published => ⟨ledger.afterPublishing published ledger.restored, none⟩
  | .addPrompt prompt counter =>
    { ledger with live := ledger.live.map (·.add numLayers prompt counter) }
  | .markFailed prompt reason =>
    { ledger with live := ledger.live.map (·.fail prompt reason) }
  | .checkpoint =>
    match ledger.live with
    | none => ledger
    | some profile => { ledger with published := some profile }
  | .checkpointCrash published =>
    match ledger.live with
    | none => ledger
    | some profile => ⟨ledger.afterPublishing published profile, none⟩
  | .crash => { ledger with live := none }

/-- The ledger after a history. -/
def after
    (numLayers : UInt32)
    (events : List Event) : Ledger :=
  events.foldl (next numLayers) initial

end Ledger

/-! ## A profile that survives -/

/-- The store holds what its profile says. -/
structure Represents
    {numLayers : UInt32}
    (profile : Profile)
    (store : Store numLayers) : Prop where
  /-- Each count is the sum of the credited counters, in the width of the counts. -/
  counts : ∀ phase layerId expertId,
    (store.aggregate.selectionCount phase layerId expertId).toNat =
      (profile.credited.map fun entry =>
        (entry.2.selections.selectionCount phase layerId expertId).toNat).sum % 2 ^ 64
  /-- The completed prompts are the credited ones. -/
  completed : ∀ id, store.completed.lookup id =
    (profile.credited.find? fun entry => entry.1.id = id).map fun entry =>
      routingPromptSignature entry.1
  /-- No prompt is credited twice. -/
  once : (profile.credited.map fun entry => entry.1.id).Nodup
  failed : store.failed = profile.failures

/-- The program agrees with the ledger. -/
structure Sound
    (config : RunConfig)
    (ledger : Ledger)
    (system : System config) : Prop where
  live : Option.Rel Represents ledger.live system.live
  published : Option.Rel
    (fun profile file => ∃ store : Store config.numLayers,
      file = writeState store ∧ Represents profile store)
    ledger.published (system.disk .stateBin)
  /-- Opening the profile does not throw and restores what was published last. -/
  reopened : ∃ store, openStore config system.disk = .ok store ∧
    Represents ledger.restored store ∧
      ∀ file ∈ system.disk .stateBin, file = writeState store

/-- The ids of an event are among the known ones, and its reason is short enough. -/
def Event.Within (known : Finset Bytes) : Event → Prop
  | .addPrompt prompt _ => prompt.id ∈ known
  | .markFailed prompt reason => prompt.id ∈ known ∧ reason.length ≤ maxStringBytes
  | _ => True

/-- The prompts come from a corpus that a `size_t` can count, with ids up to 16 MiB. -/
def Offered (events : List Event) : Prop :=
  ∃ known : Finset Bytes,
    known.card < 2 ^ 64 ∧ (∀ id ∈ known, id.length ≤ maxStringBytes) ∧
      ∀ event ∈ events, event.Within known

/-- Every history is survived, and loading undoes writing. -/
def Survives
    (config : RunConfig)
    (reports : Reports config.numLayers) : Prop :=
  (∀ events, Offered events → ∃ system, run config reports events = .ok system ∧
    Sound config (Ledger.after config.numLayers events) system) ∧
    ∀ store : Store config.numLayers, store.Fits →
      loadState config.numLayers (writeState store) = .ok store

end Aeon.RoutingProfile
