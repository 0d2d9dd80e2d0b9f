import Aeon.HostBudget
import Aeon.LittleEndian
import Aeon.PythonJson
import Mathlib.Data.Char
import Mathlib.Data.List.Lex

namespace Aeon.Artifact

open Json
open LittleEndian
open Memory (u64 ExpertFormat)

/-!
# The artifact container

The three files the converter writes (the dense container, the swizzled experts and
their index) and the loader that maps them.  The writer is Python and the loader
C++; each computes the header length, the padding and the expert offsets for
itself.  A pointer into a mapped file is its offset there.
-/

/-- `SECTOR_SIZE` and `AEON_SECTOR_SIZE`. -/
def sectorSize : Nat := 4096

/-- `EXPERT_RAW_BYTES` and `AEON_SWIZZLED_EXPERT_BYTES`. -/
def expertRawBytes : Nat := 14155776

/-- `AEON_DENSE_MAGIC`. -/
def denseMagic : Bytes := bytes "AEON_DENSE" ++ [0, 0]

/-- `AEON_EXP_MAGIC`. -/
def expertMagic : Bytes := bytes "AEON_EXPERTS"

/-- `AEON_DENSE_FORMAT_VERSION`. -/
def denseFormatVersion : Nat := 1

/-- `AEON_EXPERT_FORMAT_VERSION` and `AEON_SWIZZLED_EXPERT_FORMAT_VERSION`. -/
def expertFormatVersion : Nat := 2

/-- The bytes from one end of a section up to the next sector. -/
def sectorPadding (length : Nat) : Nat :=
  (sectorSize - length % sectorSize) % sectorSize

/-! ## The files -/

/-- The three files; no file is longer than an `off_t` can say. -/
structure ArtifactFiles where
  dense : Bytes
  experts : Bytes
  index : Bytes
  denseSize : dense.length < 2 ^ 63
  expertsSize : experts.length < 2 ^ 63
  indexSize : index.length < 2 ^ 63

/-! ## The converter -/

/-- A dense tensor of the source checkpoint. -/
structure DenseTensor where
  name : List Char
  dtype : List Char
  shape : List Nat
  data : Bytes

/-- The directory entry of a tensor whose data starts at `offset`. -/
def directoryEntry
    (offset : Nat)
    (tensor : DenseTensor) : PythonValue :=
  .dict
    [("name".toList, .str tensor.name),
      ("offset".toList, .int offset),
      ("size".toList, .int tensor.data.length),
      ("dtype".toList, .str tensor.dtype),
      ("shape".toList, .list (tensor.shape.map .int))]

/-- The loop that lays the tensors out one behind the other. -/
def denseDirectory : Nat → List DenseTensor → List PythonValue
  | _, [] => []
  | offset, tensor :: rest =>
    directoryEntry offset tensor ::
      denseDirectory (offset + tensor.data.length) rest

/-- `struct.pack("<12sIIQ", …)`; a field that does not fit raises. -/
def packDenseHeader
    (tensorCount directoryLength : Nat) : Option Bytes :=
  if tensorCount < 2 ^ 32 ∧ directoryLength < 2 ^ 64 then
    some (denseMagic ++ pack 4 denseFormatVersion ++ pack 4 tensorCount ++
      pack 8 directoryLength)
  else
    none

/-- The tensors in the order of their names (`sorted`). -/
def sortedByName (tensors : List DenseTensor) : List DenseTensor :=
  tensors.mergeSort fun one other => decide (one.name ≤ other.name)

/-- `convert_dense_tensors`: the bytes of `model_dense.aeon`. -/
def convertDenseTensors (tensors : List DenseTensor) : Option Bytes := do
  let sorted := sortedByName tensors
  let directory := dumps 0 (.list (denseDirectory 0 sorted))
  let header ← packDenseHeader sorted.length directory.length
  let before := header ++ directory
  some (before ++ List.replicate (sectorPadding before.length) 0 ++
    sorted.flatMap DenseTensor.data)

/-- `experts_per_layer` of the converter. -/
def convertedExpertsPerLayer : Nat := 256

/-- `struct.pack("<12sIIIQ", …)`. -/
def packIndexHeader (layers : Nat) : Option Bytes :=
  if layers < 2 ^ 32 then
    some (expertMagic ++ pack 4 expertFormatVersion ++ pack 4 layers ++
      pack 4 convertedExpertsPerLayer ++ pack 8 expertRawBytes)
  else
    none

/-- One `struct.pack("<QQ", offset, size)` of the index. -/
def packIndexEntry (slot : Nat) : Option Bytes :=
  if slot * expertRawBytes < 2 ^ 64 then
    some (pack 8 (slot * expertRawBytes) ++ pack 8 expertRawBytes)
  else
    none

/-- The payload of a slot, experts of one layer behind each other. -/
def slotPayload
    (payload : Nat → Nat → Bytes)
    (slot : Nat) : Bytes :=
  payload (slot / convertedExpertsPerLayer) (slot % convertedExpertsPerLayer)

/-- One expert's payload as it is written; a wrong size raises. -/
def checkedPayload (payload : Bytes) : Option Bytes :=
  if payload.length = expertRawBytes then some payload else none

/--
`convert_routed_experts`: the bytes of the index and of the experts file.
`payload` is what `swizzle_expert_payload` returned for a layer and an expert.
-/
def convertRoutedExperts
    (layers : Nat)
    (payload : Nat → Nat → Bytes) : Option (Bytes × Bytes) := do
  let slots := List.range (layers * convertedExpertsPerLayer)
  let header ← packIndexHeader layers
  let entries ← slots.mapM packIndexEntry
  let payloads ← slots.mapM fun slot => checkedPayload (slotPayload payload slot)
  some (header ++ entries.flatten, payloads.flatten)

/-- The files the converter writes, where it raises nothing and they fit on a disk. -/
def convert
    (tensors : List DenseTensor)
    (layers : Nat)
    (payload : Nat → Nat → Bytes) : Option ArtifactFiles := do
  let dense ← convertDenseTensors tensors
  let (index, experts) ← convertRoutedExperts layers payload
  if sizes : dense.length < 2 ^ 63 ∧ experts.length < 2 ^ 63 ∧
      index.length < 2 ^ 63 then
    some ⟨dense, experts, index, sizes.1, sizes.2.1, sizes.2.2⟩
  else
    none

/-! ## The loader -/

/-- The exceptions of the loader. -/
inductive LoaderError where
  | runtimeError (message : Bytes)
  | invalidArgument (message : Bytes)
  deriving Repr, DecidableEq

/-- A `runtime_error` of the JSON reader. -/
def readJson
    {Value : Type} :
    Except Bytes Value → Except LoaderError Value
  | .ok value => .ok value
  | .error message => .error (.runtimeError message)

/-- Throw a `runtime_error`. -/
def refuse
    {Value : Type}
    (message : String) : Except LoaderError Value :=
  .error (.runtimeError (bytes message))

/-- What the kernel answers the two `mmap` calls: the `strerror` of one it refuses. -/
structure Mappings where
  dense : Option String := none
  experts : Option String := none

/-- `mmap` of a file that long; one of no bytes always fails. -/
def mapFile
    (answer : Option String)
    (length : Nat)
    (message : String → String) : Except LoaderError Unit :=
  if length = 0 then refuse (message "Invalid argument")
  else
    match answer with
    | some reason => refuse (message reason)
    | none => .ok ()

/-- Of a file that is not empty the answer of `mmap` is all there is. -/
theorem mapFile_eq
    {length : Nat}
    (some_ : length ≠ 0)
    (answer : Option String)
    (message : String → String) :
    mapFile answer length message =
      match answer with
      | some reason => refuse (message reason)
      | none => .ok () :=
  if_neg some_

/-- `AeonArtifactSpec`, less its format kind. -/
structure ArtifactSpec where
  denseFilename : String := "model_dense.aeon"
  expertsFilename : String := "model_experts_swizzled.aeon"
  indexFilename : String := "model_experts_swizzled.index"
  expectedDenseVersion : Nat := denseFormatVersion
  expectedExpertVersion : Nat := expertFormatVersion
  expertSectorSize : Nat := sectorSize
  expectedExpertPayloadBytes : Nat := expertRawBytes
  deriving Repr, DecidableEq

/-- `LoadedTensor`; `data` is an offset into the dense file. -/
structure LoadedTensor where
  data : Nat
  byteSize : Nat
  dtype : Bytes
  shape : List Int
  deriving Repr, DecidableEq

/-- `ExpertLocation`. -/
structure ExpertLocation where
  fileOffset : Nat
  byteLength : Nat
  deriving Repr, DecidableEq

/-- `AeonModelLoader` with its files open. -/
structure AeonModelLoader where
  denseFileSize : Nat
  denseTensors : List (Bytes × LoadedTensor)
  expertsFileSize : Nat
  expertFormatVersion : Nat
  expertFormat : ExpertFormat
  expertOffsets : List Nat

section Dense

variable (indefinite : Int)

/-- The dimensions of a directory entry. -/
def parseShape : List JsonValue → Except LoaderError (List Int)
  | [] => .ok []
  | dimension :: rest => do
      let value ← readJson (dimension.asInt64 indefinite)
      if value < 0 then
        refuse "AeonModelLoader: Dense tensor shape is negative"
      else
        let others ← parseShape rest
        .ok (value :: others)

/-- One entry of `parse_dense_directory`. -/
def parseDenseEntry
    (payloadBase payloadSize : Nat)
    (entry : JsonValue) : Except LoaderError (Bytes × LoadedTensor) := do
  let name ← readJson (entry.get "name" >>= JsonValue.asString)
  let offset ← readJson (entry.get "offset" >>= JsonValue.asInt64 indefinite)
  let size ← readJson (entry.get "size" >>= JsonValue.asInt64 indefinite)
  if offset < 0 ∨ size < 0 then
    refuse "AeonModelLoader: Dense directory contains a negative range"
  else if payloadSize < offset.toNat ∨ payloadSize - offset.toNat < size.toNat then
    refuse "AeonModelLoader: Dense tensor range exceeds payload"
  else
    let dtype ← readJson (entry.get "dtype" >>= JsonValue.asString)
    let dimensions ← readJson (entry.get "shape" >>= JsonValue.asArray)
    let shape ← parseShape indefinite dimensions
    .ok (name, ⟨payloadBase + offset.toNat, size.toNat, dtype, shape⟩)

/-- The loop of `parse_dense_directory` over the entries left. -/
def parseDenseEntries
    (payloadBase payloadSize : Nat)
    (tensors : List (Bytes × LoadedTensor)) :
    List JsonValue → Except LoaderError (List (Bytes × LoadedTensor))
  | [] => .ok tensors
  | entry :: rest => do
      let (name, tensor) ← parseDenseEntry indefinite payloadBase payloadSize entry
      if (tensors.lookup name).isSome then
        .error (.runtimeError
          (bytes "AeonModelLoader: Duplicate dense tensor: " ++ name))
      else
        parseDenseEntries payloadBase payloadSize (tensors ++ [(name, tensor)]) rest

/-- `parse_dense_directory`: the tensors and the count of entries. -/
def parseDenseDirectory
    (directory : Bytes)
    (payloadBase payloadSize : Nat) :
    Except LoaderError (List (Bytes × LoadedTensor) × Nat) := do
  let value ← readJson (parse directory)
  let entries ← readJson value.asArray
  let tensors ← parseDenseEntries indefinite payloadBase payloadSize [] entries
  .ok (tensors, entries.length)

/-- `open_dense`. -/
def openDense
    (mapping : Option String)
    (densePath : String)
    (file : Bytes)
    (expectedVersion : Nat) :
    Except LoaderError (List (Bytes × LoadedTensor)) := do
  mapFile mapping file.length fun reason =>
    "AeonModelLoader: Failed to mmap dense file: " ++ densePath ++ " (" ++ reason ++ ")"
  if file.length < 28 then
    refuse ("AeonModelLoader: Dense file too small for header: " ++ densePath)
  else if file.take 12 ≠ denseMagic then
    refuse ("AeonModelLoader: Invalid dense magic in " ++ densePath)
  else if readAt 4 file 12 ≠ expectedVersion then
    refuse ("AeonModelLoader: Unexpected dense format version " ++
      toString (readAt 4 file 12) ++ ", expected " ++ toString expectedVersion)
  else
    let tensorCount := readAt 4 file 16
    let directoryLength := readAt 8 file 20
    if file.length - 28 < directoryLength then
      refuse "AeonModelLoader: Directory length exceeds file size!"
    else
      let preDataLength := u64 (28 + directoryLength)
      let dataStart := u64 (preDataLength + sectorPadding preDataLength)
      if file.length < dataStart then
        refuse "AeonModelLoader: Dense payload starts beyond file size"
      else
        let (tensors, parsed) ← parseDenseDirectory indefinite
          ((file.drop 28).take directoryLength) dataStart (file.length - dataStart)
        if parsed ≠ tensorCount then
          refuse "AeonModelLoader: Dense directory count does not match its header"
        else
          .ok tensors

end Dense

/-- The most bytes one `read` transfers on Linux. -/
def maxReadCount : Nat := 0x7ffff000

/-- One entry of the index: its offset, if its length and alignment are right. -/
def parseIndexEntry
    (format : ExpertFormat)
    (index : Bytes)
    (slot : Nat) : Except LoaderError Nat :=
  let offset := readAt 8 index (32 + slot * 16)
  let byteLength := readAt 8 index (32 + slot * 16 + 8)
  if byteLength ≠ format.payloadBytes ∨ offset % format.sectorSize ≠ 0 then
    refuse "AeonModelLoader: Expert index contains an invalid payload entry"
  else
    .ok offset

/-- `ExpertFormatDescriptor::validate_catalog`. -/
def validateCatalog (format : ExpertFormat) : Except LoaderError Unit :=
  if format.sectorSize = 0 ∨ (format.sectorSize &&& (format.sectorSize - 1)) ≠ 0 ∨
      format.payloadBytes = 0 ∨ format.payloadBytes % format.sectorSize ≠ 0 then
    .error (.invalidArgument (bytes
      ("ExpertFormatDescriptor: payload must be a non-zero multiple of " ++
        "sector_size")))
  else if format.numLayers = 0 ∨ format.expertsPerLayer = 0 ∨
      (2 ^ 64 - 1) / 16 < format.totalExperts then
    .error (.invalidArgument (bytes
      ("ExpertFormatDescriptor: layer and expert counts must describe a valid " ++
        "catalog")))
  else
    .ok ()

/-- `open_experts`: the version, the format and the offsets. -/
def openExperts
    (mapping : Option String)
    (expertsPath : String)
    (experts index : Bytes)
    (expectedVersion expertSectorSize expectedPayloadBytes : Nat) :
    Except LoaderError (Nat × ExpertFormat × List Nat) := do
  if min index.length maxReadCount ≠ index.length then
    refuse "AeonModelLoader: Incomplete read of expert index!"
  else if index.length < 32 then
    refuse "AeonModelLoader: Expert index too small for header!"
  else if index.take 12 ≠ expertMagic then
    refuse "AeonModelLoader: Invalid expert index magic!"
  else if readAt 4 index 12 ≠ expectedVersion then
    refuse ("AeonModelLoader: Unexpected expert index version " ++
      toString (readAt 4 index 12) ++ ", expected " ++ toString expectedVersion)
  else
    let expertBytes := readAt 8 index 24
    let format : ExpertFormat :=
      { sectorSize := expertSectorSize
        numLayers := readAt 4 index 16
        expertsPerLayer := readAt 4 index 20
        payloadBytes := expertBytes }
    if expectedPayloadBytes ≠ 0 ∧ expertBytes ≠ expectedPayloadBytes then
      refuse ("AeonModelLoader: Expert payload size does not match the artifact " ++
        "specification")
    else
      validateCatalog format
      if (2 ^ 64 - 1 - 32) / 16 < format.totalExperts then
        refuse "AeonModelLoader: Expert catalog is too large"
      else if index.length < u64 (32 + u64 (format.totalExperts * 16)) then
        refuse "AeonModelLoader: Expert index has incomplete entries!"
      else
        let offsets ← (List.range format.totalExperts).mapM
          (parseIndexEntry format index)
        -- The experts file is mapped only now.
        mapFile mapping experts.length fun _ =>
          "AeonModelLoader: Failed to mmap experts file: " ++ expertsPath
        .ok (expectedVersion, format, offsets)

/-- `AeonModelLoader::open_model` with a specification, on files that open. -/
def openModel
    (indefinite : Int)
    (mappings : Mappings)
    (modelDir : String)
    (artifact : ArtifactSpec)
    (files : ArtifactFiles) : Except LoaderError AeonModelLoader := do
  if artifact.denseFilename.isEmpty ∨ artifact.expertsFilename.isEmpty ∨
      artifact.indexFilename.isEmpty ∨ artifact.expectedDenseVersion = 0 ∨
      artifact.expectedExpertVersion = 0 ∨ artifact.expertSectorSize = 0 ∨
      (artifact.expertSectorSize &&& (artifact.expertSectorSize - 1)) ≠ 0 then
    .error (.invalidArgument
      (bytes "AeonModelLoader: artifact specification is incomplete"))
  else
    let tensors ← openDense indefinite mappings.dense
      (modelDir ++ "/" ++ artifact.denseFilename) files.dense
      artifact.expectedDenseVersion
    let (version, format, offsets) ←
      openExperts mappings.experts (modelDir ++ "/" ++ artifact.expertsFilename)
        files.experts files.index artifact.expectedExpertVersion artifact.expertSectorSize
        artifact.expectedExpertPayloadBytes
    .ok
      { denseFileSize := files.dense.length
        denseTensors := tensors
        expertsFileSize := files.experts.length
        expertFormatVersion := version
        expertFormat := format
        expertOffsets := offsets }

namespace AeonModelLoader

variable (loader : AeonModelLoader)

/-- `get_tensor`. -/
def getTensor (name : Bytes) : Except LoaderError LoadedTensor :=
  match loader.denseTensors.lookup name with
  | none =>
    .error (.runtimeError
      (bytes "AeonModelLoader: Dense tensor not found: " ++ name))
  | some tensor => .ok tensor

/-- `get_expert_location`. -/
def getExpertLocation
    (layerId expertId : Nat) : Except LoaderError ExpertLocation :=
  let format := loader.expertFormat
  if format.numLayers ≤ layerId ∨ format.expertsPerLayer ≤ expertId then
    refuse ("AeonModelLoader: Invalid expert index: L" ++ toString layerId ++
      " E" ++ toString expertId)
  else
    let slot := u64 (u64 (layerId * format.expertsPerLayer) + expertId)
    let offset := loader.expertOffsets.getD slot 0
    if format.payloadBytes = 0 ∨ offset % format.sectorSize ≠ 0 ∨
        loader.expertsFileSize < offset ∨
        loader.expertsFileSize - offset < format.payloadBytes then
      refuse "AeonModelLoader: Expert location is invalid or not sector aligned"
    else
      .ok ⟨offset, format.payloadBytes⟩

end AeonModelLoader

/-- The bytes of a file from an offset on. -/
def slice
    (file : Bytes)
    (offset length : Nat) : Bytes :=
  (file.drop offset).take length

end Aeon.Artifact
