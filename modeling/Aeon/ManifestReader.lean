import Aeon.ArtifactContainer
import Aeon.EscapedText

namespace Aeon.Manifest

open Artifact (LoaderError validateCatalog)
open Json (isDigit digitsValue simpleEscape)
open Memory (ExpertFormat)

/-!
# The manifest reader

`model_manifest.hpp`.  The reader never parses the manifest: for each field it looks for
the first place where the quoted name occurs, goes to the next colon, and scans a string
or digits there.  A position in the text is the text from there on.
-/

/-- Throw an `invalid_argument`. -/
def refuse
    {Value : Type}
    (message : String) : Except LoaderError Value :=
  .error (.invalidArgument (bytes message))

/-- The blanks of `find_first_not_of`. -/
def isBlank (byte : UInt8) : Bool :=
  byte == 0x20 || byte == 0x09 || byte == 0x0d || byte == 0x0a

/-- `manifest_value_start`. -/
def manifestValueStart
    (text : Bytes)
    (key : String) : Except LoaderError Bytes :=
  let quotedKey := Bytes.quoted (bytes key)
  match Bytes.find quotedKey text with
  | none => refuse ("AeonModelManifest: missing field '" ++ key ++ "'")
  | some keyPos =>
    match (text.drop (keyPos + quotedKey.length)).dropWhile (· != 0x3a) with
    | [] => refuse ("AeonModelManifest: malformed field '" ++ key ++ "'")
    | _ :: behind =>
      match behind.dropWhile isBlank with
      | [] => refuse ("AeonModelManifest: missing value for field '" ++ key ++ "'")
      | first :: rest => .ok (first :: rest)

/-- The loop of `manifest_string`, behind the opening quote. -/
def manifestStringBody (key : String) : Bytes → Except LoaderError Bytes
  | [] => refuse ("AeonModelManifest: unterminated string field '" ++ key ++ "'")
  | 0x5c :: [] => refuse ("AeonModelManifest: unterminated string field '" ++ key ++ "'")
  | 0x5c :: escaped :: rest =>
    match simpleEscape escaped with
    | some byte => (manifestStringBody key rest).map (byte :: ·)
    | none => refuse "AeonModelManifest: unsupported string escape"
  | current :: rest =>
    if current = 0x22 then .ok []
    else (manifestStringBody key rest).map (current :: ·)

/-- The text of `manifest_string` from a position on. -/
def manifestStringAt (key : String) : Bytes → Except LoaderError Bytes
  | 0x22 :: rest => manifestStringBody key rest
  | _ => refuse ("AeonModelManifest: field '" ++ key ++ "' must be a string")

/-- `manifest_string`. -/
def manifestString
    (text : Bytes)
    (key : String) : Except LoaderError Bytes := do
  let start ← manifestValueStart text key
  manifestStringAt key start

/-- The digits of `manifest_unsigned` from a position on; `std::stoull` throws on a range error. -/
def manifestUnsignedAt
    (key : String)
    (start : Bytes) : Except LoaderError Nat :=
  let digits := start.takeWhile isDigit
  if digits = [] then
    refuse ("AeonModelManifest: field '" ++ key ++ "' must be unsigned")
  else if digitsValue digits ≥ 2 ^ 64 then
    refuse ("AeonModelManifest: invalid unsigned field '" ++ key ++ "'")
  else
    .ok (digitsValue digits)

/-- `manifest_unsigned`. -/
def manifestUnsigned
    (text : Bytes)
    (key : String) : Except LoaderError Nat := do
  let start ← manifestValueStart text key
  manifestUnsignedAt key start

/-- `ExpertFormatKind`. -/
inductive ExpertFormatKind where
  | unknown
  | swizzledW4a16
  deriving Repr, DecidableEq

/-- `manifest_format_kind`. -/
def manifestFormatKind (value : Bytes) : Except LoaderError ExpertFormatKind :=
  if value = bytes "swizzled_w4a16" then .ok .swizzledW4a16
  else
    .error (.invalidArgument
      (bytes "AeonModelManifest: unsupported expert format '" ++ value ++ bytes "'"))

/-- `ExpertBackendRegistry::resolve` of a kind: the name of its backend. -/
def resolveBackend : ExpertFormatKind → Except LoaderError Bytes
  | .swizzledW4a16 => .ok (bytes "swizzled_w4a16")
  | .unknown =>
    refuse ("ExpertBackendRegistry: no backend is registered for the requested " ++
      "expert format")

/-- `AeonArtifactSpec`. -/
structure ArtifactSpec where
  denseFilename : Bytes
  expertsFilename : Bytes
  indexFilename : Bytes
  expectedDenseVersion : UInt32
  expertFormatKind : ExpertFormatKind
  expectedExpertVersion : UInt32
  expertSectorSize : UInt32
  expectedExpertPayloadBytes : UInt64
  deriving Repr, DecidableEq

/-- `AeonModelManifest`. -/
structure ModelManifest where
  manifestVersion : UInt32
  modelFamily : Bytes
  architecture : Bytes
  weightBackend : Bytes
  artifact : ArtifactSpec
  denseFileBytes : UInt64
  numLayers : UInt32
  expertsPerLayer : UInt32
  deriving Repr, DecidableEq

namespace ModelManifest

/-- The descriptor that `validate` checks as a catalog. -/
def expectedFormat (manifest : ModelManifest) : ExpertFormat where
  sectorSize := manifest.artifact.expertSectorSize.toNat
  numLayers := manifest.numLayers.toNat
  expertsPerLayer := manifest.expertsPerLayer.toNat
  payloadBytes := manifest.artifact.expectedExpertPayloadBytes.toNat

/-- `validate`. -/
def validate (manifest : ModelManifest) : Except LoaderError Unit :=
  if manifest.manifestVersion ≠ 1 then
    refuse ("AeonModelManifest: unsupported manifest version " ++
      toString manifest.manifestVersion.toNat)
  else if manifest.modelFamily = [] ∨ manifest.architecture = [] ∨
      manifest.weightBackend = [] then
    refuse "AeonModelManifest: model identity is incomplete"
  else if manifest.artifact.denseFilename = [] ∨ manifest.artifact.expertsFilename = [] ∨
      manifest.artifact.indexFilename = [] ∨
      manifest.artifact.expectedDenseVersion = 0 ∨
      manifest.artifact.expertFormatKind = .unknown ∨
      manifest.artifact.expectedExpertVersion = 0 ∨
      manifest.artifact.expertSectorSize = 0 ∨
      (manifest.artifact.expertSectorSize &&& (manifest.artifact.expertSectorSize - 1)) ≠ 0 ∨
      manifest.artifact.expectedExpertPayloadBytes = 0 then
    refuse "AeonModelManifest: artifact identity is incomplete"
  else do
    let backend ← resolveBackend manifest.artifact.expertFormatKind
    if manifest.weightBackend ≠ backend then
      refuse "AeonModelManifest: weight backend does not match expert format kind"
    else if manifest.denseFileBytes = 0 ∨ manifest.numLayers = 0 ∨
        manifest.expertsPerLayer = 0 then
      refuse "AeonModelManifest: dense size and catalog dimensions must be non-zero"
    else
      validateCatalog manifest.expectedFormat

end ModelManifest

/-- `load_from_json`, from the text of the file. -/
def loadFromJson (text : Bytes) : Except LoaderError ModelManifest := do
  let manifestVersion ← manifestUnsigned text "manifest_version"
  let modelFamily ← manifestString text "model_family"
  let architecture ← manifestString text "architecture"
  let weightBackend ← manifestString text "weight_backend"
  let denseFilename ← manifestString text "dense_filename"
  let expertsFilename ← manifestString text "experts_filename"
  let indexFilename ← manifestString text "index_filename"
  let denseFormatVersion ← manifestUnsigned text "dense_format_version"
  let expertFormat ← manifestString text "expert_format"
  let expertFormatKind ← manifestFormatKind expertFormat
  let expertFormatVersion ← manifestUnsigned text "expert_format_version"
  let expertSectorSize ← manifestUnsigned text "expert_sector_size"
  let expertPayloadBytes ← manifestUnsigned text "expert_payload_bytes"
  let denseFileBytes ← manifestUnsigned text "dense_file_bytes"
  let numLayers ← manifestUnsigned text "num_layers"
  let expertsPerLayer ← manifestUnsigned text "experts_per_layer"
  let manifest : ModelManifest :=
    { manifestVersion := .ofNat manifestVersion
      modelFamily := modelFamily
      architecture := architecture
      weightBackend := weightBackend
      artifact :=
        { denseFilename := denseFilename
          expertsFilename := expertsFilename
          indexFilename := indexFilename
          -- A `static_cast` to 32 bits keeps the low ones.
          expectedDenseVersion := .ofNat denseFormatVersion
          expertFormatKind := expertFormatKind
          expectedExpertVersion := .ofNat expertFormatVersion
          expertSectorSize := .ofNat expertSectorSize
          expectedExpertPayloadBytes := .ofNat expertPayloadBytes }
      denseFileBytes := .ofNat denseFileBytes
      numLayers := .ofNat numLayers
      expertsPerLayer := .ofNat expertsPerLayer }
  manifest.validate
  .ok manifest

end Aeon.Manifest
