import Aeon.RoutingProfileText

namespace Aeon.RoutingProfile

open Json (decimal)
open Server (jsonEscape)

/-!
# The metadata of a routing profile

`metadata.json` names the run it belongs to.  A store that is opened again looks for the
fingerprint by the first occurrence of its quoted name, and the commit is written before
it: the search finds the field unless the commit spells the name.
-/

/-- `RoutingCounter::kExpertCount`. -/
def kExpertCount : Nat := 256

/-- `RoutingCounter::kTopK`. -/
def kTopK : Nat := 6

/-- `RoutingProfileRunConfig`. -/
structure RunConfig where
  aeonGitCommit : Bytes := bytes "unknown"
  modelDir : Bytes := []
  inputPath : Bytes := []
  corpusId : Bytes := []
  dataset : Bytes := bytes "profile"
  numLayers : UInt32 := 0
  contextSize : UInt32 := 4096
  warmGib : UInt64 := 0
  modelConfigHash : UInt64 := 0
  modelIndexHash : UInt64 := 0
  inputPromptCount : UInt64 := 0
  deriving Repr, DecidableEq

/-- `RoutingProfileRunConfig::compatibility_fingerprint`. -/
def RunConfig.compatibilityFingerprint (config : RunConfig) : Bytes :=
  bytes "routing-profile-v2" ++
    bytes "|aeon_git_commit=" ++ config.aeonGitCommit ++
    bytes "|model_dir=" ++ config.modelDir ++
    bytes "|corpus_id=" ++ config.corpusId ++
    bytes "|dataset=" ++ config.dataset ++
    bytes "|layers=" ++ decimal config.numLayers.toNat ++
    bytes "|experts=" ++ decimal kExpertCount ++
    bytes "|top_k=" ++ decimal kTopK ++
    bytes "|context_size=" ++ decimal config.contextSize.toNat ++
    bytes "|warm_gib=" ++ decimal config.warmGib.toNat ++
    bytes "|model_config_hash=" ++ decimal config.modelConfigHash.toNat ++
    bytes "|model_index_hash=" ++ decimal config.modelIndexHash.toNat ++
    bytes "|phase_rules=prefill-and-decode-v1"

/-- A line of the metadata with a string. -/
def stringLine
    (name : String)
    (value : Bytes) : Bytes :=
  bytes "  " ++ Bytes.quoted (bytes name) ++ bytes ": " ++ Bytes.quoted (jsonEscape value) ++
    bytes ",\n"

/-- A line of the metadata with a number, up to its end. -/
def numberLine
    (name : String)
    (value : Nat) : Bytes :=
  bytes "  " ++ Bytes.quoted (bytes name) ++ bytes ": " ++ decimal value

/-- The lines of `metadata_json` behind the fingerprint. -/
def metadataRest
    (config : RunConfig)
    (completed failed : Nat) : Bytes :=
  stringLine "model_dir" config.modelDir ++
    stringLine "input_path" config.inputPath ++
    stringLine "corpus_id" config.corpusId ++
    stringLine "dataset" config.dataset ++
    numberLine "num_layers" config.numLayers.toNat ++ bytes ",\n" ++
    numberLine "expert_count" kExpertCount ++ bytes ",\n" ++
    numberLine "top_k" kTopK ++ bytes ",\n" ++
    numberLine "context_size" config.contextSize.toNat ++ bytes ",\n" ++
    numberLine "warm_gib" config.warmGib.toNat ++ bytes ",\n" ++
    numberLine "model_config_hash" config.modelConfigHash.toNat ++ bytes ",\n" ++
    numberLine "model_index_hash" config.modelIndexHash.toNat ++ bytes ",\n" ++
    numberLine "input_prompt_count" config.inputPromptCount.toNat ++ bytes ",\n" ++
    numberLine "completed_prompts" completed ++ bytes ",\n" ++
    numberLine "failed_prompts" failed ++ bytes "\n\x7d\n"

/-- `metadata_json`, from the sizes of the two maps. -/
def metadataJson
    (config : RunConfig)
    (completed failed : Nat) : Bytes :=
  bytes "\x7b\n" ++
    numberLine "format_version" 1 ++ bytes ",\n" ++
    stringLine "profiler_version" (bytes "routing-profile-v2") ++
    stringLine "aeon_git_commit" config.aeonGitCommit ++
    stringLine "compatibility_fingerprint" config.compatibilityFingerprint ++
    metadataRest config completed failed

/-- The field by which a profile is recognised. -/
def fingerprintField : Bytes := bytes "compatibility_fingerprint"

/-! ## What opening a profile reads back -/

theorem extractJsonStringField_eq
    (object field : Bytes) :
    extractJsonStringField object field =
      match Bytes.behind (Bytes.quoted field) object with
      | none => .error (bytes "routing profile metadata is missing " ++ field)
      | some text => fieldValue text := by
  rw [extractJsonStringField, ← Bytes.find_behind]
  cases Bytes.find (Bytes.quoted field) object <;> rfl

theorem fingerprintField_plain : jsonEscaping.Plain fingerprintField := by
  unfold Escaping.Plain
  decide +kernel

theorem jsonEscaping_text (value : Bytes) : jsonEscaping.text value = jsonEscape value :=
  rfl

/-- The text up to the quote that opens the commit. -/
def metadataFront : Bytes :=
  bytes "\x7b\n" ++ numberLine "format_version" 1 ++ bytes ",\n" ++
    stringLine "profiler_version" (bytes "routing-profile-v2") ++
    (bytes "  " ++ Bytes.quoted (bytes "aeon_git_commit") ++ bytes ": ")

/-- The text behind the name of the fingerprint. -/
def metadataValue
    (config : RunConfig)
    (completed failed : Nat) : Bytes :=
  bytes ": " ++ 0x22 :: (jsonEscape config.compatibilityFingerprint ++ 0x22 ::
    (bytes ",\n" ++ metadataRest config completed failed))

theorem metadataJson_eq
    (config : RunConfig)
    (completed failed : Nat) :
    metadataJson config completed failed =
      metadataFront ++ 0x22 :: (jsonEscape config.aeonGitCommit ++ 0x22 ::
        (bytes ",\n  " ++ (Bytes.quoted fingerprintField ++
          metadataValue config completed failed))) := by
  have indented : bytes ",\n  " = bytes ",\n" ++ bytes "  " := rfl
  rw [indented]
  simp only [metadataJson, metadataFront, metadataValue, fingerprintField, stringLine,
    Bytes.quoted, List.append_assoc, List.cons_append, List.nil_append]

/-- The commit is written before the fingerprint, and nothing else spells its name. -/
theorem metadataFront_clear :
    Bytes.clear (Bytes.quoted fingerprintField) metadataFront = true := by
  decide +kernel

theorem betweenFields_clear :
    Bytes.clear (Bytes.quoted fingerprintField) (0x22 :: bytes ",\n  ") = true := by
  decide +kernel

theorem extract_fingerprint
    {config : RunConfig}
    (apart : ¬ Collides fingerprintField config.aeonGitCommit)
    (completed failed : Nat) :
    extractJsonStringField (metadataJson config completed failed) fingerprintField =
      .ok config.compatibilityFingerprint := by
  have passed := Escaping.behind_value fingerprintField_plain
    (mt (collides_iff _ _).mp apart)
    (bytes ",\n  " ++ (Bytes.quoted fingerprintField ++
      metadataValue config completed failed))
  rw [extractJsonStringField_eq, metadataJson_eq, Bytes.behind_clear metadataFront_clear,
    ← jsonEscaping_text, passed]
  have between := Bytes.behind_clear betweenFields_clear
    (Bytes.quoted fingerprintField ++ metadataValue config completed failed)
  rw [List.cons_append] at between
  rw [between, Bytes.behind_of_prefix (Bytes.quoted_ne_nil fingerprintField)]
  have colon : expect 0x3a (metadataValue config completed failed) =
      .ok (0x20 :: 0x22 :: (jsonEscape config.compatibilityFingerprint ++ 0x22 ::
        (bytes ",\n" ++ metadataRest config completed failed))) :=
    rfl
  have value : parseString (0x20 :: 0x22 :: (jsonEscape config.compatibilityFingerprint ++
      0x22 :: (bytes ",\n" ++ metadataRest config completed failed))) =
        .ok (config.compatibilityFingerprint,
          bytes ",\n" ++ metadataRest config completed failed) :=
    parseStringBody_escape _ _
  simp only [fieldValue, colon, value, ok_bind]

/-- A commit that spells the name is taken for it, and a comma stands behind it. -/
theorem extract_collision
    {config : RunConfig}
    (collides : Collides fingerprintField config.aeonGitCommit)
    (completed failed : Nat) :
    extractJsonStringField (metadataJson config completed failed) fingerprintField =
      .error (bytes "invalid JSONL record: expected ':'") := by
  have taken := Escaping.behind_collision fingerprintField_plain
    ((collides_iff _ _).mpr collides)
    (bytes ",\n  " ++ (Bytes.quoted fingerprintField ++
      metadataValue config completed failed))
  rw [extractJsonStringField_eq, metadataJson_eq, Bytes.behind_clear metadataFront_clear,
    ← jsonEscaping_text, taken]
  rfl

end Aeon.RoutingProfile
