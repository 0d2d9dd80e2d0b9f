import Aeon.JsonSpanMembers
import Aeon.ManifestReader

namespace Aeon.Manifest

open Artifact (LoaderError)
open Json (Blank JsonValue Member Source StringBody decimalValue digitsValue isDigit
  separated parse)
open JsonSpan (Ascii EndsScalar ObjectText rawMember scalarByte)

/-!
# The members of a manifest

The fields of the manifest are members of the document or of its member `artifact`.
Here is where a field's own value stands, what the reader is meant to take from there,
and when its search ends there.
-/

/-! ## The fields -/

/-- The fields that hold a string. -/
inductive TextField where
  | modelFamily
  | architecture
  | weightBackend
  | denseFilename
  | expertsFilename
  | indexFilename
  | expertFormat
  deriving Repr, DecidableEq

/-- The fields that hold an integer. -/
inductive NumberField where
  | manifestVersion
  | denseFormatVersion
  | expertFormatVersion
  | expertSectorSize
  | expertPayloadBytes
  | denseFileBytes
  | numLayers
  | expertsPerLayer
  deriving Repr, DecidableEq

/-- A field. -/
inductive Field where
  | text (field : TextField)
  | number (field : NumberField)
  deriving Repr, DecidableEq

namespace TextField

/-- The name in the document. -/
def key : TextField → String
  | modelFamily => "model_family"
  | architecture => "architecture"
  | weightBackend => "weight_backend"
  | denseFilename => "dense_filename"
  | expertsFilename => "experts_filename"
  | indexFilename => "index_filename"
  | expertFormat => "expert_format"

/-- Whether it is a member of `artifact`. -/
def inArtifact : TextField → Bool
  | modelFamily | architecture | weightBackend => false
  | denseFilename | expertsFilename | indexFilename | expertFormat => true

end TextField

namespace NumberField

/-- The name in the document. -/
def key : NumberField → String
  | manifestVersion => "manifest_version"
  | denseFormatVersion => "dense_format_version"
  | expertFormatVersion => "expert_format_version"
  | expertSectorSize => "expert_sector_size"
  | expertPayloadBytes => "expert_payload_bytes"
  | denseFileBytes => "dense_file_bytes"
  | numLayers => "num_layers"
  | expertsPerLayer => "experts_per_layer"

/-- Whether it is a member of `artifact`. -/
def inArtifact : NumberField → Bool
  | manifestVersion | denseFileBytes | numLayers | expertsPerLayer => false
  | denseFormatVersion | expertFormatVersion | expertSectorSize | expertPayloadBytes => true

/-- The bits of the member it is stored in. -/
def width : NumberField → Nat
  | expertPayloadBytes | denseFileBytes => 64
  | _ => 32

end NumberField

namespace Field

/-- The name in the document. -/
def key : Field → String
  | text field => field.key
  | number field => field.key

/-- Whether it is a member of `artifact`. -/
def inArtifact : Field → Bool
  | text field => field.inArtifact
  | number field => field.inArtifact

theorem ascii_key (field : Field) : Ascii (bytes field.key) := by
  unfold Ascii
  rcases field with field | field <;> cases field <;> decide

end Field

/-- `ExpertFormatKind` as the document spells it. -/
def ExpertFormatKind.spelling : ExpertFormatKind → Bytes
  | .unknown => []
  | .swizzledW4a16 => bytes "swizzled_w4a16"

namespace ModelManifest

/-- The string a field holds. -/
def textValue (manifest : ModelManifest) : TextField → Bytes
  | .modelFamily => manifest.modelFamily
  | .architecture => manifest.architecture
  | .weightBackend => manifest.weightBackend
  | .denseFilename => manifest.artifact.denseFilename
  | .expertsFilename => manifest.artifact.expertsFilename
  | .indexFilename => manifest.artifact.indexFilename
  | .expertFormat => manifest.artifact.expertFormatKind.spelling

/-- The integer a field holds. -/
def numberValue (manifest : ModelManifest) : NumberField → Nat
  | .manifestVersion => manifest.manifestVersion.toNat
  | .denseFormatVersion => manifest.artifact.expectedDenseVersion.toNat
  | .expertFormatVersion => manifest.artifact.expectedExpertVersion.toNat
  | .expertSectorSize => manifest.artifact.expertSectorSize.toNat
  | .expertPayloadBytes => manifest.artifact.expectedExpertPayloadBytes.toNat
  | .denseFileBytes => manifest.denseFileBytes.toNat
  | .numLayers => manifest.numLayers.toNat
  | .expertsPerLayer => manifest.expertsPerLayer.toNat

end ModelManifest

/-! ## Where a field stands -/

/-- A field's member, of the document or of its artifact. -/
def memberOf
    (root : JsonValue)
    (field : Field) : Option JsonValue :=
  if field.inArtifact then
    (root.find (bytes "artifact")).bind fun artifact => artifact.find (bytes field.key)
  else
    root.find (bytes field.key)

/-- The document is an object with the members of a manifest. -/
structure HoldsManifest
    (text : Bytes)
    (root : JsonValue) : Prop where
  parsed : parse text = .ok root
  isObject : ∃ members, root = .object members
  artifact : ∃ members, root.find (bytes "artifact") = some (.object members)
  strings : ∀ field, ∃ value, memberOf root (.text field) = some (.string value)
  numbers : ∀ field, ∃ value, memberOf root (.number field) = some (.number value)

variable (text : Bytes)

/-- The offset of a field's own value, and the text of the value. -/
def located
    (field : Field) : Option (Nat × Bytes) :=
  if field.inArtifact then
    (rawMember text (bytes "artifact")).bind fun artifact =>
      (rawMember artifact.2 (bytes field.key)).map fun member =>
        (artifact.1 + member.1, member.2)
  else
    rawMember text (bytes field.key)

/--
The manifest holds what the members of the document say, and each value was taken from
its own member and not reduced.
-/
structure Faithful
    (text : Bytes)
    (root : JsonValue)
    (manifest : ModelManifest) : Prop where
  strings : ∀ field, ∃ offset literal,
    located text (.text field) = some (offset, literal) ∧
      manifestValueStart text field.key = .ok (text.drop offset) ∧
      memberOf root (.text field) = some (.string (manifest.textValue field))
  numbers : ∀ field, ∃ offset literal,
    located text (.number field) = some (offset, literal) ∧
      manifestValueStart text field.key = .ok (text.drop offset) ∧
      manifestUnsigned text field.key = .ok (manifest.numberValue field) ∧
      decimalValue literal = manifest.numberValue field

/--
The first colon behind the first place where the quoted name occurs is the colon in
front of the field's own value.
-/
def OwnColon
    (field : Field) : Prop :=
  ∃ offset literal gap blanks,
    located text field = some (offset, literal) ∧
      Bytes.behind (Bytes.quoted (bytes field.key)) text =
        some (gap ++ 0x3a :: (blanks ++ text.drop offset)) ∧
      0x3a ∉ gap ∧ ∀ byte ∈ blanks, isBlank byte = true

/-- The number is the one its leading digits stand for, and it fits. -/
def PlainNumber
    (field : NumberField) : Prop :=
  ∃ offset literal,
    located text (.number field) = some (offset, literal) ∧
      decimalValue literal = digitsValue (literal.takeWhile isDigit) ∧
      digitsValue (literal.takeWhile isDigit) < 2 ^ field.width

/-! ## A member in its document -/

/-- A member between others is followed by the end of a scalar. -/
theorem separated_behind
    (early : List Member)
    (member : Member)
    (late : List Member)
    (spaced : member.Spaced)
    (behind : Bytes) :
    ∃ after, after ≠ [] ∧ EndsScalar after ∧
      separated ((early ++ member :: late).map Member.source) ++ 0x7d :: behind =
        JsonSpan.front early member ++ (member.item.text ++ after) := by
  induction early with
  | nil =>
    cases late with
    | nil =>
      refine ⟨member.item.trail ++ 0x7d :: behind, by simp,
        JsonSpan.endsScalar_trail spaced.item.trail (by decide), ?_⟩
      simp [separated, JsonSpan.front, JsonSpan.opening, Member.source, Json.Item.source]
    | cons second others =>
      refine ⟨member.item.trail ++ 0x2c ::
        (separated ((second :: others).map Member.source) ++ 0x7d :: behind), by simp,
        JsonSpan.endsScalar_trail spaced.item.trail (by decide), ?_⟩
      simp [separated, JsonSpan.front, JsonSpan.opening, Member.source, Json.Item.source]
  | cons first early ih =>
    obtain ⟨after, nonempty, ends, layout⟩ := ih
    refine ⟨after, nonempty, ends, ?_⟩
    have first_behind :
        separated ((first :: early ++ member :: late).map Member.source) =
          first.source ++ 0x2c ::
            separated ((early ++ member :: late).map Member.source) := by
      cases early with
      | nil => rfl
      | cons second others => rfl
    rw [first_behind, List.append_assoc, List.cons_append, layout]
    simp [JsonSpan.front]

/-- A member's value stands in a text, with the end of the document behind it. -/
structure StandsAt
    (text : Bytes)
    (offset : Nat)
    (literal : Bytes)
    (value : JsonValue) : Prop where
  isSource : Source literal value
  tail : ∃ after, after ≠ [] ∧ EndsScalar after ∧ text.drop offset = literal ++ after

/-- What `raw_member` cuts out stands for the member. -/
theorem rawMember_stands
    {text key : Bytes}
    {members : List (Bytes × JsonValue)}
    {value : JsonValue}
    (ascii : Ascii key)
    (parsed : parse text = .ok (.object members))
    (found : (JsonValue.object members).find key = some value) :
    ∃ offset literal, rawMember text key = some (offset, literal) ∧
      StandsAt text offset literal value := by
  obtain ⟨layout, rfl, rfl⟩ := JsonSpan.exists_objectText parsed
  by_cases present : ∃ member ∈ layout.members, member.key = key
  · obtain ⟨member, listed, rfl⟩ := present
    obtain ⟨early, late, split⟩ := List.append_of_mem listed
    have looked : (JsonValue.object (layout.members.map Member.entry)).find member.key =
        some member.item.value := by
      rw [split]
      exact JsonSpan.lookup_entry (layout.early_keys split)
    rw [found, Option.some.injEq] at looked
    refine ⟨_, _, layout.rawMember_found split ascii, looked ▸ layout.each member listed, ?_⟩
    obtain ⟨after, nonempty, ends, source⟩ :=
      separated_behind early member late (layout.spaced member listed) layout.behind
    refine ⟨after, nonempty, ends, ?_⟩
    have whole : layout.text = layout.front early member ++ (member.item.text ++ after) := by
      rw [ObjectText.text, split, source, ObjectText.front, List.append_assoc,
        List.cons_append, List.append_assoc]
    rw [whole, List.drop_left]
  · push Not at present
    rw [layout.find_absent present] at found
    cases found

/-- Standing within a span that stands. -/
theorem StandsAt.inside
    {text span literal : Bytes}
    {outer inner : Nat}
    {object value : JsonValue}
    (stands : StandsAt text outer span object)
    (within : StandsAt span inner literal value) :
    StandsAt text (outer + inner) literal value := by
  obtain ⟨after, nonempty, ends, tail⟩ := stands.tail
  obtain ⟨inside, insideNonempty, insideEnds, insideTail⟩ := within.tail
  have bound : inner ≤ span.length := by
    by_contra beyond
    rw [List.drop_eq_nil_of_le (Nat.le_of_not_le beyond)] at insideTail
    exact insideNonempty (List.append_eq_nil_iff.mp insideTail.symm).2
  refine ⟨within.isSource, inside ++ after, by simp [insideNonempty], ?_, ?_⟩
  · obtain ⟨byte, rest, rfl⟩ := List.exists_cons_of_ne_nil insideNonempty
    intro first head
    exact insideEnds first head
  · rw [← List.drop_drop, tail, List.drop_append_of_le_length bound, insideTail,
      List.append_assoc]

theorem artifact_ascii : Ascii (bytes "artifact") := by
  unfold Ascii
  decide

/-- The span a field is located at stands for its value. -/
theorem HoldsManifest.located_stands
    {text : Bytes}
    {root : JsonValue}
    (holds : HoldsManifest text root)
    {field : Field}
    {value : JsonValue}
    (found : memberOf root field = some value) :
    ∃ offset literal, located text field = some (offset, literal) ∧
      StandsAt text offset literal value := by
  obtain ⟨members, rfl⟩ := holds.isObject
  rw [memberOf] at found
  rw [located]
  split
  next nested =>
    rw [if_pos nested] at found
    obtain ⟨inner, isObject⟩ := holds.artifact
    rw [isObject, Option.bind_some] at found
    obtain ⟨outer, span, located, stands⟩ :=
      rawMember_stands artifact_ascii holds.parsed isObject
    obtain ⟨offset, literal, locatedInside, within⟩ :=
      rawMember_stands field.ascii_key stands.isSource.parse found
    refine ⟨outer + offset, literal, ?_, stands.inside within⟩
    rw [located, Option.bind_some, locatedInside]
    rfl
  next top =>
    rw [if_neg top] at found
    exact rawMember_stands field.ascii_key holds.parsed found

end Aeon.Manifest
