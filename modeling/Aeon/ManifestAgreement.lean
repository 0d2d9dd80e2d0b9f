import Aeon.ManifestMembers

namespace Aeon.Manifest

open Artifact (LoaderError)
open Json (JsonValue Source StringBody decimalValue digitsValue isDigit)
open JsonSpan (EndsScalar scalarByte)

/-!
# When the reader agrees with the document

A manifest that the reader accepts holds the values of the document exactly when every
search ends at its own member and every number is plain and fits.
-/

/-! ## Searching -/

/-- Where a search ends. -/
theorem manifestValueStart_ok_iff
    {text start : Bytes}
    {key : String} :
    manifestValueStart text key = .ok start ↔
      ∃ gap blanks,
        Bytes.behind (Bytes.quoted (bytes key)) text =
          some (gap ++ 0x3a :: (blanks ++ start)) ∧
        0x3a ∉ gap ∧ (∀ byte ∈ blanks, isBlank byte = true) ∧
          ∃ first rest, start = first :: rest ∧ isBlank first = false := by
  rw [manifestValueStart, ← Bytes.find_behind]
  cases Bytes.find (Bytes.quoted (bytes key)) text with
  | none => simp [refuse]
  | some keyPos =>
    simp only [Option.map_some, Option.some.injEq]
    generalize text.drop (keyPos + (Bytes.quoted (bytes key)).length) = behind
    constructor
    · intro found
      have pieces := @List.takeWhile_append_dropWhile _ (· != 0x3a) behind
      cases colon : behind.dropWhile (· != 0x3a) with
      | nil =>
        rw [colon] at found
        cases found
      | cons first rest =>
        rw [colon] at found pieces
        have isColon : first = 0x3a := by
          have stopped := @List.head_dropWhile_not _ (· != 0x3a) behind (by simp [colon])
          simpa [colon] using stopped
        subst isColon
        have blanks := @List.takeWhile_append_dropWhile _ isBlank rest
        cases value : rest.dropWhile isBlank with
        | nil =>
          simp only [value] at found
          cases found
        | cons first others =>
          simp only [value, Except.ok.injEq] at found
          subst found
          rw [value] at blanks
          refine ⟨behind.takeWhile (· != 0x3a), rest.takeWhile isBlank, ?_, ?_,
            fun byte listed => List.mem_takeWhile_imp listed, first, others, rfl, ?_⟩
          · rw [blanks, pieces]
          · intro listed
            simpa using List.mem_takeWhile_imp listed
          · have stopped := @List.head_dropWhile_not _ isBlank rest (by simp [value])
            simpa [value] using stopped
    · rintro ⟨gap, blanks, rfl, lacking, blank, first, rest, rfl, visible⟩
      have colon : (gap ++ 0x3a :: (blanks ++ first :: rest)).dropWhile (· != 0x3a) =
          0x3a :: (blanks ++ first :: rest) := by
        rw [List.dropWhile_append_of_pos]
        · rfl
        · intro byte listed
          rw [bne_iff_ne]
          exact fun same => lacking (same ▸ listed)
      have value : (blanks ++ first :: rest).dropWhile isBlank = first :: rest := by
        rw [List.dropWhile_append_of_pos blank, List.dropWhile_cons_of_neg (by simp [visible])]
      simp only [colon, value]

theorem isBlank_eq (byte : UInt8) : isBlank byte = Json.isWhitespace byte := by
  simp only [isBlank, Json.isWhitespace, Bool.or_assoc, beq_eq_decide]
  cases decide (byte = 0x20) <;> cases decide (byte = 0x09) <;>
    cases decide (byte = 0x0d) <;> cases decide (byte = 0x0a) <;> rfl

theorem ownColon_iff
    {text : Bytes}
    {field : Field}
    {offset : Nat}
    {literal : Bytes}
    {value : JsonValue}
    (place : located text field = some (offset, literal))
    (stands : StandsAt text offset literal value) :
    OwnColon text field ↔ manifestValueStart text field.key = .ok (text.drop offset) := by
  rw [manifestValueStart_ok_iff]
  constructor
  · rintro ⟨other, otherLiteral, gap, blanks, otherPlace, behind, lacking, blank⟩
    rw [place, Option.some.injEq, Prod.mk.injEq] at otherPlace
    obtain ⟨rfl, rfl⟩ := otherPlace
    obtain ⟨first, rest, shape, visible, -⟩ := stands.isSource.head
    obtain ⟨after, -, -, tail⟩ := stands.tail
    refine ⟨gap, blanks, behind, lacking, blank, first, rest ++ after, ?_, ?_⟩
    · rw [tail, shape, List.cons_append]
    · rw [isBlank_eq, visible]
  · rintro ⟨gap, blanks, behind, lacking, blank, -⟩
    exact ⟨offset, literal, gap, blanks, place, behind, lacking, blank⟩

/-! ## Scanning a value -/

theorem map_cons_ok
    {scan : Except LoaderError Bytes}
    {byte : UInt8}
    {value : Bytes}
    (scanned : scan.map (byte :: ·) = .ok value) :
    ∃ tail, scan = .ok tail ∧ value = byte :: tail := by
  cases scan with
  | error error => cases scanned
  | ok tail =>
    cases scanned
    exact ⟨tail, rfl, rfl⟩

theorem manifestStringBody_eq
    {body text : Bytes}
    (spells : StringBody body text)
    {key : String}
    {after value : Bytes}
    (scanned : manifestStringBody key (body ++ 0x22 :: after) = .ok value) :
    value = text := by
  induction spells generalizing value with
  | done =>
    cases scanned
    rfl
  | plain printable unquoted unescaped rest ih =>
    rw [List.cons_append, manifestStringBody, if_neg unquoted] at scanned
    · obtain ⟨tail, found, rfl⟩ := map_cons_ok scanned
      rw [ih found]
    · exact fun escape _ => unescaped escape
    · intros
      exact unescaped ‹_›
  | simple escape rest ih =>
    rw [List.cons_append, List.cons_append, manifestStringBody, escape] at scanned
    obtain ⟨tail, found, rfl⟩ := map_cons_ok scanned
    rw [ih found]
  -- The scanner knows no unicode escapes.
  | unicode => cases scanned
  | pair => cases scanned

theorem manifestStringAt_eq
    {literal text : Bytes}
    (isSource : Source literal (.string text))
    {key : String}
    {after value : Bytes}
    (scanned : manifestStringAt key (literal ++ after) = .ok value) :
    value = text := by
  cases isSource with
  | string spells =>
    rw [List.cons_append, List.append_assoc, List.singleton_append] at scanned
    exact manifestStringBody_eq spells scanned

theorem takeWhile_digits
    {literal after : Bytes}
    (ends : EndsScalar after) :
    (literal ++ after).takeWhile isDigit = literal.takeWhile isDigit := by
  rw [List.takeWhile_append]
  split
  · next whole =>
    have stopped : after.takeWhile isDigit = [] := by
      cases after with
      | nil => rfl
      | cons byte rest =>
        have notDigit : isDigit byte = false := by
          by_contra digit
          rw [Bool.not_eq_false] at digit
          have scalar := (JsonSpan.scalar_of_isDigit digit).1
          rw [ends byte rfl] at scalar
          cases scalar
        rw [List.takeWhile_cons_of_neg (by simp [notDigit])]
    rw [stopped, List.append_nil]
    exact ((List.takeWhile_prefix isDigit).eq_of_length whole).symm
  · rfl

theorem manifestUnsignedAt_eq
    {literal after : Bytes}
    (ends : EndsScalar after)
    {key : String}
    {value : Nat}
    (scanned : manifestUnsignedAt key (literal ++ after) = .ok value) :
    value = digitsValue (literal.takeWhile isDigit) ∧ value < 2 ^ 64 := by
  rw [manifestUnsignedAt, takeWhile_digits ends] at scanned
  split at scanned
  · cases scanned
  · split at scanned
    · cases scanned
    · next small =>
        cases scanned
        exact ⟨rfl, Nat.not_le.mp small⟩

/-! ## Loading -/

theorem manifestFormatKind_ok
    {value : Bytes}
    {kind : ExpertFormatKind}
    (known : manifestFormatKind value = .ok kind) :
    kind.spelling = value := by
  rw [manifestFormatKind] at known
  split at known
  · next spelled =>
      cases known
      exact spelled.symm
  · cases known

/-- What was scanned for the fields of a manifest that was loaded. -/
structure Scanned
    (text : Bytes)
    (manifest : ModelManifest) : Prop where
  strings : ∀ field : TextField,
    manifestString text field.key = .ok (manifest.textValue field)
  numbers : ∀ field : NumberField, ∃ scanned,
    manifestUnsigned text field.key = .ok scanned ∧
      manifest.numberValue field = scanned % 2 ^ field.width
  valid : manifest.validate = .ok ()

theorem loadFromJson_ok
    {text : Bytes}
    {manifest : ModelManifest}
    (loaded : loadFromJson text = .ok manifest) :
    Scanned text manifest := by
  simp only [loadFromJson, bind_eq_ok] at loaded
  obtain ⟨version, readVersion, family, readFamily, architecture, readArchitecture,
    backend, readBackend, dense, readDense, experts, readExperts, indexName, readIndex,
    denseVersion, readDenseVersion, format, readFormat, kind, known,
    expertVersion, readExpertVersion, sector, readSector, payload, readPayload,
    size, readSize, layers, readLayers, perLayer, readPerLayer, ⟨⟩, valid, made⟩ := loaded
  cases made
  refine ⟨fun field => ?_, fun field => ?_, valid⟩
  · cases field with
    | modelFamily => exact readFamily
    | architecture => exact readArchitecture
    | weightBackend => exact readBackend
    | denseFilename => exact readDense
    | expertsFilename => exact readExperts
    | indexFilename => exact readIndex
    | expertFormat => exact readFormat.trans (congrArg _ (manifestFormatKind_ok known).symm)
  · cases field with
    | manifestVersion => exact ⟨version, readVersion, UInt32.toNat_ofNat'⟩
    | denseFormatVersion => exact ⟨denseVersion, readDenseVersion, UInt32.toNat_ofNat'⟩
    | expertFormatVersion => exact ⟨expertVersion, readExpertVersion, UInt32.toNat_ofNat'⟩
    | expertSectorSize => exact ⟨sector, readSector, UInt32.toNat_ofNat'⟩
    | expertPayloadBytes => exact ⟨payload, readPayload, UInt64.toNat_ofNat'⟩
    | denseFileBytes => exact ⟨size, readSize, UInt64.toNat_ofNat'⟩
    | numLayers => exact ⟨layers, readLayers, UInt32.toNat_ofNat'⟩
    | expertsPerLayer => exact ⟨perLayer, readPerLayer, UInt32.toNat_ofNat'⟩

theorem loadFromJson_of_scanned
    {text : Bytes}
    {manifest : ModelManifest}
    (strings : ∀ field : TextField,
      manifestString text field.key = .ok (manifest.textValue field))
    (numbers : ∀ field : NumberField,
      manifestUnsigned text field.key = .ok (manifest.numberValue field))
    (kind : manifest.artifact.expertFormatKind = .swizzledW4a16)
    (valid : manifest.validate = .ok ()) :
    loadFromJson text = .ok manifest := by
  obtain ⟨version, family, architecture, backend,
    ⟨dense, experts, indexName, denseVersion, format, expertVersion, sector, payload⟩,
    size, layers, perLayer⟩ := manifest
  simp only at kind
  subst kind
  have known : manifestFormatKind (ExpertFormatKind.spelling .swizzledW4a16) =
      .ok .swizzledW4a16 :=
    if_pos rfl
  have readVersion : manifestUnsigned text "manifest_version" = .ok version.toNat :=
    numbers .manifestVersion
  have readFamily : manifestString text "model_family" = .ok family :=
    strings .modelFamily
  have readArchitecture : manifestString text "architecture" = .ok architecture :=
    strings .architecture
  have readBackend : manifestString text "weight_backend" = .ok backend :=
    strings .weightBackend
  have readDense : manifestString text "dense_filename" = .ok dense :=
    strings .denseFilename
  have readExperts : manifestString text "experts_filename" = .ok experts :=
    strings .expertsFilename
  have readIndex : manifestString text "index_filename" = .ok indexName :=
    strings .indexFilename
  have readDenseVersion :
      manifestUnsigned text "dense_format_version" = .ok denseVersion.toNat :=
    numbers .denseFormatVersion
  have readFormat : manifestString text "expert_format" =
      .ok (ExpertFormatKind.spelling .swizzledW4a16) :=
    strings .expertFormat
  have readExpertVersion :
      manifestUnsigned text "expert_format_version" = .ok expertVersion.toNat :=
    numbers .expertFormatVersion
  have readSector : manifestUnsigned text "expert_sector_size" = .ok sector.toNat :=
    numbers .expertSectorSize
  have readPayload : manifestUnsigned text "expert_payload_bytes" = .ok payload.toNat :=
    numbers .expertPayloadBytes
  have readSize : manifestUnsigned text "dense_file_bytes" = .ok size.toNat :=
    numbers .denseFileBytes
  have readLayers : manifestUnsigned text "num_layers" = .ok layers.toNat :=
    numbers .numLayers
  have readPerLayer : manifestUnsigned text "experts_per_layer" = .ok perLayer.toNat :=
    numbers .expertsPerLayer
  simp only [loadFromJson, readVersion, readFamily, readArchitecture, readBackend,
    readDense, readExperts, readIndex, readDenseVersion, readFormat, known,
    readExpertVersion, readSector, readPayload, readSize, readLayers, readPerLayer, ok_bind,
    UInt32.ofNat_toNat, UInt64.ofNat_toNat, valid]

/-! ## Agreement -/

/-- What was scanned behind a field's own colon. -/
theorem scanned_at_own
    {text start : Bytes}
    {key : String}
    {Value : Type}
    {scan : Bytes → Except LoaderError Value}
    {value : Value}
    (own : manifestValueStart text key = .ok start)
    (scanned : manifestValueStart text key >>= scan = .ok value) :
    scan start = .ok value := by
  rwa [own, ok_bind] at scanned

section Agreement

variable {text : Bytes}
variable {root : JsonValue}
variable {manifest : ModelManifest}

theorem Scanned.string_faithful
    (scanned : Scanned text manifest)
    (holds : HoldsManifest text root)
    {field : TextField}
    (own : OwnColon text (.text field)) :
    ∃ offset literal,
      located text (.text field) = some (offset, literal) ∧
        manifestValueStart text field.key = .ok (text.drop offset) ∧
        memberOf root (.text field) = some (.string (manifest.textValue field)) := by
  obtain ⟨value, isMember⟩ := holds.strings field
  obtain ⟨offset, literal, place, stands⟩ := holds.located_stands isMember
  have start := (ownColon_iff place stands).mp own
  obtain ⟨after, -, -, tail⟩ := stands.tail
  have read := scanned_at_own start (scanned.strings field)
  rw [tail] at read
  refine ⟨offset, literal, place, start, ?_⟩
  rw [isMember, manifestStringAt_eq stands.isSource read]

theorem Scanned.number_faithful_iff
    (scanned : Scanned text manifest)
    (holds : HoldsManifest text root)
    {field : NumberField} :
    (∃ offset literal,
      located text (.number field) = some (offset, literal) ∧
        manifestValueStart text field.key = .ok (text.drop offset) ∧
        manifestUnsigned text field.key = .ok (manifest.numberValue field) ∧
        decimalValue literal = manifest.numberValue field) ↔
      OwnColon text (.number field) ∧ PlainNumber text field := by
  obtain ⟨value, isMember⟩ := holds.numbers field
  obtain ⟨offset, literal, place, stands⟩ := holds.located_stands isMember
  obtain ⟨after, -, ends, tail⟩ := stands.tail
  obtain ⟨read, readNumber, stored⟩ := scanned.numbers field
  rw [ownColon_iff place stands]
  constructor
  · rintro ⟨other, otherLiteral, otherPlace, start, unreduced, written⟩
    rw [place, Option.some.injEq, Prod.mk.injEq] at otherPlace
    obtain ⟨rfl, rfl⟩ := otherPlace
    rw [readNumber, Except.ok.injEq] at unreduced
    have digits := scanned_at_own start readNumber
    rw [tail] at digits
    obtain ⟨isDigits, -⟩ := manifestUnsignedAt_eq ends digits
    refine ⟨start, offset, literal, place, ?_, ?_⟩
    · rw [written, ← unreduced, isDigits]
    · rw [← isDigits, unreduced, stored]
      exact Nat.mod_lt _ (Nat.two_pow_pos field.width)
  · rintro ⟨start, other, otherLiteral, otherPlace, written, fits⟩
    rw [place, Option.some.injEq, Prod.mk.injEq] at otherPlace
    obtain ⟨rfl, rfl⟩ := otherPlace
    have digits := scanned_at_own start readNumber
    rw [tail] at digits
    obtain ⟨isDigits, -⟩ := manifestUnsignedAt_eq ends digits
    rw [← isDigits] at fits written
    have unreduced : manifest.numberValue field = read :=
      stored.trans (Nat.mod_eq_of_lt fits)
    exact ⟨offset, literal, place, start, unreduced ▸ readNumber, unreduced ▸ written⟩

/--
A manifest that is loaded is faithful to its document if and only if every search ends
at its own member's colon and every number is plain and fits.
-/
theorem faithful_iff_ownColon
    (holds : HoldsManifest text root)
    (loaded : loadFromJson text = .ok manifest) :
    Faithful text root manifest ↔
      (∀ field, OwnColon text field) ∧ ∀ field, PlainNumber text field := by
  have scanned := loadFromJson_ok loaded
  constructor
  · intro faithful
    have numbers := fun field => (scanned.number_faithful_iff holds).mp (faithful.numbers field)
    refine ⟨fun field => ?_, fun field => (numbers field).2⟩
    cases field with
    | number field => exact (numbers field).1
    | text field =>
      obtain ⟨value, isMember⟩ := holds.strings field
      obtain ⟨offset, literal, place, stands⟩ := holds.located_stands isMember
      obtain ⟨other, otherLiteral, otherPlace, start, -⟩ := faithful.strings field
      rw [place, Option.some.injEq, Prod.mk.injEq] at otherPlace
      obtain ⟨rfl, rfl⟩ := otherPlace
      exact (ownColon_iff place stands).mpr start
  · rintro ⟨own, plain⟩
    exact ⟨fun field => scanned.string_faithful holds (own (.text field)),
      fun field => (scanned.number_faithful_iff holds).mpr
        ⟨own (.number field), plain field⟩⟩

end Agreement

end Aeon.Manifest
